import Nipxi.Effect.Prog
import Mathlib.Logic.Function.Basic

/-!
# Programs on a part of the state

A program over a part of the state runs on the whole through a lens. Whatever it does, the rest
of the state stays as it was, so a fact about another part needs nothing about the program: this
is the frame rule `within_zoom_of_frame`.
-/

namespace Effect

universe u

variable {ε σ τ α : Type u}

/-- A part `τ` of the states `σ`. -/
structure Lens (σ τ : Type u) where
  get : σ → τ
  set : τ → σ → σ
  get_set : ∀ t s, get (set t s) = t
  set_get : ∀ s, set (get s) s = s
  set_set : ∀ t t' s, set t' (set t s) = set t' s

namespace Lens

/-- The value of a function at a point. -/
def index {ι : Type u} [DecidableEq ι] (i : ι) : Lens (ι → τ) τ where
  get f := f i
  set t f := Function.update f i t
  get_set t f := Function.update_self i t f
  set_get f := Function.update_eq_self i f
  set_set t t' f := Function.update_idem t t' f

/-- The whole state. -/
def whole : Lens σ σ where
  get s := s
  set t _ := t
  get_set _ _ := rfl
  set_get _ := rfl
  set_set _ _ _ := rfl

end Lens

/-- Running a program on a part of the state. -/
def Prog.zoom (l : Lens σ τ) (x : Prog ε τ α) : Prog ε σ α := fun s ↦
  match x (l.get s) with
  | .ok a t => .ok a (l.set t s)
  | .error e t => .error e (l.set t s)
  | .diverged => .diverged

@[simp] theorem post_zoom {l : Lens σ τ} {x : Prog ε τ α} {Q : α → σ → Prop} {E : ε → σ → Prop}
    {s : σ} :
    Post (x.zoom l) Q E s
      ↔ Post x (fun a t ↦ Q a (l.set t s)) (fun e t ↦ E e (l.set t s)) (l.get s) := by
  change (x.zoom l s).Sat Q E ↔ (x (l.get s)).Sat _ _
  unfold Prog.zoom
  cases x (l.get s) <;> rfl

/-- What a program respects on its part, it respects there on the whole. -/
theorem within_zoom {l : Lens σ τ} {x : Prog ε τ α} {R : τ → τ → Prop} (h : Within R x) :
    Within (fun s s' ↦ R (l.get s) (l.get s')) (x.zoom l) := by
  intro s
  have hset : ∀ t, R (l.get s) t → R (l.get s) (l.get (l.set t s)) := by
    intro t ht
    rw [l.get_set]
    exact ht
  exact post_zoom.mpr ((h (l.get s)).mono (fun _ t ↦ hset t) fun _ t ↦ hset t)

/-- **The frame rule.** Nothing outside its part changes. -/
theorem within_zoom_of_frame {l : Lens σ τ} {x : Prog ε τ α} {R : σ → σ → Prop}
    (h : ∀ t s, R s (l.set t s)) : Within R (x.zoom l) := fun s ↦
  post_zoom.mpr (.of_forall (fun _ t ↦ h t s) fun _ t ↦ h t s)

end Effect
