import Nipxi.Effect.Prog

/-!
# Programs with a log

A program that writes lines to a log besides what it does. `Projects x y` says that `x` does to the
rest of the state what `y` does: it ends the same way, with the same result. Two programs that
project to one and the same differ in nothing but their log.
-/

namespace Effect

universe u

variable {ε σ α β lam : Type u}

/-- A state with a log, newest line first. -/
structure Logged (lam σ : Type u) where
  inner : σ
  log : List lam

/-- The outcome with its state replaced by a function of it. -/
def Outcome.mapState {τ : Type u} (f : σ → τ) : Outcome ε σ α → Outcome ε τ α
  | .ok a s => .ok a (f s)
  | .error e s => .error e (f s)
  | .diverged => .diverged

namespace Prog

/-- Writing a line. -/
def writeLine (line : lam) : Prog ε (Logged lam σ) PUnit :=
  modify fun s ↦ ⟨s.inner, line :: s.log⟩

/-- A program that does not log. -/
def unlogged (y : Prog ε σ α) : Prog ε (Logged lam σ) α := fun s ↦
  (y s.inner).mapState fun t ↦ ⟨t, s.log⟩

end Prog

/-- Apart from its log, `x` does what `y` does. -/
def Projects (x : Prog ε (Logged lam σ) α) (y : Prog ε σ α) : Prop :=
  ∀ s, (x s).mapState Logged.inner = y s.inner

section Rules

theorem Projects.pure (a : α) :
    Projects (Pure.pure a : Prog ε (Logged lam σ) α) (Pure.pure a) := fun _ ↦ rfl

theorem Projects.raise (e : ε) :
    Projects (Prog.raise e : Prog ε (Logged lam σ) α) (Prog.raise e) := fun _ ↦ rfl

theorem Projects.unlogged (y : Prog ε σ α) :
    Projects (y.unlogged : Prog ε (Logged lam σ) α) y := by
  intro s
  unfold Prog.unlogged
  cases y s.inner <;> rfl

theorem Projects.bind {x : Prog ε (Logged lam σ) α} {y : Prog ε σ α}
    {f : α → Prog ε (Logged lam σ) β} {g : α → Prog ε σ β} (hx : Projects x y)
    (hf : ∀ a, Projects (f a) (g a)) : Projects (x >>= f) (y >>= g) := by
  intro s
  change (Prog.bind x f s).mapState _ = Prog.bind y g s.inner
  unfold Prog.bind
  rw [← hx s]
  cases x s with
  | ok a t => exact hf a t
  | error e t => rfl
  | diverged => rfl

theorem Projects.writeLine (line : lam) :
    Projects (Prog.writeLine line : Prog ε (Logged lam σ) PUnit) (Pure.pure ⟨⟩) := fun _ ↦ rfl

theorem Projects.ite {c : Prop} [Decidable c] {x x' : Prog ε (Logged lam σ) α} {y : Prog ε σ α}
    (hx : Projects x y) (hx' : Projects x' y) : Projects (if c then x else x') y := by
  split
  · exact hx
  · exact hx'

theorem Projects.skip {x : Prog ε (Logged lam σ) PUnit} {f : PUnit → Prog ε (Logged lam σ) β}
    {y : Prog ε σ β} (hx : Projects x (Pure.pure ⟨⟩)) (hf : Projects (f ⟨⟩) y) :
    Projects (x >>= f) y := by
  intro s
  have hs := hx s
  change (Prog.bind x f s).mapState _ = _
  unfold Prog.bind
  cases h : x s with
  | ok a t =>
    rw [h] at hs
    obtain ⟨-, ht⟩ := Outcome.ok.inj hs
    change (f ⟨⟩ t).mapState _ = _
    rw [hf t, ht]
  | error e t =>
    rw [h] at hs
    cases hs
  | diverged =>
    rw [h] at hs
    cases hs

theorem Projects.attempt {x : Prog ε (Logged lam σ) α} {y : Prog ε σ α} (hx : Projects x y) :
    Projects x.attempt y.attempt := by
  intro s
  unfold Prog.attempt
  rw [← hx s]
  cases x s <;> rfl

theorem Projects.handle {x : Prog ε (Logged lam σ) α} {y : Prog ε σ α}
    {f : ε → Prog ε (Logged lam σ) α} {g : ε → Prog ε σ α} (hx : Projects x y)
    (hf : ∀ e, Projects (f e) (g e)) : Projects (x.handle f) (y.handle g) := by
  intro s
  unfold Prog.handle
  rw [← hx s]
  cases x s with
  | ok a t => rfl
  | error e t => exact hf e t
  | diverged => rfl

/-- **The log apart, the end is the same.** -/
theorem Projects.exists_ok {x : Prog ε (Logged lam σ) α} {y : Prog ε σ α} (h : Projects x y)
    {s : Logged lam σ} {a : α} {u : σ} (hy : y s.inner = .ok a u) :
    ∃ t, x s = .ok a t ∧ t.inner = u := by
  have hs := h s
  rw [hy] at hs
  cases hx : x s with
  | ok b t =>
    rw [hx] at hs
    obtain ⟨rfl, ht⟩ := Outcome.ok.inj hs
    exact ⟨t, rfl, ht⟩
  | error e t =>
    rw [hx] at hs
    cases hs
  | diverged =>
    rw [hx] at hs
    cases hs

end Rules

end Effect
