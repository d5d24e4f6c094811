import Nipxi.Effect.Prog

/-!
# Programs that end

`Within R x` says nothing of a run that does not end. `Ends R x` says that every run of `x` ends,
by a result or an exception, in a state within reach of the first; it composes the same way.
-/

namespace Effect

universe u

variable {ε σ α β : Type u}

/-- The state in which a run returned or raised. -/
def Outcome.last : Outcome ε σ α → Option σ
  | .ok _ s | .error _ s => some s
  | .diverged => none

/-- Every run of `x` ends, within reach of where it began. -/
def Ends (R : σ → σ → Prop) (x : Prog ε σ α) : Prop := ∀ s, ∃ t, (x s).last = some t ∧ R s t

/-- What holds at either end of a run holds in its last state. -/
theorem of_post_of_last {x : Prog ε σ α} {P : σ → Prop} {s t : σ}
    (h : Post x (fun _ u ↦ P u) (fun _ u ↦ P u) s) (hlast : (x s).last = some t) : P t := by
  unfold Post at h
  cases hx : x s with
  | ok a u =>
    rw [hx] at h hlast
    rw [← Option.some.inj hlast]
    exact h
  | error e u =>
    rw [hx] at h hlast
    rw [← Option.some.inj hlast]
    exact h
  | diverged =>
    rw [hx] at hlast
    cases hlast

/-- A test of the result and the final state of a run that returned. -/
def Outcome.passes (p : α → σ → Bool) : Outcome ε σ α → Bool
  | .ok a s => p a s
  | .error _ _ | .diverged => false

theorem Outcome.exists_of_passes {o : Outcome ε σ α} {p : α → σ → Bool} (h : o.passes p = true) :
    ∃ a s, o = .ok a s ∧ p a s = true := by
  cases o with
  | ok a s => exact ⟨a, s, rfl, h⟩
  | error | diverged => exact absurd h nofun

/-- A run that ends and does not raise returns. -/
theorem Ends.exists_ok {R : σ → σ → Prop} {x : Prog ε σ α} {Q : α → σ → Prop} {s : σ}
    (hx : Ends R x) (h : Post x Q (fun _ _ ↦ False) s) : ∃ a t, x s = .ok a t ∧ Q a t := by
  obtain ⟨t, hlast, -⟩ := hx s
  unfold Post at h
  cases hxs : x s with
  | ok a u =>
    rw [hxs] at h
    exact ⟨a, u, rfl, h⟩
  | error e u =>
    rw [hxs] at h
    exact h.elim
  | diverged =>
    rw [hxs] at hlast
    cases hlast

/-- A run that ends and does not return raises. -/
theorem Ends.exists_error {R : σ → σ → Prop} {x : Prog ε σ α} {E : ε → σ → Prop} {s : σ}
    (hx : Ends R x) (h : Post x (fun _ _ ↦ False) E s) : ∃ e t, x s = .error e t ∧ E e t := by
  obtain ⟨t, hlast, -⟩ := hx s
  unfold Post at h
  cases hxs : x s with
  | ok a u =>
    rw [hxs] at h
    exact h.elim
  | error e u =>
    rw [hxs] at h
    exact ⟨e, u, rfl, h⟩
  | diverged =>
    rw [hxs] at hlast
    cases hlast

section Rules

variable {R : σ → σ → Prop}

theorem Ends.within {x : Prog ε σ α} (hx : Ends R x) : Within R x := by
  intro s
  obtain ⟨t, hlast, hst⟩ := hx s
  unfold Post
  cases h : x s with
  | ok a u =>
    rw [h] at hlast
    obtain rfl := Option.some.inj hlast
    exact hst
  | error e u =>
    rw [h] at hlast
    obtain rfl := Option.some.inj hlast
    exact hst
  | diverged => trivial

theorem Ends.modify {f : σ → σ} (h : ∀ s, R s (f s)) :
    Ends R (Prog.modify f : Prog ε σ PUnit) := fun s ↦ ⟨f s, rfl, h s⟩

theorem Ends.attempt {x : Prog ε σ α} (hx : Ends R x) : Ends R x.attempt := by
  intro s
  obtain ⟨t, hlast, hst⟩ := hx s
  refine ⟨t, ?_, hst⟩
  unfold Prog.attempt
  cases h : x s <;> rw [h] at hlast <;> exact hlast

theorem Ends.ite {c : Prop} [Decidable c] {x y : Prog ε σ α} (hx : Ends R x) (hy : Ends R y) :
    Ends R (if c then x else y) := by
  split
  · exact hx
  · exact hy

variable [IsPreorder σ R]

theorem Ends.pure (a : α) : Ends R (Pure.pure a : Prog ε σ α) := fun s ↦ ⟨s, rfl, refl_of R s⟩

theorem Ends.raise (e : ε) : Ends R (Prog.raise e : Prog ε σ α) := fun s ↦ ⟨s, rfl, refl_of R s⟩

theorem Ends.get : Ends R (Prog.get : Prog ε σ σ) := fun s ↦ ⟨s, rfl, refl_of R s⟩

theorem Ends.bind {x : Prog ε σ α} {f : α → Prog ε σ β} (hx : Ends R x)
    (hf : ∀ a, Ends R (f a)) : Ends R (x >>= f) := by
  intro s
  obtain ⟨t, hlast, hst⟩ := hx s
  change ∃ u, (Prog.bind x f s).last = some u ∧ R s u
  unfold Prog.bind
  cases h : x s with
  | ok a v =>
    rw [h] at hlast
    obtain rfl := Option.some.inj hlast
    obtain ⟨u, hu, hvu⟩ := hf a v
    exact ⟨u, hu, trans_of R hst hvu⟩
  | error e v =>
    rw [h] at hlast
    exact ⟨t, hlast, hst⟩
  | diverged =>
    rw [h] at hlast
    cases hlast

theorem Ends.handle {x : Prog ε σ α} {h : ε → Prog ε σ α} (hx : Ends R x)
    (hh : ∀ e, Ends R (h e)) : Ends R (x.handle h) := by
  intro s
  obtain ⟨t, hlast, hst⟩ := hx s
  unfold Prog.handle
  cases heq : x s with
  | ok a v =>
    rw [heq] at hlast
    exact ⟨t, hlast, hst⟩
  | error e v =>
    rw [heq] at hlast
    obtain rfl := Option.some.inj hlast
    obtain ⟨u, hu, hvu⟩ := hh e v
    exact ⟨u, hu, trans_of R hst hvu⟩
  | diverged =>
    rw [heq] at hlast
    cases hlast

theorem Ends.ensuring {x : Prog ε σ α} {fin : Prog ε σ PUnit} (hx : Ends R x)
    (hfin : Ends R fin) : Ends R (x.ensuring fin) := by
  intro s
  obtain ⟨t, hlast, hst⟩ := hx s
  unfold Prog.ensuring
  cases h : x s with
  | ok a v =>
    rw [h] at hlast
    obtain rfl := Option.some.inj hlast
    obtain ⟨u, hu, hvu⟩ := (hfin.bind fun _ ↦ .pure a : Ends R (fin >>= fun _ ↦ Pure.pure a)) v
    exact ⟨u, hu, trans_of R hst hvu⟩
  | error e v =>
    rw [h] at hlast
    obtain rfl := Option.some.inj hlast
    obtain ⟨u, hu, hvu⟩ := (hfin.bind fun _ ↦ .raise e :
      Ends R (fin >>= fun _ ↦ (Prog.raise e : Prog ε σ α))) v
    exact ⟨u, hu, trans_of R hst hvu⟩
  | diverged =>
    rw [h] at hlast
    cases hlast

end Rules

end Effect
