import Mathlib.Logic.Basic
import Mathlib.Order.Defs.Unbundled

/-!
# Imperative programs with exceptions

A program reads and writes a state and ends in one of three ways: it returns, it raises, or it
does not end. State changes survive an exception, as they do in the languages these programs are
translated from, and `finally` lets an exception of the finalizer replace the one in flight.

## Postconditions

`Post x Q E s` says what holds after running `x` from `s`: `Q` of the result and the final state
if it returns, `E` of the exception and the final state if it raises. Each constructor has one
equation for `Post`, tagged `@[simp]`, so that a postcondition is pushed through a program text
by rewriting, and `Post.mono` is the rule of consequence. `Within R x` is the special case of a
preorder between the states before and after, however `x` ends: it composes without any
knowledge of results.
-/

namespace Effect

universe u

variable {ε σ α β : Type u}

/-! ## Programs -/

/-- How a run ends. -/
inductive Outcome (ε σ α : Type u) : Type u
  | ok (a : α) (s : σ)
  | error (e : ε) (s : σ)
  | diverged

/-- A program over states `σ` with exceptions `ε`. -/
def Prog (ε σ α : Type u) : Type u := σ → Outcome ε σ α

namespace Prog

/-- Returning a value. -/
protected def pure (a : α) : Prog ε σ α := fun s ↦ .ok a s

/-- Sequencing; an exception skips the rest. -/
protected def bind (x : Prog ε σ α) (f : α → Prog ε σ β) : Prog ε σ β := fun s ↦
  match x s with
  | .ok a t => f a t
  | .error e t => .error e t
  | .diverged => .diverged

instance : Monad (Prog ε σ) where
  pure := Prog.pure
  bind := Prog.bind

/-- Raising an exception. -/
def raise (e : ε) : Prog ε σ α := fun s ↦ .error e s

/-- The current state. -/
def get : Prog ε σ σ := fun s ↦ .ok s s

/-- Replacing the state by a function of it. -/
def modify (f : σ → σ) : Prog ε σ PUnit := fun s ↦ .ok ⟨⟩ (f s)

/-- Asking for a value that may also change the state. -/
def query (f : σ → α × σ) : Prog ε σ α := fun s ↦ .ok (f s).1 (f s).2

/-- `try x except e: h e`. The handler sees the state in which `x` raised. -/
def handle (x : Prog ε σ α) (h : ε → Prog ε σ α) : Prog ε σ α := fun s ↦
  match x s with
  | .ok a t => .ok a t
  | .error e t => h e t
  | .diverged => .diverged

/-- `try x finally fin`. An exception of the finalizer replaces the outcome of `x`. -/
def ensuring (x : Prog ε σ α) (fin : Prog ε σ PUnit) : Prog ε σ α := fun s ↦
  match x s with
  | .ok a t => (fin.bind fun _ ↦ Prog.pure a) t
  | .error e t => (fin.bind fun _ ↦ raise e) t
  | .diverged => .diverged

/-- Running a program and returning how it ended, so that the caller decides. -/
def attempt (x : Prog ε σ α) : Prog ε σ (Except ε α) := fun s ↦
  match x s with
  | .ok a t => .ok (.ok a) t
  | .error e t => .ok (.error e) t
  | .diverged => .diverged

end Prog

/-- The final state of a run that returned. -/
def Outcome.final : Outcome ε σ α → Option σ
  | .ok _ s => some s
  | .error _ _ | .diverged => none

theorem Outcome.eq_ok_of_final {o : Outcome ε σ α} {s : σ} (h : o.final = some s) :
    ∃ a, o = .ok a s := by
  cases o with
  | ok a t =>
    obtain rfl := Option.some.inj h
    exact ⟨a, rfl⟩
  | error | diverged => exact absurd h nofun

theorem Outcome.exists_of_final {γ : Type*} {o : Outcome ε σ α} {f : σ → γ} {c : γ}
    (h : o.final.map f = some c) : ∃ a s, o = .ok a s ∧ f s = c := by
  cases o with
  | ok a s => exact ⟨a, s, rfl, Option.some.inj h⟩
  | error | diverged => exact absurd h nofun

/-- The final state of a run that raised. -/
def Outcome.thrown : Outcome ε σ α → Option σ
  | .error _ s => some s
  | .ok _ _ | .diverged => none

theorem Outcome.exists_of_thrown {γ : Type*} {o : Outcome ε σ α} {f : σ → γ} {c : γ}
    (h : o.thrown.map f = some c) : ∃ e s, o = .error e s ∧ f s = c := by
  cases o with
  | error e s => exact ⟨e, s, rfl, Option.some.inj h⟩
  | ok | diverged => exact absurd h nofun

/-- The exception of a run that raised. -/
def Outcome.exception : Outcome ε σ α → Option ε
  | .error e _ => some e
  | .ok _ _ | .diverged => none

theorem Outcome.exists_of_exception {o : Outcome ε σ α} {e : ε} (h : o.exception = some e) :
    ∃ s, o = .error e s := by
  cases o with
  | error e' s =>
    obtain rfl := Option.some.inj h
    exact ⟨s, rfl⟩
  | ok | diverged => exact absurd h nofun

/-- A sequence that returns is one part returning after the other. -/
theorem exists_of_bind_eq_ok {x : Prog ε σ α} {f : α → Prog ε σ β} {s u : σ} {b : β}
    (h : (x >>= f) s = .ok b u) : ∃ a t, x s = .ok a t ∧ f a t = .ok b u := by
  change Prog.bind x f s = .ok b u at h
  unfold Prog.bind at h
  cases hx : x s with
  | ok a t =>
    rw [hx] at h
    exact ⟨a, t, rfl, h⟩
  | error | diverged =>
    rw [hx] at h
    exact absurd h nofun

/-- An attempt that returns is a run that returned or raised. -/
theorem exists_of_attempt_eq_ok {x : Prog ε σ α} {s t : σ} {r : Except ε α}
    (h : x.attempt s = .ok r t) : (∃ a, x s = .ok a t) ∨ ∃ e, x s = .error e t := by
  unfold Prog.attempt at h
  cases hx : x s with
  | ok a u =>
    rw [hx] at h
    exact Or.inl ⟨a, by rw [(Outcome.ok.inj h).2]⟩
  | error e u =>
    rw [hx] at h
    exact Or.inr ⟨e, by rw [(Outcome.ok.inj h).2]⟩
  | diverged =>
    rw [hx] at h
    exact absurd h nofun

/-! ## Postconditions -/

/-- What holds at the end of a run. -/
def Outcome.Sat (Q : α → σ → Prop) (E : ε → σ → Prop) : Outcome ε σ α → Prop
  | .ok a s => Q a s
  | .error e s => E e s
  | .diverged => True

/-- What holds after running `x` from `s`. -/
def Post (x : Prog ε σ α) (Q : α → σ → Prop) (E : ε → σ → Prop) (s : σ) : Prop :=
  (x s).Sat Q E

section Rules

variable {x : Prog ε σ α} {Q Q' : α → σ → Prop} {E E' : ε → σ → Prop} {s : σ}

theorem post_of_ok {a : α} {t : σ} (h : x s = .ok a t) : Post x Q E s ↔ Q a t := by
  rw [Post, h, Outcome.Sat]

theorem post_of_error {e : ε} {t : σ} (h : x s = .error e t) : Post x Q E s ↔ E e t := by
  rw [Post, h, Outcome.Sat]

@[simp] theorem post_pure (a : α) : Post (pure a : Prog ε σ α) Q E s ↔ Q a s := Iff.rfl

@[simp] theorem post_bind {R : β → σ → Prop} (f : α → Prog ε σ β) :
    Post (x >>= f) R E s ↔ Post x (fun a t ↦ Post (f a) R E t) E s := by
  change (Prog.bind x f s).Sat R E ↔ (x s).Sat _ E
  unfold Prog.bind
  cases x s <;> rfl

@[simp] theorem post_raise (e : ε) : Post (Prog.raise e : Prog ε σ α) Q E s ↔ E e s := Iff.rfl

@[simp] theorem post_get {Q : σ → σ → Prop} : Post (Prog.get : Prog ε σ σ) Q E s ↔ Q s s :=
  Iff.rfl

@[simp] theorem post_modify {Q : PUnit → σ → Prop} (f : σ → σ) :
    Post (Prog.modify f : Prog ε σ PUnit) Q E s ↔ Q ⟨⟩ (f s) := Iff.rfl

@[simp] theorem post_query (f : σ → α × σ) :
    Post (Prog.query f : Prog ε σ α) Q E s ↔ Q (f s).1 (f s).2 := Iff.rfl

@[simp] theorem post_handle (h : ε → Prog ε σ α) :
    Post (x.handle h) Q E s ↔ Post x Q (fun e t ↦ Post (h e) Q E t) s := by
  change (x.handle h s).Sat Q E ↔ (x s).Sat Q _
  unfold Prog.handle
  cases x s <;> rfl

@[simp] theorem post_attempt {Q : Except ε α → σ → Prop} :
    Post x.attempt Q E s ↔ Post x (fun a t ↦ Q (.ok a) t) (fun e t ↦ Q (.error e) t) s := by
  change (x.attempt s).Sat Q E ↔ (x s).Sat _ _
  unfold Prog.attempt
  cases x s <;> rfl

@[simp] theorem post_ensuring (fin : Prog ε σ PUnit) :
    Post (x.ensuring fin) Q E s
      ↔ Post x (fun a t ↦ Post fin (fun _ u ↦ Q a u) E t)
          (fun e t ↦ Post fin (fun _ u ↦ E e u) E t) s := by
  change (x.ensuring fin s).Sat Q E ↔ (x s).Sat _ _
  unfold Prog.ensuring
  cases hx : x s with
  | ok a t =>
    dsimp only [Outcome.Sat]
    exact post_bind fun _ ↦ (pure a : Prog ε σ α)
  | error e t =>
    dsimp only [Outcome.Sat]
    exact post_bind fun _ ↦ (Prog.raise e : Prog ε σ α)
  | diverged => rfl

@[simp] theorem post_ite {c : Prop} [Decidable c] {y : Prog ε σ α} :
    Post (if c then x else y) Q E s ↔ if c then Post x Q E s else Post y Q E s := by
  split <;> rfl

/-- **The rule of consequence.** -/
theorem Post.mono (h : Post x Q E s) (hQ : ∀ a t, Q a t → Q' a t) (hE : ∀ e t, E e t → E' e t) :
    Post x Q' E' s := by
  unfold Post at *
  cases hx : x s with
  | ok a t =>
    rw [hx] at h
    exact hQ a t h
  | error e t =>
    rw [hx] at h
    exact hE e t h
  | diverged => trivial

/-- **The rule of sequencing**, for a part whose exceptions are those of the whole. -/
theorem Post.bind {R : β → σ → Prop} {f : α → Prog ε σ β} (h : Post x Q E s)
    (hf : ∀ a t, Q a t → Post (f a) R E t) : Post (x >>= f) R E s :=
  (post_bind f).mpr (h.mono hf fun _ _ he ↦ he)

/-- Two facts about one run hold together. -/
theorem Post.and (h : Post x Q E s) (h' : Post x Q' E' s) :
    Post x (fun a t ↦ Q a t ∧ Q' a t) (fun e t ↦ E e t ∧ E' e t) s := by
  unfold Post at *
  cases hx : x s with
  | ok a t =>
    rw [hx] at h h'
    exact ⟨h, h'⟩
  | error e t =>
    rw [hx] at h h'
    exact ⟨h, h'⟩
  | diverged => trivial

/-- Postconditions that agree wherever a run can end hold after it together. -/
theorem Post.congr (h : Post x (fun a t ↦ Q a t ↔ Q' a t) (fun e t ↦ E e t ↔ E' e t) s) :
    Post x Q E s ↔ Post x Q' E' s := by
  unfold Post at *
  cases hx : x s with
  | ok a t =>
    rw [hx] at h
    exact h
  | error e t =>
    rw [hx] at h
    exact h
  | diverged => rfl

/-- A run that raised is not one that never raises. -/
theorem not_post_of_thrown (h : ((x s).thrown.map fun _ ↦ ()) = some ()) :
    ¬Post x Q (fun _ _ ↦ False) s := by
  obtain ⟨e, t, hx, -⟩ := Outcome.exists_of_thrown h
  rw [post_of_error hx]
  exact id

/-- A run that returned to a state without `P`. -/
theorem not_post_of_final {P : σ → Prop} [DecidablePred P]
    (h : ((x s).final.map fun t ↦ decide (P t)) = some false) : ¬Post x (fun _ t ↦ P t) E s := by
  obtain ⟨a, t, hx, hP⟩ := Outcome.exists_of_final h
  rw [post_of_ok hx]
  exact of_decide_eq_false hP

/-- What always holds, holds after a run. -/
theorem Post.of_forall (hQ : ∀ a t, Q a t) (hE : ∀ e t, E e t) : Post x Q E s := by
  unfold Post
  cases x s with
  | ok a t => exact hQ a t
  | error e t => exact hE e t
  | diverged => trivial

end Rules

/-! ## Which exceptions are raised -/

/-- Every exception `x` raises satisfies `C`. -/
def Raises (C : ε → Prop) (x : Prog ε σ α) : Prop :=
  ∀ s, Post x (fun _ _ ↦ True) (fun e _ ↦ C e) s

section Raises

variable {C D : ε → Prop}

theorem Raises.pure (a : α) : Raises C (Pure.pure a : Prog ε σ α) := fun _ ↦ trivial

theorem Raises.get : Raises C (Prog.get : Prog ε σ σ) := fun _ ↦ trivial

theorem Raises.modify (f : σ → σ) : Raises C (Prog.modify f : Prog ε σ PUnit) := fun _ ↦ trivial

theorem Raises.query (f : σ → α × σ) : Raises C (Prog.query f : Prog ε σ α) := fun _ ↦ trivial

theorem Raises.raise {e : ε} (h : C e) : Raises C (Prog.raise e : Prog ε σ α) := fun _ ↦ h

theorem Raises.bind {x : Prog ε σ α} {f : α → Prog ε σ β} (hx : Raises C x)
    (hf : ∀ a, Raises C (f a)) : Raises C (x >>= f) := fun s ↦
  (post_bind f).mpr ((hx s).mono (fun a t _ ↦ hf a t) fun _ _ h ↦ h)

theorem Raises.handle {x : Prog ε σ α} {h : ε → Prog ε σ α} (hx : Raises D x)
    (hh : ∀ e, D e → Raises C (h e)) : Raises C (x.handle h) := fun s ↦
  (post_handle h).mpr ((hx s).mono (fun _ _ _ ↦ trivial) fun e t he ↦ hh e he t)

theorem Raises.attempt (x : Prog ε σ α) : Raises C x.attempt := fun _ ↦
  post_attempt.mpr (.of_forall (fun _ _ ↦ trivial) fun _ _ ↦ trivial)

theorem Raises.ite {c : Prop} [Decidable c] {x y : Prog ε σ α} (hx : Raises C x)
    (hy : Raises C y) : Raises C (if c then x else y) := by
  split
  · exact hx
  · exact hy

end Raises

/-! ## Staying within a preorder -/

/-- However `x` ends, the final state is related to the initial one. -/
def Within (R : σ → σ → Prop) (x : Prog ε σ α) : Prop :=
  ∀ s, Post x (fun _ t ↦ R s t) (fun _ t ↦ R s t) s

section Within

variable {R : σ → σ → Prop}

theorem Within.modify {f : σ → σ} (h : ∀ s, R s (f s)) :
    Within R (Prog.modify f : Prog ε σ PUnit) := h

theorem Within.query {f : σ → α × σ} (h : ∀ s, R s (f s).2) :
    Within R (Prog.query f : Prog ε σ α) := h

theorem Within.attempt {x : Prog ε σ α} (hx : Within R x) : Within R x.attempt :=
  fun s ↦ post_attempt.mpr (hx s)

theorem Within.ite {c : Prop} [Decidable c] {x y : Prog ε σ α} (hx : Within R x)
    (hy : Within R y) : Within R (if c then x else y) := by
  split
  · exact hx
  · exact hy

theorem Within.mono {R' : σ → σ → Prop} {x : Prog ε σ α} (hx : Within R x)
    (h : ∀ s t, R s t → R' s t) : Within R' x := fun s ↦
  (hx s).mono (fun _ t ↦ h s t) fun _ t ↦ h s t

variable [IsPreorder σ R]

theorem Within.pure (a : α) : Within R (Pure.pure a : Prog ε σ α) := fun s ↦ refl_of R s

theorem Within.raise (e : ε) : Within R (Prog.raise e : Prog ε σ α) := fun s ↦ refl_of R s

theorem Within.get : Within R (Prog.get : Prog ε σ σ) := fun s ↦ refl_of R s

/-- A run from a state within reach of `s` ends within reach of `s`. -/
theorem Within.after {x : Prog ε σ α} (hx : Within R x) {s t : σ} (hst : R s t) :
    Post x (fun _ u ↦ R s u) (fun _ u ↦ R s u) t :=
  (hx t).mono (fun _ _ h ↦ trans_of R hst h) fun _ _ h ↦ trans_of R hst h

theorem Within.bind {x : Prog ε σ α} {f : α → Prog ε σ β} (hx : Within R x)
    (hf : ∀ a, Within R (f a)) : Within R (x >>= f) := fun s ↦
  (post_bind f).mpr ((hx s).mono (fun a _ h ↦ (hf a).after h) fun _ _ h ↦ h)

theorem Within.handle {x : Prog ε σ α} {h : ε → Prog ε σ α} (hx : Within R x)
    (hh : ∀ e, Within R (h e)) : Within R (x.handle h) := fun s ↦
  (post_handle h).mpr ((hx s).mono (fun _ _ hr ↦ hr) fun e _ hr ↦ (hh e).after hr)

theorem Within.ensuring {x : Prog ε σ α} {fin : Prog ε σ PUnit} (hx : Within R x)
    (hfin : Within R fin) : Within R (x.ensuring fin) := fun s ↦
  (post_ensuring fin).mpr ((hx s).mono (fun _ _ hr ↦ hfin.after hr) fun _ _ hr ↦ hfin.after hr)

end Within

instance isPreorder_true : IsPreorder σ fun _ _ ↦ True where
  refl _ := trivial
  trans _ _ _ _ _ := trivial

/-- Nothing is asked. -/
theorem within_true (x : Prog ε σ α) : Within (fun _ _ ↦ True) x := fun _ ↦
  .of_forall (fun _ _ ↦ trivial) fun _ _ ↦ trivial

/-- `I` survives from the first state to the second. -/
def Kept (I : σ → Prop) (s t : σ) : Prop := I s → I t

instance (I : σ → Prop) : IsPreorder σ (Kept I) where
  refl _ := id
  trans _ _ _ h h' := h' ∘ h

/-- Keeping a property however the run ends. -/
theorem within_kept_iff {I : σ → Prop} {x : Prog ε σ α} :
    Within (Kept I) x ↔ ∀ s, I s → Post x (fun _ t ↦ I t) (fun _ t ↦ I t) s := by
  refine ⟨fun h s hs ↦ (h s).mono (fun _ _ hk ↦ hk hs) fun _ _ hk ↦ hk hs, fun h s ↦ ?_⟩
  by_cases hs : I s
  · exact (h s hs).mono (fun _ _ ht _ ↦ ht) fun _ _ ht _ ↦ ht
  · exact .of_forall (fun _ _ h ↦ absurd h hs) fun _ _ h ↦ absurd h hs

end Effect
