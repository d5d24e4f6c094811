import Nipxi.Transition.System

/-!
# Exclusive locks

A history of claims and releases of keys, newest first. A key is *held* by an owner whose claim was
granted and who has not released it since: this is a matter of the history alone, whatever table an
implementation keeps.

`Exclusive` says that a history grants a claim only while nobody else holds the key, and refuses one
only in the name of another holder. In such a history a key has at most one holder (`Held.unique`).
-/

namespace Transition

universe u v

variable {κ : Type u} {ο : Type v}

/-- A claim of a key with its answer, or a release. -/
inductive LockEvent (κ : Type u) (ο : Type v) where
  /-- Refused in the name of a holder, or granted. -/
  | claim (key : κ) (owner : ο) (refusedBy : Option ο)
  | release (key : κ) (owner : ο)

theorem LockEvent.claim_ne_release {k k' : κ} {o o' : ο} {refusedBy : Option ο} :
    LockEvent.claim k o refusedBy ≠ .release k' o' := by
  intro h
  cases h

/-- A claim of `k` by `o` was granted, and `o` has not released `k` since. -/
def Held (k : κ) (o : ο) (evs : List (LockEvent κ ο)) : Prop :=
  ∃ newer older, evs = newer ++ .claim k o none :: older ∧ .release k o ∉ newer

theorem not_held_nil {k : κ} {o : ο} : ¬Held k o [] := by
  rintro ⟨newer, older, h, -⟩
  exact List.append_ne_nil_of_right_ne_nil newer (List.cons_ne_nil _ older) h.symm

/-- The newest event grants the key to `o`, or it is no release of it and leaves it held. -/
theorem held_cons_iff {k : κ} {o : ο} {ev : LockEvent κ ο} {evs : List (LockEvent κ ο)} :
    Held k o (ev :: evs) ↔ ev = .claim k o none ∨ (ev ≠ .release k o ∧ Held k o evs) := by
  constructor
  · rintro ⟨newer, older, h, hreleased⟩
    cases newer with
    | nil => exact .inl (List.cons.inj h).1
    | cons x newer =>
      obtain ⟨rfl, rfl⟩ := List.cons.inj h
      rw [List.mem_cons, not_or] at hreleased
      exact .inr ⟨Ne.symm hreleased.1, newer, older, rfl, hreleased.2⟩
  · rintro (rfl | ⟨hev, newer, older, rfl, hreleased⟩)
    · exact ⟨[], evs, rfl, List.not_mem_nil⟩
    · refine ⟨ev :: newer, older, rfl, fun h ↦ ?_⟩
      rcases List.mem_cons.mp h with rfl | h
      · exact hev rfl
      · exact hreleased h

/-- A claim and its answer, after a history. -/
def RightlyAnswered (older : List (LockEvent κ ο)) : LockEvent κ ο → Prop
  | .claim k o none => ∀ o', Held k o' older → o' = o
  | .claim k o (some o') => o' ≠ o ∧ Held k o' older
  | .release _ _ => True

/-- Claims are granted and refused by who holds the key. -/
def Exclusive : List (LockEvent κ ο) → Prop
  | [] => True
  | ev :: older => RightlyAnswered older ev ∧ Exclusive older

/-- **Mutual exclusion.** A key has at most one holder. -/
theorem Held.unique {evs : List (LockEvent κ ο)} (h : Exclusive evs) {k : κ} {o o' : ο}
    (ho : Held k o evs) (ho' : Held k o' evs) : o = o' := by
  induction evs with
  | nil => exact absurd ho not_held_nil
  | cons ev older ih =>
    rw [held_cons_iff] at ho ho'
    rcases ho with rfl | ⟨-, ho⟩
    · rcases ho' with heq | ⟨-, ho'⟩
      · exact (LockEvent.claim.inj heq).2.1
      · exact (h.1 o' ho').symm
    · rcases ho' with rfl | ⟨-, ho'⟩
      · exact h.1 o ho
      · exact ih h.2 ho ho'

end Transition
