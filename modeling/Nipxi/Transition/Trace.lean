import Mathlib.Data.List.Basic

/-!
# What a trace settles

Traces are lists of events, newest first. Some events open an obligation and some settle all that
are open; `Settled p q evs` says that none is open at the end of `evs`.
-/

namespace Transition

universe u

variable {ε : Type u} {p q : ε → Prop}

/-- After every event with `p` there is one with `q`. An event with `q` settles itself too. -/
def Settled (p q : ε → Prop) : List ε → Prop
  | [] => True
  | ev :: older => q ev ∨ (¬p ev ∧ Settled p q older)

instance [DecidablePred p] [DecidablePred q] : DecidablePred (Settled p q)
  | [] => isTrue trivial
  | ev :: older =>
    have : Decidable (Settled p q older) := instDecidablePredListSettled older
    inferInstanceAs (Decidable (q ev ∨ (¬p ev ∧ Settled p q older)))

theorem Settled.of_cons {ev : ε} {older : List ε} (h : q ev) : Settled p q (ev :: older) :=
  Or.inl h

theorem Settled.append {new old : List ε} (hnew : Settled p q new) (hold : Settled p q old) :
    Settled p q (new ++ old) := by
  induction new with
  | nil => exact hold
  | cons ev new ih =>
    rcases hnew with hq | ⟨hp, hrest⟩
    · exact Or.inl hq
    · exact Or.inr ⟨hp, ih hrest⟩

/-- Whatever was open before an event with `q` is settled, if nothing is opened after it. -/
theorem Settled.of_mem {new old : List ε} (hq : ∃ ev ∈ new, q ev) (hp : ∀ ev ∈ new, ¬p ev) :
    Settled p q (new ++ old) := by
  induction new with
  | nil =>
    obtain ⟨ev, hev, -⟩ := hq
    exact absurd hev List.not_mem_nil
  | cons ev new ih =>
    rw [List.forall_mem_cons] at hp
    obtain ⟨ev', hmem, hev'⟩ := hq
    rcases List.mem_cons.mp hmem with rfl | hmem
    · exact Or.inl hev'
    · exact Or.inr ⟨hp.1, ih ⟨ev', hmem, hev'⟩ hp.2⟩

theorem settled_of_forall_not {evs : List ε} (hp : ∀ ev ∈ evs, ¬p ev) : Settled p q evs := by
  induction evs with
  | nil => trivial
  | cons ev older ih =>
    rw [List.forall_mem_cons] at hp
    exact Or.inr ⟨hp.1, ih hp.2⟩

/-- What is settled without an event with `q` was never opened. -/
theorem Settled.forall_not_of_append {new old : List ε} (h : Settled p q (new ++ old))
    (hq : ∀ ev ∈ new, ¬q ev) : ∀ ev ∈ new, ¬p ev := by
  induction new with
  | nil => exact List.forall_mem_nil _
  | cons ev new ih =>
    rw [List.forall_mem_cons] at hq ⊢
    obtain ⟨hp, hrest⟩ := Or.resolve_left h hq.1
    exact ⟨hp, ih hrest hq.2⟩

/-- Before every event with `p` there is one with `q`. -/
def Preceded (p q : ε → Prop) : List ε → Prop
  | [] => True
  | ev :: older => (p ev → ∃ ev' ∈ older, q ev') ∧ Preceded p q older

/-- What comes later does not change what came before. -/
theorem Preceded.of_append {new old : List ε} (h : Preceded p q (new ++ old)) :
    Preceded p q old := by
  induction new with
  | nil => exact h
  | cons ev new ih => exact ih h.2

/-- After an event with `q`, anything may follow. -/
theorem Preceded.append {new old : List ε} (h : Preceded p q old) (hq : ∃ ev ∈ old, q ev) :
    Preceded p q (new ++ old) := by
  induction new with
  | nil => exact h
  | cons ev new ih =>
    obtain ⟨ev', hmem, hev'⟩ := hq
    exact ⟨fun _ ↦ ⟨ev', List.mem_append_right new hmem, hev'⟩, ih⟩

theorem preceded_of_forall_not {evs : List ε} (hp : ∀ ev ∈ evs, ¬p ev) : Preceded p q evs := by
  induction evs with
  | nil => trivial
  | cons ev older ih =>
    rw [List.forall_mem_cons] at hp
    exact ⟨fun h ↦ absurd h hp.1, ih hp.2⟩

/-- Where nothing settles, nothing may be opened. -/
theorem settled_iff_of_forall_not {evs : List ε} (h : ∀ ev ∈ evs, ¬q ev) :
    Settled p q evs ↔ ∀ ev ∈ evs, ¬p ev := by
  induction evs with
  | nil => exact ⟨fun _ ev hev ↦ absurd hev List.not_mem_nil, fun _ ↦ trivial⟩
  | cons ev older ih =>
    have hrest : ∀ ev' ∈ older, ¬q ev' := fun ev' hev' ↦ h ev' (List.mem_cons_of_mem ev hev')
    rw [List.forall_mem_cons, ← ih hrest]
    exact or_iff_right (h ev List.mem_cons_self)

end Transition
