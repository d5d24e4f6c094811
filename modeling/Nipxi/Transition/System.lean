import Mathlib.Data.List.Basic

/-!
# Labelled transition systems and their runs

A system is a set of initial states and a labelled step relation. A run is the list of labels
taken so far, newest first, together with the state reached; keeping the labels makes it
possible to say what happened since some event, which a set of reachable states cannot.

`Run.induction` is the one induction: a property of the labels and the state that holds at the
start and is kept by every step holds at the end of every run. `Run.keeps` is the special case
of a property of the state alone. `FollowedBy` is a property of the labels alone: that each of one
kind is answered by a later one of another.
-/

namespace Transition

universe u v

/-- A labelled transition system. -/
structure System (σ : Type u) (ε : Type v) where
  /-- Where a run may begin. -/
  init : σ → Prop
  /-- Which state may follow under which label. -/
  step : σ → ε → σ → Prop

variable {σ : Type u} {ε : Type v}

/-- The same system with only the steps that satisfy `P`. -/
def System.restrict (S : System σ ε) (P : σ → ε → Prop) : System σ ε :=
  ⟨S.init, fun s e s' ↦ S.step s e s' ∧ P s e⟩

/-- `Run S evs s`: the system can reach `s` by the steps labelled `evs`, newest first. -/
inductive Run (S : System σ ε) : List ε → σ → Prop
  | init {s : σ} : S.init s → Run S [] s
  | step {evs : List ε} {s s' : σ} {e : ε} : Run S evs s → S.step s e s' → Run S (e :: evs) s'

variable {S : System σ ε}

/-- **Induction over runs.** What holds at the start and is kept by every step of a run holds
at its end. The step may use that its source state is itself the end of a run. -/
theorem Run.induction {I : List ε → σ → Prop} (hinit : ∀ s, S.init s → I [] s)
    (hstep : ∀ evs s e s', Run S evs s → I evs s → S.step s e s' → I (e :: evs) s')
    {evs : List ε} {s : σ} (h : Run S evs s) : I evs s := by
  induction h with
  | init h => exact hinit _ h
  | step hrun hs ih => exact hstep _ _ _ _ hrun ih hs

/-- A state property that holds initially and is kept by every step holds in every state
reached. -/
theorem Run.keeps {I : σ → Prop} (hinit : ∀ s, S.init s → I s)
    (hstep : ∀ s e s', I s → S.step s e s' → I s') {evs : List ε} {s : σ} (h : Run S evs s) :
    I s :=
  h.induction (I := fun _ s ↦ I s) hinit fun _ _ _ _ _ hI hs ↦ hstep _ _ _ hI hs

/-! ## Events and what follows them -/

/-- Every event with `A` is followed by one with `B`, in events listed newest first. -/
def FollowedBy (A B : ε → Prop) (evs : List ε) : Prop :=
  ∀ newer ev older, evs = newer ++ ev :: older → A ev → ∃ ev' ∈ newer, B ev'

variable {A B : ε → Prop}

theorem followedBy_nil : FollowedBy A B [] := by
  intro newer ev older hevs
  exact absurd hevs (List.append_ne_nil_of_right_ne_nil newer (List.cons_ne_nil ev older)).symm

/-- The newest event is followed by none, and follows all others. -/
theorem followedBy_cons_iff {ev : ε} {evs : List ε} :
    FollowedBy A B (ev :: evs) ↔ ¬A ev ∧ (B ev ∨ FollowedBy A B evs) := by
  constructor
  · intro h
    refine ⟨fun hev ↦ ?_, ?_⟩
    · obtain ⟨ev', hmem, -⟩ := h [] ev evs rfl hev
      exact absurd hmem List.not_mem_nil
    · by_cases hev : B ev
      · exact Or.inl hev
      · refine Or.inr fun newer old older hevs hold ↦ ?_
        obtain ⟨ev', hmem, hev'⟩ := h (ev :: newer) old older (congrArg _ hevs) hold
        rcases List.mem_cons.mp hmem with rfl | hmem
        · exact absurd hev' hev
        · exact ⟨ev', hmem, hev'⟩
  · rintro ⟨hev, hrest⟩ newer old older hevs hold
    cases newer with
    | nil =>
      obtain ⟨rfl, -⟩ := List.cons.inj hevs
      exact absurd hold hev
    | cons x newer =>
      obtain ⟨rfl, htail⟩ := List.cons.inj hevs
      rcases hrest with hev | hrest
      · exact ⟨ev, List.mem_cons_self, hev⟩
      · obtain ⟨ev', hmem, hev'⟩ := hrest newer old older htail hold
        exact ⟨ev', List.mem_cons_of_mem ev hmem, hev'⟩

end Transition
