import Nipxi.Collections.Dict
import Nipxi.Transition.Lock
import Nipxi.Utils.Validators

/-!
# Claiming shared resources

`orchestration/arbiter.py`: any number of callers claim resources and release them in any order,
with handles they may have kept for as long as they like. A run is a history of such calls. The
arbiter's table is the table of who holds what by the history (`table_iff_held`), so what a claim is
answered, and what a release changes, can be read off the calls made before it.
-/

open Collections Transition

namespace Nipxi

/-! ## The arbiter -/

/-- `ResourceBusyError`, with its text. -/
structure ResourceBusyError where
  message : String
  deriving DecidableEq

/-- `ClaimHandle`. -/
structure ClaimHandle where
  resourceName : String
  owner : String
  deriving DecidableEq

/-- `InProcessArbiter`. -/
structure InProcessArbiter where
  /-- `_claims`: the owner of each claimed resource. -/
  claims : Dict String String

/-- The error of a claim of a resource with another owner. -/
def resourceBusy (resourceName currentOwner owner : String) : ResourceBusyError where
  message := "resource " ++ reprStr resourceName ++ " is already claimed by "
    ++ reprStr currentOwner ++ " (requested by " ++ reprStr owner ++ ")"

namespace InProcessArbiter

/-- `InProcessArbiter.__init__`. -/
def init : InProcessArbiter := ⟨.empty⟩

/-- `claim`. -/
def claim (a : InProcessArbiter) (resourceName owner : String) :
    Except ResourceBusyError ClaimHandle × InProcessArbiter :=
  let granted := (.ok ⟨resourceName, owner⟩, ⟨a.claims.insert resourceName owner⟩)
  match a.claims.get? resourceName with
  | none => granted
  | some currentOwner =>
    if currentOwner ≠ owner then (.error (resourceBusy resourceName currentOwner owner), a)
    else granted

/-- `del claims[resourceName]`. -/
def delete (claims : Dict String String) (resourceName : String) : Dict String String where
  items := claims.items.filter fun item ↦ item.1 ≠ resourceName
  nodup_keys := claims.nodup_keys.sublist (List.filter_sublist.map Prod.fst)

/-- `release`. -/
def release (a : InProcessArbiter) (handle : ClaimHandle) : InProcessArbiter :=
  if a.claims.get? handle.resourceName = some handle.owner then
    ⟨delete a.claims handle.resourceName⟩
  else a

/-- `is_claimed`. -/
def isClaimed (a : InProcessArbiter) (resourceName : String) : Bool :=
  (a.claims.get? resourceName).isSome

end InProcessArbiter

/-! ## Runs -/

/-- What a caller asks. -/
inductive ArbiterCall where
  | claim (resourceName owner : String)
  | release (handle : ClaimHandle)

/-- The event a call leaves in the history, and the arbiter after it. -/
def ArbiterCall.perform (a : InProcessArbiter) :
    ArbiterCall → LockEvent String String × InProcessArbiter
  | .claim resourceName owner =>
    match (a.claim resourceName owner).1 with
    | .ok _ => (.claim resourceName owner none, (a.claim resourceName owner).2)
    | .error _ => (.claim resourceName owner (a.claims.get? resourceName),
        (a.claim resourceName owner).2)
  | .release handle => (.release handle.resourceName handle.owner, a.release handle)

/-- Calls of any callers in any order. -/
def arbiterSystem : System InProcessArbiter (LockEvent String String) where
  init a := a = .init
  step a ev a' := ∃ call : ArbiterCall, call.perform a = (ev, a')

namespace InProcessArbiter

variable {a : InProcessArbiter}

/-! ## What a call does -/

theorem get?_delete (claims : Dict String String) (r r' : String) :
    (delete claims r).get? r' = if r' = r then none else claims.get? r' := by
  refine Option.ext fun o ↦ ?_
  rw [← Dict.mem_items_iff, delete, List.mem_filter, Dict.mem_items_iff]
  by_cases h : r' = r
  · rw [if_pos h]
    exact iff_of_false (fun hmem ↦ of_decide_eq_true hmem.2 h) (Option.some_ne_none o).symm
  · rw [if_neg h]
    exact and_iff_left (decide_eq_true h)

/-- A claim is refused for another owner, and granted otherwise. -/
theorem claim_cases (a : InProcessArbiter) (r o : String) :
    (∃ o', o' ≠ o ∧ a.claims.get? r = some o' ∧ a.claim r o = (.error (resourceBusy r o' o), a)) ∨
      ((∀ o', a.claims.get? r = some o' → o' = o) ∧
        a.claim r o = (.ok ⟨r, o⟩, ⟨a.claims.insert r o⟩)) := by
  unfold claim
  cases hget : a.claims.get? r with
  | none => exact .inr ⟨fun o' ho' ↦ absurd ho'.symm (Option.some_ne_none o'), rfl⟩
  | some current =>
    dsimp only
    by_cases h : current = o
    · refine .inr ⟨fun o' ho' ↦ ?_, if_neg (not_not_intro h)⟩
      rw [← Option.some.inj ho', h]
    · exact .inl ⟨current, h, rfl, if_pos h⟩

/-- The table after a release: the entry is gone, if it was the owner's own. -/
theorem get?_release (a : InProcessArbiter) (r o r' o' : String) :
    (a.release ⟨r, o⟩).claims.get? r' = some o' ↔
      a.claims.get? r' = some o' ∧ ¬(r' = r ∧ o' = o) := by
  unfold release
  dsimp only
  by_cases hown : a.claims.get? r = some o
  · rw [if_pos hown, get?_delete]
    by_cases hr : r' = r
    · rw [if_pos hr, hr, hown, Option.some_inj]
      refine iff_of_false (Option.some_ne_none o').symm fun h ↦ h.2 ⟨rfl, h.1.symm⟩
    · rw [if_neg hr]
      exact (and_iff_left fun h ↦ hr h.1).symm
  · rw [if_neg hown]
    refine (and_iff_left_of_imp fun hget h ↦ ?_).symm
    rw [h.1, h.2] at hget
    exact hown hget

/-! ## The table is the history's -/

/-- The table lists the holders of a history. -/
def Lists (a : InProcessArbiter) (evs : List (LockEvent String String)) : Prop :=
  ∀ r o, a.claims.get? r = some o ↔ Held r o evs

theorem lists_init : Lists .init [] := fun _ o ↦
  iff_of_false (Option.some_ne_none o).symm not_held_nil

theorem Lists.perform {evs : List (LockEvent String String)} (h : a.Lists evs)
    (call : ArbiterCall) :
    (call.perform a).2.Lists ((call.perform a).1 :: evs) ∧
      RightlyAnswered evs (call.perform a).1 := by
  cases call with
  | claim r o =>
    rcases claim_cases a r o with ⟨o', hne, hget, heq⟩ | ⟨hfree, heq⟩
    -- Refused: the history holds what it held.
    · have hperform : (ArbiterCall.claim r o).perform a = (.claim r o (some o'), a) := by
        rw [ArbiterCall.perform, heq, hget]
      rw [hperform]
      refine ⟨fun r' q ↦ ?_, hne, (h r o').mp hget⟩
      rw [h r' q, held_cons_iff]
      refine ⟨fun hheld ↦ .inr ⟨LockEvent.claim_ne_release, hheld⟩, ?_⟩
      rintro (heq' | ⟨-, hheld⟩)
      · cases (LockEvent.claim.inj heq').2.2
      · exact hheld
    -- Granted: the owner holds the key, and nobody else did.
    · have hperform : (ArbiterCall.claim r o).perform a =
          (.claim r o none, ⟨a.claims.insert r o⟩) := by
        rw [ArbiterCall.perform, heq]
      rw [hperform]
      refine ⟨fun r' q ↦ ?_, fun o' ho' ↦ hfree o' ((h r o').mpr ho')⟩
      dsimp only
      rw [held_cons_iff, ← h r' q, Dict.get?_insert]
      by_cases hr : r' = r
      · rw [if_pos hr, Option.some_inj, hr]
        constructor
        · rintro rfl
          exact .inl rfl
        · rintro (heq' | ⟨-, hget⟩)
          · exact (LockEvent.claim.inj heq').2.1
          · exact (hfree q hget).symm
      · rw [if_neg hr]
        refine ⟨fun hget ↦ .inr ⟨LockEvent.claim_ne_release, hget⟩, ?_⟩
        rintro (heq' | ⟨-, hget⟩)
        · exact absurd (LockEvent.claim.inj heq').1.symm hr
        · exact hget
  | release handle =>
    refine ⟨fun r' q ↦ ?_, trivial⟩
    change (a.release handle).claims.get? r' = some q ↔ _
    rw [get?_release, held_cons_iff, h r' q, and_comm]
    refine ⟨fun hheld ↦ .inr ⟨fun heq ↦ hheld.1 ?_, hheld.2⟩, ?_⟩
    · obtain ⟨hr, ho⟩ := LockEvent.release.inj heq
      exact ⟨hr.symm, ho.symm⟩
    · rintro (heq | ⟨hne, hheld⟩)
      · cases heq
      · refine ⟨fun heq ↦ hne ?_, hheld⟩
        rw [heq.1, heq.2]
        rfl

/-- By induction on the calls: the table lists the holders, and every claim was answered by who
held the resource then. -/
theorem table_iff_held {evs : List (LockEvent String String)} (h : Run arbiterSystem evs a) :
    a.Lists evs ∧ Exclusive evs := by
  refine h.induction (I := fun evs a ↦ a.Lists evs ∧ Exclusive evs) ?_ ?_
  · rintro s rfl
    exact ⟨lists_init, trivial⟩
  · rintro evs s ev s' - ⟨hlists, hexclusive⟩ ⟨call, hcall⟩
    obtain ⟨hnext, hanswered⟩ := hlists.perform call
    rw [hcall] at hnext hanswered
    exact ⟨hnext, hanswered, hexclusive⟩

/-- **The arbiter is an exclusive lock, over every history of claims and releases.** A resource has
at most one holder: the one whose claim was granted and who has not released it since. A claim by
another owner is refused in the holder's name and changes nothing; any other is granted. A release
by anyone but the holder changes nothing, and a resource is claimed exactly if it is held. -/
theorem exclusive_of_run {evs : List (LockEvent String String)} (h : Run arbiterSystem evs a) :
    (∀ r o o', Held r o evs → Held r o' evs → o = o') ∧
      (∀ r o o', Held r o' evs → o' ≠ o →
        a.claim r o = (.error (resourceBusy r o' o), a)) ∧
      (∀ r o, (∀ o', Held r o' evs → o' = o) → (a.claim r o).1 = .ok ⟨r, o⟩) ∧
      (∀ r o, ¬Held r o evs → a.release ⟨r, o⟩ = a) ∧
      ∀ r, a.isClaimed r = true ↔ ∃ o, Held r o evs := by
  obtain ⟨hlists, hexclusive⟩ := table_iff_held h
  refine ⟨fun r o o' ho ho' ↦ ho.unique hexclusive ho', fun r o o' ho' hne ↦ ?_,
    fun r o hfree ↦ ?_, fun r o hheld ↦ ?_, fun r ↦ ?_⟩
  · rcases claim_cases a r o with ⟨o'', -, hget, heq⟩ | ⟨hfree, -⟩
    · obtain rfl := ho'.unique hexclusive ((hlists r o'').mp hget)
      exact heq
    · exact absurd (hfree o' ((hlists r o').mpr ho')) hne
  · rcases claim_cases a r o with ⟨o', hne, hget, -⟩ | ⟨-, heq⟩
    · exact absurd (hfree o' ((hlists r o').mp hget)) hne
    · rw [heq]
  · exact if_neg fun hget ↦ hheld ((hlists r o).mp hget)
  · rw [isClaimed, Option.isSome_iff_exists]
    exact exists_congr fun o ↦ hlists r o

/-- Two groups at one relay matrix: the second is refused, and gets it once the first is done. -/
theorem exclusive_b1_b2 :
    (∃ evs a, Run arbiterSystem evs a ∧ Held "MATRIX_1" "B1" evs ∧
      a.claim "MATRIX_1" "B2" = (.error (resourceBusy "MATRIX_1" "B1" "B2"), a)) := by
  have hrun : Run arbiterSystem [.claim "MATRIX_1" "B1" none] (init.claim "MATRIX_1" "B1").2 :=
    .step (.init rfl) ⟨.claim "MATRIX_1" "B1", rfl⟩
  have hheld : Held "MATRIX_1" "B1" [.claim "MATRIX_1" "B1" none] :=
    ⟨[], [], rfl, List.not_mem_nil⟩
  exact ⟨_, _, hrun, hheld, (exclusive_of_run hrun).2.1 _ _ _ hheld (by decide)⟩

end InProcessArbiter

end Nipxi
