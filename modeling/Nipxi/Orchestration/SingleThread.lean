import Mathlib.Data.List.Chain
import Nipxi.Effect.Ending
import Nipxi.Orchestration.Supervisor

/-!
# The sequential supervisor in one thread

`SequentialSupervisor` as its docstring announces it: `start` runs in the caller's thread, and
nobody but `run_group` calls `stop`. There a transition is one step, an exception of `run_group`
counts as no success, and what a run leaves behind is known from what the calls of `run_group` did
(`StartLaw`): the completed groups are the longest prefix of calls that succeeded without a stop,
and the call behind it decides between `FAILED`, `ABORTED` and `IDLE`.

The invariant carried from group to group is `Between`: before each of them the lifecycle is `IDLE`,
no stop was requested, and all groups so far are completed.
-/

open Effect

namespace Nipxi

/-! ## The calls of `run_group` -/

/-- How a call of `run_group` ends. -/
inductive GroupEnd where
  | truthy
  | falsy
  | raises
  deriving DecidableEq, Repr

/-- What a call of `run_group` does. -/
structure GroupCall where
  /-- How often it calls `stop`. -/
  stops : ℕ
  ended : GroupEnd
  deriving DecidableEq, Repr

/-- Returned truthy without a stop. -/
def GroupCall.Succeeds (r : GroupCall) : Prop := r.stops = 0 ∧ r.ended = .truthy

/-- Returned falsy or raised without a stop. -/
def GroupCall.FailsAlone (r : GroupCall) : Prop := r.stops = 0 ∧ r.ended ≠ .truthy

instance (r : GroupCall) : Decidable r.Succeeds := inferInstanceAs (Decidable (_ ∧ _))

instance (r : GroupCall) : Decidable r.FailsAlone := inferInstanceAs (Decidable (_ ∧ _))

/-- An exception in the thread of `start`. -/
inductive SupervisorExc where
  /-- `InvalidWorkerTransitionError`. -/
  | invalidTransition (current next : WorkerState)
  /-- Whatever `run_group` raises. -/
  | runGroup
  deriving DecidableEq, Repr

/-! ## The supervisor -/

/-- A `SequentialSupervisor` with the groups `run_group` was called with. -/
structure SoloState where
  lifecycle : WorkerLifecycle
  currentGroup : Option String
  completedGroups : List String
  failedGroup : Option String
  stopRequested : Bool
  started : List String

/-- A supervisor as constructed. -/
def SoloState.initial : SoloState := ⟨⟨.IDLE, []⟩, none, [], none, false, []⟩

/-- The supervisor after a transition. -/
def SoloState.moveTo (s : SoloState) (next : WorkerState) : SoloState :=
  { s with lifecycle := ⟨next, s.lifecycle.history ++ [s.lifecycle.state]⟩ }

/-- Programs of the supervisor. -/
abbrev SupervisorProg (α : Type) := Prog SupervisorExc SoloState α

/-- `WorkerLifecycle.transition_to`. -/
def transitionTo (next : WorkerState) : SupervisorProg PUnit := do
  let s ← Prog.get
  if isValidTransition s.lifecycle.state next then
    Prog.modify (·.moveTo next)
  else
    Prog.raise (.invalidTransition s.lifecycle.state next)

namespace SequentialSupervisor

/-- `stop`. -/
def stop : SupervisorProg PUnit := do
  Prog.modify fun s ↦ { s with stopRequested := true }
  let s ← Prog.get
  if s.lifecycle.state = .RUNNING then transitionTo .ABORTED else pure ⟨⟩

/-- So many calls of `stop`, one after the other. -/
def stopAgain : ℕ → SupervisorProg PUnit
  | 0 => pure ⟨⟩
  | n + 1 => do
    stop
    stopAgain n

/-- The end of a call. -/
def endGroup : GroupEnd → SupervisorProg Bool
  | .truthy => pure true
  | .falsy => pure false
  | .raises => Prog.raise .runGroup

/-- `_run_group`, whose calls are numbered. -/
def runGroup (calls : ℕ → GroupCall) (group : String) : SupervisorProg Bool := do
  let s ← Prog.get
  let call := calls s.started.length
  Prog.modify fun s ↦ { s with started := s.started ++ [group] }
  stopAgain call.stops
  endGroup call.ended

/-- How the loop of `start` goes on after a group. -/
inductive LoopExit where
  | next
  /-- `break`. -/
  | leave
  /-- `return`. -/
  | giveUp
  deriving DecidableEq, Repr

/-- What `start` makes of the end of `run_group`. -/
def recordGroup (group : String) (success : Bool) : SupervisorProg LoopExit := do
  let s ← Prog.get
  if s.stopRequested then
    -- `stop` has already moved the lifecycle
    pure .leave
  else if success then do
    Prog.modify fun s ↦ { s with completedGroups := s.completedGroups ++ [group] }
    transitionTo .COMPLETED
    transitionTo .IDLE
    pure .next
  else do
    Prog.modify fun s ↦ { s with failedGroup := some group }
    transitionTo .FAILED
    Prog.modify fun s ↦ { s with currentGroup := none }
    pure .giveUp

/-- One iteration of the loop of `start`. -/
def startGroup (calls : ℕ → GroupCall) (group : String) : SupervisorProg LoopExit := do
  let s ← Prog.get
  if s.stopRequested then
    pure .leave
  else do
    transitionTo .DISCOVERED
    transitionTo .READY
    Prog.modify fun s ↦ { s with currentGroup := some group }
    transitionTo .CLAIMING
    transitionTo .RUNNING
    let success ← (runGroup calls group).handle fun _ ↦ pure false
    recordGroup group success

/-- What follows the loop. -/
def leaveLoop : SupervisorProg PUnit := do
  Prog.modify fun s ↦ { s with currentGroup := none }
  let s ← Prog.get
  if s.stopRequested ∧ s.lifecycle.state ≠ .ABORTED then transitionTo .ABORTED else pure ⟨⟩

/-- The loop of `start` with what follows it. -/
def startGroups (calls : ℕ → GroupCall) : List String → SupervisorProg PUnit
  | [] => leaveLoop
  | group :: rest => do
    match ← startGroup calls group with
    | .next => startGroups calls rest
    | .leave => leaveLoop
    | .giveUp => pure ⟨⟩

/-- `start`. -/
def start (calls : ℕ → GroupCall) (plan : WorkerPlan) : SupervisorProg PUnit := do
  let s ← Prog.get
  if s.stopRequested then transitionTo .ABORTED else startGroups calls plan.groups

end SequentialSupervisor

open SequentialSupervisor

/-! ## One transition, one stop -/

/-- Every state change of the lifecycle so far is in `ALLOWED_TRANSITIONS`. -/
def WorkerLifecycle.Lawful (l : WorkerLifecycle) : Prop :=
  (l.history ++ [l.state]).IsChain fun current next ↦ isValidTransition current next = true

theorem SoloState.lawful_moveTo {s : SoloState} (h : s.lifecycle.Lawful) (next : WorkerState)
    (hv : isValidTransition s.lifecycle.state next = true) : (s.moveTo next).lifecycle.Lawful := by
  refine List.isChain_append.mpr ⟨h, .singleton next, ?_⟩
  intro last hlast first hfirst
  obtain rfl : s.lifecycle.state = last := by
    change last ∈ (s.lifecycle.history ++ [s.lifecycle.state]).getLast? at hlast
    simpa using hlast
  obtain rfl : next = first := by
    change first ∈ some next at hfirst
    simpa using hfirst
  exact hv

section Rules

variable {Q : PUnit → SoloState → Prop} {E : SupervisorExc → SoloState → Prop}
  {s : SoloState}

theorem post_transitionTo {next : WorkerState}
    (hv : isValidTransition s.lifecycle.state next = true) :
    Post (transitionTo next) Q E s ↔ Q ⟨⟩ (s.moveTo next) := by
  simp [transitionTo, hv]

/-- The supervisor after a `stop` inside `run_group`, and after any number of them. -/
def SoloState.stopped (s : SoloState) : SoloState :=
  { s.moveTo .ABORTED with stopRequested := true }

theorem post_stop_of_running (hs : s.lifecycle.state = .RUNNING) :
    Post stop Q E s ↔ Q ⟨⟩ s.stopped := by
  simp only [stop, post_bind, post_modify, post_get, hs, if_true]
  exact post_transitionTo (by rw [hs]; rfl)

/-- A second `stop` changes nothing. -/
theorem post_stopAgain_of_stopped (n : ℕ) (hs : s.lifecycle.state = .ABORTED)
    (hf : s.stopRequested = true) : Post (stopAgain n) Q E s ↔ Q ⟨⟩ s := by
  induction n with
  | zero => rfl
  | succ n ih =>
    have hset : { s with stopRequested := true } = s := by rw [← hf]
    rw [stopAgain, post_bind, stop, post_bind, post_modify, hset, post_bind, post_get, hs]
    exact ih

/-- However often `run_group` calls `stop`, the first call decides. -/
theorem post_stopAgain (n : ℕ) (hs : s.lifecycle.state = .RUNNING) :
    Post (stopAgain n) Q E s ↔ Q ⟨⟩ (if n = 0 then s else s.stopped) := by
  cases n with
  | zero => rfl
  | succ n =>
    rw [stopAgain, post_bind, post_stop_of_running hs, post_stopAgain_of_stopped n rfl rfl,
      if_neg n.succ_ne_zero]

end Rules

/-! ## One group -/

section Groups

variable {calls : ℕ → GroupCall} {completed : List String} {s : SoloState}

/-- Before a group, all groups so far being completed. -/
structure Between (calls : ℕ → GroupCall) (completed : List String) (s : SoloState) : Prop where
  state : s.lifecycle.state = .IDLE
  lawful : s.lifecycle.Lawful
  stopRequested : s.stopRequested = false
  completedGroups : s.completedGroups = completed
  started : s.started = completed
  failedGroup : s.failedGroup = none
  succeeds : ∀ i < completed.length, (calls i).Succeeds

/-- Behind a group that did not succeed. -/
structure GroupLeft (calls : ℕ → GroupCall) (completed : List String) (group : String)
    (state : WorkerState) (s : SoloState) : Prop where
  state_eq : s.lifecycle.state = state
  lawful : s.lifecycle.Lawful
  completedGroups : s.completedGroups = completed
  started : s.started = completed ++ [group]
  succeeds : ∀ i < completed.length, (calls i).Succeeds

/-- What an iteration leaves behind. -/
def AfterGroup (calls : ℕ → GroupCall) (completed : List String) (group : String)
    (s : SoloState) : LoopExit → Prop
  | .next => Between calls (completed ++ [group]) s
  | .leave =>
    GroupLeft calls completed group .ABORTED s ∧ s.stopRequested = true ∧ s.failedGroup = none ∧
      (calls completed.length).stops ≠ 0
  | .giveUp =>
    GroupLeft calls completed group .FAILED s ∧ s.failedGroup = some group ∧
      (calls completed.length).FailsAlone

/-- The supervisor at the call of `run_group`. -/
def SoloState.called (s : SoloState) (group : String) : SoloState :=
  { (((({ ((s.moveTo .DISCOVERED).moveTo .READY) with
    currentGroup := some group } : SoloState).moveTo .CLAIMING).moveTo .RUNNING)) with
      started := s.started ++ [group] }

theorem Between.lawful_called (h : Between calls completed s) (group : String) :
    (s.called group).lifecycle.Lawful := by
  have hdiscovered := SoloState.lawful_moveTo h.lawful .DISCOVERED
    (by rw [h.state]; rfl)
  have hready := SoloState.lawful_moveTo hdiscovered .READY rfl
  have hclaiming := SoloState.lawful_moveTo hready .CLAIMING rfl
  exact SoloState.lawful_moveTo hclaiming .RUNNING rfl

theorem Between.lawful_moveTo_called (h : Between calls completed s) (group : String)
    (next : WorkerState) (hv : isValidTransition .RUNNING next = true) :
    ((s.called group).moveTo next).lifecycle.Lawful :=
  SoloState.lawful_moveTo (h.lawful_called group) next hv

theorem post_callGroup (group : String) {Q : Bool → SoloState → Prop}
    {E : SupervisorExc → SoloState → Prop} (hs : s.lifecycle.state = .RUNNING) :
    Post ((runGroup calls group).handle fun _ ↦ pure false) Q E s ↔
      Q (decide ((calls s.started.length).ended = .truthy))
        (if (calls s.started.length).stops = 0 then
          { s with started := s.started ++ [group] }
        else { s with started := s.started ++ [group] }.stopped) := by
  rw [post_handle, runGroup, post_bind, post_get, post_bind, post_modify, post_bind,
    post_stopAgain (s := { s with started := s.started ++ [group] }) _ hs]
  cases (calls s.started.length).ended <;> rfl

theorem Between.started_called (h : Between calls completed s) (group : String) :
    (s.called group).started = completed ++ [group] := by
  change s.started ++ [group] = _
  rw [h.started]

theorem Between.succeeds_concat (h : Between calls completed s) {group : String}
    (hrun : (calls completed.length).Succeeds) :
    ∀ i < (completed ++ [group]).length, (calls i).Succeeds := by
  intro i hi
  rw [List.length_append, List.length_singleton, Nat.lt_succ_iff_lt_or_eq] at hi
  rcases hi with hi | rfl
  · exact h.succeeds i hi
  · exact hrun

theorem post_recordGroup (h : Between calls completed s) (group : String) :
    Post (recordGroup group (decide ((calls completed.length).ended = .truthy)))
      (fun exit t ↦ AfterGroup calls completed group t exit) (fun _ _ ↦ False)
      (if (calls completed.length).stops = 0 then s.called group
        else (s.called group).stopped) := by
  rw [recordGroup, post_bind, post_get]
  split
  · next hstops =>
    have hflag : (s.called group).stopRequested = false := h.stopRequested
    rw [if_neg (ne_true_of_eq_false hflag)]
    by_cases hend : (calls completed.length).ended = .truthy
    · rw [decide_eq_true hend, if_pos rfl, post_bind, post_modify, post_bind,
        post_transitionTo rfl, post_bind, post_transitionTo rfl]
      have hcompleted := h.lawful_moveTo_called group .COMPLETED rfl
      refine ⟨rfl, SoloState.lawful_moveTo hcompleted .IDLE rfl, h.stopRequested, ?_,
        h.started_called group, h.failedGroup, h.succeeds_concat ⟨hstops, hend⟩⟩
      change s.completedGroups ++ [group] = _
      rw [h.completedGroups]
    · rw [decide_eq_false hend, if_neg Bool.false_ne_true, post_bind, post_modify, post_bind,
        post_transitionTo rfl]
      exact ⟨⟨rfl, h.lawful_moveTo_called group .FAILED rfl, h.completedGroups,
        h.started_called group, h.succeeds⟩, rfl, hstops, hend⟩
  · next hstops =>
    have hflag : (s.called group).stopped.stopRequested = true := rfl
    rw [if_pos hflag]
    exact ⟨⟨rfl, h.lawful_moveTo_called group .ABORTED rfl, h.completedGroups,
      h.started_called group, h.succeeds⟩, rfl, h.failedGroup, hstops⟩

/-- **One group.** -/
theorem post_startGroup (h : Between calls completed s) (group : String) :
    Post (startGroup calls group) (fun exit t ↦ AfterGroup calls completed group t exit)
      (fun _ _ ↦ False) s := by
  rw [startGroup, post_bind, post_get, if_neg (ne_true_of_eq_false h.stopRequested), post_bind,
    post_transitionTo (by rw [h.state]; rfl), post_bind, post_transitionTo rfl, post_bind,
    post_modify, post_bind, post_transitionTo rfl, post_bind, post_transitionTo rfl, post_bind,
    post_callGroup group rfl]
  have hrecord := post_recordGroup h group
  rw [← h.started] at hrecord ⊢
  exact hrecord

/-! ## A run -/

/-- What a run over `groups` leaves behind, `n` of them being completed. -/
structure StartLaw (calls : ℕ → GroupCall) (groups : List String) (n : ℕ) (s : SoloState) :
    Prop where
  le_length : n ≤ groups.length
  /-- The completed groups returned truthy without a stop, and the next one did not. -/
  succeeds : ∀ i < n, (calls i).Succeeds
  maximal : n < groups.length → ¬(calls n).Succeeds
  completedGroups : s.completedGroups = groups.take n
  /-- The groups started are a prefix of the plan, with no group behind the first that did not
  succeed. -/
  started : s.started = groups.take (n + 1)
  failedGroup : ∀ group,
    s.failedGroup = some group ↔ groups[n]? = some group ∧ (calls n).FailsAlone
  failed : s.failedGroup ≠ none → s.lifecycle.state = .FAILED
  /-- No group is started behind a call that asked for a stop. -/
  aborted : ∀ i < s.started.length, (calls i).stops ≠ 0 →
    s.lifecycle.state = .ABORTED ∧ s.started.length = i + 1
  lawful : s.lifecycle.Lawful

theorem Between.startLaw (h : Between calls completed s) :
    StartLaw calls completed completed.length { s with currentGroup := none } := by
  have hstarted : ({ s with currentGroup := none } : SoloState).started = completed :=
    h.started
  refine ⟨le_rfl, h.succeeds, fun hlt ↦ absurd hlt (lt_irrefl _), ?_, ?_, fun group ↦ ?_,
    fun hne ↦ absurd h.failedGroup hne, ?_, h.lawful⟩
  · rw [List.take_length]
    exact h.completedGroups
  · rw [List.take_of_length_le completed.length.le_succ]
    exact hstarted
  · rw [List.getElem?_eq_none le_rfl]
    exact iff_of_false (fun hf ↦ Option.some_ne_none _ (hf.symm.trans h.failedGroup))
      fun hf ↦ Option.some_ne_none _ hf.1.symm
  · intro i hi hstops
    rw [hstarted] at hi
    exact absurd (h.succeeds i hi).1 hstops

theorem GroupLeft.startLaw {group : String} {rest : List String} {state : WorkerState}
    (h : GroupLeft calls completed group state s) (hrun : ¬(calls completed.length).Succeeds)
    (hfailed : ∀ g, s.failedGroup = some g ↔ g = group ∧ (calls completed.length).FailsAlone)
    (hstate : s.failedGroup ≠ none → state = .FAILED)
    (hstops : (calls completed.length).stops ≠ 0 → state = .ABORTED) :
    StartLaw calls (completed ++ group :: rest) completed.length s := by
  have hlength : completed.length ≤ (completed ++ group :: rest).length := by simp
  refine ⟨hlength, h.succeeds, fun _ ↦ hrun, ?_, ?_, fun g ↦ ?_, fun hne ↦ ?_, ?_, h.lawful⟩
  · rw [List.take_left]
    exact h.completedGroups
  · rw [h.started, List.take_append, List.take_of_length_le completed.length.le_succ]
    simp
  · rw [hfailed, List.getElem?_append_right le_rfl, Nat.sub_self, List.getElem?_cons_zero,
      Option.some_inj, eq_comm]
  · rw [h.state_eq]
    exact hstate hne
  · intro i hi hi'
    rw [h.started, List.length_append, List.length_singleton] at hi ⊢
    rcases Nat.lt_succ_iff_lt_or_eq.mp hi with hlt | rfl
    · exact absurd (h.succeeds i hlt).1 hi'
    · rw [h.state_eq]
      exact ⟨hstops hi', rfl⟩

/-- The run over the groups to come. -/
theorem post_startGroups (rest : List String) (h : Between calls completed s) :
    Post (startGroups calls rest) (fun _ t ↦ ∃ n, StartLaw calls (completed ++ rest) n t)
      (fun _ _ ↦ False) s := by
  induction rest generalizing completed s with
  | nil =>
    rw [startGroups, leaveLoop, post_bind, post_modify, post_bind, post_get, if_neg,
      List.append_nil]
    · exact ⟨completed.length, h.startLaw⟩
    · exact fun hs ↦ absurd (h.stopRequested.symm.trans hs.1) Bool.false_ne_true
  | cons group rest ih =>
    rw [startGroups]
    refine (post_startGroup h group).bind fun exit t ht ↦ ?_
    cases exit with
    | next =>
      refine (ih ht).mono (fun _ u hu ↦ ?_) fun _ _ hf ↦ hf
      rwa [List.append_assoc] at hu
    -- A stop was asked for between two groups: `currentGroup` is reset on the way out.
    | leave =>
      obtain ⟨hended, hflag, hnone, hstops⟩ := ht
      have hlaw : StartLaw calls (completed ++ group :: rest) completed.length
          { t with currentGroup := none } :=
        GroupLeft.startLaw ⟨hended.state_eq, hended.lawful,
          hended.completedGroups, hended.started, hended.succeeds⟩ (fun hs ↦ hstops hs.1)
          (fun g ↦ iff_of_false (fun hg ↦ Option.some_ne_none _ (hg.symm.trans hnone))
            fun hg ↦ hstops hg.2.1)
          (fun hne ↦ absurd hnone hne) fun _ ↦ rfl
      dsimp only
      rw [leaveLoop, post_bind, post_modify, post_bind, post_get, if_neg]
      · exact ⟨completed.length, hlaw⟩
      · exact fun hs ↦ hs.2 hended.state_eq
    -- The group failed; the flag and `currentGroup` stay as the failure left them.
    | giveUp =>
      obtain ⟨hended, hsome, hfails⟩ := ht
      refine ⟨completed.length, hended.startLaw (fun hs ↦ hfails.2 hs.2) (fun g ↦ ?_)
        (fun _ ↦ rfl) fun hstops ↦ absurd hfails.1 hstops⟩
      rw [hsome, Option.some_inj, eq_comm]
      exact (and_iff_left hfails).symm

/-! ## Every run returns -/

theorem ends_transitionTo (next : WorkerState) :
    Ends (fun _ _ ↦ True) (transitionTo next) :=
  .bind .get fun _ ↦ .ite (.modify fun _ ↦ trivial) (.raise _)

theorem ends_runGroup (calls : ℕ → GroupCall) (group : String) :
    Ends (fun _ _ ↦ True) (runGroup calls group) := by
  have hstop : Ends (fun _ _ ↦ True) stop :=
    .bind (.modify fun _ ↦ trivial) fun _ ↦ .bind .get fun _ ↦
      .ite (ends_transitionTo _) (.pure _)
  have hstops : ∀ n, Ends (fun _ _ ↦ True) (stopAgain n) := by
    intro n
    induction n with
    | zero => exact .pure _
    | succ n ih => exact .bind hstop fun _ ↦ ih
  refine .bind .get fun s ↦ .bind (.modify fun _ ↦ trivial) fun _ ↦ .bind (hstops _) fun _ ↦ ?_
  cases (calls s.started.length).ended with
  | truthy => exact .pure _
  | falsy => exact .pure _
  | raises => exact .raise _

theorem ends_startGroup (calls : ℕ → GroupCall) (group : String) :
    Ends (fun _ _ ↦ True) (startGroup calls group) := by
  have hmodify : ∀ f : SoloState → SoloState,
      Ends (fun _ _ ↦ True) (Prog.modify f : SupervisorProg PUnit) := fun _ ↦
    .modify fun _ ↦ trivial
  refine .bind .get fun _ ↦ .ite (.pure _) (.bind (ends_transitionTo _) fun _ ↦
    .bind (ends_transitionTo _) fun _ ↦ .bind (hmodify _) fun _ ↦
    .bind (ends_transitionTo _) fun _ ↦ .bind (ends_transitionTo _) fun _ ↦
    .bind ((ends_runGroup calls group).handle fun _ ↦ .pure _) fun _ ↦ .bind .get fun _ ↦
    .ite (.pure _) (.ite ?_ ?_))
  · exact .bind (hmodify _) fun _ ↦ .bind (ends_transitionTo _) fun _ ↦
      .bind (ends_transitionTo _) fun _ ↦ .pure _
  · exact .bind (hmodify _) fun _ ↦ .bind (ends_transitionTo _) fun _ ↦
      .bind (hmodify _) fun _ ↦ .pure _

theorem ends_startGroups (calls : ℕ → GroupCall) (groups : List String) :
    Ends (fun _ _ ↦ True) (startGroups calls groups) := by
  have hleave : Ends (fun _ _ ↦ True) leaveLoop :=
    .bind (.modify fun _ ↦ trivial) fun _ ↦ .bind .get fun _ ↦
      .ite (ends_transitionTo _) (.pure _)
  induction groups with
  | nil => exact hleave
  | cons group rest ih =>
    refine .bind (ends_startGroup calls group) fun exit ↦ ?_
    cases exit with
    | next => exact ih
    | leave => exact hleave
    | giveUp => exact .pure _

/-- **The law of the sequential supervisor.** Whatever the calls of `run_group` do, `start` returns,
and leaves behind what `StartLaw` says. -/
theorem start_obeys_startLaw (calls : ℕ → GroupCall) (plan : WorkerPlan) :
    ∃ n s, start calls plan .initial = .ok ⟨⟩ s ∧ StartLaw calls plan.groups n s := by
  have hinitial : Between calls [] .initial :=
    ⟨rfl, .singleton _, rfl, rfl, rfl, rfl, fun i hi ↦ absurd hi i.not_lt_zero⟩
  obtain ⟨_, s, hs, n, hlaw⟩ :=
    (ends_startGroups calls plan.groups).exists_ok (post_startGroups plan.groups hinitial)
  exact ⟨n, s, hs, hlaw⟩

/-- The second of three groups raises after a stop of its own: it is neither completed nor failed,
and the third is not started. -/
example : (start (fun i ↦ if i = 1 then ⟨2, .raises⟩ else ⟨0, .truthy⟩)
      ⟨"AUX_SMU_1", ["AUX_1", "AUX_2", "AUX_3"], ∅⟩ .initial).final.map
        (fun s ↦ (s.lifecycle.state, s.completedGroups, s.failedGroup, s.started))
      = some (.ABORTED, ["AUX_1"], none, ["AUX_1", "AUX_2"]) := by
  rfl

end Groups

end Nipxi
