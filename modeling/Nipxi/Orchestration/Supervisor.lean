import Mathlib.Logic.Function.Basic
import Nipxi.Orchestration.Discovery
import Nipxi.Transition.System

/-!
# The sequential supervisor and its lifecycle

`orchestration/worker_lifecycle.py` and `SequentialSupervisor` of `supervisor.py`: one thread
runs `start`, any number of others call `stop`, and they share a flag and a lifecycle state
without a lock. `transition_to` is three atomic steps, because it validates against the state,
appends the state to the history and assigns the next one separately. What only `start` writes
(the current, completed and failed groups) is written in the step it belongs to.

`stop` is announced as safe at any time. It is, as long as no call decides on a transition while
another is inside one it has decided on: that is `stopIsSafe_of_undisturbed`.
-/

open Transition

namespace Nipxi

/-! ## The lifecycle -/

/-- `WorkerState`. -/
inductive WorkerState where
  | IDLE
  | DISCOVERED
  | READY
  | CLAIMING
  | RUNNING
  | COMPLETED
  | FAILED
  | ABORTED
  deriving DecidableEq, Repr

/-- `ALLOWED_TRANSITIONS`. -/
def ALLOWED_TRANSITIONS : WorkerState → List WorkerState
  | .IDLE => [.DISCOVERED, .ABORTED]
  | .DISCOVERED => [.READY, .ABORTED]
  | .READY => [.CLAIMING, .ABORTED]
  | .CLAIMING => [.RUNNING, .FAILED, .ABORTED]
  | .RUNNING => [.COMPLETED, .FAILED, .ABORTED]
  | .COMPLETED => [.IDLE]
  | .FAILED => [.IDLE]
  | .ABORTED => [.IDLE]

/-- `is_valid_transition`. -/
def isValidTransition (current next : WorkerState) : Bool :=
  (ALLOWED_TRANSITIONS current).contains next

/-- `WorkerLifecycle`. -/
structure WorkerLifecycle where
  state : WorkerState
  history : List WorkerState

/-- Where a thread is in `transition_to`. -/
inductive MovePhase where
  /-- At `validate_transition`. -/
  | validating
  /-- At `self.history.append(self.state)`. -/
  | appending
  /-- At `self.state = next_state`. -/
  | assigning
  deriving DecidableEq, Repr

/-! ## The threads -/

/-- Where `start` goes on after a chain of transitions. -/
inductive AfterMoves where
  /-- To `self._current_group = group_name`. -/
  | claim (group : String) (rest : List String)
  /-- To `self._run_group(group_name)`. -/
  | call (group : String) (rest : List String)
  /-- To the next iteration of the loop. -/
  | loop (rest : List String)
  /-- To `self._current_group = None` behind a failed group. -/
  | clear
  /-- To the end of `start`. -/
  | finish
  deriving DecidableEq, Repr

/-- Where the thread of `start` is. -/
inductive StartPc where
  | notStarted
  /-- At the first test of the flag. -/
  | entering
  /-- At the head of the loop, `rest` being the groups to come. -/
  | looping (rest : List String)
  /-- In `transition_to(next)`, with the transitions `later` to follow. -/
  | moving (next : WorkerState) (later : List WorkerState) (phase : MovePhase)
      (after : AfterMoves)
  /-- At `self._current_group = group_name`. -/
  | claiming (group : String) (rest : List String)
  /-- At the call of `run_group`. -/
  | calling (group : String) (rest : List String)
  /-- Inside `run_group`. -/
  | inGroup (group : String) (rest : List String)
  /-- At the test of the flag after `run_group`; an exception counts as no success. -/
  | called (group : String) (rest : List String) (success : Bool)
  /-- Behind the loop, at the last test of the flag. -/
  | leaving
  /-- The flag was set; at the comparison of the state with `ABORTED`. -/
  | comparing
  /-- At `self._current_group = None` behind a failed group. -/
  | clearing
  | returned
  /-- `InvalidWorkerTransitionError` left `start`. -/
  | raised
  deriving DecidableEq, Repr

/-- The program counter a chain of transitions leads to. -/
def AfterMoves.pc : AfterMoves → StartPc
  | .claim group rest => .claiming group rest
  | .call group rest => .calling group rest
  | .loop rest => .looping rest
  | .clear => .clearing
  | .finish => .returned

/-- The program counter after an assignment: the next transition of the chain, or its end. -/
def afterAssign : List WorkerState → AfterMoves → StartPc
  | [], after => after.pc
  | next :: later, after => .moving next later .validating after

/-- Where the thread of one `stop` call is. -/
inductive StopPc where
  | notCalled
  /-- The flag is set; at the comparison of the state with `RUNNING`. -/
  | testing
  /-- In `transition_to(ABORTED)`. -/
  | moving (phase : MovePhase)
  | returned
  /-- `InvalidWorkerTransitionError` left `stop`. -/
  | raised
  deriving DecidableEq, Repr

/-- Inside `transition_to`. -/
def StopPc.isMoving : StopPc → Bool
  | .moving _ => true
  | _ => false

/-- Inside `transition_to`. -/
def StartPc.isMoving : StartPc → Bool
  | .moving .. => true
  | _ => false

/-- A supervisor with its threads; the `stop` calls are named by `ι`. -/
structure SequentialState (ι : Type) where
  lifecycle : WorkerLifecycle
  stopRequested : Bool
  currentGroup : Option String
  completedGroups : List String
  failedGroup : Option String
  startPc : StartPc
  stopPc : ι → StopPc

/-- The threads, named in the labels of their steps. -/
inductive Caller (ι : Type) where
  | start
  | stop (i : ι)

/-- One atomic step of one thread. -/
inductive SequentialEvent (ι : Type) where
  /-- `start` is called. -/
  | begin
  /-- `start` moves on by a test of its own. -/
  | branch
  /-- `start` decides on the transition to `ABORTED` behind its loop. -/
  | abort
  /-- `run_group` is called. -/
  | callGroup (group : String)
  /-- `run_group` is over: it returned a truthy value, or anything else. -/
  | groupEnded (group : String) (success : Bool)
  /-- A `stop` call sets the flag. -/
  | setFlag (i : ι)
  /-- A `stop` call finds the state to be `RUNNING`. -/
  | foundRunning (i : ι)
  /-- A `stop` call finds another state and returns. -/
  | foundOther (i : ι)
  /-- `validate_transition` passes, or the history is appended to. -/
  | validated (c : Caller ι)
  | appended (c : Caller ι)
  /-- `transition_to` assigns the state. -/
  | changed (c : Caller ι) (old new : WorkerState)
  /-- `validate_transition` raises. -/
  | invalid (c : Caller ι)

section System

variable {ι : Type} [DecidableEq ι]

/-- The state with another lifecycle state. -/
def SequentialState.assign (s : SequentialState ι) (next : WorkerState) : SequentialState ι :=
  { s with lifecycle := { s.lifecycle with state := next } }

/-- The state with the current lifecycle state appended to the history. -/
def SequentialState.remember (s : SequentialState ι) : SequentialState ι :=
  { s with lifecycle := { s.lifecycle with
      history := s.lifecycle.history ++ [s.lifecycle.state] } }

/-- Moves the thread of the `stop` call `i`. -/
def SequentialState.moveStop (s : SequentialState ι) (i : ι) (pc : StopPc) : SequentialState ι :=
  { s with stopPc := Function.update s.stopPc i pc }

/-- The atomic steps of `start` and of the `stop` calls. -/
inductive SequentialStep (groups : List String) :
    SequentialState ι → SequentialEvent ι → SequentialState ι → Prop
  | begin {s} (hpc : s.startPc = .notStarted) :
      SequentialStep groups s .begin { s with startPc := .entering }
  | enterStopped {s} (hpc : s.startPc = .entering) (hf : s.stopRequested = true) :
      SequentialStep groups s .branch
        { s with startPc := .moving .ABORTED [] .validating .finish }
  | enter {s} (hpc : s.startPc = .entering) (hf : s.stopRequested = false) :
      SequentialStep groups s .branch { s with startPc := .looping groups }
  | exhausted {s} (hpc : s.startPc = .looping []) :
      SequentialStep groups s .branch { s with startPc := .leaving }
  | breakAtTop {s group rest} (hpc : s.startPc = .looping (group :: rest))
      (hf : s.stopRequested = true) :
      SequentialStep groups s .branch { s with startPc := .leaving }
  | takeGroup {s group rest} (hpc : s.startPc = .looping (group :: rest))
      (hf : s.stopRequested = false) :
      SequentialStep groups s .branch
        { s with startPc := .moving .DISCOVERED [.READY] .validating (.claim group rest) }
  | claim {s group rest} (hpc : s.startPc = .claiming group rest) :
      SequentialStep groups s .branch
        { s with
          currentGroup := some group
          startPc := .moving .CLAIMING [.RUNNING] .validating (.call group rest) }
  | callGroup {s group rest} (hpc : s.startPc = .calling group rest) :
      SequentialStep groups s (.callGroup group) { s with startPc := .inGroup group rest }
  | groupEnded {s group rest} (success : Bool) (hpc : s.startPc = .inGroup group rest) :
      SequentialStep groups s (.groupEnded group success)
        { s with startPc := .called group rest success }
  | breakAfter {s group rest success} (hpc : s.startPc = .called group rest success)
      (hf : s.stopRequested = true) :
      SequentialStep groups s .branch { s with startPc := .leaving }
  | succeed {s group rest} (hpc : s.startPc = .called group rest true)
      (hf : s.stopRequested = false) :
      SequentialStep groups s .branch
        { s with
          completedGroups := s.completedGroups ++ [group]
          startPc := .moving .COMPLETED [.IDLE] .validating (.loop rest) }
  | fail {s group rest} (hpc : s.startPc = .called group rest false)
      (hf : s.stopRequested = false) :
      SequentialStep groups s .branch
        { s with
          failedGroup := some group
          startPc := .moving .FAILED [] .validating .clear }
  | clear {s} (hpc : s.startPc = .clearing) :
      SequentialStep groups s .branch { s with currentGroup := none, startPc := .returned }
  | leave {s} (hpc : s.startPc = .leaving) (hf : s.stopRequested = false) :
      SequentialStep groups s .branch { s with currentGroup := none, startPc := .returned }
  | compare {s} (hpc : s.startPc = .leaving) (hf : s.stopRequested = true) :
      SequentialStep groups s .branch { s with currentGroup := none, startPc := .comparing }
  | alreadyAborted {s} (hpc : s.startPc = .comparing) (hs : s.lifecycle.state = .ABORTED) :
      SequentialStep groups s .branch { s with startPc := .returned }
  | abort {s} (hpc : s.startPc = .comparing) (hs : s.lifecycle.state ≠ .ABORTED) :
      SequentialStep groups s .abort
        { s with startPc := .moving .ABORTED [] .validating .finish }
  | validate {s next later after} (hpc : s.startPc = .moving next later .validating after)
      (hv : isValidTransition s.lifecycle.state next = true) :
      SequentialStep groups s (.validated .start)
        { s with startPc := .moving next later .appending after }
  | invalid {s next later after} (hpc : s.startPc = .moving next later .validating after)
      (hv : isValidTransition s.lifecycle.state next = false) :
      SequentialStep groups s (.invalid .start) { s with startPc := .raised }
  | append {s next later after} (hpc : s.startPc = .moving next later .appending after) :
      SequentialStep groups s (.appended .start)
        { s.remember with startPc := .moving next later .assigning after }
  | assign {s next later after} (hpc : s.startPc = .moving next later .assigning after) :
      SequentialStep groups s (.changed .start s.lifecycle.state next)
        { s.assign next with startPc := afterAssign later after }
  | setFlag {s} (i : ι) (hpc : s.stopPc i = .notCalled) :
      SequentialStep groups s (.setFlag i) { s.moveStop i .testing with stopRequested := true }
  | foundRunning {s} (i : ι) (hpc : s.stopPc i = .testing)
      (hs : s.lifecycle.state = .RUNNING) :
      SequentialStep groups s (.foundRunning i) (s.moveStop i (.moving .validating))
  | foundOther {s} (i : ι) (hpc : s.stopPc i = .testing) (hs : s.lifecycle.state ≠ .RUNNING) :
      SequentialStep groups s (.foundOther i) (s.moveStop i .returned)
  | stopValidate {s} (i : ι) (hpc : s.stopPc i = .moving .validating)
      (hv : isValidTransition s.lifecycle.state .ABORTED = true) :
      SequentialStep groups s (.validated (.stop i)) (s.moveStop i (.moving .appending))
  | stopInvalid {s} (i : ι) (hpc : s.stopPc i = .moving .validating)
      (hv : isValidTransition s.lifecycle.state .ABORTED = false) :
      SequentialStep groups s (.invalid (.stop i)) (s.moveStop i .raised)
  | stopAppend {s} (i : ι) (hpc : s.stopPc i = .moving .appending) :
      SequentialStep groups s (.appended (.stop i)) (s.remember.moveStop i (.moving .assigning))
  | stopAssign {s} (i : ι) (hpc : s.stopPc i = .moving .assigning) :
      SequentialStep groups s (.changed (.stop i) s.lifecycle.state .ABORTED)
        ((s.assign .ABORTED).moveStop i .returned)

/-- A supervisor as constructed. -/
def SequentialState.initial : SequentialState ι :=
  ⟨⟨.IDLE, []⟩, false, none, [], none, .notStarted, fun _ ↦ .notCalled⟩

/-- `start` over a worker's groups, interleaved with `stop` calls. -/
def sequentialSystem (ι : Type) [DecidableEq ι] (plan : WorkerPlan) :
    System (SequentialState ι) (SequentialEvent ι) :=
  ⟨fun s ↦ s = .initial, SequentialStep plan.groups⟩

end System

/-! ## Calls that do not disturb each other -/

section Invariant

variable {ι : Type}

/-- The state in which a chain of transitions may reach its end. -/
def AfterMoves.Fits : AfterMoves → WorkerState → Prop
  | .claim _ _, state => state = .READY
  | .call _ _, state => state = .RUNNING
  | .loop _, state => state = .IDLE
  | .clear, state => state = .FAILED
  | .finish, state => state = .ABORTED

/-- Every transition of the chain is allowed, and its end fits. -/
def ChainOk : WorkerState → List WorkerState → AfterMoves → Prop
  | state, [], after => after.Fits state
  | state, next :: later, after =>
    isValidTransition state next = true ∧ ChainOk next later after

/-- The lifecycle states that `start` can find at each point, `flag` being the stop flag: those
it has set itself, and `ABORTED` where a `stop` call can have set it. -/
def StartPc.Allows : StartPc → WorkerState → Bool → Prop
  | .notStarted, state, _ | .entering, state, _ | .looping _, state, _ => state = .IDLE
  | .moving next later _ after, state, _ => ChainOk state (next :: later) after
  | .claiming _ _, state, _ => state = .READY
  | .calling _ _, state, flag | .inGroup _ _, state, flag | .called _ _ _, state, flag =>
    state = .RUNNING ∨ (flag = true ∧ state = .ABORTED)
  | .leaving, state, flag | .comparing, state, flag =>
    state = .IDLE ∨ (flag = true ∧ (state = .RUNNING ∨ state = .ABORTED))
  | .clearing, state, _ => state = .FAILED
  | .returned, state, _ => state = .IDLE ∨ state = .FAILED ∨ state = .ABORTED
  | .raised, _, _ => False

theorem StartPc.Allows.setFlag {pc : StartPc} {state : WorkerState} {flag : Bool}
    (h : pc.Allows state flag) : pc.Allows state true := by
  cases pc with
  | calling | inGroup | called | leaving | comparing => exact h.imp_right fun hf ↦ ⟨rfl, hf.2⟩
  | _ => exact h

/-- Wherever `start` allows `RUNNING` outside a transition of its own, it also allows the
`ABORTED` of a `stop` call. -/
theorem StartPc.Allows.abort {pc : StartPc} (h : pc.Allows .RUNNING true)
    (hpc : pc.isMoving = false) : pc.Allows .ABORTED true := by
  cases pc <;> simp_all [Allows, StartPc.isMoving]

theorem allows_afterAssign {next : WorkerState} {later : List WorkerState} {after : AfterMoves}
    {flag : Bool} (h : ChainOk next later after) :
    (afterAssign later after).Allows next flag := by
  cases later with
  | nil =>
    have hfits : after.Fits next := h
    cases after <;> simp_all [afterAssign, AfterMoves.pc, AfterMoves.Fits, StartPc.Allows]
  | cons next' later => exact h

/-- At most one thread is inside a transition it has decided on, and every thread finds the
states it expects. -/
structure Orderly (s : SequentialState ι) : Prop where
  allows : s.startPc.Allows s.lifecycle.state s.stopRequested
  testing : ∀ i, s.stopPc i = .testing → s.stopRequested = true
  stopping : ∀ i, (s.stopPc i).isMoving = true → s.lifecycle.state = .RUNNING ∧
    s.stopRequested = true ∧ s.startPc.isMoving = false ∧
      ∀ j, (s.stopPc j).isMoving = true → j = i
  quiet : ∀ i, s.stopPc i ≠ .raised

/-- A step of `start` that keeps flag and state leaves an orderly state, if its new program
counter allows the state and enters no transition beside a `stop` call. -/
theorem Orderly.start {s s' : SequentialState ι} (h : Orderly s)
    (hstop : s'.stopPc = s.stopPc) (hflag : s'.stopRequested = s.stopRequested)
    (hstate : s'.lifecycle.state = s.lifecycle.state)
    (hallows : s'.startPc.Allows s.lifecycle.state s.stopRequested)
    (hmoving : s'.startPc.isMoving = true → ∀ i, (s.stopPc i).isMoving = false) :
    Orderly s' := by
  refine ⟨?_, ?_, ?_, ?_⟩
  · rw [hstate, hflag]
    exact hallows
  · rw [hstop, hflag]
    exact h.testing
  · intro i hi
    rw [hstop] at hi ⊢
    rw [hstate, hflag]
    obtain ⟨hrunning, hset, -, honly⟩ := h.stopping i hi
    refine ⟨hrunning, hset, ?_, honly⟩
    by_contra hpc
    have hnone := hmoving (Bool.eq_true_of_not_eq_false hpc) i
    rw [hnone] at hi
    exact absurd hi nofun
  · rw [hstop]
    exact h.quiet

/-- No `stop` call is inside its transition while the state is not `RUNNING`. -/
theorem Orderly.isMoving_eq_false {s : SequentialState ι} (h : Orderly s)
    (hs : s.lifecycle.state ≠ .RUNNING) (i : ι) : (s.stopPc i).isMoving = false := by
  by_contra hi
  exact hs (h.stopping i (Bool.eq_true_of_not_eq_false hi)).1

/-- Nor while `start` is inside one of its own. -/
theorem Orderly.isMoving_eq_false_of_start {s : SequentialState ι} (h : Orderly s)
    (hs : s.startPc.isMoving = true) (i : ι) : (s.stopPc i).isMoving = false := by
  by_contra hi
  have hpc := (h.stopping i (Bool.eq_true_of_not_eq_false hi)).2.2.1
  rw [hs] at hpc
  exact absurd hpc nofun

/-- Nor while the flag is not set. -/
theorem Orderly.isMoving_eq_false_of_flag {s : SequentialState ι} (h : Orderly s)
    (hs : s.stopRequested = false) (i : ι) : (s.stopPc i).isMoving = false := by
  by_contra hi
  have hset := (h.stopping i (Bool.eq_true_of_not_eq_false hi)).2.1
  rw [hs] at hset
  exact absurd hset nofun

/-- No call decides on a transition while another call is inside one: a `stop` call finds
`RUNNING` only while nobody moves, and `start` decides on its last `ABORTED` only while no
`stop` call moves. -/
def Undisturbed (s : SequentialState ι) : SequentialEvent ι → Prop
  | .abort => ∀ i, (s.stopPc i).isMoving = false
  | .foundRunning _ => s.startPc.isMoving = false ∧ ∀ j, (s.stopPc j).isMoving = false
  | _ => True

variable [DecidableEq ι] {plan : WorkerPlan}

@[simp] theorem stopPc_moveStop (s : SequentialState ι) (i j : ι) (pc : StopPc) :
    (s.moveStop i pc).stopPc j = if j = i then pc else s.stopPc j :=
  Function.update_apply ..

/-- A `stop` call that moves on within its transition keeps the others out. -/
theorem Orderly.moveStop {s : SequentialState ι} (h : Orderly s) {i : ι} {pc : StopPc}
    (hpc : (s.stopPc i).isMoving = true) (hne : pc ≠ .raised) (htest : pc ≠ .testing) :
    Orderly (s.moveStop i pc) := by
  refine ⟨h.allows, fun j hj ↦ ?_, fun j hj ↦ ?_, fun j ↦ ?_⟩
  · rw [stopPc_moveStop] at hj
    split at hj
    · exact absurd hj htest
    · exact h.testing j hj
  · obtain ⟨hrunning, hset, hstart, honly⟩ := h.stopping i hpc
    have hother : ∀ k, ((s.moveStop i pc).stopPc k).isMoving = true → k = i := by
      intro k hk
      by_contra hki
      rw [stopPc_moveStop, if_neg hki] at hk
      exact hki (honly k hk)
    refine ⟨hrunning, hset, hstart, fun k hk ↦ ?_⟩
    rw [hother k hk, hother j hj]
  · rw [stopPc_moveStop]
    split
    · exact hne
    · exact h.quiet j

/-- A `stop` call that sets the flag. -/
theorem Orderly.setFlag {s : SequentialState ι} (h : Orderly s) (i : ι) :
    Orderly { s.moveStop i .testing with stopRequested := true } := by
  refine ⟨h.allows.setFlag, fun _ _ ↦ rfl, fun j hj ↦ ?_, fun j ↦ ?_⟩
  · have hold : ∀ k, ((s.moveStop i .testing).stopPc k).isMoving = true →
        (s.stopPc k).isMoving = true := by
      intro k hk
      rw [stopPc_moveStop] at hk
      split at hk
      · exact absurd hk nofun
      · exact hk
    obtain ⟨hrunning, -, hstart, honly⟩ := h.stopping j (hold j hj)
    exact ⟨hrunning, rfl, hstart, fun k hk ↦ honly k (hold k hk)⟩
  · change (s.moveStop i .testing).stopPc j ≠ .raised
    rw [stopPc_moveStop]
    split
    · exact nofun
    · exact h.quiet j

/-- A `stop` call that finds `RUNNING` while nobody moves. -/
theorem Orderly.foundRunning {s : SequentialState ι} (h : Orderly s) {i : ι}
    (hpc : s.stopPc i = .testing) (hs : s.lifecycle.state = .RUNNING)
    (hstart : s.startPc.isMoving = false) (hnone : ∀ j, (s.stopPc j).isMoving = false) :
    Orderly (s.moveStop i (.moving .validating)) := by
  -- nobody was moving, so this call is the only one that does now
  have honly : ∀ j, ((s.moveStop i (.moving .validating)).stopPc j).isMoving = true → j = i := by
    intro j hj
    by_contra hji
    rw [stopPc_moveStop, if_neg hji, hnone j] at hj
    exact absurd hj nofun
  refine ⟨h.allows, fun j hj ↦ ?_, fun j hj ↦ ?_, fun j ↦ ?_⟩
  · exact h.testing i hpc
  · refine ⟨hs, h.testing i hpc, hstart, fun k hk ↦ ?_⟩
    rw [honly j hj, honly k hk]
  · rw [stopPc_moveStop]
    split
    · exact nofun
    · exact h.quiet j

/-- A `stop` call that finds another state. -/
theorem Orderly.foundOther {s : SequentialState ι} (h : Orderly s) {i : ι}
    (hpc : s.stopPc i = .testing) (hs : s.lifecycle.state ≠ .RUNNING) :
    Orderly (s.moveStop i .returned) := by
  have hnone := h.isMoving_eq_false hs
  refine ⟨h.allows, fun j hj ↦ ?_, fun j hj ↦ ?_, fun j ↦ ?_⟩
  · exact h.testing i hpc
  · rw [stopPc_moveStop] at hj
    split at hj
    · exact absurd hj nofun
    · exact absurd ((hnone j).symm.trans hj) nofun
  · rw [stopPc_moveStop]
    split
    · exact nofun
    · exact h.quiet j

/-- A `stop` call that assigns `ABORTED`. -/
theorem Orderly.stopAssign {s : SequentialState ι} (h : Orderly s) {i : ι}
    (hpc : s.stopPc i = .moving .assigning) :
    Orderly ((s.assign .ABORTED).moveStop i .returned) := by
  have hallows := h.allows
  obtain ⟨hrunning, hset, hstart, honly⟩ := h.stopping i (by rw [hpc]; rfl)
  rw [hrunning, hset] at hallows
  refine ⟨?_, fun _ _ ↦ hset, fun j hj ↦ ?_, fun j ↦ ?_⟩
  · change s.startPc.Allows .ABORTED s.stopRequested
    rw [hset]
    exact hallows.abort hstart
  · rw [stopPc_moveStop] at hj
    split at hj
    · exact absurd hj nofun
    · next hji => exact absurd (honly j hj) hji
  · rw [stopPc_moveStop]
    split
    · exact nofun
    · exact h.quiet j

/-- **One step keeps order**, unless it decides on a transition beside another one. -/
theorem Orderly.step {s s' : SequentialState ι} {e : SequentialEvent ι} (h : Orderly s)
    (hs : SequentialStep plan.groups s e s') (hu : Undisturbed s e) : Orderly s' := by
  have hallows := h.allows
  cases hs with
  | begin hpc | enter hpc hf =>
    rw [hpc] at hallows
    exact h.start rfl rfl rfl hallows nofun
  | exhausted hpc | breakAtTop hpc hf =>
    rw [hpc] at hallows
    exact h.start rfl rfl rfl (Or.inl hallows) nofun
  | enterStopped hpc hf | takeGroup hpc hf =>
    rw [hpc] at hallows
    have hidle : s.lifecycle.state = .IDLE := hallows
    refine h.start rfl rfl rfl ?_ fun _ ↦ h.isMoving_eq_false (by simp [hidle])
    simp [StartPc.Allows, ChainOk, AfterMoves.Fits, hidle, isValidTransition,
      ALLOWED_TRANSITIONS]
  | claim hpc =>
    rw [hpc] at hallows
    have hready : s.lifecycle.state = .READY := hallows
    refine h.start rfl rfl rfl ?_ fun _ ↦ h.isMoving_eq_false (by simp [hready])
    simp [StartPc.Allows, ChainOk, AfterMoves.Fits, hready, isValidTransition,
      ALLOWED_TRANSITIONS]
  | callGroup hpc | groupEnded success hpc =>
    rw [hpc] at hallows
    exact h.start rfl rfl rfl hallows nofun
  | breakAfter hpc hf =>
    rw [hpc] at hallows
    exact h.start rfl rfl rfl (Or.inr ⟨hf, hallows.imp_right And.right⟩) nofun
  | succeed hpc hf | fail hpc hf =>
    -- the flag is not set, so the state is still the one this thread has assigned
    rw [hpc] at hallows
    have hrunning : s.lifecycle.state = .RUNNING := by simpa [StartPc.Allows, hf] using hallows
    refine h.start rfl rfl rfl ?_ fun _ ↦ h.isMoving_eq_false_of_flag hf
    simp [StartPc.Allows, ChainOk, AfterMoves.Fits, hrunning, isValidTransition,
      ALLOWED_TRANSITIONS]
  | clear hpc =>
    rw [hpc] at hallows
    exact h.start rfl rfl rfl (Or.inr (Or.inl hallows)) nofun
  | leave hpc hf =>
    rw [hpc] at hallows
    have hidle : s.lifecycle.state = .IDLE := by simpa [StartPc.Allows, hf] using hallows
    exact h.start rfl rfl rfl (Or.inl hidle) nofun
  | compare hpc hf =>
    rw [hpc] at hallows
    exact h.start rfl rfl rfl hallows nofun
  | alreadyAborted hpc hs =>
    exact h.start rfl rfl rfl (Or.inr (Or.inr hs)) nofun
  | abort hpc hs =>
    rw [hpc] at hallows
    refine h.start rfl rfl rfl ⟨?_, rfl⟩ fun _ ↦ hu
    rcases hallows with hidle | ⟨-, hrunning | haborted⟩
    · rw [hidle]
      rfl
    · rw [hrunning]
      rfl
    · exact absurd haborted hs
  | validate hpc hv =>
    rw [hpc] at hallows
    exact h.start rfl rfl rfl hallows fun _ ↦ h.isMoving_eq_false_of_start (by rw [hpc]; rfl)
  | invalid hpc hv =>
    rw [hpc] at hallows
    exact absurd (hallows.1.symm.trans hv) nofun
  | append hpc =>
    rw [hpc] at hallows
    exact h.start rfl rfl rfl hallows fun _ ↦ h.isMoving_eq_false_of_start (by rw [hpc]; rfl)
  | assign hpc =>
    have hnone := h.isMoving_eq_false_of_start (by rw [hpc]; rfl)
    rw [hpc] at hallows
    refine ⟨allows_afterAssign hallows.2, h.testing, fun i hi ↦ ?_, h.quiet⟩
    exact absurd ((hnone i).symm.trans hi) nofun
  | setFlag i hpc => exact h.setFlag i
  | foundRunning i hpc hs => exact h.foundRunning hpc hs hu.1 hu.2
  | foundOther i hpc hs => exact h.foundOther hpc hs
  | stopValidate i hpc hv =>
    exact h.moveStop (by rw [hpc]; rfl) nofun nofun
  | stopInvalid i hpc hv =>
    obtain ⟨hrunning, -⟩ := h.stopping i (by rw [hpc]; rfl)
    rw [hrunning] at hv
    exact absurd hv nofun
  | stopAppend i hpc =>
    have hremember : Orderly s.remember := ⟨h.allows, h.testing, h.stopping, h.quiet⟩
    exact hremember.moveStop (by change (s.stopPc i).isMoving = true; rw [hpc]; rfl) nofun nofun
  | stopAssign i hpc => exact h.stopAssign hpc

/-! ## Groups started after a stop -/

/-- `run_group` is called. -/
def SequentialEvent.isCall : SequentialEvent ι → Bool
  | .callGroup _ => true
  | _ => false

/-- How often `start` may call `run_group` before it tests the flag again. -/
def StartPc.pendingCalls : StartPc → ℕ
  | .moving _ _ _ (.claim _ _) | .moving _ _ _ (.call _ _) | .claiming _ _ | .calling _ _ => 1
  | _ => 0

theorem StartPc.pendingCalls_le_one (pc : StartPc) : pc.pendingCalls ≤ 1 := by
  cases pc with
  | moving next later phase after => cases after <;> simp [pendingCalls]
  | _ => simp [pendingCalls]

theorem pendingCalls_afterAssign (later : List WorkerState) (next : WorkerState)
    (after : AfterMoves) (phase : MovePhase) :
    (afterAssign later after).pendingCalls
      ≤ (StartPc.moving next later phase after).pendingCalls := by
  cases later with
  | nil => cases after <;> simp [afterAssign, AfterMoves.pc, StartPc.pendingCalls]
  | cons next' later => cases after <;> simp [afterAssign, StartPc.pendingCalls]

/-- With the flag set, a call uses up a pending one and no step adds one. -/
theorem SequentialStep.pendingCalls_le {s s' : SequentialState ι} {e : SequentialEvent ι}
    (hs : SequentialStep plan.groups s e s') (hf : s.stopRequested = true) :
    s'.startPc.pendingCalls + e.isCall.toNat ≤ s.startPc.pendingCalls ∧
      s'.stopRequested = true := by
  cases hs with
  | takeGroup hpc hf' | enter hpc hf' => exact absurd (hf.symm.trans hf') nofun
  | assign hpc =>
    rw [hpc]
    exact ⟨pendingCalls_afterAssign _ _ _ _, hf⟩
  | claim hpc | callGroup hpc => simp [StartPc.pendingCalls, SequentialEvent.isCall, hpc, hf]
  | @validate next later after hpc | @append next later after hpc =>
    rw [hpc]
    refine ⟨?_, hf⟩
    cases after <;> exact le_refl _
  | setFlag => exact ⟨le_refl _, rfl⟩
  | foundRunning | foundOther | stopValidate | stopInvalid | stopAppend | stopAssign =>
    exact ⟨le_refl _, hf⟩
  | _ => simp [StartPc.pendingCalls, SequentialEvent.isCall, hf]

/-- Since any `stop` call has set the flag, at most one group was started, and none if one still
may be. -/
def FewCalls (evs : List (SequentialEvent ι)) (s : SequentialState ι) : Prop :=
  ∀ newer i older, evs = newer ++ .setFlag i :: older →
    newer.countP SequentialEvent.isCall + s.startPc.pendingCalls ≤ 1 ∧ s.stopRequested = true

theorem FewCalls.step {evs : List (SequentialEvent ι)} {s s' : SequentialState ι}
    {e : SequentialEvent ι} (h : FewCalls evs s) (hs : SequentialStep plan.groups s e s') :
    FewCalls (e :: evs) s' := by
  intro newer i older hevs
  cases newer with
  | nil =>
    obtain rfl := (List.cons.inj hevs).1
    cases hs
    exact ⟨by simpa using StartPc.pendingCalls_le_one _, rfl⟩
  | cons e' newer =>
    obtain ⟨rfl, hrest⟩ := List.cons.inj hevs
    obtain ⟨hcount, hf⟩ := h newer i older hrest
    obtain ⟨hle, hf'⟩ := hs.pendingCalls_le hf
    refine ⟨?_, hf'⟩
    have hcons : (e :: newer).countP SequentialEvent.isCall
        = newer.countP SequentialEvent.isCall + e.isCall.toNat := by
      rw [List.countP_cons]
      cases e.isCall <;> rfl
    omega

/-- Every change of the lifecycle so far is allowed. -/
def ChangesAllowed (evs : List (SequentialEvent ι)) : Prop :=
  ∀ c old new, .changed c old new ∈ evs → isValidTransition old new = true

theorem ChangesAllowed.step {evs : List (SequentialEvent ι)} {s s' : SequentialState ι}
    {e : SequentialEvent ι} (h : ChangesAllowed evs) (ho : Orderly s)
    (hs : SequentialStep plan.groups s e s') : ChangesAllowed (e :: evs) := by
  intro c old new hmem
  rcases List.mem_cons.mp hmem with rfl | hmem
  · cases hs with
    | assign hpc =>
      have hallows := ho.allows
      rw [hpc] at hallows
      exact hallows.1
    | stopAssign i hpc =>
      obtain ⟨hrunning, -⟩ := ho.stopping i (by rw [hpc]; rfl)
      rw [hrunning]
      rfl
  · exact h c old new hmem

/-- What `stop` and `start` promise each other: neither raises, the lifecycle changes only as
allowed, a run that was stopped ends aborted, failed or idle, and once the flag is set at most
one more group is started. -/
def StopIsSafe (evs : List (SequentialEvent ι)) (s : SequentialState ι) : Prop :=
  s.startPc ≠ .raised ∧ (∀ i, s.stopPc i ≠ .raised) ∧ ChangesAllowed evs ∧
    (s.startPc = .returned → s.stopRequested = true →
      s.lifecycle.state ∈ [.ABORTED, .FAILED, .IDLE]) ∧
    ∀ newer i older, evs = newer ++ .setFlag i :: older →
      newer.countP SequentialEvent.isCall ≤ 1

/-- **When stopping is safe.** In every run of `start` and any number of `stop` calls in which no
call decides on a transition while another is inside one, they keep their promise. -/
theorem stopIsSafe_of_undisturbed {evs : List (SequentialEvent ι)} {s : SequentialState ι}
    (hrun : Run ((sequentialSystem ι plan).restrict Undisturbed) evs s) : StopIsSafe evs s := by
  have hinv : Orderly s ∧ ChangesAllowed evs ∧ FewCalls evs s := by
    refine hrun.induction (I := fun evs s ↦ Orderly s ∧ ChangesAllowed evs ∧ FewCalls evs s)
      ?_ fun evs s e s' _ ⟨ho, hc, hf⟩ ⟨hs, hu⟩ ↦ ⟨ho.step hs hu, hc.step ho hs, hf.step hs⟩
    rintro s rfl
    refine ⟨⟨rfl, nofun, nofun, nofun⟩, nofun, fun newer i older hevs ↦ ?_⟩
    exact absurd hevs (by simp)
  obtain ⟨ho, hc, hf⟩ := hinv
  have hallows := ho.allows
  refine ⟨fun hpc ↦ ?_, ho.quiet, hc, fun hpc _ ↦ ?_, fun newer i older hevs ↦ ?_⟩
  · rw [hpc] at hallows
    exact hallows
  · rw [hpc] at hallows
    rcases hallows with hs | hs | hs <;> simp [hs]
  · exact le_trans (Nat.le_add_right _ _) (hf newer i older hevs).1

end Invariant

/-- A worker with one group. -/
def oneGroupPlan : WorkerPlan := ⟨"AUX_SMU_1", ["AUX_1"], ∅⟩

/-- A stop while the only group is running, and no other call in its way. -/
theorem stopIsSafe_whileRunning :
    ∃ evs s, StopIsSafe evs s ∧ s.lifecycle.state = .ABORTED ∧
      Run ((sequentialSystem Unit oneGroupPlan).restrict Undisturbed) evs s := by
  have hrun := Run.init (S := (sequentialSystem Unit oneGroupPlan).restrict Undisturbed) rfl
    |>.step ⟨.begin rfl, trivial⟩
    |>.step ⟨.enter rfl rfl, trivial⟩
    |>.step ⟨.takeGroup rfl rfl, trivial⟩
    |>.step ⟨.validate rfl rfl, trivial⟩
    |>.step ⟨.append rfl, trivial⟩
    |>.step ⟨.assign rfl, trivial⟩
    |>.step ⟨.validate rfl rfl, trivial⟩
    |>.step ⟨.append rfl, trivial⟩
    |>.step ⟨.assign rfl, trivial⟩
    |>.step ⟨.claim rfl, trivial⟩
    |>.step ⟨.validate rfl rfl, trivial⟩
    |>.step ⟨.append rfl, trivial⟩
    |>.step ⟨.assign rfl, trivial⟩
    |>.step ⟨.validate rfl rfl, trivial⟩
    |>.step ⟨.append rfl, trivial⟩
    |>.step ⟨.assign rfl, trivial⟩
    |>.step ⟨.callGroup rfl, trivial⟩
    |>.step ⟨.setFlag () rfl, trivial⟩
    |>.step ⟨.foundRunning () rfl rfl, rfl, fun _ ↦ rfl⟩
    |>.step ⟨.stopValidate () rfl rfl, trivial⟩
    |>.step ⟨.stopAppend () rfl, trivial⟩
    |>.step ⟨.stopAssign () rfl, trivial⟩
    |>.step ⟨.groupEnded true rfl, trivial⟩
    |>.step ⟨.breakAfter rfl rfl, trivial⟩
    |>.step ⟨.compare rfl rfl, trivial⟩
    |>.step ⟨.alreadyAborted rfl rfl, trivial⟩
  exact ⟨_, _, stopIsSafe_of_undisturbed hrun, rfl, hrun⟩

/-- The group is over and `start` has found the flag unset; a stop now finds the state to be
`RUNNING`, `start` completes the group, and the transition of `stop` is invalid. -/
theorem not_stopIsSafe_whileCompleting :
    ¬∀ (ι : Type) [DecidableEq ι] (plan : WorkerPlan) (evs : List (SequentialEvent ι))
      (s : SequentialState ι), Run (sequentialSystem ι plan) evs s → StopIsSafe evs s := by
  intro h
  have hrun := Run.init (S := sequentialSystem Unit oneGroupPlan) rfl
    |>.step (.begin rfl)
    |>.step (.enter rfl rfl)
    |>.step (.takeGroup rfl rfl)
    |>.step (.validate rfl rfl) |>.step (.append rfl) |>.step (.assign rfl)
    |>.step (.validate rfl rfl) |>.step (.append rfl) |>.step (.assign rfl)
    |>.step (.claim rfl)
    |>.step (.validate rfl rfl) |>.step (.append rfl) |>.step (.assign rfl)
    |>.step (.validate rfl rfl) |>.step (.append rfl) |>.step (.assign rfl)
    |>.step (.callGroup rfl)
    |>.step (.groupEnded true rfl)
    |>.step (.succeed rfl rfl)
    |>.step (.setFlag () rfl)
    |>.step (.foundRunning () rfl rfl)
    |>.step (.validate rfl rfl) |>.step (.append rfl) |>.step (.assign rfl)
    |>.step (.stopInvalid () rfl rfl)
  have hraised := (h Unit oneGroupPlan _ _ hrun).2.1 ()
  exact hraised rfl

end Nipxi
