import Nipxi.Effect.Prog
import Nipxi.Orchestration.Supervisor
import Nipxi.Transition.Trace
import Nipxi.Utils.Errors

/-!
# One worker's life

`GroupWorker._run` with `GroupRuntime.connect` and `disconnect`, `open_storage_guarded` and the
supervisor of the worker's plan: from connecting the hardware to disconnecting it, while other
threads may request the worker to stop at any moment. What the hardware, the storage and `run_group`
do is left open; each call may return or raise anything, and the trace keeps how it ended.

Connecting and disconnecting concern no other thread and are programs. In between the worker's
thread takes the steps of `SequentialSupervisor.start`, interleaved with those of the `stop` calls.

Connected hardware is left behind in two ways: by an exception of the storage that
`open_storage_guarded` does not catch, and by a storage that cannot be closed. A failed group is
left unreported where the worker was also asked to stop, whatever made the group fail, because
`start` then records no failure and `_run` reports none: `tearsDown_iff_workerBehaves`.
-/

open Effect Transition

namespace Nipxi

/-- The calls of a worker whose outcome decides its way. -/
inductive WorkerOperation where
  | connectAll
  | openStorage
  | closeStorage
  | disconnectAll
  deriving DecidableEq

/-- A report of a worker to the fault bus. -/
inductive WorkerReport where
  | connectFailed (e : Exc)
  | connectError (e : Exc)
  | runGroupFailed (group : String)
  | uncaught (e : Exc)
  | disconnectFailed (e : Exc)
  deriving DecidableEq

/-- The text of a report. -/
def WorkerReport.reason (groupId : String) : WorkerReport → String
  | .connectFailed e => s!"group {groupId}: connect failed: {e.message}"
  | .connectError e => s!"group {groupId}: unexpected connect error: {e.message}"
  | .runGroupFailed group => s!"group {groupId}: run_group failed for {group}"
  | .uncaught e => s!"group {groupId}: uncaught exception: {e.message}"
  | .disconnectFailed e => s!"group {groupId}: disconnect failed: {e.message}"

/-- How a call of `run_group` ended. -/
inductive GroupOutcome where
  | truthy
  /-- A falsy value or an exception; whether the worker's own cancellation is the cause. -/
  | failed (byCancellation : Bool)
  deriving DecidableEq

/-- What the supervisor sees of it. -/
def GroupOutcome.success : GroupOutcome → Bool
  | .truthy => true
  | .failed _ => false

/-- What a worker has done. -/
inductive WorkerCall where
  /-- An operation returned, or raised an exception. -/
  | call (op : WorkerOperation) (raised : Option Exc)
  /-- `run_group` ended. -/
  | groupEnded (group : String) (outcome : GroupOutcome)
  /-- `self._supervisor.start()` returned or raised; whether the worker had been asked to stop by
  then. -/
  | started (raised : Option Exc) (cancelled : Bool)
  /-- `fault_bus.report`. -/
  | reported (report : WorkerReport)

/-- What surrounds a worker, over worlds `X`. -/
structure WorkerEnv (X : Type) where
  groupId : String
  connectAll : X → Option Exc × X
  /-- `DataStorage(settings).open()` and the wiring of its run id. -/
  openStorage : X → Option Exc × X
  closeStorage : X → Option Exc × X
  disconnectAll : X → Option Exc × X

/-- A worker's world, what it has done (newest first), and whether `self.storage` is set. -/
structure WorkerSession (X : Type) where
  world : X
  trace : List WorkerCall
  storage : Bool

section Program

variable {X : Type}

/-- Programs of one worker. -/
abbrev WorkerProg (X α : Type) := Prog Exc (WorkerSession X) α

/-- The session after an operation. -/
def WorkerSession.after (s : WorkerSession X) (op : WorkerOperation) (r : Option Exc × X) :
    WorkerSession X :=
  { s with world := r.2, trace := .call op r.1 :: s.trace }

/-- Calling an operation. -/
def WorkerProg.call (op : WorkerOperation) (f : X → Option Exc × X) : WorkerProg X PUnit :=
  fun s ↦
    match (f s.world).1 with
    | none => .ok ⟨⟩ (s.after op (f s.world))
    | some e => .error e (s.after op (f s.world))

/-- `self._fault_bus.report`. -/
def WorkerProg.report (report : WorkerReport) : WorkerProg X PUnit :=
  Prog.modify fun s ↦ { s with trace := .reported report :: s.trace }

/-- `(OSError, sqlite3.Error)`. -/
def STORAGE_EXCEPTIONS : List ExcClass := [.osError, .sqliteError]

/-- `open_storage_guarded(settings, hw_mgr)`, which returns whether there is a storage. -/
def openStorageGuarded (env : WorkerEnv X) : WorkerProg X Bool :=
  (do WorkerProg.call .openStorage env.openStorage
      pure true).handle fun e ↦
    if e.isInstance STORAGE_EXCEPTIONS then do
      (WorkerProg.call .disconnectAll env.disconnectAll).handle fun _ ↦ pure ⟨⟩
      pure false
    else Prog.raise e

/-- `GroupRuntime.connect`. -/
def connectRuntime (env : WorkerEnv X) : WorkerProg X PUnit := do
  WorkerProg.call .connectAll env.connectAll
  let opened ← openStorageGuarded env
  if opened then Prog.modify fun s ↦ { s with storage := true }
  else do
    WorkerProg.call .disconnectAll env.disconnectAll
    Prog.raise ⟨.hardwareInitError, s!"GroupRuntime({env.groupId}): storage failed to open -- " ++
      "hardware has been disconnected."⟩

/-- `GroupRuntime.disconnect`. -/
def disconnectRuntime (env : WorkerEnv X) : WorkerProg X PUnit := do
  let s ← Prog.get
  if s.storage then do
    WorkerProg.call .closeStorage env.closeStorage
    Prog.modify fun s ↦ { s with storage := false }
    WorkerProg.call .disconnectAll env.disconnectAll
  else WorkerProg.call .disconnectAll env.disconnectAll

/-- The report of a failed `connect`. -/
def connectFailure (e : Exc) : WorkerReport :=
  if e.isInstance [.hardwareInitError] then .connectFailed e else .connectError e

/-- The `finally` of `_run`. -/
def tearDown (env : WorkerEnv X) : WorkerProg X PUnit :=
  (disconnectRuntime env).handle fun e ↦ WorkerProg.report (.disconnectFailed e)

end Program

/-! ## The threads of a worker -/

/-- Where the worker's thread is. -/
inductive WorkerPhase where
  /-- At `self._runtime.connect()`. -/
  | connecting
  /-- In `self._supervisor.start()`. -/
  | supervising
  /-- At the `finally`. -/
  | tearingDown
  | ended
  deriving DecidableEq

/-- A worker with its supervisor; the `stop` calls of the supervisor are named by `ι`. -/
structure WorkerRun (X ι : Type) where
  phase : WorkerPhase
  session : WorkerSession X
  supervisor : SequentialState ι
  /-- `self._runtime.cancellation.requested`. -/
  cancelled : Bool

/-- The events of the thread of `start` that leave no entry in the trace. -/
def SequentialEvent.isQuiet {ι : Type} : SequentialEvent ι → Bool
  | .begin | .branch | .abort | .callGroup _ => true
  | .validated .start | .appended .start | .changed .start _ _ => true
  | _ => false

/-- The events of a `stop` call. -/
def SequentialEvent.byStop {ι : Type} : SequentialEvent ι → Bool
  | .setFlag _ | .foundRunning _ | .foundOther _ => true
  | .validated (.stop _) | .appended (.stop _) | .changed (.stop _) _ _ | .invalid (.stop _) => true
  | _ => false

/-- `WorkerState.value`. -/
def WorkerState.value : WorkerState → String
  | .IDLE => "idle"
  | .DISCOVERED => "discovered"
  | .READY => "ready"
  | .CLAIMING => "claiming"
  | .RUNNING => "running"
  | .COMPLETED => "completed"
  | .FAILED => "failed"
  | .ABORTED => "aborted"

/-- `InvalidWorkerTransitionError` with its text. -/
def invalidTransition (current next : WorkerState) : Exc :=
  ⟨.other "InvalidWorkerTransitionError",
    "illegal worker lifecycle transition: '" ++ current.value ++ "' -> '" ++ next.value ++ "'"⟩

section System

variable {X ι : Type} [DecidableEq ι]

/-- The report after `start` has returned: of its failed group, if the worker was not asked to
stop. -/
def failureReports (failedGroup : Option String) (cancelled : Bool) : List WorkerCall :=
  match failedGroup with
  | some group => if cancelled then [] else [.reported (.runGroupFailed group)]
  | none => []

/-- The session with more entries. -/
def WorkerSession.add (s : WorkerSession X) (entries : List WorkerCall) : WorkerSession X :=
  { s with trace := entries ++ s.trace }

/-- The steps of `GroupWorker._run`, and of the threads that call `request_stop`. -/
inductive WorkerStep (env : WorkerEnv X) (groups : List String) :
    WorkerRun X ι → WorkerRun X ι → Prop
  | connectFails {s e session} (hphase : s.phase = .connecting)
      (hconnect : connectRuntime env s.session = .error e session) :
      WorkerStep env groups s
        { s with phase := .ended, session := session.add [.reported (connectFailure e)] }
  | connects {s session} (hphase : s.phase = .connecting)
      (hconnect : connectRuntime env s.session = .ok ⟨⟩ session) :
      WorkerStep env groups s { s with phase := .supervising, session := session }
  /-- `start` moves on. -/
  | moves {s e next} (hphase : s.phase = .supervising) (he : e.isQuiet = true)
      (hstep : SequentialStep groups s.supervisor e next) :
      WorkerStep env groups s { s with supervisor := next }
  /-- `run_group` ends. A cancellation that was not requested is the cause of nothing. -/
  | groupEnds {s group next} (outcome : GroupOutcome) (hphase : s.phase = .supervising)
      (hcause : outcome = .failed true → s.cancelled = true)
      (hstep : SequentialStep groups s.supervisor (.groupEnded group outcome.success) next) :
      WorkerStep env groups s
        { s with supervisor := next, session := s.session.add [.groupEnded group outcome] }
  /-- `start` has returned, and its failed group is reported, if need be. -/
  | returns {s} (hphase : s.phase = .supervising) (hpc : s.supervisor.startPc = .returned) :
      WorkerStep env groups s
        { s with
          phase := .tearingDown
          session := s.session.add
            (failureReports s.supervisor.failedGroup s.cancelled ++ [.started none s.cancelled]) }
  /-- A transition of `start` raises, which is reported. -/
  | raises {s next later after supervisor} (hphase : s.phase = .supervising)
      (hpc : s.supervisor.startPc = .moving next later .validating after)
      (hstep : SequentialStep groups s.supervisor (.invalid .start) supervisor) :
      WorkerStep env groups s
        { s with
          phase := .tearingDown
          supervisor := supervisor
          session := s.session.add
            [.reported (.uncaught (invalidTransition s.supervisor.lifecycle.state next)),
              .started (some (invalidTransition s.supervisor.lifecycle.state next)) s.cancelled] }
  | tearsDown {s session} (hphase : s.phase = .tearingDown)
      (hteardown : tearDown env s.session = .ok ⟨⟩ session) :
      WorkerStep env groups s { s with phase := .ended, session := session }
  /-- `request_stop` sets the token, and only then calls `stop`. -/
  | requestStop {s} : WorkerStep env groups s { s with cancelled := true }
  | stops {s e next} (hcancelled : s.cancelled = true) (he : e.byStop = true)
      (hstep : SequentialStep groups s.supervisor e next) :
      WorkerStep env groups s { s with supervisor := next }

/-- A worker that was just constructed, over its hardware. -/
def WorkerRun.Initial (s : WorkerRun X ι) : Prop :=
  s.phase = .connecting ∧ s.session.trace = [] ∧ s.session.storage = false ∧
    s.supervisor = .initial ∧ s.cancelled = false

/-- The thread of a worker with its plan, interleaved with requests to stop it. -/
def workerSystem (ι : Type) [DecidableEq ι] (env : WorkerEnv X) (plan : WorkerPlan) :
    System (WorkerRun X ι) Unit where
  init := WorkerRun.Initial
  step s _ s' := WorkerStep env plan.groups s s'

end System

/-! ## What connecting and disconnecting leave in the trace -/

section Calls

variable {X : Type} {env : WorkerEnv X}

theorem post_call (op : WorkerOperation) (f : X → Option Exc × X) (s : WorkerSession X) :
    Post (WorkerProg.call op f)
      (fun _ t ↦ t.storage = s.storage ∧ t.trace = .call op none :: s.trace)
      (fun e t ↦ t.storage = s.storage ∧ t.trace = .call op (some e) :: s.trace) s := by
  unfold Post WorkerProg.call
  cases hf : (f s.world).1 with
  | none => exact ⟨rfl, by rw [WorkerSession.after, hf]⟩
  | some e => exact ⟨rfl, by rw [WorkerSession.after, hf]⟩

theorem post_openStorageGuarded (s : WorkerSession X) :
    Post (openStorageGuarded env)
      (fun opened t ↦ (opened = true ∧ t.trace = .call .openStorage none :: s.trace) ∨
        (opened = false ∧ ∃ e o, e.isInstance STORAGE_EXCEPTIONS = true ∧
          t.trace = .call .disconnectAll o :: .call .openStorage (some e) :: s.trace))
      (fun e t ↦ e.isInstance STORAGE_EXCEPTIONS = false ∧
        t.trace = .call .openStorage (some e) :: s.trace) s := by
  rw [openStorageGuarded, post_handle, post_bind]
  refine (post_call .openStorage env.openStorage s).mono ?_ ?_
  · rintro ⟨⟩ t ⟨-, ht⟩
    exact Or.inl ⟨rfl, ht⟩
  · rintro e t ⟨-, ht⟩
    rw [post_ite]
    split
    · next he =>
      rw [post_bind, post_handle]
      refine (post_call .disconnectAll env.disconnectAll t).mono ?_ ?_
      · rintro ⟨⟩ u ⟨-, hu⟩
        exact Or.inr ⟨rfl, e, none, he, by rw [hu, ht]⟩
      · rintro e' u ⟨-, hu⟩
        exact Or.inr ⟨rfl, e, some e', he, by rw [hu, ht]⟩
    · next he => exact ⟨by simpa using he, ht⟩

/-- The ways `connect` can fail, with what they leave in the trace. -/
inductive ConnectFailed : List WorkerCall → Prop
  | hardware (e : Exc) : ConnectFailed [.call .connectAll (some e)]
  /-- The storage raised what `open_storage_guarded` does not catch. -/
  | escaped (e : Exc) (h : e.isInstance STORAGE_EXCEPTIONS = false) :
      ConnectFailed [.call .openStorage (some e), .call .connectAll none]
  /-- The storage failed to open: the hardware is disconnected twice. -/
  | guarded (e : Exc) (h : e.isInstance STORAGE_EXCEPTIONS = true) (o o' : Option Exc) :
      ConnectFailed [.call .disconnectAll o', .call .disconnectAll o,
        .call .openStorage (some e), .call .connectAll none]

theorem post_connectRuntime (x : X) :
    Post (connectRuntime env)
      (fun _ t ↦ t.storage = true ∧
        t.trace = [.call .openStorage none, .call .connectAll none])
      (fun _ t ↦ ConnectFailed t.trace) ⟨x, [], false⟩ := by
  rw [connectRuntime, post_bind]
  refine (post_call .connectAll env.connectAll _).mono ?_ ?_
  · rintro ⟨⟩ t ⟨-, ht⟩
    rw [post_bind]
    refine (post_openStorageGuarded t).mono ?_ ?_
    · rintro opened u (⟨rfl, hu⟩ | ⟨rfl, e, o, he, hu⟩)
      · exact ⟨rfl, by rw [hu, ht]⟩
      · rw [if_neg Bool.false_ne_true, post_bind]
        refine (post_call .disconnectAll env.disconnectAll u).mono ?_ ?_
        · rintro ⟨⟩ v ⟨-, hv⟩
          rw [post_raise, hv, hu, ht]
          exact .guarded e he o none
        · rintro e' v ⟨-, hv⟩
          rw [hv, hu, ht]
          exact .guarded e he o (some e')
    · rintro e u ⟨he, hu⟩
      rw [hu, ht]
      exact .escaped e he
  · rintro e t ⟨-, ht⟩
    rw [ht]
    exact .hardware e

/-- What the `finally` adds where the storage is set. -/
inductive TornDown : List WorkerCall → Prop
  /-- The storage raised, and the hardware is not reached. -/
  | unclosed (e : Exc) :
      TornDown [.reported (.disconnectFailed e), .call .closeStorage (some e)]
  | disconnected : TornDown [.call .disconnectAll none, .call .closeStorage none]
  | failed (e : Exc) : TornDown [.reported (.disconnectFailed e),
      .call .disconnectAll (some e), .call .closeStorage none]

theorem post_tearDown {s : WorkerSession X} (hs : s.storage = true) :
    Post (tearDown env)
      (fun _ t ↦ ∃ new, TornDown new ∧ t.trace = new ++ s.trace) (fun _ _ ↦ False) s := by
  rw [tearDown, post_handle, disconnectRuntime, post_bind, post_get, if_pos hs, post_bind]
  refine (post_call .closeStorage env.closeStorage s).mono ?_ ?_
  · rintro ⟨⟩ t ⟨-, ht⟩
    rw [post_bind, post_modify]
    refine (post_call .disconnectAll env.disconnectAll _).mono ?_ ?_
    · rintro ⟨⟩ u ⟨-, hu⟩
      exact ⟨_, .disconnected, by rw [hu, ht]; rfl⟩
    · rintro e u ⟨-, hu⟩
      exact ⟨_, .failed e, by
        change .reported (.disconnectFailed e) :: u.trace = _
        rw [hu, ht]
        rfl⟩
  · rintro e t ⟨-, ht⟩
    exact ⟨_, .unclosed e, by
      change .reported (.disconnectFailed e) :: t.trace = _
      rw [ht]
      rfl⟩

end Calls

/-! ## A supervisor that is not asked to stop -/

section Supervisor

variable {ι : Type}

/-- The group whose failure has been seen, or is about to be. -/
def StartPc.failing : StartPc → Option String → Option String
  | .called group _ false, _ => some group
  | _, failedGroup => failedGroup

/-- `start` has not yet come to the end of its loop. -/
def StartPc.loops : StartPc → Bool
  | .notStarted | .entering | .looping _ | .claiming _ _ | .calling _ _ | .inGroup _ _ => true
  | .called _ _ _ => true
  | .moving _ _ _ (.claim _ _) | .moving _ _ _ (.call _ _) | .moving _ _ _ (.loop _) => true
  | _ => false

/-- Nobody has called `stop`, and no group has failed before the one that ends the loop. -/
structure Unasked (s : SequentialState ι) : Prop where
  orderly : Orderly s
  calls : ∀ i, s.stopPc i = .notCalled
  flag : s.stopRequested = false
  failedGroup : s.startPc.loops = true → s.failedGroup = none

theorem unasked_initial : Unasked (.initial : SequentialState ι) :=
  ⟨⟨rfl, nofun, nofun, nofun⟩, fun _ ↦ rfl, rfl, fun _ ↦ rfl⟩

variable [DecidableEq ι] {plan : WorkerPlan} {s s' : SequentialState ι} {e : SequentialEvent ι}

/-- The thread of `start` leaves the flag and the `stop` calls alone. -/
theorem SequentialStep.frame (hs : SequentialStep plan.groups s e s') (he : e.byStop = false) :
    s'.stopPc = s.stopPc ∧ s'.stopRequested = s.stopRequested := by
  cases hs with
  | setFlag | foundRunning | foundOther | stopValidate | stopInvalid | stopAppend | stopAssign =>
    cases he
  | _ => exact ⟨rfl, rfl⟩

theorem loops_afterAssign (later : List WorkerState) (next : WorkerState) (phase : MovePhase)
    (after : AfterMoves) (h : (afterAssign later after).loops = true) :
    (StartPc.moving next later phase after).loops = true := by
  cases later with
  | nil => cases after <;> first | rfl | exact h
  | cons next' later => cases after <;> exact h

theorem Unasked.step (h : Unasked s) (hs : SequentialStep plan.groups s e s')
    (he : e.byStop = false) : Unasked s' := by
  obtain ⟨hcalls, hflag⟩ := hs.frame he
  have hundisturbed : Undisturbed s e := by
    cases e with
    | abort =>
      intro i
      rw [h.calls i]
      rfl
    | foundRunning i => cases he
    | _ => trivial
  refine ⟨h.orderly.step hs hundisturbed, ?_, hflag.trans h.flag, ?_⟩
  · rw [hcalls]
    exact h.calls
  · intro hloops
    have hfailed := h.failedGroup
    cases hs with
    | assign hpc =>
      rw [hpc] at hfailed
      exact hfailed (loops_afterAssign _ _ _ _ hloops)
    | begin hpc | enter hpc | takeGroup hpc | claim hpc | callGroup hpc | groupEnded _ hpc
    | succeed hpc =>
      rw [hpc] at hfailed
      exact hfailed rfl
    | @validate next later after hpc | @append next later after hpc =>
      rw [hpc] at hfailed
      cases after with
      | claim | call | loop => exact hfailed rfl
      | clear | finish => cases hloops
    | setFlag | foundRunning | foundOther | stopValidate | stopInvalid | stopAppend
    | stopAssign => cases he
    | _ => cases hloops

/-- A failure is seen once, when `run_group` ends. -/
theorem Unasked.failing_eq (h : Unasked s) (hs : SequentialStep plan.groups s e s')
    (he : e.isQuiet = true) :
    s'.startPc.failing s'.failedGroup = s.startPc.failing s.failedGroup := by
  have hflag := h.flag
  cases hs with
  | @assign next later after hpc =>
    rw [hpc]
    cases later with
    | nil => cases after <;> rfl
    | cons next' later => rfl
  | breakAfter hpc hf | enterStopped hpc hf | breakAtTop hpc hf | compare hpc hf =>
    rw [hflag] at hf
    cases hf
  | begin hpc | enter hpc | exhausted hpc | takeGroup hpc | claim hpc | callGroup hpc
  | succeed hpc | fail hpc | clear hpc | leave hpc | alreadyAborted hpc | abort hpc
  | validate hpc | append hpc =>
    rw [hpc]
    rfl
  | groupEnded | invalid | setFlag | foundRunning | foundOther | stopValidate | stopInvalid
  | stopAppend | stopAssign => cases he

/-- No transition of `start` raises. -/
theorem Unasked.not_invalid (h : Unasked s)
    (hs : SequentialStep plan.groups s (.invalid .start) s') : False := by
  have hallows := h.orderly.allows
  cases hs with
  | invalid hpc hv =>
    rw [hpc] at hallows
    have hvalid : isValidTransition s.lifecycle.state _ = true := hallows.1
    rw [hvalid] at hv
    cases hv

end Supervisor

/-! ## The entries of the groups -/

/-- The groups that failed, by the entries about them. -/
def failures (calls : List WorkerCall) : List String :=
  calls.filterMap fun c ↦
    match c with
    | .groupEnded group (.failed _) => some group
    | _ => none

/-- Entries about groups only. -/
def GroupEntries (calls : List WorkerCall) : Prop :=
  ∀ c ∈ calls, ∃ group outcome, c = .groupEnded group outcome

theorem mem_failures {calls : List WorkerCall} {group : String} {byCancellation : Bool}
    (h : .groupEnded group (.failed byCancellation) ∈ calls) : group ∈ failures calls :=
  List.mem_filterMap.mpr ⟨_, h, rfl⟩

/-- What was done since the hardware was connected, while `start` runs. -/
structure Supervising {ι : Type} (supervisor : SequentialState ι) (cancelled : Bool)
    (calls : List WorkerCall) : Prop where
  entries : GroupEntries calls
  excused : ∀ group, .groupEnded group (.failed true) ∈ calls → cancelled = true
  unasked : cancelled = false → Unasked supervisor ∧
    failures calls = (supervisor.startPc.failing supervisor.failedGroup).toList

/-- What was done when `start` has ended: in a worker that was not asked to stop, with a report of
the group that failed, if one did. -/
inductive Supervised : List WorkerCall → Prop
  | alone {groups : List WorkerCall} (failedGroup : Option String) (hentries : GroupEntries groups)
      (hexcused : ∀ group, .groupEnded group (.failed true) ∉ groups)
      (hfailures : failures groups = failedGroup.toList) :
      Supervised (failureReports failedGroup false ++ .started none false :: groups)
  | stopped {groups : List WorkerCall} (hentries : GroupEntries groups) :
      Supervised (.started none true :: groups)
  | raised {groups : List WorkerCall} (e : Exc) (hentries : GroupEntries groups) :
      Supervised (.reported (.uncaught e) :: .started (some e) true :: groups)

/-- The entries of a worker that has connected its hardware and opened its storage. -/
abbrev connectedCalls : List WorkerCall := [.call .openStorage none, .call .connectAll none]

/-- The traces `_run` can leave. -/
inductive WorkerTrace : List WorkerCall → Prop
  | unconnected {calls : List WorkerCall} (h : ConnectFailed calls) (e : Exc) :
      WorkerTrace (.reported (connectFailure e) :: calls)
  | connected {supervised tornDown : List WorkerCall} (hs : Supervised supervised)
      (ht : TornDown tornDown) :
      WorkerTrace (tornDown ++ (supervised ++ connectedCalls))

/-! ## The invariant -/

section Run

variable {X ι : Type}

/-- What holds wherever the worker's thread is. -/
def WorkerInv (s : WorkerRun X ι) : Prop :=
  match s.phase with
  | .connecting => s.session.trace = [] ∧ s.session.storage = false ∧
      (s.cancelled = false → s.supervisor = .initial)
  | .supervising => s.session.storage = true ∧
      ∃ calls, s.session.trace = calls ++ connectedCalls ∧
        Supervising s.supervisor s.cancelled calls
  | .tearingDown => s.session.storage = true ∧
      ∃ calls, s.session.trace = calls ++ connectedCalls ∧ Supervised calls
  | .ended => WorkerTrace s.session.trace

section Supervising

variable {supervisor next : SequentialState ι} {cancelled : Bool} {calls : List WorkerCall}

theorem Supervising.returns (h : Supervising supervisor cancelled calls)
    (hpc : supervisor.startPc = .returned) :
    Supervised (failureReports supervisor.failedGroup cancelled ++
      .started none cancelled :: calls) := by
  cases cancelled with
  | true =>
    cases supervisor.failedGroup with
    | none => exact .stopped h.entries
    | some group => exact .stopped h.entries
  | false =>
    refine .alone _ h.entries (fun group hgroup ↦ ?_) ((h.unasked rfl).2.trans ?_)
    · cases h.excused group hgroup
    · rw [hpc]
      rfl

variable [DecidableEq ι] {plan : WorkerPlan}

theorem Supervising.moves {e : SequentialEvent ι} (h : Supervising supervisor cancelled calls)
    (he : e.isQuiet = true) (hs : SequentialStep plan.groups supervisor e next) :
    Supervising next cancelled calls := by
  refine ⟨h.entries, h.excused, fun hcancelled ↦ ?_⟩
  obtain ⟨hunasked, hfailures⟩ := h.unasked hcancelled
  have hstart : e.byStop = false := by
    cases e with
    | validated c | appended c | changed c _ _ | invalid c =>
      cases c with
      | start => rfl
      | stop i => cases he
    | setFlag | foundRunning | foundOther => cases he
    | _ => rfl
  exact ⟨hunasked.step hs hstart, hfailures.trans (by rw [hunasked.failing_eq hs he])⟩

theorem Supervising.groupEnds {group : String} {outcome : GroupOutcome}
    (h : Supervising supervisor cancelled calls)
    (hcause : outcome = .failed true → cancelled = true)
    (hs : SequentialStep plan.groups supervisor (.groupEnded group outcome.success) next) :
    Supervising next cancelled (.groupEnded group outcome :: calls) := by
  refine ⟨List.forall_mem_cons.mpr ⟨⟨_, _, rfl⟩, h.entries⟩, fun other hother ↦ ?_,
    fun hcancelled ↦ ?_⟩
  · rcases List.mem_cons.mp hother with heq | hother
    · exact hcause (WorkerCall.groupEnded.inj heq).2.symm
    · exact h.excused other hother
  · obtain ⟨hunasked, hfailures⟩ := h.unasked hcancelled
    refine ⟨hunasked.step hs rfl, ?_⟩
    have hloops := hunasked.failedGroup
    cases hs with
    | groupEnded _ hpc =>
      rw [hpc] at hloops hfailures
      have hnone : supervisor.failedGroup = none := hloops rfl
      have hempty : failures calls = [] := hfailures.trans (congrArg Option.toList hnone)
      cases outcome with
      | truthy => exact hempty.trans (congrArg Option.toList hnone).symm
      | failed byCancellation => exact congrArg (group :: ·) hempty

theorem Supervising.raises (e : Exc) (h : Supervising supervisor cancelled calls)
    (hs : SequentialStep plan.groups supervisor (.invalid .start) next) :
    Supervised (.reported (.uncaught e) :: .started (some e) cancelled :: calls) := by
  cases cancelled with
  | true => exact .raised e h.entries
  | false => exact ((h.unasked rfl).1.not_invalid hs).elim

end Supervising

variable {s s' : WorkerRun X ι}

/-- A request to stop, and the calls of `stop` after it, undo nothing of this. -/
theorem WorkerInv.stop (h : WorkerInv s) (supervisor : SequentialState ι) :
    WorkerInv { s with supervisor := supervisor, cancelled := true } := by
  obtain ⟨phase, session, old, cancelled⟩ := s
  cases phase with
  | connecting => exact ⟨h.1, h.2.1, nofun⟩
  | supervising =>
    obtain ⟨hstorage, calls, htrace, hcalls⟩ := h
    exact ⟨hstorage, calls, htrace, hcalls.entries, fun _ _ ↦ rfl, nofun⟩
  | tearingDown => exact h
  | ended => exact h

variable [DecidableEq ι] {env : WorkerEnv X} {plan : WorkerPlan}

/-- **One step of any thread.** -/
theorem WorkerInv.step (h : WorkerInv s) (hs : WorkerStep env plan.groups s s') :
    WorkerInv s' := by
  have hinv := h
  unfold WorkerInv at h
  cases hs with
  | @connectFails e session hphase hconnect =>
    rw [hphase] at h
    obtain ⟨htrace, hstorage, -⟩ := h
    have hsession : s.session = ⟨s.session.world, [], false⟩ :=
      congrArg₂ (WorkerSession.mk s.session.world) htrace hstorage
    have hpost := @post_connectRuntime X env s.session.world
    rw [← hsession, post_of_error hconnect] at hpost
    exact .unconnected hpost e
  | @connects session hphase hconnect =>
    rw [hphase] at h
    obtain ⟨htrace, hstorage, hinitial⟩ := h
    have hsession : s.session = ⟨s.session.world, [], false⟩ :=
      congrArg₂ (WorkerSession.mk s.session.world) htrace hstorage
    -- the supervisor has been asked to stop only where the token is set
    have hpost := @post_connectRuntime X env s.session.world
    rw [← hsession, post_of_ok hconnect] at hpost
    refine ⟨hpost.1, [], hpost.2, List.forall_mem_nil _, fun _ hmem ↦ ?_, fun hcancelled ↦ ?_⟩
    · exact absurd hmem List.not_mem_nil
    · rw [hinitial hcancelled]
      exact ⟨unasked_initial, rfl⟩
  | moves hphase he hstep =>
    rw [hphase] at h
    obtain ⟨hstorage, calls, htrace, hcalls⟩ := h
    simp only [WorkerInv, hphase]
    exact ⟨hstorage, calls, htrace, hcalls.moves he hstep⟩
  | groupEnds outcome hphase hcause hstep =>
    rw [hphase] at h
    obtain ⟨hstorage, calls, htrace, hcalls⟩ := h
    simp only [WorkerInv, hphase]
    refine ⟨hstorage, _, ?_, hcalls.groupEnds hcause hstep⟩
    simp only [WorkerSession.add, htrace, List.cons_append, List.nil_append]
  | returns hphase hpc =>
    rw [hphase] at h
    obtain ⟨hstorage, calls, htrace, hcalls⟩ := h
    refine ⟨hstorage, _, ?_, hcalls.returns hpc⟩
    simp only [WorkerSession.add, htrace, List.append_assoc, List.cons_append, List.nil_append]
  | @raises next later after supervisor hphase hpc hstep =>
    rw [hphase] at h
    obtain ⟨hstorage, calls, htrace, hcalls⟩ := h
    refine ⟨hstorage, _, ?_,
      hcalls.raises (invalidTransition s.supervisor.lifecycle.state next) hstep⟩
    simp only [WorkerSession.add, htrace, List.cons_append, List.nil_append]
  | @tearsDown session hphase hteardown =>
    rw [hphase] at h
    obtain ⟨hstorage, calls, htrace, hcalls⟩ := h
    have hpost := @post_tearDown X env _ hstorage
    rw [post_of_ok hteardown] at hpost
    obtain ⟨tornDown, htorn, hadded⟩ := hpost
    change WorkerTrace session.trace
    rw [hadded, htrace]
    exact .connected hcalls htorn
  | requestStop => exact hinv.stop s.supervisor
  | @stops e next hcancelled he hstep =>
    have hstopped := hinv.stop next
    rwa [← hcancelled] at hstopped

theorem workerInv_run {evs : List Unit} (h : Run (workerSystem ι env plan) evs s) :
    WorkerInv s := by
  refine h.keeps (fun s hinit ↦ ?_) fun _ _ _ hinv hs ↦ hinv.step hs
  obtain ⟨hphase, htrace, hstorage, hsupervisor, -⟩ := hinit
  unfold WorkerInv
  rw [hphase]
  exact ⟨htrace, hstorage, fun _ ↦ hsupervisor⟩

end Run

/-! ## What a worker promises -/

/-- A failure the worker's own cancellation does not account for. -/
def WorkerCall.isFailure : WorkerCall → Bool
  | .call _ (some _) | .groupEnded _ (.failed false) | .started (some _) _ => true
  | _ => false

/-- A report to the fault bus. -/
def WorkerCall.isReport : WorkerCall → Bool
  | .reported _ => true
  | _ => false

/-- The report that the run of this group failed. -/
def WorkerCall.reportsGroup (group : String) : WorkerCall → Bool
  | .reported (.runGroupFailed failed) => failed = group
  | _ => false

/-- What a worker promises at its end: connected hardware was disconnected, every failure of its
own was followed by a report, and a group that failed without having been cancelled was reported
exactly once. -/
def KeepsWorkerPromise (trace : List WorkerCall) : Prop :=
  (.call .connectAll none ∈ trace → ∃ o, .call .disconnectAll o ∈ trace) ∧
    Settled (·.isFailure = true) (·.isReport = true) trace ∧
    ∀ group, .groupEnded group (.failed false) ∈ trace →
      trace.countP (WorkerCall.reportsGroup group) = 1

/-- Opening the storage raises only what `open_storage_guarded` catches, and closing it does not
raise. -/
def StorageBehaves (trace : List WorkerCall) : Prop :=
  (∀ e, .call .openStorage (some e) ∈ trace → e.isInstance STORAGE_EXCEPTIONS = true) ∧
    ∀ e, .call .closeStorage (some e) ∉ trace

/-- A group that fails for a reason of its own does so in a worker that nobody has asked to stop
by the time `start` has ended. -/
def FailsUnasked (trace : List WorkerCall) : Prop :=
  ∀ group raised, .groupEnded group (.failed false) ∈ trace → .started raised true ∉ trace

/-- What the surroundings of a worker have to grant. -/
def WorkerBehaves (trace : List WorkerCall) : Prop := StorageBehaves trace ∧ FailsUnasked trace

section Promise

variable {calls tornDown groups : List WorkerCall}

theorem GroupEntries.countP_eq (h : GroupEntries groups) (group : String) :
    groups.countP (WorkerCall.reportsGroup group) = 0 := by
  rw [List.countP_eq_zero]
  intro c hc
  obtain ⟨failed, outcome, rfl⟩ := h c hc
  exact Bool.false_ne_true

/-- Where no group failed for a reason of its own, nothing is open. -/
theorem GroupEntries.settled (h : GroupEntries groups)
    (hnone : ∀ group, .groupEnded group (.failed false) ∉ groups) :
    Settled (·.isFailure = true) (·.isReport = true) groups := by
  refine settled_of_forall_not fun c hc hfailure ↦ ?_
  obtain ⟨group, outcome, rfl⟩ := h c hc
  cases outcome with
  | truthy => cases hfailure
  | failed byCancellation =>
    cases byCancellation with
    | true => cases hfailure
    | false => exact hnone group hc

theorem mem_failureReports {failedGroup : Option String} {cancelled : Bool} {c : WorkerCall}
    (h : c ∈ failureReports failedGroup cancelled) : c.isReport = true := by
  cases failedGroup with
  | none => cases h
  | some group =>
    cases cancelled with
    | true => cases h
    | false =>
      rw [List.mem_singleton.mp h]
      rfl

theorem Supervised.failsUnasked (h : Supervised calls)
    (hcount : ∀ group, .groupEnded group (.failed false) ∈ calls →
      calls.countP (WorkerCall.reportsGroup group) = 1) : FailsUnasked calls := by
  intro group raised hfailed hstarted
  have hone := hcount group hfailed
  cases h with
  | alone failedGroup hentries hexcused hfailures =>
    rcases List.mem_append.mp hstarted with hreport | hstarted
    · cases mem_failureReports hreport
    · rcases List.mem_cons.mp hstarted with heq | hgroup
      · cases heq
      · obtain ⟨_, _, heq⟩ := hentries _ hgroup
        cases heq
  | stopped hentries =>
    rw [List.countP_cons_of_neg Bool.false_ne_true, hentries.countP_eq] at hone
    cases hone
  | raised e hentries =>
    rw [List.countP_cons_of_neg Bool.false_ne_true, List.countP_cons_of_neg Bool.false_ne_true,
      hentries.countP_eq] at hone
    cases hone

theorem Supervised.keeps (h : Supervised calls) (hunasked : FailsUnasked calls) :
    Settled (·.isFailure = true) (·.isReport = true) calls ∧
      ∀ group, .groupEnded group (.failed false) ∈ calls →
        calls.countP (WorkerCall.reportsGroup group) = 1 := by
  cases h with
  | @alone groups failedGroup hentries hexcused hfailures =>
    cases failedGroup with
    | none =>
      have hnone : ∀ group, .groupEnded group (.failed false) ∉ groups := fun group hgroup ↦ by
        have hmem := mem_failures hgroup
        rw [hfailures] at hmem
        cases hmem
      refine ⟨.inr ⟨Bool.false_ne_true, hentries.settled hnone⟩, fun group hgroup ↦ ?_⟩
      rcases List.mem_cons.mp hgroup with heq | hgroup
      · cases heq
      · exact absurd hgroup (hnone group)
    | some failed =>
      refine ⟨.of_cons rfl, fun group hgroup ↦ ?_⟩
      have hmem : .groupEnded group (.failed false) ∈ groups := by
        rcases List.mem_cons.mp hgroup with heq | hgroup
        · cases heq
        · rcases List.mem_cons.mp hgroup with heq | hgroup
          · cases heq
          · exact hgroup
      have hfailed := mem_failures hmem
      rw [hfailures] at hfailed
      obtain rfl := List.mem_singleton.mp hfailed
      have hself : (WorkerCall.reported (.runGroupFailed group)).reportsGroup group = true :=
        decide_eq_true rfl
      change List.countP _ (.reported (.runGroupFailed group) :: .started none false :: groups) = 1
      rw [List.countP_cons_of_pos hself, List.countP_cons_of_neg Bool.false_ne_true,
        hentries.countP_eq]
  | @stopped groups hentries =>
    have hnone : ∀ group, .groupEnded group (.failed false) ∉ groups := fun group hgroup ↦
      hunasked group none (List.mem_cons_of_mem _ hgroup) List.mem_cons_self
    refine ⟨.inr ⟨Bool.false_ne_true, hentries.settled hnone⟩, fun group hgroup ↦ ?_⟩
    rcases List.mem_cons.mp hgroup with heq | hgroup
    · cases heq
    · exact absurd hgroup (hnone group)
  | raised e hentries =>
    refine ⟨.of_cons rfl, fun group hgroup ↦ ?_⟩
    exact absurd (List.mem_cons_of_mem _ List.mem_cons_self) (hunasked group (some e) hgroup)

theorem Supervised.not_call (h : Supervised calls) (op : WorkerOperation) (raised : Option Exc) :
    .call op raised ∉ calls := by
  have hgroups : ∀ {groups : List WorkerCall}, GroupEntries groups →
      .call op raised ∉ groups := fun hentries hmem ↦ by
    obtain ⟨_, _, heq⟩ := hentries _ hmem
    cases heq
  cases h with
  | alone failedGroup hentries hexcused hfailures =>
    refine List.not_mem_append (fun hmem ↦ ?_)
      (List.not_mem_cons_of_ne_of_not_mem nofun (hgroups hentries))
    cases mem_failureReports hmem
  | stopped hentries => exact List.not_mem_cons_of_ne_of_not_mem nofun (hgroups hentries)
  | raised e hentries =>
    exact List.not_mem_cons_of_ne_of_not_mem nofun
      (List.not_mem_cons_of_ne_of_not_mem nofun (hgroups hentries))

theorem TornDown.disconnects_iff (h : TornDown tornDown) :
    (∃ o, .call .disconnectAll o ∈ tornDown) ↔ ∀ e, .call .closeStorage (some e) ∉ tornDown := by
  cases h <;> simp

theorem TornDown.settled (h : TornDown tornDown) :
    Settled (·.isFailure = true) (·.isReport = true) tornDown := by
  cases h <;> simp [Settled, WorkerCall.isReport, WorkerCall.isFailure]

/-- **What a connected worker leaves**, by what it did under its supervisor and after. -/
theorem Supervised.keepsWorkerPromise_iff (hs : Supervised calls) (ht : TornDown tornDown) :
    KeepsWorkerPromise (tornDown ++ (calls ++ connectedCalls)) ↔
      WorkerBehaves (tornDown ++ (calls ++ connectedCalls)) := by
  have hcount (group : String) : List.countP (WorkerCall.reportsGroup group)
      (tornDown ++ (calls ++ connectedCalls)) = calls.countP (WorkerCall.reportsGroup group) := by
    cases ht <;> simp [WorkerCall.reportsGroup]
  have hfailed (group : String) : .groupEnded group (.failed false) ∈
      tornDown ++ (calls ++ connectedCalls) ↔ .groupEnded group (.failed false) ∈ calls := by
    cases ht <;> simp
  have hstarted (raised : Option Exc) : .started raised true ∈
      tornDown ++ (calls ++ connectedCalls) ↔ .started raised true ∈ calls := by
    cases ht <;> simp
  have hdisconnect (o : Option Exc) : .call .disconnectAll o ∈
      tornDown ++ (calls ++ connectedCalls) ↔ .call .disconnectAll o ∈ tornDown := by
    simp [hs.not_call]
  have hclose (e : Exc) : .call .closeStorage (some e) ∈
      tornDown ++ (calls ++ connectedCalls) ↔ .call .closeStorage (some e) ∈ tornDown := by
    simp [hs.not_call]
  have hopen (e : Exc) : .call .openStorage (some e) ∉
      tornDown ++ (calls ++ connectedCalls) := by
    cases ht <;> simp [hs.not_call]
  have hconnected : .call .connectAll none ∈ tornDown ++ (calls ++ connectedCalls) := by simp
  have hunasked : FailsUnasked (tornDown ++ (calls ++ connectedCalls)) ↔ FailsUnasked calls := by
    simp only [FailsUnasked, hfailed, hstarted]
  constructor
  · rintro ⟨hdisconnects, -, hreports⟩
    simp only [hdisconnect, hfailed, hcount] at hdisconnects hreports
    refine ⟨⟨fun e he ↦ absurd he (hopen e), fun e ↦ ?_⟩, hunasked.mpr (hs.failsUnasked hreports)⟩
    rw [hclose]
    exact ht.disconnects_iff.mp (hdisconnects hconnected) e
  · rintro ⟨⟨-, hstorage⟩, hstop⟩
    simp only [hclose] at hstorage
    obtain ⟨hsettled, hreports⟩ := hs.keeps (hunasked.mp hstop)
    refine ⟨fun _ ↦ ?_, ht.settled.append (hsettled.append ?_), ?_⟩
    · simp only [hdisconnect]
      exact ht.disconnects_iff.mpr hstorage
    · exact settled_of_forall_not (by simp [WorkerCall.isFailure])
    · simp only [hfailed, hcount]
      exact hreports

theorem WorkerTrace.keepsWorkerPromise_iff {trace : List WorkerCall} (h : WorkerTrace trace) :
    KeepsWorkerPromise trace ↔ WorkerBehaves trace := by
  cases h with
  | unconnected h e =>
    cases h with
    | hardware e' =>
      simp [KeepsWorkerPromise, WorkerBehaves, StorageBehaves, FailsUnasked, Settled,
        WorkerCall.isReport]
    | escaped e' he =>
      simp [KeepsWorkerPromise, WorkerBehaves, StorageBehaves, he]
    | guarded e' he o o' =>
      simp [KeepsWorkerPromise, WorkerBehaves, StorageBehaves, FailsUnasked, Settled,
        WorkerCall.isReport, he]
  | connected hs ht => exact hs.keepsWorkerPromise_iff ht

end Promise

/-- **When a worker keeps its promise.** Whatever its hardware, its storage and its groups do, and
whenever it is asked to stop, it does so exactly if opening the storage raises only what is guarded
against, closing it does not raise, and a group that fails for a reason of its own fails in a worker
that was not asked to stop. -/
theorem tearsDown_iff_workerBehaves {X ι : Type} [DecidableEq ι] {env : WorkerEnv X}
    {plan : WorkerPlan} {evs : List Unit} {s : WorkerRun X ι}
    (hrun : Run (workerSystem ι env plan) evs s) (hended : s.phase = .ended) :
    KeepsWorkerPromise s.session.trace ↔ WorkerBehaves s.session.trace := by
  have hinv := workerInv_run hrun
  unfold WorkerInv at hinv
  rw [hended] at hinv
  exact WorkerTrace.keepsWorkerPromise_iff hinv

/-! ## Three workers -/

/-- A worker whose hardware and storage raise nothing. -/
def soundStation : WorkerEnv Unit where
  groupId := "AUX_SMU_1"
  connectAll := fun x ↦ (none, x)
  openStorage := fun x ↦ (none, x)
  closeStorage := fun x ↦ (none, x)
  disconnectAll := fun x ↦ (none, x)

/-- Hardware that connects, and a storage that raises a `RuntimeError` when opened. -/
def unguardedStorage : WorkerEnv Unit :=
  { soundStation with
    openStorage := fun x ↦ (some ⟨.other "RuntimeError", "can't start new thread"⟩, x) }

/-- A worker that was just constructed. -/
def newWorker : WorkerRun Unit Unit :=
  ⟨.connecting, ⟨(), [], false⟩, .initial, false⟩

/-- A supervisor whose only group is running. -/
def runningGroup : SequentialState Unit where
  lifecycle := ⟨.RUNNING, [.IDLE, .DISCOVERED, .READY, .CLAIMING]⟩
  stopRequested := false
  currentGroup := some "AUX_1"
  completedGroups := []
  failedGroup := none
  startPc := .inGroup "AUX_1" []
  stopPc := fun _ ↦ .notCalled

theorem run_runningGroup : ∃ evs, Run (workerSystem Unit soundStation oneGroupPlan) evs
    ⟨.supervising, ⟨(), connectedCalls, true⟩, runningGroup, false⟩ := by
  have hrun := Run.init (S := workerSystem Unit soundStation oneGroupPlan) (s := newWorker)
      ⟨rfl, rfl, rfl, rfl, rfl⟩
    |>.step (e := ()) (.connects rfl rfl)
    |>.step (e := ()) (.moves rfl rfl (.begin rfl))
    |>.step (e := ()) (.moves rfl rfl (.enter rfl rfl))
    |>.step (e := ()) (.moves rfl rfl (.takeGroup rfl rfl))
    |>.step (e := ()) (.moves rfl rfl (.validate rfl rfl))
    |>.step (e := ()) (.moves rfl rfl (.append rfl))
    |>.step (e := ()) (.moves rfl rfl (.assign rfl))
    |>.step (e := ()) (.moves rfl rfl (.validate rfl rfl))
    |>.step (e := ()) (.moves rfl rfl (.append rfl))
    |>.step (e := ()) (.moves rfl rfl (.assign rfl))
    |>.step (e := ()) (.moves rfl rfl (.claim rfl))
    |>.step (e := ()) (.moves rfl rfl (.validate rfl rfl))
    |>.step (e := ()) (.moves rfl rfl (.append rfl))
    |>.step (e := ()) (.moves rfl rfl (.assign rfl))
    |>.step (e := ()) (.moves rfl rfl (.validate rfl rfl))
    |>.step (e := ()) (.moves rfl rfl (.append rfl))
    |>.step (e := ()) (.moves rfl rfl (.assign rfl))
    |>.step (e := ()) (.moves rfl rfl (.callGroup rfl))
  exact ⟨_, hrun⟩

/-- What a worker leaves whose group failed and was reported. -/
def reportedFailure : List WorkerCall :=
  [.call .disconnectAll none, .call .closeStorage none, .reported (.runGroupFailed "AUX_1"),
    .started none false, .groupEnded "AUX_1" (.failed false), .call .openStorage none,
    .call .connectAll none]

/-- What one leaves whose storage raised. -/
def unguardedFailure : List WorkerCall :=
  [.reported (.connectError ⟨.other "RuntimeError", "can't start new thread"⟩),
    .call .openStorage (some ⟨.other "RuntimeError", "can't start new thread"⟩),
    .call .connectAll none]

/-- What one leaves whose group failed after a stop was requested. -/
def unreportedFailure : List WorkerCall :=
  [.call .disconnectAll none, .call .closeStorage none, .started none true,
    .groupEnded "AUX_1" (.failed false), .call .openStorage none, .call .connectAll none]

/-- A group that fails is reported, and a stop that is requested after that changes nothing. -/
theorem tearsDown_failedGroup : ∃ evs s, Run (workerSystem Unit soundStation oneGroupPlan) evs s ∧
    s.phase = .ended ∧ s.cancelled = true ∧
      .groupEnded "AUX_1" (.failed false) ∈ s.session.trace ∧
        KeepsWorkerPromise s.session.trace := by
  obtain ⟨evs, hrun⟩ := run_runningGroup
  have hended := hrun
    |>.step (e := ()) (.groupEnds (.failed false) rfl nofun (.groupEnded false rfl))
    |>.step (e := ()) (.moves rfl rfl (.fail rfl rfl))
    |>.step (e := ()) (.moves rfl rfl (.validate rfl rfl))
    |>.step (e := ()) (.moves rfl rfl (.append rfl))
    |>.step (e := ()) (.moves rfl rfl (.assign rfl))
    |>.step (e := ()) (.moves rfl rfl (.clear rfl))
    |>.step (e := ()) (.returns rfl rfl)
    |>.step (e := ()) .requestStop
    |>.step (e := ()) (.tearsDown rfl rfl)
  have hmem : .groupEnded "AUX_1" (.failed false) ∈ reportedFailure := by
    simp [reportedFailure]
  have hbehaves : WorkerBehaves reportedFailure := by
    simp [WorkerBehaves, StorageBehaves, FailsUnasked, reportedFailure]
  exact ⟨_, _, hended, rfl, rfl, hmem, (tearsDown_iff_workerBehaves hended rfl).mpr hbehaves⟩

/-- A worker whose storage raises what nobody catches ends with its hardware connected; one whose
group fails after it was asked to stop ends with nothing reported. -/
theorem not_keepsWorkerPromise :
    (∃ evs s, Run (workerSystem Unit unguardedStorage oneGroupPlan) evs s ∧ s.phase = .ended ∧
      ¬KeepsWorkerPromise s.session.trace) ∧
    ∃ evs s, Run (workerSystem Unit soundStation oneGroupPlan) evs s ∧ s.phase = .ended ∧
      ¬KeepsWorkerPromise s.session.trace := by
  constructor
  · have hended := Run.init (S := workerSystem Unit unguardedStorage oneGroupPlan) (s := newWorker)
        ⟨rfl, rfl, rfl, rfl, rfl⟩
      |>.step (e := ()) (.connectFails rfl rfl)
    have hnot : ¬KeepsWorkerPromise unguardedFailure := by
      simp [KeepsWorkerPromise, unguardedFailure]
    exact ⟨_, _, hended, rfl, hnot⟩
  · obtain ⟨evs, hrun⟩ := run_runningGroup
    have hended := hrun
      |>.step (e := ()) .requestStop
      |>.step (e := ()) (.stops rfl rfl (.setFlag () rfl))
      |>.step (e := ()) (.groupEnds (.failed false) rfl nofun (.groupEnded false rfl))
      |>.step (e := ()) (.moves rfl rfl (.breakAfter rfl rfl))
      |>.step (e := ()) (.moves rfl rfl (.compare rfl rfl))
      |>.step (e := ()) (.moves rfl rfl (.abort rfl (by decide)))
      |>.step (e := ()) (.moves rfl rfl (.validate rfl rfl))
      |>.step (e := ()) (.moves rfl rfl (.append rfl))
      |>.step (e := ()) (.moves rfl rfl (.assign rfl))
      |>.step (e := ()) (.returns rfl rfl)
      |>.step (e := ()) (.tearsDown rfl rfl)
    have hnot : ¬KeepsWorkerPromise unreportedFailure := by
      simp [KeepsWorkerPromise, unreportedFailure, WorkerCall.reportsGroup]
    exact ⟨_, _, hended, rfl, hnot⟩

end Nipxi
