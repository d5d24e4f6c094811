import Mathlib.Logic.Function.Basic
import Nipxi.Collections.Dict
import Nipxi.Orchestration.FaultBus
import Nipxi.Transition.System

/-!
# The concurrent supervisor

`ConcurrentSupervisor.run`, `GlobalEmergencyStop.trigger` and `GroupWorker._run` as one
transition system: any number of worker threads and the supervisor's own thread, each with a
program counter, interleaved step by step around the fault bus. What hardware, storage and the
caller's `run_group` do is left open: connecting, running the plan and disconnecting may each
end in any way.

The supervisor's poll loop looks at the bus and at the threads in different steps, and it looks
at the threads one after the other. A report that is completed after the wait has timed out is
therefore noticed only if the loop comes round to the wait again. `meetsContract_iff` says
exactly when it does not: when the run returns `faulted=False` although a report was completed
since the last wait that timed out.
-/

open Collections Transition

namespace Nipxi

/-! ## Worker threads -/

/-- What a worker does once it has reported. -/
inductive AfterReport where
  /-- Leave `_run`: connecting had failed, and `finally` does not cover it. -/
  | finish
  /-- Go on to the `finally` of `_run`. -/
  | disconnect
  deriving DecidableEq, Repr

/-- Where a worker thread is in `GroupWorker._run`. -/
inductive WorkerPc where
  | notStarted
  /-- At `self._runtime.connect()`. -/
  | connecting
  /-- At `self._supervisor.start()` and the test of its status. -/
  | supervising
  /-- At `self._runtime.disconnect()`, in the `finally`. -/
  | disconnecting
  /-- Inside `report`, the lock not yet taken. -/
  | reporting (reason : String) (next : AfterReport)
  /-- Inside `report`, the record kept but the event not yet set. -/
  | signalling (next : AfterReport)
  /-- `_run` has returned; `is_alive` is false from here on. -/
  | finished
  deriving DecidableEq, Repr

/-- Where a worker continues after its report. -/
def AfterReport.pc : AfterReport → WorkerPc
  | .finish => .finished
  | .disconnect => .disconnecting

/-- One worker: its thread, and the reason kept by its cancellation token once a stop has been
requested. -/
structure Worker where
  /-- The thread's program counter. -/
  pc : WorkerPc
  /-- The reason of the token, `none` while no cancellation is requested. -/
  cancellation : Option String
  deriving DecidableEq, Repr

/-- `is_alive`: started and not finished. -/
def Worker.isAlive (w : Worker) : Bool := w.pc != .notStarted && w.pc != .finished

/-- `request_stop`: the token keeps the first reason it is given. -/
def Worker.requestStop (w : Worker) (reason : String) : Worker :=
  { w with cancellation := match w.cancellation with
    | none => some reason
    | some first => some first }

/-- How `self._runtime.connect()` can end; each failure with the text of its exception. -/
inductive ConnectOutcome where
  | connected
  | hardwareInitError (e : String)
  | unexpected (e : String)
  deriving DecidableEq, Repr

/-- How `self._supervisor.start()` can end: with a status, or with an exception that escaped its
own bookkeeping. -/
inductive SuperviseOutcome where
  | returned (failedGroup : Option String)
  | raised (e : String)
  deriving DecidableEq, Repr

/-- How `self._runtime.disconnect()` can end. -/
inductive DisconnectOutcome where
  | disconnected
  | raised (e : String)
  deriving DecidableEq, Repr

/-- `_run` up to the end of the first `try`. -/
def afterConnect (groupId : String) : ConnectOutcome → WorkerPc
  | .connected => .supervising
  | .hardwareInitError e => .reporting s!"group {groupId}: connect failed: {e}" .finish
  | .unexpected e => .reporting s!"group {groupId}: unexpected connect error: {e}" .finish

/-- The second `try` of `_run`. A failed group is reported unless this worker's own cancellation
caused the stop. -/
def afterSupervise (groupId : String) (cancelled : Bool) : SuperviseOutcome → WorkerPc
  | .returned none => .disconnecting
  | .returned (some failed) =>
    if cancelled then .disconnecting
    else .reporting s!"group {groupId}: run_group failed for {failed}" .disconnect
  | .raised e => .reporting s!"group {groupId}: uncaught exception: {e}" .disconnect

/-- The `finally` of `_run`. -/
def afterDisconnect (groupId : String) : DisconnectOutcome → WorkerPc
  | .disconnected => .finished
  | .raised e => .reporting s!"group {groupId}: disconnect failed: {e}" .finish

/-! ## The supervisor thread -/

/-- What `trigger` reports for one worker. -/
inductive ShutdownState where
  | stopped
  | unverifiedSafe
  deriving DecidableEq, Repr

/-- `ConcurrentRunResult`, without its reference to the bus itself. -/
structure ConcurrentRunResult where
  /-- Whether a global emergency stop was triggered. -/
  faulted : Bool
  /-- The reason of the origin. -/
  faultReason : Option String
  /-- What `trigger` returned, empty if it was not called. -/
  shutdown : Dict String ShutdownState

/-- Where the supervisor's thread is in `run` and `trigger`. -/
inductive SupervisorPc where
  /-- Workers before the `k`-th are started. -/
  | starting (k : ℕ)
  /-- At `wait_for_fault`. -/
  | waiting
  /-- The wait timed out; the workers before the `k`-th were found dead since. -/
  | polling (k : ℕ)
  /-- The wait returned `True`; the loop is left. -/
  | tripped
  /-- `origin` is read; at the call of `trigger`. -/
  | triggering (origin : Option FaultReport)
  /-- In `trigger`, with the reason it read; workers before the `k`-th are asked to stop. -/
  | stopping (origin : Option FaultReport) (reason : String) (k : ℕ)
  /-- In `trigger`; workers before the `k`-th are joined. -/
  | joining (origin : Option FaultReport) (k : ℕ) (results : Dict String ShutdownState)
  /-- `run` has returned. -/
  | returned (result : ConcurrentRunResult)

/-- The reason `trigger` passes to every worker. -/
def stopReason (bus : FaultBus) : String :=
  match bus.origin with
  | some first => first.reason
  | none => "global emergency stop"

/-- What `trigger` records for a worker whose join has returned or timed out. -/
def shutdownState (w : Worker) : ShutdownState := if w.isAlive then .unverifiedSafe else .stopped

/-! ## The system -/

/-- All threads, the bus between them, and how often `trigger` has been called. -/
structure SupervisorState (n : ℕ) where
  /-- The worker threads. -/
  workers : Fin n → Worker
  /-- The bus they share. -/
  bus : FaultBus
  /-- The supervisor's thread. -/
  supervisor : SupervisorPc
  /-- Calls of `GlobalEmergencyStop.trigger` so far. -/
  triggers : ℕ

/-- One step of one thread. -/
inductive SupervisorEvent (n : ℕ) where
  /-- `worker.start()`. -/
  | start (i : Fin n)
  /-- A worker's `connect()` ends. -/
  | connect (i : Fin n) (o : ConnectOutcome)
  /-- A worker's `SequentialSupervisor.start()` ends. -/
  | supervise (i : Fin n) (o : SuperviseOutcome)
  /-- A worker's `disconnect()` ends. -/
  | disconnect (i : Fin n) (o : DisconnectOutcome)
  /-- `report` keeps a record, at the given time. -/
  | record (i : Fin n) (time : ℕ)
  /-- `report` sets the event. -/
  | signal (i : Fin n)
  /-- The supervisor has started every worker. -/
  | allStarted
  /-- `wait_for_fault` returns `False`. -/
  | timedOut
  /-- `wait_for_fault` returns `True`. -/
  | woken
  /-- `is_alive` of a worker is read as `True`: back to the wait. -/
  | foundAlive (i : Fin n)
  /-- `is_alive` of a worker is read as `False`: on to the next. -/
  | foundDead (i : Fin n)
  /-- Every worker was found dead: `run` returns. -/
  | returnFinished
  /-- `run` reads the origin. -/
  | readOrigin
  /-- `run` calls `trigger`, which reads the origin again. -/
  | trigger
  /-- `trigger` asks a worker to stop. -/
  | requestStop (i : Fin n)
  /-- `trigger` has asked every worker. -/
  | allRequested
  /-- `trigger` has joined a worker, or given up on it, and looks whether it is alive. -/
  | join (i : Fin n)
  /-- `trigger` and `run` return. -/
  | returnFaulted
  deriving DecidableEq

/-- Moves the thread of worker `i`. -/
def SupervisorState.moveWorker {n : ℕ} (s : SupervisorState n) (i : Fin n) (pc : WorkerPc) :
    SupervisorState n :=
  { s with workers := Function.update s.workers i { s.workers i with pc := pc } }

/-- The steps the threads can take. -/
inductive SupervisorStep {n : ℕ} (ids : Fin n → String) :
    SupervisorState n → SupervisorEvent n → SupervisorState n → Prop
  | start {s k} (i : Fin n) (hs : s.supervisor = .starting k) (hi : i.val = k)
      (hw : (s.workers i).pc = .notStarted) :
      SupervisorStep ids s (.start i)
        { s.moveWorker i .connecting with supervisor := .starting (k + 1) }
  | connect {s} (i : Fin n) (o : ConnectOutcome) (hw : (s.workers i).pc = .connecting) :
      SupervisorStep ids s (.connect i o) (s.moveWorker i (afterConnect (ids i) o))
  | supervise {s} (i : Fin n) (o : SuperviseOutcome) (hw : (s.workers i).pc = .supervising) :
      SupervisorStep ids s (.supervise i o)
        (s.moveWorker i (afterSupervise (ids i) (s.workers i).cancellation.isSome o))
  | disconnect {s} (i : Fin n) (o : DisconnectOutcome)
      (hw : (s.workers i).pc = .disconnecting) :
      SupervisorStep ids s (.disconnect i o) (s.moveWorker i (afterDisconnect (ids i) o))
  | record {s reason next} (i : Fin n) (time : ℕ)
      (hw : (s.workers i).pc = .reporting reason next) :
      SupervisorStep ids s (.record i time)
        { s.moveWorker i (.signalling next) with
          bus := s.bus.record ⟨some (ids i), reason, time⟩ }
  | signal {s next} (i : Fin n) (hw : (s.workers i).pc = .signalling next) :
      SupervisorStep ids s (.signal i) { s.moveWorker i next.pc with bus := s.bus.signal }
  | allStarted {s} (hs : s.supervisor = .starting n) :
      SupervisorStep ids s .allStarted { s with supervisor := .waiting }
  | timedOut {s} (hs : s.supervisor = .waiting) (hb : s.bus.tripped = false) :
      SupervisorStep ids s .timedOut { s with supervisor := .polling 0 }
  | woken {s} (hs : s.supervisor = .waiting) (hb : s.bus.tripped = true) :
      SupervisorStep ids s .woken { s with supervisor := .tripped }
  | foundAlive {s k} (i : Fin n) (hs : s.supervisor = .polling k) (hi : i.val = k)
      (ha : (s.workers i).isAlive = true) :
      SupervisorStep ids s (.foundAlive i) { s with supervisor := .waiting }
  | foundDead {s k} (i : Fin n) (hs : s.supervisor = .polling k) (hi : i.val = k)
      (ha : (s.workers i).isAlive = false) :
      SupervisorStep ids s (.foundDead i) { s with supervisor := .polling (k + 1) }
  | returnFinished {s} (hs : s.supervisor = .polling n) :
      SupervisorStep ids s .returnFinished
        { s with supervisor := .returned ⟨false, none, Dict.empty⟩ }
  | readOrigin {s} (hs : s.supervisor = .tripped) :
      SupervisorStep ids s .readOrigin { s with supervisor := .triggering s.bus.origin }
  | trigger {s origin} (hs : s.supervisor = .triggering origin) :
      SupervisorStep ids s .trigger
        { s with
          supervisor := .stopping origin (stopReason s.bus) 0
          triggers := s.triggers + 1 }
  | requestStop {s origin reason k} (i : Fin n)
      (hs : s.supervisor = .stopping origin reason k) (hi : i.val = k) :
      SupervisorStep ids s (.requestStop i)
        { s with
          workers := Function.update s.workers i ((s.workers i).requestStop reason)
          supervisor := .stopping origin reason (k + 1) }
  | allRequested {s origin reason} (hs : s.supervisor = .stopping origin reason n) :
      SupervisorStep ids s .allRequested { s with supervisor := .joining origin 0 Dict.empty }
  | join {s origin k results} (i : Fin n) (hs : s.supervisor = .joining origin k results)
      (hi : i.val = k) :
      SupervisorStep ids s (.join i)
        { s with supervisor :=
            .joining origin (k + 1) (results.insert (ids i) (shutdownState (s.workers i))) }
  | returnFaulted {s origin results} (hs : s.supervisor = .joining origin n results) :
      SupervisorStep ids s .returnFaulted
        { s with supervisor := .returned ⟨true, origin.map FaultReport.reason, results⟩ }

/-- `ConcurrentSupervisor` after construction: no thread started, nothing reported. -/
def SupervisorState.initial (n : ℕ) : SupervisorState n :=
  ⟨fun _ ↦ ⟨.notStarted, none⟩, FaultBus.init, .starting 0, 0⟩

/-- The system of one supervised run. -/
def supervisorSystem {n : ℕ} (ids : Fin n → String) :
    System (SupervisorState n) (SupervisorEvent n) :=
  ⟨fun s ↦ s = .initial n, SupervisorStep ids⟩

/-! ## What the threads keep -/

section Invariants

variable {n : ℕ} {ids : Fin n → String}

/-- Inside `report`, the record kept and the event not yet set. -/
def WorkerPc.isSignalling : WorkerPc → Bool
  | .signalling _ => true
  | _ => false

@[simp] theorem pc_moveWorker (s : SupervisorState n) (i j : Fin n) (pc : WorkerPc) :
    ((s.moveWorker i pc).workers j).pc = if j = i then pc else (s.workers j).pc := by
  by_cases h : j = i
  · subst h
    simp [SupervisorState.moveWorker]
  · simp [SupervisorState.moveWorker, h]

@[simp] theorem bus_moveWorker (s : SupervisorState n) (i : Fin n) (pc : WorkerPc) :
    (s.moveWorker i pc).bus = s.bus := rfl

@[simp] theorem pc_requestStop (s : SupervisorState n) (i j : Fin n) (reason : String) :
    (Function.update s.workers i ((s.workers i).requestStop reason) j).pc = (s.workers j).pc := by
  by_cases h : j = i
  · subst h
    simp [Worker.requestStop]
  · simp [h]

theorem isSignalling_afterConnect (g : String) (o : ConnectOutcome) :
    (afterConnect g o).isSignalling = false := by
  cases o <;> rfl

theorem isSignalling_afterSupervise (g : String) (c : Bool) (o : SuperviseOutcome) :
    (afterSupervise g c o).isSignalling = false := by
  cases o with
  | returned failed => cases failed <;> cases c <;> rfl
  | raised e => rfl

theorem isSignalling_afterDisconnect (g : String) (o : DisconnectOutcome) :
    (afterDisconnect g o).isSignalling = false := by
  cases o <;> rfl

theorem isSignalling_pc (next : AfterReport) : next.pc.isSignalling = false := by
  cases next <;> rfl

/-- Moving a worker that was outside the critical part of `report` to a place outside it changes
nobody's being inside. -/
theorem isSignalling_moveWorker {s : SupervisorState n} {i : Fin n} {pc : WorkerPc}
    (hold : (s.workers i).pc.isSignalling = false) (hnew : pc.isSignalling = false) (j : Fin n) :
    ((s.moveWorker i pc).workers j).pc.isSignalling = (s.workers j).pc.isSignalling := by
  by_cases h : j = i
  · rw [pc_moveWorker, if_pos h, hnew, h, hold]
  · rw [pc_moveWorker, if_neg h]

/-- **What one step does to the bus.** Nothing, or it keeps a record and leaves a worker inside
`report`, or it sets the event for a worker that was inside. -/
theorem SupervisorStep.bus_cases {s s' : SupervisorState n} {e : SupervisorEvent n}
    (hs : SupervisorStep ids s e s') :
    (s'.bus = s.bus ∧ (∀ i, e ≠ .signal i) ∧
        ∀ j, (s'.workers j).pc.isSignalling = (s.workers j).pc.isSignalling) ∨
      (∃ r, s'.bus = s.bus.record r ∧ (∀ i, e ≠ .signal i) ∧
        ∃ i, (s'.workers i).pc.isSignalling = true) ∨
      (∃ i, e = .signal i ∧ s'.bus = s.bus.signal ∧ (s.workers i).pc.isSignalling = true ∧
        ∀ j, (s'.workers j).pc.isSignalling = true → (s.workers j).pc.isSignalling = true) := by
  cases hs with
  | record i time hw =>
    exact Or.inr (Or.inl ⟨_, rfl, nofun, i, by simp [WorkerPc.isSignalling]⟩)
  | signal i hw =>
    refine Or.inr (Or.inr ⟨i, rfl, rfl, by rw [hw]; rfl, fun j ↦ ?_⟩)
    by_cases h : j = i <;> simp [h, isSignalling_pc]
  | start i _ _ hw =>
    exact Or.inl ⟨rfl, nofun, isSignalling_moveWorker (by rw [hw]; rfl) rfl⟩
  | connect i o hw =>
    exact Or.inl ⟨rfl, nofun,
      isSignalling_moveWorker (by rw [hw]; rfl) (isSignalling_afterConnect _ o)⟩
  | supervise i o hw =>
    exact Or.inl ⟨rfl, nofun,
      isSignalling_moveWorker (by rw [hw]; rfl) (isSignalling_afterSupervise _ _ o)⟩
  | disconnect i o hw =>
    exact Or.inl ⟨rfl, nofun,
      isSignalling_moveWorker (by rw [hw]; rfl) (isSignalling_afterDisconnect _ o)⟩
  | requestStop i _ _ => exact Or.inl ⟨rfl, nofun, fun j ↦ by rw [pc_requestStop]⟩
  | _ => exact Or.inl ⟨rfl, nofun, fun _ ↦ rfl⟩

/-- The bus and the workers inside `report`, along a run: the event is set exactly when some
worker has set it, and a record is kept exactly when the event is set or about to be. -/
structure BusInv (evs : List (SupervisorEvent n)) (s : SupervisorState n) : Prop where
  /-- The origin is the first record. -/
  originFirst : s.bus.OriginIsFirst
  /-- The event is set exactly when a worker has set it. -/
  tripped_iff : s.bus.tripped = true ↔ ∃ i, .signal i ∈ evs
  /-- Nobody sets the event without a record. -/
  reported : s.bus.tripped = true → s.bus.allReports ≠ []
  /-- A worker inside `report` has left a record. -/
  signalling : ∀ i, (s.workers i).pc.isSignalling = true → s.bus.allReports ≠ []
  /-- A record whose event is not set has its worker still inside `report`. -/
  pending : s.bus.allReports ≠ [] →
    s.bus.tripped = true ∨ ∃ i, (s.workers i).pc.isSignalling = true

theorem BusInv.step {evs : List (SupervisorEvent n)} {s s' : SupervisorState n}
    {e : SupervisorEvent n} (hI : BusInv evs s) (hs : SupervisorStep ids s e s') :
    BusInv (e :: evs) s' := by
  obtain ⟨hfirst, htripped, hreported, hsignalling, hpending⟩ := hI
  rcases hs.bus_cases with ⟨hb, he, hw⟩ | ⟨r, hb, he, hw⟩ | ⟨i, rfl, hb, hi, hw⟩
  · have he' : (∃ i, .signal i ∈ e :: evs) ↔ ∃ i, .signal i ∈ evs := by
      simp [fun i ↦ (he i).symm]
    exact ⟨by rwa [hb], by rw [hb, htripped, he'], by rwa [hb],
      fun j ↦ by rw [hb, hw]; exact hsignalling j, by simpa only [hb, hw] using hpending⟩
  · have he' : (∃ i, .signal i ∈ e :: evs) ↔ ∃ i, .signal i ∈ evs := by
      simp [fun i ↦ (he i).symm]
    exact ⟨by rw [hb]; exact hfirst.record r, by rw [hb, he']; exact htripped, by simp [hb],
      by simp [hb], fun _ ↦ Or.inr hw⟩
  · exact ⟨by rw [hb]; exact hfirst, by simp [hb], fun _ ↦ by rw [hb]; exact hsignalling i hi,
      fun j hj ↦ by rw [hb]; exact hsignalling j (hw j hj), fun _ ↦ Or.inl (by simp [hb])⟩

/-- What no step takes back: a thread once started stays started, a thread once finished stays
finished, and an origin once fixed stays the origin. -/
structure Advances (s s' : SupervisorState n) : Prop where
  /-- Started threads stay started. -/
  started : ∀ j, (s.workers j).pc ≠ .notStarted → (s'.workers j).pc ≠ .notStarted
  /-- Finished threads stay finished. -/
  finished : ∀ j, (s.workers j).pc = .finished → (s'.workers j).pc = .finished
  /-- The origin stays. -/
  origin : ∀ first, s.bus.origin = some first → s'.bus.origin = some first

private theorem advances_moveWorker {s s' : SupervisorState n} {i : Fin n} {pc : WorkerPc}
    (hpc : pc ≠ .notStarted) (hold : (s.workers i).pc ≠ .finished)
    (hw : ∀ j, (s'.workers j).pc = if j = i then pc else (s.workers j).pc)
    (hb : ∀ first, s.bus.origin = some first → s'.bus.origin = some first) :
    Advances s s' := by
  refine ⟨fun j hj ↦ ?_, fun j hj ↦ ?_, hb⟩
  · rw [hw]
    split
    · exact hpc
    · exact hj
  · have hne : j ≠ i := by
      rintro rfl
      exact hold hj
    rw [hw, if_neg hne, hj]

theorem SupervisorStep.advances {s s' : SupervisorState n} {e : SupervisorEvent n}
    (hs : SupervisorStep ids s e s') : Advances s s' := by
  cases hs with
  | start i _ _ hw =>
    exact advances_moveWorker (by simp) (by simp [hw]) (pc_moveWorker s i · _) fun _ h ↦ h
  | connect i o hw =>
    exact advances_moveWorker (by cases o <;> simp [afterConnect]) (by simp [hw])
      (pc_moveWorker s i · _) fun _ h ↦ h
  | supervise i o hw =>
    refine advances_moveWorker ?_ (by simp [hw]) (pc_moveWorker s i · _) fun _ h ↦ h
    cases o with
    | returned failed => cases failed <;> cases (s.workers i).cancellation <;> simp [afterSupervise]
    | raised e => simp [afterSupervise]
  | disconnect i o hw =>
    exact advances_moveWorker (by cases o <;> simp [afterDisconnect]) (by simp [hw])
      (pc_moveWorker s i · _) fun _ h ↦ h
  | record i time hw =>
    exact advances_moveWorker (by simp) (by simp [hw]) (pc_moveWorker s i · _)
      fun _ h ↦ FaultBus.origin_record_of_some h _
  | @signal next i hw =>
    exact advances_moveWorker (by cases next <;> simp [AfterReport.pc]) (by simp [hw])
      (pc_moveWorker s i · _) fun _ h ↦ h
  | requestStop i _ _ =>
    exact ⟨fun j hj ↦ by rwa [pc_requestStop], fun j hj ↦ by rwa [pc_requestStop], fun _ h ↦ h⟩
  | _ => exact ⟨fun _ h ↦ h, fun _ h ↦ h, fun _ h ↦ h⟩

/-- What the supervisor's program counter says about the threads, the origin and the number of
triggers. -/
def Coherent (s : SupervisorState n) : Prop :=
  match s.supervisor with
  | .starting k => s.triggers = 0 ∧ ∀ j, j.val < k → (s.workers j).pc ≠ .notStarted
  | .waiting => s.triggers = 0 ∧ ∀ j, (s.workers j).pc ≠ .notStarted
  | .polling k => s.triggers = 0 ∧ (∀ j, (s.workers j).pc ≠ .notStarted) ∧
      ∀ j, j.val < k → (s.workers j).pc = .finished
  | .tripped => s.triggers = 0 ∧ ∃ first, s.bus.origin = some first
  | .triggering origin =>
      s.triggers = 0 ∧ ∃ first, origin = some first ∧ s.bus.origin = some first
  | .stopping origin _ _ =>
      s.triggers = 1 ∧ ∃ first, origin = some first ∧ s.bus.origin = some first
  | .joining origin _ _ =>
      s.triggers = 1 ∧ ∃ first, origin = some first ∧ s.bus.origin = some first
  | .returned result =>
      if result.faulted then
        s.triggers = 1 ∧
          ∃ first, s.bus.origin = some first ∧ result.faultReason = some first.reason
      else ∀ j, (s.workers j).pc = .finished

/-- A step that leaves the supervisor where it is keeps what its program counter says. -/
theorem Coherent.of_advances {s s' : SupervisorState n} (h : Coherent s) (ha : Advances s s')
    (hpc : s'.supervisor = s.supervisor) (ht : s'.triggers = s.triggers) : Coherent s' := by
  obtain ⟨hstarted, hfinished, horigin⟩ := ha
  rw [Coherent] at *
  rw [hpc, ht]
  cases hs : s.supervisor with
  | starting k =>
    rw [hs] at h
    exact ⟨h.1, fun j hj ↦ hstarted j (h.2 j hj)⟩
  | waiting =>
    rw [hs] at h
    exact ⟨h.1, fun j ↦ hstarted j (h.2 j)⟩
  | polling k =>
    rw [hs] at h
    exact ⟨h.1, fun j ↦ hstarted j (h.2.1 j), fun j hj ↦ hfinished j (h.2.2 j hj)⟩
  | tripped =>
    rw [hs] at h
    exact ⟨h.1, h.2.imp fun first hf ↦ horigin first hf⟩
  | triggering origin | stopping origin _ _ | joining origin _ _ =>
    rw [hs] at h
    exact ⟨h.1, h.2.imp fun first hf ↦ ⟨hf.1, horigin first hf.2⟩⟩
  | returned result =>
    rw [hs] at h
    dsimp only at h ⊢
    split
    · rename_i hfaulted
      rw [if_pos hfaulted] at h
      exact ⟨h.1, h.2.imp fun first hf ↦ ⟨horigin first hf.1, hf.2⟩⟩
    · rename_i hfaulted
      rw [if_neg hfaulted] at h
      exact fun j ↦ hfinished j (h j)

theorem Worker.finished_of_not_isAlive {w : Worker} (hs : w.pc ≠ .notStarted)
    (h : w.isAlive = false) : w.pc = .finished := by
  simpa [Worker.isAlive, hs] using h

theorem Coherent.step {evs : List (SupervisorEvent n)} {s s' : SupervisorState n}
    {e : SupervisorEvent n} (hb : BusInv evs s) (h : Coherent s)
    (hs : SupervisorStep ids s e s') : Coherent s' := by
  have ha := hs.advances
  cases hs with
  | connect | supervise | disconnect | record | signal => exact h.of_advances ha rfl rfl
  | @start k i hpc hi hw =>
    rw [Coherent, hpc] at h
    refine ⟨h.1, fun j hj ↦ ?_⟩
    by_cases hji : j = i
    · simp [hji]
    · have hlt : j.val < k := by
        have hne : j.val ≠ i.val := fun hv ↦ hji (Fin.ext hv)
        omega
      simpa [hji] using h.2 j hlt
  | allStarted hpc =>
    rw [Coherent, hpc] at h
    exact ⟨h.1, fun j ↦ h.2 j j.isLt⟩
  | timedOut hpc _ =>
    rw [Coherent, hpc] at h
    exact ⟨h.1, h.2, fun j hj ↦ absurd hj (Nat.not_lt_zero _)⟩
  | woken hpc htripped =>
    rw [Coherent, hpc] at h
    -- the event is set after the report, so there is a first one
    have hne := hb.reported htripped
    have horigin : s.bus.origin = some (s.bus.allReports.head hne) := by
      rw [hb.originFirst, List.head?_eq_some_head hne]
    exact ⟨h.1, _, horigin⟩
  | foundAlive i hpc _ _ =>
    rw [Coherent, hpc] at h
    exact ⟨h.1, h.2.1⟩
  | @foundDead k i hpc hi hdead =>
    rw [Coherent, hpc] at h
    refine ⟨h.1, h.2.1, fun j hj ↦ ?_⟩
    by_cases hji : j = i
    · rw [hji]
      exact Worker.finished_of_not_isAlive (h.2.1 i) hdead
    · have hne : j.val ≠ i.val := fun hv ↦ hji (Fin.ext hv)
      exact h.2.2 j (by omega)
  | returnFinished hpc =>
    rw [Coherent, hpc] at h
    exact fun j ↦ h.2.2 j j.isLt
  | readOrigin hpc =>
    rw [Coherent, hpc] at h
    exact ⟨h.1, h.2.imp fun first hf ↦ ⟨hf, hf⟩⟩
  | trigger hpc =>
    rw [Coherent, hpc] at h
    exact ⟨congrArg (· + 1) h.1, h.2⟩
  | requestStop i hpc _ | allRequested hpc | join i hpc _ =>
    rw [Coherent, hpc] at h
    exact h
  | returnFaulted hpc =>
    rw [Coherent, hpc] at h
    obtain ⟨ht, first, rfl, horigin⟩ := h
    exact ⟨ht, first, horigin, rfl⟩

/-! ## Reports the loop does not come round to see -/

/-- The events since the last wait that timed out. -/
def sinceTimeout (evs : List (SupervisorEvent n)) : List (SupervisorEvent n) :=
  evs.takeWhile (· ≠ .timedOut)

theorem sinceTimeout_cons {e : SupervisorEvent n} (he : e ≠ .timedOut)
    (evs : List (SupervisorEvent n)) : sinceTimeout (e :: evs) = e :: sinceTimeout evs :=
  List.takeWhile_cons_of_pos (by simpa using he)

/-- Past a wait that timed out: polling, or returned from there. -/
def PastTimeout (s : SupervisorState n) : Prop :=
  match s.supervisor with
  | .polling _ => True
  | .returned result => result.faulted = false
  | _ => False

/-- Past a wait that timed out, every report completed so far was completed since. -/
def SignalsAreRecent (evs : List (SupervisorEvent n)) (s : SupervisorState n) : Prop :=
  PastTimeout s → ∀ i, .signal i ∈ evs → .signal i ∈ sinceTimeout evs

/-- A step that brings the supervisor past a wait is that wait's timing out; any other step past
a wait starts past it. -/
theorem SupervisorStep.pastTimeout {s s' : SupervisorState n} {e : SupervisorEvent n}
    (hs : SupervisorStep ids s e s') (hp : PastTimeout s') :
    (e = .timedOut ∧ s.bus.tripped = false) ∨ (e ≠ .timedOut ∧ PastTimeout s) := by
  cases hs with
  | timedOut hpc hb => exact Or.inl ⟨rfl, hb⟩
  | connect | supervise | disconnect | record | signal => exact Or.inr ⟨nofun, hp⟩
  | foundDead i hpc | returnFinished hpc =>
    exact Or.inr ⟨nofun, by rw [PastTimeout, hpc]; trivial⟩
  | returnFaulted => exact absurd hp (by simp [PastTimeout])
  | _ => exact absurd hp (by simp [PastTimeout])

theorem SignalsAreRecent.step {evs : List (SupervisorEvent n)} {s s' : SupervisorState n}
    {e : SupervisorEvent n} (hb : BusInv evs s) (h : SignalsAreRecent evs s)
    (hs : SupervisorStep ids s e s') : SignalsAreRecent (e :: evs) s' := by
  intro hp i hi
  rcases hs.pastTimeout hp with ⟨rfl, htripped⟩ | ⟨he, hp⟩
  · have hold : .signal i ∈ evs := (List.mem_cons.mp hi).resolve_left nofun
    rw [hb.tripped_iff.mpr ⟨i, hold⟩] at htripped
    exact absurd htripped nofun
  · rw [sinceTimeout_cons he]
    rcases List.mem_cons.mp hi with rfl | hi
    · exact List.mem_cons_self
    · exact List.mem_cons_of_mem _ (h hp i hi)

/-- Returning without a fault is the one event of that name. -/
theorem returnFinished_mem_iff {evs : List (SupervisorEvent n)} {s : SupervisorState n}
    (hrun : Run (supervisorSystem ids) evs s) :
    .returnFinished ∈ evs ↔ ∃ result, s.supervisor = .returned result ∧ result.faulted = false := by
  induction hrun with
  | init h =>
    obtain rfl := h
    simp [SupervisorState.initial]
  | step hrun hs ih =>
    rw [List.mem_cons, ih]
    cases hs with
    | returnFinished hpc => simp
    | connect | supervise | disconnect | record | signal => simp [SupervisorState.moveWorker]
    | start i hpc | allStarted hpc | timedOut hpc | woken hpc | foundAlive i hpc | foundDead i hpc
    | readOrigin hpc | trigger hpc | requestStop i hpc | allRequested hpc | join i hpc
    | returnFaulted hpc => simp [hpc]

/-- The three invariants together, along a run. -/
theorem run_invariants {evs : List (SupervisorEvent n)} {s : SupervisorState n}
    (hrun : Run (supervisorSystem ids) evs s) :
    BusInv evs s ∧ Coherent s ∧ SignalsAreRecent evs s := by
  refine hrun.induction (I := fun evs s ↦ BusInv evs s ∧ Coherent s ∧ SignalsAreRecent evs s)
    ?_ fun evs s e s' _ ⟨hb, hc, hr⟩ hs ↦ ⟨hb.step hs, hc.step hb hs, hr.step hb hs⟩
  rintro s rfl
  refine ⟨⟨rfl, ?_, nofun, nofun, fun h ↦ absurd rfl h⟩, ?_, nofun⟩
  · simp [SupervisorState.initial, FaultBus.init]
  · exact ⟨rfl, fun j hj ↦ absurd hj (Nat.not_lt_zero _)⟩

/-- What `run` promises about its result: `faulted=False` only if the bus accepted no report, and
`faulted=True` with the reason of the first report accepted and after exactly one trigger. Where
`run` has not returned it promises nothing yet. -/
def MeetsContract (s : SupervisorState n) : Prop :=
  match s.supervisor with
  | .returned result =>
    if result.faulted then
      (∃ first, s.bus.allReports.head? = some first ∧
        result.faultReason = some first.reason) ∧ s.triggers = 1
    else s.bus.allReports = []
  | _ => True

/-- The schedule lets a report slip through: the supervisor finds every worker dead and returns,
and a report was completed since the last wait that timed out. -/
def MissesReport (evs : List (SupervisorEvent n)) : Prop :=
  .returnFinished ∈ evs ∧ ∃ i, .signal i ∈ sinceTimeout evs

/-- A run that returned without a fault accepted a report exactly when one was completed since
the last wait that timed out. -/
theorem allReports_eq_nil_iff_of_finished {evs : List (SupervisorEvent n)}
    {s : SupervisorState n} (hrun : Run (supervisorSystem ids) evs s)
    {result : ConcurrentRunResult} (hpc : s.supervisor = .returned result)
    (hres : result.faulted = false) :
    s.bus.allReports = [] ↔ ¬∃ i, .signal i ∈ sinceTimeout evs := by
  obtain ⟨hb, hc, hr⟩ := run_invariants hrun
  have hdone : ∀ j, (s.workers j).pc = .finished := by
    rw [Coherent, hpc] at hc
    dsimp only at hc
    rwa [if_neg (by simp [hres])] at hc
  have hpast : PastTimeout s := by
    rw [PastTimeout, hpc]
    exact hres
  constructor
  · rintro hnil ⟨i, hi⟩
    have htripped := hb.tripped_iff.mpr ⟨i, (List.takeWhile_subset _) hi⟩
    exact hb.reported htripped hnil
  · intro hno
    by_contra hne
    rcases hb.pending hne with htripped | ⟨i, hi⟩
    · obtain ⟨i, hi⟩ := hb.tripped_iff.mp htripped
      exact hno ⟨i, hr hpast i hi⟩
    · rw [hdone i] at hi
      exact absurd hi nofun

/-- **When the supervisor keeps its promise.** A run of any number of workers, interleaved in any
way, keeps the contract of its result exactly when its schedule does not let a report slip
between a wait that timed out and the return. -/
theorem meetsContract_iff {evs : List (SupervisorEvent n)} {s : SupervisorState n}
    (hrun : Run (supervisorSystem ids) evs s) : MeetsContract s ↔ ¬MissesReport evs := by
  obtain ⟨hb, hc, -⟩ := run_invariants hrun
  rw [MissesReport, returnFinished_mem_iff hrun]
  cases hpc : s.supervisor with
  | returned result =>
    rw [MeetsContract, hpc]
    cases hres : result.faulted with
    | true =>
      rw [Coherent, hpc] at hc
      dsimp only at hc
      rw [if_pos hres] at hc
      obtain ⟨ht, first, horigin, hreason⟩ := hc
      refine iff_of_true ?_ (by simp [hres])
      dsimp only
      rw [if_pos hres]
      exact ⟨⟨first, by rw [← hb.originFirst, horigin], hreason⟩, ht⟩
    | false =>
      dsimp only
      rw [if_neg (by simp [hres]), allReports_eq_nil_iff_of_finished hrun hpc hres]
      simp [hres]
  | _ => exact iff_of_true (by rw [MeetsContract, hpc]; trivial) (by simp)

end Invariants

/-- The only worker cannot connect and reports, and the supervisor wakes up and stops it. -/
theorem meetsContract_oneWorker :
    ∃ s : SupervisorState 1, MeetsContract s ∧ s.triggers = 1 ∧
      Run (supervisorSystem fun _ ↦ "AUX_SMU_1") [.returnFaulted, .join 0, .allRequested,
        .requestStop 0, .trigger, .readOrigin, .woken, .signal 0, .record 0 0,
        .connect 0 (.hardwareInitError "no such device"), .allStarted, .start 0] s := by
  have hrun := Run.init (S := supervisorSystem fun _ : Fin 1 ↦ "AUX_SMU_1") rfl
    |>.step (SupervisorStep.start 0 rfl rfl rfl)
    |>.step (SupervisorStep.allStarted rfl)
    |>.step (SupervisorStep.connect 0 (.hardwareInitError "no such device") rfl)
    |>.step (SupervisorStep.record 0 0 rfl)
    |>.step (SupervisorStep.signal 0 rfl)
    |>.step (SupervisorStep.woken rfl rfl)
    |>.step (SupervisorStep.readOrigin rfl)
    |>.step (SupervisorStep.trigger rfl)
    |>.step (SupervisorStep.requestStop 0 rfl rfl)
    |>.step (SupervisorStep.allRequested rfl)
    |>.step (SupervisorStep.join 0 rfl rfl)
    |>.step (SupervisorStep.returnFaulted rfl)
  exact ⟨_, (meetsContract_iff hrun).mpr (by simp [MissesReport]), rfl, hrun⟩

/-- The wait times out while the only worker is still connecting; connecting fails, the worker
reports and ends, and only then the loop looks at its thread. -/
theorem not_meetsContract_lateReport :
    ¬∀ (n : ℕ) (ids : Fin n → String) (evs : List (SupervisorEvent n)) (s : SupervisorState n),
      Run (supervisorSystem ids) evs s → MeetsContract s := by
  intro h
  have hrun := Run.init (S := supervisorSystem fun _ : Fin 1 ↦ "AUX_SMU_1") rfl
    |>.step (SupervisorStep.start 0 rfl rfl rfl)
    |>.step (SupervisorStep.allStarted rfl)
    |>.step (SupervisorStep.timedOut rfl rfl)
    |>.step (SupervisorStep.connect 0 (.hardwareInitError "no such device") rfl)
    |>.step (SupervisorStep.record 0 0 rfl)
    |>.step (SupervisorStep.signal 0 rfl)
    |>.step (SupervisorStep.foundDead 0 rfl rfl rfl)
    |>.step (SupervisorStep.returnFinished rfl)
  have hnil := h 1 _ _ _ hrun
  exact absurd hnil (List.cons_ne_nil _ _)

end Nipxi
