import Nipxi.Scripts.IncidentSummary
import Nipxi.TestControl.Cancellation
import Nipxi.TestControl.RelayIsolation

/-!
# The digest of a run that ends on a fault

A phase whose output is not verified off reports the fault, has it acknowledged and raises. What
is then left to do writes to the event log as well: `run_guarded` its row on the error and the
trace of the shutdown, the position runner its row on the station fault.
`_testing_continued_after_fault` asks for any later row, so it denies that testing continued
exactly if none of these writes leaves a row with a later time (`deniesTesting_iff`).
-/

namespace Nipxi

open Collections Effect

/-! ## The event log of a run -/

/-- How the calls of a run come into the event log: the `n`-th call leaves rows there, with times
in their order. -/
structure EventLog where
  rows : ℕ → StationCall → List EventRow
  /-- A call of `log_event` that returned has left its message. -/
  logs : ∀ n entry, ∃ row, rows n (.call (.logEvent entry) none) = [row] ∧
    row.message = entry.message.toList
  /-- The clock does not go back. -/
  inOrder : ∀ m n c d, m < n → ∀ row ∈ rows m c, ∀ later ∈ rows n d,
    row.timestamp ≤ later.timestamp

namespace EventLog

variable (log : EventLog)

/-- The rows of calls, newest call first, of which the oldest is the `n`-th. -/
def written (n : ℕ) : List StationCall → List EventRow
  | [] => []
  | c :: calls => written n calls ++ log.rows (n + calls.length) c

variable {log}

theorem written_append (n : ℕ) (new old : List StationCall) :
    log.written n (new ++ old) = log.written n old ++ log.written (n + old.length) new := by
  induction new with
  | nil => exact (List.append_nil _).symm
  | cons c new ih =>
    have hlength : n + (new ++ old).length = n + old.length + new.length := by
      rw [List.length_append]
      omega
    rw [List.cons_append, written, written, ih, hlength, List.append_assoc]

theorem exists_of_mem_written {n : ℕ} {calls : List StationCall} {row : EventRow}
    (h : row ∈ log.written n calls) :
    ∃ k c, n ≤ k ∧ k < n + calls.length ∧ row ∈ log.rows k c := by
  induction calls with
  | nil => exact absurd h List.not_mem_nil
  | cons c calls ih =>
    rcases List.mem_append.mp h with h | h
    · obtain ⟨k, d, hle, hlt, hrow⟩ := ih h
      exact ⟨k, d, hle, Nat.lt_succ_of_lt hlt, hrow⟩
    · exact ⟨_, c, Nat.le_add_right _ _, Nat.lt_succ_self _, h⟩

theorem exists_mem_written {n : ℕ} {calls : List StationCall} {c : StationCall} (h : c ∈ calls) :
    ∃ k, n ≤ k ∧ ∀ row ∈ log.rows k c, row ∈ log.written n calls := by
  induction calls with
  | nil => exact absurd h List.not_mem_nil
  | cons d calls ih =>
    rcases List.mem_cons.mp h with rfl | h
    · exact ⟨_, Nat.le_add_right n calls.length, fun _ hrow ↦ List.mem_append_right _ hrow⟩
    · obtain ⟨k, hle, hrows⟩ := ih h
      exact ⟨k, hle, fun row hrow ↦ List.mem_append_left _ (hrows row hrow)⟩

/-- The clock ticks between calls. -/
def Ticks (log : EventLog) : Prop :=
  ∀ m n c d, m < n → ∀ row ∈ log.rows m c, ∀ later ∈ log.rows n d, row.timestamp < later.timestamp

end EventLog

/-! ## What follows an acknowledgement -/

section Calls

variable {X : Type}

/-- `acknowledge_safety_fault` returned. -/
def StationCall.IsAcknowledgement : StationCall → Prop
  | .call .acknowledgeSafetyFault none => True
  | _ => False

theorem eq_of_isAcknowledgement {c : StationCall} (h : c.IsAcknowledgement) :
    c = .call .acknowledgeSafetyFault none := by
  unfold StationCall.IsAcknowledgement at h
  split at h
  · rfl
  · exact h.elim

/-- `log_event` was called with the row on an unexpected error. -/
def StationCall.IsErrorRow (g : GuardedRun X) (c : StationCall) : Prop :=
  ∃ reason raised, c = .call (.logEvent (g.entry "ERROR" ("Unexpected error -- " ++ reason))) raised

/-- No fault was acknowledged. -/
def Unacknowledged (calls : List StationCall) : Prop := ∀ c ∈ calls, ¬c.IsAcknowledgement

/-- After every acknowledgement the row on the error is attempted. -/
def Followed (g : GuardedRun X) (calls : List StationCall) : Prop :=
  ∀ after before, calls = after ++ .call .acknowledgeSafetyFault none :: before →
    ∃ c ∈ after, c.IsErrorRow g

variable {g : GuardedRun X} {new old : List StationCall}

theorem Unacknowledged.append (hnew : Unacknowledged new) (hold : Unacknowledged old) :
    Unacknowledged (new ++ old) :=
  List.forall_mem_append.mpr ⟨hnew, hold⟩

theorem Unacknowledged.notMem (h : Unacknowledged new) :
    StationCall.call .acknowledgeSafetyFault none ∉ new :=
  fun hmem ↦ h _ hmem trivial

theorem Unacknowledged.followed (h : Unacknowledged new) : Followed g new := by
  rintro after before rfl
  exact absurd (List.mem_append_right after List.mem_cons_self) h.notMem

theorem Followed.append (hnew : Followed g new) (hold : Followed g old) :
    Followed g (new ++ old) := by
  intro after before heq
  rcases List.append_eq_append_iff.mp heq with ⟨middle, hafter, hold'⟩ | ⟨middle, hnew', htail⟩
  · obtain ⟨c, hc, hrow⟩ := hold middle before hold'
    exact ⟨c, hafter ▸ List.mem_append_right new hc, hrow⟩
  · cases middle with
    | nil =>
      obtain ⟨c, hc, -⟩ := hold [] before htail.symm
      exact absurd hc List.not_mem_nil
    | cons d middle =>
      obtain ⟨rfl, -⟩ := List.cons.inj htail
      exact hnew after middle hnew'

/-- The row is attempted by calls that acknowledge nothing, so whatever came before is followed. -/
theorem followed_of_errorRow (hnew : Unacknowledged new) {c : StationCall} (hc : c ∈ new)
    (hrow : c.IsErrorRow g) : Followed g (new ++ old) := by
  intro after before heq
  rcases List.append_eq_append_iff.mp heq with ⟨middle, hafter, -⟩ | ⟨middle, hnew', htail⟩
  · exact ⟨c, hafter ▸ List.mem_append_left middle hc, hrow⟩
  · cases middle with
    | nil => exact ⟨c, by rwa [hnew', List.append_nil] at hc, hrow⟩
    | cons d middle =>
      obtain ⟨rfl, -⟩ := List.cons.inj htail
      exact absurd (hnew' ▸ List.mem_append_right after List.mem_cons_self) hnew.notMem

instance (g : GuardedRun X) :
    IsPreorder (StationSession X) (Added StationSession.trace (Followed g)) where
  refl _ := ⟨[], rfl, Unacknowledged.followed (List.forall_mem_nil _)⟩
  trans _ _ _ h h' := h.append h' fun _ _ hold hnew ↦ hnew.append hold

end Calls

/-! ## The programs -/

section Programs

variable {X : Type} {st : Station X} {r : SequenceRun X} {ph : Phase X} {g : GuardedRun X}

/-- `x` acknowledges no fault. -/
abbrev Apart {α : Type} (x : StationProg X α) : Prop :=
  Within (Only fun c ↦ ¬c.IsAcknowledgement) x

theorem not_isAcknowledgement {K : StationCall → Prop}
    (hK : ¬K (.call .acknowledgeSafetyFault none)) {c : StationCall} (h : K c) :
    ¬c.IsAcknowledgement := by
  intro hack
  obtain rfl := eq_of_isAcknowledgement hack
  exact hK h

theorem apart_of_ends {α : Type} {K : StationCall → Prop} {x : StationProg X α}
    (hx : Ends (Only K) x) (hK : ¬K (.call .acknowledgeSafetyFault none)) : Apart x :=
  hx.within.mono fun _ _ h ↦ h.mono fun _ hnew c hc ↦ not_isAcknowledgement hK (hnew c hc)

theorem Apart.followed {α : Type} {x : StationProg X α} (hx : Apart x) :
    Within (Added StationSession.trace (Followed g)) x :=
  Within.mono hx fun _ _ h ↦ h.mono fun _ hnew ↦ Unacknowledged.followed hnew

theorem apart_call {op : Operation} (hop : op ≠ .acknowledgeSafetyFault) :
    Apart (StationProg.call st op) := by
  refine (only_call fun raised ↦ ?_).within
  cases op with
  | acknowledgeSafetyFault => exact absurd rfl hop
  | _ => exact id

/-! ### The phase -/

/-- `x` acknowledges a fault only to raise for it. -/
abbrev RaisesAcknowledged {α : Type} (x : StationProg X α) : Prop :=
  Tells StationSession.trace (fun _ new ↦ Unacknowledged new)
    (fun e new ↦ Unacknowledged new ∨ e.cls = .smuStateVerificationError) x

theorem Apart.raisesAcknowledged {α : Type} {x : StationProg X α} (hx : Apart x) :
    RaisesAcknowledged x := fun s ↦
  (hx s).mono (fun _ _ h ↦ h) fun _ _ h ↦ h.mono fun _ ↦ .inl

theorem RaisesAcknowledged.bind {α β : Type} {x : StationProg X α} {f : α → StationProg X β}
    (hx : Apart x) (hf : ∀ a, RaisesAcknowledged (f a)) : RaisesAcknowledged (x >>= f) := by
  refine Tells.bind hx.raisesAcknowledged (fun a old hold ↦ ?_) fun _ _ h ↦ h
  refine (hf a).mono (fun _ _ hnew ↦ hnew.append hold) fun _ _ h ↦ ?_
  exact h.imp_left fun hnew ↦ hnew.append hold

theorem raisesAcknowledged_escalate : RaisesAcknowledged (escalate st r ph) := by
  have hopen : Apart ((StationProg.call st .relayOpenAll).handle fun _ ↦ pure ⟨⟩) :=
    .handle (apart_call nofun) fun _ ↦ .pure _
  refine .bind hopen fun _ ↦ .bind .get fun s ↦ .bind (apart_call nofun) fun _ t ↦ ?_
  refine (post_bind _).mpr ((StationProg.post_call st _ t).mono (fun _ u hu ↦ ?_) fun e u hu ↦ ?_)
  · exact ⟨[_], hu, .inr rfl⟩
  · exact ⟨[_], hu, .inl (List.forall_mem_singleton.mpr id)⟩

theorem apart_sampleUntilEnd : Apart (sampleUntilEnd st r ph) := by
  have hoff (reason : String) : Apart (StationProg.emergencyOutputOff st reason) := fun s ↦
    only_after id s _
  refine .bind (.attempt (apart_call nofun)) fun ended ↦ .bind (hoff _) fun verified ↦ ?_
  refine .bind (apart_call nofun) fun _ ↦ ?_
  cases ended with
  | ok a => exact .pure _
  | error e => exact .raise _

theorem apart_isolate : Apart (isolate st r ph) := by
  refine .bind (apart_call nofun) fun _ ↦ .bind (apart_call nofun) fun _ ↦ ?_
  refine .bind (apart_call nofun) fun _ ↦ .handle (apart_call nofun) fun _ ↦ .pure _

theorem raisesAcknowledged_energize : RaisesAcknowledged (energize st r ph) := by
  have hearly {α : Type} {x : StationProg X α} (hx : Ends (Only StationCall.IsEarly) x) : Apart x :=
    apart_of_ends hx id
  refine .bind (hearly (ends_early_read _)) fun voltage ↦ ?_
  refine .bind (hearly (ends_early_checkBatteryPolarity voltage)) fun _ ↦ ?_
  refine .bind (apart_call nofun) fun _ ↦ .bind (apart_call nofun) fun _ ↦ ?_
  refine .bind (apart_call nofun) fun _ ↦ .bind apart_sampleUntilEnd fun verified ↦ ?_
  exact .ite (fun _ ↦ apart_isolate.raisesAcknowledged) fun _ ↦ raisesAcknowledged_escalate

theorem raisesAcknowledged_phaseBody : RaisesAcknowledged (phaseBody st r ph) := by
  have hconnect : Apart (connectSense st r ph) :=
    apart_of_ends ends_early_connectSense id
  refine .bind (apart_call nofun) fun _ ↦ .bind (apart_call nofun) fun _ ↦ ?_
  refine .bind (apart_call nofun) fun _ ↦ .bind (apart_call nofun) fun _ ↦ ?_
  refine .bind (apart_call nofun) fun _ ↦ .bind hconnect fun _ s ↦ (post_ensuring _).mpr ?_
  -- The sense channel is disconnected without an exception, so the one of the escalation stays.
  have hdisconnect (t : StationSession X) : Post (disconnectSense st r ph)
      (fun _ u ↦ Only StationCall.LeavesAlone t u) (fun _ _ ↦ False) t :=
    post_disconnectSense_trace t
  refine (raisesAcknowledged_energize s).mono (fun _ t ht ↦ ?_) fun e t ht ↦ ?_
  · refine (hdisconnect t).mono (fun _ u hu ↦ ht.append hu fun old new hold hnew ↦ ?_)
      fun _ _ h ↦ h.elim
    exact Unacknowledged.append (fun c hc ↦ not_isAcknowledgement id (hnew c hc)) hold
  · refine (hdisconnect t).mono (fun _ u hu ↦ ht.append hu fun old new hold hnew ↦ ?_)
      fun _ _ h ↦ h.elim
    exact hold.imp_left (Unacknowledged.append fun c hc ↦ not_isAcknowledgement id (hnew c hc))

/-! ### The handler -/

theorem entries_exceptClause {e : Exc} (h : e.cls = .smuStateVerificationError) :
    (exceptClause g e).entries = [g.entry "ERROR" ("Unexpected error -- " ++ e.message)] := by
  obtain ⟨cls, message⟩ := e
  obtain rfl : cls = .smuStateVerificationError := h
  rfl

/-- Calls that acknowledge nothing, among them the row on the error. -/
def Answers (g : GuardedRun X) (new : List StationCall) : Prop :=
  Unacknowledged new ∧ ∃ c ∈ new, c.IsErrorRow g

theorem Answers.after (hold : Answers g old) (hnew : Unacknowledged new) :
    Answers g (new ++ old) := by
  obtain ⟨hapart, c, hc, hrow⟩ := hold
  exact ⟨hnew.append hapart, c, List.mem_append_right new hc, hrow⟩

theorem Answers.before (hnew : Answers g new) (hold : Unacknowledged old) :
    Answers g (new ++ old) := by
  obtain ⟨hapart, c, hc, hrow⟩ := hnew
  exact ⟨hapart.append hold, c, List.mem_append_left old hc, hrow⟩

/-- What follows the row. -/
theorem Answers.tells {α : Type} {x : StationProg X α} (h : Answers g old) (hx : Apart x) :
    Tells StationSession.trace (fun _ new ↦ Answers g (new ++ old))
      (fun _ new ↦ Answers g (new ++ old)) x := fun s ↦
  (hx s).mono (fun _ _ hadd ↦ hadd.mono fun _ hnew ↦ h.after hnew)
    fun _ _ hadd ↦ hadd.mono fun _ hnew ↦ h.after hnew

theorem tells_errorRow (reason : String) :
    Tells StationSession.trace (fun _ new ↦ Answers g new) (fun _ new ↦ Answers g new)
      (logEvents st [g.entry "ERROR" ("Unexpected error -- " ++ reason)]) := by
  intro s
  refine (post_bind _).mpr ((StationProg.post_call st _ s).mono (fun _ t ht ↦ ?_) fun e t ht ↦ ?_)
  · exact ⟨[_], ht, List.forall_mem_singleton.mpr id, _, List.mem_singleton_self _, reason, _, rfl⟩
  · exact ⟨[_], ht, List.forall_mem_singleton.mpr id, _, List.mem_singleton_self _, reason, _, rfl⟩

theorem apart_onEvent (message : String) : Apart (onEvent st g message) :=
  .handle (apart_call nofun) fun _ ↦ .pure _

theorem apart_extraRunSummaryFields : Apart (extraRunSummaryFields g) :=
  (ends_extraRunSummaryFields fun s _ ↦ only_after id s _).within

/-- What the clause writes has the row on the error, if its exception is of a state
verification. -/
theorem tells_recordFailure {e : Exc} (h : e.cls = .smuStateVerificationError) :
    Tells StationSession.trace (fun _ new ↦ Answers g new) (fun _ new ↦ Answers g new)
      (recordFailure st g (exceptClause g e)) := by
  have hvoltage : Apart (safeFinalVoltageReading st g) :=
    apart_of_ends ends_failureRow_safeFinalVoltageReading id
  have hcall (entry : EventEntry) : Apart (StationProg.call st (.traceEvent entry)) :=
    apart_call nofun
  intro s
  -- The callback swallows what the storage raises, so the row is always reached.
  have htrace : Post (onEvent st g (exceptClause g e).detected)
      (fun _ t ↦ Only (fun c ↦ ¬c.IsAcknowledgement) s t) (fun _ _ ↦ False) s :=
    (post_handle _).mpr ((hcall _ s).mono (fun _ _ ht ↦ ht) fun _ _ ht ↦ ht)
  refine (post_bind _).mpr (htrace.mono (fun _ t ht ↦ ?_) fun _ _ hf ↦ hf.elim)
  have hrows : Tells StationSession.trace (fun _ new ↦ Answers g new) (fun _ new ↦ Answers g new)
      (failureRows st g (exceptClause g e)) := by
    unfold failureRows
    rw [entries_exceptClause h]
    refine Tells.bind (tells_errorRow e.message) (fun _ old hold ↦ hold.tells ?_) fun _ _ h ↦ h
    refine .bind (apart_call nofun) fun _ ↦ .bind apart_extraRunSummaryFields fun fields ↦ ?_
    exact .bind hvoltage fun voltage ↦ apart_call nofun
  exact (hrows t).mono (fun _ _ hu ↦ ht.append hu fun _ _ hold hnew ↦ hnew.before hold)
    fun _ _ hu ↦ ht.append hu fun _ _ hold hnew ↦ hnew.before hold

theorem apart_shutDown (clause : ExceptClause) (e : Exc) : Apart (shutDown st g clause e) :=
  apart_of_ends (ends_shutdownStep_shutDown clause e) id

theorem apart_recordFailure (clause : ExceptClause) : Apart (recordFailure st g clause) :=
  .bind (apart_onEvent _) fun _ ↦ apart_of_ends (ends_failureRows clause) id

/-- **The handler answers.** A fault acknowledged under `run_guarded` is followed by the row on the
error. -/
theorem RaisesAcknowledged.runGuarded {α : Type} {fn : StationProg X α}
    (hfn : RaisesAcknowledged fn) :
    Within (Added StationSession.trace (Followed g)) (runGuarded st g fn) := by
  intro s
  refine (post_handle _).mpr ((hfn s).mono (fun _ _ h ↦ h.mono fun _ ↦ Unacknowledged.followed)
    fun e t h ↦ ?_)
  obtain ⟨old, ht, hold⟩ := h
  have hshutDown : Apart (do
      shutDown st g (exceptClause g e) e
      (Prog.raise e : StationProg X α)) :=
    .bind (apart_shutDown _ e) fun _ ↦ .raise e
  rcases hold with hold | hcls
  · have hhandler : Apart (do
        recordFailure st g (exceptClause g e)
        shutDown st g (exceptClause g e) e
        (Prog.raise e : StationProg X α)) :=
      .bind (apart_recordFailure _) fun _ ↦ hshutDown
    have hadd : Only (fun c ↦ ¬c.IsAcknowledgement) s t := ⟨old, ht, hold⟩
    exact (hhandler t).mono
      (fun _ _ h ↦ (hadd.trans h).mono fun _ ↦ Unacknowledged.followed)
      fun _ _ h ↦ (hadd.trans h).mono fun _ ↦ Unacknowledged.followed
  · have hanswers : Tells StationSession.trace (fun _ new ↦ Answers g new)
        (fun _ new ↦ Answers g new) (do
          recordFailure st g (exceptClause g e)
          shutDown st g (exceptClause g e) e
          (Prog.raise e : StationProg X α)) :=
      Tells.bind (tells_recordFailure hcls) (fun _ _ hrow ↦ hrow.tells hshutDown) fun _ _ h ↦ h
    have hadd : Added StationSession.trace (fun new ↦ new = old) s t := ⟨old, ht, rfl⟩
    have hfollowed : ∀ past new : List StationCall, past = old → Answers g new →
        Followed g (new ++ past) := by
      rintro past new rfl ⟨hapart, c, hc, hrow⟩
      exact followed_of_errorRow hapart hc hrow
    exact (hanswers t).mono (fun _ _ h ↦ hadd.append h hfollowed)
      fun _ _ h ↦ hadd.append h hfollowed

/-- **A phase.** Every fault it has acknowledged is followed by the row on the error. -/
theorem ends_followed_runPhase :
    Ends (Added StationSession.trace (Followed ph.guarded)) (runPhase st r ph) := by
  have hwithin : Within (Added StationSession.trace (Followed ph.guarded)) (runPhase st r ph) := by
    have hcomplete : Apart (complete st ph.guarded ph.completed) :=
      apart_of_ends (ends_leavesAlone_complete _) id
    have hnumber : Apart (StationProg.call st .runNumber) := apart_call nofun
    refine .bind hnumber.followed fun _ ↦ ?_
    exact .bind raisesAcknowledged_phaseBody.runGuarded fun _ ↦ hcomplete.followed
  have hends : Ends (fun _ _ ↦ True) (runPhase st r ph) :=
    (spans_true st r).runPhase (ends_extraRunSummaryFields fun _ _ ↦ trivial)
      (ends_call fun _ ↦ trivial)
  intro s
  obtain ⟨t, hlast, -⟩ := hends s
  exact ⟨t, hlast, of_post_of_last (hwithin s) hlast⟩

/-! ### The position -/

theorem walks_followed (st : Station X) (g : GuardedRun X) :
    Walks st (Added StationSession.trace (Followed g)) where
  call op _ hop := ends_call fun s ↦ by
    refine ⟨[_], rfl, Unacknowledged.followed (List.forall_mem_singleton.mpr ?_)⟩
    cases op with
    | acknowledgeSafetyFault => exact absurd rfl hop
    | _ => exact id
  read _ _ := ends_read fun _ ↦
    ⟨[_], rfl, Unacknowledged.followed (List.forall_mem_singleton.mpr id)⟩

/-- The run of a position with one phase. -/
def positionRun (st : Station X) (r : SequenceRun X) (ph : Phase X) (p : PositionRun) :
    StationProg X PositionResult :=
  runOnePosition st (sequenceEnd (runPhase st r ph)) p

theorem ends_followed_positionRun {p : PositionRun} :
    Ends (Added StationSession.trace (Followed ph.guarded)) (positionRun st r ph p) := by
  refine (walks_followed st ph.guarded).runOnePosition (.bind (.attempt ends_followed_runPhase) ?_)
  intro ended
  cases ended with
  | ok _ => exact .pure _
  | error e => exact .pure _

end Programs

/-! ## The digest -/

section Digest

variable {X : Type} {log : EventLog} {calls after before : List StationCall} {row : EventRow}

/-- `testing_continued_after_fault` of the export of the calls is `False`. -/
def DeniesTesting (log : EventLog) (calls : List StationCall) : Prop :=
  testingContinuedAfterFault (log.written 0 calls)
    (buildSafetySection (log.written 0 calls)).faultTimeline.head? = false

/-- The calls acknowledge, with the row, the fault that the export takes for the primary one. -/
structure AcknowledgesPrimary (log : EventLog) (calls after before : List StationCall)
    (row : EventRow) : Prop where
  split : calls = after ++ .call .acknowledgeSafetyFault none :: before
  leaves : log.rows before.length (.call .acknowledgeSafetyFault none) = [row]
  primary : ∃ raised, IsPrimary (log.written 0 calls) raised ∧ row.Acknowledges raised.faultId ∧
    ∀ other ∈ log.written 0 calls, other.Acknowledges raised.faultId → other = row

/-- The rows that the calls after the acknowledgement leave. -/
def EventLog.writtenLater (log : EventLog) (after before : List StationCall) : List EventRow :=
  log.written (before.length + 1) after

theorem AcknowledgesPrimary.written_eq (h : AcknowledgesPrimary log calls after before row) :
    log.written 0 calls = log.written 0 before ++ row :: log.writtenLater after before := by
  have hack : log.written 0 (.call .acknowledgeSafetyFault none :: before) =
      log.written 0 before ++ [row] := by
    rw [EventLog.written, Nat.zero_add, h.leaves]
  rw [h.split, EventLog.written_append, hack, List.append_assoc, List.singleton_append,
    Nat.zero_add, List.length_cons, EventLog.writtenLater]

theorem AcknowledgesPrimary.exists_later_iff (h : AcknowledgesPrimary log calls after before row) :
    (∃ other ∈ log.written 0 calls, row.timestamp < other.timestamp) ↔
      ∃ later ∈ log.writtenLater after before, row.timestamp < later.timestamp := by
  rw [h.written_eq]
  constructor
  · rintro ⟨other, hother, hlt⟩
    rcases List.mem_append.mp hother with hother | hother
    · obtain ⟨k, c, -, hk, hc⟩ := EventLog.exists_of_mem_written hother
      rw [Nat.zero_add] at hk
      have hrow : row ∈ log.rows before.length (.call .acknowledgeSafetyFault none) := by
        rw [h.leaves]
        exact List.mem_singleton_self row
      exact absurd (log.inOrder k _ c _ hk other hc row hrow) (Nat.not_le.mpr hlt)
    · rcases List.mem_cons.mp hother with rfl | hother
      · exact absurd hlt (lt_irrefl _)
      · exact ⟨other, hother, hlt⟩
  · rintro ⟨later, hlater, hlt⟩
    exact ⟨later, List.mem_append_right _ (List.mem_cons_of_mem row hlater), hlt⟩

theorem AcknowledgesPrimary.deniesTesting_iff
    (h : AcknowledgesPrimary log calls after before row) : DeniesTesting log calls ↔
      ∀ later ∈ log.writtenLater after before, later.timestamp ≤ row.timestamp := by
  obtain ⟨raised, hprimary, hack, honly⟩ := h.primary
  obtain ⟨entry, hhead, -, hackAt⟩ := head?_faultTimeline hprimary
  have hmem : row ∈ log.written 0 calls := by
    rw [h.written_eq]
    exact List.mem_append_right _ List.mem_cons_self
  have hsome : ((acknowledgements (log.written 0 calls)).get? raised.faultId).isSome = true :=
    isSome_acknowledgements_iff.mpr ⟨row, hmem, hack⟩
  obtain ⟨time, htime⟩ := Option.isSome_iff_exists.mp hsome
  obtain ⟨other, hother, hacks, hstamp⟩ := exists_acknowledges_of_get? htime
  have hreference : entry.referenceTime = row.timestamp := by
    rw [FaultEntry.referenceTime, hackAt, htime, Option.getD_some, ← hstamp,
      honly other hother hacks]
  have hflag : testingContinuedAfterFault (log.written 0 calls) (some entry) = true ↔
      ∃ later ∈ log.writtenLater after before, row.timestamp < later.timestamp := by
    rw [← h.exists_later_iff, testingContinuedAfterFault, List.any_eq_true, hreference]
    simp only [decide_eq_true_iff]
  rw [DeniesTesting, hhead, ← Bool.not_eq_true, hflag]
  push Not
  rfl

end Digest

/-! ## The run -/

section Run

variable {X : Type}

/-- The calls of a position that runs one phase. -/
def CallsOf (st : Station X) (r : SequenceRun X) (ph : Phase X) (p : PositionRun) (world : X)
    (calls : List StationCall) : Prop :=
  ∃ t, (positionRun st r ph p ⟨world, []⟩).last = some t ∧ t.trace = calls

/-- Where the fault of a phase is acknowledged, the export denies that testing continued. -/
def DeniesTestingAfterFault (st : Station X) (r : SequenceRun X) (ph : Phase X) (p : PositionRun)
    (world : X) (log : EventLog) : Prop :=
  ∀ calls after before row, CallsOf st r ph p world calls →
    AcknowledgesPrimary log calls after before row → DeniesTesting log calls

/-- No call after the acknowledgement leaves a row with a later time. -/
def NothingLater (st : Station X) (r : SequenceRun X) (ph : Phase X) (p : PositionRun)
    (world : X) (log : EventLog) : Prop :=
  ∀ calls after before row, CallsOf st r ph p world calls →
    AcknowledgesPrimary log calls after before row →
      ∀ later ∈ log.writtenLater after before, later.timestamp ≤ row.timestamp

/-- After the acknowledgement `run_guarded` attempts its row on the error. -/
def AttemptsErrorRow (st : Station X) (r : SequenceRun X) (ph : Phase X) (p : PositionRun)
    (world : X) (log : EventLog) : Prop :=
  ∀ calls after before row, CallsOf st r ph p world calls →
    AcknowledgesPrimary log calls after before row → ∃ c ∈ after, c.IsErrorRow ph.guarded

theorem attemptsErrorRow (st : Station X) (r : SequenceRun X) (ph : Phase X) (p : PositionRun)
    (world : X) (log : EventLog) : AttemptsErrorRow st r ph p world log := by
  rintro calls after before row ⟨t, hlast, rfl⟩ hack
  have hends : Ends (Added StationSession.trace (Followed ph.guarded)) (positionRun st r ph p) :=
    ends_followed_positionRun
  obtain ⟨u, hlast', new, hnew, hfollowed⟩ := hends ⟨world, []⟩
  obtain rfl := Option.some.inj (hlast'.symm.trans hlast)
  have htrace : u.trace = new := by
    rw [hnew]
    exact List.append_nil new
  exact hfollowed after before (htrace.symm.trans hack.split)

/-- **What the terminal path writes.** After each acknowledgement of a phase the row on the error
is attempted, and the export denies that testing continued if and only if that write, and all
others of the path, leave no row with a later time. -/
theorem deniesTestingAfterFault_iff (st : Station X) (r : SequenceRun X) (ph : Phase X)
    (p : PositionRun) (world : X) (log : EventLog) :
    AttemptsErrorRow st r ph p world log ∧
      (DeniesTestingAfterFault st r ph p world log ↔ NothingLater st r ph p world log) := by
  refine ⟨attemptsErrorRow st r ph p world log, ?_⟩
  refine forall_congr' fun calls ↦ forall_congr' fun after ↦ forall_congr' fun before ↦ ?_
  exact forall_congr' fun row ↦ forall_congr' fun _ ↦ forall_congr' fun hack ↦
    hack.deniesTesting_iff

/-- **Testing always seems to go on.** Where the clock ticks and every row of the event log is
taken, the export of a run that acknowledged its fault says that testing continued after it. -/
theorem not_deniesTesting_of_ticks {st : Station X} {r : SequenceRun X} {ph : Phase X}
    {p : PositionRun} {world : X} {log : EventLog} {calls after before : List StationCall}
    {row : EventRow} (hticks : log.Ticks) (hcalls : CallsOf st r ph p world calls)
    (htaken : ∀ entry e, .call (.logEvent entry) (some e) ∉ calls)
    (hack : AcknowledgesPrimary log calls after before row) : ¬DeniesTesting log calls := by
  intro hdenies
  obtain ⟨c, hc, reason, raised, rfl⟩ :=
    attemptsErrorRow st r ph p world log calls after before row hcalls hack
  have hmem : StationCall.call (.logEvent _) raised ∈ calls :=
    hack.split ▸ List.mem_append_left _ hc
  cases raised with
  | some e => exact htaken _ e hmem
  | none =>
    obtain ⟨k, hle, hrows⟩ := log.exists_mem_written (n := before.length + 1) hc
    obtain ⟨later, hlater, -⟩ := log.logs k _
    have hlaterMem : later ∈ log.rows k _ := hlater ▸ List.mem_singleton_self later
    have hrow : row ∈ log.rows before.length (.call .acknowledgeSafetyFault none) := by
      rw [hack.leaves]
      exact List.mem_singleton_self row
    have hlt : row.timestamp < later.timestamp :=
      hticks before.length k _ _ hle row hrow later hlaterMem
    exact absurd (hack.deniesTesting_iff.mp hdenies later (hrows later hlaterMem))
      (Nat.not_le.mpr hlt)

end Run

/-! ## A working station -/

/-- A station on which everything works but turning the output off. -/
def stuckOutput : Station Unit :=
  { healthyStation with
    read := fun _ x ↦ (.ok (37 / 10), x)
    emergencyOutputOff := fun _ x ↦ (false, x) }

/-- A charge whose output stays enabled. -/
def stuckCharge : SequenceRun Unit :=
  { chargeAt1A with verificationResult := fun _ ↦ "still_enabled" }

/-- The row a call leaves, with the number of the call for the time. -/
def rowsByNumber (n : ℕ) : StationCall → List EventRow
  | .call (.logEvent entry) none | .call (.traceEvent entry) none => [loggedFault n entry.message]
  | .call (.reportSafetyFault _) none =>
    [loggedFault n "EVENT_TYPE=SAFETY_FAULT_RAISED FAULT_ID=f1 DEVICE_NAME=SMU"]
  | .call .acknowledgeSafetyFault none =>
    [loggedFault n "EVENT_TYPE=SAFETY_FAULT_ACKNOWLEDGED ACKNOWLEDGES_FAULT_ID=f1"]
  | _ => []

theorem timestamp_of_mem_rowsByNumber {n : ℕ} {c : StationCall} {row : EventRow}
    (h : row ∈ rowsByNumber n c) : row.timestamp = n := by
  unfold rowsByNumber at h
  split at h
  all_goals first
    | exact absurd h List.not_mem_nil
    | exact List.mem_singleton.mp h ▸ rfl

/-- The event log of a storage that works, on a clock that ticks with every call. -/
def tickingLog : EventLog where
  rows := rowsByNumber
  logs _ _ := ⟨_, rfl, rfl⟩
  inOrder m n c d hlt row hrow later hlater := by
    rw [timestamp_of_mem_rowsByNumber hrow, timestamp_of_mem_rowsByNumber hlater]
    exact hlt.le

/-- The first of the calls is an acknowledgement. -/
def beginsAcknowledged : List StationCall → Bool
  | .call .acknowledgeSafetyFault none :: _ => true
  | _ => false

theorem split_of_beginsAcknowledged {calls : List StationCall} {k : ℕ}
    (h : beginsAcknowledged (calls.drop k) = true) :
    calls = calls.take k ++ .call .acknowledgeSafetyFault none :: calls.drop (k + 1) := by
  unfold beginsAcknowledged at h
  split at h
  · next rest hdrop =>
    have hrest : calls.drop (k + 1) = rest := by
      rw [← List.drop_drop, hdrop]
      rfl
    rw [hrest, ← hdrop, List.take_append_drop]
  · cases h

/-- The row of the fault. -/
def stuckFault : EventRow :=
  loggedFault 34 "EVENT_TYPE=SAFETY_FAULT_RAISED FAULT_ID=f1 DEVICE_NAME=SMU"

/-- The row of the acknowledgement. -/
def stuckRow : EventRow :=
  loggedFault 35 "EVENT_TYPE=SAFETY_FAULT_ACKNOWLEDGED ACKNOWLEDGES_FAULT_ID=f1"

/-- The row is on a fault. -/
def isFaultRow (row : EventRow) : Bool :=
  ((parseSafetyFaultEvent row.message).get? eventTypeField).isSome

/-- What is read off the calls of the charge: where the fault is acknowledged, the rows on faults,
and that a later row has a later time. -/
def StuckCalls (calls : List StationCall) : Prop :=
  beginsAcknowledged (calls.drop 19) = true ∧ (calls.drop 20).length = 35 ∧
    (tickingLog.written 0 calls).filter isFaultRow = [stuckFault, stuckRow] ∧
    ∃ later ∈ tickingLog.writtenLater (calls.take 19) (calls.drop 20), 35 < later.timestamp

/-- The characters of bytes that are one each. -/
def asciiChars : List UInt8 → Option (List Char)
  | [] => some []
  | b :: rest =>
    if b.toNat < 128 then (asciiChars rest).map fun text ↦ Char.ofNat b.toNat :: text else none

/-- The characters of a text, which need no decoding where it is ASCII. -/
def charsOf (text : String) : List Char :=
  (asciiChars text.toByteArray.data.toList).getD text.toList

/-- Other characters begin with a byte beyond ASCII. -/
theorem asciiChars_utf8EncodeChar {c : Char} {rest : List UInt8} {text : List Char}
    (h : asciiChars (String.utf8EncodeChar c ++ rest) = some text) :
    ∃ tail, asciiChars rest = some tail ∧ text = c :: tail := by
  by_cases hc : c.val.toNat ≤ 127
  · have hbyte : String.utf8EncodeChar c = [UInt8.ofNat c.val.toNat] := if_pos hc
    have hnat : (UInt8.ofNat c.val.toNat).toNat = c.val.toNat := by
      rw [UInt8.toNat_ofNat']
      omega
    rw [hbyte, List.singleton_append, asciiChars, hnat, if_pos (Nat.lt_succ_of_le hc)] at h
    obtain ⟨tail, htail, rfl⟩ := Option.map_eq_some_iff.mp h
    exact ⟨tail, htail, congrArg (· :: tail) (Char.ofNat_toNat c)⟩
  · have hbyte : ∃ v more, String.utf8EncodeChar c = UInt8.ofNat v :: more ∧ 192 ≤ v ∧ v < 256 := by
      unfold String.utf8EncodeChar
      dsimp only
      rw [if_neg hc]
      split
      · exact ⟨_, _, rfl, by omega, by omega⟩
      · split
        · exact ⟨_, _, rfl, by omega, by omega⟩
        · exact ⟨_, _, rfl, by omega, by omega⟩
    obtain ⟨v, more, heq, hlow, hhigh⟩ := hbyte
    have hnat : (UInt8.ofNat v).toNat = v := by
      rw [UInt8.toNat_ofNat']
      omega
    rw [heq, List.cons_append, asciiChars, hnat, if_neg (by omega)] at h
    cases h

theorem eq_of_asciiChars {l text : List Char}
    (h : asciiChars (l.flatMap String.utf8EncodeChar) = some text) : text = l := by
  induction l generalizing text with
  | nil => exact (Option.some.inj h).symm
  | cons c l ih =>
    rw [List.flatMap_cons] at h
    obtain ⟨tail, htail, rfl⟩ := asciiChars_utf8EncodeChar h
    rw [ih htail]

theorem charsOf_eq (text : String) : charsOf text = text.toList := by
  unfold charsOf
  cases h : asciiChars text.toByteArray.data.toList with
  | none => rfl
  | some chars =>
    rw [← String.ofList_toList (s := text), String.toByteArray_ofList, List.utf8Encode,
      List.toList_data_toByteArray] at h
    exact eq_of_asciiChars h

/-- `rowsByNumber`, with the messages as `charsOf` reads them. -/
def readRows (n : ℕ) : StationCall → List EventRow
  | .call (.logEvent entry) none | .call (.traceEvent entry) none =>
    [{ loggedFault n "" with message := charsOf entry.message }]
  | .call (.reportSafetyFault _) none =>
    [loggedFault n "EVENT_TYPE=SAFETY_FAULT_RAISED FAULT_ID=f1 DEVICE_NAME=SMU"]
  | .call .acknowledgeSafetyFault none =>
    [loggedFault n "EVENT_TYPE=SAFETY_FAULT_ACKNOWLEDGED ACKNOWLEDGES_FAULT_ID=f1"]
  | _ => []

theorem readRows_eq (n : ℕ) (c : StationCall) : readRows n c = rowsByNumber n c := by
  unfold readRows rowsByNumber
  split
  · rw [charsOf_eq]
    rfl
  · rw [charsOf_eq]
    rfl
  · rfl
  · rfl
  · rfl

/-- The rows of calls, with the messages as `charsOf` reads them. -/
def readWritten (n : ℕ) : List StationCall → List EventRow
  | [] => []
  | c :: calls => readWritten n calls ++ readRows (n + calls.length) c

theorem readWritten_eq (n : ℕ) (calls : List StationCall) :
    readWritten n calls = tickingLog.written n calls := by
  induction calls with
  | nil => rfl
  | cons c calls ih =>
    rw [readWritten, ih, readRows_eq]
    rfl

/-- The rows on faults among `n` rows of the calls, from the `k`-th on. -/
def faultRowsAt (k n : ℕ) (calls : List StationCall) : List EventRow :=
  (((readWritten 0 calls).drop k).take n).filter isFaultRow

theorem filter_drop_isFaultRow (k n : ℕ) (calls : List StationCall) :
    ((readWritten 0 calls).drop k).filter isFaultRow =
      faultRowsAt k n calls ++ ((readWritten 0 calls).drop (k + n)).filter isFaultRow := by
  rw [faultRowsAt, ← List.filter_append, ← List.drop_drop, List.take_append_drop]

/-- What the calls of the charge are read to satisfy, they satisfy. -/
theorem of_stuckCharge {P : List StationCall → Prop} [DecidablePred P]
    (h : ((positionRun stuckOutput stuckCharge (chargePhase stuckCharge) onePosition
      ⟨(), []⟩).last.map fun t ↦ decide (P t.trace)) = some true) :
    ∀ t, (positionRun stuckOutput stuckCharge (chargePhase stuckCharge) onePosition
      ⟨(), []⟩).last = some t → P t.trace := by
  intro t hlast
  rw [hlast] at h
  exact of_decide_eq_true (Option.some.inj h)

-- The rows are read in groups: the messages of the shutdown are long.
theorem stuckCalls_stuckCharge : ∃ t, (positionRun stuckOutput stuckCharge (chargePhase stuckCharge)
    onePosition ⟨(), []⟩).last = some t ∧ StuckCalls t.trace := by
  have hends : (positionRun stuckOutput stuckCharge (chargePhase stuckCharge) onePosition
      ⟨(), []⟩).last.isSome = true := by
    decide +kernel
  have hcalls := of_stuckCharge (P := fun calls ↦ beginsAcknowledged (calls.drop 19) = true ∧
      (calls.drop 20).length = 35 ∧ (readWritten 0 calls).length = 29 ∧
      ∃ later ∈ tickingLog.writtenLater (calls.take 19) (calls.drop 20), 35 < later.timestamp) (by
    decide +kernel)
  have hraised := of_stuckCharge (P := fun calls ↦ faultRowsAt 0 20 calls = [stuckFault]) (by
    decide +kernel)
  have hacknowledged := of_stuckCharge (P := fun calls ↦ faultRowsAt 20 2 calls = [stuckRow]) (by
    decide +kernel)
  have herror := of_stuckCharge (P := fun calls ↦ faultRowsAt 22 1 calls = []) (by decide +kernel)
  have hstarted := of_stuckCharge (P := fun calls ↦ faultRowsAt 23 1 calls = []) (by decide +kernel)
  have hstopped := of_stuckCharge (P := fun calls ↦ faultRowsAt 24 4 calls = []) (by decide +kernel)
  have haborted := of_stuckCharge (P := fun calls ↦ faultRowsAt 28 1 calls = []) (by decide +kernel)
  obtain ⟨t, hlast⟩ := Option.isSome_iff_exists.mp hends
  obtain ⟨hack, hlength, hrows, hlater⟩ := hcalls t hlast
  have hnone : ((readWritten 0 t.trace).drop 29).filter isFaultRow = [] := by
    rw [List.drop_eq_nil_of_le hrows.le]
    rfl
  have hfaults : (tickingLog.written 0 t.trace).filter isFaultRow = [stuckFault, stuckRow] := calc
    (tickingLog.written 0 t.trace).filter isFaultRow
      = faultRowsAt 0 20 t.trace ++ (faultRowsAt 20 2 t.trace ++ (faultRowsAt 22 1 t.trace ++
          (faultRowsAt 23 1 t.trace ++ (faultRowsAt 24 4 t.trace ++ (faultRowsAt 28 1 t.trace ++
            ((readWritten 0 t.trace).drop 29).filter isFaultRow))))) := by
        rw [← filter_drop_isFaultRow 28, ← filter_drop_isFaultRow 24, ← filter_drop_isFaultRow 23,
          ← filter_drop_isFaultRow 22, ← filter_drop_isFaultRow 20, ← filter_drop_isFaultRow 0,
          List.drop_zero, readWritten_eq]
    _ = [stuckFault, stuckRow] := by
        rw [hraised t hlast, hacknowledged t hlast, herror t hlast, hstarted t hlast,
          hstopped t hlast, haborted t hlast, hnone]
        rfl
  exact ⟨t, hlast, hack, hlength, hfaults, hlater⟩

/-- With a working storage and a clock that ticks, the export says of a charge that ended on its
fault that testing continued. -/
theorem not_deniesTestingAfterFault_stuckOutput :
    ¬∀ (st : Station Unit) (r : SequenceRun Unit) (p : PositionRun) (log : EventLog),
      DeniesTestingAfterFault st r (chargePhase r) p () log := by
  intro h
  obtain ⟨t, hlast, hack, hlength, hfaults, later, hlater, hlt⟩ := stuckCalls_stuckCharge
  have hleaves : tickingLog.rows (t.trace.drop 20).length (.call .acknowledgeSafetyFault none) =
      [stuckRow] := by
    rw [hlength]
    rfl
  obtain ⟨before, after, hrows, hbefore, -, -⟩ := List.filter_eq_cons_iff.mp hfaults
  have hraises : stuckFault.Raises := by
    unfold EventRow.Raises
    decide +kernel
  have hacks : stuckRow.Acknowledges stuckFault.faultId := by
    unfold EventRow.Acknowledges
    decide +kernel
  have hprimary : IsPrimary (tickingLog.written 0 t.trace) stuckFault := by
    refine ⟨hraises, before, after, hrows, fun row hrow hother ↦ hbefore row hrow ?_⟩
    exact Option.isSome_iff_exists.mpr ⟨_, hother⟩
  have honly : ∀ other ∈ tickingLog.written 0 t.trace, other.Acknowledges stuckFault.faultId →
      other = stuckRow := by
    intro other hother hothers
    have hmem : other ∈ [stuckFault, stuckRow] :=
      hfaults ▸ List.mem_filter.mpr ⟨hother, Option.isSome_iff_exists.mpr ⟨_, hothers.1⟩⟩
    rcases List.mem_cons.mp hmem with rfl | hmem
    · exact absurd (hraises.symm.trans hothers.1) (by decide)
    · exact List.mem_singleton.mp hmem
  have hprim : AcknowledgesPrimary tickingLog t.trace _ _ stuckRow :=
    ⟨split_of_beginsAcknowledged hack, hleaves, stuckFault, hprimary, hacks, honly⟩
  have hdenies := h stuckOutput stuckCharge onePosition tickingLog _ _ _ _ ⟨t, hlast, rfl⟩ hprim
  exact absurd (hprim.deniesTesting_iff.mp hdenies later hlater) (Nat.not_le.mpr hlt)

end Nipxi
