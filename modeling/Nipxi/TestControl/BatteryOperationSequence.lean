import Nipxi.TestControl.Station

/-!
# The guard around an operation

`BatteryOperationSequence.run_guarded` with the two shutdowns of `SafetyMonitor` it ends in. Each
`except` clause writes the rows of the failure first and shuts the hardware down after that; the
shutdown itself never raises. So the hardware is shut down exactly if the rows can be written:
`shutsDown_iff_recorded`.
-/

open Collections Effect

namespace Nipxi

/-! ## The two shutdowns -/

/-- What `run_guarded` is called with, apart from the operation. -/
structure GuardedRun (X : Type) where
  channel : ℕ
  relayAddress : ℕ
  cancelMessage : String
  /-- `getattr(relay_matrix, "name", None)`. -/
  relayMatrixName : Option String
  hasDmm : Bool
  /-- `extra_run_summary_fields_fn`. -/
  extraFields : X → Except Exc (Dict String FieldValue) × X

section Shutdown

variable {X : Type} (st : Station X) (g : GuardedRun X)

/-- The callback of `_shutdown_trace_logger`, which swallows what the storage raises. -/
def onEvent (message : String) : StationProg X PUnit :=
  (StationProg.call st (.traceEvent
    { level := "INFO", channel := g.channel, relay := g.relayAddress,
      message := "SHUTDOWN: " ++ message })).handle fun _ ↦ pure ⟨⟩

/-- Opening all relays within a shutdown: a failure is only reported. -/
def openRelays : StationProg X PUnit :=
  (do StationProg.call st .relayOpenAll
      onEvent st g "relay_matrix.open_all executed"
      onEvent st g
        (eventMessage "RELAY_OPEN_ALL" [("relay_matrix_name", g.relayMatrixName)])).handle fun e ↦
    onEvent st g ("relay_matrix.open_all FAILED: " ++ e.message)

/-- The hardware sequence `emergency_stop` and `safe_cancel_shutdown` share. -/
def shutDownHardware (reason : String) : StationProg X PUnit := do
  onEvent st g (eventMessage "EMERGENCY_STOP_STARTED" [("reason", reason)])
  let _ ← StationProg.emergencyOutputOff st reason
  openRelays st g
  (StationProg.call st (.zeroOutputSetpoint reason)).handle fun _ ↦ pure ⟨⟩
  onEvent st g "shutdown completed"
  onEvent st g (eventMessage "EMERGENCY_STOP_COMPLETED" [("reason", reason)])

/-- `SafetyMonitor.emergency_stop`, with the text of an exception as its reason. -/
def emergencyStop (e : Exc) : StationProg X PUnit := do
  StationProg.note (.emergencyStop e)
  shutDownHardware st g e.message

/-- `SafetyMonitor.safe_cancel_shutdown`, with the text of an exception as its reason. -/
def safeCancelShutdown (e : Exc) : StationProg X PUnit := do
  StationProg.note (.safeCancelShutdown e)
  shutDownHardware st g e.message

end Shutdown

/-! ## The guard -/

/-- What the `except` clauses differ in. -/
structure ExceptClause where
  /-- The first trace event. -/
  detected : String
  /-- What `log_event` is given, in order. -/
  entries : List EventEntry
  stopReason : StopReason
  result : String
  /-- Whether the clause ends in `safe_cancel_shutdown`, not in `emergency_stop`. -/
  cancels : Bool

section Guard

variable {X : Type} (st : Station X) (g : GuardedRun X)

/-- An entry about the channel of the run. -/
def GuardedRun.entry (level message : String) : EventEntry :=
  { level := level, channel := g.channel, relay := g.relayAddress, message := message }

/-- The clause that catches an exception. -/
def exceptClause (e : Exc) : ExceptClause :=
  if e.isInstance [.operationCancelledError] then
    ⟨"cancellation detected", [g.entry "INFO" g.cancelMessage], .cancelled,
      "STOPPED_BY_OPERATOR", true⟩
  else if e.isInstance [.safetyViolationError] then
    ⟨"safety violation detected",
      [g.entry "ERROR" ("Safety violation -- " ++ e.message),
        g.entry "ERROR" (eventMessage "SAFETY_MONITOR_TRIGGERED" [("reason", e.message)])],
      .safetyViolation, "FAIL", false⟩
  else if e.isInstance [.relayError] then
    ⟨"relay fault detected", [g.entry "ERROR" ("Relay verification fault -- " ++ e.message)],
      .failed, "FAIL", false⟩
  else if e.isInstance [.nipxiTimeoutError] then
    ⟨"timeout detected", [g.entry "ERROR" ("Timeout -- " ++ e.message)], .timeout, "TIMEOUT",
      false⟩
  else
    ⟨"unexpected error detected", [g.entry "ERROR" ("Unexpected error -- " ++ e.message)],
      .failed, "FAIL", false⟩

/-- `extra_run_summary_fields_fn()`. -/
def extraRunSummaryFields : StationProg X (Dict String FieldValue) := fun s ↦
  match g.extraFields s.world with
  | (.ok fields, world) => .ok fields (s.after (.extraFields none) world)
  | (.error e, world) => .error e (s.after (.extraFields (some e)) world)

/-- `_safe_final_voltage_reading`. -/
def safeFinalVoltageReading : StationProg X (Option ℚ) :=
  if g.hasDmm then do
    match ← (StationProg.read st .finalVoltage).attempt with
    | .ok voltage => pure (some voltage)
    | .error _ => pure none
  else pure none

/-- The fields with the final voltage, where there is one. -/
def withEndVoltage (fields : Dict String FieldValue) : Option ℚ → Dict String FieldValue
  | none => fields
  | some voltage => fields.insert "end_voltage" (.number (some voltage))

/-- What a clause writes before it shuts down. -/
def recordFailure (clause : ExceptClause) : StationProg X PUnit := do
  onEvent st g clause.detected
  logEvents st clause.entries
  StationProg.call st (.recordExecutionState g.channel g.relayAddress clause.stopReason.text)
  let fields ← extraRunSummaryFields g
  let voltage ← safeFinalVoltageReading st g
  StationProg.call st
    (.finishRunSummary clause.stopReason.text clause.result (withEndVoltage fields voltage).items)

/-- The shutdown of a clause. -/
def shutDown (clause : ExceptClause) (e : Exc) : StationProg X PUnit :=
  if clause.cancels then safeCancelShutdown st g e else emergencyStop st g e

/-- `run_guarded`. -/
def runGuarded {α : Type} (fn : StationProg X α) : StationProg X α :=
  fn.handle fun e ↦ do
    recordFailure st g (exceptClause g e)
    shutDown st g (exceptClause g e) e
    Prog.raise e

end Guard

/-! ## What the guard promises -/

/-- A call of a shutdown. -/
def StationCall.isShutdown : StationCall → Bool
  | .emergencyStop _ | .safeCancelShutdown _ => true
  | _ => false

/-- A call of an `except` clause before its shutdown that raised: a row could not be written, or
the fields for it could not be had. -/
def StationCall.FailsRecord : StationCall → Prop
  | .call (.logEvent _) (some _) | .call (.recordExecutionState _ _ _) (some _)
  | .call (.finishRunSummary _ _ _) (some _) | .extraFields (some _) => True
  | _ => False

/-- The hardware was shut down once, with an attempt to open all relays. -/
def ShutDownOnce (new : List StationCall) : Prop :=
  new.countP StationCall.isShutdown = 1 ∧ ∃ raised, .call .relayOpenAll raised ∈ new

/-- Every row was written. -/
def Recorded (new : List StationCall) : Prop := ∀ c ∈ new, ¬c.FailsRecord

section Promise

variable {X : Type} {st : Station X} {g : GuardedRun X}

/-- An entry that is no shutdown. -/
abbrev StationCall.IsStep (c : StationCall) : Prop := c.isShutdown = false

/-- `x` never raises, and neither shuts down nor fails to write a row. -/
abbrev Steps {α : Type} (x : StationProg X α) : Prop :=
  Silent StationSession.trace StationCall.IsStep StationCall.FailsRecord x

/-- `x` does not shut down, and raises exactly if a row cannot be written. -/
abbrev Records {α : Type} (x : StationProg X α) : Prop :=
  Attributed StationSession.trace StationCall.IsStep StationCall.FailsRecord x

theorem steps_onEvent (message : String) : Steps (onEvent st g message) :=
  (StationProg.quiet_call fun _ ↦ ⟨rfl, id⟩).silenced fun _ ↦ .pure _

theorem steps_emergencyOutputOff (reason : String) :
    Steps (StationProg.emergencyOutputOff st reason) := fun s ↦ by
  exact ⟨[.outputOff reason (st.emergencyOutputOff reason s.world).1], rfl,
    faultless_singleton ⟨rfl, id⟩⟩

/-- Entries among which all relays are opened, none of them a shutdown or a missing row. -/
def OpensRelays (new : List StationCall) : Prop :=
  (∃ raised, .call .relayOpenAll raised ∈ new) ∧
    Faultless StationCall.IsStep StationCall.FailsRecord new

theorem faultless_openAll (raised : Option Exc) :
    Faultless StationCall.IsStep StationCall.FailsRecord [.call .relayOpenAll raised] :=
  faultless_singleton ⟨rfl, id⟩

theorem post_openRelays (s : StationSession X) :
    Post (openRelays st g) (fun _ t ↦ Added StationSession.trace OpensRelays s t)
      (fun _ _ ↦ False) s := by
  have hopens {raised : Option Exc} {t u : StationSession X}
      (ht : t.trace = .call .relayOpenAll raised :: s.trace)
      (hu : Added StationSession.trace (Faultless StationCall.IsStep StationCall.FailsRecord) t u) :
      Added StationSession.trace OpensRelays s u := by
    obtain ⟨new, hnew, hall⟩ := hu
    refine ⟨new ++ [.call .relayOpenAll raised], ?_, ⟨raised, ?_⟩, ?_⟩
    · rw [hnew, ht, List.append_assoc, List.singleton_append]
    · exact List.mem_append_right new (List.mem_singleton_self _)
    · exact hall.append (faultless_openAll raised)
  rw [openRelays, post_handle, post_bind]
  refine (StationProg.post_call st .relayOpenAll s).mono (fun _ t ht ↦ ?_) fun e t ht ↦ ?_
  · have hevents : Steps (do
        onEvent st g "relay_matrix.open_all executed"
        onEvent st g
          (eventMessage "RELAY_OPEN_ALL" [("relay_matrix_name", g.relayMatrixName)])) :=
      (steps_onEvent _).bind fun _ ↦ steps_onEvent _
    exact (hevents t).mono (fun _ _ hu ↦ hopens ht hu) fun _ _ h ↦ h.elim
  · exact (steps_onEvent _ t).mono (fun _ _ hu ↦ hopens ht hu) fun _ _ h ↦ h

theorem OpensRelays.after {new old : List StationCall} (hnew : OpensRelays new)
    (hold : Faultless StationCall.IsStep StationCall.FailsRecord old) :
    OpensRelays (new ++ old) := by
  obtain ⟨⟨raised, hmem⟩, hall⟩ := hnew
  exact ⟨⟨raised, List.mem_append_left old hmem⟩, hall.append hold⟩

theorem OpensRelays.before {new old : List StationCall} (hold : OpensRelays old)
    (hnew : Faultless StationCall.IsStep StationCall.FailsRecord new) :
    OpensRelays (new ++ old) := by
  obtain ⟨⟨raised, hmem⟩, hall⟩ := hold
  exact ⟨⟨raised, List.mem_append_right new hmem⟩, hnew.append hall⟩

theorem Steps.bind_opens {α β : Type} {x : StationProg X α} {f : α → StationProg X β}
    (hx : Steps x) (hf : ∀ a t, Post (f a) (fun _ u ↦ Added StationSession.trace OpensRelays t u)
      (fun _ _ ↦ False) t) (s : StationSession X) :
    Post (x >>= f) (fun _ u ↦ Added StationSession.trace OpensRelays s u) (fun _ _ ↦ False) s := by
  refine (post_bind f).mpr ((hx s).mono (fun a t ht ↦ ?_) fun _ _ h ↦ h)
  refine (hf a t).mono (fun _ _ hu ↦ ?_) fun _ _ h ↦ h
  exact ht.append hu fun _ _ hold hnew ↦ hnew.after hold

/-- **A shutdown never raises**, and whatever fails in it, opening all relays is attempted. -/
theorem post_shutDownHardware (reason : String) (s : StationSession X) :
    Post (shutDownHardware st g reason) (fun _ t ↦ Added StationSession.trace OpensRelays s t)
      (fun _ _ ↦ False) s := by
  refine Steps.bind_opens (steps_onEvent _) (fun _ t ↦ ?_) s
  refine Steps.bind_opens (steps_emergencyOutputOff reason) (fun _ u ↦ ?_) t
  refine (post_openRelays u).bind fun _ v hv ↦ ?_
  have hzero : Steps ((StationProg.call st (.zeroOutputSetpoint reason)).handle fun _ ↦ pure ⟨⟩) :=
    (StationProg.quiet_call fun _ ↦ ⟨rfl, id⟩).silenced fun _ ↦ .pure _
  have hevent (message : String) : Steps (onEvent st g message) := steps_onEvent message
  have hrest := hzero.bind fun _ ↦ (hevent "shutdown completed").bind fun _ ↦
    hevent (eventMessage "EMERGENCY_STOP_COMPLETED" [("reason", reason)])
  refine (hrest v).mono (fun _ _ hw ↦ ?_) fun _ _ h ↦ h
  exact hv.append hw fun _ _ hold hnew ↦ hold.before hnew

/-- Entries of a shutdown: its call, and the opening of all relays. -/
def ShutsDown (new : List StationCall) : Prop := ShutDownOnce new ∧ Recorded new

theorem countP_isShutdown_of_faultless {new : List StationCall}
    (h : Faultless StationCall.IsStep StationCall.FailsRecord new) :
    new.countP StationCall.isShutdown = 0 :=
  List.countP_eq_zero.mpr fun c hc ↦ by simp [(h c hc).1]

theorem post_noted {c : StationCall} (hc : c.isShutdown = true) (hrecord : ¬c.FailsRecord)
    (reason : String) (s : StationSession X) :
    Post (do StationProg.note c; shutDownHardware st g reason)
      (fun _ t ↦ Added StationSession.trace ShutsDown s t) (fun _ _ ↦ False) s := by
  refine (post_bind _).mpr ((post_shutDownHardware reason _).mono (fun _ t ht ↦ ?_) fun _ _ h ↦ h)
  obtain ⟨new, hnew, ⟨raised, hmem⟩, hall⟩ := ht
  refine ⟨new ++ [c], ?_, ⟨?_, raised, List.mem_append_left _ hmem⟩, fun d hd ↦ ?_⟩
  · rw [hnew, List.append_assoc]
    rfl
  · rw [List.countP_append, countP_isShutdown_of_faultless hall, List.countP_singleton, hc]
    rfl
  · rcases List.mem_append.mp hd with hd | hd
    · exact (hall d hd).2
    · rw [List.mem_singleton.mp hd]
      exact hrecord

theorem post_shutDown (clause : ExceptClause) (e : Exc) (s : StationSession X) :
    Post (shutDown st g clause e) (fun _ t ↦ Added StationSession.trace ShutsDown s t)
      (fun _ _ ↦ False) s := by
  rw [shutDown, post_ite]
  split
  · exact post_noted rfl id e.message s
  · exact post_noted rfl id e.message s

/-! ## Writing the rows of a failure -/

theorem records_logEvents (entries : List EventEntry) : Records (logEvents st entries) := by
  induction entries with
  | nil => exact .pure _
  | cons entry rest ih =>
    refine .bind ?_ fun _ ↦ ih
    exact StationProg.attributed_call (fun _ ↦ rfl) id fun _ ↦ trivial

theorem records_extraRunSummaryFields : Records (extraRunSummaryFields g) := by
  intro s
  unfold Post extraRunSummaryFields
  rcases g.extraFields s.world with ⟨e | fields, world⟩
  · exact ⟨[.extraFields (some e)], rfl, List.forall_mem_singleton.mpr rfl, _,
      List.mem_singleton_self _, trivial⟩
  · exact ⟨[.extraFields none], rfl, faultless_singleton ⟨rfl, id⟩⟩

theorem records_safeFinalVoltageReading : Records (safeFinalVoltageReading st g) := by
  refine .ite (.bind (StationProg.quiet_read fun _ ↦ ⟨rfl, id⟩).attempt fun r ↦ ?_) (.pure _)
  cases r with
  | ok voltage => exact .pure _
  | error e => exact .pure _

/-- **Before the shutdown** a clause raises exactly if it fails to write a row. -/
theorem records_recordFailure (clause : ExceptClause) : Records (recordFailure st g clause) := by
  refine .bind (steps_onEvent _).attributed fun _ ↦ .bind (records_logEvents _) fun _ ↦ ?_
  refine .bind (StationProg.attributed_call (fun _ ↦ rfl) id fun _ ↦ trivial) fun _ ↦ ?_
  refine .bind records_extraRunSummaryFields fun _ ↦ ?_
  refine .bind records_safeFinalVoltageReading fun _ ↦ ?_
  exact StationProg.attributed_call (fun _ ↦ rfl) id fun _ ↦ trivial

/-- **When the hardware is shut down.** Whatever exception the operation raises, `run_guarded`
raises, and by then it has shut the hardware down once, with an attempt to open all relays, exactly
if every row of the failure could be written. -/
theorem shutsDown_iff_recorded {α : Type} (st : Station X) (g : GuardedRun X)
    (fn : StationProg X α) {s t : StationSession X} {e : Exc} (h : fn s = .error e t) :
    Post (runGuarded st g fn) (fun _ _ ↦ False)
      (fun _ u ↦ Added StationSession.trace (fun new ↦ ShutDownOnce new ↔ Recorded new) t u) s := by
  rw [runGuarded, post_handle, post_of_error h, post_bind]
  refine (records_recordFailure _ t).mono (fun _ u hu ↦ ?_) fun _ u hu ↦ ?_
  · refine (post_bind _).mpr ((post_shutDown _ _ u).mono (fun _ v hv ↦ ?_) fun _ _ h ↦ h.elim)
    refine (post_raise _).mpr (hu.append hv fun old new hold hnew ↦ ?_)
    obtain ⟨⟨honce, raised, hmem⟩, hrecorded⟩ := hnew
    refine iff_of_true ⟨?_, raised, List.mem_append_left old hmem⟩ fun c hc ↦ ?_
    · rw [List.countP_append, countP_isShutdown_of_faultless hold, honce]
    · exact (List.mem_append.mp hc).elim (hrecorded c) fun hc ↦ (hold c hc).2
  · -- the shutdown is not reached
    refine hu.mono fun new hnew ↦ iff_of_false (fun honce ↦ ?_) fun hrecorded ↦ ?_
    · have hzero : new.countP StationCall.isShutdown = 0 :=
        List.countP_eq_zero.mpr fun c hc ↦ by simp [hnew.1 c hc]
      exact absurd (hzero.symm.trans honce.1) Nat.zero_ne_one
    · obtain ⟨c, hc, hfails⟩ := hnew.2
      exact hrecorded c hc hfails

end Promise

/-! ## A database that does not take the first row -/

/-- A station whose storage refuses every row of the event log. -/
def fullDatabase : Station Unit where
  perform op x :=
    match op with
    | .logEvent _ => (some ⟨.sqliteOperationalError, "database or disk is full"⟩, x)
    | _ => (none, x)
  read _ x := (.ok 0, x)
  emergencyOutputOff _ x := (true, x)
  sequence _ x := ((.completed, true), x)
  ntcVoltageToCelsius _ := none

/-- A charge on the first channel. -/
def chargeRun : GuardedRun Unit where
  channel := 1
  relayAddress := 1
  cancelMessage := "Charging stopped by operator"
  relayMatrixName := none
  hasDmm := false
  extraFields x := (.ok Dict.empty, x)

/-- An operation that ends in an overvoltage. -/
def overvoltage : StationProg Unit Unit := Prog.raise ⟨.safetyViolationError, "Overvoltage"⟩

/-- A healthy station. -/
def healthyStation : Station Unit :=
  { fullDatabase with perform := fun _ x ↦ (none, x) }

/-- With a healthy storage the hardware is shut down after an overvoltage. -/
theorem shutsDown_iff_recorded_healthyStation :
    Post (runGuarded healthyStation chargeRun overvoltage) (fun _ _ ↦ False)
      (fun _ u ↦ Added StationSession.trace (fun new ↦ ShutDownOnce new ↔ Recorded new)
        ⟨(), []⟩ u) ⟨(), []⟩ :=
  shutsDown_iff_recorded healthyStation chargeRun overvoltage rfl

/-- After an overvoltage on a full disk the hardware is not shut down. -/
theorem not_shutsDown_fullDatabase :
    ¬∀ (X : Type) (st : Station X) (g : GuardedRun X) (fn : StationProg X Unit)
      (s t : StationSession X) (e : Exc), fn s = .error e t →
      Post (runGuarded st g fn) (fun _ _ ↦ False)
        (fun _ u ↦ Added StationSession.trace ShutDownOnce t u) s := by
  have hcount : ((runGuarded fullDatabase chargeRun overvoltage ⟨(), []⟩).thrown.map fun u ↦
      u.trace.countP StationCall.isShutdown) = some 0 := by decide +kernel
  simp only [not_forall]
  refine ⟨Unit, fullDatabase, chargeRun, overvoltage, ⟨(), []⟩, ⟨(), []⟩, _, rfl, fun hpost ↦ ?_⟩
  obtain ⟨e, u, herror, hu⟩ := Outcome.exists_of_thrown hcount
  rw [post_of_error herror] at hpost
  obtain ⟨new, hnew, honce, -⟩ := hpost
  rw [hnew, List.append_nil, honce] at hu
  exact absurd hu Nat.one_ne_zero

end Nipxi
