import Nipxi.Effect.Journal
import Nipxi.TestControl.GroupPositions
import Nipxi.TestControl.ProtoTest

/-!
# The shutdown of `ProtoTestSequence`

`ProtoTestSequence.run` cycles through its relays, and shuts the station down in the `except`
clauses of each round, once they have written three rows. The row at the head of a round, the
`relay.open` of the `else`, and the rows after the loop are outside every `try`. A run that raises
after it closed a relay has been shut down exactly if none of these calls, nor a row of a clause, is
what raised (`shutsDownOnFailure_iff`).
-/

open Collections Effect

namespace Nipxi

/-! ## The clauses -/

namespace ProtoClause

/-- The level of the row of a clause. -/
def level : ProtoClause → String
  | cancelled => "WARNING"
  | safetyViolation | relayFault | unexpected => "ERROR"

/-- What the row of a clause says of the exception. -/
def wording : ProtoClause → String
  | cancelled => "cancellation requested"
  | safetyViolation => "safety violation"
  | relayFault => "relay verification fault"
  | unexpected => "unexpected error"

/-- The result a clause finishes the run with. -/
def result : ProtoClause → String
  | cancelled => "CANCELLED"
  | safetyViolation | relayFault | unexpected => "FAIL"

end ProtoClause

namespace ProtoTest

/-! ## The station -/

/-- A message of `log_event`. -/
inductive ProtoEvent where
  | traceability (message : String)
  | activating (relay : ℕ)
  | activated (relay : ℕ) (voltageV currentA dwellS : ℚ)
  | dmmReadFailed (relay : ℕ) (e : Exc)
  | dmmRead (relay : ℕ) (voltageV : Option ℚ)
  | caught (relay : ℕ) (clause : ProtoClause) (e : Exc)
  | deactivated (relay : ℕ)
  | complete (relays : ℕ)

/-- What `log_event` is given. -/
def ProtoEvent.entry : ProtoEvent → EventEntry
  | traceability message => { level := "INFO", message := message }
  | activating relay =>
    { level := "INFO", channel := relay, relay := relay,
      message := s!"Relay {relay} activating (force-all-off -> verify -> activate -> verify)" }
  | activated relay voltageV currentA dwellS =>
    { level := "INFO", channel := relay, relay := relay,
      message := s!"Relay {relay} activated -- output enabled, sourcing " ++
        s!"{formatFixed 3 voltageV} V / {formatFixed 3 currentA} A limit, " ++
        s!"dwelling {formatFixed 0 dwellS}s" }
  | dmmReadFailed relay e =>
    { level := "WARNING", channel := relay, relay := relay,
      message := s!"DMM read failed: {e.message}" }
  | dmmRead relay none =>
    { level := "INFO", channel := relay, relay := relay,
      message := "DMM read: no DMM configured" }
  | dmmRead relay (some voltageV) =>
    { level := "INFO", channel := relay, relay := relay,
      message := s!"Measurement acquired -- DMM {formatFixed 6 voltageV} V" }
  | caught relay clause e =>
    { level := clause.level, channel := relay, relay := relay,
      message := s!"Relay {relay}: {clause.wording} -- {e.message}" }
  | deactivated relay =>
    { level := "INFO", channel := relay, relay := relay,
      message := s!"Relay {relay} deactivated -- output disabled, verified OFF" }
  | complete relays =>
    { level := "INFO",
      message := s!"Proto Test Execution complete -- all {relays} relay(s) cycled" }

/-- A state `record_execution_state` is given. -/
inductive ProtoState where
  | active
  | stopped (reason : StopReason)

def ProtoState.text : ProtoState → String
  | active => "ACTIVE"
  | stopped reason => reason.text

/-- What `record_measurement` is given besides the relay: the reading, and the DMM's voltage. -/
structure ProtoMeasurement where
  reading : SourceReading (Option ℚ)
  dmmMeasuredV : Option ℚ

/-- What the frame of a relay shows. -/
structure ProtoFrame where
  runNumber : Option ℕ
  relay : ℕ
  smuVoltage : ℚ
  smuCurrent : ℚ
  dmmVoltage : Option ℚ

/-- A call, and the way it ended. -/
inductive ProtoCall where
  | startRunSummary (raised : Option Exc)
  | logEvent (event : ProtoEvent) (raised : Option Exc)
  | getRunSummary (result : Except Exc (Option ℕ))
  | checkCancellation (raised : Option Exc)
  | relayClose (relay : ℕ) (raised : Option Exc)
  | relayOpen (relay : ℕ) (raised : Option Exc)
  /-- `source_dc_voltage_point` until it calls `during_hold`. -/
  | beginSourcing (raised : Option Exc)
  | measureDcVoltage (result : Except Exc ℚ)
  /-- `source_dc_voltage_point` from there to its end. -/
  | endSourcing (result : Except Exc (SourceReading (Option ℚ)))
  | recordMeasurement (relay : ℕ) (measurement : ProtoMeasurement) (raised : Option Exc)
  | recordExecutionState (relay : Option ℕ) (state : ProtoState) (raised : Option Exc)
  | getMeasurements (raised : Option Exc)
  | getRecentEvents (raised : Option Exc)
  | renderExecutionFrame (frame : ProtoFrame) (raised : Option Exc)
  | finishRunSummary (reason : StopReason) (result : String) (raised : Option Exc)
  | emergencyStop (reason : String) (raised : Option Exc)
  | safeCancelShutdown (reason : String) (raised : Option Exc)

/-- The settings of the test. -/
structure ProtoSettings where
  activeChannels : List ℕ
  chargeVoltageV : ℚ
  chargeCurrentA : ℚ
  batVoltageMax : ℚ
  protoTestDwellS : ℚ

/-- What the test asks for, over worlds `X`. Every call may return or raise. -/
structure ProtoStation (X : Type) where
  startRunSummary : Option (Dict String String) → X → Option Exc × X
  logEvent : EventEntry → X → Option Exc × X
  /-- `get_run_summary(run_id)`, and its `id`. -/
  getRunSummary : X → Except Exc (Option ℕ) × X
  checkCancellation : X → Option Exc × X
  relayClose : ℕ → X → Option Exc × X
  relayOpen : ℕ → X → Option Exc × X
  beginSourcing : (voltageV currentLimitA voltageRangeV holdS : ℚ) → X → Option Exc × X
  /-- `dmm.measure_dc_voltage`, if there is a DMM. -/
  measureDcVoltage : Option (X → Except Exc ℚ × X)
  /-- The end of `source_dc_voltage_point`, given how `during_hold` ended. -/
  endSourcing : Except Exc (Option ℚ) → X → Except Exc (SourceReading (Option ℚ)) × X
  recordMeasurement : ℕ → ProtoMeasurement → X → Option Exc × X
  recordExecutionState : Option ℕ → String → X → Option Exc × X
  getMeasurements : X → Option Exc × X
  getRecentEvents : X → Option Exc × X
  /-- `render_execution_frame(ExecutionFrame.from_live(..))`. -/
  renderExecutionFrame : ProtoFrame → X → Option Exc × X
  finishRunSummary : (stopReason result : String) → X → Option Exc × X
  emergencyStop : String → X → Option Exc × X
  safeCancelShutdown : String → X → Option Exc × X

variable {X : Type}

/-- Programs that use the station. -/
abbrev ProtoProg (X α : Type) := Prog Exc (Journal X ProtoCall) α

/-! ## The sequence -/

section Sequence

variable (st : ProtoStation X) (cfg : ProtoSettings)

/-- `storage.log_event(..)`. -/
def logEvent (event : ProtoEvent) : ProtoProg X PUnit :=
  Journal.call (st.logEvent event.entry) (.logEvent event)

/-- `dmm.measure_dc_voltage() if dmm else None`. -/
def measureDcVoltage : ProtoProg X (Option ℚ) :=
  match st.measureDcVoltage with
  | none => pure none
  | some measure => do
    let voltageV ← Journal.ask measure .measureDcVoltage
    pure (some voltageV)

/-- `_read_dmm`. -/
def readDmm (relay : ℕ) : ProtoProg X (Option ℚ) := do
  match ← (measureDcVoltage st).attempt with
  | .ok voltageV =>
    logEvent st (.dmmRead relay voltageV)
    pure voltageV
  | .error e =>
    logEvent st (.dmmReadFailed relay e)
    pure none

/-- `smu.source_dc_voltage_point(..)`, with `_read_dmm` while the output is held. -/
def sourceDcVoltagePoint (dwellS : ℚ) (relay : ℕ) :
    ProtoProg X (SourceReading (Option ℚ)) := do
  Journal.call
    (st.beginSourcing cfg.chargeVoltageV cfg.chargeCurrentA cfg.batVoltageMax dwellS) .beginSourcing
  let duringHold ← (readDmm st relay).attempt
  Journal.ask (st.endSourcing duringHold) .endSourcing

/-- What is recorded and shown of a reading. -/
def recordReading (runNumber : Option ℕ) (relay : ℕ) (reading : SourceReading (Option ℚ)) :
    ProtoProg X PUnit := do
  let dmmV := reading.duringHoldResult.join
  let measurement : ProtoMeasurement := ⟨reading, dmmV⟩
  Journal.call (st.recordMeasurement relay measurement) (.recordMeasurement relay measurement)
  Journal.call (st.recordExecutionState relay ProtoState.active.text)
    (.recordExecutionState relay .active)
  Journal.call st.getMeasurements .getMeasurements
  Journal.call st.getRecentEvents .getRecentEvents
  let frame : ProtoFrame := ⟨runNumber, relay, reading.measuredV, reading.measuredI, dmmV⟩
  Journal.call (st.renderExecutionFrame frame) (.renderExecutionFrame frame)

/-- The body of the `try`. -/
def testRelay (dwellS : ℚ) (runNumber : Option ℕ) (relay : ℕ) : ProtoProg X PUnit := do
  Journal.call st.checkCancellation .checkCancellation
  Journal.call (st.relayClose relay) (.relayClose relay)
  logEvent st (.activated relay cfg.chargeVoltageV cfg.chargeCurrentA dwellS)
  let reading ← sourceDcVoltagePoint st cfg dwellS relay
  recordReading st runNumber relay reading

/-- The rows of an `except` clause. -/
def recordStop (relay : ℕ) (e : Exc) : ProtoProg X PUnit := do
  logEvent st (.caught relay (protoClause e) e)
  Journal.call (st.recordExecutionState relay (protoClause e).stopReason.text)
    (.recordExecutionState relay (.stopped (protoClause e).stopReason))
  Journal.call (st.finishRunSummary (protoClause e).stopReason.text (protoClause e).result)
    (.finishRunSummary (protoClause e).stopReason (protoClause e).result)

/-- The shutdown of an `except` clause. -/
def shutDown (e : Exc) : ProtoProg X PUnit :=
  if protoClause e = .cancelled then
    Journal.call (st.safeCancelShutdown e.message) (.safeCancelShutdown e.message)
  else Journal.call (st.emergencyStop e.message) (.emergencyStop e.message)

/-- An `except` clause. -/
def stopAfter (relay : ℕ) (e : Exc) : ProtoProg X PUnit := do
  recordStop st relay e
  shutDown st e
  Prog.raise e

/-- A round of the loop. -/
def runRelay (dwellS : ℚ) (runNumber : Option ℕ) (relay : ℕ) : ProtoProg X PUnit := do
  logEvent st (.activating relay)
  (testRelay st cfg dwellS runNumber relay).handle (stopAfter st relay)
  Journal.call (st.relayOpen relay) (.relayOpen relay)
  logEvent st (.deactivated relay)

/-- What comes before the loop, and the number of the run. -/
def startRun (hardwareSnapshot : Option (Dict String String)) : ProtoProg X (Option ℕ) := do
  Journal.call (st.startRunSummary hardwareSnapshot) .startRunSummary
  match hardwareSnapshot with
  | none => pure ⟨⟩
  | some snapshot =>
    Prog.forEach (fun message ↦ logEvent st (.traceability message))
      (hardwareTraceabilityMessages snapshot)
  Journal.ask st.getRunSummary .getRunSummary

/-- What comes after the loop. -/
def completeRun (relays : List ℕ) : ProtoProg X PUnit := do
  Journal.call (st.recordExecutionState relays.getLast? StopReason.completed.text)
    (.recordExecutionState relays.getLast? (.stopped .completed))
  Journal.call (st.finishRunSummary StopReason.completed.text "PASS")
    (.finishRunSummary .completed "PASS")
  logEvent st (.complete relays.length)

/-- `relays or ACTIVE_CHANNELS`. -/
def ProtoSettings.relaysOrActive : List ℕ → List ℕ
  | [] => cfg.activeChannels
  | relays => relays

/-- `ProtoTestSequence.run`. The snapshot is `none` where it is absent or empty. -/
def run (relays : List ℕ) (dwellS : Option ℚ) (hardwareSnapshot : Option (Dict String String)) :
    ProtoProg X PUnit := do
  let runNumber ← startRun st hardwareSnapshot
  Prog.forEach (runRelay st cfg (dwellS.getD cfg.protoTestDwellS) runNumber)
    (cfg.relaysOrActive relays)
  completeRun st (cfg.relaysOrActive relays)

end Sequence

/-! ## The law -/

namespace ProtoCall

/-- `emergency_stop` or `safe_cancel_shutdown` was called. -/
def IsShutdown : ProtoCall → Prop
  | emergencyStop _ _ | safeCancelShutdown _ _ => True
  | _ => False

/-- Outside the body of a `try`, a call of the storage or of the relay matrix raised. -/
def RaisesOutsideTry : ProtoCall → Prop
  | startRunSummary (some _) | getRunSummary (.error _) | logEvent (.traceability _) (some _)
  | logEvent (.activating _) (some _) | logEvent (.caught _ _ _) (some _)
  | recordExecutionState _ (.stopped _) (some _) | finishRunSummary _ _ (some _)
  | relayOpen _ (some _) | logEvent (.deactivated _) (some _)
  | logEvent (.complete _) (some _) => True
  | _ => False

/-- A call with which an exception leaves `run`. -/
def IsExit (c : ProtoCall) : Prop := c.IsShutdown ∨ c.RaisesOutsideTry

end ProtoCall

/-- A `relay.close` returned. -/
def ClosedRelay (new : List ProtoCall) : Prop := ∃ relay, .relayClose relay none ∈ new

/-- What is asked of a run that raised: a shutdown was called, if a relay was closed. -/
def ShutsDownOnFailure (new : List ProtoCall) : Prop :=
  ClosedRelay new → ∃ c ∈ new, c.IsShutdown

/-- Once a relay was closed, no call outside the body of a `try` raised. -/
def FailsInTry (new : List ProtoCall) : Prop :=
  ClosedRelay new → ∀ c ∈ new, ¬c.RaisesOutsideTry

/-! ## Who ends a run -/

section Exits

variable {X α : Type} {st : ProtoStation X} {cfg : ProtoSettings}

/-- `x` raises exactly by an exit, its newest call. -/
def Exits (x : ProtoProg X α) : Prop :=
  Halts Journal.entries (fun _ ↦ True) ProtoCall.IsExit x

/-- `x` has no exit. -/
def NoExit (x : ProtoProg X α) : Prop :=
  Quiet Journal.entries (fun _ ↦ True) ProtoCall.IsExit x

theorem ProtoCall.not_isExit {c : ProtoCall} (hs : ¬c.IsShutdown) (hr : ¬c.RaisesOutsideTry) :
    True ∧ ¬c.IsExit := ⟨trivial, fun h ↦ h.elim hs hr⟩

theorem exits_call {f : X → Option Exc × X} {entry : Option Exc → ProtoCall}
    (hnone : ¬(entry none).IsShutdown ∧ ¬(entry none).RaisesOutsideTry)
    (hsome : ∀ e, (entry (some e)).RaisesOutsideTry) : Exits (Journal.call f entry) :=
  Halts.call (ProtoCall.not_isExit hnone.1 hnone.2) fun e ↦ ⟨trivial, .inr (hsome e)⟩

theorem noExit_call {f : X → Option Exc × X} {entry : Option Exc → ProtoCall}
    (h : ∀ raised, ¬(entry raised).IsShutdown ∧ ¬(entry raised).RaisesOutsideTry) :
    NoExit (Journal.call f entry) :=
  Quiet.call fun raised ↦ ProtoCall.not_isExit (h raised).1 (h raised).2

theorem noExit_ask {f : X → Except Exc α × X} {entry : Except Exc α → ProtoCall}
    (h : ∀ result, ¬(entry result).IsShutdown ∧ ¬(entry result).RaisesOutsideTry) :
    NoExit (Journal.ask f entry) :=
  Quiet.ask fun result ↦ ProtoCall.not_isExit (h result).1 (h result).2

theorem noExit_measureDcVoltage : NoExit (measureDcVoltage st) := by
  unfold measureDcVoltage
  cases st.measureDcVoltage with
  | none => exact Within.pure _
  | some measure => exact Within.bind (noExit_ask fun _ ↦ ⟨id, id⟩) fun _ ↦ .pure _

theorem noExit_readDmm (relay : ℕ) : NoExit (readDmm st relay) := by
  refine Within.bind (Within.attempt noExit_measureDcVoltage) fun result ↦ ?_
  cases result with
  | ok voltageV => exact Within.bind (noExit_call fun _ ↦ ⟨id, id⟩) fun _ ↦ .pure _
  | error e => exact Within.bind (noExit_call fun _ ↦ ⟨id, id⟩) fun _ ↦ .pure _

theorem noExit_recordReading (runNumber : Option ℕ) (relay : ℕ)
    (reading : SourceReading (Option ℚ)) : NoExit (recordReading st runNumber relay reading) := by
  refine Within.bind (noExit_call fun _ ↦ ⟨id, id⟩) fun _ ↦ ?_
  refine Within.bind (noExit_call fun _ ↦ ⟨id, id⟩) fun _ ↦ ?_
  refine Within.bind (noExit_call fun _ ↦ ⟨id, id⟩) fun _ ↦ ?_
  refine Within.bind (noExit_call fun _ ↦ ⟨id, id⟩) fun _ ↦ ?_
  exact noExit_call fun _ ↦ ⟨id, id⟩

/-- The body of the `try`. -/
theorem noExit_testRelay (dwellS : ℚ) (runNumber : Option ℕ) (relay : ℕ) :
    NoExit (testRelay st cfg dwellS runNumber relay) := by
  have hsource : NoExit (sourceDcVoltagePoint st cfg dwellS relay) :=
    Within.bind (noExit_call fun _ ↦ ⟨id, id⟩) fun _ ↦
      .bind (.attempt (noExit_readDmm relay)) fun _ ↦ noExit_ask fun _ ↦ ⟨id, id⟩
  refine Within.bind (noExit_call fun _ ↦ ⟨id, id⟩) fun _ ↦ ?_
  refine Within.bind (noExit_call fun _ ↦ ⟨id, id⟩) fun _ ↦ ?_
  refine Within.bind (noExit_call fun _ ↦ ⟨id, id⟩) fun _ ↦ ?_
  exact Within.bind hsource fun reading ↦ noExit_recordReading runNumber relay reading

/-- A shutdown is an exit, however it ends. -/
theorem post_shutDown (e : Exc) (s : Journal X ProtoCall) :
    Post (shutDown st e)
      (fun _ t ↦ ∃ c : ProtoCall, t.entries = c :: s.entries ∧ c.IsExit)
      (fun _ t ↦ ∃ c : ProtoCall, t.entries = c :: s.entries ∧ c.IsExit) s := by
  refine post_ite.mpr ?_
  split
  · exact (Journal.post_call _ _ s).mono (fun _ _ ht ↦ ⟨_, ht, .inl trivial⟩)
      fun _ _ ht ↦ ⟨_, ht, .inl trivial⟩
  · exact (Journal.post_call _ _ s).mono (fun _ _ ht ↦ ⟨_, ht, .inl trivial⟩)
      fun _ _ ht ↦ ⟨_, ht, .inl trivial⟩

theorem exits_shutDown (e : Exc) : Exits (do shutDown st e; Prog.raise e : ProtoProg X PUnit) := by
  intro s
  have hhalted : ∀ t : Journal X ProtoCall,
      (∃ c : ProtoCall, t.entries = c :: s.entries ∧ c.IsExit) →
      Added Journal.entries (HaltedBy (fun _ ↦ True) ProtoCall.IsExit) s t := by
    rintro t ⟨c, ht, hexit⟩
    exact ⟨[c], ht, c, [], rfl, trivial, hexit, faultless_nil⟩
  refine (post_bind _).mpr ((post_shutDown e s).mono (fun _ t ht ↦ ?_) fun _ t ht ↦ hhalted t ht)
  exact (post_raise _).mpr (hhalted t ht)

/-- An `except` clause. -/
theorem exits_stopAfter (relay : ℕ) (e : Exc) : Exits (stopAfter st relay e) := by
  have hrecord : Exits (recordStop st relay e) := by
    refine Halts.bind (exits_call ⟨id, id⟩ fun _ ↦ trivial) fun _ ↦ ?_
    refine Halts.bind (exits_call ⟨id, id⟩ fun _ ↦ trivial) fun _ ↦ ?_
    exact exits_call ⟨id, id⟩ fun _ ↦ trivial
  exact Halts.bind hrecord fun _ ↦ exits_shutDown e

/-- **A round.** -/
theorem exits_runRelay (dwellS : ℚ) (runNumber : Option ℕ) (relay : ℕ) :
    Exits (runRelay st cfg dwellS runNumber relay) := by
  refine Halts.bind (exits_call ⟨id, id⟩ fun _ ↦ trivial) fun _ ↦ ?_
  refine Halts.bind (.handle (noExit_testRelay dwellS runNumber relay) fun e ↦
    exits_stopAfter relay e) fun _ ↦ ?_
  refine Halts.bind (exits_call ⟨id, id⟩ fun _ ↦ trivial) fun _ ↦ ?_
  exact exits_call ⟨id, id⟩ fun _ ↦ trivial

theorem exits_startRun (hardwareSnapshot : Option (Dict String String)) :
    Exits (startRun st hardwareSnapshot) := by
  refine Halts.bind (exits_call ⟨id, id⟩ fun _ ↦ trivial) fun _ ↦ ?_
  have hnumber : Exits (Journal.ask st.getRunSummary .getRunSummary) :=
    Halts.ask (fun _ ↦ ProtoCall.not_isExit id id) fun _ ↦ ⟨trivial, .inr trivial⟩
  cases hardwareSnapshot with
  | none => exact hnumber
  | some snapshot =>
    have hmessage : ∀ message, Exits (logEvent st (.traceability message)) := fun _ ↦
      exits_call ⟨id, id⟩ fun _ ↦ trivial
    exact Halts.bind (.forEach hmessage _) fun _ ↦ hnumber

theorem exits_completeRun (relays : List ℕ) : Exits (completeRun st relays) := by
  refine Halts.bind (exits_call ⟨id, id⟩ fun _ ↦ trivial) fun _ ↦ ?_
  refine Halts.bind (exits_call ⟨id, id⟩ fun _ ↦ trivial) fun _ ↦ ?_
  exact exits_call ⟨id, id⟩ fun _ ↦ trivial

/-- **The run**: it raises exactly by an exit, its newest call. -/
theorem exits_run (relays : List ℕ) (dwellS : Option ℚ)
    (hardwareSnapshot : Option (Dict String String)) :
    Exits (run st cfg relays dwellS hardwareSnapshot) := by
  refine Halts.bind (exits_startRun hardwareSnapshot) fun runNumber ↦ ?_
  refine Halts.bind (.forEach (exits_runRelay _ runNumber) _) fun _ ↦ ?_
  exact exits_completeRun _

end Exits

theorem ProtoCall.IsShutdown.not_raisesOutsideTry {c : ProtoCall} (h : c.IsShutdown) :
    ¬c.RaisesOutsideTry := by
  cases c with
  | emergencyStop reason raised => exact id
  | safeCancelShutdown reason raised => exact id
  | _ => exact h.elim

/-- A trace that ends with its only exit. -/
theorem shutsDownOnFailure_iff_of_haltedBy {new : List ProtoCall}
    (h : HaltedBy (fun _ ↦ True) ProtoCall.IsExit new) :
    ShutsDownOnFailure new ↔ FailsInTry new := by
  obtain ⟨c, old, rfl, -, hexit, hold⟩ := h
  refine forall_congr' fun _ ↦ ⟨fun hshutdown d hd ↦ ?_, fun hrows ↦ ?_⟩
  · obtain ⟨c', hc', hc'shutdown⟩ := hshutdown
    rcases List.mem_cons.mp hd with rfl | hd
    · rcases List.mem_cons.mp hc' with rfl | hc'
      · exact hc'shutdown.not_raisesOutsideTry
      · exact absurd (.inl hc'shutdown) (hold c' hc').2
    · exact fun hraises ↦ (hold d hd).2 (.inr hraises)
  · refine ⟨c, List.mem_cons_self, ?_⟩
    exact hexit.resolve_right (hrows c List.mem_cons_self)

/-- **When the sequence shuts down.** A run that raises after it closed a relay has called a
shutdown exactly if no call outside the body of a `try` raised: the rows around the rounds and of
the clauses, and `relay.open`. -/
theorem shutsDownOnFailure_iff {X : Type} (st : ProtoStation X) (cfg : ProtoSettings)
    (relays : List ℕ) (dwellS : Option ℚ) (hardwareSnapshot : Option (Dict String String))
    (s : Journal X ProtoCall) :
    Post (run st cfg relays dwellS hardwareSnapshot) (fun _ _ ↦ True)
      (fun _ t ↦ Added Journal.entries (fun new ↦ ShutsDownOnFailure new ↔ FailsInTry new) s t)
      s :=
  (exits_run relays dwellS hardwareSnapshot s).mono (fun _ _ _ ↦ trivial) fun _ _ ht ↦
    ht.mono fun _ hnew ↦ shutsDownOnFailure_iff_of_haltedBy hnew

/-! ## A relay that does not open -/

/-- A station whose relays do not verifiably open. -/
def stuckStation : ProtoStation Unit where
  startRunSummary _ x := (none, x)
  logEvent _ x := (none, x)
  getRunSummary x := (.ok (some 1), x)
  checkCancellation x := (none, x)
  relayClose _ x := (none, x)
  relayOpen _ x := (some ⟨.relayStateVerificationError, "relay 1 did not open"⟩, x)
  beginSourcing _ _ _ _ x := (none, x)
  measureDcVoltage := none
  endSourcing _ x := (.ok ⟨4, 4, 1, 1, true, false, 4, 0, some none⟩, x)
  recordMeasurement _ _ x := (none, x)
  recordExecutionState _ _ x := (none, x)
  getMeasurements x := (none, x)
  getRecentEvents x := (none, x)
  renderExecutionFrame _ x := (none, x)
  finishRunSummary _ _ x := (none, x)
  emergencyStop _ x := (none, x)
  safeCancelShutdown _ x := (none, x)

/-- Settings with two relays. -/
def twoRelays : ProtoSettings := ⟨[1, 2], 4, 1, 21 / 5, 5⟩

/-- A `relay.close` that returned. -/
def ProtoCall.isClosing : ProtoCall → Bool
  | relayClose _ none => true
  | _ => false

/-- A call of a shutdown. -/
def ProtoCall.isShutdown : ProtoCall → Bool
  | emergencyStop _ _ | safeCancelShutdown _ _ => true
  | _ => false

/-- A relay that does not open ends the run without a shutdown. -/
theorem not_shutsDownOnFailure_stuckStation :
    ¬∀ (st : ProtoStation Unit) (cfg : ProtoSettings) (relays : List ℕ) (dwellS : Option ℚ)
      (hardwareSnapshot : Option (Dict String String)) (s : Journal Unit ProtoCall),
      Post (run st cfg relays dwellS hardwareSnapshot) (fun _ _ ↦ True)
        (fun _ t ↦ Added Journal.entries ShutsDownOnFailure s t) s := by
  intro h
  have hrun : (run stuckStation twoRelays [1] none none ⟨(), []⟩).thrown.map
      (fun t ↦ (t.entries.any ProtoCall.isClosing, t.entries.any ProtoCall.isShutdown))
        = some (true, false) := by
    decide +kernel
  obtain ⟨e, t, ht, hcalls⟩ := Outcome.exists_of_thrown hrun
  obtain ⟨hclosing, hnone⟩ := Prod.mk.inj hcalls
  obtain ⟨new, hnew, hshuts⟩ :=
    (post_of_error ht).mp (h stuckStation twoRelays [1] none none ⟨(), []⟩)
  rw [show (⟨(), []⟩ : Journal Unit ProtoCall).entries = [] from rfl, List.append_nil] at hnew
  rw [hnew] at hclosing hnone
  obtain ⟨c, hc, hcloses⟩ := List.any_eq_true.mp hclosing
  have hclosed : ClosedRelay new := by
    unfold ProtoCall.isClosing at hcloses
    split at hcloses
    · next relay => exact ⟨relay, hc⟩
    · cases hcloses
  obtain ⟨d, hd, hshutdown⟩ := hshuts hclosed
  have hd' : d.isShutdown = true := by
    cases d with
    | emergencyStop reason raised => rfl
    | safeCancelShutdown reason raised => rfl
    | _ => exact hshutdown.elim
  exact absurd (List.any_eq_true.mpr ⟨d, hd, hd'⟩) (Bool.eq_false_iff.mp hnone)

end ProtoTest

end Nipxi
