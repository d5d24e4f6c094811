import Mathlib.Algebra.Order.Ring.Unbundled.Rat
import Nipxi.TestControl.BatteryOperationSequence
import Nipxi.TestControl.PresencePrecheck

/-!
# Charge, discharge and cycle

`ChargeSequence.run`, `DischargeSequence.run` and `CycleSequence.run`. A phase closes the relay of
its position, turns the output on, samples, turns the output off, and opens the relay; a cycle is
charge, rest and discharge, some times over. All run under `run_guarded`.

The verdict of turning the output off leaves a phase in two ways. Where the sampling ended well,
an output that is not verified off raises `SMUStateVerificationError`, and the relay is opened by a
call that may raise. Where it raised, that exception is on its way, the verdict is lost in the
`finally`, and `emergency_stop` swallows the verdict of its own attempt.
-/

open Collections Effect

namespace Nipxi

/-! ## The settings of a sequence -/

/-- The entry of `SENSE_ROUTING` for a sense channel. -/
structure SenseRoutingEntry where
  channel : ℕ
  relayMatrix : Option String
  relay : Option ℕ

/-- What a sequence is constructed and called with. -/
structure SequenceRun (X : Type) where
  channel : ℕ
  relayAddress : ℕ
  relayMatrixName : String
  smuModel : String
  smuResource : String
  sense : Option SenseRoutingEntry
  chargeCurrentA : ℚ
  chargeVoltageV : ℚ
  dischargeCurrentA : ℚ
  /-- `discharge_cutoff_v`, the target. -/
  dischargeCutoffV : ℚ
  /-- `voltage_min_v` of the battery, the floor. -/
  voltageMinV : ℚ
  /-- `voltage_max_v` of the battery. -/
  voltageMaxV : ℚ
  /-- `_diagnostic_fields` of a charge. -/
  chargeFields : X → Except Exc (Dict String FieldValue) × X
  /-- `_diagnostic_fields` of a discharge. -/
  dischargeFields : X → Except Exc (Dict String FieldValue) × X
  /-- What the last `emergency_output_off` reported as its verification. -/
  verificationResult : X → String
  cycleCount : ℕ
  cycleRestS : ℚ

/-- What charge and discharge differ in. -/
structure Phase (X : Type) where
  name : String
  /-- The end of the line on the closed relay. -/
  started : String
  currentA : ℚ
  voltageLimitV : ℚ
  completed : String
  guarded : GuardedRun X

section Settings

variable {X : Type} (r : SequenceRun X)

/-- The arguments of `run_guarded` all sequences share. -/
def SequenceRun.guarded (cancelMessage : String)
    (extraFields : X → Except Exc (Dict String FieldValue) × X) : GuardedRun X where
  channel := r.channel
  relayAddress := r.relayAddress
  cancelMessage := cancelMessage
  relayMatrixName := r.relayMatrixName
  hasDmm := true
  extraFields := extraFields

/-- A charge. -/
def chargePhase : Phase X where
  name := "charge"
  started := s!"charging started ({formatFixed 3 r.chargeCurrentA} A / " ++
    s!"{formatFixed 3 r.chargeVoltageV} V CV target)"
  currentA := r.chargeCurrentA
  voltageLimitV := r.chargeVoltageV
  completed := s!"Charge complete on channel {r.channel} (EOC reached)"
  guarded := r.guarded "Charging stopped by operator" r.chargeFields

/-- A discharge, down to the target or the floor. -/
def dischargePhase : Phase X where
  name := "discharge"
  started := s!"discharging started ({formatFixed 3 r.dischargeCurrentA} A sink, " ++
    s!"{formatFixed 3 r.voltageMaxV} V SMU compliance, " ++
    s!"{formatFixed 3 (max r.dischargeCutoffV r.voltageMinV)} V EOD cutoff)"
  currentA := r.dischargeCurrentA
  voltageLimitV := r.voltageMaxV
  completed := s!"Discharge complete on channel {r.channel} (EOD reached)"
  guarded := r.guarded "Discharging stopped by operator" r.dischargeFields

/-- The arguments of `run_guarded` for a cycle. -/
def cycleGuarded : GuardedRun X :=
  r.guarded "Cycle stopped by operator" fun x ↦
    (.ok (Dict.empty.insert "cycle_count" (.number (some r.cycleCount))), x)

end Settings

/-! ## A phase -/

section Phases

variable {X : Type} (st : Station X) (r : SequenceRun X) (ph : Phase X)

/-- An INFO line about the channel. -/
def logInfo (message : String) : StationProg X PUnit :=
  StationProg.logEvent st (ph.guarded.entry "INFO" message)

/-- The event of a sense route that is applied or cleared. -/
def routeMessage (eventType : String) (route : SenseRoutingEntry) : String :=
  eventMessage eventType
    [("matrix_name", route.relayMatrix), ("matrix_channel", route.relay.map toString),
      ("source", "DMM"), ("destination", s!"channel_{route.channel}")]

/-- The sense channel is connected, where there is one. -/
def connectSense : StationProg X PUnit :=
  match r.sense with
  | none => pure ⟨⟩
  | some route => do
    StationProg.call st (.senseConnect route.channel)
    logInfo st ph (routeMessage "MATRIX_ROUTE_APPLIED" route)

/-- The sense channel is disconnected; a failure is only logged. -/
def disconnectSense : StationProg X PUnit :=
  match r.sense with
  | none => pure ⟨⟩
  | some route =>
    (do StationProg.call st (.senseDisconnect route.channel)
        logInfo st ph (routeMessage "MATRIX_ROUTE_CLEARED" route)).handle fun _ ↦ pure ⟨⟩

/-- `_check_battery_polarity`. -/
def checkBatteryPolarity (voltage : ℚ) : StationProg X PUnit :=
  if voltage ≤ REVERSE_POLARITY_VOLTAGE_THRESHOLD_V then do
    let message := s!"Channel {r.channel}: pre-enable voltage sanity check failed -- " ++
      s!"measured {formatFixed 3 voltage} V (at/below reverse-polarity threshold " ++
      s!"{formatFixed 3 REVERSE_POLARITY_VOLTAGE_THRESHOLD_V} V) with SMU output disabled. " ++
      "SMU will NOT be enabled."
    StationProg.logEvent st (ph.guarded.entry "ERROR" message)
    Prog.raise ⟨.reversePolarityError, message⟩
  else pure ⟨⟩

/-- The sampling, and the `finally` that turns the output off, with its verdict. -/
def sampleUntilEnd : StationProg X Bool := do
  let ended ← (StationProg.call st (.sample ph.name)).attempt
  let verified ← StationProg.emergencyOutputOff st
    s!"end of {ph.name} sequence on channel {r.channel}"
  StationProg.logEvent st (ph.guarded.entry (if verified then "INFO" else "CRITICAL")
    (eventMessage "SMU_OUTPUT_DISABLED"
      [("device", r.smuModel), ("resource", r.smuResource), ("channel", toString r.channel),
        ("verified", if verified then "True" else "False")]))
  match ended with
  | .ok _ => pure verified
  | .error e => Prog.raise e

/-- The escalation of an output that is not verified off. -/
def escalate : StationProg X PUnit := do
  (StationProg.call st .relayOpenAll).handle fun _ ↦ pure ⟨⟩
  let s ← Prog.get
  let reason := s!"Channel {r.channel}: SMU output could not be verified OFF after {ph.name} " ++
    s!"sequence (verification_result={r.verificationResult s.world})."
  StationProg.call st (.reportSafetyFault reason)
  StationProg.call st .acknowledgeSafetyFault
  Prog.raise ⟨.smuStateVerificationError, reason⟩

/-- The relay is opened, with the output verified off. -/
def isolate : StationProg X PUnit := do
  StationProg.call st (.relayOpen r.relayAddress)
  logInfo st ph s!"Relay {r.relayAddress} deactivated -- {ph.name} complete"
  logInfo st ph (eventMessage "RELAY_OPEN"
    [("relay_matrix_name", r.relayMatrixName), ("relay_address", toString r.relayAddress)])
  (StationProg.call st (.zeroOutputSetpoint
    s!"end of {ph.name} sequence on channel {r.channel}")).handle fun _ ↦ pure ⟨⟩

/-- The body of the outer `try` of a phase. -/
def energize : StationProg X PUnit := do
  let voltage ← StationProg.read st .battery
  checkBatteryPolarity st r ph voltage
  StationProg.call st (.setMode ph.name ph.currentA ph.voltageLimitV)
  StationProg.call st .outputEnable
  logInfo st ph (eventMessage "SMU_OUTPUT_ENABLED"
    [("device", r.smuModel), ("resource", r.smuResource), ("channel", toString r.channel)])
  let verified ← sampleUntilEnd st r ph
  if verified then isolate st r ph else escalate st r ph

/-- `_run_charge` and `_run_discharge`. -/
def phaseBody : StationProg X PUnit := do
  StationProg.call st .checkCancellation
  StationProg.call st (.relayClose r.relayAddress)
  logInfo st ph s!"Relay {r.relayAddress} activated -- {ph.started}"
  logInfo st ph (eventMessage "RELAY_CLOSE"
    [("relay_matrix_name", r.relayMatrixName), ("relay_address", toString r.relayAddress)])
  StationProg.call st (.recordExecutionState r.channel r.relayAddress "ACTIVE")
  connectSense st r ph
  (energize st r ph).ensuring (disconnectSense st r ph)

/-- `complete`. -/
def complete (g : GuardedRun X) (message : String) : StationProg X PUnit := do
  let fields ← extraRunSummaryFields g
  StationProg.call st
    (.recordExecutionState g.channel g.relayAddress StopReason.completed.text)
  StationProg.call st (.finishRunSummary StopReason.completed.text "PASS" fields.items)
  StationProg.logEvent st { level := "INFO", message := message }

/-- `ChargeSequence.run` and `DischargeSequence.run`. -/
def runPhase : StationProg X PUnit := do
  StationProg.call st .runNumber
  runGuarded st ph.guarded (phaseBody st r ph)
  complete st ph.guarded ph.completed

end Phases

/-! ## A cycle -/

section Cycle

variable {X : Type} (st : Station X) (r : SequenceRun X)

/-- `_reclassify_phase_as_station_fault`. -/
def reclassifyPhaseAsStationFault : StationProg X PUnit := do
  StationProg.call st
    (.recordExecutionState r.channel r.relayAddress StopReason.stationFault.text)
  StationProg.call st (.finishRunSummary StopReason.stationFault.text "STATION_FAULT" [])

/-- One phase of a cycle, with a storage of its own. -/
def cyclePhase (ph : Phase X) : StationProg X PUnit := do
  let testType := ph.name ++ "_battery"
  StationProg.call st (.makePhaseStorage testType)
  ((runPhase st r ph).handle fun e ↦
    if e.isInstance STATION_HARDWARE_EXCEPTIONS then do
      reclassifyPhaseAsStationFault st r
      Prog.raise e
    else Prog.raise e).ensuring (StationProg.call st (.closePhaseStorage testType))

/-- The line a cycle writes about one of its repetitions. -/
def logRepetition (repetition : ℕ) (what : String) : StationProg X PUnit :=
  StationProg.logEvent st ((cycleGuarded r).entry "INFO"
    s!"Cycle repetition {repetition}/{r.cycleCount}: {what}")

/-- One repetition of a cycle. -/
def runRepetition (repetition : ℕ) : StationProg X PUnit := do
  StationProg.call st .checkCancellation
  logRepetition st r repetition "charge phase starting"
  cyclePhase st r (chargePhase r)
  StationProg.call st .checkCancellation
  logRepetition st r repetition s!"resting {formatFixed 0 r.cycleRestS}s before discharge"
  StationProg.call st .rest
  logRepetition st r repetition "discharge phase starting"
  cyclePhase st r (dischargePhase r)
  logRepetition st r repetition "complete"

/-- `_run_cycle`. -/
def runRepetitions : List ℕ → StationProg X PUnit
  | [] => pure ⟨⟩
  | repetition :: rest => do
    runRepetition st r repetition
    runRepetitions rest

/-- `CycleSequence.run`. -/
def runCycle : StationProg X PUnit := do
  runGuarded st (cycleGuarded r) (runRepetitions st r (List.range' 1 r.cycleCount))
  complete st (cycleGuarded r)
    s!"Cycle complete on channel {r.channel} ({r.cycleCount} repetition(s))"

/-- `sequence_cls`. -/
inductive SequenceClass where
  | charge
  | discharge
  | cycle
  deriving DecidableEq

/-- `sequence.run` of a class. -/
def SequenceClass.run : SequenceClass → StationProg X PUnit
  | .charge => runPhase st r (chargePhase r)
  | .discharge => runPhase st r (dischargePhase r)
  | .cycle => runCycle st r

/-- How a sequence ended. -/
def sequenceEnd (x : StationProg X PUnit) : StationProg X SequenceEnd := do
  match ← x.attempt with
  | .ok _ => pure .completed
  | .error e => pure (.raised e)

end Cycle

end Nipxi
