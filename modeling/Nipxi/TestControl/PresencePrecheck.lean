import Nipxi.TestControl.Station

/-!
# The presence pre-check

`battery_and_ntc_presence_precheck` with `ntc_group_snapshot`: before a run the relay of the
position is closed for one reading of the DMM, and the temperature sensors of the group are read.
A failing reading is no missing battery; a DAQ that does not answer for the selected position is
a fault of the station.

Reading the DMM and the DAQ is guarded; the other calls are not. So the pre-check raises exactly
if one of them does: `prepares_precheck`.
-/

open Effect

namespace Nipxi

/-! ## What the readings mean -/

/-- `BatteryPresence`. -/
inductive BatteryPresence where
  | present
  | absent
  | reversed
  deriving DecidableEq

/-- `NTCPresence`. -/
inductive NTCPresence where
  | present
  | absent
  | fault
  deriving DecidableEq

/-- The text of an `NTCPresence`. -/
def NTCPresence.text : NTCPresence → String
  | .present => "present"
  | .absent => "absent"
  | .fault => "fault"

/-- `REVERSE_POLARITY_VOLTAGE_THRESHOLD_V`. -/
def REVERSE_POLARITY_VOLTAGE_THRESHOLD_V : ℚ := -1 / 2

/-- `EMPTY_POSITION_VOLTAGE_V`. -/
def EMPTY_POSITION_VOLTAGE_V : ℚ := 1 / 2

/-- `classify_battery_presence`. -/
def classifyBatteryPresence (voltage : ℚ) : BatteryPresence :=
  if voltage ≤ REVERSE_POLARITY_VOLTAGE_THRESHOLD_V then .reversed
  else if voltage ≤ EMPTY_POSITION_VOLTAGE_V then .absent
  else .present

/-- `_BATTERY_LABELS`. -/
def batteryLabel : Option BatteryPresence → String
  | some .present => "PRESENT"
  | some .absent => "ABSENT"
  | some .reversed => "PRESENT (reversed polarity)"
  | none => "UNKNOWN (read failed)"

/-- `NTC_EXCITATION_V`. -/
def NTC_EXCITATION_V : ℚ := 5

/-- `ABSENT_VOLTAGE_THRESHOLD` and `NTC_SHORT_VOLTAGE_MARGIN_V`. -/
def NTC_MARGIN_V : ℚ := 1 / 20

/-- `classify_ntc_presence` for a conversion to Celsius. -/
def classifyNtcPresence (toCelsius : ℚ → Option ℚ) (voltage : ℚ) : NTCPresence :=
  if voltage ≤ NTC_MARGIN_V then .absent
  else if NTC_EXCITATION_V - NTC_MARGIN_V ≤ voltage then .fault
  else
    match toCelsius voltage with
    | some temp => if -20 ≤ temp ∧ temp ≤ 80 then .present else .fault
    | none => .fault

/-! ## The group snapshot -/

/-- What a pre-check is called with. The channel of a position is the position. -/
structure PrecheckRun where
  group : String
  /-- `group_size(group)`. -/
  size : ℕ
  position : ℕ
  relayAddress : ℕ
  source : String
  measurementTestType : String
  /-- Whether the group has an NTC DAQ. -/
  hasNtcDaq : Bool
  /-- `daq_ntc_ch` of a position, if it is configured. -/
  ntcChannel : ℕ → Option String

/-- An entry of the list `ntc_group_snapshot` returns. -/
structure NtcResult where
  position : ℕ
  presence : NTCPresence
  tempC : Option ℚ
  readable : Bool
  daqCommFailure : Bool

/-! ## Which calls escape -/

/-- A call that ended in an exception which nothing in a position's run or around it catches. -/
def StationCall.Uncaught : StationCall → Prop
  | .call (.traceEvent _) _ | .call .senseRouterShutdown _ => False
  | .call (.startRunSummary _ _ _ _) (some e) => ¬e.isInstance [.sqliteError] = true
  | .call _ (some _) => True
  | .read (.ntc _ _) (.error e) => ¬e.isInstance [.daqError] = true
  | _ => False

/-- An entry that neither starts nor finishes the row of a run. -/
def StationCall.IsPreparation : StationCall → Prop
  | .call (.startRunSummary _ _ _ _) _ | .call (.finishRunSummary _ _ _) _ | .sequence _ _ => False
  | _ => True

/-- `x` leaves the row of the run alone, and raises exactly if a call of it is uncaught. -/
abbrev Prepares {X α : Type} (x : StationProg X α) : Prop :=
  Attributed StationSession.trace StationCall.IsPreparation StationCall.Uncaught x

section Program

variable {X : Type} (st : Station X) (p : PrecheckRun)

/-- The reading of one position, with the voltage. -/
def ntcReading (position : ℕ) : StationProg X (Option ℚ × NtcResult) :=
  match p.ntcChannel position with
  | none => do
    StationProg.logEvent st
      { level := "WARNING", channel := position,
        message := s!"Position {position}: no daq_ntc_ch configured" }
    pure (none, ⟨position, .fault, none, false, false⟩)
  | some channel => do
    match ← (StationProg.read st (.ntc position channel)).attempt with
    | .ok voltage =>
      let presence := classifyNtcPresence st.ntcVoltageToCelsius voltage
      let temp := if presence = .present then st.ntcVoltageToCelsius voltage else none
      pure (some voltage, ⟨position, presence, temp, true, false⟩)
    | .error e =>
      if e.isInstance [.daqError] then do
        StationProg.logEvent st
          { level := "WARNING", channel := position,
            message := s!"Position {position}: DAQ read failed -- {e.message}" }
        pure (none, ⟨position, .fault, none, false, true⟩)
      else Prog.raise e

/-- One position of `ntc_group_snapshot`. -/
def ntcPosition (position : ℕ) : StationProg X NtcResult := do
  let (voltage, result) ← ntcReading st p position
  StationProg.call st (.recordMeasurement
    { testType := p.measurementTestType, channel := position, phaseDetail := "NTC_PRECHECK",
      voltageV := voltage, tempC := result.tempC, group := p.group })
  let tempLabel :=
    match result.tempC with
    | some temp => s!" -- {formatFixed 1 temp} C"
    | none => ""
  StationProg.logEvent st
    { level := if result.presence = .present then "INFO" else "WARNING", channel := position,
      message := s!"NTC snapshot -- Position {position} (channel {position}): " ++
        result.presence.text ++ tempLabel }
  pure result

/-- The loop of `ntc_group_snapshot`. -/
def ntcPositions : List ℕ → StationProg X (List NtcResult)
  | [] => pure []
  | position :: rest => do
    let result ← ntcPosition st p position
    let results ← ntcPositions rest
    pure (result :: results)

/-- `ntc_group_snapshot`. -/
def ntcGroupSnapshot : StationProg X (List NtcResult) :=
  if p.hasNtcDaq then ntcPositions st p (List.range' 1 p.size) else pure []

/-! ## The pre-check -/

/-- What `battery_and_ntc_presence_precheck` returns, as far as it is used. -/
structure Precheck where
  ok : Bool
  reasons : List String
  stationFault : Bool

/-- The reading of the DMM, whose failure is logged. -/
def readBattery : StationProg X (Option ℚ) := do
  match ← (StationProg.read st .battery).attempt with
  | .ok voltage => pure (some voltage)
  | .error e => do
    StationProg.logEvent st
      { level := "WARNING", channel := p.position, relay := p.relayAddress,
        message := s!"Battery presence check: DMM read failed -- {e.message}" }
    pure none

/-- The reasons against a test. -/
def precheckReasons (battery : Option BatteryPresence) (target : Option NtcResult) :
    List String :=
  (if battery = some .absent then ["Battery Missing"] else []) ++
    match target with
    | none => []
    | some result =>
      if result.readable ∧ result.presence ≠ .present then
        [if result.presence = .absent then "NTC Missing" else "NTC Fault"]
      else []

/-- The warning about a reversed battery. -/
def warnReversed (voltage : Option ℚ) : StationProg X PUnit :=
  match voltage with
  | none => pure ⟨⟩
  | some v =>
    if classifyBatteryPresence v = .reversed then
      StationProg.logEvent st
        { level := "WARNING", channel := p.position, relay := p.relayAddress,
          message := s!"Battery presence check: voltage ({formatFixed 3 v} V) suggests " ++
            "REVERSED polarity -- not treated as missing; the existing reverse-polarity " ++
            "safety check will verify again before SMU output is enabled." }
    else pure ⟨⟩

/-- The line on what was found, and the line on why the test is aborted. -/
def logPrecheck (voltage : Option ℚ) (target : Option NtcResult) (reasons : List String) :
    StationProg X PUnit := do
  let suffix :=
    match voltage with
    | some v => s!" ({formatFixed 3 v} V)"
    | none => ""
  let ntc := (target.map fun result ↦ result.presence.text).getD "N/A"
  StationProg.logEvent st
    { level := if reasons = [] then "INFO" else "ERROR", channel := p.position,
      relay := p.relayAddress,
      message := "Presence check -- Battery: " ++
        batteryLabel (voltage.map classifyBatteryPresence) ++ suffix ++ ", NTC: " ++ ntc }
  if reasons = [] then pure ⟨⟩
  else
    StationProg.logEvent st
      { level := "ERROR", channel := p.position, relay := p.relayAddress,
        message := "TEST ABORTED -- Reason: " ++ ", ".intercalate reasons }

/-- `battery_and_ntc_presence_precheck`. -/
def precheck : StationProg X Precheck := do
  StationProg.call st (.relayClose p.relayAddress)
  let voltage ← (readBattery st p).ensuring (StationProg.call st (.relayOpen p.relayAddress))
  StationProg.call st (.recordMeasurement
    { testType := p.measurementTestType, channel := p.position, relay := p.relayAddress,
      phaseDetail := "BATTERY_PRECHECK", voltageV := voltage, group := p.group })
  let snapshot ← ntcGroupSnapshot st p
  let target := snapshot.find? fun result ↦ result.position == p.position
  warnReversed st p voltage
  let reasons := precheckReasons (voltage.map classifyBatteryPresence) target
  logPrecheck st p voltage target reasons
  pure ⟨reasons.isEmpty, reasons, (target.map NtcResult.daqCommFailure).getD false⟩

/-! ## Who raises -/

variable {st p}

theorem prepares_logEvent (entry : EventEntry) : Prepares (StationProg.logEvent st entry) :=
  StationProg.attributed_call (fun _ ↦ trivial) id fun _ ↦ trivial

theorem prepares_recordMeasurement (entry : MeasurementEntry) :
    Prepares (StationProg.call st (.recordMeasurement entry)) :=
  StationProg.attributed_call (fun _ ↦ trivial) id fun _ ↦ trivial

theorem prepares_ntcReading (position : ℕ) : Prepares (ntcReading st p position) := by
  unfold ntcReading
  cases p.ntcChannel position with
  | none => exact .bind (prepares_logEvent _) fun _ ↦ .pure _
  | some channel =>
    intro s
    rw [post_bind, post_attempt]
    refine (StationProg.post_read st (.ntc position channel) s).mono (fun voltage t ht ↦ ?_)
      fun e t ht ↦ ?_
    · exact ⟨[.read (.ntc position channel) (.ok voltage)], ht, faultless_singleton ⟨trivial, id⟩⟩
    · -- only a `DAQError` is caught here
      dsimp only
      rw [post_ite]
      split
      · next he =>
        refine Attributed.after (.bind (prepares_logEvent _) fun _ ↦ .pure _)
          ⟨[.read (.ntc position channel) (.error e)], ht, ?_⟩
        exact faultless_singleton ⟨trivial, fun hnot ↦ hnot he⟩
      · next he =>
        exact ⟨[.read (.ntc position channel) (.error e)], ht,
          List.forall_mem_singleton.mpr trivial, _, List.mem_singleton_self _, he⟩

theorem prepares_ntcPositions (positions : List ℕ) : Prepares (ntcPositions st p positions) := by
  induction positions with
  | nil => exact .pure _
  | cons position rest ih =>
    refine .bind ?_ fun _ ↦ .bind ih fun _ ↦ .pure _
    refine .bind (prepares_ntcReading position) fun _ ↦ ?_
    exact .bind (prepares_recordMeasurement _) fun _ ↦ .bind (prepares_logEvent _) fun _ ↦ .pure _

theorem prepares_readBattery : Prepares (readBattery st p) := by
  have hread : Prepares (StationProg.read st .battery).attempt :=
    (StationProg.quiet_read fun _ ↦ ⟨trivial, id⟩).attempt
  refine .bind hread fun r ↦ ?_
  cases r with
  | ok voltage => exact .pure _
  | error e => exact .bind (prepares_logEvent _) fun _ ↦ .pure _

theorem prepares_warnReversed (voltage : Option ℚ) : Prepares (warnReversed st p voltage) := by
  cases voltage with
  | none => exact .pure _
  | some v => exact .ite (prepares_logEvent _) (.pure _)

/-- **The pre-check raises exactly if an unguarded call does.** The relay, every row it writes,
and a DAQ that fails in another way than by a `DAQError`. -/
theorem prepares_precheck : Prepares (precheck st p) := by
  have hclose : Prepares (StationProg.call st (.relayClose p.relayAddress)) :=
    StationProg.attributed_call (fun _ ↦ trivial) id fun _ ↦ trivial
  have hopen : Prepares (StationProg.call st (.relayOpen p.relayAddress)) :=
    StationProg.attributed_call (fun _ ↦ trivial) id fun _ ↦ trivial
  have hsnapshot : Prepares (ntcGroupSnapshot st p) :=
    .ite (prepares_ntcPositions _) (.pure _)
  refine .bind hclose fun _ ↦ .bind (prepares_readBattery.ensuring hopen) fun voltage ↦ ?_
  refine .bind (prepares_recordMeasurement _) fun _ ↦ .bind hsnapshot fun snapshot ↦ ?_
  refine .bind (prepares_warnReversed voltage) fun _ ↦ .bind ?_ fun _ ↦ .pure _
  exact .bind (prepares_logEvent _) fun _ ↦ .ite (.pure _) (prepares_logEvent _)

end Program

end Nipxi
