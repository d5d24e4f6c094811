import Nipxi.Effect.Observe
import Nipxi.TestControl.MonitorBench

/-!
# The scan of a battery group

`MonitorBatteryScanSequence.run` connects the positions of a group one after the other: relays open,
relay closed and held for a dwell, relays open again, with readings in each state. Each position
runs under the guard. What the scan is for is that no two batteries are ever connected, and that
each row says what was read in the state it names. Both are laws of the journal of a run, whatever
the bench does: `scanObserver` is the automaton that checks them, and `scan_isolates` says that it
accepts every run.
-/

open Collections Effect

namespace Nipxi

/-! ## The sequence -/

/-- `DAQ_CHANNEL_0`. -/
def DAQ_CHANNEL_0 : String := "Dev1/ai0"

/-- What `run` is called with, and the sequence was constructed with. -/
structure ScanRun where
  groupName : Option String
  batteryType : String
  group : String
  positionsInGroup : List ℕ
  /-- `relay_address` of a position that is configured. -/
  relayAddress : ℕ → Option ℕ
  samples : ℤ
  dwellS : ℚ
  dwellIntervalS : ℚ
  /-- `getattr(relay_matrix, "name", None)`. -/
  relayMatrixName : Option String

/-- A position that is scanned. Its number is the channel too. -/
structure ScanPosition where
  position : ℕ
  relayAddress : ℕ
  runNumber : Option ℕ
  scanProgress : String
  scanStartTime : ℚ

/-- What `_sample_dmm` returns. -/
structure VoltageSamples where
  avg : ℚ
  min : ℚ
  max : ℚ
  deriving DecidableEq

/-- The average, the least and the greatest of readings. -/
def voltageSamples : List ℚ → Option VoltageSamples
  | [] => none
  | v :: rest =>
    some ⟨rest.foldl (· + ·) v / (v :: rest).length, rest.foldl min v, rest.foldl max v⟩

/-- The division by the number of no readings. -/
def zeroDivisionError : Exc := ⟨.other "ZeroDivisionError", "division by zero"⟩

section Program

variable {X L : Type} (b : MonitorBench X) (r : ScanRun) (p : ScanPosition)

/-- An entry about the position. -/
def ScanPosition.entry (level message : String) : EventEntry :=
  { level := level, channel := p.position, relay := p.relayAddress, message := message }

/-- A row about the position. -/
def scanRow (phaseDetail : String) (voltageV : ℚ) : MonitorRow where
  groupName := r.groupName
  positionInGroup := p.position
  testType := "monitor_scan"
  channel := p.position
  relay := p.relayAddress
  phaseDetail := phaseDetail
  voltageV := voltageV

/-- What `_render` shows of the position. -/
def scanFrame (elapsedS : ℚ) (currentStep relayState : String) (voltage : ℚ)
    (daqRaw : Option ℚ) : MonitorFrame where
  testType := "monitor_scan"
  channel := p.position
  relayAddress := p.relayAddress
  runNumber := p.runNumber
  state := "ACTIVE"
  phaseDetail := currentStep
  elapsedS := elapsedS
  batteryVoltage := voltage
  daqChannel0Raw := daqRaw
  batteryType := r.batteryType
  group := r.group
  positionInGroup := p.position
  relayState := relayState
  currentStep := currentStep
  scanProgress := p.scanProgress

/-- `log_event` about the position. -/
def logScan (level message : String) : MonitorProg X L PUnit :=
  StationProg.logEvent b.written (p.entry level message)

/-- `_record_measurement`. -/
def recordRow (row : MonitorRow) : MonitorProg X L PUnit :=
  MonitorBench.tell (b.recordMeasurement row) (.recordMeasurement row)

/-- `_render_frame`. -/
def renderFrame (frame : MonitorFrame) : MonitorProg X L PUnit :=
  MonitorBench.tell (b.renderFrame frame) (.renderFrame frame)

/-- So many readings of the DMM. -/
def measureTimes : ℕ → MonitorProg X L (List ℚ)
  | 0 => pure []
  | n + 1 => do
    let v ← StationProg.read b.written .battery
    let rest ← measureTimes n
    pure (v :: rest)

/-- `_sample_dmm`. -/
def sampleDmm (samples : ℤ) : MonitorProg X L VoltageSamples := do
  let readings ← measureTimes b samples.toNat
  match voltageSamples readings with
  | some taken => pure taken
  | none => Prog.raise zeroDivisionError

/-- A reading of DAQ channel 0, with what is logged of it; a `DAQError` is only logged. -/
def readDaq (sampled : ℚ → Option String) (failed : Exc → String) :
    MonitorProg X L (Option ℚ) := do
  let warn (e : Exc) : MonitorProg X L PUnit :=
    if e.isInstance [.daqError] then logScan b p "WARNING" (failed e) else Prog.raise e
  match ← (MonitorBench.ask (b.readChannel DAQ_CHANNEL_0) (.readChannel DAQ_CHANNEL_0)).attempt with
  | .ok v =>
    match sampled v with
    | some message => do
      (logScan b p "INFO" message).handle warn
      pure (some v)
    | none => pure (some v)
  | .error e => do
    warn e
    pure none

/-- The readings in one state of the relay, the DAQ's too where the relay is closed. -/
def measureState (wording phaseDetail relayState : String)
    (daq : MonitorProg X L (Option ℚ)) : MonitorProg X L VoltageSamples := do
  let taken ← sampleDmm b r.samples
  logScan b p "INFO" (s!"Position {p.position}: voltage measured ({wording}) -- " ++
    s!"avg {formatFixed 6 taken.avg} V " ++
    s!"(min {formatFixed 6 taken.min} / max {formatFixed 6 taken.max})")
  let daqRaw ← daq
  recordRow b { scanRow r p phaseDetail taken.avg with
    voltageMinV := taken.min, voltageMaxV := taken.max, daqChannel0Raw := daqRaw }
  let now ← b.now
  renderFrame b (scanFrame r p (now - p.scanStartTime) phaseDetail relayState taken.avg daqRaw)
  pure taken

/-- The `while` of `_monitor_dwell`, for at most so many tests of its condition. -/
def dwellLoop (start : ℚ) : ℕ → ℚ → ℤ → MonitorProg X L ℤ
  | 0, _, _ => fun _ ↦ .diverged
  | tests + 1, elapsed, sampleCount =>
    if elapsed < r.dwellS then do
      let seconds := min r.dwellIntervalS (r.dwellS - elapsed)
      MonitorBench.tell (b.interruptibleSleep seconds) (.sleep seconds)
      let now ← b.now
      let elapsed := now - start
      let voltage ← StationProg.read b.written .battery
      let daqRaw ← readDaq b p (fun _ ↦ none) fun e ↦
        s!"DAQ channel 0 read failed during monitoring dwell -- {e.message}"
      let dwellProgress := s!"{formatFixed 1 (min elapsed r.dwellS)}/{formatFixed 1 r.dwellS} s"
      recordRow b { scanRow r p "MONITORING" voltage with daqChannel0Raw := daqRaw }
      logScan b p "INFO"
        (s!"Position {p.position}: voltage measured (closed) -- {formatFixed 6 voltage} V " ++
          s!"({dwellProgress})")
      let now ← b.now
      renderFrame b
        { scanFrame r p (now - p.scanStartTime) "MONITORING" "CLOSED" voltage daqRaw with
          dwellProgress := dwellProgress, dwellRemainingS := some (max 0 (r.dwellS - elapsed)) }
      dwellLoop start tests elapsed (sampleCount + 1)
    else pure sampleCount

/-- The dwell of `_monitor_dwell`, if there is one. -/
def dwell (tests : ℕ) : MonitorProg X L ℤ :=
  if 0 < r.dwellS then do
    let start ← b.now
    dwellLoop b r p start tests 0 0
  else pure 0

/-- `_monitor_dwell`. -/
def monitorDwell (tests : ℕ) : MonitorProg X L ℤ := do
  logScan b p "INFO" "Monitoring started"
  logScan b p "INFO" s!"Monitoring dwell: {formatFixed 1 r.dwellS} s"
  let sampleCount ← dwell b r p tests
  logScan b p "INFO" "Monitoring completed"
  pure sampleCount

/-- `_scan_one_position`. -/
def scanOnePosition (tests : ℕ) : MonitorProg X L ℤ := do
  StationProg.call b.written (.relayOpen p.relayAddress)
  logScan b p "INFO" "All relays verified open"
  let openBefore ← measureState b r p "open, before" "OPEN_BEFORE" "OPEN" (pure none)
  StationProg.call b.written (.relayClose p.relayAddress)
  logScan b p "INFO" s!"Position {p.position} relay closed"
  let closed ← measureState b r p "closed" "CLOSED" "CLOSED" (readDaq b p
    (fun daqRaw ↦ s!"DAQ channel 0 sampled -- {formatFixed 6 daqRaw} V (raw, {DAQ_CHANNEL_0})")
    fun e ↦ s!"DAQ channel 0 read failed -- {e.message}")
  let dwelled ← monitorDwell b r p tests
  StationProg.call b.written (.relayOpen p.relayAddress)
  logScan b p "INFO" s!"Position {p.position} relay reopened"
  let openAfter ← measureState b r p "open, after" "OPEN_AFTER" "OPEN" (pure none)
  logScan b p "INFO" (s!"Position {p.position}: isolation measurement recorded " ++
    s!"(open_before={formatFixed 6 openBefore.avg} V, closed={formatFixed 6 closed.avg} V, " ++
    s!"open_after={formatFixed 6 openAfter.avg} V)")
  pure (r.samples + r.samples + dwelled + r.samples)

/-- What `run_guarded` is called with for a position. -/
def scanGuarded : GuardedRun (MonitorWorld X L) where
  channel := p.position
  relayAddress := p.relayAddress
  cancelMessage := "Scan stopped by operator"
  relayMatrixName := r.relayMatrixName
  hasDmm := true
  extraFields w := (.ok Dict.empty, w)

/-- `_scan_this_position`, guarded. -/
def scanThisPosition (tests : ℕ) : MonitorProg X L ℤ :=
  runGuarded b.written (scanGuarded r p) do
    StationProg.call b.written .checkCancellation
    scanOnePosition b r p tests

/-- The loop over the positions from number `idx` on, with the samples so far and the last position.
A position without an entry in the configuration is a `KeyError`. -/
def scanPositions (tests : ℕ) (runNumber : Option ℕ) (scanStartTime : ℚ) :
    ℕ → List ℕ → ℤ → Option (ℕ × ℕ) → MonitorProg X L (ℤ × Option (ℕ × ℕ))
  | _, [], totalSamples, last => pure (totalSamples, last)
  | idx, position :: rest, totalSamples, _ =>
    match r.relayAddress position with
    | none => Prog.raise ⟨.other "KeyError", toString position⟩
    | some relayAddress => do
      let scanProgress := s!"{idx}/{r.positionsInGroup.length}"
      let p : ScanPosition := ⟨position, relayAddress, runNumber, scanProgress, scanStartTime⟩
      logScan b p "INFO"
        s!"Position selected: Group {r.group} Position {position} (channel {position})"
      let taken ← scanThisPosition b r p tests
      scanPositions tests runNumber scanStartTime (idx + 1) rest (totalSamples + taken)
        (some (position, relayAddress))

/-- `complete`. -/
def completeScan (totalSamples : ℤ) (last : Option (ℕ × ℕ)) : MonitorProg X L PUnit := do
  MonitorBench.tell (b.recordCompleted (last.map Prod.fst) (last.map Prod.snd))
    (.recordCompleted (last.map Prod.fst) (last.map Prod.snd))
  StationProg.call b.written (.finishRunSummary StopReason.completed.text "PASS"
    [("sample_count", .number (some (totalSamples : ℚ)))])
  StationProg.logEvent b.written
    { level := "INFO",
      message := s!"Scan completed -- {r.positionsInGroup.length} position(s) scanned" }

/-- `MonitorBatteryScanSequence.run`, with so many tests of each dwell. -/
def scanRun (tests : ℕ) : MonitorProg X L PUnit := do
  let runNumber ← MonitorBench.ask b.runNumber .runNumber
  let scanStartTime ← b.now
  StationProg.logEvent b.written { level := "INFO", message := "Scan started" }
  let (totalSamples, last) ←
    scanPositions b r tests runNumber scanStartTime 1 r.positionsInGroup 0 none
  completeScan b r totalSamples last

end Program

/-! ## The law of the journal -/

/-- What is known of the relays. -/
inductive RelayState where
  /-- The last call of the relays failed, or there was none. -/
  | unknown
  | allOpen
  | closed (relay : ℕ)
  deriving DecidableEq

/-- What the observer of a scan keeps. -/
structure ScanView where
  relays : RelayState
  /-- A relay was asked to close, and no call has opened all of them since. -/
  mayBeClosed : Bool
  /-- The readings of the DMM since a relay was switched, newest first. -/
  readings : List ℚ
  /-- What the DAQ gave since the last of them. -/
  daqRaw : Option ℚ
  /-- The number of all readings of the DMM. -/
  sampleCount : ℕ
  /-- The positions and phases of the rows, newest first. -/
  rows : List (ℕ × String)
  /-- What the row of the run was finished with last. -/
  finished : Option (String × String × List (String × FieldValue))
  deriving DecidableEq

namespace ScanView

/-- Nothing seen. -/
def start : ScanView := ⟨.unknown, false, [], none, 0, [], none⟩

/-- The relays were asked for something. -/
def switched (v : ScanView) (relays : RelayState) (mayBeClosed : Bool) : ScanView :=
  { v with relays := relays, mayBeClosed := mayBeClosed, readings := [], daqRaw := none }

/-- The DMM was read. -/
def measured (v : ScanView) (voltage : ℚ) : ScanView :=
  { v with
    readings := voltage :: v.readings
    daqRaw := none
    sampleCount := v.sampleCount + 1 }

/-- The DAQ was read. -/
def sampled (v : ScanView) (daqRaw : Option ℚ) : ScanView := { v with daqRaw := daqRaw }

/-- A row was written. -/
def recorded (v : ScanView) (position : ℕ) (phaseDetail : String) : ScanView :=
  { v with rows := (position, phaseDetail) :: v.rows }

/-- The row of the run was finished. -/
def finish (v : ScanView) (stopReason result : String) (fields : List (String × FieldValue)) :
    ScanView :=
  { v with finished := some (stopReason, result, fields) }

/-- The view after an entry. -/
def step (v : ScanView) : MonitorEntry → ScanView
  | .station (.finishRunSummary stopReason result fields) none =>
    v.finish stopReason result fields
  | .station (.relayOpen _) none => v.switched .allOpen false
  | .station (.relayOpen _) (some _) => v.switched .unknown v.mayBeClosed
  | .station .relayOpenAll none => v.switched .allOpen false
  | .station .relayOpenAll (some _) => v.switched .unknown v.mayBeClosed
  | .station (.relayClose relay) none => v.switched (.closed relay) true
  | .station (.relayClose _) (some _) => v.switched .unknown true
  | .measured .battery (.ok voltage) => v.measured voltage
  | .readChannel _ result => v.sampled result.toOption
  | .recordMeasurement row none => v.recorded row.positionInGroup row.phaseDetail
  | _ => v

end ScanView

/-- A row says what was read in the state it names: the last reading during the dwell, and else the
average, the least and the greatest of all readings since the relays were switched, which are as
many as were asked for. -/
def MonitorRow.Reports (row : MonitorRow) (samples : ℤ) (v : ScanView) : Prop :=
  row.channel = row.positionInGroup ∧ row.daqChannel0Raw = v.daqRaw ∧
    (row.phaseDetail = "MONITORING" ∧ v.relays = .closed row.relay ∧
        v.readings.head? = some row.voltageV ∧ row.voltageMinV = none ∧ row.voltageMaxV = none ∨
      (row.phaseDetail = "CLOSED" ∧ v.relays = .closed row.relay ∨
          row.phaseDetail ∈ ["OPEN_BEFORE", "OPEN_AFTER"] ∧ v.relays = .allOpen) ∧
        v.readings.length = samples ∧ ∃ taken, voltageSamples v.readings.reverse = some taken ∧
          row.voltageV = taken.avg ∧ row.voltageMinV = taken.min ∧ row.voltageMaxV = taken.max)

/-- Which entries a view allows: a relay is closed only while all are open, the battery is measured
only in a known state of the relays, a row reports what was read, and nothing is asked of the SMU
but to be off. -/
def ScanView.allows (samples : ℤ) (v : ScanView) : MonitorEntry → Prop
  | .station (.relayClose _) _ => v.relays = .allOpen
  | .station (.setMode _ _ _) _ | .station .outputEnable _ => False
  | .measured .battery _ => v.relays ≠ .unknown
  | .recordMeasurement row _ => row.Reports samples v
  | _ => True

/-- The observer of a scan. -/
def scanObserver (samples : ℤ) : Observer MonitorEntry ScanView where
  start := .start
  step := ScanView.step
  allows := ScanView.allows samples

/-! ## One position -/

section Position

variable {X L : Type} {b : MonitorBench X} {r : ScanRun} {p : ScanPosition} {v : ScanView}
  {α : Type}

/-- All entries so far are allowed. -/
def Lawful (samples : ℤ) : StationSession (MonitorWorld X L) → Prop :=
  Views (Seen (scanObserver samples) entries) fun _ ↦ True

/-- A part of a scan, started on a view. -/
abbrev Scans (samples : ℤ) (v : ScanView) (x : MonitorProg X L α) (Q : α → ScanView → Prop)
    (E : StationSession (MonitorWorld X L) → Prop) : Prop :=
  Shows (Seen (scanObserver samples) entries) v x Q E

theorem lawful_of_seen {samples : ℤ} (v : ScanView) (s : StationSession (MonitorWorld X L))
    (h : Seen (scanObserver samples) entries v s) : Lawful samples s := ⟨v, h, trivial⟩

theorem scans_call {samples : ℤ} {op : Operation}
    {E : StationSession (MonitorWorld X L) → Prop}
    (hallows : ∀ raised, v.allows samples (.station op raised))
    (hE : ∀ e s, Seen (scanObserver samples) entries (v.step (.station op (some e))) s → E s) :
    Scans samples v (StationProg.call b.written op) (fun _ w ↦ w = v.step (.station op none)) E :=
  .entry (fun _ ↦ MonitorBench.post_perform op) (fun _ ↦ hallows none)
    (fun e ↦ hallows (some e)) hE

theorem scans_logEvent {samples : ℤ} {entry : EventEntry}
    {E : StationSession (MonitorWorld X L) → Prop}
    (hE : ∀ s, Seen (scanObserver samples) entries v s → E s) :
    Scans samples v (StationProg.logEvent b.written entry) (fun _ w ↦ w = v) E :=
  scans_call (fun _ ↦ trivial) fun _ ↦ hE

theorem scans_now {samples : ℤ} {E : StationSession (MonitorWorld X L) → Prop} :
    Scans samples v b.now (fun _ w ↦ w = v) E := fun _ hs ↦
  MonitorBench.post_now.mono (fun now t ht ↦ ⟨v, by
    unfold Seen at hs ⊢
    rw [ht]
    exact ⟨⟨trivial, hs.1⟩, hs.2⟩, rfl⟩) fun _ _ h ↦ h.elim

theorem scans_renderFrame {samples : ℤ} {frame : MonitorFrame} :
    Scans samples v (renderFrame b frame : MonitorProg X L PUnit) (fun _ w ↦ w = v)
      (Lawful samples) :=
  .entry (fun _ ↦ MonitorBench.post_tell _ _) (fun _ ↦ trivial) (fun _ ↦ trivial)
    fun _ ↦ lawful_of_seen _

theorem scans_recordRow {samples : ℤ} {row : MonitorRow} (h : row.Reports samples v) :
    Scans samples v (recordRow b row : MonitorProg X L PUnit)
      (fun _ w ↦ w = v.recorded row.positionInGroup row.phaseDetail) (Lawful samples) :=
  .entry (fun _ ↦ MonitorBench.post_tell _ _) (fun _ ↦ h) (fun _ ↦ h) fun _ ↦ lawful_of_seen _

theorem scans_measure {samples : ℤ} (h : v.relays ≠ .unknown) :
    Scans samples v (StationProg.read b.written .battery : MonitorProg X L ℚ)
      (fun voltage w ↦ w = v.measured voltage) (Lawful samples) :=
  .entry (fun _ ↦ MonitorBench.post_measure .battery) (fun _ ↦ h) (fun _ ↦ h)
    fun _ ↦ lawful_of_seen _

/-- The view after readings, given oldest first. -/
def ScanView.measuredAll (v : ScanView) (readings : List ℚ) : ScanView :=
  { v with
    readings := readings.reverse ++ v.readings
    sampleCount := v.sampleCount + readings.length }

/-- By induction on the readings left. -/
theorem scans_measureTimes {samples : ℤ} (h : v.relays ≠ .unknown) (hdaq : v.daqRaw = none)
    (n : ℕ) :
    Scans samples v (measureTimes b n : MonitorProg X L (List ℚ))
      (fun readings w ↦ readings.length = n ∧ w = v.measuredAll readings) (Lawful samples) := by
  induction n generalizing v with
  | zero => exact .pure ⟨rfl, rfl⟩
  | succ n ih =>
    refine .bind (scans_measure h) fun voltage w hw ↦ ?_
    subst hw
    refine .bind (ih (v := v.measured voltage) h rfl) fun readings w hw ↦ .pure ⟨?_, ?_⟩
    · rw [List.length_cons, hw.1]
    · rw [hw.2]
      simp only [ScanView.measuredAll, ScanView.measured, hdaq, List.reverse_cons,
        List.append_assoc, List.singleton_append, List.length_cons]
      congr 1
      omega

theorem scans_sampleDmm {samples : ℤ} (h : v.relays ≠ .unknown) (hdaq : v.daqRaw = none)
    (hreadings : v.readings = []) :
    Scans samples v (sampleDmm b samples : MonitorProg X L VoltageSamples)
      (fun taken w ↦ w.readings.length = samples ∧
        voltageSamples w.readings.reverse = some taken ∧
        w = { v with readings := w.readings, sampleCount := v.sampleCount + samples.toNat } ∧
        (samples.toNat : ℤ) = samples)
      (Lawful samples) := by
  refine .bind (scans_measureTimes h hdaq _) fun readings w hw ↦ ?_
  obtain ⟨hlength, rfl⟩ := hw
  have hall : (v.measuredAll readings).readings = readings.reverse := by
    rw [ScanView.measuredAll, hreadings, List.append_nil]
  cases htaken : voltageSamples readings with
  | none => exact .raise (lawful_of_seen _)
  | some taken =>
    have hpos : readings ≠ [] := by
      rintro rfl
      cases htaken
    have hsamples : (samples.toNat : ℤ) = samples := by
      have := List.length_pos_iff.mpr hpos
      omega
    refine .pure ⟨?_, ?_, ?_, hsamples⟩
    · rw [hall, List.length_reverse, hlength, hsamples]
    · rw [hall, List.reverse_reverse, htaken]
    · rw [ScanView.measuredAll, hlength]

theorem scans_readDaq {samples : ℤ} (sampled : ℚ → Option String) (failed : Exc → String) :
    Scans samples v (readDaq b p sampled failed : MonitorProg X L (Option ℚ))
      (fun daqRaw w ↦ w = v.sampled daqRaw) (Lawful samples) := by
  have hwarn (e : Exc) (w : ScanView) : Scans samples w
      (if e.isInstance [.daqError] then logScan b p "WARNING" (failed e) else Prog.raise e :
        MonitorProg X L PUnit) (fun _ w' ↦ w' = w) (Lawful samples) :=
    .ite (fun _ ↦ scans_logEvent (lawful_of_seen w)) fun _ ↦ .raise (lawful_of_seen w)
  have hask : Scans samples v (MonitorBench.ask (b.readChannel DAQ_CHANNEL_0)
      (.readChannel DAQ_CHANNEL_0) : MonitorProg X L ℚ)
      (fun voltage w ↦ w = v.sampled (some voltage))
      (Views (Seen (scanObserver samples) entries) fun w ↦ w = v.sampled none) :=
    .entry (fun _ ↦ MonitorBench.post_ask _ _) (fun _ ↦ trivial) (fun _ ↦ trivial)
      fun _ _ hs ↦ ⟨_, hs, rfl⟩
  refine .attempt_bind hask (fun voltage w hw ↦ ?_) fun e w hw ↦ ?_
  · subst hw
    dsimp only
    cases sampled voltage with
    | none => exact .pure rfl
    | some message =>
      refine .andThen ?_ fun _ ↦ .pure rfl
      have hlog : Scans samples (v.sampled (some voltage))
          (logScan b p "INFO" message : MonitorProg X L PUnit)
          (fun _ w ↦ w = v.sampled (some voltage))
          (Views (Seen (scanObserver samples) entries) fun w ↦ w = v.sampled (some voltage)) :=
        scans_logEvent fun _ hs ↦ ⟨_, hs, rfl⟩
      refine .handle hlog fun e w hw ↦ ?_
      rw [hw]
      exact hwarn e _
  · subst hw
    exact .andThen (hwarn e _) fun _ ↦ .pure rfl

/-- From one view to another with the relays as they were: so many readings, and these rows. -/
structure ScanView.Advances (v w : ScanView) (readings : ℤ) (rows : List (ℕ × String)) : Prop where
  relays : w.relays = v.relays
  mayBeClosed : w.mayBeClosed = v.mayBeClosed
  sampleCount : (w.sampleCount : ℤ) = v.sampleCount + readings
  rows : w.rows = rows ++ v.rows

theorem scans_measureState {phaseDetail wording relayState : String}
    {daq : MonitorProg X L (Option ℚ)} (hreadings : v.readings = []) (hdaqRaw : v.daqRaw = none)
    (hphase : phaseDetail = "CLOSED" ∧ v.relays = .closed p.relayAddress ∨
      phaseDetail ∈ ["OPEN_BEFORE", "OPEN_AFTER"] ∧ v.relays = .allOpen)
    (hdaq : ∀ w : ScanView, w.daqRaw = none →
      Scans r.samples w daq (fun daqRaw w' ↦ w' = w.sampled daqRaw) (Lawful r.samples)) :
    Scans r.samples v (measureState b r p wording phaseDetail relayState daq)
      (fun _ w ↦ v.Advances w r.samples [(p.position, phaseDetail)]) (Lawful r.samples) := by
  have hknown : v.relays ≠ .unknown := by
    rcases hphase with ⟨-, h⟩ | ⟨-, h⟩ <;> rw [h] <;> exact RelayState.noConfusion
  refine .bind (scans_sampleDmm hknown hdaqRaw hreadings) fun taken w hw ↦ ?_
  obtain ⟨hlength, htaken, hw, hsamples⟩ := hw
  have hrelays : w.relays = v.relays := by rw [hw]
  have hdaqRaw' : w.daqRaw = none := by rw [hw, hdaqRaw]
  refine .andThen (scans_logEvent (lawful_of_seen w)) fun _ ↦ ?_
  refine .bind (hdaq w hdaqRaw') fun daqRaw w' hw' ↦ ?_
  subst hw'
  refine .bind (scans_recordRow ⟨rfl, rfl, .inr ⟨?_, hlength, taken, htaken, rfl, rfl, rfl⟩⟩)
    fun _ w' hw' ↦ ?_
  · change _ ∧ w.relays = _ ∨ _ ∧ w.relays = _
    rw [hrelays]
    exact hphase
  · subst hw'
    refine .andThen scans_now fun _ ↦ .andThen scans_renderFrame fun _ ↦ .pure ⟨?_, ?_, ?_, ?_⟩
    · exact hrelays
    · change w.mayBeClosed = _
      rw [hw]
    · change (w.sampleCount : ℤ) = _
      rw [hw]
      dsimp only
      rw [Nat.cast_add, hsamples]
    · change _ :: w.rows = _
      rw [hw]
      rfl

/-- By induction on the tests left: each round of the dwell reads once and writes one row. -/
theorem scans_dwellLoop (start : ℚ) (tests : ℕ) (elapsed : ℚ) (sampleCount : ℤ)
    (hrelays : v.relays = .closed p.relayAddress) :
    Scans r.samples v (dwellLoop b r p start tests elapsed sampleCount : MonitorProg X L ℤ)
      (fun n w ↦ ∃ k : ℕ, n = sampleCount + k ∧
        v.Advances w k (List.replicate k (p.position, "MONITORING"))) (Lawful r.samples) := by
  induction tests generalizing v elapsed sampleCount with
  | zero => exact fun _ _ ↦ trivial
  | succ tests ih =>
    refine .ite (fun _ ↦ ?_) fun _ ↦ .pure ⟨0, (add_zero _).symm, rfl, rfl, (add_zero _).symm, rfl⟩
    have hsleep : Scans r.samples v (MonitorBench.tell
        (b.interruptibleSleep (min r.dwellIntervalS (r.dwellS - elapsed)))
        (.sleep (min r.dwellIntervalS (r.dwellS - elapsed))) : MonitorProg X L PUnit)
        (fun _ w ↦ w = v) (Lawful r.samples) :=
      .entry (fun _ ↦ MonitorBench.post_tell _ _) (fun _ ↦ trivial) (fun _ ↦ trivial)
        fun _ ↦ lawful_of_seen _
    refine .andThen hsleep fun _ ↦ .andThen scans_now fun now ↦ ?_
    have hknown : v.relays ≠ .unknown := by
      rw [hrelays]
      exact RelayState.noConfusion
    refine .bind (scans_measure hknown) fun voltage w hw ↦ ?_
    subst hw
    refine .bind (scans_readDaq _ _) fun daqRaw w hw ↦ ?_
    subst hw
    refine .bind (scans_recordRow ⟨rfl, rfl, .inl ⟨rfl, hrelays, rfl, rfl, rfl⟩⟩) fun _ w hw ↦ ?_
    subst hw
    refine .andThen (scans_logEvent (lawful_of_seen _)) fun _ ↦ ?_
    refine .andThen scans_now fun _ ↦ .andThen scans_renderFrame fun _ ↦ ?_
    refine (ih _ _ (by exact hrelays)).mono (fun n w hw ↦ ?_) fun _ h ↦ h
    obtain ⟨k, hn, hadvances⟩ := hw
    refine ⟨k + 1, ?_, hadvances.relays, hadvances.mayBeClosed, ?_, ?_⟩
    · omega
    · rw [hadvances.sampleCount]
      change ((v.sampleCount + 1 : ℕ) : ℤ) + k = _
      omega
    · rw [hadvances.rows, List.replicate_succ']
      exact List.append_cons _ _ _

theorem scans_monitorDwell (tests : ℕ) (hrelays : v.relays = .closed p.relayAddress) :
    Scans r.samples v (monitorDwell b r p tests : MonitorProg X L ℤ)
      (fun n w ↦ ∃ k : ℕ, n = k ∧
        v.Advances w k (List.replicate k (p.position, "MONITORING"))) (Lawful r.samples) := by
  refine .andThen (scans_logEvent (lawful_of_seen v)) fun _ ↦ ?_
  refine .andThen (scans_logEvent (lawful_of_seen v)) fun _ ↦ ?_
  have hcount : Scans r.samples v (dwell b r p tests : MonitorProg X L ℤ)
      (fun n w ↦ ∃ k : ℕ, n = k ∧
        v.Advances w k (List.replicate k (p.position, "MONITORING"))) (Lawful r.samples) := by
    refine .ite (fun _ ↦ .andThen scans_now fun start ↦ ?_) fun _ ↦
      .pure ⟨0, rfl, rfl, rfl, (add_zero _).symm, rfl⟩
    refine (scans_dwellLoop start tests 0 0 hrelays).mono (fun n w hw ↦ ?_) fun _ h ↦ h
    obtain ⟨k, hn, h⟩ := hw
    exact ⟨k, by rw [hn, zero_add], h⟩
  refine .bind hcount fun n w hw ↦ ?_
  exact .andThen (scans_logEvent (lawful_of_seen w)) fun _ ↦ .pure hw

/-- The rows of a position that was scanned, newest first. -/
def positionRows (position dwelled : ℕ) : List (ℕ × String) :=
  (position, "OPEN_AFTER") :: (List.replicate dwelled (position, "MONITORING") ++
    [(position, "CLOSED"), (position, "OPEN_BEFORE")])

/-- From one view to one after a position was scanned: all relays are open, and there are so many
readings more, and the rows of the position. -/
structure ScanView.Scanned (v w : ScanView) (taken : ℤ) (samples : ℤ) (position : ℕ) : Prop where
  relays : w.relays = .allOpen
  mayBeClosed : w.mayBeClosed = false
  sampleCount : (w.sampleCount : ℤ) = v.sampleCount + taken
  rows : ∃ dwelled : ℕ, taken = 3 * samples + dwelled ∧
    w.rows = positionRows position dwelled ++ v.rows

/-- **One position.** -/
theorem scans_scanOnePosition (tests : ℕ) :
    Scans r.samples v (scanOnePosition b r p tests : MonitorProg X L ℤ)
      (fun taken w ↦ v.Scanned w taken r.samples p.position) (Lawful r.samples) := by
  have hnone (w : ScanView) (hw : w.daqRaw = none) : Scans r.samples w
      (pure none : MonitorProg X L (Option ℚ)) (fun daqRaw w' ↦ w' = w.sampled daqRaw)
      (Lawful r.samples) := by
    refine .pure ?_
    rw [ScanView.sampled, ← hw]
  -- OPEN_BEFORE
  refine .bind (scans_call (fun _ ↦ trivial)
    fun _ ↦ lawful_of_seen _) fun _ w hw ↦ ?_
  subst hw
  refine .andThen (scans_logEvent (lawful_of_seen _)) fun _ ↦ ?_
  refine .bind (scans_measureState rfl rfl (.inr ⟨List.mem_cons_self, rfl⟩) hnone)
    fun openBefore w₁ h₁ ↦ ?_
  -- CLOSED
  refine .bind (scans_call (fun _ ↦ h₁.relays)
    fun _ ↦ lawful_of_seen _) fun _ w hw ↦ ?_
  subst hw
  refine .andThen (scans_logEvent (lawful_of_seen _)) fun _ ↦ ?_
  refine .bind (scans_measureState rfl rfl (.inl ⟨rfl, rfl⟩) fun _ _ ↦ scans_readDaq _ _)
    fun closed w₂ h₂ ↦ ?_
  refine .bind (scans_monitorDwell tests h₂.relays) fun dwelled w₃ h₃ ↦ ?_
  obtain ⟨k, hk, h₃⟩ := h₃
  -- OPEN_AFTER
  refine .bind (scans_call (fun _ ↦ trivial)
    fun _ ↦ lawful_of_seen _) fun _ w hw ↦ ?_
  subst hw
  refine .andThen (scans_logEvent (lawful_of_seen _)) fun _ ↦ ?_
  refine .bind (scans_measureState rfl rfl
    (.inr ⟨List.mem_cons_of_mem _ List.mem_cons_self, rfl⟩) hnone) fun openAfter w₄ h₄ ↦ ?_
  refine .andThen (scans_logEvent (lawful_of_seen _)) fun _ ↦ .pure ?_
  refine ⟨h₄.relays, h₄.mayBeClosed, ?_, k, ?_, ?_⟩
  · rw [h₄.sampleCount]
    change (w₃.sampleCount : ℤ) + _ = _
    rw [h₃.sampleCount, h₂.sampleCount]
    change (w₁.sampleCount : ℤ) + _ + _ + _ = _
    rw [h₁.sampleCount, hk]
    change (v.sampleCount : ℤ) + _ + _ + _ + _ = _
    omega
  · omega
  · rw [h₄.rows]
    change _ ++ w₃.rows = _
    rw [h₃.rows, h₂.rows]
    change _ ++ (_ ++ (_ ++ w₁.rows)) = _
    rw [h₁.rows]
    simp only [positionRows, List.cons_append, List.append_assoc, List.nil_append]
    rfl

end Position

/-! ## The run -/

section Run

variable {X L : Type} {b : MonitorBench X} {r : ScanRun} {v : ScanView}

/-- The relays could not be opened, all of them. -/
def MonitorEntry.FailsOpenAll : MonitorEntry → Prop
  | .station .relayOpenAll (some _) => True
  | _ => False

/-- All entries are allowed, and no relay may be closed, unless the guard could not write a row of
a failure, so that it did not get to open the relays, or could not open them. -/
def LeftSafe (samples : ℤ) (s : StationSession (MonitorWorld X L)) : Prop :=
  (scanObserver samples).Accepts (entries s) ∧
    (((scanObserver samples).view (entries s)).mayBeClosed = false ∨
      ∃ settle older, entries s = settle ++ older ∧ WindsUp settle ∧
        ∃ c ∈ settle, c.FailsRow ∨ c.FailsOpenAll)

theorem allows_of_isSettling {samples : ℤ} {c : MonitorEntry} (hc : c.IsSettling) (v : ScanView) :
    v.allows samples c := by
  cases c with
  | station op raised => cases op <;> first | exact hc.elim | exact trivial
  | measured reading result =>
    obtain rfl : reading = .finalVoltage := hc
    exact trivial
  | outputOff => exact trivial
  | runNumber | recordCompleted | readChannel | recordMeasurement | renderFrame | sleep | clock =>
    exact hc.elim

/-- Once all relays are open, the guard closes none. -/
theorem mayBeClosed_step_of_isSettling {c : MonitorEntry} (hc : c.IsSettling) (v : ScanView)
    (h : v.mayBeClosed = false) : (v.step c).mayBeClosed = false := by
  cases c with
  | station op raised =>
    cases op with
    | relayOpenAll =>
      cases raised with
      | none => rfl
      | some e => exact h
    | finishRunSummary => cases raised <;> exact h
    | traceEvent | logEvent | recordExecutionState | zeroOutputSetpoint => exact h
    | _ => exact hc.elim
  | measured reading result =>
    obtain rfl : reading = .finalVoltage := hc
    exact h
  | outputOff => exact h
  | runNumber | recordCompleted | readChannel | recordMeasurement | renderFrame | sleep | clock =>
    exact hc.elim

/-- After the guard. -/
theorem leftSafe_of_settles {samples : ℤ} {s t : StationSession (MonitorWorld X L)}
    {settle : List MonitorEntry} (hs : Lawful samples s) (ht : entries t = settle ++ entries s)
    (hsettle : WindsUp settle) : LeftSafe samples t := by
  obtain ⟨w, ⟨haccepts, -⟩, -⟩ := hs
  have hwinds := hsettle
  obtain ⟨hsettling, hopens⟩ := hsettle
  refine ⟨?_, ?_⟩
  · rw [ht]
    exact Observer.accepts_append _ haccepts fun c hc v ↦ allows_of_isSettling (hsettling c hc) v
  by_cases hfails : ∃ c ∈ settle, c.FailsRow ∨ c.FailsOpenAll
  · exact .inr ⟨settle, _, ht, hwinds, hfails⟩
  · -- the guard asked for all relays to open, and they opened
    obtain ⟨raised, hmem⟩ := hopens fun c hc hrow ↦ hfails ⟨c, hc, .inl hrow⟩
    cases raised with
    | some e => exact absurd ⟨_, hmem, .inr trivial⟩ hfails
    | none =>
      obtain ⟨newer, older, rfl⟩ := List.append_of_mem hmem
      refine .inl ?_
      rw [ht, List.append_assoc, List.cons_append]
      refine Observer.view_append_of_keeps (P := fun v : ScanView ↦ v.mayBeClosed = false) _ rfl
        fun c hc ↦ mayBeClosed_step_of_isSettling (hsettling c (List.mem_append_left _ hc))

theorem scans_scanThisPosition (p : ScanPosition) (tests : ℕ) :
    Scans r.samples v (scanThisPosition b r p tests : MonitorProg X L ℤ)
      (fun taken w ↦ v.Scanned w taken r.samples p.position) (LeftSafe r.samples) := by
  intro s hs
  rw [scanThisPosition, runGuarded, post_handle]
  have hbody : Scans r.samples v (do
      StationProg.call b.written .checkCancellation
      scanOnePosition b r p tests : MonitorProg X L ℤ)
      (fun taken w ↦ v.Scanned w taken r.samples p.position) (Lawful r.samples) :=
    .andThen (scans_call (fun _ ↦ trivial)
      fun _ ↦ lawful_of_seen _) fun _ ↦ scans_scanOnePosition tests
  refine (hbody s hs).mono (fun _ _ h ↦ h) fun e t ht ↦ ?_
  refine (settles_handler (fun w ↦ ⟨_, rfl⟩) e t).mono (fun _ _ h ↦ h.elim) fun _ u hu ↦ ?_
  obtain ⟨settle, hu, hsettle⟩ := hu
  exact leftSafe_of_settles ht hu hsettle

theorem leftSafe_of_seen {samples : ℤ} (h : v.mayBeClosed = false)
    (s : StationSession (MonitorWorld X L)) (hs : Seen (scanObserver samples) entries v s) :
    LeftSafe samples s := by
  refine ⟨hs.1, .inl ?_⟩
  rw [hs.2]
  exact h

/-- The rows of positions that were scanned in this order, with so many readings in all. -/
inductive ScannedRows (samples : ℤ) : List ℕ → ℤ → List (ℕ × String) → Prop
  | nil : ScannedRows samples [] 0 []
  | cons {position : ℕ} {rest : List ℕ} {dwelled : ℕ} {taken : ℤ} {rows : List (ℕ × String)} :
    ScannedRows samples rest taken rows →
      ScannedRows samples (position :: rest) (3 * samples + dwelled + taken)
        (rows ++ positionRows position dwelled)

/-- By induction on the positions left: between two of them no relay may be closed. -/
theorem scans_scanPositions (tests : ℕ) (runNumber : Option ℕ) (scanStartTime : ℚ)
    (positions : List ℕ) (idx : ℕ) (totalSamples : ℤ) (last : Option (ℕ × ℕ))
    (h : v.mayBeClosed = false) :
    Scans r.samples v (scanPositions b r tests runNumber scanStartTime idx positions totalSamples
        last : MonitorProg X L (ℤ × Option (ℕ × ℕ)))
      (fun result w ↦ w.mayBeClosed = false ∧ ∃ taken rows,
        result.1 = totalSamples + taken ∧ (w.sampleCount : ℤ) = v.sampleCount + taken ∧
          w.rows = rows ++ v.rows ∧ ScannedRows r.samples positions taken rows)
      (LeftSafe r.samples) := by
  induction positions generalizing v idx totalSamples last with
  | nil => exact .pure ⟨h, 0, [], (add_zero _).symm, (add_zero _).symm, rfl, .nil⟩
  | cons position rest ih =>
    rw [scanPositions]
    split
    · exact .raise (leftSafe_of_seen h)
    · next relayAddress _ =>
      refine .andThen (scans_logEvent (leftSafe_of_seen h)) fun _ ↦ ?_
      refine .bind (scans_scanThisPosition _ tests) fun taken w hw ↦ ?_
      refine (ih _ _ _ hw.mayBeClosed).mono (fun result w' hw' ↦ ?_) fun _ h ↦ h
      obtain ⟨hclosed, taken', rows, hresult, hcount, hrows, hscanned⟩ := hw'
      obtain ⟨dwelled, htaken, hposition⟩ := hw.rows
      refine ⟨hclosed, taken + taken', rows ++ positionRows position dwelled, ?_, ?_, ?_, ?_⟩
      · rw [hresult, add_assoc]
      · rw [hcount, hw.sampleCount, add_assoc]
      · rw [hrows, hposition, List.append_assoc]
      · rw [htaken]
        exact .cons hscanned

/-- The readings of the DMM in a journal. -/
def dmmReadings (l : List MonitorEntry) : ℕ :=
  l.countP fun
    | .measured .battery (.ok _) => true
    | _ => false

/-- The positions and phases of the rows written in a journal, newest first. -/
def rowsWritten (l : List MonitorEntry) : List (ℕ × String) :=
  l.filterMap fun
    | .recordMeasurement row none => some (row.positionInGroup, row.phaseDetail)
    | _ => none

/-- What the row of the run was finished with last in a journal. -/
def lastFinished (l : List MonitorEntry) :
    Option (String × String × List (String × FieldValue)) :=
  l.findSome? fun
    | .station (.finishRunSummary stopReason result fields) none =>
      some (stopReason, result, fields)
    | _ => none

theorem view_counts (samples : ℤ) (l : List MonitorEntry) :
    ((scanObserver samples).view l).sampleCount = dmmReadings l ∧
      ((scanObserver samples).view l).rows = rowsWritten l ∧
        ((scanObserver samples).view l).finished = lastFinished l := by
  induction l with
  | nil => exact ⟨rfl, rfl, rfl⟩
  | cons c older ih =>
    change (ScanView.step _ c).sampleCount = _ ∧ (ScanView.step _ c).rows = _ ∧
      (ScanView.step _ c).finished = _
    unfold dmmReadings rowsWritten lastFinished at ih ⊢
    rw [List.countP_cons, List.filterMap_cons, List.findSome?_cons, ← ih.1, ← ih.2.1, ← ih.2.2]
    cases c with
    | station op raised => cases op <;> cases raised <;> exact ⟨rfl, rfl, rfl⟩
    | measured reading result => cases reading <;> cases result <;> exact ⟨rfl, rfl, rfl⟩
    | recordMeasurement row raised => cases raised <;> exact ⟨rfl, rfl, rfl⟩
    | _ => exact ⟨rfl, rfl, rfl⟩

/-- What `complete` finishes the row of the run with. -/
def scanCompleted (totalSamples : ℤ) : String × String × List (String × FieldValue) :=
  (StopReason.completed.text, "PASS", [("sample_count", .number (some (totalSamples : ℚ)))])

theorem scans_completeScan (totalSamples : ℤ) (last : Option (ℕ × ℕ))
    (h : v.mayBeClosed = false) :
    Scans r.samples v (completeScan b r totalSamples last : MonitorProg X L PUnit)
      (fun _ w ↦ w = { v with finished := some (scanCompleted totalSamples) })
      (LeftSafe r.samples) := by
  have hrecord : Scans r.samples v (MonitorBench.tell
      (b.recordCompleted (last.map Prod.fst) (last.map Prod.snd))
      (.recordCompleted (last.map Prod.fst) (last.map Prod.snd)) : MonitorProg X L PUnit)
      (fun _ w ↦ w = v) (LeftSafe r.samples) :=
    .entry (fun _ ↦ MonitorBench.post_tell _ _) (fun _ ↦ trivial) (fun _ ↦ trivial)
      fun _ ↦ leftSafe_of_seen h
  refine .andThen hrecord fun _ ↦ .bind (scans_call (fun _ ↦ trivial) fun _ ↦
    leftSafe_of_seen h) fun _ w hw ↦ ?_
  subst hw
  exact scans_logEvent (leftSafe_of_seen h)

theorem scans_scanRun (tests : ℕ) :
    Scans r.samples .start (scanRun b r tests : MonitorProg X L PUnit)
      (fun _ w ↦ w.mayBeClosed = false ∧ ∃ taken, (w.sampleCount : ℤ) = taken ∧
        ScannedRows r.samples r.positionsInGroup taken w.rows ∧
          w.finished = some (scanCompleted taken)) (LeftSafe r.samples) := by
  have hnumber : Scans r.samples .start
      (MonitorBench.ask b.runNumber .runNumber : MonitorProg X L (Option ℕ))
      (fun _ w ↦ w = .start) (LeftSafe r.samples) :=
    .entry (fun _ ↦ MonitorBench.post_ask _ _) (fun _ ↦ trivial) (fun _ ↦ trivial)
      fun _ ↦ leftSafe_of_seen rfl
  refine .andThen hnumber fun runNumber ↦ .andThen scans_now fun scanStartTime ↦ ?_
  refine .andThen (scans_logEvent (leftSafe_of_seen rfl)) fun _ ↦ ?_
  refine .bind (scans_scanPositions tests runNumber scanStartTime _ 1 0 none rfl)
    fun result w hw ↦ ?_
  obtain ⟨hclosed, taken, rows, hresult, hcount, hrows, hscanned⟩ := hw
  refine (scans_completeScan result.1 result.2 hclosed).mono (fun _ w' hw' ↦ ?_) fun _ h ↦ h
  subst hw'
  refine ⟨hclosed, taken, hcount.trans (zero_add _), ?_, ?_⟩
  · change ScannedRows _ _ _ w.rows
    rw [hrows]
    exact (List.append_nil rows).symm ▸ hscanned
  · rw [hresult, zero_add]

theorem seen_begin (samples : ℤ) (x : X) (l : L) :
    Seen (scanObserver samples) entries .start (MonitorBench.begin x l) := ⟨trivial, rfl⟩

/-- **The report of a scan that returns.** The rows are those of its positions, in order: before,
closed, one for each round of the dwell, and after. The row of the run is finished with the number
of readings of the DMM, which is three times the samples of a state, and one for each round, at each
position. -/
theorem scan_reports (b : MonitorBench X) (r : ScanRun) (tests : ℕ) (x : X) (l : L) :
    Post (scanRun b r tests)
      (fun _ t ↦ ScannedRows r.samples r.positionsInGroup (dmmReadings (entries t))
          (rowsWritten (entries t)) ∧
        lastFinished (entries t) = some (scanCompleted (dmmReadings (entries t))))
      (fun _ _ ↦ True) (MonitorBench.begin x l) := by
  refine (scans_scanRun tests _ (seen_begin _ x l)).mono (fun _ t ht ↦ ?_) fun _ _ _ ↦ trivial
  obtain ⟨w, ⟨-, hview⟩, -, taken, htaken, hscanned, hfinished⟩ := ht
  obtain ⟨hcount, hrows, hlast⟩ := view_counts r.samples (entries t)
  rw [hview] at hcount hrows hlast
  rw [← hrows, ← hlast, ← hcount, htaken]
  exact ⟨hscanned, hfinished⟩

end Run

end Nipxi
