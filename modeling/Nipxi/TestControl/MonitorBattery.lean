import Mathlib.Algebra.Order.Field.Rat
import Nipxi.TestControl.MonitorScan
import Nipxi.TestControl.PresencePrecheck

/-!
# Monitoring one battery

`MonitorBatterySequence.run` closes the relay of a position once and then samples until the operator
cancels or something fails: a voltage, a temperature where the position has an NTC, a row, a frame,
a wait. It keeps statistics of the voltages and the last state of the NTC in local variables, and
the row of the run is finished with the statistics by the guard.

`monitorObserver` checks a journal against what the sequence is for. The local variables are not in
the journal, so the proof carries them beside the view (`SeenWith`): between two samples the
statistics are those of the voltages of the rows so far. The sums and quotients of the statistics
are rounded, each by the same function, about which nothing is assumed.
-/

open Collections Effect

namespace Nipxi

/-! ## The statistics -/

/-- `_VoltageStats`. -/
structure VoltageStats where
  startVoltage : Option ℚ := none
  endVoltage : Option ℚ := none
  minVoltage : Option ℚ := none
  maxVoltage : Option ℚ := none
  sum : ℚ := 0
  sampleCount : ℕ := 0

namespace VoltageStats

variable (round : ℚ → ℚ)

/-- `add`. -/
def add (s : VoltageStats) : Option ℚ → VoltageStats
  | none => s
  | some voltageV =>
    { startVoltage := s.startVoltage.or (some voltageV)
      endVoltage := some voltageV
      minVoltage := some (s.minVoltage.elim voltageV (min · voltageV))
      maxVoltage := some (s.maxVoltage.elim voltageV (max · voltageV))
      sum := round (s.sum + voltageV)
      sampleCount := s.sampleCount + 1 }

/-- `average_voltage`. -/
def averageVoltage (s : VoltageStats) : Option ℚ :=
  if s.sampleCount = 0 then none else some (round (s.sum / s.sampleCount))

/-- `as_run_summary_fields`. -/
def asRunSummaryFields (s : VoltageStats) : Dict String FieldValue :=
  Dict.assign
    [("start_voltage", .number s.startVoltage), ("end_voltage", .number s.endVoltage),
      ("min_voltage", .number s.minVoltage), ("max_voltage", .number s.maxVoltage),
      ("average_voltage", .number (s.averageVoltage round)),
      ("sample_count", .number (some (s.sampleCount : ℚ)))] Dict.empty

/-- The statistics of voltages, given newest first. -/
def ofVoltages : List ℚ → VoltageStats
  | [] => {}
  | v :: older => (ofVoltages older).add round (some v)

end VoltageStats

/-! ## The sequence -/

/-- The local variables of `run` that its loop assigns. -/
structure MonitorLocals where
  stats : VoltageStats := {}
  /-- `last_ntc_state`. -/
  lastNtcState : Option NTCPresence := none

/-- What `run` is called with, and the sequence was constructed with. -/
structure MonitorRun where
  groupName : Option String
  channel : ℕ
  relayAddress : ℕ
  sampleIntervalS : ℚ
  /-- Whether there is a `daq`. -/
  hasDaq : Bool
  ntcChannel : Option String
  /-- The numbers of `battery_cfg`. -/
  batteryCfg : Option (Dict String ℚ)
  /-- `Settings.BAT_TEMP_MAX_C`. -/
  batTempMaxC : ℚ
  /-- `relay.name`. -/
  relayName : String
  /-- `str` of a number. -/
  str : ℚ → String
  /-- The float that a sum or a quotient of floats comes to. -/
  round : ℚ → ℚ

namespace MonitorRun

variable (r : MonitorRun)

/-- The channel the NTC is read at, if it is: `self.daq` and `ntc_channel` are not `None`. -/
def ntc : Option String := if r.hasDaq then r.ntcChannel else none

/-- `SafetyMonitor._temp_max` after `set_battery_limits(battery_cfg)`. -/
def tempMax : ℚ := (r.batteryCfg.bind (·.get? "max_temp_c")).getD r.batTempMaxC

/-- `SafetyMonitor.check_temperature`: the reason why a temperature is not safe. -/
def checkTemperature : Option ℚ → Option String
  | none => none
  | some tempC =>
    if r.tempMax < tempC then
      some s!"Overtemperature: {formatFixed 1 tempC} C > {r.str r.tempMax} C"
    else none

/-- An entry about the channel. -/
def entry (level message : String) : EventEntry :=
  { level := level, channel := r.channel, relay := r.relayAddress, message := message }

/-- The row of a sample. -/
def row (voltageV : ℚ) (tempC : Option ℚ) : MonitorRow where
  groupName := r.groupName
  positionInGroup := r.channel
  testType := "monitor"
  channel := r.channel
  relay := r.relayAddress
  phaseDetail := "MONITORING"
  voltageV := voltageV
  tempC := tempC
  dmmMeasuredV := voltageV

/-- The frame of a sample. -/
def frame (runNumber : Option ℕ) (elapsedS voltageV : ℚ) (tempC : Option ℚ) : MonitorFrame where
  testType := "monitor"
  channel := r.channel
  relayAddress := r.relayAddress
  runNumber := runNumber
  state := "ACTIVE"
  phaseDetail := "MONITORING"
  elapsedS := elapsedS
  batteryVoltage := voltageV
  batteryTemp := tempC

end MonitorRun

section Program

variable {X : Type} (b : MonitorBench X) (r : MonitorRun)

/-- `log_event` about the channel. -/
def logMonitor (level message : String) : MonitorProg X MonitorLocals PUnit :=
  StationProg.logEvent b.written (r.entry level message)

/-- A warning of the NTC, unless its last state was this one. -/
def warnNtc (state : NTCPresence) (message : String) : MonitorProg X MonitorLocals PUnit := do
  let l ← MonitorBench.locals
  if l.lastNtcState = some state then pure ⟨⟩ else logMonitor b r "WARNING" message

/-- Assigning to `last_ntc_state`. -/
def noteNtc (state : NTCPresence) : MonitorProg X MonitorLocals PUnit :=
  MonitorBench.assign fun l ↦ { l with lastNtcState := some state }

/-- The temperature of a reading of the NTC. -/
def ntcTemperature (ntcV : ℚ) : MonitorProg X MonitorLocals (Option ℚ) := do
  let presence := classifyNtcPresence b.station.ntcVoltageToCelsius ntcV
  if presence = .present then do
    noteNtc presence
    pure (b.station.ntcVoltageToCelsius ntcV)
  else do
    warnNtc b r presence s!"NTC reading {presence.text} -- temperature monitoring degraded"
    noteNtc presence
    pure none

/-- The `try` around the reading of the NTC. -/
def readNtc (ntcChannel : String) : MonitorProg X MonitorLocals (Option ℚ) :=
  (do
    let ntcV ← MonitorBench.ask (b.readChannel ntcChannel) (.readChannel ntcChannel)
    ntcTemperature b r ntcV).handle fun e ↦
    if e.isInstance [.daqError] then do
      warnNtc b r .fault s!"NTC read failed -- {e.message}"
      noteNtc .fault
      pure none
    else Prog.raise e

/-- A reading of the NTC, which ends the loop where the temperature is not safe. -/
def safeTemperature (ntcChannel : String) : MonitorProg X MonitorLocals (Option ℚ) := do
  let tempC ← readNtc b r ntcChannel
  match r.checkTemperature tempC with
  | none => pure tempC
  | some reason => Prog.raise ⟨.safetyViolationError, s!"Channel {r.channel}: {reason}"⟩

/-- The temperature of a sample. -/
def readTemperature : MonitorProg X MonitorLocals (Option ℚ) :=
  match r.ntc with
  | none => pure none
  | some ntcChannel => safeTemperature b r ntcChannel

/-- One round of the loop. -/
def monitorSample (runNumber : Option ℕ) (runStartTime : ℚ) :
    MonitorProg X MonitorLocals PUnit := do
  StationProg.call b.written .checkCancellation
  let voltageV ← StationProg.read b.written .battery
  let tempC ← readTemperature b r
  MonitorBench.assign fun l ↦ { l with stats := l.stats.add r.round (some voltageV) }
  recordRow b (r.row voltageV tempC)
  let now ← b.now
  renderFrame b (r.frame runNumber (now - runStartTime) voltageV tempC)
  MonitorBench.tell (b.interruptibleSleep r.sampleIntervalS) (.sleep r.sampleIntervalS)

/-- The `while True`, for at most so many rounds. -/
def monitorLoop (runNumber : Option ℕ) (runStartTime : ℚ) : ℕ → MonitorProg X MonitorLocals PUnit
  | 0 => fun _ ↦ .diverged
  | rounds + 1 => do
    monitorSample b r runNumber runStartTime
    monitorLoop runNumber runStartTime rounds

/-- `_loop`. -/
def monitorGuarded (runNumber : Option ℕ) (runStartTime : ℚ) (rounds : ℕ) :
    MonitorProg X MonitorLocals PUnit := do
  StationProg.call b.written .checkCancellation
  StationProg.call b.written (.relayClose r.relayAddress)
  logMonitor b r "INFO" s!"Relay {r.relayAddress} activated -- monitoring started"
  logMonitor b r "INFO" (eventMessage "RELAY_CLOSE"
    [("relay_matrix_name", some r.relayName), ("relay_address", toString r.relayAddress)])
  StationProg.logEvent b.written { level := "INFO", message := "Monitoring source: DMM" }
  StationProg.call b.written (.recordExecutionState r.channel r.relayAddress "ACTIVE")
  monitorLoop b r runNumber runStartTime rounds

/-- What `run_guarded` is called with. -/
def MonitorRun.guarded : GuardedRun (MonitorWorld X MonitorLocals) where
  channel := r.channel
  relayAddress := r.relayAddress
  cancelMessage := "Monitoring stopped by operator"
  relayMatrixName := r.relayName
  hasDmm := true
  extraFields w := (.ok (w.locals.stats.asRunSummaryFields r.round), w)

/-- `MonitorBatterySequence.run`. -/
def monitorRun (rounds : ℕ) : MonitorProg X MonitorLocals PUnit := do
  let runNumber ← MonitorBench.ask b.runNumber .runNumber
  let runStartTime ← b.now
  runGuarded b.written r.guarded (monitorGuarded b r runNumber runStartTime rounds)

end Program

/-! ## The law of the journal -/

/-- What the observer of a monitoring session keeps. -/
structure MonitorView where
  /-- The relay was asked to close. -/
  asked : Bool := false
  /-- The relay was closed, and not all were asked to open since. -/
  closed : Bool := false
  /-- The reading of the DMM that is in no row yet. -/
  voltage : Option ℚ := none
  /-- The state of the NTC that was read with it. -/
  ntc : Option NTCPresence := none
  tempC : Option ℚ := none
  /-- A warning was logged since. -/
  warned : Bool := false
  /-- The state of the NTC in the sample before. -/
  lastNtc : Option NTCPresence := none
  /-- The voltages of the rows that were asked for, newest first. -/
  recorded : List ℚ := []
  /-- The last of them could not be written. -/
  refused : Bool := false
  finalVoltage : Option ℚ := none
  /-- The row of the run was finished. -/
  finished : Bool := false

namespace MonitorView

variable (toCelsius : ℚ → Option ℚ)

/-- The relay was asked to close. -/
def askedToClose (v : MonitorView) (closed : Bool) : MonitorView :=
  { v with asked := true, closed := closed }

/-- All relays were asked to open. -/
def opened (v : MonitorView) : MonitorView := { v with closed := false }

/-- The DMM was read. -/
def measured (v : MonitorView) (voltage : ℚ) : MonitorView :=
  { v with voltage := some voltage, ntc := none, tempC := none, warned := false }

/-- The NTC was read, or could not be. -/
def sampled (v : MonitorView) (ntc : NTCPresence) (tempC : Option ℚ) : MonitorView :=
  { v with ntc := some ntc, tempC := tempC }

/-- A warning was logged. -/
def warns (v : MonitorView) : MonitorView := { v with warned := true }

/-- A row was asked for. -/
def recordedRow (v : MonitorView) (voltage : ℚ) (refused : Bool) : MonitorView :=
  { v with
    voltage := none
    lastNtc := v.ntc.or v.lastNtc
    recorded := voltage :: v.recorded
    refused := refused }

/-- The voltage at the end was read, or could not be. -/
def ended (v : MonitorView) (voltage : Option ℚ) : MonitorView := { v with finalVoltage := voltage }

/-- The row of the run was asked to be finished. -/
def finish (v : MonitorView) : MonitorView := { v with finished := true }

/-- A reading of the NTC. -/
def readNtc (v : MonitorView) : Except Exc ℚ → MonitorView
  | .ok ntcV =>
    let presence := classifyNtcPresence toCelsius ntcV
    v.sampled presence (if presence = .present then toCelsius ntcV else none)
  | .error _ => v.sampled .fault none

/-- An entry of the event log. -/
def logged (v : MonitorView) (entry : EventEntry) (raised : Option Exc) : MonitorView :=
  if entry.level = "WARNING" then
    match raised with
    | none => v.warns
    | some _ => v.sampled .fault none
  else v

/-- The view after an entry. -/
def step (v : MonitorView) : MonitorEntry → MonitorView
  | .station (.relayClose _) raised => v.askedToClose raised.isNone
  | .station .relayOpenAll _ => v.opened
  | .station (.logEvent entry) raised => v.logged entry raised
  | .station (.finishRunSummary _ _ _) _ => v.finish
  | .measured .battery (.ok voltage) => v.measured voltage
  | .measured .finalVoltage result => v.ended result.toOption
  | .readChannel _ result => v.readNtc toCelsius result
  | .recordMeasurement row raised => v.recordedRow row.voltageV raised.isSome
  | _ => v

/-- The NTC got into a state in which there is no temperature. -/
def Degrades (v : MonitorView) : Prop :=
  ∃ state, v.ntc = some state ∧ state ≠ .present ∧ v.lastNtc ≠ some state

/-- Which entries a view allows: one relay is closed, and once; the battery is measured while it is
closed, and not before a row was asked for with the reading before, with the temperature read with
it, which is safe; a warning is logged exactly when the NTC gets into a state without a temperature;
after a row that could not be written there is no other; the row of the run is finished once, with
the statistics of the rows; and nothing is asked of the SMU but to be off. -/
def allows (r : MonitorRun) (v : MonitorView) : MonitorEntry → Prop
  | .station (.relayClose relay) _ => relay = r.relayAddress ∧ v.asked = false
  | .station (.relayOpen _) _ | .station (.setMode _ _ _) _ | .station .outputEnable _ => False
  | .measured .battery _ => v.closed = true ∧ v.voltage = none ∧ v.finished = false
  | .readChannel channel _ =>
    r.ntc = some channel ∧ v.voltage.isSome ∧ v.ntc = none
  | .station (.logEvent entry) _ =>
    entry.level = "WARNING" → v.voltage.isSome ∧ v.Degrades ∧ v.warned = false
  | .recordMeasurement row _ =>
    (∃ voltage, v.voltage = some voltage ∧ row = r.row voltage v.tempC) ∧
      (∀ tempC ∈ v.tempC, tempC ≤ r.tempMax) ∧ (v.warned = true ↔ v.Degrades) ∧
        v.finished = false ∧ (v.ntc = none ↔ r.ntc = none) ∧ v.refused = false
  | .station (.finishRunSummary _ result fields) _ =>
    fields = (withEndVoltage ((VoltageStats.ofVoltages r.round v.recorded).asRunSummaryFields
      r.round) v.finalVoltage).items ∧ v.finished = false ∧ result ≠ "PASS"
  | _ => True

end MonitorView

/-- The observer of a monitoring session. -/
def monitorObserver (toCelsius : ℚ → Option ℚ) (r : MonitorRun) :
    Observer MonitorEntry MonitorView where
  start := {}
  step := MonitorView.step toCelsius
  allows := MonitorView.allows r

/-! ## One sample -/

section Session

variable {X : Type} {b : MonitorBench X} {r : MonitorRun} {v : MonitorView} {l : MonitorLocals}
  {α : Type} {E : StationSession (MonitorWorld X MonitorLocals) → Prop}

/-- The local variables are the same. -/
def SameLocals (s t : StationSession (MonitorWorld X MonitorLocals)) : Prop :=
  t.world.locals = s.world.locals

/-- The view of a journal that is allowed so far, and the local variables. -/
def MonitorSeen (b : MonitorBench X) (r : MonitorRun) :
    MonitorView × MonitorLocals → StationSession (MonitorWorld X MonitorLocals) → Prop :=
  SeenWith (monitorObserver b.station.ntcVoltageToCelsius r) entries fun s ↦ s.world.locals

/-- A part of a session, started on a view with local variables. -/
abbrev Watches (b : MonitorBench X) (r : MonitorRun) (v : MonitorView) (l : MonitorLocals)
    (x : MonitorProg X MonitorLocals α) (Q : α → MonitorView × MonitorLocals → Prop)
    (E : StationSession (MonitorWorld X MonitorLocals) → Prop) : Prop :=
  Shows (MonitorSeen b r) (v, l) x Q E

/-- The view after an entry. -/
abbrev MonitorView.next (b : MonitorBench X) (v : MonitorView) (c : MonitorEntry) : MonitorView :=
  v.step b.station.ntcVoltageToCelsius c

theorem watches_call {op : Operation} (hallows : ∀ raised, v.allows r (.station op raised))
    (hE : ∀ e s, MonitorSeen b r (v.next b (.station op (some e)), l) s → E s) :
    Watches b r v l (StationProg.call b.written op)
      (fun _ p ↦ p = (v.next b (.station op none), l)) E :=
  .entryWith (fun s ↦ (MonitorBench.post_perform op).and
      ((ends_call fun _ ↦ rfl : Ends SameLocals (StationProg.call b.written op)).within s))
    (fun _ ↦ hallows none) (fun e ↦ hallows (some e)) hE

theorem watches_read {reading : Reading} (hallows : ∀ result, v.allows r (.measured reading result))
    (hE : ∀ e s, MonitorSeen b r (v.next b (.measured reading (.error e)), l) s → E s) :
    Watches b r v l (StationProg.read b.written reading)
      (fun voltage p ↦ p = (v.next b (.measured reading (.ok voltage)), l)) E :=
  .entryWith (fun s ↦ (MonitorBench.post_measure reading).and
      ((ends_read fun _ ↦ rfl : Ends SameLocals (StationProg.read b.written reading)).within s))
    (fun _ ↦ hallows _) (fun _ ↦ hallows _) hE

theorem watches_ask {f : X → Except Exc α × X} {entry : Except Exc α → MonitorEntry}
    (hallows : ∀ result, v.allows r (entry result))
    (hE : ∀ e s, MonitorSeen b r (v.next b (entry (.error e)), l) s → E s) :
    Watches b r v l (MonitorBench.ask f entry)
      (fun a p ↦ p = (v.next b (entry (.ok a)), l)) E :=
  .entryWith (fun s ↦ post_zoom.mpr ((Journal.post_ask f entry s.world.journal).mono
      (fun _ _ h ↦ ⟨h, rfl⟩) fun _ _ h ↦ ⟨h, rfl⟩))
    (fun _ ↦ hallows _) (fun _ ↦ hallows _) hE

theorem watches_tell {f : X → Option Exc × X} {entry : Option Exc → MonitorEntry}
    (hallows : ∀ raised, v.allows r (entry raised))
    (hE : ∀ e s, MonitorSeen b r (v.next b (entry (some e)), l) s → E s) :
    Watches b r v l (MonitorBench.tell f entry) (fun _ p ↦ p = (v.next b (entry none), l)) E :=
  .entryWith (fun s ↦ post_zoom.mpr ((Journal.post_call f entry s.world.journal).mono
      (fun _ _ h ↦ ⟨h, rfl⟩) fun _ _ h ↦ ⟨h, rfl⟩))
    (fun _ ↦ hallows _) (fun _ ↦ hallows _) hE

theorem watches_now : Watches b r v l b.now (fun _ p ↦ p = (v, l)) E := fun s hs ↦
  ⟨(v, l), ⟨Seen.cons (c := MonitorEntry.clock (b.monotonic s.world.journal.world).1) hs.1 rfl
    trivial, hs.2⟩, rfl⟩

theorem watches_locals :
    Watches b r v l MonitorBench.locals (fun l' p ↦ l' = l ∧ p = (v, l)) E := fun _ hs ↦
  ⟨_, hs, hs.2, rfl⟩

theorem watches_assign (f : MonitorLocals → MonitorLocals) :
    Watches b r v l (MonitorBench.assign f) (fun _ p ↦ p = (v, f l)) E := fun _ hs ↦
  ⟨(v, f l), ⟨hs.1, congrArg f hs.2⟩, rfl⟩

/-- An entry of the event log that is no warning. -/
theorem watches_logEvent {entry : EventEntry} (hlevel : entry.level ≠ "WARNING")
    (hE : ∀ s, MonitorSeen b r (v, l) s → E s) :
    Watches b r v l (StationProg.logEvent b.written entry) (fun _ p ↦ p = (v, l)) E := by
  have hlogged (raised : Option Exc) : v.next b (.station (.logEvent entry) raised) = v :=
    if_neg hlevel
  have hcall : Watches b r v l (StationProg.call b.written (.logEvent entry))
      (fun _ p ↦ p = (v.next b (.station (.logEvent entry) none), l)) E :=
    watches_call (fun _ h ↦ absurd h hlevel) fun e s hs ↦ hE s (hlogged (some e) ▸ hs)
  rwa [hlogged none] at hcall

/-- The statistics are those of the rows, and the row of the run is not finished. -/
structure Tied (r : MonitorRun) (p : MonitorView × MonitorLocals) : Prop where
  unfinished : p.1.finished = false
  stats : p.2.stats = .ofVoltages r.round p.1.recorded

/-- Where the guard takes over. -/
def GuardDue (b : MonitorBench X) (r : MonitorRun) :
    StationSession (MonitorWorld X MonitorLocals) → Prop :=
  Views (MonitorSeen b r) (Tied r)

theorem guardDue_of_seen (h : Tied r (v, l)) (s : StationSession (MonitorWorld X MonitorLocals))
    (hs : MonitorSeen b r (v, l) s) : GuardDue b r s := ⟨_, hs, h⟩

theorem watches_warnNtc {state : NTCPresence} (message : String) (hvoltage : v.voltage.isSome)
    (hntc : v.ntc = some state) (hstate : state ≠ .present) (hwarned : v.warned = false)
    (hlast : l.lastNtcState = v.lastNtc) :
    Watches b r v l (warnNtc b r state message)
      (fun _ p ↦ p.2 = l ∧ (p.1 = v ∧ ¬v.Degrades ∨ p.1 = v.warns ∧ v.Degrades))
      (Views (MonitorSeen b r) fun p ↦ p = (v.sampled .fault none, l)) := by
  refine .bind watches_locals fun l' p hp ↦ ?_
  obtain ⟨rfl, rfl⟩ := hp
  have hdegrades : v.Degrades ↔ ¬l'.lastNtcState = some state := by
    rw [hlast]
    constructor
    · rintro ⟨state', hntc', -, hne⟩
      rw [hntc] at hntc'
      rwa [Option.some.inj hntc']
    · exact fun hne ↦ ⟨state, hntc, hstate, hne⟩
  refine .ite (fun hsame ↦ .pure ⟨rfl, .inl ⟨rfl, fun h ↦ hdegrades.mp h hsame⟩⟩) fun hne ↦ ?_
  have hdeg := hdegrades.mpr hne
  have hlog : Watches b r v l' (logMonitor b r "WARNING" message) (fun _ p ↦ p = (v.warns, l'))
      (Views (MonitorSeen b r) fun p ↦ p = (v.sampled .fault none, l')) :=
    watches_call (fun _ _ ↦ ⟨hvoltage, hdeg, hwarned⟩) fun _ _ hs ↦ ⟨_, hs, rfl⟩
  refine hlog.mono (fun _ p hp ↦ ?_) fun _ h ↦ h
  rw [hp]
  exact ⟨rfl, .inr ⟨rfl, hdeg⟩⟩

/-- The temperature of a sample is in the view, and the last state of the NTC in its variable. -/
structure SampleRead (v : MonitorView) (l : MonitorLocals) (tempC : Option ℚ)
    (p : MonitorView × MonitorLocals) : Prop where
  view : p.1 = { v with ntc := p.1.ntc, tempC := tempC, warned := p.1.warned }
  stats : p.2.stats = l.stats
  last : p.2.lastNtcState = p.1.ntc.or v.lastNtc
  warned : p.1.warned = true ↔ p.1.Degrades

theorem watches_readNtc {ntcChannel : String} (hchannel : r.ntc = some ntcChannel)
    (hvoltage : v.voltage.isSome) (hntc : v.ntc = none)
    (hwarned : v.warned = false) (hlast : l.lastNtcState = v.lastNtc) (htied : Tied r (v, l)) :
    Watches b r v l (readNtc b r ntcChannel)
      (fun tempC p ↦ SampleRead v l tempC p ∧ p.1.ntc ≠ none) (GuardDue b r) := by
  -- a state without a temperature, after its warning
  have hnote (state : NTCPresence) (hstate : state ≠ .present) (w : MonitorView)
      (l' : MonitorLocals) (hl : l' = l) (hw : w = v.sampled state none ∧
        ¬(v.sampled state none).Degrades ∨ w = (v.sampled state none).warns ∧
          (v.sampled state none).Degrades) :
      Watches b r w l' (do
        noteNtc state
        pure none) (fun tempC p ↦ SampleRead v l tempC p ∧ p.1.ntc ≠ none) (GuardDue b r) := by
    subst hl
    refine .bind (watches_assign _) fun _ p hp ↦ ?_
    subst hp
    refine .pure ?_
    rcases hw with ⟨rfl, hdeg⟩ | ⟨rfl, hdeg⟩
    · refine ⟨⟨rfl, rfl, rfl, ?_⟩, Option.some_ne_none _⟩
      exact iff_of_false (hwarned ▸ Bool.false_ne_true) hdeg
    · exact ⟨⟨rfl, rfl, rfl, iff_of_true rfl hdeg⟩, Option.some_ne_none _⟩
  refine .handle (D := fun p ↦ p = (v.sampled .fault none, l)) ?_ fun e p hp ↦ ?_
  · refine .bind (watches_ask (fun _ ↦ ⟨hchannel, hvoltage, hntc⟩)
      fun _ _ hs ↦ ⟨_, hs, rfl⟩) fun ntcV p hp ↦ ?_
    subst hp
    unfold ntcTemperature
    set presence := classifyNtcPresence b.station.ntcVoltageToCelsius ntcV with hpresence
    have hnext : v.next b (.readChannel ntcChannel (.ok ntcV)) = v.sampled presence
        (if presence = .present then b.station.ntcVoltageToCelsius ntcV else none) := rfl
    rw [hnext]
    refine .ite (fun hpresent ↦ ?_) fun hpresent ↦ ?_
    · refine .bind (watches_assign _) fun _ p hp ↦ .pure ?_
      subst hp
      rw [if_pos hpresent]
      refine ⟨⟨rfl, rfl, rfl, iff_of_false (hwarned ▸ Bool.false_ne_true) ?_⟩,
        Option.some_ne_none _⟩
      rintro ⟨state, hstate, hne, -⟩
      exact hne ((Option.some.inj hstate).symm.trans hpresent)
    · rw [if_neg hpresent]
      refine .bind (watches_warnNtc _ hvoltage rfl hpresent hwarned hlast) fun _ p hp ↦ ?_
      exact hnote presence hpresent p.1 p.2 hp.1 hp.2
  · subst hp
    refine .ite (fun _ ↦ ?_) fun _ ↦ .raise (guardDue_of_seen ⟨htied.1, htied.2⟩)
    have hfault : (.fault : NTCPresence) ≠ .present := NTCPresence.noConfusion
    have hwarn := watches_warnNtc (b := b) (r := r) (v := v.sampled .fault none)
      s!"NTC read failed -- {e.message}" hvoltage rfl hfault hwarned hlast
    refine .bind (hwarn.mono (fun _ _ h ↦ h) fun s hs ↦ ?_) fun _ p hp ↦ ?_
    · obtain ⟨p, hp, rfl⟩ := hs
      exact ⟨_, hp, htied.1, htied.2⟩
    · exact hnote .fault hfault p.1 p.2 hp.1 hp.2

theorem watches_readTemperature (hvoltage : v.voltage.isSome) (hntc : v.ntc = none)
    (htempC : v.tempC = none) (hwarned : v.warned = false) (hlast : l.lastNtcState = v.lastNtc)
    (htied : Tied r (v, l)) :
    Watches b r v l (readTemperature b r)
      (fun tempC p ↦ SampleRead v l tempC p ∧ (∀ t ∈ tempC, t ≤ r.tempMax) ∧
        (p.1.ntc = none ↔ r.ntc = none)) (GuardDue b r) := by
  rcases r.ntc.eq_none_or_eq_some with hnone | ⟨ntcChannel, hsome⟩
  · have hprog : readTemperature b r = pure none := by rw [readTemperature, hnone]
    rw [hprog]
    refine .pure ⟨⟨?_, rfl, ?_, iff_of_false (hwarned ▸ Bool.false_ne_true) ?_⟩, nofun,
      iff_of_true hntc hnone⟩
    · rw [← htempC]
    · rw [hntc, Option.none_or]
      exact hlast
    · rintro ⟨state, hstate, -⟩
      rw [hntc] at hstate
      cases hstate
  · have hprog : readTemperature b r = safeTemperature b r ntcChannel := by
      rw [readTemperature, hsome]
    rw [hprog]
    refine .bind (watches_readNtc hsome hvoltage hntc hwarned hlast htied) fun tempC p hp ↦ ?_
    obtain ⟨hsampled, hread⟩ := hp
    cases hcheck : r.checkTemperature tempC with
    | none =>
      refine .pure ⟨hsampled, fun t ht ↦ ?_, iff_of_false hread (hsome ▸ Option.some_ne_none _)⟩
      obtain rfl : tempC = some t := ht
      by_contra hunsafe
      rw [MonitorRun.checkTemperature, if_pos (not_le.mp hunsafe)] at hcheck
      cases hcheck
    | some reason =>
      refine .raise fun s hs ↦ ⟨p, hs, ?_, ?_⟩
      · rw [hsampled.view]
        exact htied.unfinished
      · rw [hsampled.stats, hsampled.view]
        exact htied.stats

theorem watches_renderFrame {frame : MonitorFrame} (hE : ∀ s, MonitorSeen b r (v, l) s → E s) :
    Watches b r v l (renderFrame b frame) (fun _ p ↦ p = (v, l)) E :=
  watches_tell (fun _ ↦ trivial) fun _ ↦ hE

theorem watches_sleep (hE : ∀ s, MonitorSeen b r (v, l) s → E s) :
    Watches b r v l (MonitorBench.tell (b.interruptibleSleep r.sampleIntervalS)
      (.sleep r.sampleIntervalS)) (fun _ p ↦ p = (v, l)) E :=
  watches_tell (fun _ ↦ trivial) fun _ ↦ hE

/-- Between two samples every reading is in a row. -/
structure BetweenSamples (r : MonitorRun) (p : MonitorView × MonitorLocals) : Prop
    extends Tied r p where
  closed : p.1.closed = true
  voltage : p.1.voltage = none
  last : p.2.lastNtcState = p.1.lastNtc
  written : p.1.refused = false

/-- One round of the loop. -/
theorem watches_monitorSample (runNumber : Option ℕ) (runStartTime : ℚ)
    (h : BetweenSamples r (v, l)) :
    Watches b r v l (monitorSample b r runNumber runStartTime) (fun _ p ↦ BetweenSamples r p)
      (GuardDue b r) := by
  have htied : Tied r (v, l) := h.toTied
  refine .andThen (watches_call (fun _ ↦ trivial) fun _ ↦ guardDue_of_seen htied) fun _ ↦ ?_
  refine .bind (watches_read (fun _ ↦ ⟨h.closed, h.voltage, h.unfinished⟩)
    fun _ ↦ guardDue_of_seen htied) fun voltageV p hp ↦ ?_
  subst hp
  refine .bind (watches_readTemperature (v := v.measured voltageV) rfl rfl rfl rfl h.last
    ⟨h.unfinished, h.stats⟩) fun tempC p hp ↦ ?_
  obtain ⟨w, l'⟩ := p
  obtain ⟨⟨hview, hstats, hlast, hwarned⟩, hsafe, hread⟩ := hp
  refine .bind (watches_assign _) fun _ p hp ↦ ?_
  subst hp
  dsimp only at hview hstats hlast hwarned hread
  -- `stats.add` comes before the write, so the row counts even if its write raises
  have hrecorded (refused : Bool) : Tied r (w.recordedRow voltageV refused,
      { l' with stats := l'.stats.add r.round (some voltageV) }) := by
    refine ⟨?_, ?_⟩
    · change w.finished = false
      rw [hview]
      exact h.unfinished
    · change l'.stats.add r.round (some voltageV)
        = (VoltageStats.ofVoltages r.round w.recorded).add r.round (some voltageV)
      rw [hstats, hview]
      exact congrArg (VoltageStats.add r.round · (some voltageV)) h.stats
  refine .bind (watches_tell (fun _ ↦ ⟨⟨voltageV, ?_, ?_⟩, ?_, hwarned, ?_, hread, ?_⟩)
    fun _ ↦ guardDue_of_seen (hrecorded true)) fun _ p hp ↦ ?_
  · rw [hview]
    rfl
  · rw [hview]
  · rw [hview]
    exact hsafe
  · rw [hview]
    exact h.unfinished
  · rw [hview]
    exact h.written
  subst hp
  refine .andThen watches_now fun _ ↦ ?_
  refine .andThen (watches_renderFrame (guardDue_of_seen (hrecorded false))) fun _ ↦ ?_
  refine (watches_sleep (guardDue_of_seen (hrecorded false))).mono (fun _ p hp ↦ ?_) fun _ hs ↦ hs
  subst hp
  refine ⟨hrecorded false, ?_, rfl, ?_, rfl⟩
  · change w.closed = true
    rw [hview]
    exact h.closed
  · change l'.lastNtcState = w.ntc.or w.lastNtc
    rw [hlast]
    exact congrArg w.ntc.or (congrArg MonitorView.lastNtc hview).symm

/-- By induction on the rounds left. -/
theorem watches_monitorLoop (runNumber : Option ℕ) (runStartTime : ℚ) (rounds : ℕ)
    (h : BetweenSamples r (v, l)) :
    Watches b r v l (monitorLoop b r runNumber runStartTime rounds) (fun _ _ ↦ False)
      (GuardDue b r) := by
  induction rounds generalizing v l with
  | zero => exact fun _ _ ↦ trivial
  | succ rounds ih =>
    exact .bind (watches_monitorSample runNumber runStartTime h) fun _ p hp ↦ ih (v := p.1) hp

/-- The relay is closed once, before the loop. -/
theorem watches_monitorGuarded (runNumber : Option ℕ) (runStartTime : ℚ) (rounds : ℕ) :
    Watches b r {} {} (monitorGuarded b r runNumber runStartTime rounds) (fun _ _ ↦ False)
      (GuardDue b r) := by
  have htied {v : MonitorView} (hfinished : v.finished = false) (hrecorded : v.recorded = []) :
      Tied r (v, {}) := by
    refine ⟨hfinished, ?_⟩
    rw [hrecorded]
    rfl
  refine .andThen (watches_call (fun _ ↦ trivial) fun _ ↦ guardDue_of_seen (htied rfl rfl))
    fun _ ↦ ?_
  refine .bind (watches_call (fun _ ↦ ⟨rfl, rfl⟩) fun _ ↦ guardDue_of_seen (htied rfl rfl))
    fun _ p hp ↦ ?_
  subst hp
  have hlogged (entry : EventEntry) (hlevel : entry.level ≠ "WARNING") :=
    watches_logEvent (b := b) (r := r) (v := MonitorView.askedToClose {} true) (l := {}) hlevel
      (guardDue_of_seen (htied rfl rfl))
  have hinfo : "INFO" ≠ "WARNING" := by decide
  refine .andThen (hlogged _ hinfo) fun _ ↦ .andThen (hlogged _ hinfo) fun _ ↦ ?_
  refine .andThen (hlogged _ hinfo) fun _ ↦ ?_
  refine .andThen (watches_call (fun _ ↦ trivial) fun _ ↦ guardDue_of_seen (htied rfl rfl))
    fun _ ↦ ?_
  exact watches_monitorLoop runNumber runStartTime rounds ⟨htied rfl rfl, rfl, rfl, rfl, rfl⟩

/-! ## The guard -/

/-- All entries so far are allowed. -/
def Allowed (b : MonitorBench X) (r : MonitorRun) :
    StationSession (MonitorWorld X MonitorLocals) → Prop :=
  Views (MonitorSeen b r) fun _ ↦ True

theorem allowed_of_seen (p : MonitorView × MonitorLocals)
    (s : StationSession (MonitorWorld X MonitorLocals)) (hs : MonitorSeen b r p s) :
    Allowed b r s :=
  ⟨_, hs, trivial⟩

/-- The row of the run is finished with the statistics of the rows. -/
theorem watches_recordFailure (clause : ExceptClause)
    (hlevels : ∀ entry ∈ clause.entries, entry.level ≠ "WARNING") (hresult : clause.result ≠ "PASS")
    (h : Tied r (v, l)) :
    Watches b r v l (recordFailure b.written r.guarded clause) (fun _ _ ↦ True) (Allowed b r) := by
  have hevent (message : String) : Watches b r v l (onEvent b.written r.guarded message)
      (fun _ p ↦ p = (v, l)) (Allowed b r) :=
    .handle (D := fun p ↦ p = (v, l)) (watches_call (fun _ ↦ trivial) fun _ _ hs ↦ ⟨_, hs, rfl⟩)
      fun _ _ hp ↦ .pure hp
  have hentries (l' : List EventEntry) (hl' : ∀ entry ∈ l', entry.level ≠ "WARNING") :
      Watches b r v l (logEvents b.written l') (fun _ p ↦ p = (v, l)) (Allowed b r) := by
    induction l' with
    | nil => exact .pure rfl
    | cons entry rest ih =>
      exact .andThen (watches_logEvent (hl' entry List.mem_cons_self) (allowed_of_seen _))
        fun _ ↦ ih fun entry' h' ↦ hl' entry' (List.mem_cons_of_mem _ h')
  have hfields : Watches b r v l (extraRunSummaryFields r.guarded)
      (fun fields p ↦ fields = l.stats.asRunSummaryFields r.round ∧ p = (v, l)) (Allowed b r) := by
    rintro s ⟨hs, hl⟩
    exact ⟨_, ⟨hs, hl⟩,
      congrArg (fun l' : MonitorLocals ↦ l'.stats.asRunSummaryFields r.round) hl, rfl⟩
  have hfinal : Watches b r v l (safeFinalVoltageReading b.written r.guarded)
      (fun voltage p ↦ p = (v.ended voltage, l)) (Allowed b r) := by
    refine .ite (fun _ ↦ ?_) fun h ↦ absurd rfl h
    refine .attempt_bind (D := fun p ↦ p = (v.ended none, l)) (watches_read (fun _ ↦ trivial)
      fun _ _ hs ↦ ⟨_, hs, rfl⟩) (fun voltage p hp ↦ ?_) fun _ p hp ↦ .pure hp
    exact .pure hp
  refine .andThen (hevent _) fun _ ↦ .andThen (hentries _ hlevels) fun _ ↦ ?_
  refine .andThen (watches_call (fun _ ↦ trivial) fun _ ↦ allowed_of_seen _) fun _ ↦ ?_
  refine .bind hfields fun fields p hp ↦ ?_
  obtain ⟨rfl, rfl⟩ := hp
  refine .bind hfinal fun voltage p hp ↦ ?_
  subst hp
  have hfinish : Watches b r (v.ended voltage) l
      (StationProg.call b.written (.finishRunSummary clause.stopReason.text clause.result
        (withEndVoltage (l.stats.asRunSummaryFields r.round) voltage).items))
      (fun _ p ↦ p = ((v.ended voltage).finish, l)) (Allowed b r) := by
    refine watches_call (fun _ ↦ ⟨?_, h.unfinished, hresult⟩) fun _ ↦ allowed_of_seen _
    rw [h.stats]
    rfl
  exact hfinish.mono (fun _ _ _ ↦ trivial) fun _ hs ↦ hs

theorem watches_shutDown (clause : ExceptClause) (e : Exc) :
    Watches b r v l (shutDown b.written r.guarded clause e) (fun _ _ ↦ True) (Allowed b r) := by
  have hevent {w : MonitorView} {E : StationSession (MonitorWorld X MonitorLocals) → Prop}
      (message : String) :
      Watches b r w l (onEvent b.written r.guarded message) (fun _ p ↦ p = (w, l)) E :=
    .handle (D := fun p ↦ p = (w, l)) (watches_call (fun _ ↦ trivial) fun _ _ hs ↦ ⟨_, hs, rfl⟩)
      fun _ _ hp ↦ .pure hp
  have hoff (reason : String) : Watches b r v l (StationProg.emergencyOutputOff b.written reason)
      (fun _ p ↦ p = (v, l)) (Allowed b r) := fun s hs ↦
    ⟨(v, l), ⟨Seen.cons (c := MonitorEntry.outputOff reason
      (b.station.emergencyOutputOff reason s.world.journal.world).1) hs.1 rfl trivial, hs.2⟩, rfl⟩
  have hopen : Watches b r v l (openRelays b.written r.guarded)
      (fun _ p ↦ p = (v.opened, l)) (Allowed b r) := by
    refine .handle (D := fun p ↦ p = (v.opened, l)) ?_ fun e' p hp ↦ ?_
    · refine .bind (watches_call (fun _ ↦ trivial) fun _ _ hs ↦ ⟨_, hs, rfl⟩) fun _ p hp ↦ ?_
      subst hp
      exact .andThen (hevent _) fun _ ↦ hevent _
    · subst hp
      exact hevent _
  have hhardware (reason : String) : Watches b r v l (shutDownHardware b.written r.guarded reason)
      (fun _ _ ↦ True) (Allowed b r) := by
    refine .andThen (hevent _) fun _ ↦ .andThen (hoff _) fun _ ↦ ?_
    refine .bind hopen fun _ p hp ↦ ?_
    subst hp
    have hzero : Watches b r v.opened l
        ((StationProg.call b.written (.zeroOutputSetpoint reason)).handle fun _ ↦ pure ⟨⟩)
        (fun _ p ↦ p = (v.opened, l)) (Allowed b r) :=
      .handle (D := fun p ↦ p = (v.opened, l))
        (watches_call (fun _ ↦ trivial) fun _ _ hs ↦ ⟨_, hs, rfl⟩) fun _ _ hp ↦ .pure hp
    refine .andThen hzero fun _ ↦ .andThen (hevent _) fun _ ↦ ?_
    exact (hevent _).mono (fun _ _ _ ↦ trivial) fun _ hs ↦ hs
  have hnote (c : StationCall) (hc : MonitorEntry.ofStation c = none) :
      Watches b r v l (StationProg.note c) (fun _ p ↦ p = (v, l)) (Allowed b r) := fun _ hs ↦
    ⟨(v, l), hs, rfl⟩
  exact .ite (fun _ ↦ .andThen (hnote _ rfl) fun _ ↦ hhardware _)
    fun _ ↦ .andThen (hnote _ rfl) fun _ ↦ hhardware _

theorem exceptClause_fails {g : GuardedRun X} (e : Exc) :
    (∀ entry ∈ (exceptClause g e).entries, entry.level ≠ "WARNING") ∧
      (exceptClause g e).result ≠ "PASS" := by
  have hinfo : "INFO" ≠ "WARNING" := by decide
  have herror : "ERROR" ≠ "WARNING" := by decide
  have hstopped : "STOPPED_BY_OPERATOR" ≠ "PASS" := by decide
  have hfail : "FAIL" ≠ "PASS" := by decide
  have htimeout : "TIMEOUT" ≠ "PASS" := by decide
  unfold exceptClause
  split_ifs
  · exact ⟨List.forall_mem_singleton.mpr hinfo, hstopped⟩
  · exact ⟨List.forall_mem_cons.mpr ⟨herror, List.forall_mem_singleton.mpr herror⟩, hfail⟩
  · exact ⟨List.forall_mem_singleton.mpr herror, hfail⟩
  · exact ⟨List.forall_mem_singleton.mpr herror, htimeout⟩
  · exact ⟨List.forall_mem_singleton.mpr herror, hfail⟩

/-- The relay was never asked to close, or the guard has wound up since. -/
def WoundUp (b : MonitorBench X) (r : MonitorRun)
    (s : StationSession (MonitorWorld X MonitorLocals)) : Prop :=
  ((monitorObserver b.station.ntcVoltageToCelsius r).view (entries s)).asked = false ∨
    ∃ settle older, entries s = settle ++ older ∧ WindsUp settle

/-- The `except` clauses of the guard. -/
theorem watches_handler (h : Tied r (v, l)) (e : Exc) :
    Watches b r v l (do
      recordFailure b.written r.guarded (exceptClause (r.guarded (X := X)) e)
      shutDown b.written r.guarded (exceptClause (r.guarded (X := X)) e) e
      Prog.raise e : MonitorProg X MonitorLocals PUnit) (fun _ _ ↦ False) (Allowed b r) := by
  obtain ⟨hlevels, hresult⟩ := exceptClause_fails (g := r.guarded (X := X)) e
  refine .bind (watches_recordFailure _ hlevels hresult h) fun _ p _ ↦ ?_
  exact .bind (watches_shutDown (v := p.1) (l := p.2) _ e) fun _ p _ ↦ .raise (allowed_of_seen p)

/-- A session raises before the guard has been started, with no relay asked for, or through the
`except` clauses of the guard. -/
theorem post_monitorRun {E : Exc → StationSession (MonitorWorld X MonitorLocals) → Prop}
    (hbefore : ∀ e s, MonitorSeen b r ({}, {}) s → E e s)
    (hguard : ∀ e s, GuardDue b r s → Post (do
      recordFailure b.written r.guarded (exceptClause (r.guarded (X := X)) e)
      shutDown b.written r.guarded (exceptClause (r.guarded (X := X)) e) e
      Prog.raise e : MonitorProg X MonitorLocals PUnit) (fun _ _ ↦ False) E s)
    (rounds : ℕ) (x : X) :
    Post (monitorRun b r rounds) (fun _ _ ↦ False) E (MonitorBench.begin x {}) := by
  have hbegin : MonitorSeen b r ({}, {}) (MonitorBench.begin x {}) := ⟨⟨trivial, rfl⟩, rfl⟩
  have huntouched : Watches b r {} {} (MonitorBench.ask b.runNumber .runNumber)
      (fun _ p ↦ p = ({}, {})) (fun s ↦ MonitorSeen b r ({}, {}) s) :=
    watches_ask (fun _ ↦ trivial) fun _ _ hs ↦ hs
  refine (post_bind _).mpr ((huntouched _ hbegin).mono (fun runNumber s hs ↦ ?_) fun e s hs ↦ ?_)
  · obtain ⟨_, hs, rfl⟩ := hs
    have hnow : Watches b r {} {} b.now (fun _ p ↦ p = ({}, {})) (fun _ ↦ False) := watches_now
    refine (post_bind _).mpr ((hnow s hs).mono (fun start t ht ↦ ?_) fun _ _ h ↦ h.elim)
    obtain ⟨_, ht, rfl⟩ := ht
    refine (post_handle _).mpr
      ((watches_monitorGuarded runNumber start rounds t ht).mono (fun _ _ h ↦ ?_) fun e u hu ↦ ?_)
    · obtain ⟨_, -, h⟩ := h
      exact h
    · exact hguard e u hu
  · exact hbefore e s hs

/-- Every entry of a session is allowed by the ones before it. -/
theorem accepts_monitorRun (b : MonitorBench X) (r : MonitorRun) (rounds : ℕ) (x : X) :
    Post (monitorRun b r rounds) (fun _ _ ↦ False)
      (fun _ t ↦ (monitorObserver b.station.ntcVoltageToCelsius r).Accepts (entries t))
      (MonitorBench.begin x {}) := by
  refine post_monitorRun (fun _ _ hs ↦ hs.1.1) (fun e u hu ↦ ?_) rounds x
  obtain ⟨⟨v, l⟩, hu, htied⟩ := hu
  refine (watches_handler htied e u hu).mono (fun _ _ h ↦ ?_) fun _ _ hw ↦ ?_
  · obtain ⟨_, -, h⟩ := h
    exact h
  · obtain ⟨_, hallowed, -⟩ := hw
    exact hallowed.1.1

theorem woundUp_monitorRun (b : MonitorBench X) (r : MonitorRun) (rounds : ℕ) (x : X) :
    Post (monitorRun b r rounds) (fun _ _ ↦ False) (fun _ t ↦ WoundUp b r t)
      (MonitorBench.begin x {}) := by
  refine post_monitorRun (fun _ _ hs ↦ .inl (congrArg MonitorView.asked hs.1.2))
    (fun e u _ ↦ ?_) rounds x
  refine (settles_handler (fun w ↦ ⟨_, rfl⟩) e u).mono (fun _ _ h ↦ h) fun _ _ hw ↦ ?_
  obtain ⟨settle, hw, hwinds⟩ := hw
  exact .inr ⟨settle, _, hw, hwinds⟩

end Session

/-! ## The row of the run -/

namespace VoltageStats

variable (round : ℚ → ℚ)

/-- The running sum of voltages, given newest first. -/
def runningSum : List ℚ → ℚ
  | [] => 0
  | v :: older => round (runningSum older + v)

theorem ofVoltages_counts (l : List ℚ) :
    (ofVoltages round l).sampleCount = l.length ∧ (ofVoltages round l).sum = runningSum round l ∧
      (ofVoltages round l).startVoltage = l.getLast? ∧
      (ofVoltages round l).endVoltage = l.head? := by
  induction l with
  | nil => exact ⟨rfl, rfl, rfl, rfl⟩
  | cons v older ih =>
    obtain ⟨hcount, hsum, hstart, -⟩ := ih
    refine ⟨?_, ?_, ?_, rfl⟩
    · rw [List.length_cons, ← hcount]
      rfl
    · rw [runningSum, ← hsum]
      rfl
    · change (ofVoltages round older).startVoltage.or (some v) = _
      rw [hstart, List.getLast?_cons]
      cases older.getLast? <;> rfl

/-- The least and the greatest of the voltages, where there are any. -/
theorem ofVoltages_extremes {l : List ℚ} (h : l ≠ []) :
    ∃ lo hi, (ofVoltages round l).minVoltage = some lo ∧
      (ofVoltages round l).maxVoltage = some hi ∧
        lo ∈ l ∧ hi ∈ l ∧ ∀ v ∈ l, lo ≤ v ∧ v ≤ hi := by
  induction l with
  | nil => exact absurd rfl h
  | cons v older ih =>
    by_cases holder : older = []
    · subst holder
      exact ⟨v, v, rfl, rfl, List.mem_cons_self, List.mem_cons_self,
        List.forall_mem_singleton.mpr ⟨le_refl v, le_refl v⟩⟩
    obtain ⟨lo, hi, hmin, hmax, hlo, hhi, hall⟩ := ih holder
    refine ⟨min lo v, max hi v, ?_, ?_, ?_, ?_, List.forall_mem_cons.mpr ⟨?_, fun w hw ↦ ?_⟩⟩
    · change some ((ofVoltages round older).minVoltage.elim v (min · v)) = _
      rw [hmin]
      rfl
    · change some ((ofVoltages round older).maxVoltage.elim v (max · v)) = _
      rw [hmax]
      rfl
    · rcases min_choice lo v with hmin' | hmin' <;> rw [hmin']
      · exact List.mem_cons_of_mem v hlo
      · exact List.mem_cons_self
    · rcases max_choice hi v with hmax' | hmax' <;> rw [hmax']
      · exact List.mem_cons_of_mem v hhi
      · exact List.mem_cons_self
    · exact ⟨min_le_right lo v, le_max_right hi v⟩
    · exact ⟨(min_le_left lo v).trans (hall w hw).1, (hall w hw).2.trans (le_max_left hi v)⟩

/-- Each field is among the columns. -/
theorem mem_asRunSummaryFields (s : VoltageStats) :
    (s.asRunSummaryFields round).get? "sample_count"
        = some (.number (some (s.sampleCount : ℚ))) ∧
      (s.asRunSummaryFields round).get? "start_voltage" = some (.number s.startVoltage) ∧
      (s.asRunSummaryFields round).get? "end_voltage" = some (.number s.endVoltage) ∧
      (s.asRunSummaryFields round).get? "min_voltage" = some (.number s.minVoltage) ∧
      (s.asRunSummaryFields round).get? "average_voltage"
        = some (.number (s.averageVoltage round)) ∧
      (s.asRunSummaryFields round).get? "max_voltage" = some (.number s.maxVoltage) := by
  refine ⟨?_, ?_, ?_, ?_, ?_, ?_⟩ <;> exact Dict.get?_assign (by simp) (by simp)

end VoltageStats

/-- The columns for voltages, given newest first, and the voltage read at the end. -/
structure Summarises (round : ℚ → ℚ) (voltages : List ℚ) (final : Option ℚ)
    (fields : List (String × FieldValue)) : Prop where
  sampleCount : ("sample_count", .number (some (voltages.length : ℚ))) ∈ fields
  startVoltage : ("start_voltage", .number voltages.getLast?) ∈ fields
  endVoltage : ("end_voltage", .number (final.or voltages.head?)) ∈ fields
  average : voltages ≠ [] → ("average_voltage", .number (some
    (round (VoltageStats.runningSum round voltages / voltages.length)))) ∈ fields
  extremes : voltages ≠ [] → ∃ lo hi, ("min_voltage", .number (some lo)) ∈ fields ∧
    ("max_voltage", .number (some hi)) ∈ fields ∧
      lo ∈ voltages ∧ hi ∈ voltages ∧ ∀ v ∈ voltages, lo ≤ v ∧ v ≤ hi

theorem summarises_ofVoltages (round : ℚ → ℚ) (voltages : List ℚ) (final : Option ℚ) :
    Summarises round voltages final (withEndVoltage
      ((VoltageStats.ofVoltages round voltages).asRunSummaryFields round) final).items := by
  obtain ⟨hcount, hsum, hstart, hend⟩ := VoltageStats.ofVoltages_counts round voltages
  obtain ⟨kcount, kstart, kend, kmin, kavg, kmax⟩ :=
    VoltageStats.mem_asRunSummaryFields round (.ofVoltages round voltages)
  rw [hcount] at kcount
  rw [hstart] at kstart
  rw [hend] at kend
  -- the final voltage replaces the last one, and nothing else
  have hmem {k : String} {v : FieldValue} (hk : k ≠ "end_voltage")
      (hget : ((VoltageStats.ofVoltages round voltages).asRunSummaryFields round).get? k
        = some v) :
      (k, v) ∈ (withEndVoltage
        ((VoltageStats.ofVoltages round voltages).asRunSummaryFields round) final).items := by
    rw [Dict.mem_items_iff]
    cases final with
    | none => exact hget
    | some voltage => rw [withEndVoltage, Dict.get?_insert, if_neg hk, hget]
  refine ⟨hmem (by decide) kcount, hmem (by decide) kstart, ?_, fun hne ↦ ?_, fun hne ↦ ?_⟩
  · rw [Dict.mem_items_iff]
    cases final with
    | none => exact kend
    | some voltage => exact (Dict.get?_insert _ _ _ _).trans (if_pos rfl)
  · have havg : (VoltageStats.ofVoltages round voltages).averageVoltage round =
        some (round (VoltageStats.runningSum round voltages / voltages.length)) := by
      rw [VoltageStats.averageVoltage, hcount, if_neg (List.length_pos_iff.mpr hne).ne', hsum]
    exact hmem (by decide) (havg ▸ kavg)
  · obtain ⟨lo, hi, hmin, hmax, hlo, hhi, hall⟩ := VoltageStats.ofVoltages_extremes round hne
    exact ⟨lo, hi, hmem (by decide) (hmin ▸ kmin), hmem (by decide) (hmax ▸ kmax), hlo, hhi, hall⟩

/-- The voltages of the rows that were asked for, newest first. -/
def askedVoltages (l : List MonitorEntry) : List ℚ :=
  l.filterMap fun c ↦
    match c with
    | .recordMeasurement row _ => some row.voltageV
    | _ => none

/-- The voltages of the rows that were written, newest first. -/
def rowVoltages (l : List MonitorEntry) : List ℚ :=
  l.filterMap fun c ↦
    match c with
    | .recordMeasurement row none => some row.voltageV
    | _ => none

/-- A row that could not be written. -/
def MonitorEntry.RefusesRow (voltageV : ℚ) : MonitorEntry → Prop
  | .recordMeasurement row (some _) => row.voltageV = voltageV
  | _ => False

/-- Rows that were all written. -/
def AllWritten (l : List MonitorEntry) : Prop :=
  (∀ voltageV, ∀ c ∈ l, ¬c.RefusesRow voltageV) ∧ askedVoltages l = rowVoltages l

/-- Every row that was asked for was written, but for the last one where its write raised. -/
def RowsWritten (l : List MonitorEntry) : Prop :=
  AllWritten l ∨ ∃ voltageV, (∃ c ∈ l, c.RefusesRow voltageV) ∧
    askedVoltages l = voltageV :: rowVoltages l

/-- The voltage at the end, if it was read. -/
def finalReading : List MonitorEntry → Option ℚ
  | [] => none
  | .measured .finalVoltage result :: _ => result.toOption
  | _ :: older => finalReading older

section Summary

variable {toCelsius : ℚ → Option ℚ} {r : MonitorRun}

theorem view_rows (toCelsius : ℚ → Option ℚ) (r : MonitorRun) (l : List MonitorEntry) :
    ((monitorObserver toCelsius r).view l).recorded = askedVoltages l ∧
      ((monitorObserver toCelsius r).view l).finalVoltage = finalReading l := by
  induction l with
  | nil => exact ⟨rfl, rfl⟩
  | cons c older ih =>
    rw [Observer.view]
    set v := (monitorObserver toCelsius r).view older
    obtain ⟨hrows, hfinal⟩ := ih
    change (v.step toCelsius c).recorded = _ ∧ (v.step toCelsius c).finalVoltage = _
    cases c with
    | station op raised =>
      have hlogged (entry : EventEntry) : (v.logged entry raised).recorded = v.recorded ∧
          (v.logged entry raised).finalVoltage = v.finalVoltage := by
        unfold MonitorView.logged
        split
        · cases raised <;> exact ⟨rfl, rfl⟩
        · exact ⟨rfl, rfl⟩
      cases op with
      | logEvent entry => exact ⟨(hlogged entry).1.trans hrows, (hlogged entry).2.trans hfinal⟩
      | _ => exact ⟨hrows, hfinal⟩
    | measured reading result =>
      cases reading with
      | battery => cases result <;> exact ⟨hrows, hfinal⟩
      | ntc => exact ⟨hrows, hfinal⟩
      | finalVoltage => exact ⟨hrows, rfl⟩
    | readChannel channel result => cases result <;> exact ⟨hrows, hfinal⟩
    | recordMeasurement row raised => exact ⟨congrArg (row.voltageV :: ·) hrows, hfinal⟩
    | outputOff | runNumber | recordCompleted | renderFrame | sleep | clock => exact ⟨hrows, hfinal⟩

/-- Once the row of the run was finished, it stays so. -/
theorem finished_step {v : MonitorView} (c : MonitorEntry) (h : v.finished = true) :
    (v.step toCelsius c).finished = true := by
  cases c with
  | station op raised =>
    cases op with
    | logEvent entry =>
      change (v.logged entry raised).finished = true
      unfold MonitorView.logged
      split
      · cases raised <;> exact h
      · exact h
    | finishRunSummary => rfl
    | _ => exact h
  | measured reading result =>
    cases reading with
    | battery => cases result <;> exact h
    | _ => exact h
  | readChannel channel result => cases result <;> exact h
  | _ => exact h

/-- After the row of the run no other row is asked for. -/
theorem askedVoltages_append_of_finished {newer older : List MonitorEntry}
    (haccepts : (monitorObserver toCelsius r).Accepts (newer ++ older))
    (hfinished : ((monitorObserver toCelsius r).view older).finished = true) :
    askedVoltages (newer ++ older) = askedVoltages older := by
  induction newer with
  | nil => rfl
  | cons c newer ih =>
    obtain ⟨hallows, haccepts⟩ := haccepts
    have hview : ((monitorObserver toCelsius r).view (newer ++ older)).finished = true :=
      Observer.view_append_of_keeps (P := fun v : MonitorView ↦ v.finished = true) _ hfinished
        fun d _ _ ↦ finished_step d
    cases c with
    | recordMeasurement row raised => exact absurd (hview.symm.trans hallows.2.2.2.1) nofun
    | _ => exact ih haccepts

/-- What a law says of each entry, it says of an entry in the middle. -/
theorem allows_of_accepts {newer older : List MonitorEntry} {c : MonitorEntry}
    (h : (monitorObserver toCelsius r).Accepts (newer ++ c :: older)) :
    ((monitorObserver toCelsius r).view older).allows r c :=
  (AtEach.of_append h).1

end Summary

/-- An entry about no row adds none. -/
theorem rowsWritten_cons {c : MonitorEntry} {older : List MonitorEntry}
    (hc : ∀ voltageV, ¬c.RefusesRow voltageV) (hasked : askedVoltages (c :: older) =
      askedVoltages older) (hrows : rowVoltages (c :: older) = rowVoltages older)
    {refused refused' : Bool} (hrefused : refused' = refused)
    (h : RowsWritten older ∧ (refused = false → AllWritten older)) :
    RowsWritten (c :: older) ∧ (refused' = false → AllWritten (c :: older)) := by
  have hall (h : AllWritten older) : AllWritten (c :: older) := by
    refine ⟨fun voltageV ↦ List.forall_mem_cons.mpr ⟨hc voltageV, h.1 voltageV⟩, ?_⟩
    rw [hasked, hrows, h.2]
  refine ⟨?_, fun hfalse ↦ hall (h.2 (hrefused ▸ hfalse))⟩
  rcases h.1 with hwritten | ⟨voltageV, ⟨d, hd, hrefuses⟩, hlast⟩
  · exact .inl (hall hwritten)
  · refine .inr ⟨voltageV, ⟨d, List.mem_cons_of_mem c hd, hrefuses⟩, ?_⟩
    rw [hasked, hrows, hlast]

/-- **What was written.** By induction on the entries: after a row that could not be written no
other is asked for. -/
theorem rowsWritten_of_accepts {l : List MonitorEntry}
    (h : (monitorObserver toCelsius r).Accepts l) :
    RowsWritten l ∧ (((monitorObserver toCelsius r).view l).refused = false → AllWritten l) := by
  induction l with
  | nil =>
    have hnil : AllWritten [] := ⟨fun _ ↦ List.forall_mem_nil _, rfl⟩
    exact ⟨.inl hnil, fun _ ↦ hnil⟩
  | cons c older ih =>
    obtain ⟨hallows, haccepts⟩ := h
    have hsofar := ih haccepts
    rw [Observer.view]
    set v := (monitorObserver toCelsius r).view older
    change RowsWritten (c :: older) ∧ ((v.step toCelsius c).refused = false → AllWritten _)
    cases c with
    | station op raised =>
      have hlogged (entry : EventEntry) : (v.logged entry raised).refused = v.refused := by
        unfold MonitorView.logged
        split
        · cases raised <;> rfl
        · rfl
      refine rowsWritten_cons (fun _ ↦ id) rfl rfl ?_ hsofar
      cases op with
      | logEvent entry => exact hlogged entry
      | _ => rfl
    | measured reading result =>
      refine rowsWritten_cons (fun _ ↦ id) rfl rfl ?_ hsofar
      cases reading with
      | battery => cases result <;> rfl
      | ntc | finalVoltage => rfl
    | readChannel channel result =>
      refine rowsWritten_cons (fun _ ↦ id) rfl rfl ?_ hsofar
      cases result <;> rfl
    | recordMeasurement row raised =>
      obtain ⟨hnone, hsame⟩ := hsofar.2 hallows.2.2.2.2.2
      have hasked : askedVoltages (.recordMeasurement row raised :: older) =
        row.voltageV :: askedVoltages older := rfl
      cases raised with
      | none =>
        have hall : AllWritten (.recordMeasurement row none :: older) :=
          ⟨fun voltageV ↦ List.forall_mem_cons.mpr ⟨id, hnone voltageV⟩,
            congrArg (row.voltageV :: ·) hsame⟩
        exact ⟨.inl hall, fun _ ↦ hall⟩
      | some e =>
        -- no row can follow a refused one, so only the last is missing
        refine ⟨.inr ⟨row.voltageV, ⟨_, List.mem_cons_self, rfl⟩, ?_⟩, fun h ↦ by cases h⟩
        rw [hasked, hsame]
        rfl
    | outputOff | runNumber | recordCompleted | renderFrame | sleep | clock =>
      exact rowsWritten_cons (fun _ ↦ id) rfl rfl rfl hsofar

/-- **The row of the run.** Whenever a session has the row of its run finished, the columns are
those of the voltages in all rows that the session asked for: the count, the first, the least and
the greatest, and the average in the arithmetic of the station; the last is the one the guard read
at the end, if it could. Each of these rows was written, but for the last one where its write
raised. -/
theorem monitor_summary {X : Type} (b : MonitorBench X) (r : MonitorRun) (rounds : ℕ) (x : X) :
    Post (monitorRun b r rounds) (fun _ _ ↦ False)
      (fun _ t ↦ RowsWritten (entries t) ∧
        ∀ newer older stopReason result fields raised, entries t =
          newer ++ .station (.finishRunSummary stopReason result fields) raised :: older →
            Summarises r.round (askedVoltages (entries t)) (finalReading older) fields)
      (MonitorBench.begin x {}) := by
  refine (accepts_monitorRun b r rounds x).mono (fun _ _ h ↦ h) fun _ t haccepts ↦ ?_
  refine ⟨(rowsWritten_of_accepts haccepts).1, ?_⟩
  intro newer older stopReason result fields raised hentries
  rw [hentries] at haccepts ⊢
  rw [askedVoltages_append_of_finished haccepts rfl]
  obtain ⟨hfields, -⟩ := allows_of_accepts haccepts
  obtain ⟨hrows, hfinal⟩ := view_rows b.station.ntcVoltageToCelsius r older
  rw [hfields, hrows, hfinal]
  exact summarises_ofVoltages _ _ _

end Nipxi
