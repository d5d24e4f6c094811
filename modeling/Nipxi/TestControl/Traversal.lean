import Nipxi.Effect.Ending
import Nipxi.TestControl.ChargeSequence

/-!
# What holds along a sequence

A preorder between sessions that every call of a station respects is respected by the sequences
built from them. The calls that command the SMU or switch the sense path are left to the user of
these rules, who may know something else of them.
-/

open Collections Effect

namespace Nipxi

/-- An operation that neither commands the SMU nor switches the sense path. -/
def Operation.IsPlain : Operation → Prop
  | .setMode _ _ _ | .senseConnect _ | .senseDisconnect _ => False
  | _ => True

variable {X : Type}

/-- A plain operation a phase may ask for: none about the storages of a cycle's phases, and no row
that records a fault of the station. -/
def Operation.IsInner : Operation → Prop
  | .makePhaseStorage _ | .closePhaseStorage _ => False
  | .finishRunSummary stopReason _ _ => stopReason ≠ StopReason.stationFault.text
  | op => op.IsPlain

theorem Operation.IsInner.isPlain {op : Operation} (h : op.IsInner) : op.IsPlain := by
  cases op with
  | makePhaseStorage | closePhaseStorage => exact h.elim
  | finishRunSummary => trivial
  | _ => exact h

/-- A preorder that the calls of a phase respect, and in which they end. -/
structure Dwells (st : Station X) (R : StationSession X → StationSession X → Prop) : Prop
    extends IsPreorder (StationSession X) R where
  call : ∀ op : Operation, op.IsInner → Ends R (StationProg.call st op)
  read : ∀ reading, reading ≠ .finalVoltage → Ends R (StationProg.read st reading)
  emergencyOutputOff : ∀ reason, Ends R (StationProg.emergencyOutputOff st reason)
  note : ∀ c : StationCall, c.isShutdown = true → Ends R (StationProg.note c : StationProg X _)

/-- Such a preorder that all plain calls respect. -/
structure Traverses (st : Station X) (R : StationSession X → StationSession X → Prop) : Prop
    extends IsPreorder (StationSession X) R where
  call : ∀ op : Operation, op.IsPlain → Ends R (StationProg.call st op)
  read : ∀ reading, reading ≠ .finalVoltage → Ends R (StationProg.read st reading)
  emergencyOutputOff : ∀ reason, Ends R (StationProg.emergencyOutputOff st reason)
  note : ∀ c : StationCall, c.isShutdown = true → Ends R (StationProg.note c : StationProg X _)

theorem Traverses.dwells {st : Station X} {R : StationSession X → StationSession X → Prop}
    (hR : Traverses st R) : Dwells st R where
  toIsPreorder := hR.toIsPreorder
  call op hop := hR.call op hop.isPlain
  read := hR.read
  emergencyOutputOff := hR.emergencyOutputOff
  note := hR.note

theorem ends_call {st : Station X} {R : StationSession X → StationSession X → Prop} {op : Operation}
    (h : ∀ s : StationSession X, R s
      (s.after (.call op (st.perform op s.world).1) (st.perform op s.world).2)) :
    Ends R (StationProg.call st op) := by
  intro s
  refine ⟨_, ?_, h s⟩
  unfold StationProg.call
  cases (st.perform op s.world).1 <;> rfl

theorem ends_read {st : Station X} {R : StationSession X → StationSession X → Prop}
    {reading : Reading} (h : ∀ s : StationSession X, R s
      (s.after (.read reading (st.read reading s.world).1) (st.read reading s.world).2)) :
    Ends R (StationProg.read st reading) := by
  intro s
  refine ⟨_, ?_, h s⟩
  unfold StationProg.read
  cases (st.read reading s.world).1 <;> rfl

/-- The fields for the row of a run are had, or not, and the trace has an entry of it. -/
theorem ends_extraRunSummaryFields {R : StationSession X → StationSession X → Prop}
    {g : GuardedRun X} (h : ∀ (s : StationSession X) raised, R s
      (s.after (.extraFields raised) (g.extraFields s.world).2)) :
    Ends R (extraRunSummaryFields g) := by
  intro s
  have hs := h s
  unfold extraRunSummaryFields
  rcases hfields : g.extraFields s.world with ⟨e | fields, world⟩
  · rw [hfields] at hs
    exact ⟨_, rfl, hs (some e)⟩
  · rw [hfields] at hs
    exact ⟨_, rfl, hs none⟩

namespace Dwells

variable {st : Station X} {R : StationSession X → StationSession X → Prop}

section Guard

variable {g : GuardedRun X}

theorem logEvent (hR : Dwells st R) (entry : EventEntry) :
    Ends R (StationProg.logEvent st entry) := hR.call _ trivial

theorem swallowed (hR : Dwells st R) {op : Operation} (hop : op.IsInner) :
    Ends R ((StationProg.call st op).handle fun _ ↦ pure ⟨⟩) := by
  have := hR.toIsPreorder
  exact .handle (hR.call op hop) fun _ ↦ .pure _

theorem onEvent (hR : Dwells st R) (message : String) : Ends R (Nipxi.onEvent st g message) :=
  hR.swallowed trivial

theorem logEvents (hR : Dwells st R) (entries : List EventEntry) :
    Ends R (Nipxi.logEvents st entries) := by
  have := hR.toIsPreorder
  induction entries with
  | nil => exact .pure _
  | cons entry rest ih => exact .bind (hR.logEvent entry) fun _ ↦ ih

theorem safeFinalVoltageReading (hR : Dwells st R)
    (hfinal : Ends R (StationProg.read st .finalVoltage)) :
    Ends R (Nipxi.safeFinalVoltageReading st g) := by
  have := hR.toIsPreorder
  refine .ite (.bind (.attempt hfinal) fun ended ↦ ?_) (.pure _)
  cases ended with
  | ok voltage => exact .pure _
  | error e => exact .pure _

theorem text_ne_stationFault : ∀ reason : StopReason, reason ≠ .stationFault →
    reason.text ≠ StopReason.stationFault.text := by
  intro reason hne
  cases reason with
  | stationFault => exact absurd rfl hne
  | _ => decide

theorem stopReason_exceptClause (g : GuardedRun X) (e : Exc) :
    (exceptClause g e).stopReason.text ≠ StopReason.stationFault.text := by
  refine text_ne_stationFault _ fun h ↦ ?_
  unfold exceptClause at h
  split_ifs at h

theorem recordFailure (hR : Dwells st R) (hfields : Ends R (extraRunSummaryFields g))
    (hfinal : Ends R (StationProg.read st .finalVoltage)) (e : Exc) :
    Ends R (Nipxi.recordFailure st g (exceptClause g e)) := by
  have := hR.toIsPreorder
  refine .bind (hR.onEvent _) fun _ ↦ .bind (hR.logEvents _) fun _ ↦ ?_
  refine .bind (hR.call _ trivial) fun _ ↦ .bind hfields fun _ ↦ ?_
  exact .bind (hR.safeFinalVoltageReading hfinal) fun _ ↦
    hR.call _ (stopReason_exceptClause g e)

theorem openRelays (hR : Dwells st R) : Ends R (Nipxi.openRelays st g) := by
  have := hR.toIsPreorder
  refine .handle ?_ fun _ ↦ hR.onEvent _
  exact .bind (hR.call _ trivial) fun _ ↦ .bind (hR.onEvent _) fun _ ↦ hR.onEvent _

theorem shutDownHardware (hR : Dwells st R) (reason : String) :
    Ends R (Nipxi.shutDownHardware st g reason) := by
  have := hR.toIsPreorder
  refine .bind (hR.onEvent _) fun _ ↦ .bind (hR.emergencyOutputOff _) fun _ ↦ ?_
  refine .bind hR.openRelays fun _ ↦ .bind (hR.swallowed trivial) fun _ ↦ ?_
  exact .bind (hR.onEvent _) fun _ ↦ hR.onEvent _

theorem shutDown (hR : Dwells st R) (clause : ExceptClause) (e : Exc) :
    Ends R (Nipxi.shutDown st g clause e) := by
  have := hR.toIsPreorder
  refine .ite ?_ ?_
  · exact .bind (hR.note _ rfl) fun _ ↦ hR.shutDownHardware _
  · exact .bind (hR.note _ rfl) fun _ ↦ hR.shutDownHardware _

theorem runGuarded (hR : Dwells st R) (hfields : Ends R (extraRunSummaryFields g))
    (hfinal : Ends R (StationProg.read st .finalVoltage)) {α : Type} {fn : StationProg X α}
    (hfn : Ends R fn) : Ends R (Nipxi.runGuarded st g fn) := by
  have := hR.toIsPreorder
  exact .handle hfn fun _ ↦ .bind (hR.recordFailure hfields hfinal _) fun _ ↦
    .bind (hR.shutDown _ _) fun _ ↦ .raise _

theorem complete (hR : Dwells st R) (hfields : Ends R (extraRunSummaryFields g))
    (message : String) : Ends R (Nipxi.complete st g message) := by
  have := hR.toIsPreorder
  refine .bind hfields fun _ ↦ .bind (hR.call _ trivial) fun _ ↦ ?_
  exact .bind (hR.call _ (text_ne_stationFault .completed nofun)) fun _ ↦ hR.logEvent _

end Guard

section Phase

variable {r : SequenceRun X} {ph : Phase X}

theorem checkBatteryPolarity (hR : Dwells st R) (voltage : ℚ) :
    Ends R (Nipxi.checkBatteryPolarity st r ph voltage) := by
  have := hR.toIsPreorder
  exact .ite (.bind (hR.logEvent _) fun _ ↦ .raise _) (.pure _)

theorem sampleUntilEnd (hR : Dwells st R) : Ends R (Nipxi.sampleUntilEnd st r ph) := by
  have := hR.toIsPreorder
  refine .bind (.attempt (hR.call _ trivial)) fun ended ↦ ?_
  refine .bind (hR.emergencyOutputOff _) fun verified ↦ .bind (hR.logEvent _) fun _ ↦ ?_
  cases ended with
  | ok _ => exact .pure _
  | error e => exact .raise _

theorem escalate (hR : Dwells st R) : Ends R (Nipxi.escalate st r ph) := by
  have := hR.toIsPreorder
  refine .bind (hR.swallowed trivial) fun _ ↦ .bind .get fun _ ↦ ?_
  exact .bind (hR.call _ trivial) fun _ ↦ .bind (hR.call _ trivial) fun _ ↦ .raise _

theorem isolate (hR : Dwells st R) : Ends R (Nipxi.isolate st r ph) := by
  have := hR.toIsPreorder
  refine .bind (hR.call _ trivial) fun _ ↦ .bind (hR.logEvent _) fun _ ↦ ?_
  exact .bind (hR.logEvent _) fun _ ↦ hR.swallowed trivial

/-- What a phase does once the SMU is configured. -/
theorem afterSetMode (hR : Dwells st R) : Ends R (do
    StationProg.call st .outputEnable
    logInfo st ph (eventMessage "SMU_OUTPUT_ENABLED"
      [("device", r.smuModel), ("resource", r.smuResource), ("channel", toString r.channel)])
    let verified ← Nipxi.sampleUntilEnd st r ph
    if verified then Nipxi.isolate st r ph else Nipxi.escalate st r ph) := by
  have := hR.toIsPreorder
  refine .bind (hR.call _ trivial) fun _ ↦ .bind (hR.logEvent _) fun _ ↦ ?_
  exact .bind hR.sampleUntilEnd fun _ ↦ .ite hR.isolate hR.escalate

theorem energize (hR : Dwells st R)
    (hmode : Ends R (StationProg.call st (.setMode ph.name ph.currentA ph.voltageLimitV))) :
    Ends R (Nipxi.energize st r ph) := by
  have := hR.toIsPreorder
  refine .bind (hR.read _ nofun) fun _ ↦ .bind (hR.checkBatteryPolarity _) fun _ ↦ ?_
  exact .bind hmode fun _ ↦ hR.afterSetMode

theorem connectSense (hR : Dwells st R)
    (hconnect : ∀ route ∈ r.sense, Ends R (StationProg.call st (.senseConnect route.channel))) :
    Ends R (Nipxi.connectSense st r ph) := by
  have := hR.toIsPreorder
  unfold Nipxi.connectSense
  split
  · exact .pure _
  · rename_i route hroute
    exact .bind (hconnect route hroute) fun _ ↦ hR.logEvent _

theorem disconnectSense (hR : Dwells st R)
    (hdisconnect : ∀ route ∈ r.sense,
      Ends R (StationProg.call st (.senseDisconnect route.channel))) :
    Ends R (Nipxi.disconnectSense st r ph) := by
  have := hR.toIsPreorder
  unfold Nipxi.disconnectSense
  split
  · exact .pure _
  · rename_i route hroute
    exact .handle (.bind (hdisconnect route hroute) fun _ ↦ hR.logEvent _) fun _ ↦ .pure _

/-- What a phase does before it connects the sense path. -/
theorem beforeSense (hR : Dwells st R) {x : StationProg X PUnit} (hx : Ends R x) : Ends R (do
    StationProg.call st .checkCancellation
    StationProg.call st (.relayClose r.relayAddress)
    logInfo st ph s!"Relay {r.relayAddress} activated -- {ph.started}"
    logInfo st ph (eventMessage "RELAY_CLOSE"
      [("relay_matrix_name", r.relayMatrixName), ("relay_address", toString r.relayAddress)])
    StationProg.call st (.recordExecutionState r.channel r.relayAddress "ACTIVE")
    x) := by
  have := hR.toIsPreorder
  refine .bind (hR.call _ trivial) fun _ ↦ .bind (hR.call _ trivial) fun _ ↦ ?_
  refine .bind (hR.logEvent _) fun _ ↦ .bind (hR.logEvent _) fun _ ↦ ?_
  exact .bind (hR.call _ trivial) fun _ ↦ hx

theorem phaseBody (hR : Dwells st R)
    (hmode : Ends R (StationProg.call st (.setMode ph.name ph.currentA ph.voltageLimitV)))
    (hconnect : ∀ route ∈ r.sense, Ends R (StationProg.call st (.senseConnect route.channel)))
    (hdisconnect : ∀ route ∈ r.sense,
      Ends R (StationProg.call st (.senseDisconnect route.channel))) :
    Ends R (Nipxi.phaseBody st r ph) := by
  have := hR.toIsPreorder
  exact hR.beforeSense (.bind (hR.connectSense hconnect) fun _ ↦
    .ensuring (hR.energize hmode) (hR.disconnectSense hdisconnect))

/-- **A phase.** -/
theorem runPhase (hR : Dwells st R) (hfields : Ends R (extraRunSummaryFields ph.guarded))
    (hfinal : Ends R (StationProg.read st .finalVoltage))
    (hmode : Ends R (StationProg.call st (.setMode ph.name ph.currentA ph.voltageLimitV)))
    (hconnect : ∀ route ∈ r.sense, Ends R (StationProg.call st (.senseConnect route.channel)))
    (hdisconnect : ∀ route ∈ r.sense,
      Ends R (StationProg.call st (.senseDisconnect route.channel))) :
    Ends R (Nipxi.runPhase st r ph) := by
  have := hR.toIsPreorder
  exact .bind (hR.call _ trivial) fun _ ↦
    .bind (hR.runGuarded hfields hfinal (hR.phaseBody hmode hconnect hdisconnect)) fun _ ↦
      hR.complete hfields _

end Phase

end Dwells

/-- Such a preorder that all other calls respect as well. -/
structure Spans (st : Station X) (r : SequenceRun X)
    (R : StationSession X → StationSession X → Prop) : Prop extends Traverses st R where
  finalVoltage : Ends R (StationProg.read st .finalVoltage)
  charge : Ends R (StationProg.call st (.setMode "charge" r.chargeCurrentA r.chargeVoltageV))
  discharge : Ends R (StationProg.call st (.setMode "discharge" r.dischargeCurrentA r.voltageMaxV))
  chargeFields : Ends R (extraRunSummaryFields (chargePhase r).guarded)
  dischargeFields : Ends R (extraRunSummaryFields (dischargePhase r).guarded)
  cycleFields : Ends R (extraRunSummaryFields (cycleGuarded r))
  senseConnect : ∀ route ∈ r.sense, Ends R (StationProg.call st (.senseConnect route.channel))
  senseDisconnect : ∀ route ∈ r.sense, Ends R (StationProg.call st (.senseDisconnect route.channel))

namespace Spans

variable {st : Station X} {r : SequenceRun X} {R : StationSession X → StationSession X → Prop}

theorem runPhase (hR : Spans st r R) {ph : Phase X}
    (hfields : Ends R (extraRunSummaryFields ph.guarded))
    (hmode : Ends R (StationProg.call st (.setMode ph.name ph.currentA ph.voltageLimitV))) :
    Ends R (Nipxi.runPhase st r ph) :=
  hR.dwells.runPhase hfields hR.finalVoltage hmode hR.senseConnect hR.senseDisconnect

theorem cyclePhase (hR : Spans st r R) {ph : Phase X}
    (hfields : Ends R (extraRunSummaryFields ph.guarded))
    (hmode : Ends R (StationProg.call st (.setMode ph.name ph.currentA ph.voltageLimitV))) :
    Ends R (Nipxi.cyclePhase st r ph) := by
  have := hR.toIsPreorder
  have hreclassify : Ends R (reclassifyPhaseAsStationFault st r) :=
    .bind (hR.call _ trivial) fun _ ↦ hR.call _ trivial
  refine .bind (hR.call _ trivial) fun _ ↦ ?_
  refine .ensuring (.handle (hR.runPhase hfields hmode) fun e ↦ ?_) (hR.call _ trivial)
  exact .ite (.bind hreclassify fun _ ↦ .raise _) (.raise _)

theorem runRepetition (hR : Spans st r R) (repetition : ℕ) :
    Ends R (Nipxi.runRepetition st r repetition) := by
  have := hR.toIsPreorder
  refine .bind (hR.call _ trivial) fun _ ↦ .bind (hR.dwells.logEvent _) fun _ ↦ ?_
  refine .bind (hR.cyclePhase hR.chargeFields hR.charge) fun _ ↦ ?_
  refine .bind (hR.call _ trivial) fun _ ↦ .bind (hR.dwells.logEvent _) fun _ ↦ ?_
  refine .bind (hR.call _ trivial) fun _ ↦ .bind (hR.dwells.logEvent _) fun _ ↦ ?_
  exact .bind (hR.cyclePhase hR.dischargeFields hR.discharge) fun _ ↦ hR.dwells.logEvent _

/-- By induction on the repetitions left. -/
theorem runRepetitions (hR : Spans st r R) (repetitions : List ℕ) :
    Ends R (Nipxi.runRepetitions st r repetitions) := by
  have := hR.toIsPreorder
  induction repetitions with
  | nil => exact .pure _
  | cons repetition rest ih => exact .bind (hR.runRepetition repetition) fun _ ↦ ih

/-- **Any sequence.** -/
theorem run (hR : Spans st r R) (cls : SequenceClass) : Ends R (cls.run st r) := by
  have := hR.toIsPreorder
  cases cls with
  | charge => exact hR.runPhase hR.chargeFields hR.charge
  | discharge => exact hR.runPhase hR.dischargeFields hR.discharge
  | cycle =>
    exact .bind (hR.dwells.runGuarded hR.cycleFields hR.finalVoltage (hR.runRepetitions _)) fun _ ↦
      hR.dwells.complete hR.cycleFields _

end Spans

theorem spans_true (st : Station X) (r : SequenceRun X) : Spans st r fun _ _ ↦ True where
  refl _ := trivial
  trans _ _ _ _ _ := trivial
  call _ _ := ends_call fun _ ↦ trivial
  read _ _ := ends_read fun _ ↦ trivial
  emergencyOutputOff _ _ := ⟨_, rfl, trivial⟩
  note _ _ _ := ⟨_, rfl, trivial⟩
  finalVoltage := ends_read fun _ ↦ trivial
  charge := ends_call fun _ ↦ trivial
  discharge := ends_call fun _ ↦ trivial
  chargeFields := ends_extraRunSummaryFields fun _ _ ↦ trivial
  dischargeFields := ends_extraRunSummaryFields fun _ _ ↦ trivial
  cycleFields := ends_extraRunSummaryFields fun _ _ ↦ trivial
  senseConnect _ _ := ends_call fun _ ↦ trivial
  senseDisconnect _ _ := ends_call fun _ ↦ trivial

end Nipxi
