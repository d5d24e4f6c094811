import Nipxi.TestControl.GroupPositions
import Nipxi.TestControl.SensePath

/-!
# The rows of a cycle and of its phases

A phase of `CycleSequence` has a storage, and so a `run_summary` row, of its own. Two classifiers
decide which rows say `STATION_FAULT` when a phase raises: the `except` clause of the cycle, for the
row of the phase, and `_classify_position_exception` of its caller, for the row of the cycle. The
first knows a tuple of classes; the second takes what it does not know for a fault of the station.
So the rows agree exactly on the classes one of the tuples names, and on a cancellation:
`rowsAgree_iff`.
-/

open Collections Effect

namespace Nipxi

/-! ## The rows -/

/-- The two rows of a cycle, and the storage in use. -/
structure CycleRows where
  /-- The storage of a phase is open. -/
  inPhase : Bool
  /-- `stop_reason` and `result` of the last phase. -/
  phase : Option (String × String)
  /-- `stop_reason` and `result` of the cycle. -/
  cycle : Option (String × String)

/-- A row of a fault of the station. -/
def IsFaultRow (row : Option (String × String)) : Prop :=
  row = some (StopReason.stationFault.text, "STATION_FAULT")

namespace CycleRows

/-- The rows after a call. -/
def after (rows : CycleRows) : StationCall → CycleRows
  | .call (.makePhaseStorage _) none => { rows with inPhase := true, phase := none }
  | .call (.closePhaseStorage _) _ => { rows with inPhase := false }
  | .call (.finishRunSummary stopReason result _) none =>
    if rows.inPhase then { rows with phase := some (stopReason, result) }
    else { rows with cycle := some (stopReason, result) }
  | _ => rows

end CycleRows

/-- The rows a trace leaves behind. -/
def cycleRows (trace : List StationCall) : CycleRows :=
  trace.foldr (fun c rows ↦ rows.after c) ⟨false, none, none⟩

instance : DecidablePred IsFaultRow := fun _ ↦ inferInstanceAs (Decidable (_ = _))

/-- Both rows say `STATION_FAULT`, or neither does. -/
def RowsAgree (trace : List StationCall) : Prop :=
  IsFaultRow (cycleRows trace).phase ↔ IsFaultRow (cycleRows trace).cycle

instance : DecidablePred RowsAgree := fun _ ↦ inferInstanceAs (Decidable (_ ↔ _))

/-! ## The run in which a phase raises -/

/-- A call of the storage. -/
def Operation.IsStorage : Operation → Prop
  | .beginNewRunId | .startRunSummary .. | .logEvent _ | .traceEvent _
  | .recordExecutionState .. | .recordMeasurement _ | .finishRunSummary .. | .printPostRunSummary
  | .runNumber | .makePhaseStorage _ | .closePhaseStorage _ => True
  | _ => False

/-- No call of the storage raises. -/
def StorageSucceeds {X : Type} (st : Station X) : Prop :=
  ∀ (op : Operation) (x : X), op.IsStorage → (st.perform op x).1 = none

section Run

variable {X : Type} (st : Station X) (r : SequenceRun X)

/-- A repetition up to its charge. -/
def beforeCharge (repetition : ℕ) : StationProg X PUnit := do
  StationProg.call st .checkCancellation
  logRepetition st r repetition "charge phase starting"
  StationProg.call st (.makePhaseStorage ((chargePhase r).name ++ "_battery"))

/-- A repetition up to its discharge. -/
def beforeDischarge (repetition : ℕ) : StationProg X PUnit := do
  StationProg.call st .checkCancellation
  logRepetition st r repetition "charge phase starting"
  cyclePhase st r (chargePhase r)
  StationProg.call st .checkCancellation
  logRepetition st r repetition s!"resting {formatFixed 0 r.cycleRestS}s before discharge"
  StationProg.call st .rest
  logRepetition st r repetition "discharge phase starting"
  StationProg.call st (.makePhaseStorage ((dischargePhase r).name ++ "_battery"))

/-- In the repetitions that begin in the first session, a phase raises `e`, in the second. -/
inductive PhaseRaises (e : Exc) : List ℕ → StationSession X → StationSession X → Prop
  | charge {repetition : ℕ} {rest : List ℕ} {s u t : StationSession X}
      (hbefore : beforeCharge st r repetition s = .ok ⟨⟩ u)
      (hraised : runPhase st r (chargePhase r) u = .error e t) :
      PhaseRaises e (repetition :: rest) s t
  | discharge {repetition : ℕ} {rest : List ℕ} {s u t : StationSession X}
      (hbefore : beforeDischarge st r repetition s = .ok ⟨⟩ u)
      (hraised : runPhase st r (dischargePhase r) u = .error e t) :
      PhaseRaises e (repetition :: rest) s t
  | later {repetition : ℕ} {rest : List ℕ} {s u t : StationSession X}
      (hdone : runRepetition st r repetition s = .ok ⟨⟩ u)
      (hlater : PhaseRaises e rest u t) : PhaseRaises e (repetition :: rest) s t

/-- A cycle, and what its caller makes of its end. -/
def classifiedCycle (p : PositionRun) : StationProg X PositionResult := do
  let ended ← sequenceEnd (SequenceClass.run st r .cycle)
  classifyEnd st p ended

/-- What the cycle does about the exception of a phase. -/
def settlePhase (ph : Phase X) (e : Exc) : StationProg X PUnit :=
  (if e.isInstance STATION_HARDWARE_EXCEPTIONS then do
    reclassifyPhaseAsStationFault st r
    Prog.raise e
  else Prog.raise e).ensuring (StationProg.call st (.closePhaseStorage (ph.name ++ "_battery")))

end Run

/-! ## Calls that leave the rows -/

section Rows

variable {X : Type} {st : Station X} {r : SequenceRun X}

/-- A call that is about no storage of a phase, and records no fault of the station. -/
def StationCall.IsOrdinary : StationCall → Prop
  | .call (.makePhaseStorage _) _ | .call (.closePhaseStorage _) _ => False
  | .call (.finishRunSummary stopReason _ _) _ => stopReason ≠ StopReason.stationFault.text
  | _ => True

theorem Operation.IsInner.isOrdinary {op : Operation} (h : op.IsInner) (raised : Option Exc) :
    (StationCall.call op raised).IsOrdinary := by
  cases op with
  | makePhaseStorage | closePhaseStorage => exact h.elim
  | finishRunSummary => exact h
  | _ => trivial

/-- The rows are as `I` says. -/
def RowsAre (I : CycleRows → Prop) (s : StationSession X) : Prop := I (cycleRows s.trace)

/-- What ordinary calls keep of the rows. -/
def IsKept (I : CycleRows → Prop) : Prop :=
  ∀ (rows : CycleRows) (c : StationCall), c.IsOrdinary → I rows → I (rows.after c)

theorem IsKept.kept {I : CycleRows → Prop} (hI : IsKept I) {c : StationCall} (hc : c.IsOrdinary)
    (s : StationSession X) (world : X) : Kept (RowsAre I) s (s.after c world) :=
  fun hs ↦ hI _ c hc hs

/-- What ordinary calls keep, a phase keeps. -/
theorem IsKept.dwells {I : CycleRows → Prop} (hI : IsKept I) : Dwells st (Kept (RowsAre I)) where
  call op hop := ends_call fun s ↦ hI.kept (hop.isOrdinary _) s _
  read reading _ := ends_read fun s ↦ hI.kept (by trivial) s _
  emergencyOutputOff reason s := ⟨_, rfl, hI.kept (by trivial) s _⟩
  note c hc s := by
    refine ⟨_, rfl, hI.kept ?_ s _⟩
    cases c with
    | call => exact absurd hc Bool.false_ne_true
    | _ => trivial

theorem IsKept.finalVoltage {I : CycleRows → Prop} (hI : IsKept I) :
    Ends (Kept (RowsAre I)) (StationProg.read st .finalVoltage) :=
  ends_read fun s ↦ hI.kept (by trivial) s _

theorem IsKept.fields {I : CycleRows → Prop} (hI : IsKept I) (g : GuardedRun X) :
    Ends (Kept (RowsAre I)) (extraRunSummaryFields g) :=
  ends_extraRunSummaryFields fun s _ ↦ hI.kept (by trivial) s _

theorem IsKept.runPhase {I : CycleRows → Prop} (hI : IsKept I) (ph : Phase X) :
    Ends (Kept (RowsAre I)) (Nipxi.runPhase st r ph) :=
  hI.dwells.runPhase (hI.fields _) hI.finalVoltage (ends_call fun s ↦ hI.kept (by trivial) s _)
    (fun _ _ ↦ ends_call fun s ↦ hI.kept (by trivial) s _)
    fun _ _ ↦ ends_call fun s ↦ hI.kept (by trivial) s _

/-- In the storage of a phase, whose row records no fault of the station. -/
def InPhase (rows : CycleRows) : Prop := rows.inPhase = true ∧ ¬IsFaultRow rows.phase

/-- Out of the storage of a phase, with this row of it. -/
def OutOfPhase (phase : Option (String × String)) (rows : CycleRows) : Prop :=
  rows.inPhase = false ∧ rows.phase = phase

/-- Moreover the row of the cycle records no fault of the station. -/
def OutOfFault (phase : Option (String × String)) (rows : CycleRows) : Prop :=
  OutOfPhase phase rows ∧ ¬IsFaultRow rows.cycle

theorem not_isFaultRow {stopReason result : String}
    (h : stopReason ≠ StopReason.stationFault.text) : ¬IsFaultRow (some (stopReason, result)) :=
  fun hrow ↦ h (congrArg Prod.fst (Option.some.inj hrow))

/-- An ordinary call changes at most one row, that of the storage in use. -/
theorem CycleRows.after_of_isOrdinary (rows : CycleRows) {c : StationCall} (hc : c.IsOrdinary) :
    rows.after c = rows ∨ ∃ row, ¬IsFaultRow row ∧
      rows.after c = if rows.inPhase then { rows with phase := row }
        else { rows with cycle := row } := by
  unfold after
  split
  · exact hc.elim
  · exact hc.elim
  · next stopReason result _ => exact Or.inr ⟨some (stopReason, result), not_isFaultRow hc, rfl⟩
  · exact Or.inl rfl

theorem isKept_inPhase : IsKept InPhase := by
  intro rows c hc h
  rcases rows.after_of_isOrdinary hc with heq | ⟨row, hrow, heq⟩
  · rwa [heq]
  · rw [heq, if_pos h.1]
    exact ⟨h.1, hrow⟩

theorem isKept_outOfPhase (phase : Option (String × String)) : IsKept (OutOfPhase phase) := by
  intro rows c hc h
  rcases rows.after_of_isOrdinary hc with heq | ⟨row, -, heq⟩
  · rwa [heq]
  · rw [heq, if_neg (ne_true_of_eq_false h.1)]
    exact h

theorem isKept_outOfFault (phase : Option (String × String)) : IsKept (OutOfFault phase) := by
  intro rows c hc h
  rcases rows.after_of_isOrdinary hc with heq | ⟨row, hrow, heq⟩
  · rwa [heq]
  · rw [heq, if_neg (ne_true_of_eq_false h.1.1)]
    exact ⟨h.1, hrow⟩

/-! ## With a storage that succeeds -/

theorem StorageSucceeds.call_eq (hst : StorageSucceeds st) {op : Operation} (hop : op.IsStorage)
    (s : StationSession X) :
    StationProg.call st op s = .ok ⟨⟩ (s.after (.call op none) (st.perform op s.world).2) := by
  unfold StationProg.call
  rw [hst op s.world hop]

theorem StorageSucceeds.post_call (hst : StorageSucceeds st) (op : Operation)
    (hop : op.IsStorage) {Q : PUnit → StationSession X → Prop} {E : Exc → StationSession X → Prop}
    {s : StationSession X} : Post (StationProg.call st op) Q E s ↔
      Q ⟨⟩ (s.after (.call op none) (st.perform op s.world).2) :=
  post_of_ok (hst.call_eq hop s)

/-- What is not caught by anyone, nobody raises. -/
theorem StorageSucceeds.raises_call (hst : StorageSucceeds st) (op : Operation)
    (hop : op.IsStorage) : Raises (fun _ ↦ False) (StationProg.call st op) :=
  fun _ ↦ (hst.post_call op hop).mpr trivial

theorem CycleRows.after_finish {rows : CycleRows} (h : rows.inPhase = false)
    (stopReason result : String) (fields : List (String × FieldValue)) :
    rows.after (.call (.finishRunSummary stopReason result fields) none)
      = { rows with cycle := some (stopReason, result) } :=
  if_neg (ne_true_of_eq_false h)

theorem OutOfPhase.finish {phase : Option (String × String)} {rows : CycleRows}
    (h : OutOfPhase phase rows) {stopReason : String}
    (hne : stopReason ≠ StopReason.stationFault.text) (result : String)
    (fields : List (String × FieldValue)) :
    OutOfFault phase (rows.after (.call (.finishRunSummary stopReason result fields) none)) := by
  rw [CycleRows.after_finish h.1]
  exact ⟨h, not_isFaultRow hne⟩

theorem CycleRows.after_finish_of_inPhase {rows : CycleRows} (h : rows.inPhase = true)
    (stopReason result : String) (fields : List (String × FieldValue)) :
    rows.after (.call (.finishRunSummary stopReason result fields) none)
      = { rows with phase := some (stopReason, result) } :=
  if_pos h

theorem StorageSucceeds.post_recordStationFault (hst : StorageSucceeds st) (p : PositionRun)
    (exception message : String) {phase : Option (String × String)} {s : StationSession X}
    (hs : RowsAre (OutOfPhase phase) s) :
    Post (recordStationFault st p exception message)
      (fun _ t ↦ RowsAre (OutOfPhase phase) t ∧ IsFaultRow (cycleRows t.trace).cycle)
      (fun _ _ ↦ False) s := by
  rw [recordStationFault, post_bind, hst.post_call (.recordExecutionState _ _ _) trivial, post_bind,
    hst.post_call (.finishRunSummary _ _ _) trivial, StationProg.logEvent,
    hst.post_call (.logEvent _) trivial]
  have hfinish := CycleRows.after_finish hs.1 StopReason.stationFault.text "STATION_FAULT" []
  exact ⟨⟨(congrArg CycleRows.inPhase hfinish).trans hs.1,
    (congrArg CycleRows.phase hfinish).trans hs.2⟩, congrArg CycleRows.cycle hfinish⟩

/-- What the cycle does about an exception: the row of the phase records a fault of the station
exactly if the tuple of station exceptions has its class. -/
theorem StorageSucceeds.post_settlePhase (hst : StorageSucceeds st) (ph : Phase X) {e : Exc}
    {t : StationSession X} (ht : RowsAre InPhase t) :
    Post (settlePhase st r ph e) (fun _ _ ↦ False) (fun e' u ↦ e' = e ∧
      ∃ phase, RowsAre (OutOfPhase phase) u ∧
        (IsFaultRow phase ↔ e.isInstance STATION_HARDWARE_EXCEPTIONS = true)) t := by
  unfold settlePhase
  split
  · next hstation =>
    rw [reclassifyPhaseAsStationFault, post_ensuring, post_bind, post_bind,
      hst.post_call (.recordExecutionState _ _ _) trivial,
      hst.post_call (.finishRunSummary _ _ _) trivial, post_raise,
      hst.post_call (.closePhaseStorage _) trivial]
    have hfinish := CycleRows.after_finish_of_inPhase ht.1 StopReason.stationFault.text
      "STATION_FAULT" []
    refine ⟨rfl, some (StopReason.stationFault.text, "STATION_FAULT"), ⟨rfl, ?_⟩,
      iff_of_true rfl hstation⟩
    exact congrArg CycleRows.phase hfinish
  · next hstation =>
    rw [post_ensuring, post_raise, hst.post_call (.closePhaseStorage _) trivial]
    exact ⟨rfl, (cycleRows t.trace).phase, ⟨rfl, rfl⟩, iff_of_false ht.2 hstation⟩

/-! ## The run -/

/-- A run that raised, with the exception and the session as `E` says. -/
def Throws {α : Type} (x : StationProg X α) (e : Exc) (E : StationSession X → Prop)
    (s : StationSession X) : Prop := ∃ u, x s = .error e u ∧ E u

theorem Throws.bind {α β : Type} {x : StationProg X α} {f : α → StationProg X β} {e : Exc}
    {E : StationSession X → Prop} {s : StationSession X} (h : Throws x e E s) :
    Throws (x >>= f) e E s := by
  obtain ⟨u, hu, hE⟩ := h
  refine ⟨u, ?_, hE⟩
  change Prog.bind x f s = _
  rw [Prog.bind, hu]

theorem Throws.after {α β : Type} {x : StationProg X α} {f : α → StationProg X β} {e : Exc}
    {E : StationSession X → Prop} {s t : StationSession X} {a : α} (hx : x s = .ok a t)
    (h : Throws (f a) e E t) : Throws (x >>= f) e E s := by
  obtain ⟨u, hu, hE⟩ := h
  refine ⟨u, ?_, hE⟩
  change Prog.bind x f s = _
  rw [Prog.bind, hx]
  exact hu

/-- The cycle is out of the storage of the phase that raised, whose row is right about `e`. -/
def RowSettled (e : Exc) (s : StationSession X) : Prop :=
  ∃ phase, RowsAre (OutOfPhase phase) s ∧
    (IsFaultRow phase ↔ e.isInstance STATION_HARDWARE_EXCEPTIONS = true)

theorem StorageSucceeds.throws_cyclePhase (hst : StorageSucceeds st) {ph : Phase X} {e : Exc}
    {s u t : StationSession X}
    (hmake : StationProg.call st (.makePhaseStorage (ph.name ++ "_battery")) s = .ok ⟨⟩ u)
    (hraised : runPhase st r ph u = .error e t) :
    Throws (cyclePhase st r ph) e (RowSettled e) s := by
  have hu : RowsAre InPhase u := by
    obtain rfl := (Outcome.ok.inj (hmake.symm.trans (hst.call_eq (by trivial) s))).2
    exact ⟨rfl, fun hnone ↦ Option.some_ne_none _ hnone.symm⟩
  have ht : RowsAre InPhase t :=
    (post_of_error hraised).mp ((isKept_inPhase.runPhase ph).within u) hu
  refine Throws.after hmake ?_
  have hends : Ends (fun _ _ ↦ True) (settlePhase st r ph e) := by
    refine .ensuring (.ite (.bind (.bind ?_ fun _ ↦ ?_) fun _ ↦ .raise _) (.raise _)) ?_
    · exact ends_call fun _ ↦ trivial
    · exact ends_call fun _ ↦ trivial
    · exact ends_call fun _ ↦ trivial
  obtain ⟨e', v, hv, rfl, hphase⟩ := hends.exists_error (hst.post_settlePhase ph ht)
  refine ⟨v, ?_, hphase⟩
  rw [← hv]
  unfold settlePhase Prog.ensuring Prog.handle
  rw [hraised]

theorem StorageSucceeds.throws_runRepetitions (hst : StorageSucceeds st) {e : Exc}
    {repetitions : List ℕ} {s t : StationSession X} (h : PhaseRaises st r e repetitions s t) :
    Throws (runRepetitions st r repetitions) e (RowSettled e) s := by
  induction h with
  | charge hbefore hraised =>
    obtain ⟨_, _, hcheck, hbefore⟩ := exists_of_bind_eq_ok hbefore
    obtain ⟨_, _, hlog, hmake⟩ := exists_of_bind_eq_ok hbefore
    have hphase := hst.throws_cyclePhase hmake hraised
    exact Throws.bind (.after hcheck (.after hlog (.bind hphase)))
  | discharge hbefore hraised =>
    obtain ⟨_, _, hcheck, hbefore⟩ := exists_of_bind_eq_ok hbefore
    obtain ⟨_, _, hlog, hbefore⟩ := exists_of_bind_eq_ok hbefore
    obtain ⟨_, _, hcharge, hbefore⟩ := exists_of_bind_eq_ok hbefore
    obtain ⟨_, _, hcheck', hbefore⟩ := exists_of_bind_eq_ok hbefore
    obtain ⟨_, _, hlog', hbefore⟩ := exists_of_bind_eq_ok hbefore
    obtain ⟨_, _, hrest, hbefore⟩ := exists_of_bind_eq_ok hbefore
    obtain ⟨_, _, hlog'', hmake⟩ := exists_of_bind_eq_ok hbefore
    have hphase := hst.throws_cyclePhase hmake hraised
    exact Throws.bind (.after hcheck (.after hlog (.after hcharge (.after hcheck'
      (.after hlog' (.after hrest (.after hlog'' (.bind hphase))))))))
  | later hdone _ ih => exact Throws.after hdone ih

theorem post_kept {α : Type} {I : CycleRows → Prop} {x : StationProg X α}
    (hx : Ends (Kept (RowsAre I)) x) (hraises : Raises (fun _ ↦ False) x) {s : StationSession X}
    (hs : RowsAre I s) : Post x (fun _ t ↦ RowsAre I t) (fun _ _ ↦ False) s :=
  ((hx.within s).and (hraises s)).mono (fun _ _ h ↦ h.1 hs) fun _ _ h ↦ h.2

theorem StorageSucceeds.raises_logEvents (hst : StorageSucceeds st) (entries : List EventEntry) :
    Raises (fun _ ↦ False) (logEvents st entries) := by
  induction entries with
  | nil => exact .pure _
  | cons entry rest ih => exact .bind (hst.raises_call (.logEvent entry) trivial) fun _ ↦ ih

theorem StorageSucceeds.post_recordFailure (hst : StorageSucceeds st) (e : Exc)
    {phase : Option (String × String)} {s : StationSession X} (hs : RowsAre (OutOfPhase phase) s) :
    Post (recordFailure st (cycleGuarded r) (exceptClause (cycleGuarded r) e))
      (fun _ t ↦ RowsAre (OutOfFault phase) t) (fun _ _ ↦ False) s := by
  have hkept := isKept_outOfPhase phase
  have hdwells : Dwells st (Kept (RowsAre (OutOfPhase phase))) := hkept.dwells
  refine (post_kept (hdwells.onEvent _) (fun t ↦ ?_) hs).bind fun _ t ht ↦ ?_
  · exact (steps_onEvent _ t).mono (fun _ _ _ ↦ trivial) fun _ _ h ↦ h
  refine (post_kept (hdwells.logEvents _) (hst.raises_logEvents _) ht).bind fun _ t ht ↦ ?_
  refine (post_kept (hdwells.call (.recordExecutionState _ _ _) trivial)
    (hst.raises_call (.recordExecutionState _ _ _) trivial) ht).bind fun _ t ht ↦ ?_
  refine (post_kept (hkept.fields (cycleGuarded r)) (fun t ↦ trivial) ht).bind fun fields t ht ↦ ?_
  refine (post_kept (hdwells.safeFinalVoltageReading hkept.finalVoltage) ?_ ht).bind
    fun voltage t ht ↦ ?_
  · refine .ite (.bind (.attempt _) fun ended ↦ ?_) (.pure _)
    cases ended with
    | ok v => exact .pure _
    | error e => exact .pure _
  rw [hst.post_call (.finishRunSummary _ _ _) trivial]
  exact OutOfPhase.finish ht (Dwells.stopReason_exceptClause _ e) _
    (withEndVoltage fields voltage).items

theorem StorageSucceeds.throws_runCycle (hst : StorageSucceeds st) {e : Exc}
    {s t : StationSession X}
    (h : PhaseRaises st r e (List.range' 1 r.cycleCount) s t) :
    Throws (runCycle st r) e (fun u ↦ ∃ phase, RowsAre (OutOfFault phase) u ∧
      (IsFaultRow phase ↔ e.isInstance STATION_HARDWARE_EXCEPTIONS = true)) s := by
  obtain ⟨u, hu, phase, hrows, hphase⟩ := hst.throws_runRepetitions h
  refine Throws.bind ?_
  have hkept := isKept_outOfFault phase
  have hdwells : Dwells st (Kept (RowsAre (OutOfFault phase))) := hkept.dwells
  -- The handler writes no row of the phase, so the fault row is as the phase left it.
  have hhandler : Post (do
      recordFailure st (cycleGuarded r) (exceptClause (cycleGuarded r) e)
      shutDown st (cycleGuarded r) (exceptClause (cycleGuarded r) e) e
      (Prog.raise e : StationProg X PUnit)) (fun _ _ ↦ False)
      (fun e' v ↦ e' = e ∧ RowsAre (OutOfFault phase) v) u := by
    refine (((hst.post_recordFailure e hrows).mono (fun _ _ h ↦ h) fun _ _ h ↦ h.elim).bind
      fun _ v hv ↦ ?_)
    refine ((post_kept (hdwells.shutDown _ e) (fun w ↦ ?_) hv).mono (fun _ _ h ↦ h)
      fun _ _ h ↦ h.elim).bind fun _ w hw ↦ ⟨rfl, hw⟩
    exact (post_shutDown _ e w).mono (fun _ _ _ ↦ trivial) fun _ _ h ↦ h
  have htrue : Dwells st fun _ _ ↦ True := (spans_true st r).dwells
  have hends : Ends (fun _ _ ↦ True) (do
      recordFailure st (cycleGuarded r) (exceptClause (cycleGuarded r) e)
      shutDown st (cycleGuarded r) (exceptClause (cycleGuarded r) e) e
      (Prog.raise e : StationProg X PUnit)) :=
    .bind (htrue.recordFailure (spans_true st r).cycleFields (spans_true st r).finalVoltage e)
      fun _ ↦ .bind (htrue.shutDown _ e) fun _ ↦ .raise _
  obtain ⟨e', v, hv, rfl, hrows'⟩ := hends.exists_error hhandler
  refine ⟨v, ?_, phase, hrows', hphase⟩
  rw [← hv]
  unfold runGuarded Prog.handle
  rw [hu]

end Rows

/-! ## Agreement -/

/-- The classes on which the two classifiers agree. -/
def KNOWN_EXCEPTIONS : List ExcClass :=
  STATION_HARDWARE_EXCEPTIONS ++ BATTERY_UNDER_TEST_EXCEPTIONS ++ [.operationCancelledError]

/-- An exception is a fault of the station for its caller exactly if it is one for the cycle: one of
the known classes. -/
theorem classified_iff_known (e : Exc) :
    (e.isInstance STATION_HARDWARE_EXCEPTIONS = true ↔
        e.isInstance [.operationCancelledError] = false ∧
          classifyPositionException e = .stationFault) ↔
      e.isInstance KNOWN_EXCEPTIONS = true := by
  obtain ⟨cls, message⟩ := e
  cases cls <;>
    simp [KNOWN_EXCEPTIONS, classifyPositionException, Exc.isInstance, ExcClass.mro,
      ExcClass.parent, STATION_HARDWARE_EXCEPTIONS, BATTERY_UNDER_TEST_EXCEPTIONS]

/-- **When the rows agree.** If a phase of a cycle raises, and the storage does not, then both rows
say `STATION_FAULT` or neither does, exactly if the exception is of a known class. -/
theorem rowsAgree_iff {X : Type} (st : Station X) (r : SequenceRun X) (p : PositionRun) (e : Exc)
    (s t : StationSession X) (hst : StorageSucceeds st)
    (h : PhaseRaises st r e (List.range' 1 r.cycleCount) s t) :
    ∃ result u, classifiedCycle st r p s = .ok result u ∧
      (RowsAgree u.trace ↔ e.isInstance KNOWN_EXCEPTIONS = true) := by
  obtain ⟨u, hu, phase, hrows, hphase⟩ := hst.throws_runCycle h
  have hended : classifiedCycle st r p s = classifyEnd st p (.raised e) u := by
    change Prog.bind (sequenceEnd (runCycle st r)) (classifyEnd st p) s = _
    have hsequence : sequenceEnd (runCycle st r) s = .ok (.raised e) u := by
      change Prog.bind (runCycle st r).attempt _ s = _
      unfold Prog.bind Prog.attempt
      rw [hu]
      rfl
    rw [Prog.bind, hsequence]
  rw [hended, ← classified_iff_known, classifyEnd]
  unfold RowsAgree
  split
  -- A cancelled cycle has no fault row, and its caller classifies nothing.
  · next hcancel =>
    refine ⟨_, _, rfl, ?_⟩
    rw [hrows.1.2, hphase, hcancel]
    exact iff_congr Iff.rfl (iff_of_false hrows.2 fun h ↦ Bool.noConfusion h.1)
  · next hcancel =>
    split
    · next hfault =>
      have hends : Ends (fun _ _ ↦ True) (do
          recordStationFault st p e.cls.pyName e.message
          pure PositionResult.stationFault) := by
        refine .bind (.bind (ends_call fun _ ↦ trivial) fun _ ↦ ?_) fun _ ↦ .pure _
        exact .bind (ends_call fun _ ↦ trivial) fun _ ↦ ends_call fun _ ↦ trivial
      have hpost : Post (do
          recordStationFault st p e.cls.pyName e.message
          pure PositionResult.stationFault)
          (fun _ v ↦ RowsAre (OutOfPhase phase) v ∧ IsFaultRow (cycleRows v.trace).cycle)
          (fun _ _ ↦ False) u :=
        (hst.post_recordStationFault p e.cls.pyName e.message hrows.1).bind fun _ v hv ↦ hv
      obtain ⟨result, v, hv, hrows', hcycle⟩ := hends.exists_ok hpost
      refine ⟨result, v, hv, ?_⟩
      rw [hrows'.2, hphase]
      exact iff_congr Iff.rfl
        (iff_of_true hcycle ⟨Bool.eq_false_of_not_eq_true hcancel, hfault⟩)
    · next hfault =>
      refine ⟨_, _, rfl, ?_⟩
      rw [hrows.1.2, hphase]
      exact iff_congr Iff.rfl (iff_of_false hrows.2 fun h ↦ hfault h.2)

/-! ## A lost relay and a lost socket -/

/-- A station with a charged battery, whose sampling raises. -/
def sampleRaises (e : Exc) : Station ℕ where
  perform
    | .sample _, x => (some e, x)
    | _, x => (none, x)
  read _ x := (.ok 4, x)
  emergencyOutputOff _ x := (true, x)
  sequence _ x := ((.completed, true), x)
  ntcVoltageToCelsius _ := none

theorem storageSucceeds_sampleRaises (e : Exc) : StorageSucceeds (sampleRaises e) := by
  intro op x hop
  cases op with
  | sample => exact hop.elim
  | _ => rfl

/-- A charge that raises first thing in the cycle. -/
theorem exists_phaseRaises {X : Type} {st : Station X} {r : SequenceRun X} {e : Exc}
    {repetition : ℕ} {rest : List ℕ} {s u : StationSession X}
    (hbefore : beforeCharge st r repetition s = .ok ⟨⟩ u)
    (h : (runPhase st r (chargePhase r) u).exception = some e) :
    ∃ t, PhaseRaises st r e (repetition :: rest) s t := by
  obtain ⟨t, ht⟩ := Outcome.exists_of_exception h
  exact ⟨t, .charge hbefore ht⟩

/-- A lost DMM is a safety violation and a fault of the station, and both rows say so. -/
theorem rowsAgree_iff_dmmLost :
    ∃ result u, classifiedCycle (sampleRaises ⟨.dmmMeasurementLostError, "lost"⟩) firstPosition
        onePosition ⟨0, []⟩ = .ok result u ∧
      (RowsAgree u.trace ↔
        (⟨.dmmMeasurementLostError, "lost"⟩ : Exc).isInstance KNOWN_EXCEPTIONS = true) :=
  rowsAgree_iff _ _ _ _ _ _ (storageSucceeds_sampleRaises _)
    (exists_phaseRaises rfl (by decide +kernel)).choose_spec

/-- A socket that times out in the sampling of a charge is a fault of the station for the row of the
cycle, and a failure for the row of the charge. -/
theorem not_rowsAgree_osError :
    ¬∀ (X : Type) (st : Station X) (r : SequenceRun X) (p : PositionRun) (e : Exc)
      (s t : StationSession X), StorageSucceeds st →
        PhaseRaises st r e (List.range' 1 r.cycleCount) s t →
          ∃ result u, classifiedCycle st r p s = .ok result u ∧ RowsAgree u.trace := by
  intro h
  obtain ⟨t, hraises⟩ : ∃ t, PhaseRaises (sampleRaises ⟨.osError, "timed out"⟩) firstPosition
      ⟨.osError, "timed out"⟩ [1] ⟨0, []⟩ t := exists_phaseRaises rfl (by decide +kernel)
  obtain ⟨result, u, hu, hagree⟩ := h ℕ (sampleRaises ⟨.osError, "timed out"⟩) firstPosition
    onePosition ⟨.osError, "timed out"⟩ ⟨0, []⟩ t (storageSucceeds_sampleRaises _) hraises
  have hfinal : ((classifiedCycle (sampleRaises ⟨.osError, "timed out"⟩) firstPosition onePosition
      ⟨0, []⟩).final.map fun v ↦ decide (RowsAgree v.trace)) = some false := by decide +kernel
  rw [hu] at hfinal
  exact of_decide_eq_false (Option.some.inj hfinal) hagree

end Nipxi
