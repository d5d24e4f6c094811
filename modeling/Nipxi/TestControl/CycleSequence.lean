import Mathlib.Data.List.Range
import Mathlib.Data.List.Nodup
import Nipxi.TestControl.Setpoints

/-!
# The phases of a cycle and their storages

`CycleSequence.run` and `_make_phase_storage`, with the storage of each phase told apart by its run
id. What a phase does is left open; here it is one call that returns or raises.

A run is a segment of the trace (`Segment`): the phases it ran, in order, each with its storage,
and at the end at most one storage whose row could not be started. That storage is opened inside
`_make_phase_storage` and known to nobody when the row raises, so that nothing closes it. With a
count below 1 nothing is run and `True` is returned. The rest of the law holds: `cycleLaw_iff`.
-/

open Collections Effect

namespace Nipxi

/-! ## Phases and their storages -/

/-- A phase of a cycle. -/
inductive CyclePhase where
  | charge
  | discharge
  deriving DecidableEq

/-- `test_type` of the storage of a phase. -/
def CyclePhase.testType : CyclePhase → String
  | charge => "charge_battery"
  | discharge => "discharge_battery"

/-- What a cycle asks for beside its phases and their storages. -/
inductive CycleOp where
  | checkCancellation
  /-- `log_event` of the line `Cycle repetition {repetition}/{cycle_count}: {what}`. -/
  | logRepetition (repetition : ℕ) (what : String)
  /-- `interruptible_sleep(rest_s)`. -/
  | rest
  /-- `record_execution_state` of `_reclassify_phase_as_station_fault`. -/
  | recordStationFault (runId : ℕ)
  /-- `finish_run_summary` of `_reclassify_phase_as_station_fault`. -/
  | finishStationFault (runId : ℕ)
  /-- The rows the `except` clause of `run_guarded` writes. -/
  | recordFailure (e : Exc)
  /-- The shutdown of the `except` clause. -/
  | shutDown (e : Exc)
  /-- `complete`. -/
  | complete
  deriving DecidableEq

/-- An entry of the trace. -/
inductive CycleEvent where
  /-- A fresh `DataStorage` was opened, and has this run id. -/
  | opened (runId : ℕ)
  | openFailed (e : Exc)
  /-- `start_run_summary` on the storage of a phase. -/
  | started (runId parentRunId : ℕ) (testType : String) (raised : Option Exc)
  /-- `run` of a phase, on a storage. -/
  | phase (ph : CyclePhase) (runId : ℕ) (raised : Option Exc)
  | closed (runId : ℕ)
  | asked (op : CycleOp) (raised : Option Exc)
  deriving DecidableEq

/-- A station, as a cycle sees it, over worlds `X`. -/
structure CycleStation (X : Type) where
  /-- `open` of a storage: how many run ids others have been given before this one. -/
  openStorage : X → Except Exc ℕ × X
  startRunSummary : ℕ → ℕ → String → X → Option Exc × X
  runPhase : CyclePhase → ℕ → X → Option Exc × X
  perform : CycleOp → X → Option Exc × X

/-- The world of a station, the next run id, and what was asked, in order. -/
structure CycleSession (X : Type) where
  world : X
  /-- `next_value` of `run_sequence`. -/
  nextRunId : ℕ
  trace : List CycleEvent

/-- What a cycle is constructed and called with. -/
structure CycleRun where
  /-- `run_id` of the storage of the cycle. -/
  parentRunId : ℕ
  /-- `int(test_setpoints.get("cycle_count", 1))`. -/
  cycleCount : ℤ
  cycleRestS : ℚ

/-- Programs of a cycle. -/
abbrev CycleProg (X α : Type) := Prog Exc (CycleSession X) α

namespace CycleSession

variable {X : Type}

/-- The session after a call. -/
def after (s : CycleSession X) (ev : CycleEvent) (world : X) : CycleSession X :=
  { s with world := world, trace := s.trace ++ [ev] }

/-- The session when a cycle starts: its own run id was allocated before, and perhaps others. -/
def start (r : CycleRun) (others : ℕ) (world : X) : CycleSession X :=
  ⟨world, r.parentRunId + 1 + others, []⟩

end CycleSession

/-! ## The program -/

namespace Cycle

variable {X : Type} (st : CycleStation X) (r : CycleRun)

/-- A call that returns or raises, noted as an event. -/
def attempt (f : X → Option Exc × X) (ev : Option Exc → CycleEvent) : CycleProg X PUnit := fun s ↦
  match f s.world with
  | (none, world) => .ok ⟨⟩ (s.after (ev none) world)
  | (some e, world) => .error e (s.after (ev (some e)) world)

/-- Asking for something beside the phases. -/
def ask (op : CycleOp) : CycleProg X PUnit := attempt (st.perform op) (.asked op)

/-- `DataStorage(settings)` with its `open`, and the run id it is given. -/
def openStorage : CycleProg X ℕ := fun s ↦
  match st.openStorage s.world with
  | (.ok skipped, world) =>
    .ok (s.nextRunId + skipped)
      ⟨world, s.nextRunId + skipped + 1, s.trace ++ [.opened (s.nextRunId + skipped)]⟩
  | (.error e, world) => .error e (s.after (.openFailed e) world)

/-- `_make_phase_storage`. -/
def makePhaseStorage (ph : CyclePhase) : CycleProg X ℕ := do
  let runId ← openStorage st
  attempt (st.startRunSummary runId r.parentRunId ph.testType)
    (.started runId r.parentRunId ph.testType)
  pure runId

/-- `close` of a storage, which raises nothing. -/
def closeStorage (runId : ℕ) : CycleProg X PUnit :=
  .modify fun s ↦ s.after (.closed runId) s.world

/-- `_reclassify_phase_as_station_fault`. -/
def reclassifyPhaseAsStationFault (runId : ℕ) : CycleProg X PUnit := do
  ask st (.recordStationFault runId)
  ask st (.finishStationFault runId)

/-- The `try` around a phase. -/
def guardedPhase (ph : CyclePhase) (runId : ℕ) : CycleProg X PUnit :=
  ((attempt (st.runPhase ph runId) (.phase ph runId)).handle fun e ↦
    if e.isInstance STATION_HARDWARE_EXCEPTIONS then do
      reclassifyPhaseAsStationFault st runId
      Prog.raise e
    else Prog.raise e).ensuring (closeStorage runId)

/-- One phase, with a storage of its own. -/
def runPhase (ph : CyclePhase) : CycleProg X PUnit := do
  let runId ← makePhaseStorage st r ph
  guardedPhase st ph runId

/-- One repetition. -/
def runRepetition (repetition : ℕ) : CycleProg X PUnit := do
  ask st .checkCancellation
  ask st (.logRepetition repetition "charge phase starting")
  runPhase st r .charge
  ask st .checkCancellation
  ask st (.logRepetition repetition s!"resting {formatFixed 0 r.cycleRestS}s before discharge")
  ask st .rest
  ask st (.logRepetition repetition "discharge phase starting")
  runPhase st r .discharge
  ask st (.logRepetition repetition "complete")

/-- The loop of `_run_cycle`. -/
def runRepetitions : List ℕ → CycleProg X PUnit
  | [] => pure ⟨⟩
  | repetition :: rest => do
    runRepetition st r repetition
    runRepetitions rest

/-- `range(1, cycle_count + 1)`. -/
def repetitions : List ℕ := List.range' 1 r.cycleCount.toNat

/-- `CycleSequence.run`. -/
def run : CycleProg X Bool := do
  (runRepetitions st r (repetitions r)).handle fun e ↦ do
    ask st (.recordFailure e)
    ask st (.shutDown e)
    Prog.raise e
  ask st .complete
  pure true

end Cycle

/-! ## The law -/

/-- A phase that was started: which, on which storage, and whether it succeeded. -/
structure PhaseRun where
  phase : CyclePhase
  runId : ℕ
  succeeded : Bool
  deriving DecidableEq

/-- The phase an entry is about. -/
def CycleEvent.phase? : CycleEvent → Option PhaseRun
  | .phase ph runId raised => some ⟨ph, runId, raised.isNone⟩
  | _ => none

/-- The phases that were started, in order. -/
def phases (evs : List CycleEvent) : List PhaseRun := evs.filterMap CycleEvent.phase?

/-- Charge, discharge, charge, and so on. -/
def alternate (i : ℕ) : CyclePhase := if i % 2 = 0 then .charge else .discharge

/-- The law of `CycleSequence.run`, of what it asked for and whether it returned `True`. -/
structure CycleLaw (r : CycleRun) (returned : Bool) (evs : List CycleEvent) : Prop where
  /-- The phases alternate. -/
  alternates : ∀ (i : ℕ) (p : PhaseRun), (phases evs)[i]? = some p → p.phase = alternate i
  /-- No storage is used twice. -/
  fresh : ((phases evs).map PhaseRun.runId).Nodup
  /-- Each phase runs on a storage that was opened for it, with a run id of its own, and linked to
  the cycle. -/
  linked : ∀ p ∈ phases evs, p.runId ≠ r.parentRunId ∧ .opened p.runId ∈ evs ∧
    .started p.runId r.parentRunId p.phase.testType none ∈ evs
  /-- After a phase that raises none is started. -/
  stops : ∀ (i : ℕ) (p : PhaseRun), (phases evs)[i]? = some p → p.succeeded = false →
    i + 1 = (phases evs).length
  /-- Every storage that was opened is closed. -/
  closes : ∀ runId, .opened runId ∈ evs → .closed runId ∈ evs
  /-- `True` is returned exactly if something was run and every phase succeeded. -/
  returns : returned = true ↔ phases evs ≠ [] ∧ (∀ p ∈ phases evs, p.succeeded = true) ∧
    ((phases evs).length : ℤ) = 2 * r.cycleCount

/-- One of the two calls that are left once all phases are done raised: the line on the last
repetition, or `complete`. -/
def CycleEvent.FailsAtEnd (r : CycleRun) : CycleEvent → Prop
  | .asked (.logRepetition repetition what) (some _) =>
    repetition = r.cycleCount.toNat ∧ what = "complete"
  | .asked .complete (some _) => True
  | _ => False

instance (r : CycleRun) : DecidablePred (CycleEvent.FailsAtEnd r) := fun ev ↦ by
  unfold CycleEvent.FailsAtEnd
  split <;> infer_instance

/-- When the law holds: every row of a phase that could be opened could be started, there is
something to repeat, and nothing raises once all phases are done. Without anything to repeat the
law holds only of a run that raises. -/
def MeetsLaw (r : CycleRun) (evs : List CycleEvent) : Prop :=
  (∀ runId parentRunId testType e,
    .started runId parentRunId testType (some e) ∉ evs) ∧
    (1 ≤ r.cycleCount ↔ ∀ ev ∈ evs, ¬ev.FailsAtEnd r)

/-! ## Segments of a trace -/

/-- The storage an entry opens. -/
def CycleEvent.opened? : CycleEvent → Option ℕ
  | .opened runId => some runId
  | _ => none

/-- The storage an entry closes. -/
def CycleEvent.closed? : CycleEvent → Option ℕ
  | .closed runId => some runId
  | _ => none

/-- The row an entry starts: its run id, its parent and its type. -/
def CycleEvent.started? : CycleEvent → Option (ℕ × ℕ × String)
  | .started runId parentRunId testType none => some (runId, parentRunId, testType)
  | _ => none

/-- The storage whose row could not be started. -/
def CycleEvent.startFailed? : CycleEvent → Option ℕ
  | .started runId _ _ (some _) => some runId
  | _ => none

/-- The row of a phase. -/
def PhaseRun.row (r : CycleRun) (p : PhaseRun) : ℕ × ℕ × String :=
  (p.runId, r.parentRunId, p.phase.testType)

/-- The events of a part of a run: its phases, the storages left open, what raised at the end. -/
structure Segment (r : CycleRun) (lo hi : ℕ) (ran : List PhaseRun) (left : List ℕ)
    (atEnd : List CycleEvent) (evs : List CycleEvent) : Prop where
  le : lo ≤ hi
  phases : phases evs = ran
  opened : evs.filterMap CycleEvent.opened? = ran.map PhaseRun.runId ++ left
  started : evs.filterMap CycleEvent.started? = ran.map (PhaseRun.row r)
  startFailed : evs.filterMap CycleEvent.startFailed? = left
  closed : evs.filterMap CycleEvent.closed? = ran.map PhaseRun.runId
  atEnd : evs.filter (fun ev ↦ CycleEvent.FailsAtEnd r ev) = atEnd
  increasing : (ran.map PhaseRun.runId ++ left).Pairwise (· < ·)
  fresh : ∀ runId ∈ ran.map PhaseRun.runId ++ left, lo ≤ runId ∧ runId < hi

section Segments

variable {r : CycleRun} {lo mid hi : ℕ} {ran ran' : List PhaseRun} {left left' : List ℕ}
  {atEnd atEnd' evs evs' : List CycleEvent}

theorem Segment.nil : Segment r lo lo [] [] [] [] :=
  ⟨le_rfl, rfl, rfl, rfl, rfl, rfl, rfl, .nil, nofun⟩

/-- A part after one that left no storage open. -/
theorem Segment.append (h : Segment r lo mid ran [] atEnd evs)
    (h' : Segment r mid hi ran' left atEnd' evs') :
    Segment r lo hi (ran ++ ran') left (atEnd ++ atEnd') (evs ++ evs') where
  le := h.le.trans h'.le
  phases := by rw [Nipxi.phases, List.filterMap_append]; exact congrArg₂ _ h.phases h'.phases
  opened := by
    rw [List.filterMap_append, h.opened, h'.opened, List.map_append, List.append_nil,
      List.append_assoc]
  started := by rw [List.filterMap_append, h.started, h'.started, List.map_append]
  startFailed := by rw [List.filterMap_append, h.startFailed, h'.startFailed, List.nil_append]
  closed := by rw [List.filterMap_append, h.closed, h'.closed, List.map_append]
  atEnd := by rw [List.filter_append, h.atEnd, h'.atEnd]
  increasing := by
    have hleft := h.increasing
    have hbelow := h.fresh
    rw [List.append_nil] at hleft hbelow
    rw [List.map_append, List.append_assoc, List.pairwise_append]
    refine ⟨hleft, h'.increasing, fun a ha b hb ↦ ?_⟩
    exact (hbelow a ha).2.trans_le (h'.fresh b hb).1
  fresh := by
    intro runId hmem
    rw [List.map_append, List.append_assoc, List.mem_append] at hmem
    rcases hmem with hmem | hmem
    · have hrun := h.fresh runId (List.mem_append_left _ hmem)
      exact ⟨hrun.1, hrun.2.trans_le h'.le⟩
    · have hrun := h'.fresh runId hmem
      exact ⟨h.le.trans hrun.1, hrun.2⟩

/-- A part followed by one without phases and storages. -/
theorem Segment.append_quiet (h : Segment r lo mid ran left atEnd evs)
    (h' : Segment r mid hi [] [] atEnd' evs') :
    Segment r lo hi ran left (atEnd ++ atEnd') (evs ++ evs') where
  le := h.le.trans h'.le
  phases := by
    rw [Nipxi.phases, List.filterMap_append]
    exact (congrArg₂ _ h.phases h'.phases).trans (List.append_nil _)
  opened := by rw [List.filterMap_append, h.opened, h'.opened]; exact List.append_nil _
  started := by rw [List.filterMap_append, h.started, h'.started]; exact List.append_nil _
  startFailed := by rw [List.filterMap_append, h.startFailed, h'.startFailed, List.append_nil]
  closed := by rw [List.filterMap_append, h.closed, h'.closed]; exact List.append_nil _
  atEnd := by rw [List.filter_append, h.atEnd, h'.atEnd]
  increasing := h.increasing
  fresh := fun runId hmem ↦ ⟨(h.fresh runId hmem).1, (h.fresh runId hmem).2.trans_le h'.le⟩

/-- Asking for something beside the phases. -/
theorem segment_asked (op : CycleOp) (raised : Option Exc) :
    Segment r lo lo [] [] ([.asked op raised].filter fun ev ↦ CycleEvent.FailsAtEnd r ev)
      [.asked op raised] :=
  ⟨le_rfl, rfl, rfl, rfl, rfl, rfl, rfl, .nil, nofun⟩

theorem segment_phase (ph : CyclePhase) (raised : Option Exc) {runId : ℕ} (hlo : lo ≤ runId)
    (h : Segment r (runId + 1) hi [] [] [] evs) :
    Segment r lo hi [⟨ph, runId, raised.isNone⟩] [] []
      ([.opened runId, .started runId r.parentRunId ph.testType none, .phase ph runId raised] ++
        evs ++ [.closed runId]) where
  le := hlo.trans ((Nat.le_succ runId).trans h.le)
  phases := by
    rw [Nipxi.phases, List.filterMap_append, List.filterMap_append]
    exact congrArg (fun l ↦ [_] ++ l ++ []) h.phases
  opened := by rw [List.filterMap_append, List.filterMap_append, h.opened]; rfl
  started := by rw [List.filterMap_append, List.filterMap_append, h.started]; rfl
  startFailed := by rw [List.filterMap_append, List.filterMap_append, h.startFailed]; rfl
  closed := by rw [List.filterMap_append, List.filterMap_append, h.closed]; rfl
  atEnd := by rw [List.filter_append, List.filter_append, h.atEnd]; rfl
  increasing := List.pairwise_singleton _ _
  fresh := by
    intro id hmem
    obtain rfl := List.mem_singleton.mp hmem
    exact ⟨hlo, h.le⟩

/-- A storage whose row cannot be started is left open. -/
theorem segment_startFailed {parentRunId runId : ℕ} {testType : String} {e : Exc}
    (hlo : lo ≤ runId) :
    Segment r lo (runId + 1) [] [runId] []
      [.opened runId, .started runId parentRunId testType (some e)] where
  le := hlo.trans (Nat.le_succ runId)
  phases := rfl
  opened := rfl
  started := rfl
  startFailed := rfl
  closed := rfl
  atEnd := rfl
  increasing := List.pairwise_singleton _ _
  fresh := by
    intro id hmem
    obtain rfl := List.mem_singleton.mp hmem
    exact ⟨hlo, Nat.lt_succ_self id⟩

end Segments

/-! ## What the program does -/

namespace Cycle

variable {X : Type} {st : CycleStation X} {r : CycleRun}

/-- From the first session to the second there is a segment. -/
def Did (r : CycleRun) (ran : List PhaseRun) (left : List ℕ) (atEnd : List CycleEvent)
    (s t : CycleSession X) : Prop :=
  ∃ evs, t.trace = s.trace ++ evs ∧ Segment r s.nextRunId t.nextRunId ran left atEnd evs

section

variable {ran ran' : List PhaseRun} {left : List ℕ} {atEnd atEnd' : List CycleEvent}
  {s t u : CycleSession X}

theorem Did.trans (h : Did r ran [] [] s t) (h' : Did r ran' left atEnd t u) :
    Did r (ran ++ ran') left atEnd s u := by
  obtain ⟨evs, htrace, hseg⟩ := h
  obtain ⟨evs', htrace', hseg'⟩ := h'
  exact ⟨evs ++ evs', by rw [htrace', htrace, List.append_assoc], hseg.append hseg'⟩

theorem Did.quiet (h : Did r ran left atEnd s t) (h' : Did r [] [] [] t u) :
    Did r ran left atEnd s u := by
  obtain ⟨evs, htrace, hseg⟩ := h
  obtain ⟨evs', htrace', hseg'⟩ := h'
  refine ⟨evs ++ evs', by rw [htrace', htrace, List.append_assoc], ?_⟩
  simpa only [List.append_nil] using hseg.append_quiet hseg'

end

theorem post_attempt_call (f : X → Option Exc × X) (ev : Option Exc → CycleEvent)
    (s : CycleSession X) :
    Post (attempt f ev) (fun _ t ↦ t.nextRunId = s.nextRunId ∧ t.trace = s.trace ++ [ev none])
      (fun e t ↦ t.nextRunId = s.nextRunId ∧ t.trace = s.trace ++ [ev (some e)]) s := by
  unfold Post attempt
  obtain ⟨_ | e, world⟩ := f s.world
  · exact ⟨rfl, rfl⟩
  · exact ⟨rfl, rfl⟩

theorem did_asked {op : CycleOp} {raised : Option Exc} {s t : CycleSession X}
    (hnext : t.nextRunId = s.nextRunId) (htrace : t.trace = s.trace ++ [.asked op raised]) :
    Did r [] [] ([.asked op raised].filter fun ev ↦ CycleEvent.FailsAtEnd r ev) s t := by
  refine ⟨_, htrace, ?_⟩
  rw [hnext]
  exact segment_asked op raised

theorem post_ask (op : CycleOp) (s : CycleSession X) :
    Post (ask st op) (fun _ t ↦ Did r [] [] [] s t)
      (fun e t ↦ Did r [] [] ([.asked op (some e)].filter fun ev ↦ CycleEvent.FailsAtEnd r ev) s t)
      s := by
  refine (post_attempt_call (st.perform op) (.asked op) s).mono ?_ ?_
  · rintro _ t ⟨hnext, htrace⟩
    have hdid := did_asked (r := r) hnext htrace
    have hnone : ¬CycleEvent.FailsAtEnd r (.asked op none) := by
      cases op <;> exact id
    rwa [List.filter_cons_of_neg (by simpa using hnone)] at hdid
  · rintro e t ⟨hnext, htrace⟩
    exact did_asked hnext htrace

theorem post_ask_of_not {op : CycleOp} (hop : ∀ e, ¬CycleEvent.FailsAtEnd r (.asked op (some e)))
    (s : CycleSession X) :
    Post (ask st op) (fun _ t ↦ Did r [] [] [] s t) (fun _ t ↦ Did r [] [] [] s t) s := by
  refine (post_ask op s).mono (fun _ _ h ↦ h) fun e t h ↦ ?_
  rwa [List.filter_cons_of_neg (by simpa using hop e)] at h

/-- Nothing is run, whatever was asked before. -/
theorem Did.quietly {ran : List PhaseRun} {left : List ℕ} {atEnd : List CycleEvent}
    {s t u : CycleSession X} (h : Did r [] [] [] s t) (h' : Did r ran left atEnd t u) :
    Did r ran left atEnd s u := h.trans h'

/-- How a phase ends that raises: its storage is left open, or it failed on it. -/
def PhaseFails (r : CycleRun) (ph : CyclePhase) (s t : CycleSession X) : Prop :=
  (∃ left, Did r [] left [] s t) ∨ ∃ runId, Did r [⟨ph, runId, false⟩] [] [] s t

/-- **One phase.** -/
theorem post_runPhase (ph : CyclePhase) (s : CycleSession X) :
    Post (runPhase st r ph) (fun _ t ↦ ∃ runId, Did r [⟨ph, runId, true⟩] [] [] s t)
      (fun _ t ↦ PhaseFails r ph s t) s := by
  refine (post_bind _).mpr ((post_bind _).mpr ?_)
  unfold Post openStorage
  obtain ⟨e | skipped, world⟩ := st.openStorage s.world
  · refine Or.inl ⟨[], [.openFailed e], rfl, ?_⟩
    exact ⟨le_rfl, rfl, rfl, rfl, rfl, rfl, rfl, .nil, nofun⟩
  · have hlo : s.nextRunId ≤ s.nextRunId + skipped := Nat.le_add_right _ _
    refine (post_bind _).mpr ((post_attempt_call _ _ _).mono ?_ ?_)
    · rintro _ t ⟨hnext, htrace⟩
      refine (post_pure _).mpr ((post_ensuring _).mpr ((post_handle _).mpr ?_))
      refine (post_attempt_call _ _ t).mono ?_ ?_
      · -- the phase returned
        rintro _ u ⟨hnext', htrace'⟩
        have hseg : Segment r (s.nextRunId + skipped + 1) u.nextRunId [] [] [] [] := by
          rw [hnext', hnext]
          exact .nil
        refine (post_modify _).mpr ⟨s.nextRunId + skipped, _, ?_, segment_phase ph none hlo hseg⟩
        change u.trace ++ [_] = _
        rw [htrace', htrace]
        simp only [List.append_assoc]
        rfl
      · -- the phase raised
        rintro e u ⟨hnext', htrace'⟩
        have hclosed : ∀ v : CycleSession X, Did r [] [] [] u v →
            Post (closeStorage (s.nextRunId + skipped)) (fun _ w ↦ PhaseFails r ph s w)
              (fun _ w ↦ PhaseFails r ph s w) v := by
          rintro v ⟨quiet, hquiet, hseg⟩
          rw [hnext', hnext] at hseg
          refine Or.inr ⟨s.nextRunId + skipped, _, ?_, segment_phase ph (some e) hlo hseg⟩
          change v.trace ++ [_] = _
          rw [hquiet, htrace', htrace]
          simp only [List.append_assoc]
          rfl
        have hnothing : Did r [] [] [] u u := ⟨[], (List.append_nil _).symm, .nil⟩
        rw [post_ite]
        split
        · have hreclassify : Post (reclassifyPhaseAsStationFault st (s.nextRunId + skipped))
              (fun _ v ↦ Did r [] [] [] u v) (fun _ v ↦ Did r [] [] [] u v) u := by
            refine (post_ask_of_not (fun _ ↦ id) u).bind fun _ v hv ↦ ?_
            exact (post_ask_of_not (fun _ ↦ id) v).mono (fun _ _ h ↦ hv.quietly h)
              fun _ _ h ↦ hv.quietly h
          refine (post_bind _).mpr (hreclassify.mono (fun _ v hv ↦ ?_) fun _ v hv ↦ hclosed v hv)
          exact hclosed v hv
        · exact hclosed u hnothing
    · rintro e t ⟨hnext, htrace⟩
      refine Or.inl ⟨[s.nextRunId + skipped], [.opened (s.nextRunId + skipped),
        .started (s.nextRunId + skipped) r.parentRunId ph.testType (some e)], ?_, ?_⟩
      · rw [htrace]
        simp only [List.append_assoc]
        rfl
      · rw [hnext]
        exact segment_startFailed hlo

/-! ## Repetitions -/

/-- The phases that were started, each with its outcome. -/
def outcomes (ran : List PhaseRun) : List (CyclePhase × Bool) :=
  ran.map fun p ↦ (p.phase, p.succeeded)

/-- Phases that alternate and succeed, and perhaps one that failed. -/
def alternating (m : ℕ) (failed : Bool) : List (CyclePhase × Bool) :=
  (List.range m).map (fun i ↦ (alternate i, true)) ++
    if failed then [(alternate m, false)] else []

theorem alternate_add (k i : ℕ) : alternate (2 * k + i) = alternate i := by
  unfold alternate
  rw [Nat.mul_add_mod]

theorem alternating_append (k m : ℕ) (failed : Bool) :
    alternating (2 * k) false ++ alternating m failed = alternating (2 * k + m) failed := by
  have hrange : (List.range (2 * k + m)).map (fun i ↦ (alternate i, true))
      = (List.range (2 * k)).map (fun i ↦ (alternate i, true)) ++
        (List.range m).map (fun i ↦ (alternate i, true)) := by
    rw [List.range_add, List.map_append, List.map_map]
    congr 1
    exact List.map_congr_left fun i _ ↦ by rw [Function.comp, alternate_add]
  unfold alternating
  rw [hrange, alternate_add, List.append_assoc, List.append_assoc]
  rfl

/-- Both phases of `k` repetitions succeeded, and nothing raised. -/
def Done (r : CycleRun) (k : ℕ) (s t : CycleSession X) : Prop :=
  ∃ ran, outcomes ran = alternating (2 * k) false ∧ Did r ran [] [] s t

/-- Something raised before both phases of `k` repetitions were done. -/
def Broken (r : CycleRun) (k : ℕ) (s t : CycleSession X) : Prop :=
  ∃ ran left m failed, m < 2 * k ∧ outcomes ran = alternating m failed ∧ Did r ran left [] s t

/-- Both phases of `k` repetitions succeeded, and then a call at the end raised. -/
def Late (r : CycleRun) (k : ℕ) (s t : CycleSession X) : Prop :=
  ∃ ran atEnd, outcomes ran = alternating (2 * k) false ∧ atEnd ≠ [] ∧ Did r ran [] atEnd s t

section

variable {j k : ℕ} {s t u : CycleSession X}

theorem outcomes_append (ran ran' : List PhaseRun) :
    outcomes (ran ++ ran') = outcomes ran ++ outcomes ran' := List.map_append

theorem Done.done (h : Done r j s t) (h' : Done r k t u) : Done r (j + k) s u := by
  obtain ⟨ran, hran, hdid⟩ := h
  obtain ⟨ran', hran', hdid'⟩ := h'
  refine ⟨ran ++ ran', ?_, hdid.trans hdid'⟩
  rw [outcomes_append, hran, hran', alternating_append, Nat.mul_add]

theorem Done.broken (h : Done r j s t) (h' : Broken r k t u) : Broken r (j + k) s u := by
  obtain ⟨ran, hran, hdid⟩ := h
  obtain ⟨ran', left, m, failed, hm, hran', hdid'⟩ := h'
  refine ⟨ran ++ ran', left, 2 * j + m, failed, by omega, ?_, hdid.trans hdid'⟩
  rw [outcomes_append, hran, hran', alternating_append]

theorem Done.late (h : Done r j s t) (h' : Late r k t u) : Late r (j + k) s u := by
  obtain ⟨ran, hran, hdid⟩ := h
  obtain ⟨ran', atEnd, hran', hend, hdid'⟩ := h'
  refine ⟨ran ++ ran', atEnd, ?_, hend, hdid.trans hdid'⟩
  rw [outcomes_append, hran, hran', alternating_append, Nat.mul_add]

theorem Done.broken_of_lt (h : Done r j s t) (hlt : j < k) : Broken r k s t := by
  obtain ⟨ran, hran, hdid⟩ := h
  exact ⟨ran, [], 2 * j, false, by omega, hran, hdid⟩

theorem Broken.mono (h : Broken r j s t) (hle : j ≤ k) : Broken r k s t := by
  obtain ⟨ran, left, m, failed, hm, hrest⟩ := h
  exact ⟨ran, left, m, failed, by omega, hrest⟩

end

/-- How the first repetition ends that raises. -/
def RepetitionFails (r : CycleRun) (repetition : ℕ) (s t : CycleSession X) : Prop :=
  Broken r 1 s t ∨ if repetition = r.cycleCount.toNat then Late r 1 s t else Done r 1 s t

section

variable {repetition m : ℕ} {ran : List PhaseRun} {s t : CycleSession X}

theorem post_ask_bind {op : CycleOp} {x : CycleProg X PUnit} {Q : PUnit → CycleSession X → Prop}
    (hop : ∀ e, ¬CycleEvent.FailsAtEnd r (.asked op (some e)))
    (hran : outcomes ran = alternating m false) (hm : m < 2) (h : Did r ran [] [] s t)
    (hx : ∀ u, Did r ran [] [] s u →
      Post x Q (fun _ v ↦ RepetitionFails r repetition s v) u) :
    Post (do ask st op; x) Q (fun _ v ↦ RepetitionFails r repetition s v) t := by
  refine (post_bind _).mpr ((post_ask_of_not hop t).mono (fun _ u hu ↦ hx u (h.quiet hu)) ?_)
  intro e u hu
  exact Or.inl ⟨ran, [], m, false, hm, hran, h.quiet hu⟩

theorem post_runPhase_bind {ph : CyclePhase} {x : CycleProg X PUnit}
    {Q : PUnit → CycleSession X → Prop} (hran : outcomes ran = alternating m false) (hm : m < 2)
    (hph : ph = alternate m) (h : Did r ran [] [] s t)
    (hx : ∀ u ran', outcomes ran' = alternating (m + 1) false → Did r ran' [] [] s u →
      Post x Q (fun _ v ↦ RepetitionFails r repetition s v) u) :
    Post (do runPhase st r ph; x) Q (fun _ v ↦ RepetitionFails r repetition s v) t := by
  have hnext : alternating m false ++ [(ph, true)] = alternating (m + 1) false := by
    unfold alternating
    rw [List.range_succ, List.map_append, hph]
    simp
  have hfailed : alternating m false ++ [(ph, false)] = alternating m true := by
    unfold alternating
    rw [hph]
    simp
  refine (post_bind _).mpr ((post_runPhase ph t).mono ?_ ?_)
  · rintro _ u ⟨runId, hu⟩
    refine hx u _ ?_ (h.trans hu)
    rw [outcomes_append, hran]
    exact hnext
  · rintro e u (⟨left, hu⟩ | ⟨runId, hu⟩)
    · have hdid := h.trans hu
      rw [List.append_nil] at hdid
      exact Or.inl ⟨ran, left, m, false, hm, hran, hdid⟩
    · refine Or.inl ⟨_, [], m, true, hm, ?_, h.trans hu⟩
      rw [outcomes_append, hran]
      exact hfailed

end

/-- **One repetition.** -/
theorem post_runRepetition (repetition : ℕ) (s : CycleSession X) :
    Post (runRepetition st r repetition) (fun _ t ↦ Done r 1 s t)
      (fun _ t ↦ RepetitionFails r repetition s t) s := by
  have hstart : Did r [] [] [] s s := ⟨[], (List.append_nil _).symm, .nil⟩
  have hearly : ∀ what, what ≠ "complete" → ∀ e,
      ¬CycleEvent.FailsAtEnd r (.asked (.logRepetition repetition what) (some e)) :=
    fun _ hwhat _ h ↦ hwhat h.2
  have hnone : outcomes [] = alternating 0 false := rfl
  refine post_ask_bind (fun _ ↦ id) hnone (by decide) hstart fun t ht ↦ ?_
  refine post_ask_bind (hearly _ (by decide)) hnone (by decide) ht fun t ht ↦ ?_
  refine post_runPhase_bind hnone (by decide) rfl ht fun t ran hran ht ↦ ?_
  refine post_ask_bind (fun _ ↦ id) hran (by decide) ht fun t ht ↦ ?_
  refine post_ask_bind (hearly _ ?_) hran (by decide) ht fun t ht ↦ ?_
  · intro h
    have hhead := congrArg (fun s ↦ s.toList.head?) h
    simp [toString] at hhead
  refine post_ask_bind (fun _ ↦ id) hran (by decide) ht fun t ht ↦ ?_
  refine post_ask_bind (hearly _ (by decide)) hran (by decide) ht fun t ht ↦ ?_
  refine post_runPhase_bind hran (by decide) rfl ht fun t ran hran ht ↦ ?_
  -- Both phases are done; what is left is the line on it.
  refine (post_ask _ t).mono (fun _ u hu ↦ ⟨ran, hran, ht.quiet hu⟩) fun e u hu ↦ Or.inr ?_
  have hdid := ht.trans hu
  rw [List.append_nil] at hdid
  split
  · next hlast =>
    refine ⟨ran, _, hran, ?_, hdid⟩
    rw [List.filter_cons_of_pos (by simpa using ⟨hlast, rfl⟩)]
    exact List.cons_ne_nil _ _
  · next hlast =>
    rw [List.filter_cons_of_neg (by simpa using fun h ↦ hlast h.1)] at hdid
    exact ⟨ran, hran, hdid⟩

/-- The loop, from a repetition to the last. -/
theorem post_runRepetitions {first k : ℕ} (hlast : first + k = r.cycleCount.toNat + 1)
    (s : CycleSession X) :
    Post (runRepetitions st r (List.range' first k)) (fun _ t ↦ Done r k s t)
      (fun _ t ↦ Broken r k s t ∨ Late r k s t) s := by
  induction k generalizing first s with
  | zero => exact ⟨[], rfl, [], (List.append_nil _).symm, .nil⟩
  | succ k ih =>
    rw [List.range'_succ]
    refine (post_bind _).mpr ((post_runRepetition first s).mono (fun _ t ht ↦ ?_) fun e t ht ↦ ?_)
    · have hrest := ih (by omega : first + 1 + k = r.cycleCount.toNat + 1) t
      rw [Nat.add_comm k 1]
      exact hrest.mono (fun _ _ h ↦ ht.done h) fun _ _ h ↦ h.imp ht.broken ht.late
    · rcases ht with hbroken | hend
      · exact Or.inl (hbroken.mono (by omega))
      · split at hend
        · have hk : k = 0 := by omega
          rw [hk]
          exact Or.inr hend
        · exact Or.inl (hend.broken_of_lt (by omega))

/-- **The whole run**, by what it did. -/
theorem post_run (s : CycleSession X) :
    Post (run st r) (fun returned t ↦ returned = true ∧ Done r r.cycleCount.toNat s t)
      (fun _ t ↦ Broken r r.cycleCount.toNat s t ∨ Late r r.cycleCount.toNat s t) s := by
  have hloop := @post_runRepetitions _ st r 1 _ (Nat.add_comm 1 _) s
  refine (post_bind _).mpr ((post_handle _).mpr (hloop.mono (fun _ t ht ↦ ?_) fun e t ht ↦ ?_))
  · refine (post_bind _).mpr
      ((post_ask (r := r) .complete t).mono (fun _ u hu ↦ ?_) fun e u hu ↦ ?_)
    · obtain ⟨ran, hran, hdid⟩ := ht
      exact ⟨rfl, ran, hran, hdid.quiet hu⟩
    · refine Or.inr ?_
      obtain ⟨ran, hran, hdid⟩ := ht
      have hdid' := hdid.trans hu
      rw [List.append_nil] at hdid'
      exact ⟨ran, _, hran, List.cons_ne_nil _ _, hdid'⟩
  · -- The `except` clause runs no phase.
    have hquiet : ∀ u, Did r [] [] [] t u →
        Broken r r.cycleCount.toNat s u ∨ Late r r.cycleCount.toNat s u := by
      intro u hu
      rcases ht with ⟨ran, left, m, failed, hm, hran, hdid⟩ | ⟨ran, atEnd, hran, hend, hdid⟩
      · exact Or.inl ⟨ran, left, m, failed, hm, hran, hdid.quiet hu⟩
      · exact Or.inr ⟨ran, atEnd, hran, hend, hdid.quiet hu⟩
    refine (post_bind _).mpr ((post_ask_of_not (fun _ ↦ id) t).mono (fun _ u hu ↦ ?_)
      fun _ u hu ↦ hquiet u hu)
    refine (post_bind _).mpr ((post_ask_of_not (fun _ ↦ id) u).mono (fun _ v hv ↦ ?_)
      fun _ v hv ↦ hquiet v (hu.quietly hv))
    exact hquiet v (hu.quietly hv)

end Cycle

/-! ## When the law holds -/

section Law

variable {r : CycleRun} {lo hi m : ℕ} {failed : Bool} {ran : List PhaseRun} {left : List ℕ}
  {atEnd evs : List CycleEvent}

theorem alternate_of_getElem? {i : ℕ} {o : CyclePhase × Bool}
    (h : (Cycle.alternating m failed)[i]? = some o) :
    o.1 = alternate i ∧ (o.2 = false → i + 1 = (Cycle.alternating m failed).length) := by
  unfold Cycle.alternating at h ⊢
  rcases Nat.lt_or_ge i m with hi | hi
  · rw [List.getElem?_append_left (by simpa using hi), List.getElem?_map,
      List.getElem?_range hi] at h
    obtain rfl := Option.some.inj h
    exact ⟨rfl, nofun⟩
  · rw [List.getElem?_append_right (by simpa using hi)] at h
    cases failed with
    | false => cases h
    | true =>
      rw [if_pos rfl, List.getElem?_eq_some_iff] at h
      obtain ⟨hlt, hget⟩ := h
      simp only [List.length_map, List.length_range, List.length_singleton] at hlt
      have him : i = m := by omega
      subst him
      simp only [List.length_map, List.length_range, Nat.sub_self, List.getElem_cons_zero] at hget
      obtain rfl := hget
      exact ⟨rfl, fun _ ↦ by simp⟩

theorem Segment.opened_mem_iff (h : Segment r lo hi ran left atEnd evs) {runId : ℕ} :
    .opened runId ∈ evs ↔ runId ∈ ran.map PhaseRun.runId ++ left := by
  rw [← h.opened, List.mem_filterMap]
  constructor
  · exact fun hmem ↦ ⟨_, hmem, rfl⟩
  · rintro ⟨ev, hmem, hev⟩
    cases ev with
    | opened id =>
      rw [← Option.some.inj hev]
      exact hmem
    | _ => cases hev

theorem Segment.closed_mem_iff (h : Segment r lo hi ran left atEnd evs) {runId : ℕ} :
    .closed runId ∈ evs ↔ runId ∈ ran.map PhaseRun.runId := by
  rw [← h.closed, List.mem_filterMap]
  constructor
  · exact fun hmem ↦ ⟨_, hmem, rfl⟩
  · rintro ⟨ev, hmem, hev⟩
    cases ev with
    | closed id =>
      rw [← Option.some.inj hev]
      exact hmem
    | _ => cases hev

theorem Segment.closes_iff (h : Segment r lo hi ran left atEnd evs) :
    (∀ runId, .opened runId ∈ evs → .closed runId ∈ evs) ↔ left = [] := by
  constructor
  · intro hcloses
    refine List.eq_nil_iff_forall_not_mem.mpr fun runId hmem ↦ ?_
    have hran := h.closed_mem_iff.mp
      (hcloses runId (h.opened_mem_iff.mpr (List.mem_append_right _ hmem)))
    exact Nat.lt_irrefl runId ((List.pairwise_append.mp h.increasing).2.2 _ hran _ hmem)
  · rintro rfl runId hmem
    rw [h.opened_mem_iff, List.append_nil] at hmem
    exact h.closed_mem_iff.mpr hmem

/-- Of a segment with alternating phases, all of the law holds but that every storage is closed, and
what is returned. -/
theorem Segment.cycleLaw_exact (h : Segment r lo hi ran left atEnd evs) (hlo : r.parentRunId < lo)
    (hran : Cycle.outcomes ran = Cycle.alternating m failed) {returned : Bool} :
    CycleLaw r returned evs ↔ left = [] ∧ (returned = true ↔ ran ≠ [] ∧
      (∀ p ∈ ran, p.succeeded = true) ∧ (ran.length : ℤ) = 2 * r.cycleCount) := by
  refine ⟨fun hlaw ↦ ⟨h.closes_iff.mp hlaw.closes, ?_⟩, fun ⟨hleft, hreturns⟩ ↦ ?_⟩
  · have hreturns := hlaw.returns
    rwa [h.phases] at hreturns
  have houtcome : ∀ (i : ℕ) (p : PhaseRun), ran[i]? = some p →
      p.phase = alternate i ∧ (p.succeeded = false → i + 1 = ran.length) := by
    intro i p hp
    have hget : (Cycle.alternating m failed)[i]? = some (p.phase, p.succeeded) := by
      rw [← hran, Cycle.outcomes, List.getElem?_map, hp]
      rfl
    have hlength : (Cycle.alternating m failed).length = ran.length := by
      rw [← hran]
      exact List.length_map _
    rw [← hlength]
    exact alternate_of_getElem? hget
  constructor
  · intro i p hp
    rw [h.phases] at hp
    exact (houtcome i p hp).1
  · rw [h.phases]
    exact (List.pairwise_append.mp h.increasing).1.imp Nat.ne_of_lt
  · intro p hp
    rw [h.phases] at hp
    have hmem : p.runId ∈ ran.map PhaseRun.runId ++ left :=
      List.mem_append_left left (List.mem_map_of_mem hp)
    refine ⟨Nat.ne_of_gt (hlo.trans_le (h.fresh _ hmem).1), h.opened_mem_iff.mpr hmem, ?_⟩
    have hrow : p.row r ∈ evs.filterMap CycleEvent.started? := by
      rw [h.started]
      exact List.mem_map_of_mem hp
    obtain ⟨ev, hev, hstarted⟩ := List.mem_filterMap.mp hrow
    unfold CycleEvent.started? at hstarted
    split at hstarted
    · simp only [Option.some.injEq, PhaseRun.row, Prod.mk.injEq] at hstarted
      rw [← hstarted.1, ← hstarted.2.1, ← hstarted.2.2]
      exact hev
    · cases hstarted
  · intro i p hp
    rw [h.phases] at hp ⊢
    exact (houtcome i p hp).2
  · exact h.closes_iff.mpr hleft
  · rw [h.phases]
    exact hreturns

theorem Segment.meetsLaw_iff (h : Segment r lo hi ran left atEnd evs) :
    MeetsLaw r evs ↔ left = [] ∧ (1 ≤ r.cycleCount ↔ atEnd = []) := by
  have hleft : (∀ runId parentRunId testType e,
      .started runId parentRunId testType (some e) ∉ evs) ↔ left = [] := by
    rw [← h.startFailed, List.filterMap_eq_nil_iff]
    constructor
    · intro hnone ev hev
      cases ev with
      | started runId parentRunId testType raised =>
        cases raised with
        | none => rfl
        | some e => exact absurd hev (hnone runId parentRunId testType e)
      | _ => rfl
    · intro hnone runId parentRunId testType e hev
      cases hnone _ hev
  have hend : (∀ ev ∈ evs, ¬ev.FailsAtEnd r) ↔ atEnd = [] := by
    rw [← h.atEnd, List.filter_eq_nil_iff]
    simp only [decide_eq_true_eq]
  rw [MeetsLaw, hleft, hend]

theorem succeeded_iff (hran : Cycle.outcomes ran = Cycle.alternating m failed) :
    (∀ p ∈ ran, p.succeeded = true) ↔ failed = false := by
  have houtcomes : (∀ p ∈ ran, p.succeeded = true) ↔
      ∀ o ∈ Cycle.alternating m failed, o.2 = true := by
    rw [← hran, Cycle.outcomes, List.forall_mem_map]
  rw [houtcomes, Cycle.alternating]
  cases failed <;> simp

theorem length_eq (hran : Cycle.outcomes ran = Cycle.alternating m failed) :
    ran.length = m + failed.toNat := by
  have hlength : ran.length = (Cycle.alternating m failed).length := by
    rw [← hran]
    exact (List.length_map _).symm
  rw [hlength, Cycle.alternating]
  cases failed <;> simp

/-- All phases of every repetition were done, and there was something to repeat. -/
theorem all_done_iff (hran : Cycle.outcomes ran
      = Cycle.alternating (2 * r.cycleCount.toNat) false) :
    (ran ≠ [] ∧ (∀ p ∈ ran, p.succeeded = true) ∧ (ran.length : ℤ) = 2 * r.cycleCount)
      ↔ 1 ≤ r.cycleCount := by
  have hlength := length_eq hran
  rw [succeeded_iff hran, ← List.length_pos_iff_ne_nil, hlength]
  simp only [Bool.toNat_false, true_and]
  omega

end Law

/-- **When the law of `CycleSequence.run` holds.** Of every run, whatever the station does: exactly
if every row of a phase could be started, there is something to repeat, and nothing raises once
all phases are done. -/
theorem cycleLaw_iff {X : Type} (st : CycleStation X) (r : CycleRun) (others : ℕ) (world : X) :
    Post (Cycle.run st r)
      (fun returned t ↦ CycleLaw r returned t.trace ↔ MeetsLaw r t.trace)
      (fun _ t ↦ CycleLaw r false t.trace ↔ MeetsLaw r t.trace)
      (CycleSession.start r others world) := by
  have hlo : r.parentRunId < (CycleSession.start r others world).nextRunId :=
    Nat.lt_add_right others (Nat.lt_succ_self _)
  refine (Cycle.post_run _).mono ?_ ?_
  · rintro returned t ⟨rfl, ran, hran, evs, htrace, hseg⟩
    obtain rfl : t.trace = evs := htrace
    rw [hseg.cycleLaw_exact hlo hran, hseg.meetsLaw_iff, all_done_iff hran]
    simp
  · rintro e t (⟨ran, left, m, failed, hm, hran, evs, htrace, hseg⟩ |
      ⟨ran, atEnd, hran, hend, evs, htrace, hseg⟩)
    · obtain rfl : t.trace = evs := htrace
      have hnot : ¬(ran ≠ [] ∧ (∀ p ∈ ran, p.succeeded = true) ∧
          (ran.length : ℤ) = 2 * r.cycleCount) := by
        rintro ⟨-, hall, hlength⟩
        rw [length_eq hran, (succeeded_iff hran).mp hall] at hlength
        simp only [Bool.toNat_false, Nat.add_zero] at hlength
        omega
      have hcount : 1 ≤ r.cycleCount := by omega
      rw [hseg.cycleLaw_exact hlo hran, hseg.meetsLaw_iff]
      simp [hnot, hcount]
    · obtain rfl : t.trace = evs := htrace
      rw [hseg.cycleLaw_exact hlo hran, hseg.meetsLaw_iff, all_done_iff hran]
      simp [hend]

/-! ## Two runs without the law -/

/-- The law holds of a run. -/
def KeepsLaw {X : Type} (st : CycleStation X) (r : CycleRun) (others : ℕ) (world : X) : Prop :=
  Post (Cycle.run st r) (fun returned t ↦ CycleLaw r returned t.trace)
    (fun _ t ↦ CycleLaw r false t.trace) (CycleSession.start r others world)

/-- A station whose calls return, but for the row of a phase. -/
def stationWithRow (raised : Option Exc) : CycleStation Unit where
  openStorage := fun x ↦ (.ok 0, x)
  startRunSummary := fun _ _ _ x ↦ (raised, x)
  runPhase := fun _ _ x ↦ (none, x)
  perform := fun _ x ↦ (none, x)

/-- The recipe of the group `B1` with a count of 0. -/
def groupB1WithoutCycles : ValidatorConfig ℚ :=
  { groupB1 (.number 1 "1.0") with
    recipes := Dict.empty.insert "B1" {
      batteryType := some "HUB"
      testSetpoints := some (Dict.assign [("charge_current_a", .number 1 "1.0"),
        ("charge_voltage_v", .number (21 / 5) "4.2"),
        ("discharge_current_a", .number 1 "1.0"),
        ("discharge_cutoff_v", .number 3 "3.0"),
        ("cycle_count", .number 0 "0")] Dict.empty) } }

/-- A full disk leaves the storage of the first phase open; and a count of 0, which is accepted,
returns `True` for nothing. -/
theorem not_keepsLaw_diskFull :
    ¬KeepsLaw (stationWithRow (some ⟨.sqliteError, "database or disk is full"⟩)) ⟨7, 1, 0⟩ 0 () ∧
      (validateGroupTestConfig groupB1WithoutCycles "B1").toOption.bind
        (fun accepted ↦ accepted.testSetpoints.get? "cycle_count") = some (.number 0 "0") ∧
      ¬KeepsLaw (stationWithRow none) ⟨7, 0, 0⟩ 0 () := by
  refine ⟨fun h ↦ ?_, by decide +kernel, fun h ↦ ?_⟩
  · have hthrown : ((Cycle.run (stationWithRow (some ⟨.sqliteError, "database or disk is full"⟩))
        ⟨7, 1, 0⟩ (CycleSession.start ⟨7, 1, 0⟩ 0 ())).thrown.map fun t ↦
          decide (.opened 8 ∈ t.trace ∧ .closed 8 ∉ t.trace)) = some true := by decide +kernel
    obtain ⟨e, t, hrun, ht⟩ := Outcome.exists_of_thrown hthrown
    have hlaw := (post_of_error hrun).mp h
    obtain ⟨hopened, hclosed⟩ := of_decide_eq_true ht
    exact hclosed (hlaw.closes 8 hopened)
  · have hresult : Cycle.run (stationWithRow none) ⟨7, 0, 0⟩ (CycleSession.start ⟨7, 0, 0⟩ 0 ())
        = .ok true ⟨(), 8, [.asked .complete none]⟩ := rfl
    have hlaw := (post_of_ok hresult).mp h
    exact (hlaw.returns.mp rfl).1 rfl

end Nipxi
