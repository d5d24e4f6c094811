import Mathlib.Data.List.Infix
import Nipxi.Scripts.Timeline

/-!
# The incident summary of an export

`_build_incident_summary` with `_testing_continued_after_fault` and `_build_narrative`: a digest of
the run, its safety section and its event log. It speaks of a primary fault, the first raised, and
of whether an operator acknowledged; but for the latter it counts the acknowledged faults of the
run. So the digest is right about its primary fault exactly if that fault is acknowledged, or no
fault is (`speaksOfPrimary_iff`).
-/

namespace Nipxi

open Collections

/-! ## The digest -/

/-- The columns of a `run_summary` row the digest reads. -/
structure DigestRun where
  runId : Option (List Char)
  testType : Option (List Char)
  stationId : Option (List Char)
  stationName : Option (List Char)
  result : Option (List Char)
  stopReason : Option (List Char)
  durationS : Option ℚ

/-- How a column is shown in a text. -/
def shownColumn (value : Option (List Char)) : List Char := value.getD "None".toList

/-- `ROOT_CAUSE_CAVEAT`. -/
def ROOT_CAUSE_CAVEAT : String :=
  "verification_result describes the failure mode observed (what the SMU readback " ++
    "reported), not a diagnosis of the underlying physical cause -- STILL_ENABLED means the " ++
    "output was electrically confirmed on, not why the disable command failed to take " ++
    "effect (a driver fault, a stuck relay, and a firmware hang would all look identical " ++
    "from this field alone)."

/-- `primary_fault.get("acknowledged_at") or primary_fault.get("raised_at")`. A time is a text that
is never empty, so the first is taken if it is there. -/
def FaultEntry.referenceTime (primary : FaultEntry) : ℕ :=
  primary.acknowledgedAt.getD primary.raisedAt

/-- `_testing_continued_after_fault`. -/
def testingContinuedAfterFault (rows : List EventRow) : Option FaultEntry → Bool
  | none => false
  | some primary => rows.any fun row ↦ decide (primary.referenceTime < row.timestamp)

/-- The label of a fault in the narrative, where an empty result counts as none. -/
def FaultEntry.label (primary : FaultEntry) : List Char :=
  match primary.verificationResult with
  | none | some [] => "UNKNOWN".toList
  | some result => result.map Char.toUpper

/-- The clause on the acknowledgement. -/
def ackClause (operatorAcknowledged : Bool) : String :=
  if operatorAcknowledged then "Operator acknowledged." else "NOT acknowledged."

/-- The clause on the testing. -/
def continuedClause (testingContinued : Bool) : String :=
  if testingContinued then "Testing continued afterward." else "Testing did not continue."

/-- `_build_narrative`. -/
def buildNarrative (run : DigestRun) (primary : Option FaultEntry)
    (operatorAcknowledged testingContinued telemetryAvailable : Bool) : List Char :=
  if telemetryAvailable then
    match primary with
    | none => "Run ".toList ++ shownColumn run.runId ++ " (".toList ++ shownColumn run.testType ++
        ") completed with result=".toList ++ shownColumn run.result ++ ", stop_reason=".toList ++
        shownColumn run.stopReason ++ ".".toList
    | some primary => "SAFETY FAULT: Output could not be verified OFF (".toList ++
        (primary.label ++ ("). ".toList ++ (ackClause operatorAcknowledged).toList ++
          " ".toList ++ (continuedClause testingContinued).toList))
  else "Run ".toList ++ shownColumn run.runId ++ " (".toList ++ shownColumn run.testType ++
    "): result=".toList ++ shownColumn run.result ++ ", stop_reason=".toList ++
    shownColumn run.stopReason ++ (". Safety fault detail unavailable -- " ++
      "telemetry database not accessible for this run.").toList

/-- What `_build_incident_summary` returns. -/
structure IncidentSummary where
  runId : Option (List Char)
  stationId : Option (List Char)
  stationName : Option (List Char)
  result : Option (List Char)
  stopReason : Option (List Char)
  durationS : Option ℚ
  finalExecutionState : Option (List Char)
  safetyFaultCount : Option ℕ
  acknowledgedFaultCount : Option ℕ
  operatorAcknowledged : Option Bool
  testingContinuedAfterFault : Option Bool
  primaryFailureMode : Option (List Char)
  primaryDevice : Option (List Char)
  additionalFaultCount : Option ℕ
  rootCauseCaveat : Option String
  narrative : List Char

/-- `_build_incident_summary`, with no section where the telemetry is not available. -/
def buildIncidentSummary (run : DigestRun) (stateRows : List StationStateRow)
    (safety : Option SafetySection) (rows : List EventRow) (telemetryAvailable : Bool) :
    IncidentSummary :=
  let primary := safety.bind fun s ↦ s.faultTimeline.head?
  let operatorAcknowledged := safety.map fun s ↦ decide (0 < s.acknowledgedCount)
  let testingContinued := safety.map fun _ ↦ Nipxi.testingContinuedAfterFault rows primary
  { runId := run.runId
    stationId := run.stationId
    stationName := run.stationName
    result := run.result
    stopReason := run.stopReason
    durationS := run.durationS
    finalExecutionState := stateRows.getLast?.map (·.state)
    safetyFaultCount := safety.map (·.faultCount)
    acknowledgedFaultCount := safety.map (·.acknowledgedCount)
    operatorAcknowledged := operatorAcknowledged
    testingContinuedAfterFault := testingContinued
    primaryFailureMode := primary.bind (·.verificationResult)
    primaryDevice := primary.bind (·.deviceName)
    additionalFaultCount := safety.map (·.faultCount - 1)
    rootCauseCaveat := primary.map fun _ ↦ ROOT_CAUSE_CAVEAT
    narrative := buildNarrative run primary (operatorAcknowledged.getD false)
      (testingContinued.getD false) telemetryAvailable }

/-- The digest of a run whose event log is available. -/
def digest (run : DigestRun) (stateRows : List StationStateRow) (rows : List EventRow) :
    IncidentSummary :=
  buildIncidentSummary run stateRows (some (buildSafetySection rows)) rows true

/-! ## What the event log says -/

/-- The row raises a fault. -/
def EventRow.Raises (row : EventRow) : Prop :=
  (parseSafetyFaultEvent row.message).get? eventTypeField = some safetyFaultRaised

/-- The fault id of a row that raises a fault. -/
def EventRow.faultId (row : EventRow) : Option (List Char) :=
  (parseSafetyFaultEvent row.message).get? faultIdField

/-- The row acknowledges the fault with the id. -/
def EventRow.Acknowledges (row : EventRow) (id : Option (List Char)) : Prop :=
  (parseSafetyFaultEvent row.message).get? eventTypeField = some safetyFaultAcknowledged ∧
    (parseSafetyFaultEvent row.message).get? "acknowledges_fault_id".toList = id

/-- The first row that raises a fault. -/
def IsPrimary (rows : List EventRow) (primary : EventRow) : Prop :=
  primary.Raises ∧ ∃ before after, rows = before ++ primary :: after ∧
    ∀ row ∈ before, ¬row.Raises

/-- Some row acknowledges the fault that `raised` raises. -/
def IsAcknowledged (rows : List EventRow) (raised : EventRow) : Prop :=
  ∃ row ∈ rows, row.Acknowledges raised.faultId

/-- The time is that of an acknowledgement of the fault, or of its raising if there is none. -/
def OwnTime (rows : List EventRow) (raised : EventRow) (time : ℕ) : Prop :=
  (∃ row ∈ rows, row.Acknowledges raised.faultId ∧ row.timestamp = time) ∨
    (¬IsAcknowledged rows raised ∧ raised.timestamp = time)

/-- `"Operator acknowledged." in narrative`. -/
def SaysAcknowledged (narrative : List Char) : Prop :=
  "Operator acknowledged.".toList <:+: narrative

/-- What the digest says about acknowledgement and testing is about its primary fault. -/
def SpeaksOfPrimary (rows : List EventRow) (summary : IncidentSummary) : Prop :=
  ∀ primary, IsPrimary rows primary →
    (summary.operatorAcknowledged = some true ↔ IsAcknowledged rows primary) ∧
    (SaysAcknowledged summary.narrative ↔ IsAcknowledged rows primary) ∧
    ∃ time, OwnTime rows primary time ∧
      (summary.testingContinuedAfterFault = some true ↔ ∃ row ∈ rows, time < row.timestamp)

/-! ## The section and the event log -/

section Section

variable {rows : List EventRow} {row primary : EventRow} {id : Option (List Char)}

theorem exists_faultEntry_of_raises (h : row.Raises)
    (acknowledged : Dict (Option (List Char)) ℕ) :
    ∃ entry, faultEntry acknowledged row = some entry ∧ entry.raisedAt = row.timestamp ∧
      entry.acknowledgedAt = acknowledged.get? row.faultId :=
  ⟨_, if_pos h, rfl, rfl⟩

theorem faultEntry_eq_none (h : ¬row.Raises) (acknowledged : Dict (Option (List Char)) ℕ) :
    faultEntry acknowledged row = none :=
  if_neg h

theorem raises_of_faultEntry {acknowledged : Dict (Option (List Char)) ℕ} {entry : FaultEntry}
    (h : faultEntry acknowledged row = some entry) : row.Raises := by
  by_contra hno
  rw [faultEntry_eq_none hno] at h
  cases h

/-- The pairs the acknowledgements are read from. -/
theorem exists_acknowledges_of_get? {time : ℕ} (h : (acknowledgements rows).get? id = some time) :
    ∃ row ∈ rows, row.Acknowledges id ∧ row.timestamp = time := by
  have hmem := (Dict.mem_of_mem_assign (Dict.mem_items_iff.mpr h)).resolve_right List.not_mem_nil
  obtain ⟨row, hrow, hread⟩ := List.mem_filterMap.mp hmem
  simp only [Option.ite_none_right_eq_some, Option.some.injEq, Prod.mk.injEq] at hread
  exact ⟨row, hrow, ⟨hread.1, hread.2.1⟩, hread.2.2⟩

theorem isSome_acknowledgements_iff :
    ((acknowledgements rows).get? id).isSome = true ↔ ∃ row ∈ rows, row.Acknowledges id := by
  constructor
  · intro h
    obtain ⟨time, htime⟩ := Option.isSome_iff_exists.mp h
    obtain ⟨row, hrow, hack, -⟩ := exists_acknowledges_of_get? htime
    exact ⟨row, hrow, hack⟩
  · rintro ⟨row, hrow, htype, hid⟩
    rw [Option.isSome_iff_exists, ← Dict.mem_keys_iff, acknowledgements, Dict.mem_keys_assign]
    have hread : (if (parseSafetyFaultEvent row.message).get? eventTypeField =
          some safetyFaultAcknowledged then
        some ((parseSafetyFaultEvent row.message).get? "acknowledges_fault_id".toList,
          row.timestamp)
      else none) = some (id, row.timestamp) := by
      simp only [htype, if_true, hid]
    exact .inl (List.mem_map.mpr ⟨_, List.mem_filterMap.mpr ⟨row, hrow, hread⟩, rfl⟩)

theorem acknowledgedCount_pos_iff : 0 < (buildSafetySection rows).acknowledgedCount ↔
    ∃ raised ∈ rows, raised.Raises ∧ IsAcknowledged rows raised := by
  have hcount : 0 < (buildSafetySection rows).acknowledgedCount ↔
      ∃ entry ∈ rows.filterMap (faultEntry (acknowledgements rows)),
        entry.acknowledgedAt.isSome = true := by
    rw [buildSafetySection, List.length_pos_iff_exists_mem]
    simp only [List.mem_filter]
  rw [hcount]
  constructor
  · rintro ⟨entry, hentry, hack⟩
    obtain ⟨raised, hraised, hread⟩ := List.mem_filterMap.mp hentry
    have hraises := raises_of_faultEntry hread
    obtain ⟨entry', hread', -, hat⟩ := exists_faultEntry_of_raises hraises (acknowledgements rows)
    obtain rfl := Option.some.inj (hread.symm.trans hread')
    rw [hat] at hack
    exact ⟨raised, hraised, hraises, isSome_acknowledgements_iff.mp hack⟩
  · rintro ⟨raised, hraised, hraises, hack⟩
    obtain ⟨entry, hread, -, hat⟩ := exists_faultEntry_of_raises hraises (acknowledgements rows)
    refine ⟨entry, List.mem_filterMap.mpr ⟨raised, hraised, hread⟩, ?_⟩
    rw [hat]
    exact isSome_acknowledgements_iff.mpr hack

theorem head?_faultTimeline (h : IsPrimary rows primary) :
    ∃ entry, (buildSafetySection rows).faultTimeline.head? = some entry ∧
      entry.raisedAt = primary.timestamp ∧
        entry.acknowledgedAt = (acknowledgements rows).get? primary.faultId := by
  obtain ⟨hraises, before, after, hsplit, hbefore⟩ := h
  obtain ⟨entry, hread, hat, hack⟩ := exists_faultEntry_of_raises hraises (acknowledgements rows)
  refine ⟨entry, ?_, hat, hack⟩
  have htimeline : (buildSafetySection rows).faultTimeline
      = rows.filterMap (faultEntry (acknowledgements rows)) := rfl
  have hnone : before.filterMap (faultEntry (acknowledgements rows)) = [] :=
    List.filterMap_eq_nil_iff.mpr fun row hrow ↦ faultEntry_eq_none (hbefore row hrow) _
  rw [htimeline]
  generalize acknowledgements rows = acknowledged at hnone hread
  rw [hsplit, List.filterMap_append, hnone, List.nil_append, List.filterMap_cons_some hread]
  rfl

theorem ownTime_referenceTime {entry : FaultEntry} (hraised : entry.raisedAt = primary.timestamp)
    (hack : entry.acknowledgedAt = (acknowledgements rows).get? primary.faultId) :
    OwnTime rows primary entry.referenceTime := by
  rw [FaultEntry.referenceTime, hack]
  cases hget : (acknowledgements rows).get? primary.faultId with
  | some time => exact .inl (exists_acknowledges_of_get? hget)
  | none =>
    refine .inr ⟨fun hacked ↦ ?_, hraised.symm⟩
    rw [IsAcknowledged, ← isSome_acknowledgements_iff, hget] at hacked
    cases hacked

end Section

/-! ## The narrative -/

/-- Two letters that stand next to each other stand so in one part, or on either side of the
border. -/
theorem pair_infix_append {a b : Char} {l l' : List Char} (h : [a, b] <:+: l ++ l') :
    [a, b] <:+: l ∨ [a, b] <:+: l' ∨ l.getLast? = some a ∧ l'.head? = some b := by
  induction l with
  | nil => exact .inr (.inl h)
  | cons c l ih =>
    rw [List.cons_append, List.infix_cons_iff] at h
    rcases h with h | h
    · cases l with
      | nil =>
        obtain ⟨rfl, hb⟩ := List.cons_prefix_cons.mp h
        cases l' with
        | nil => exact absurd (List.prefix_nil.mp hb) (List.cons_ne_nil _ _)
        | cons d l' =>
          obtain ⟨rfl, -⟩ := List.cons_prefix_cons.mp hb
          exact .inr (.inr ⟨rfl, rfl⟩)
      | cons d l =>
        obtain ⟨rfl, hb⟩ := List.cons_prefix_cons.mp h
        obtain ⟨rfl, -⟩ := List.cons_prefix_cons.mp hb
        exact .inl ⟨[], l, rfl⟩
    · rcases ih h with h | h | ⟨hlast, hhead⟩
      · exact .inl (List.infix_cons h)
      · exact .inr (.inl h)
      · cases l with
        | nil => cases hlast
        | cons d l => exact .inr (.inr ⟨hlast, hhead⟩)

theorem toUpper_ne_p (c : Char) : c.toUpper ≠ 'p' := by
  intro h
  delta Char.toUpper at h
  split at h
  · next hc =>
    have hlow : 97 ≤ c.val.toNat := UInt32.le_iff_toNat_le.mp hc.1
    have hhigh : c.val.toNat ≤ 122 := UInt32.le_iff_toNat_le.mp hc.2
    have hval := congrArg Char.val h
    dsimp only at hval
    have hnat := congrArg UInt32.toNat hval
    have hshift : ('A'.val - 'a'.val).toNat = 4294967264 := by decide
    have hp : 'p'.val.toNat = 112 := by decide
    rw [UInt32.toNat_add, hshift, hp] at hnat
    omega
  · next hc =>
    subst h
    exact hc (by decide)

/-- No label has the letter of the clause on the acknowledgement. -/
theorem FaultEntry.not_mem_label (primary : FaultEntry) : 'p' ∉ primary.label := by
  rw [FaultEntry.label]
  split
  · decide
  · decide
  · rw [List.mem_map]
    rintro ⟨c, -, hc⟩
    exact toUpper_ne_p c hc

/-- What follows the label in the narrative of a fault. -/
def closingClauses (operatorAcknowledged testingContinued : Bool) : List Char :=
  "). ".toList ++ (ackClause operatorAcknowledged).toList ++ " ".toList ++
    (continuedClause testingContinued).toList

/-- The letters the clause on the acknowledgement begins with stand in no other clause. -/
theorem pair_infix_closingClauses (operatorAcknowledged testingContinued : Bool) :
    ['O', 'p'] <:+: closingClauses operatorAcknowledged testingContinued ↔
      operatorAcknowledged = true := by
  cases operatorAcknowledged <;> cases testingContinued <;> decide +kernel

theorem acknowledged_infix_closingClauses (testingContinued : Bool) :
    "Operator acknowledged.".toList <:+: closingClauses true testingContinued := by
  cases testingContinued <;> decide +kernel

theorem saysAcknowledged_buildNarrative (run : DigestRun) (primary : FaultEntry)
    (operatorAcknowledged testingContinued : Bool) :
    SaysAcknowledged (buildNarrative run (some primary) operatorAcknowledged testingContinued
      true) ↔ operatorAcknowledged = true := by
  have hnarrative : buildNarrative run (some primary) operatorAcknowledged testingContinued true =
      "SAFETY FAULT: Output could not be verified OFF (".toList ++
        (primary.label ++ closingClauses operatorAcknowledged testingContinued) := rfl
  rw [SaysAcknowledged, hnarrative]
  constructor
  · intro h
    have hpair : ['O', 'p'] <:+: "Operator acknowledged.".toList := by decide +kernel
    rcases pair_infix_append (hpair.trans h) with hpair | hpair | ⟨hlast, -⟩
    · exact absurd hpair (by decide +kernel)
    · rcases pair_infix_append hpair with hpair | hpair | ⟨-, hhead⟩
      · have hmem := hpair.subset (List.mem_cons_of_mem 'O' (List.mem_singleton_self 'p'))
        exact absurd hmem primary.not_mem_label
      · exact (pair_infix_closingClauses _ _).mp hpair
      · have hparen : (closingClauses operatorAcknowledged testingContinued).head? = some ')' := rfl
        rw [hparen] at hhead
        exact absurd hhead (by decide)
    · exact absurd hlast (by decide +kernel)
  · rintro rfl
    exact (acknowledged_infix_closingClauses testingContinued).trans
      ((List.suffix_append _ _).isInfix.trans (List.suffix_append _ _).isInfix)

/-! ## The digest and the primary fault -/

/-- `_build_incident_summary` speaks of the primary fault exactly if that fault is acknowledged, or
no fault is: it takes the number of all acknowledged faults for the answer about the one. -/
theorem speaksOfPrimary_iff (run : DigestRun) (stateRows : List StationStateRow)
    (rows : List EventRow) : SpeaksOfPrimary rows (digest run stateRows rows) ↔
      ∀ primary, IsPrimary rows primary → IsAcknowledged rows primary ∨
        ∀ raised ∈ rows, raised.Raises → ¬IsAcknowledged rows raised := by
  have hcount : (digest run stateRows rows).operatorAcknowledged = some true ↔
      ∃ raised ∈ rows, raised.Raises ∧ IsAcknowledged rows raised := by
    rw [← acknowledgedCount_pos_iff]
    exact Option.some_inj.trans decide_eq_true_iff
  constructor
  · intro hspeaks primary hprimary
    obtain ⟨hack, -⟩ := hspeaks primary hprimary
    -- the digest counts acknowledgements of any fault, and speaks of the primary one
    by_cases hacked : IsAcknowledged rows primary
    · exact .inl hacked
    · refine .inr fun raised hraised hraises hother ↦ hacked ?_
      exact hack.mp (hcount.mpr ⟨raised, hraised, hraises, hother⟩)
  · intro hprimaries primary hprimary
    obtain ⟨entry, hhead, hraisedAt, hackAt⟩ := head?_faultTimeline hprimary
    have hmem : primary ∈ rows := by
      obtain ⟨-, before, after, rfl, -⟩ := hprimary
      exact List.mem_append_right _ List.mem_cons_self
    have hack : (digest run stateRows rows).operatorAcknowledged = some true ↔
        IsAcknowledged rows primary := by
      rw [hcount]
      constructor
      · rintro ⟨raised, hraised, hraises, hother⟩
        exact (hprimaries primary hprimary).resolve_right fun hnone ↦
          hnone raised hraised hraises hother
      · exact fun hacked ↦ ⟨primary, hmem, hprimary.1, hacked⟩
    refine ⟨hack, ?_, entry.referenceTime, ownTime_referenceTime hraisedAt hackAt, ?_⟩
    · have hnarrative : (digest run stateRows rows).narrative = buildNarrative run
          (buildSafetySection rows).faultTimeline.head?
          (decide (0 < (buildSafetySection rows).acknowledgedCount))
          (testingContinuedAfterFault rows (buildSafetySection rows).faultTimeline.head?)
          true := rfl
      rw [hnarrative, hhead, saysAcknowledged_buildNarrative, ← hack]
      exact Option.some_inj.symm
    · have hcontinued : (digest run stateRows rows).testingContinuedAfterFault =
          some (testingContinuedAfterFault rows
            (buildSafetySection rows).faultTimeline.head?) := rfl
      rw [hcontinued, hhead, Option.some_inj, testingContinuedAfterFault, List.any_eq_true]
      simp only [decide_eq_true_iff]

/-! ## Two faults of which one is acknowledged -/

/-- A row of the event log of the run. -/
def loggedFault (timestamp : ℕ) (message : String) : EventRow where
  runId := ['R']
  timestamp := timestamp
  level := "CRITICAL".toList
  source := "safety".toList
  channel := none
  message := message.toList

/-- A run in which `f1` and `f2` are raised, and `f2` alone is acknowledged. -/
def secondAcknowledged : List EventRow :=
  [loggedFault 1 "EVENT_TYPE=SAFETY_FAULT_RAISED FAULT_ID=f1 DEVICE_NAME=SMU",
    loggedFault 2 "EVENT_TYPE=SAFETY_FAULT_RAISED FAULT_ID=f2 DEVICE_NAME=SMU",
    loggedFault 3 "EVENT_TYPE=SAFETY_FAULT_ACKNOWLEDGED ACKNOWLEDGES_FAULT_ID=f2"]

theorem not_speaksOfPrimary_secondAcknowledged :
    ¬∀ run stateRows rows, SpeaksOfPrimary rows (digest run stateRows rows) := by
  intro h
  have hprimary : IsPrimary secondAcknowledged
      (loggedFault 1 "EVENT_TYPE=SAFETY_FAULT_RAISED FAULT_ID=f1 DEVICE_NAME=SMU") :=
    ⟨by unfold EventRow.Raises; decide +kernel, [], _, rfl, List.forall_mem_nil _⟩
  obtain ⟨hack, -⟩ := h ⟨none, none, none, none, none, none, none⟩ [] secondAcknowledged _ hprimary
  have hsummary : (digest ⟨none, none, none, none, none, none, none⟩ []
      secondAcknowledged).operatorAcknowledged = some true := by decide +kernel
  have hnone : ¬IsAcknowledged secondAcknowledged
      (loggedFault 1 "EVENT_TYPE=SAFETY_FAULT_RAISED FAULT_ID=f1 DEVICE_NAME=SMU") := by
    unfold IsAcknowledged EventRow.Acknowledges
    decide +kernel
  exact hnone (hack.mp hsummary)

end Nipxi
