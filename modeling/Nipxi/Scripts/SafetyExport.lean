import Nipxi.Utils.EventFormat
import Mathlib.Data.List.Perm.Subperm

/-!
# Safety faults and their export

`report_safety_fault` writes a fault to two tables: to `event_log`, as a formatted event and only
through the storage object of a caller that has one, and to `raw_hardware_log`, always. The safety
section of an export is built from the event log of the run alone.

## Main results

* `exported_iff`: every fault reported for a run is in the run's safety section exactly if each of
  them was reported with a storage object of that run and its message is read back as it was meant.
* `readsBack_of_plainText`: it is, if no text of the fault contains an upper-case key.
-/

namespace Nipxi

open Collections

/-! ## Reporting -/

/-- Text of an integer. -/
def intText (n : ℤ) : List Char :=
  match n with
  | .ofNat k => Nat.toDigits 10 k
  | .negSucc k => '-' :: Nat.toDigits 10 (k + 1)

/-- The arguments of `report_safety_fault`, the identifier it makes up, and the time. A storage
object is given by the run id it writes under. -/
structure SafetyFaultReport where
  faultId : List Char
  reason : List Char
  sourceMethod : List Char
  context : List Char
  deviceName : List Char
  deviceType : List Char
  position : Option ℤ
  runId : Option (List Char)
  verificationResult : Option (List Char)
  storage : Option (List Char)
  timestamp : ℕ
  deriving DecidableEq

/-- A row of `event_log`. -/
structure EventRow where
  runId : List Char
  timestamp : ℕ
  level : List Char
  source : List Char
  channel : Option ℤ
  message : List Char
  deriving DecidableEq

/-- A row of `raw_hardware_log`, as the two writers of this module fill it. -/
structure RawHardwareRow where
  runId : Option (List Char)
  position : Option ℤ
  deviceType : List Char
  deviceName : List Char
  command : List Char
  response : List Char
  success : Bool
  errorType : Option (List Char)
  errorMessage : Option (List Char)
  faultId : List Char
  linkedEventLogId : Option ℕ
  deriving DecidableEq

def safetyFaultRaised : List Char := "SAFETY_FAULT_RAISED".toList

def safetyFaultAcknowledged : List Char := "SAFETY_FAULT_ACKNOWLEDGED".toList

def faultIdField : List Char := "fault_id".toList

/-- The fields of a raised fault, in the order in which they are written. -/
def SafetyFaultReport.fields (f : SafetyFaultReport) : List EventField :=
  [(faultIdField, some f.faultId), ("device_name".toList, some f.deviceName),
    ("device_type".toList, some f.deviceType), ("position".toList, f.position.map intText),
    ("source_method".toList, some f.sourceMethod), ("context".toList, some f.context),
    ("verification_result".toList, f.verificationResult), ("reason".toList, some f.reason)]

def SafetyFaultReport.message (f : SafetyFaultReport) : List Char :=
  formatEvent safetyFaultRaised f.fields

/-- A call that writes to the event log: the two of this module, and any other. -/
inductive SafetyCall
  | report (f : SafetyFaultReport)
  | acknowledge (faultId : List Char) (storage runId : Option (List Char)) (timestamp : ℕ)
  | logEvent (row : EventRow)
  deriving DecidableEq

/-- The row a call adds to the event log. -/
def SafetyCall.eventRow? : SafetyCall → Option EventRow
  | .report f => f.storage.map fun runId ↦
      ⟨runId, f.timestamp, "CRITICAL".toList, "SAFETY".toList, f.position, f.message⟩
  | .acknowledge faultId storage _ timestamp => storage.map fun runId ↦
      ⟨runId, timestamp, "INFO".toList, "SAFETY".toList, none,
        formatEvent safetyFaultAcknowledged [("acknowledges_fault_id".toList, some faultId)]⟩
  | .logEvent row => some row

/-- The row a call adds to the hardware log, with the identifier of its event row. -/
def SafetyCall.rawRow? (eventLogId : Option ℕ) : SafetyCall → Option RawHardwareRow
  | .report f => some
      { runId := f.runId
        position := f.position
        deviceType := f.deviceType
        deviceName := f.deviceName
        command := "safety_fault_raised".toList
        response := f.reason
        success := false
        errorType := f.verificationResult
        errorMessage := some f.reason
        faultId := f.faultId
        linkedEventLogId := eventLogId }
  | .acknowledge faultId _ runId _ => some
      { runId := runId
        position := none
        deviceType := "SAFETY".toList
        deviceName := "OPERATOR".toList
        command := "operator_acknowledged_safety_fault".toList
        response := "acknowledged".toList
        success := true
        errorType := none
        errorMessage := none
        faultId := faultId
        linkedEventLogId := eventLogId }
  | .logEvent _ => none

/-- The two tables. -/
structure TelemetryLogs where
  eventLog : List EventRow
  rawHardwareLog : List RawHardwareRow

/-- One call, where everything it writes is persisted. -/
def TelemetryLogs.call (logs : TelemetryLogs) (c : SafetyCall) : TelemetryLogs :=
  { eventLog := logs.eventLog ++ c.eventRow?.toList
    rawHardwareLog := logs.rawHardwareLog ++
      (c.rawRow? (c.eventRow?.map fun _ ↦ logs.eventLog.length + 1)).toList }

/-- The tables of a new telemetry database after a sequence of calls. -/
def logsAfter (calls : List SafetyCall) : TelemetryLogs :=
  calls.foldl TelemetryLogs.call ⟨[], []⟩

/-! ## The safety section -/

/-- Decimal digits with single underscores between them, as `int` reads them. -/
def readDigits : List Char → ℕ → Bool → Option ℕ
  | [], n, afterDigit => if afterDigit then some n else none
  | c :: rest, n, afterDigit =>
    if c.isDigit then readDigits rest (n * 10 + (c.toNat - '0'.toNat)) true
    else if c = '_' ∧ afterDigit then readDigits rest n false
    else none

/-- `int` of a text. -/
def readInt (text : List Char) : Option ℤ :=
  match stripText text with
  | '-' :: digits => (readDigits digits 0 false).map fun n ↦ -(n : ℤ)
  | '+' :: digits => (readDigits digits 0 false).map Int.ofNat
  | digits => (readDigits digits 0 false).map Int.ofNat

/-- `parse_safety_fault_event`, without the conversion of the position: the fields of a message
about a safety fault, and none of any other. -/
def parseSafetyFaultEvent (message : List Char) : Dict (List Char) (List Char) :=
  let fields := parseEventFields message
  if fields.get? eventTypeField = some safetyFaultRaised ∨
      fields.get? eventTypeField = some safetyFaultAcknowledged then fields
  else Dict.empty

/-- A position is a number where it can be read as one. -/
def readPosition (text : List Char) : ℤ ⊕ List Char :=
  match readInt text with
  | some n => .inl n
  | none => .inr text

/-- An entry of the fault timeline. -/
structure FaultEntry where
  faultId : Option (List Char)
  raisedAt : ℕ
  acknowledgedAt : Option ℕ
  deviceName : Option (List Char)
  deviceType : Option (List Char)
  position : Option (ℤ ⊕ List Char)
  context : Option (List Char)
  sourceMethod : Option (List Char)
  reason : Option (List Char)
  verificationResult : Option (List Char)
  deriving DecidableEq

/-- The fault a row raises, with the acknowledgements by fault. -/
def faultEntry (acknowledged : Dict (Option (List Char)) ℕ) (row : EventRow) : Option FaultEntry :=
  let fields := parseSafetyFaultEvent row.message
  if fields.get? eventTypeField = some safetyFaultRaised then
    some
      { faultId := fields.get? faultIdField
        raisedAt := row.timestamp
        acknowledgedAt := acknowledged.get? (fields.get? faultIdField)
        deviceName := fields.get? "device_name".toList
        deviceType := fields.get? "device_type".toList
        position := (fields.get? "position".toList).map readPosition
        context := fields.get? "context".toList
        sourceMethod := fields.get? "source_method".toList
        reason := fields.get? "reason".toList
        verificationResult := fields.get? "verification_result".toList }
  else none

/-- When the faults were acknowledged; the last acknowledgement of a fault counts. -/
def acknowledgements (rows : List EventRow) : Dict (Option (List Char)) ℕ :=
  Dict.assign
    (rows.filterMap fun row ↦
      let fields := parseSafetyFaultEvent row.message
      if fields.get? eventTypeField = some safetyFaultAcknowledged then
        some (fields.get? "acknowledges_fault_id".toList, row.timestamp)
      else none)
    Dict.empty

structure SafetySection where
  faultCount : ℕ
  acknowledgedCount : ℕ
  faultTimeline : List FaultEntry

/-- `_build_safety_section`. -/
def buildSafetySection (rows : List EventRow) : SafetySection :=
  let timeline := rows.filterMap (faultEntry (acknowledgements rows))
  { faultCount := timeline.length
    acknowledgedCount := (timeline.filter fun entry ↦ entry.acknowledgedAt.isSome).length
    faultTimeline := timeline }

/-- The safety section of the export of a run. -/
def safetySection (calls : List SafetyCall) (runId : List Char) : SafetySection :=
  buildSafetySection ((logsAfter calls).eventLog.filter fun row ↦ row.runId = runId)

/-- The faults reported for a run. -/
def reportedFor (calls : List SafetyCall) (runId : List Char) : List SafetyFaultReport :=
  calls.filterMap fun
    | .report f => if f.runId = some runId then some f else none
    | _ => none

/-- Every fault reported for the run is in its export, and they are all counted. -/
def Exported (calls : List SafetyCall) (runId : List Char) : Prop :=
  (∀ f ∈ reportedFor calls runId, ∃ entry ∈ (safetySection calls runId).faultTimeline,
    entry.faultId = some f.faultId) ∧
      (reportedFor calls runId).length ≤ (safetySection calls runId).faultCount

/-! ## What a message raises -/

/-- The fault that a message raises, if it raises one. -/
def raisedFault (message : List Char) : Option (List Char) :=
  let fields := parseSafetyFaultEvent message
  if fields.get? eventTypeField = some safetyFaultRaised then fields.get? faultIdField else none

/-- The message of a fault, read back, raises that fault. -/
def SafetyFaultReport.ReadsBack (f : SafetyFaultReport) : Prop :=
  raisedFault f.message = some f.faultId

/-- Faults of the run have identifiers of their own: no two have the same one, and no other call
writes a message that raises one of them. -/
structure FreshFaults (calls : List SafetyCall) (runId : List Char) : Prop where
  nodup : ((reportedFor calls runId).map SafetyFaultReport.faultId).Nodup
  own : ∀ c ∈ calls, ∀ row ∈ c.eventRow?, ∀ f ∈ reportedFor calls runId,
    raisedFault row.message = some f.faultId → c = .report f

/-! ## The event log after a sequence of calls -/

variable {calls : List SafetyCall} {runId : List Char}

theorem eventLog_logsAfter (calls : List SafetyCall) :
    (logsAfter calls).eventLog = calls.filterMap SafetyCall.eventRow? := by
  have hfold (logs : TelemetryLogs) :
      (calls.foldl TelemetryLogs.call logs).eventLog =
        logs.eventLog ++ calls.filterMap SafetyCall.eventRow? := by
    induction calls generalizing logs with
    | nil => exact (List.append_nil _).symm
    | cons c calls ih =>
      rw [List.foldl_cons, ih, TelemetryLogs.call, List.filterMap_cons]
      cases c.eventRow? <;> simp
  exact hfold ⟨[], []⟩

theorem mem_reportedFor {f : SafetyFaultReport} :
    f ∈ reportedFor calls runId ↔ .report f ∈ calls ∧ f.runId = some runId := by
  rw [reportedFor, List.mem_filterMap]
  constructor
  · rintro ⟨c, hc, hf⟩
    cases c with
    | report g =>
      simp only [Option.ite_none_right_eq_some, Option.some.injEq] at hf
      obtain ⟨hrun, rfl⟩ := hf
      exact ⟨hc, hrun⟩
    | acknowledge | logEvent => cases hf
  · rintro ⟨hc, hrun⟩
    exact ⟨.report f, hc, if_pos hrun⟩

/-- The event row of a report is the row of its storage object, with its message. -/
theorem exists_eventRow_report {f : SafetyFaultReport} {message : List Char} :
    (∃ row ∈ (SafetyCall.report f).eventRow?, row.runId = runId ∧ row.message = message) ↔
      f.storage = some runId ∧ f.message = message := by
  rw [SafetyCall.eventRow?]
  cases f.storage with
  | none => exact iff_of_false (fun ⟨_, hrow, _⟩ ↦ by cases hrow) fun h ↦ by cases h.1
  | some storage =>
    constructor
    · rintro ⟨row, hrow, rfl, rfl⟩
      obtain rfl := Option.mem_some_iff.mp hrow
      exact ⟨rfl, rfl⟩
    · rintro ⟨hstorage, rfl⟩
      obtain rfl := Option.some.inj hstorage
      exact ⟨_, rfl, rfl, rfl⟩

theorem faultId_of_faultEntry {acknowledged : Dict (Option (List Char)) ℕ} {row : EventRow}
    {entry : FaultEntry} (h : faultEntry acknowledged row = some entry) :
    raisedFault row.message = entry.faultId := by
  simp only [faultEntry, Option.ite_none_right_eq_some, Option.some.injEq] at h
  obtain ⟨hraised, rfl⟩ := h
  exact if_pos hraised

theorem exists_faultEntry {acknowledged : Dict (Option (List Char)) ℕ} {row : EventRow}
    {id : List Char} (h : raisedFault row.message = some id) :
    ∃ entry, faultEntry acknowledged row = some entry := by
  simp only [raisedFault, Option.ite_none_right_eq_some] at h
  exact ⟨_, if_pos h.1⟩

/-- **The fault timeline.** It has an entry for a fault exactly if a call wrote a message to the
event log of the run that raises it. -/
theorem mem_faultTimeline_iff {id : List Char} :
    (∃ entry ∈ (safetySection calls runId).faultTimeline, entry.faultId = some id) ↔
      ∃ c ∈ calls, ∃ row ∈ c.eventRow?, row.runId = runId ∧ raisedFault row.message = some id := by
  simp only [safetySection, buildSafetySection, eventLog_logsAfter, List.mem_filterMap,
    List.mem_filter, decide_eq_true_eq]
  constructor
  · rintro ⟨entry, ⟨row, ⟨⟨c, hc, hrow⟩, hrun⟩, hentry⟩, hid⟩
    exact ⟨c, hc, row, hrow, hrun, (faultId_of_faultEntry hentry).trans hid⟩
  · rintro ⟨c, hc, row, hrow, hrun, hraised⟩
    obtain ⟨entry, hentry⟩ := exists_faultEntry hraised
    exact ⟨entry, ⟨row, ⟨⟨c, hc, hrow⟩, hrun⟩, hentry⟩,
      (faultId_of_faultEntry hentry).symm.trans hraised⟩

theorem length_le_faultCount
    (hnodup : ((reportedFor calls runId).map SafetyFaultReport.faultId).Nodup)
    (h : ∀ f ∈ reportedFor calls runId, ∃ entry ∈ (safetySection calls runId).faultTimeline,
      entry.faultId = some f.faultId) :
    (reportedFor calls runId).length ≤ (safetySection calls runId).faultCount := by
  have hsubset : (reportedFor calls runId).map (some ·.faultId) ⊆
      (safetySection calls runId).faultTimeline.map FaultEntry.faultId := by
    intro id hid
    obtain ⟨f, hf, rfl⟩ := List.mem_map.mp hid
    obtain ⟨entry, hentry, heq⟩ := h f hf
    exact List.mem_map.mpr ⟨entry, hentry, heq⟩
  have hsome : ((reportedFor calls runId).map (some ·.faultId)).Nodup := by
    have hmap := hnodup.map (Option.some_injective (List Char))
    rwa [List.map_map] at hmap
  calc (reportedFor calls runId).length
      = ((reportedFor calls runId).map (some ·.faultId)).length := (List.length_map ..).symm
    _ ≤ ((safetySection calls runId).faultTimeline.map FaultEntry.faultId).length :=
        (hsome.subperm hsubset).length_le
    _ = (safetySection calls runId).faultCount := List.length_map ..

/-- **What the export of a run shows.** All faults reported for the run are in its safety section
exactly if each was reported with a storage object of the run and its message is read back. -/
theorem exported_iff (h : FreshFaults calls runId) :
    Exported calls runId ↔
      ∀ f ∈ reportedFor calls runId, f.storage = some runId ∧ f.ReadsBack := by
  constructor
  · intro hexported f hf
    obtain ⟨c, hc, row, hrow, hrun, hraised⟩ := mem_faultTimeline_iff.mp (hexported.1 f hf)
    obtain rfl : c = .report f := h.own c hc row hrow f hf hraised
    obtain ⟨hstorage, hmessage⟩ := exists_eventRow_report.mp ⟨row, hrow, hrun, rfl⟩
    rw [← hmessage] at hraised
    exact ⟨hstorage, hraised⟩
  · intro hall
    have hentries : ∀ f ∈ reportedFor calls runId,
        ∃ entry ∈ (safetySection calls runId).faultTimeline, entry.faultId = some f.faultId := by
      intro f hf
      obtain ⟨hstorage, hreads⟩ := hall f hf
      obtain ⟨row, hrow, hrun, hmessage⟩ := exists_eventRow_report.mpr ⟨hstorage, rfl⟩
      rw [SafetyFaultReport.ReadsBack, ← hmessage] at hreads
      exact mem_faultTimeline_iff.mpr
        ⟨.report f, (mem_reportedFor.mp hf).1, row, hrow, hrun, hreads⟩
    exact ⟨hentries, length_le_faultCount h.nodup hentries⟩

/-! ## When a message is read back -/

/-- The texts of a fault contain no upper-case key after whitespace, and its identifier no
whitespace at all. -/
structure SafetyFaultReport.PlainText (f : SafetyFaultReport) : Prop where
  faultId : ∀ c ∈ f.faultId, isSpaceChar c = false
  texts : ∀ text ∈ [f.deviceName, f.deviceType, f.sourceMethod, f.context, f.reason] ++
    f.verificationResult.toList, BoundaryFree text

theorem stripEnd_of_no_space {text : List Char} (h : ∀ c ∈ text, isSpaceChar c = false) :
    stripEnd text = text := by
  have hreverse : text.reverse.dropWhile isSpaceChar = text.reverse := by
    cases hl : text.reverse with
    | nil => rfl
    | cons c l =>
      have hc : c ∈ text := List.mem_reverse.mp (hl ▸ List.mem_cons_self)
      rw [List.dropWhile_cons, h c hc]
      rfl
  rw [stripEnd, hreverse, List.reverse_reverse]

theorem isSpaceChar_of_mem_intText {n : ℤ} {c : Char} (h : c ∈ intText n) :
    isSpaceChar c = false := by
  have hdigits {k : ℕ} (hc : c ∈ Nat.toDigits 10 k) : isSpaceChar c = false := by
    have hdigit : c.isDigit = true := Nat.isDigit_of_mem_toDigits (by decide) (by decide) hc
    exact isSpaceChar_of_isKeyChar (by simp [isKeyChar, hdigit])
  cases n with
  | ofNat k => exact hdigits h
  | negSucc k =>
    rcases List.mem_cons.mp h with rfl | h
    · rfl
    · exact hdigits h

/-- The keys of a fault. -/
def faultKeys : List (List Char) :=
  [faultIdField, "device_name".toList, "device_type".toList, "position".toList,
    "source_method".toList, "context".toList, "verification_result".toList, "reason".toList]

theorem faultKeys_isKey : ∀ key ∈ faultKeys, IsKey (key.map Char.toUpper) := by decide +kernel

theorem faultKeys_toLower : ∀ key ∈ faultKeys, (key.map Char.toUpper).map Char.toLower = key := by
  decide +kernel

theorem key_mem_faultKeys {f : SafetyFaultReport} {field : EventField} (h : field ∈ f.fields) :
    field.1 ∈ faultKeys :=
  List.mem_map_of_mem (f := Prod.fst) h

theorem SafetyFaultReport.PlainText.fields {f : SafetyFaultReport} (h : f.PlainText) :
    ∀ field ∈ f.fields,
      IsKey (field.1.map Char.toUpper) ∧ ∀ value ∈ field.2, BoundaryFree value := by
  have htext {text : List Char} (hmem : text ∈ [f.deviceName, f.deviceType, f.sourceMethod,
      f.context, f.reason] ++ f.verificationResult.toList) {value : List Char}
      (hv : value ∈ some text) : BoundaryFree value := by
    obtain rfl := Option.mem_some_iff.mp hv
    exact h.texts _ hmem
  intro field hfield
  refine ⟨faultKeys_isKey _ (key_mem_faultKeys hfield), fun value hv ↦ ?_⟩
  simp only [SafetyFaultReport.fields, List.mem_cons, List.not_mem_nil, or_false] at hfield
  rcases hfield with rfl | rfl | rfl | rfl | rfl | rfl | rfl | rfl
  · obtain rfl := Option.mem_some_iff.mp hv
    exact boundaryFree_of_no_space h.faultId
  · exact htext (by simp) hv
  · exact htext (by simp) hv
  · obtain ⟨n, -, rfl⟩ := Option.mem_map.mp hv
    exact boundaryFree_of_no_space fun _ hc ↦ isSpaceChar_of_mem_intText hc
  · exact htext (by simp) hv
  · exact htext (by simp) hv
  · exact h.texts value (List.mem_append_right _ (Option.mem_toList.mpr hv))
  · exact htext (by simp) hv

theorem SafetyFaultReport.properFields (f : SafetyFaultReport) : ProperFields f.fields where
  keys field hfield := faultKeys_isKey _ (key_mem_faultKeys hfield)
  lower field hfield := faultKeys_toLower _ (key_mem_faultKeys hfield)
  nodup := show faultKeys.Nodup by decide +kernel
  notType := show eventTypeField ∉ faultKeys by decide +kernel

theorem boundaryFree_safetyFaultRaised : BoundaryFree safetyFaultRaised :=
  boundaryFree_of_no_space (isSpaceChar_of_all (by decide +kernel))

theorem stripEnd_safetyFaultRaised : stripEnd safetyFaultRaised = safetyFaultRaised :=
  stripEnd_of_no_space (isSpaceChar_of_all (by decide +kernel))

theorem SafetyFaultReport.get?_message {f : SafetyFaultReport}
    (h : ∀ field ∈ f.fields, ∀ value ∈ field.2, BoundaryFree value) {key value : List Char} :
    (parseEventFields f.message).get? key = some value ↔
      key = eventTypeField ∧ value = safetyFaultRaised ∨
        ∃ text, (key, some text) ∈ f.fields ∧ value = stripEnd text := by
  rw [SafetyFaultReport.message, get?_parse_format boundaryFree_safetyFaultRaised f.properFields h,
    stripEnd_safetyFaultRaised]

/-- **Plain faults are read back.** A fault none of whose texts contains an upper-case key is read
back with its own event type and identifier. -/
theorem readsBack_of_plainText {f : SafetyFaultReport} (h : f.PlainText) : f.ReadsBack := by
  have hfree : ∀ field ∈ f.fields, ∀ value ∈ field.2, BoundaryFree value := fun field hfield ↦
    (h.fields field hfield).2
  have heventType : (parseEventFields f.message).get? eventTypeField = some safetyFaultRaised :=
    (f.get?_message hfree).mpr (Or.inl ⟨rfl, rfl⟩)
  have hfaultId : (parseEventFields f.message).get? faultIdField = some f.faultId :=
    (f.get?_message hfree).mpr
      (Or.inr ⟨f.faultId, List.mem_cons_self, (stripEnd_of_no_space h.faultId).symm⟩)
  rw [SafetyFaultReport.ReadsBack, raisedFault, parseSafetyFaultEvent, if_pos (Or.inl heventType),
    if_pos heventType, hfaultId]

/-! ## One fault, with and without a storage object -/

/-- An SMU whose output could not be verified off, reported for run `R`. -/
def smuFault (storage : Option (List Char)) : SafetyFaultReport where
  faultId := ['f', '1']
  reason := ['o', 'n']
  sourceMethod := "emergency_output_off".toList
  context := if storage.isSome then "in_run_escalation".toList else "post_workflow_sweep".toList
  deviceName := ['S']
  deviceType := ['S', 'M', 'U']
  position := none
  runId := some ['R']
  verificationResult := none
  storage := storage
  timestamp := 0

theorem smuFault_plainText : (smuFault (some ['R'])).PlainText := by
  refine ⟨isSpaceChar_of_all (by decide +kernel), fun text htext ↦
    boundaryFree_of_no_space (isSpaceChar_of_all ?_)⟩
  have hall : ∀ text ∈ [(smuFault (some ['R'])).deviceName, (smuFault (some ['R'])).deviceType,
      (smuFault (some ['R'])).sourceMethod, (smuFault (some ['R'])).context,
      (smuFault (some ['R'])).reason] ++ (smuFault (some ['R'])).verificationResult.toList,
      text.all (fun c ↦ !isSpaceChar c) = true := by decide +kernel
  exact hall text htext

/-- The fault of a sequence that holds the storage object of its run is exported. -/
theorem exported_iff_inRunEscalation : Exported [.report (smuFault (some ['R']))] ['R'] := by
  refine (exported_iff ⟨by decide, fun c hc _ _ f hf _ ↦ ?_⟩).mpr fun f hf ↦ ?_
  · have hreport := (mem_reportedFor.mp hf).1
    rw [List.mem_singleton.mp hc, List.mem_singleton.mp hreport]
  · have hreport := List.mem_singleton.mp (mem_reportedFor.mp hf).1
    rw [SafetyCall.report.inj hreport]
    exact ⟨rfl, readsBack_of_plainText smuFault_plainText⟩

/-- `HardwareManager.disconnect_all` reports the same fault without a storage object: the hardware
log has it, and the export of the run counts no fault. -/
theorem not_exported_postWorkflowSweep :
    ¬∀ calls runId, FreshFaults calls runId → Exported calls runId := by
  intro h
  have hexported := h [.report (smuFault none)] ['R']
    ⟨by decide, fun c hc row hrow ↦ by
      rw [List.mem_singleton.mp hc] at hrow
      cases hrow⟩
  have hcount : (safetySection [.report (smuFault none)] ['R']).faultCount = 0 := rfl
  have hreported : (reportedFor [.report (smuFault none)] ['R']).length = 1 := by decide
  have hle := hexported.2
  rw [hcount, hreported] at hle
  exact absurd hle (by decide)

end Nipxi
