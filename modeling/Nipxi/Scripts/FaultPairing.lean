import Nipxi.Scripts.SafetyExport

/-!
# Faults and their acknowledgements

`_build_safety_section` joins the `SAFETY_FAULT_RAISED` and `SAFETY_FAULT_ACKNOWLEDGED` rows of a
run by their fault id. The reason of a fault is the last field of its message, and arbitrary text:
it embeds the text of exceptions. The join is right exactly where every reason comes back as it
was written (`pairedCorrectly_iff`).
-/

namespace Nipxi

open Collections

/-! ## What is written and what is expected -/

/-- The faults that were raised, in order. -/
def raisedFaults (calls : List SafetyCall) : List SafetyFaultReport :=
  calls.filterMap fun
    | .report f => some f
    | _ => none

/-- The faults that were acknowledged. -/
def acknowledgedIds (calls : List SafetyCall) : List (List Char) :=
  calls.filterMap fun
    | .acknowledge faultId _ _ _ => some faultId
    | _ => none

/-- The storage object a call of the two functions is given. -/
def SafetyCall.storage? : SafetyCall → Option (List Char)
  | .report f => f.storage
  | .acknowledge _ storage _ _ => storage
  | .logEvent _ => none

/-- What the callers of `report_safety_fault` pass apart from the reason: an id of `new_fault_id`,
one of the values of `OutputVerificationResult` or none, and names from the configuration and the
code. -/
structure SafetyFaultReport.CallerTexts (f : SafetyFaultReport) : Prop where
  faultId : ∀ c ∈ f.faultId, isSpaceChar c = false
  verificationResult : ∀ text ∈ f.verificationResult, ∀ c ∈ text, isSpaceChar c = false
  texts : ∀ text ∈ [f.deviceName, f.deviceType, f.sourceMethod, f.context], BoundaryFree text

/-- The calls are those of the two functions for one run, with fault ids of their own. -/
structure WrittenFor (calls : List SafetyCall) (runId : List Char) : Prop where
  storage : ∀ c ∈ calls, c.storage? = some runId
  distinct : ((raisedFaults calls).map SafetyFaultReport.faultId).Nodup
  texts : ∀ f ∈ raisedFaults calls, f.CallerTexts
  acknowledged : ∀ id ∈ acknowledgedIds calls, ∀ c ∈ id, isSpaceChar c = false

/-- What an entry says of its fault: id, reason, verification result, and whether it was
acknowledged. -/
def FaultEntry.facts (e : FaultEntry) :
    Option (List Char) × Option (List Char) × Option (List Char) × Bool :=
  (e.faultId, e.reason, e.verificationResult, e.acknowledgedAt.isSome)

/-- The same, as the calls have it. -/
def SafetyFaultReport.facts (calls : List SafetyCall) (f : SafetyFaultReport) :
    Option (List Char) × Option (List Char) × Option (List Char) × Bool :=
  (some f.faultId, some f.reason, f.verificationResult, decide (f.faultId ∈ acknowledgedIds calls))

/-- The safety section has one entry for each raised fault, in order, each with the facts of its
own fault. -/
def PairedCorrectly (calls : List SafetyCall) (runId : List Char) : Prop :=
  (safetySection calls runId).faultTimeline.map FaultEntry.facts =
    (raisedFaults calls).map (SafetyFaultReport.facts calls)

/-! ## The rows of a run -/

variable {calls : List SafetyCall} {runId : List Char} {f : SafetyFaultReport}

/-- The row of a raised fault. -/
def SafetyFaultReport.row (f : SafetyFaultReport) (runId : List Char) : EventRow :=
  ⟨runId, f.timestamp, "CRITICAL".toList, "SAFETY".toList, f.position, f.message⟩

/-- The message of an acknowledgement. -/
def acknowledgementMessage (faultId : List Char) : List Char :=
  formatEvent safetyFaultAcknowledged [("acknowledges_fault_id".toList, some faultId)]

/-- The row of an acknowledgement. -/
def acknowledgementRow (runId faultId : List Char) (timestamp : ℕ) : EventRow :=
  ⟨runId, timestamp, "INFO".toList, "SAFETY".toList, none, acknowledgementMessage faultId⟩

/-- A list of results is the list of all images exactly if each result is the image. -/
theorem filterMap_eq_map_iff {α β : Type*} {g : α → Option β} {h : α → β} {l : List α} :
    l.filterMap g = l.map h ↔ ∀ a ∈ l, g a = some (h a) := by
  induction l with
  | nil => simp
  | cons a l ih =>
    rw [List.forall_mem_cons, ← ih, List.map_cons]
    cases hga : g a with
    | none =>
      rw [List.filterMap_cons_none hga]
      refine iff_of_false (fun heq ↦ ?_) fun heq ↦ by cases heq.1
      have hlength := List.length_filterMap_le g l
      rw [heq, List.length_cons, List.length_map] at hlength
      exact absurd hlength (Nat.not_succ_le_self _)
    | some b =>
      rw [List.filterMap_cons_some hga, List.cons.injEq, Option.some.injEq]

theorem acknowledgement_proper (id : List Char) :
    ProperFields [("acknowledges_fault_id".toList, some id)] where
  keys := by
    rintro field hfield
    rw [List.mem_singleton.mp hfield]
    show IsKey ("acknowledges_fault_id".toList.map Char.toUpper)
    decide +kernel
  lower := by
    rintro field hfield
    rw [List.mem_singleton.mp hfield]
    show ("acknowledges_fault_id".toList.map Char.toUpper).map Char.toLower =
      "acknowledges_fault_id".toList
    decide +kernel
  nodup := List.nodup_singleton _
  notType := show eventTypeField ∉ ["acknowledges_fault_id".toList] by decide +kernel

theorem get?_acknowledgement {id : List Char} (hid : ∀ c ∈ id, isSpaceChar c = false)
    {key value : List Char} :
    (parseEventFields (acknowledgementMessage id)).get? key = some value ↔
      key = eventTypeField ∧ value = safetyFaultAcknowledged ∨
        key = "acknowledges_fault_id".toList ∧ value = id := by
  have hspace : ∀ c ∈ safetyFaultAcknowledged, isSpaceChar c = false :=
    isSpaceChar_of_all (by decide +kernel)
  have hfree : ∀ field ∈ [("acknowledges_fault_id".toList, some id)], ∀ value ∈ field.2,
      BoundaryFree value := by
    intro field hfield value hvalue
    rw [List.mem_singleton.mp hfield] at hvalue
    obtain rfl := Option.mem_some_iff.mp hvalue
    exact boundaryFree_of_no_space hid
  rw [acknowledgementMessage, get?_parse_format (boundaryFree_of_no_space hspace)
    (acknowledgement_proper id) hfree, stripEnd_of_no_space hspace]
  refine or_congr_right ⟨?_, ?_⟩
  · rintro ⟨text, hmem, rfl⟩
    obtain ⟨rfl, htext⟩ := Prod.mk.inj (List.mem_singleton.mp hmem)
    obtain rfl := Option.some.inj htext
    exact ⟨rfl, stripEnd_of_no_space hid⟩
  · rintro ⟨rfl, rfl⟩
    exact ⟨value, List.mem_cons_self, (stripEnd_of_no_space hid).symm⟩

theorem parseSafetyFaultEvent_acknowledgement {id : List Char}
    (hid : ∀ c ∈ id, isSpaceChar c = false) :
    parseSafetyFaultEvent (acknowledgementMessage id) =
      parseEventFields (acknowledgementMessage id) := by
  have htype := (get?_acknowledgement hid).mpr (Or.inl ⟨rfl, rfl⟩)
  rw [parseSafetyFaultEvent, if_pos (Or.inr htype)]

theorem WrittenFor.cases (h : WrittenFor calls runId) {c : SafetyCall} (hc : c ∈ calls) :
    (∃ f ∈ raisedFaults calls, c = .report f ∧ c.eventRow? = some (f.row runId)) ∨
      ∃ id ∈ acknowledgedIds calls, ∃ storage other timestamp,
        c = .acknowledge id storage other timestamp ∧
          c.eventRow? = some (acknowledgementRow runId id timestamp) := by
  have hstorage := h.storage c hc
  cases c with
  | report f =>
    rw [SafetyCall.storage?] at hstorage
    refine Or.inl ⟨f, List.mem_filterMap.mpr ⟨_, hc, rfl⟩, rfl, ?_⟩
    rw [SafetyCall.eventRow?, hstorage]
    rfl
  | acknowledge id storage other timestamp =>
    rw [SafetyCall.storage?] at hstorage
    refine Or.inr ⟨id, List.mem_filterMap.mpr ⟨_, hc, rfl⟩, storage, other, timestamp, rfl, ?_⟩
    rw [SafetyCall.eventRow?, hstorage]
    rfl
  | logEvent row => cases hstorage

theorem eventRows_eq (h : WrittenFor calls runId) :
    ((logsAfter calls).eventLog.filter fun row ↦ row.runId = runId) =
      calls.filterMap SafetyCall.eventRow? := by
  rw [eventLog_logsAfter, List.filter_eq_self]
  intro row hrow
  obtain ⟨c, hc, hcall⟩ := List.mem_filterMap.mp hrow
  rcases h.cases hc with ⟨f, -, -, hf⟩ | ⟨id, -, -, -, timestamp, -, hid⟩
  · obtain rfl := Option.some.inj (hcall.symm.trans hf)
    exact decide_eq_true rfl
  · obtain rfl := Option.some.inj (hcall.symm.trans hid)
    exact decide_eq_true rfl

theorem faultEntry_acknowledgement {acknowledged : Dict (Option (List Char)) ℕ} {id : List Char}
    (hid : ∀ c ∈ id, isSpaceChar c = false) {row : EventRow}
    (hrow : row.message = acknowledgementMessage id) : faultEntry acknowledged row = none := by
  have htype := (get?_acknowledgement hid).mpr (Or.inl ⟨rfl, rfl⟩)
  rw [faultEntry, hrow, parseSafetyFaultEvent_acknowledgement hid, htype, if_neg]
  rw [Option.some.injEq]
  decide +kernel

theorem faultTimeline_eq (h : WrittenFor calls runId) :
    (safetySection calls runId).faultTimeline = (raisedFaults calls).filterMap fun f ↦
      faultEntry (acknowledgements (calls.filterMap SafetyCall.eventRow?)) (f.row runId) := by
  rw [safetySection, eventRows_eq h, buildSafetySection, raisedFaults, List.filterMap_filterMap,
    List.filterMap_filterMap]
  refine List.filterMap_congr fun c hc ↦ ?_
  rcases h.cases hc with ⟨f, -, rfl, hf⟩ | ⟨id, hid, _, _, timestamp, rfl, hack⟩
  · rw [hf]
    rfl
  · rw [hack, Option.bind_some]
    have hentry : faultEntry (acknowledgements (calls.filterMap SafetyCall.eventRow?))
        (acknowledgementRow runId id timestamp) = none :=
      faultEntry_acknowledgement (h.acknowledged id hid) rfl
    rw [hentry]
    rfl

/-! ## One fault -/

/-- The fields of a fault before its reason. -/
def SafetyFaultReport.leadingFields (f : SafetyFaultReport) : List EventField :=
  [(faultIdField, some f.faultId), ("device_name".toList, some f.deviceName),
    ("device_type".toList, some f.deviceType), ("position".toList, f.position.map intText),
    ("source_method".toList, some f.sourceMethod), ("context".toList, some f.context),
    ("verification_result".toList, f.verificationResult)]

theorem SafetyFaultReport.fields_eq (f : SafetyFaultReport) :
    f.fields = f.leadingFields ++ [("reason".toList, some f.reason)] :=
  rfl

theorem SafetyFaultReport.CallerTexts.leadingFields (h : f.CallerTexts) :
    ∀ field ∈ f.leadingFields, ∀ value ∈ field.2, BoundaryFree value := by
  have htext {text : List Char} (hmem : text ∈ [f.deviceName, f.deviceType, f.sourceMethod,
      f.context]) {value : List Char} (hv : value ∈ some text) : BoundaryFree value := by
    obtain rfl := Option.mem_some_iff.mp hv
    exact h.texts _ hmem
  intro field hfield value hv
  simp only [SafetyFaultReport.leadingFields, List.mem_cons, List.not_mem_nil, or_false] at hfield
  rcases hfield with rfl | rfl | rfl | rfl | rfl | rfl | rfl
  · obtain rfl := Option.mem_some_iff.mp hv
    exact boundaryFree_of_no_space h.faultId
  · exact htext (by simp) hv
  · exact htext (by simp) hv
  · obtain ⟨n, -, rfl⟩ := Option.mem_map.mp hv
    exact boundaryFree_of_no_space fun _ hc ↦ isSpaceChar_of_mem_intText hc
  · exact htext (by simp) hv
  · exact htext (by simp) hv
  · exact boundaryFree_of_no_space (h.verificationResult value hv)

/-- The reason of a fault is read as it was written exactly if it has no boundary and no
whitespace at its end. -/
theorem reads_reason_iff (h : f.CallerTexts) :
    (parseEventFields f.message).get? "reason".toList = some f.reason ↔
      BoundaryFree f.reason ∧ stripEnd f.reason = f.reason := by
  have hproper := f.properFields
  rw [f.fields_eq] at hproper
  rw [SafetyFaultReport.message, f.fields_eq]
  exact get?_last_field_iff boundaryFree_safetyFaultRaised hproper h.leadingFields

theorem get?_of_parseSafetyFaultEvent {message key value : List Char}
    (h : (parseSafetyFaultEvent message).get? key = some value) :
    (parseEventFields message).get? key = some value := by
  simp only [parseSafetyFaultEvent] at h
  split at h
  · exact h
  · cases h

variable {acknowledged : Dict (Option (List Char)) ℕ}

theorem reads_reason_of_facts (h : f.CallerTexts)
    (hfacts : (faultEntry acknowledged (f.row runId)).map FaultEntry.facts =
      some (f.facts calls)) : BoundaryFree f.reason ∧ stripEnd f.reason = f.reason := by
  obtain ⟨entry, hentry, hfacts⟩ := Option.map_eq_some_iff.mp hfacts
  simp only [faultEntry, Option.ite_none_right_eq_some, Option.some.injEq] at hentry
  obtain ⟨-, rfl⟩ := hentry
  have hreason := (Prod.mk.inj (Prod.mk.inj hfacts).2).1
  exact (reads_reason_iff h).mp (get?_of_parseSafetyFaultEvent hreason)

theorem SafetyFaultReport.CallerTexts.get?_message (h : f.CallerTexts)
    (hreason : BoundaryFree f.reason) {key value : List Char} :
    (parseEventFields f.message).get? key = some value ↔
      key = eventTypeField ∧ value = safetyFaultRaised ∨
        ∃ text, (key, some text) ∈ f.fields ∧ value = stripEnd text := by
  refine f.get?_message fun field hfield value hv ↦ ?_
  rw [f.fields_eq] at hfield
  rcases List.mem_append.mp hfield with hfield | hfield
  · exact h.leadingFields field hfield value hv
  · rw [List.mem_singleton.mp hfield] at hv
    obtain rfl := Option.mem_some_iff.mp hv
    exact hreason

theorem SafetyFaultReport.CallerTexts.get?_field (h : f.CallerTexts)
    (hreason : BoundaryFree f.reason) {key : List Char} {text : Option (List Char)}
    (hmem : (key, text) ∈ f.fields) :
    (parseEventFields f.message).get? key = text.map stripEnd := by
  cases text with
  | some text => exact (h.get?_message hreason).mpr (Or.inr ⟨text, hmem, rfl⟩)
  | none =>
    rw [Option.map_none, Option.eq_none_iff_forall_ne_some]
    intro value hvalue
    rcases (h.get?_message hreason).mp hvalue with ⟨rfl, -⟩ | ⟨text, htext, -⟩
    · exact f.properFields.notType (List.mem_map_of_mem hmem)
    · exact absurd (f.properFields.eq_of_mem hmem htext) nofun

theorem facts_of_plain (h : f.CallerTexts) (hreason : BoundaryFree f.reason)
    (hstrip : stripEnd f.reason = f.reason)
    (hack : (acknowledged.get? (some f.faultId)).isSome =
      decide (f.faultId ∈ acknowledgedIds calls)) :
    (faultEntry acknowledged (f.row runId)).map FaultEntry.facts = some (f.facts calls) := by
  have htype := (h.get?_message hreason).mpr (Or.inl ⟨rfl, rfl⟩)
  have hparse : parseSafetyFaultEvent f.message = parseEventFields f.message := by
    rw [parseSafetyFaultEvent, if_pos (Or.inl htype)]
  have hid := h.get?_field hreason (List.mem_cons_self : (faultIdField, some f.faultId) ∈ f.fields)
  have hresult : (parseEventFields f.message).get? "verification_result".toList =
      f.verificationResult.map stripEnd :=
    h.get?_field hreason (by simp [SafetyFaultReport.fields])
  have hread := (reads_reason_iff h).mpr ⟨hreason, hstrip⟩
  rw [Option.map_some, stripEnd_of_no_space h.faultId] at hid
  have hsame : f.verificationResult.map stripEnd = f.verificationResult := by
    cases hv : f.verificationResult with
    | none => rfl
    | some text => exact congrArg some (stripEnd_of_no_space (h.verificationResult text hv))
  rw [hsame] at hresult
  simp only [faultEntry, SafetyFaultReport.row, hparse, htype, if_true, Option.map_some,
    FaultEntry.facts, SafetyFaultReport.facts, hid, hread, hresult, hack]

/-! ## The join -/

/-- A fault is among the acknowledged ones exactly if it was acknowledged, where all reasons are
plain. -/
theorem isSome_acknowledgements (h : WrittenFor calls runId)
    (hplain : ∀ f ∈ raisedFaults calls, BoundaryFree f.reason) (id : List Char) :
    ((acknowledgements (calls.filterMap SafetyCall.eventRow?)).get? (some id)).isSome =
      decide (id ∈ acknowledgedIds calls) := by
  rw [Bool.eq_iff_iff, decide_eq_true_iff, Option.isSome_iff_exists, ← Dict.mem_keys_iff,
    acknowledgements, Dict.mem_keys_assign, Dict.keys_empty, or_iff_left List.not_mem_nil,
    List.mem_map]
  constructor
  · rintro ⟨p, hp, hpid⟩
    obtain ⟨row, hrow, hread⟩ := List.mem_filterMap.mp hp
    simp only [Option.ite_none_right_eq_some, Option.some.injEq] at hread
    obtain ⟨htype, rfl⟩ := hread
    obtain ⟨c, hc, hcall⟩ := List.mem_filterMap.mp hrow
    rcases h.cases hc with ⟨f, hf, -, hrowf⟩ | ⟨other, hother, -, -, timestamp, -, hack⟩
    · -- a fault with a plain reason is no acknowledgement
      obtain rfl := Option.some.inj (hcall.symm.trans hrowf)
      have hraised := ((h.texts f hf).get?_message (hplain f hf)).mpr (Or.inl ⟨rfl, rfl⟩)
      have heq := hraised.symm.trans (get?_of_parseSafetyFaultEvent htype)
      exact absurd (Option.some.inj heq) (by decide +kernel)
    · obtain rfl := Option.some.inj (hcall.symm.trans hack)
      have hread := (get?_acknowledgement (h.acknowledged other hother)).mpr (Or.inr ⟨rfl, rfl⟩)
      rw [acknowledgementRow,
        parseSafetyFaultEvent_acknowledgement (h.acknowledged other hother), hread] at hpid
      exact Option.some.inj hpid ▸ hother
  · intro hid
    obtain ⟨c, hc, hcid⟩ := List.mem_filterMap.mp hid
    rcases h.cases hc with ⟨f, -, rfl, -⟩ | ⟨other, hother, _, _, timestamp, rfl, hack⟩
    · cases hcid
    · obtain rfl := Option.some.inj hcid
      have hspace := h.acknowledged other hother
      have htype := (get?_acknowledgement hspace).mpr (Or.inl ⟨rfl, rfl⟩)
      have hread := (get?_acknowledgement hspace).mpr (Or.inr ⟨rfl, rfl⟩)
      refine ⟨(some other, timestamp), List.mem_filterMap.mpr
        ⟨acknowledgementRow runId other timestamp, List.mem_filterMap.mpr ⟨_, hc, hack⟩, ?_⟩, rfl⟩
      simp only [acknowledgementRow, parseSafetyFaultEvent_acknowledgement hspace, htype, if_true,
        hread]

/-- **When faults and acknowledgements are paired.** Exactly when no reason contains whitespace
followed by an upper-case key and an equals sign, and none ends in whitespace. -/
theorem pairedCorrectly_iff (h : WrittenFor calls runId) : PairedCorrectly calls runId ↔
    ∀ f ∈ raisedFaults calls, BoundaryFree f.reason ∧ stripEnd f.reason = f.reason := by
  rw [PairedCorrectly, faultTimeline_eq h, List.map_filterMap, filterMap_eq_map_iff]
  constructor
  · intro hfacts f hf
    exact reads_reason_of_facts (h.texts f hf) (hfacts f hf)
  · intro hplain f hf
    obtain ⟨hreason, hstrip⟩ := hplain f hf
    exact facts_of_plain (h.texts f hf) hreason hstrip
      (isSome_acknowledgements h (fun g hg ↦ (hplain g hg).1) f.faultId)

/-! ## An error code in a reason -/

/-- The fault of an SMU whose readback failed with the text of an exception, and its
acknowledgement. -/
def faultWithReason (reason : List Char) : List SafetyCall :=
  [.report { smuFault (some ['R']) with reason := reason },
    .acknowledge ['f', '1'] (some ['R']) (some ['R']) 1]

theorem writtenFor_faultWithReason (reason : List Char) :
    WrittenFor (faultWithReason reason) ['R'] where
  storage := List.forall_mem_cons.mpr ⟨rfl, List.forall_mem_singleton.mpr rfl⟩
  distinct := List.nodup_singleton _
  texts := by
    have hid : ∀ c ∈ ['f', '1'], isSpaceChar c = false := isSpaceChar_of_all (by decide +kernel)
    refine List.forall_mem_singleton.mpr ⟨hid, nofun, ?_⟩
    have hall : ∀ text ∈ [['S'], ['S', 'M', 'U'], "emergency_output_off".toList,
        "in_run_escalation".toList], text.all (fun c ↦ !isSpaceChar c) = true := by decide +kernel
    exact fun text htext ↦ boundaryFree_of_no_space (isSpaceChar_of_all (hall text htext))
  acknowledged := List.forall_mem_singleton.mpr (isSpaceChar_of_all (by decide +kernel))

theorem pairedCorrectly_iff_outputOn :
    PairedCorrectly (faultWithReason "output on".toList) ['R'] ↔
      ∀ f ∈ raisedFaults (faultWithReason "output on".toList),
        BoundaryFree f.reason ∧ stripEnd f.reason = f.reason :=
  pairedCorrectly_iff (writtenFor_faultWithReason _)

theorem not_pairedCorrectly_errorCode :
    ¬∀ calls runId, WrittenFor calls runId → PairedCorrectly calls runId := by
  intro h
  have hpaired := h _ _ (writtenFor_faultWithReason "readback failed: CODE=7".toList)
  exact absurd hpaired (by unfold PairedCorrectly; decide +kernel)

end Nipxi
