import Nipxi.Hardware.SmuShutdown

/-!
# The recorded failure mode

What a shutdown that fails leaves in the record of the fault: the callback of `ChargeSequence.run`
reads the verification result out of the last message of `emergency_output_off`
(`extract_verification_result`), and the fault is recorded with it.

`last_result` is overwritten by every attempt. So `verification_comm_failure`, which stands for an
output that was never confirmed enabled or disabled, is recorded also where an earlier attempt has
read the output as still enabled: `recordsHonestly_iff` says that this is the only way.
-/

open Effect

namespace Nipxi

/-! ## Reading the message -/

/-- The marker `extract_verification_result` looks for. -/
def verificationMarker : List Char := "output disabled verification result:".toList

/-- What follows the first occurrence of a marker. -/
def afterMarker (marker : List Char) : List Char → Option (List Char)
  | [] => if marker.isPrefixOf [] then some ([].drop marker.length) else none
  | c :: rest =>
    if marker.isPrefixOf (c :: rest) then some ((c :: rest).drop marker.length)
    else afterMarker marker rest

/-- `extract_verification_result`. -/
def extractVerificationResult (message : String) : Option String :=
  match afterMarker verificationMarker message.toList with
  | none => none
  | some tail =>
    let tail := stripText tail
    if tail = [] then none else some (String.ofList (tail.takeWhile (· ≠ ' ')))

/-- `verification_result["value"]` of `ChargeSequence.run` and `DischargeSequence.run`, after their
`on_event` was called with the messages of the calls, newest first. -/
def verificationResultValue : List SmuCall → Option String
  | [] => none
  | .event message _ :: calls =>
    match extractVerificationResult message with
    | some result => some result
    | none => verificationResultValue calls
  | _ :: calls => verificationResultValue calls

theorem afterMarker_append (marker text : List Char) :
    afterMarker marker (marker ++ text) = some text := by
  have hprefix : marker.isPrefixOf (marker ++ text) = true :=
    List.isPrefixOf_iff_prefix.mpr (List.prefix_append marker text)
  cases h : marker ++ text with
  | nil =>
    obtain ⟨rfl, rfl⟩ := List.append_eq_nil_iff.mp h
    rfl
  | cons c rest =>
    rw [h] at hprefix
    unfold afterMarker
    rw [if_pos hprefix, ← h, List.drop_left]

theorem stripEnd_prefix (text : List Char) : stripEnd text <+: text := by
  have hsuffix := (List.dropWhile_suffix isSpaceChar (l := text.reverse))
  rw [← List.reverse_prefix, List.reverse_reverse] at hsuffix
  exact hsuffix

/-- What follows a word, if anything does, begins with a space. -/
theorem takeWhile_stripEnd {text : List Char} (h : text = [] ∨ ∃ more, text = ' ' :: more) :
    (stripEnd text).takeWhile (· ≠ ' ') = [] := by
  have hprefix := stripEnd_prefix text
  cases hstripped : stripEnd text with
  | nil => rfl
  | cons c rest =>
    rw [hstripped] at hprefix
    rcases h with rfl | ⟨more, rfl⟩
    · exact absurd (List.prefix_nil.mp hprefix) (List.cons_ne_nil c rest)
    · obtain rfl := (List.cons_prefix_cons.mp hprefix).1
      rfl

/-- A result is read back from the text that follows the marker. -/
theorem extractVerificationResult_append (result : Smu.OutputVerificationResult) {rest : String}
    (hrest : rest = "" ∨ ∃ more, rest = " " ++ more) :
    extractVerificationResult ("output disabled verification result: " ++ (result.text ++ rest))
      = some result.text := by
  have hmarker : "output disabled verification result: ".toList = verificationMarker ++ [' '] := by
    decide
  have hmessage : ("output disabled verification result: " ++ (result.text ++ rest)).toList
      = verificationMarker ++ (' ' :: (result.text.toList ++ rest.toList)) := by
    rw [String.toList_append, String.toList_append, hmarker, List.append_assoc,
      List.singleton_append]
  have hspace : rest.toList = [] ∨ ∃ more, rest.toList = ' ' :: more := by
    rcases hrest with rfl | ⟨more, rfl⟩
    · exact Or.inl rfl
    · exact Or.inr ⟨more.toList, by rw [String.toList_append]; rfl⟩
  have hstrip : stripText (' ' :: (result.text.toList ++ rest.toList))
      = result.text.toList ++ stripEnd rest.toList := by
    cases result with
    | disabled => exact @stripEnd_append "disabled".toList _ (by decide) (by decide)
    | stillEnabled =>
      exact @stripEnd_append "still_enabled".toList _ (by decide) (by decide)
    | verificationCommFailure =>
      exact @stripEnd_append "verification_comm_failure".toList _ (by decide) (by decide)
  have hword : ∀ c ∈ result.text.toList, decide (c ≠ ' ') = true := by
    rw [← List.all_eq_true]
    cases result <;> rfl
  have htake : (result.text.toList ++ stripEnd rest.toList).takeWhile (· ≠ ' ')
      = result.text.toList := by
    rw [List.takeWhile_append_of_pos hword, takeWhile_stripEnd hspace, List.append_nil]
  have hne : result.text.toList ++ stripEnd rest.toList ≠ [] := by
    refine List.append_ne_nil_of_left_ne_nil ?_ _
    cases result <;> decide
  unfold extractVerificationResult
  rw [hmessage, afterMarker_append]
  dsimp only
  rw [hstrip, if_neg hne, htake, String.ofList_toList]

/-- **The last message of a shutdown is read back.** -/
theorem extractVerificationResult_verificationMessage (n : ℕ) (verified : Bool)
    (result : Smu.OutputVerificationResult) :
    extractVerificationResult (Smu.verificationMessage n verified result) = some result.text := by
  cases verified with
  | true =>
    have hmessage : Smu.verificationMessage n true result
        = "output disabled verification result: " ++ (result.text ++ "") := by
      rw [String.append_empty]
      rfl
    rw [hmessage]
    exact extractVerificationResult_append result (Or.inl rfl)
  | false =>
    have hsplit : " (exhausted " = " " ++ "(exhausted " := by decide
    have hmessage : Smu.verificationMessage n false result
        = "output disabled verification result: " ++ (result.text ++
          (" " ++ ("(exhausted " ++ (toString n ++ " attempt(s))")))) := by
      rw [← @String.append_assoc " ", ← hsplit]
      simp only [← String.append_assoc]
      rfl
    rw [hmessage]
    exact extractVerificationResult_append result (Or.inr ⟨_, rfl⟩)

/-! ## What is recorded -/

namespace Smu

/-- A shutdown that failed is recorded as `verification_comm_failure` only if no readback reported
the output as still enabled. -/
def RecordsHonestly (verified : Bool) (new : List SmuCall) : Prop :=
  verified = false → verificationResultValue new = some "verification_comm_failure" →
    .session (.getOutputEnabled (.ok true)) ∉ new

/-- No attempt is answered off, one is answered still enabled, and the last is not answered. -/
def Overwritten (attempts : List OffAttempt) : Prop :=
  (¬∃ a ∈ attempts, a.Verifies) ∧ (∃ a ∈ attempts, a.result = .stillEnabled) ∧
    (attempts.map OffAttempt.result).getLast? = some .verificationCommFailure

theorem mem_attemptCalls_iff {attempts : List OffAttempt} :
    SmuCall.session (.getOutputEnabled (.ok true)) ∈ attemptCalls attempts
      ↔ ∃ a ∈ attempts, a.result = .stillEnabled := by
  induction attempts with
  | nil => exact iff_of_false List.not_mem_nil fun ⟨_, ha, _⟩ ↦ absurd ha List.not_mem_nil
  | cons a attempts ih =>
    rw [attemptCalls, List.mem_append, ih, List.exists_mem_cons_iff, or_comm]
    refine or_congr_left ?_
    rcases a with ⟨aborted, e⟩ | ⟨aborted, e⟩ | ⟨aborted, _ | _⟩ <;>
      simp [OffAttempt.calls, OffAttempt.result]

theorem mem_calls_iff {opening closing : List SmuCall} {attempts : List OffAttempt}
    (hopening : Harmless opening) (hclosing : Harmless closing) :
    SmuCall.session (.getOutputEnabled (.ok true))
        ∈ closing ++ (attemptCalls attempts ++ opening)
      ↔ ∃ a ∈ attempts, a.result = .stillEnabled := by
  rw [List.mem_append, List.mem_append, mem_attemptCalls_iff]
  constructor
  · rintro (h | h | h)
    · exact absurd (hclosing _ h) id
    · exact h
    · exact absurd (hopening _ h) id
  · exact fun h ↦ Or.inr (Or.inl h)

theorem text_eq_commFailure_iff {result : OutputVerificationResult} :
    result.text = "verification_comm_failure" ↔ result = .verificationCommFailure := by
  cases result <;> decide

/-- **Honest unless overwritten**, by the law of the attempts. -/
theorem Attempted.recordsHonestly_iff {n : ℕ} {attempts : List OffAttempt} {verified : Bool}
    {result : OutputVerificationResult} {opening closing : List SmuCall}
    (h : Attempted n .verificationCommFailure attempts verified result)
    (hopening : Harmless opening) (hclosing : Harmless closing)
    (hvalue : verificationResultValue (closing ++ (attemptCalls attempts ++ opening))
      = some result.text) :
    RecordsHonestly verified (closing ++ (attemptCalls attempts ++ opening))
      ↔ ¬Overwritten attempts := by
  have hverified : verified = false ↔ ¬∃ a ∈ attempts, a.Verifies := by
    rw [← h.verified_iff, Bool.not_eq_true]
  unfold RecordsHonestly Overwritten
  rw [hverified, hvalue, Option.some_inj, text_eq_commFailure_iff,
    mem_calls_iff hopening hclosing, h.result_eq]
  constructor
  · rintro hhonest ⟨hnone, hstill, hlast⟩
    refine hhonest hnone ?_ hstill
    rw [List.getLastD_eq_getLast?, hlast]
    rfl
  · rintro hnot hnone hresult hstill
    refine hnot ⟨hnone, hstill, ?_⟩
    rw [List.getLastD_eq_getLast?] at hresult
    cases hlast : (attempts.map OffAttempt.result).getLast? with
    | none =>
      obtain ⟨a, ha, -⟩ := hstill
      rw [List.map_eq_nil_iff.mp (List.getLast?_eq_none_iff.mp hlast)] at ha
      exact absurd ha List.not_mem_nil
    | some last =>
      rw [hlast] at hresult
      exact congrArg some hresult

section

variable {V : Type} (cfg : SmuConfig) (ni : Nidcpower V) (f : String → V → Option String × V)

/-- **When the record is honest**: a shutdown returns, and its record is honest exactly unless the
answers of the session to the attempts are overwritten by the last. -/
theorem emergencyOutputOff_recordsHonestly_iff (n : ℕ) (reason : String) (s : Smu (Taped V))
    (hs : s.session = true) :
    ∃ verified t opening attempts closing,
      emergencyOutputOffReporting cfg ni.taped (OnEvent.taped (some f)) n reason s
        = .ok verified t ∧
      taped t = closing ++ (attemptCalls attempts ++ opening) ++ taped s ∧
      (Harmless opening ∧ Harmless closing) ∧
      (RecordsHonestly verified (closing ++ (attemptCalls attempts ++ opening))
        ↔ ¬Overwritten attempts) := by
  obtain ⟨verified, t, hrun, opening, attempts, closing, result, hadds, hopening, hattempted,
    hclosing⟩ := (ends_emergencyOutputOffReporting cfg ni (some f) n reason).exists_ok
      (post_emergencyOutputOffReporting cfg ni (some f) n reason hs)
  obtain ⟨-, new, hnew, rfl⟩ := hadds
  have hharmless := hclosing.harmless
  refine ⟨verified, t, opening, attempts, closing, hrun, hnew, ⟨hopening, hharmless⟩, ?_⟩
  obtain ⟨raised, rfl⟩ :
    ∃ raised, closing = [.event (verificationMessage n verified result) raised] := hclosing
  refine hattempted.recordsHonestly_iff hopening hharmless ?_
  unfold verificationResultValue
  rw [List.cons_append, List.nil_append]
  dsimp only
  rw [extractVerificationResult_verificationMessage]

end

/-! ## An output that is read once -/

/-- A callback that records. -/
def quietEvent (_ : String) (readings : ℕ) : Option String × ℕ := (none, readings)

/-- A readback of an output that is still enabled. -/
def SmuCall.readsEnabled : SmuCall → Bool
  | .session (.getOutputEnabled (.ok enabled)) => enabled
  | _ => false

/-- The first attempt reads the output as still enabled, the last two are not answered, and what is
recorded is that the output was never confirmed enabled. -/
theorem not_recordsHonestly_fadingSession :
    ∃ verified t, emergencyOutputOffReporting ⟨"PXI1Slot2", "0"⟩ fadingSession.taped
        (OnEvent.taped (some quietEvent)) EMERGENCY_OUTPUT_OFF_MAX_ATTEMPTS
        "end of charge sequence on channel 1" fadingSmu = .ok verified t ∧
      ¬RecordsHonestly verified (taped t) := by
  obtain ⟨verified, t, hrun, htest⟩ := Outcome.exists_of_passes
    (o := emergencyOutputOffReporting ⟨"PXI1Slot2", "0"⟩ fadingSession.taped
        (OnEvent.taped (some quietEvent)) EMERGENCY_OUTPUT_OFF_MAX_ATTEMPTS
        "end of charge sequence on channel 1" fadingSmu)
    (p := fun verified t ↦ !verified &&
      (verificationResultValue (taped t) == some "verification_comm_failure" &&
        (taped t).any SmuCall.readsEnabled)) (by decide +kernel)
  rw [Bool.and_eq_true, Bool.and_eq_true, Bool.not_eq_true', List.any_eq_true] at htest
  obtain ⟨hverified, hvalue, c, hc, hcall⟩ := htest
  refine ⟨verified, t, hrun, fun h ↦ h hverified (beq_iff_eq.mp hvalue) ?_⟩
  unfold SmuCall.readsEnabled at hcall
  split at hcall
  · rw [hcall] at hc
    exact hc
  · exact absurd hcall Bool.false_ne_true

/-- The same shutdown, by the law. -/
theorem emergencyOutputOff_recordsHonestly_iff_fading :
    ∃ verified t opening attempts closing,
      emergencyOutputOffReporting ⟨"PXI1Slot2", "0"⟩ fadingSession.taped
        (OnEvent.taped (some quietEvent)) EMERGENCY_OUTPUT_OFF_MAX_ATTEMPTS
        "end of charge sequence on channel 1" fadingSmu = .ok verified t ∧
      taped t = closing ++ (attemptCalls attempts ++ opening) ++ taped fadingSmu ∧
      (Harmless opening ∧ Harmless closing) ∧
      (RecordsHonestly verified (closing ++ (attemptCalls attempts ++ opening))
        ↔ ¬Overwritten attempts) :=
  emergencyOutputOff_recordsHonestly_iff _ _ quietEvent _ _ fadingSmu rfl

end Smu

end Nipxi
