import Nipxi.Effect.Attribution
import Nipxi.Effect.Ending
import Nipxi.Effect.Laws
import Nipxi.Hardware.Smu
import Nipxi.TestControl.Station

/-!
# The shutdown reflex, call by call

`SMU.emergency_output_off` with the callback it reports to, and every call it makes on the session
recorded with its answer. For callers that pass no callback it is the reflex of the driver's other
methods (`emergencyOutputOff_eq`).

## The attempts

After a pass that zeroes the setpoint, each attempt is an abort, a write of `output_enabled` and,
unless that raises, a reading of it. `Attempted` is what the loop makes of the answers: it stops at
the first attempt that reads the output as off, and its result is that of the last attempt.
-/

open Effect

namespace Nipxi

/-! ## Recording -/

/-- A call on a session, with its answer. -/
inductive SessionCall where
  | open
  | close
  | abort (raised : Option String)
  /-- `session.output_enabled = on`. -/
  | setOutputEnabled (on : Bool) (raised : Option String)
  | getOutputEnabled (answer : Except String Bool)
  /-- Whether `session.output_function` is `DC_CURRENT`. -/
  | getSourcesCurrent (answer : Except String Bool)
  | get (property : SmuProperty) (answer : Except String ℚ)
  | set (property : SmuProperty) (value : ℚ) (raised : Option String)
  | commit (raised : Option String)
  /-- `session.output_function = DC_VOLTAGE`. -/
  | setDcVoltage (raised : Option String)
  /-- `session.source_mode = SINGLE_POINT`. -/
  | setSinglePoint (raised : Option String)
  | setVoltageLevelRange (value : ℚ) (raised : Option String)
  | setCurrentLimit (value : ℚ) (raised : Option String)
  | getCurrentLimit (answer : Except String ℚ)
  | initiate (raised : Option String)
  /-- The end of `with session.initiate()`, which aborts. -/
  | leave (raised : Option String)
  | queryInCompliance (answer : Except String Bool)
  | measureVoltage (answer : Except String ℚ)
  | measureCurrent (answer : Except String ℚ)

/-- What the driver does to its surroundings. -/
inductive SmuCall where
  | session (call : SessionCall)
  /-- `on_event(message)`. -/
  | event (message : String) (raised : Option String)
  /-- `relay_matrix.open_all()`. -/
  | openAll (raised : Option String)
  /-- `during_hold()`. -/
  | duringHold (raised : Option Exc)
  /-- `interruptible_sleep(hold_s)`, with the reason it was cancelled for. -/
  | hold (cancelled : Option String)

/-- A world with the calls that were made on it, newest first. -/
structure Taped (V : Type) where
  world : V
  calls : List SmuCall

variable {V : Type}

/-- A call that is recorded with its answer. -/
def Taped.along {α : Type} (call : α → SmuCall) (f : V → α × V) (r : Taped V) :
    α × Taped V :=
  ((f r.world).1, ⟨(f r.world).2, call (f r.world).1 :: r.calls⟩)

/-- The library, with every call on it recorded. -/
def Nidcpower.taped (ni : Nidcpower V) : Nidcpower (Taped V) where
  session := Taped.along (fun _ ↦ .session .open) ni.session
  close := Taped.along (fun _ ↦ .session .close) ni.close
  abort := Taped.along (fun raised ↦ .session (.abort raised)) ni.abort
  disableOutput :=
    Taped.along (fun raised ↦ .session (.setOutputEnabled false raised)) ni.disableOutput
  outputEnabled :=
    Taped.along (fun answer ↦ .session (.getOutputEnabled answer)) ni.outputEnabled
  sourcesCurrent :=
    Taped.along (fun answer ↦ .session (.getSourcesCurrent answer)) ni.sourcesCurrent
  read property := Taped.along (fun answer ↦ .session (.get property answer))
    (ni.read property)
  write property value := Taped.along (fun raised ↦ .session (.set property value raised))
    (ni.write property value)
  commit := Taped.along (fun raised ↦ .session (.commit raised)) ni.commit

/-- `on_event`: the exception it raises, if any. -/
abbrev OnEvent (V : Type) := Option (String → V → Option String × V)

/-- The callback, with every call of it recorded. -/
def OnEvent.taped (onEvent : OnEvent V) : OnEvent (Taped V) :=
  onEvent.map fun f message ↦ Taped.along (.event message) (f message)

namespace Smu

/-! ## The driver -/

/-- The text of a result. -/
def OutputVerificationResult.text : OutputVerificationResult → String
  | .disabled => "disabled"
  | .stillEnabled => "still_enabled"
  | .verificationCommFailure => "verification_comm_failure"

section

variable (cfg : SmuConfig) (ni : Nidcpower V) (onEvent : OnEvent V)

/-- `_emit`: an exception of the callback is swallowed. -/
def emit (message : String) : SmuProg V Unit :=
  match onEvent with
  | none => pure ()
  | some f => do
    let _ ← niCall (f message)
    pure ()

/-- The `try` of `_apply_zero_setpoint`. -/
def zeroActiveSetpointReporting (stage : String) : SmuProg V Unit := do
  if ← niRaising ni.sourcesCurrent then
    let priorCurrent ← niRaising (ni.read .currentLevel)
    let priorVoltageLimit ← niRaising (ni.read .voltageLimit)
    niDoing (ni.write .currentLevel 0)
    niDoing (ni.write .voltageLimit 0)
    niDoing ni.commit
    emit onEvent s!"{stage}: current_level zeroed (was {formatFixed 3 priorCurrent} A)"
    emit onEvent s!"{stage}: voltage_limit zeroed (was {formatFixed 3 priorVoltageLimit} V)"
  else
    let priorVoltage ← niRaising (ni.read .voltageLevel)
    niDoing (ni.write .voltageLevel 0)
    niDoing ni.commit
    emit onEvent s!"{stage}: voltage_level zeroed (was {formatFixed 3 priorVoltage} V)"

/-- `_apply_zero_setpoint`. -/
def applyZeroSetpointReporting (stage : String) : SmuProg V Bool := do
  let m ← .get
  if m.session then
    match ← (zeroActiveSetpointReporting ni onEvent stage).attempt with
    | .ok _ => pure true
    | .error _ => pure false
  else pure true

/-- `zero_output_setpoint_best_effort`. -/
def zeroOutputSetpointBestEffort : SmuProg V Bool :=
  applyZeroSetpointReporting ni onEvent "post-isolation"

/-- The attempts that are left, with `last_result`. -/
def outputOffAttempts :
    ℕ → OutputVerificationResult → SmuProg V (Bool × OutputVerificationResult)
  | 0, lastResult => pure (false, lastResult)
  | attempts + 1, _ => do
    match ← (outputDisable cfg ni).attempt with
    | .error _ => outputOffAttempts attempts .verificationCommFailure
    | .ok _ =>
      match ← checkOutputDisabledDetailed ni with
      | .disabled => pure (true, .disabled)
      | .stillEnabled => outputOffAttempts attempts .stillEnabled
      | .verificationCommFailure => outputOffAttempts attempts .verificationCommFailure

/-- The message of the last event. -/
def verificationMessage (maxAttempts : ℕ) (verified : Bool) (result : OutputVerificationResult) :
    String :=
  if verified then s!"output disabled verification result: {result.text}"
  else s!"output disabled verification result: {result.text} (exhausted {maxAttempts} attempt(s))"

/-- `emergency_output_off` with a callback, for any `EMERGENCY_OUTPUT_OFF_MAX_ATTEMPTS`. -/
def emergencyOutputOffReporting (maxAttempts : ℕ) (reason : String) : SmuProg V Bool := do
  emit onEvent s!"emergency_output_off requested ({reason})"
  let _ ← applyZeroSetpointReporting ni onEvent "pre-disable"
  let (verified, result) ← outputOffAttempts cfg ni maxAttempts .verificationCommFailure
  emit onEvent (verificationMessage maxAttempts verified result)
  pure verified

end

/-! ## One attempt -/

/-- How one attempt was answered, with the answer to the abort before it. -/
inductive OffAttempt where
  /-- The write raised. -/
  | refused (aborted : Option String) (e : String)
  /-- The write went through, and the reading raised. -/
  | unread (aborted : Option String) (e : String)
  | read (aborted : Option String) (enabled : Bool)

/-- The calls of an attempt, newest first. -/
def OffAttempt.calls : OffAttempt → List SmuCall
  | refused aborted e =>
    [.session (.setOutputEnabled false (some e)), .session (.abort aborted)]
  | unread aborted e =>
    [.session (.getOutputEnabled (.error e)), .session (.setOutputEnabled false none),
      .session (.abort aborted)]
  | read aborted enabled =>
    [.session (.getOutputEnabled (.ok enabled)), .session (.setOutputEnabled false none),
      .session (.abort aborted)]

/-- What an attempt makes of its answer. -/
def OffAttempt.result : OffAttempt → OutputVerificationResult
  | refused _ _ | unread _ _ => .verificationCommFailure
  | read _ true => .stillEnabled
  | read _ false => .disabled

/-- The write succeeded, and the reading after it returned false. -/
def OffAttempt.Verifies : OffAttempt → Prop
  | read _ false => True
  | refused _ _ | unread _ _ | read _ true => False

theorem OffAttempt.verifies_iff {a : OffAttempt} : a.Verifies ↔ a.result = .disabled := by
  unfold Verifies result
  split
  · exact iff_of_true trivial rfl
  · exact iff_of_false id nofun
  · exact iff_of_false id nofun
  · exact iff_of_false id nofun

/-- The calls of attempts made one after the other, newest first. -/
def attemptCalls : List OffAttempt → List SmuCall
  | [] => []
  | a :: attempts => attemptCalls attempts ++ a.calls

/-- **What the loop makes of the answers**: of up to `n` attempts, up to the first that verifies. -/
structure Attempted (n : ℕ) (lastResult : OutputVerificationResult) (attempts : List OffAttempt)
    (verified : Bool) (result : OutputVerificationResult) : Prop where
  verified_iff : verified = true ↔ ∃ a ∈ attempts, a.Verifies
  stops : ∀ l a r, attempts = l ++ a :: r → a.Verifies → r = []
  length_le : attempts.length ≤ n
  exhausts : verified = false → attempts.length = n
  result_eq : result = (attempts.map OffAttempt.result).getLastD lastResult

theorem Attempted.zero (lastResult : OutputVerificationResult) :
    Attempted 0 lastResult [] false lastResult where
  verified_iff := ⟨nofun, fun ⟨_, ha, _⟩ ↦ absurd ha List.not_mem_nil⟩
  stops l a r h := absurd h (List.append_ne_nil_of_right_ne_nil l (List.cons_ne_nil a r)).symm
  length_le := Nat.le_refl 0
  exhausts _ := rfl
  result_eq := rfl

theorem Attempted.first {n : ℕ} {lastResult : OutputVerificationResult} {a : OffAttempt}
    (ha : a.Verifies) : Attempted (n + 1) lastResult [a] true .disabled where
  verified_iff := iff_of_true rfl ⟨a, List.mem_singleton_self a, ha⟩
  stops l b r h _ := by
    cases l with
    | nil => exact (List.cons.inj h).2.symm
    | cons c l =>
      exact absurd (List.cons.inj h).2
        (List.append_ne_nil_of_right_ne_nil l (List.cons_ne_nil b r)).symm
  length_le := Nat.succ_le_succ (Nat.zero_le n)
  exhausts h := absurd h nofun
  result_eq := (OffAttempt.verifies_iff.mp ha).symm

theorem Attempted.next {n : ℕ} {lastResult result : OutputVerificationResult} {a : OffAttempt}
    {attempts : List OffAttempt} {verified : Bool}
    (h : Attempted n a.result attempts verified result) (ha : ¬a.Verifies) :
    Attempted (n + 1) lastResult (a :: attempts) verified result where
  verified_iff := by
    rw [h.verified_iff]
    constructor
    · rintro ⟨b, hb, hverifies⟩
      exact ⟨b, List.mem_cons_of_mem a hb, hverifies⟩
    · rintro ⟨b, hb, hverifies⟩
      rcases List.mem_cons.mp hb with rfl | hb
      · exact absurd hverifies ha
      · exact ⟨b, hb, hverifies⟩
  stops l b r heq hb := by
    cases l with
    | nil =>
      obtain ⟨rfl, -⟩ := List.cons.inj heq
      exact absurd hb ha
    | cons c l => exact h.stops l b r (List.cons.inj heq).2 hb
  length_le := Nat.succ_le_succ h.length_le
  exhausts hverified := congrArg Nat.succ (h.exhausts hverified)
  result_eq := by
    rw [h.result_eq, List.map_cons, List.getLastD_cons]

/-! ## The calls of a shutdown -/

/-- The calls of a state, newest first. -/
def taped (m : Smu (Taped V)) : List SmuCall := m.world.calls

/-- A call that neither reads nor writes `output_enabled`, nor opens the relays. -/
def IsHarmless : SmuCall → Prop
  | .session (.setOutputEnabled _ _) | .session (.getOutputEnabled _) | .session (.abort _)
  | .openAll _ => False
  | _ => True

/-- `output_enabled` is not switched on. -/
def NotEnabling : SmuCall → Prop
  | .session (.setOutputEnabled true _) => False
  | _ => True

theorem notEnabling_of_isHarmless {c : SmuCall} (h : IsHarmless c) : NotEnabling c := by
  unfold NotEnabling
  split
  · exact h
  · trivial

theorem notEnabling_of_mem_attemptCalls {attempts : List OffAttempt} {c : SmuCall}
    (hc : c ∈ attemptCalls attempts) : NotEnabling c := by
  induction attempts with
  | nil => exact absurd hc List.not_mem_nil
  | cons a attempts ih =>
    rcases List.mem_append.mp hc with hc | hc
    · exact ih hc
    · cases a <;> simp only [OffAttempt.calls, List.mem_cons, List.not_mem_nil, or_false] at hc <;>
        rcases hc with rfl | rfl | rfl <;> trivial

/-- The session object stays, and calls with `P` are added. -/
def Calling (P : List SmuCall → Prop) (s t : Smu (Taped V)) : Prop :=
  (t.session = s.session ∧ t.connected = s.connected ∧ t.trace = s.trace) ∧ Added taped P s t

/-- Only calls with `K`. -/
def AllCalls (K : SmuCall → Prop) (new : List SmuCall) : Prop := ∀ c ∈ new, K c

/-- Only harmless calls. -/
def Harmless : List SmuCall → Prop := AllCalls IsHarmless

/-- A call of the driver, on its session or its callback. -/
def IsDriverCall : SmuCall → Prop
  | .session _ | .event _ _ | .duringHold _ | .hold _ => True
  | .openAll _ => False

theorem isDriverCall_of_isHarmless {c : SmuCall} (h : IsHarmless c) : IsDriverCall c := by
  cases c with
  | openAll raised => exact h
  | session | event | duringHold | hold => trivial

instance {K : SmuCall → Prop} : IsPreorder (Smu (Taped V)) (Calling (AllCalls K)) where
  refl _ := ⟨⟨rfl, rfl, rfl⟩, [], rfl, fun _ hc ↦ absurd hc List.not_mem_nil⟩
  trans := by
    rintro r s t ⟨⟨hsession, hconnected, htrace⟩, hrs⟩ ⟨⟨hsession', hconnected', htrace'⟩, hst⟩
    refine ⟨⟨hsession'.trans hsession, hconnected'.trans hconnected, htrace'.trans htrace⟩, ?_⟩
    refine hrs.append hst fun old new hold hnew c hc ↦ ?_
    exact (List.mem_append.mp hc).elim (hnew c) (hold c)

section

variable (cfg : SmuConfig) (ni : Nidcpower V) (onEvent : OnEvent V)

variable {K : SmuCall → Prop}

/-- A taped call, however it is answered. -/
theorem calling_niCall {α : Type} (call : α → SmuCall) (f : V → α × V)
    (h : ∀ a, K (call a)) :
    Ends (Calling (AllCalls K)) (niCall (Taped.along call f)) := fun s ↦
  ⟨_, rfl, ⟨rfl, rfl, rfl⟩, [call (f s.world.world).1], rfl, fun c hc ↦ by
    rw [List.mem_singleton.mp hc]
    exact h _⟩

theorem calling_niRaising {α : Type} (call : Except String α → SmuCall)
    (f : V → Except String α × V) (h : ∀ a, K (call a)) :
    Ends (Calling (AllCalls K)) (niRaising (Taped.along call f)) := by
  refine .bind (calling_niCall call f h) fun r ↦ ?_
  cases r with
  | ok a => exact .pure a
  | error e => exact .raise _

theorem calling_niDoing (call : Option String → SmuCall) (f : V → Option String × V)
    (h : ∀ a, K (call a)) :
    Ends (Calling (AllCalls K)) (niDoing (Taped.along call f)) := by
  refine .bind (calling_niCall call f h) fun r ↦ ?_
  cases r with
  | none => exact .pure _
  | some e => exact .raise _

theorem calling_emit (message : String) (h : ∀ raised, K (.event message raised)) :
    Ends (Calling (AllCalls K)) (emit onEvent.taped message : SmuProg (Taped V) Unit) := by
  cases onEvent with
  | none => exact .pure _
  | some f => exact .bind (calling_niCall _ _ h) fun _ ↦ .pure _

theorem harmless_applyZeroSetpoint (stage : String) :
    Ends (Calling (AllCalls IsHarmless))
      (applyZeroSetpointReporting ni.taped onEvent.taped stage) := by
  have hread : ∀ p, Ends (Calling (AllCalls IsHarmless)) (niRaising (ni.taped.read p)) := fun p ↦
    calling_niRaising _ _ fun _ ↦ trivial
  have hwrite : ∀ p x, Ends (Calling (AllCalls IsHarmless)) (niDoing (ni.taped.write p x)) :=
    fun p x ↦ calling_niDoing _ _ fun _ ↦ trivial
  have hcommit : Ends (Calling (AllCalls IsHarmless)) (niDoing ni.taped.commit) :=
    calling_niDoing _ _ fun _ ↦ trivial
  have hzero : Ends (Calling (AllCalls IsHarmless))
      (zeroActiveSetpointReporting ni.taped onEvent.taped stage) := by
    refine .bind (calling_niRaising _ _ fun _ ↦ trivial) fun sourcesCurrent ↦ .ite ?_ ?_
    · refine .bind (hread _) fun _ ↦ .bind (hread _) fun _ ↦ .bind (hwrite _ _) fun _ ↦ ?_
      refine .bind (hwrite _ _) fun _ ↦ .bind hcommit fun _ ↦ ?_
      exact .bind (calling_emit onEvent _ fun _ ↦ trivial) fun _ ↦
        calling_emit onEvent _ fun _ ↦ trivial
    · refine .bind (hread _) fun _ ↦ .bind (hwrite _ _) fun _ ↦ .bind hcommit fun _ ↦ ?_
      exact calling_emit onEvent _ fun _ ↦ trivial
  refine .bind .get fun m ↦ .ite (.bind (.attempt hzero) fun r ↦ ?_) (.pure _)
  cases r with
  | ok _ => exact .pure _
  | error _ => exact .pure _

/-! ## The attempts, one after the other -/

/-- Between two states the object stays, and the calls `new` are added. -/
def Adds (new : List SmuCall) : Smu (Taped V) → Smu (Taped V) → Prop :=
  Calling fun added ↦ added = new

theorem Adds.append {old new : List SmuCall} {r s t : Smu (Taped V)} (h : Adds old r s)
    (h' : Adds new s t) : Adds (new ++ old) r t := by
  obtain ⟨⟨hsession, hconnected, htrace⟩, hadded⟩ := h
  obtain ⟨⟨hsession', hconnected', htrace'⟩, hadded'⟩ := h'
  refine ⟨⟨hsession'.trans hsession, hconnected'.trans hconnected, htrace'.trans htrace⟩, ?_⟩
  refine hadded.append hadded' fun _ _ hold hnew ↦ ?_
  rw [hold, hnew]

theorem adds_niCall {α : Type} (call : α → SmuCall) (f : V → α × V) (s : Smu (Taped V)) :
    Post (niCall (Taped.along call f)) (fun a t ↦ Adds [call a] s t) (fun _ _ ↦ False) s :=
  ⟨⟨rfl, rfl, rfl⟩, [call (f s.world.world).1], rfl, rfl⟩

theorem post_outputDisable {s : Smu (Taped V)} (hs : s.session = true) :
    Post (outputDisable cfg ni.taped)
      (fun _ t ↦ ∃ aborted, Adds
        [.session (.setOutputEnabled false none), .session (.abort aborted)] s t)
      (fun _ t ↦ ∃ aborted e, Adds
        [.session (.setOutputEnabled false (some e)), .session (.abort aborted)] s t) s := by
  refine (post_bind _).mpr (post_get.mpr (post_ite.mpr ?_))
  rw [if_pos hs]
  refine (post_bind _).mpr ((adds_niCall _ _ s).mono (fun aborted t hst ↦ ?_) fun _ _ h ↦ h.elim)
  refine (post_bind _).mpr ((adds_niCall _ _ t).mono (fun raised u htu ↦ ?_) fun _ _ h ↦ h.elim)
  cases raised with
  | none => exact ⟨aborted, hst.append htu⟩
  | some e => exact ⟨aborted, e, hst.append htu⟩

theorem post_checkOutputDisabledDetailed {s : Smu (Taped V)} (hs : s.session = true) :
    Post (checkOutputDisabledDetailed ni.taped)
      (fun result t ↦ ∃ answer, Adds [.session (.getOutputEnabled answer)] s t ∧
        result = match answer with
          | .error _ => .verificationCommFailure
          | .ok enabled => if enabled then .stillEnabled else .disabled)
      (fun _ _ ↦ False) s := by
  refine (post_bind _).mpr (post_get.mpr (post_ite.mpr ?_))
  rw [if_pos hs]
  refine (adds_niCall _ _ s).bind fun answer t hst ↦ ?_
  cases answer with
  | error e => exact ⟨.error e, hst, rfl⟩
  | ok enabled => exact ⟨.ok enabled, hst, rfl⟩

/-- **The loop**, by induction on the attempts that are left. -/
theorem post_outputOffAttempts (n : ℕ) :
    ∀ (lastResult : OutputVerificationResult) {s : Smu (Taped V)}, s.session = true →
      Post (outputOffAttempts cfg ni.taped n lastResult)
        (fun r t ↦ ∃ attempts, Adds (attemptCalls attempts) s t ∧
          Attempted n lastResult attempts r.1 r.2) (fun _ _ ↦ False) s := by
  -- what is left after an attempt that does not verify
  have hnext : ∀ {n : ℕ} {lastResult : OutputVerificationResult} {a : OffAttempt}
      {s t : Smu (Taped V)}, ¬a.Verifies → Adds a.calls s t →
      Post (outputOffAttempts cfg ni.taped n a.result)
        (fun r u ↦ ∃ attempts, Adds (attemptCalls attempts) t u ∧
          Attempted n a.result attempts r.1 r.2) (fun _ _ ↦ False) t →
      Post (outputOffAttempts cfg ni.taped n a.result)
        (fun r u ↦ ∃ attempts, Adds (attemptCalls attempts) s u ∧
          Attempted (n + 1) lastResult attempts r.1 r.2) (fun _ _ ↦ False) t := by
    intro n lastResult a s t ha hst h
    refine h.mono (fun r u hu ↦ ?_) fun _ _ h ↦ h
    obtain ⟨attempts, htu, hattempted⟩ := hu
    exact ⟨a :: attempts, hst.append htu, hattempted.next ha⟩
  induction n with
  | zero =>
    intro lastResult s hs
    exact ⟨[], ⟨⟨rfl, rfl, rfl⟩, [], rfl, rfl⟩, .zero lastResult⟩
  | succ n ih =>
    intro lastResult s hs
    refine (post_bind _).mpr (post_attempt.mpr ((post_outputDisable cfg ni hs).mono ?_ ?_))
    · rintro _ t ⟨aborted, hst⟩
      have ht : t.session = true := hst.1.1.trans hs
      refine (post_bind _).mpr ((post_checkOutputDisabledDetailed ni ht).mono ?_ fun _ _ h ↦ h)
      rintro result u ⟨answer, htu, rfl⟩
      have hu : u.session = true := htu.1.1.trans ht
      rcases answer with e | (_ | _)
      · exact hnext (a := .unread aborted e) id (hst.append htu) (ih _ hu)
      · exact ⟨[.read aborted false], hst.append htu, .first trivial⟩
      · exact hnext (a := .read aborted true) id (hst.append htu) (ih _ hu)
    · rintro _ t ⟨aborted, e, hst⟩
      exact hnext (a := .refused aborted e) id hst (ih _ (hst.1.1.trans hs))

/-! ## The whole reflex -/

/-- What reporting a message leaves behind. -/
def Reported (message : String) (new : List SmuCall) : Prop :=
  match onEvent with
  | none => new = []
  | some _ => ∃ raised, new = [.event message raised]

theorem Reported.harmless {onEvent : OnEvent V} {message : String} {new : List SmuCall}
    (h : Reported onEvent message new) : Harmless new := by
  cases onEvent with
  | none =>
    obtain rfl : new = [] := h
    exact fun c hc ↦ absurd hc List.not_mem_nil
  | some f =>
    obtain ⟨raised, rfl⟩ : ∃ raised, new = [.event message raised] := h
    intro c hc
    rw [List.mem_singleton.mp hc]
    trivial

theorem post_emit (message : String) (s : Smu (Taped V)) :
    Post (emit onEvent.taped message : SmuProg (Taped V) Unit)
      (fun _ t ↦ ∃ new, Adds new s t ∧ Reported onEvent message new) (fun _ _ ↦ False) s := by
  cases onEvent with
  | none => exact ⟨[], ⟨⟨rfl, rfl, rfl⟩, [], rfl, rfl⟩, rfl⟩
  | some f =>
    refine (post_bind _).mpr ((adds_niCall (.event message) (f message) s).mono ?_ fun _ _ h ↦ h)
    exact fun raised t hst ↦ ⟨_, hst, raised, rfl⟩

theorem post_of_harmless {α : Type} {x : SmuProg (Taped V) α}
    (hx : Ends (Calling (AllCalls IsHarmless)) x) (hraises : Raises (fun _ ↦ False) x)
    (s : Smu (Taped V)) :
    Post x (fun _ t ↦ ∃ new, Adds new s t ∧ Harmless new) (fun _ _ ↦ False) s := by
  refine ((hx.within s).and (hraises s)).mono ?_ fun _ _ h ↦ h.2
  rintro _ t ⟨⟨hobject, new, heq, hnew⟩, -⟩
  exact ⟨new, ⟨hobject, new, heq, rfl⟩, hnew⟩

theorem raises_applyZeroSetpointReporting (stage : String) :
    Raises (fun _ ↦ False) (applyZeroSetpointReporting ni onEvent stage) := by
  refine .bind .get fun m ↦ .ite (.bind (.attempt _) fun r ↦ ?_) (.pure _)
  cases r with
  | ok _ => exact .pure _
  | error _ => exact .pure _

theorem raises_checkOutputDisabledDetailed :
    Raises (fun _ ↦ False) (checkOutputDisabledDetailed ni) := by
  refine .bind .get fun m ↦ .ite (.bind (.query _) fun r ↦ ?_) (.pure _)
  cases r with
  | ok enabled => exact .pure _
  | error e => exact .pure _

theorem post_emergencyOutputOffReporting (n : ℕ) (reason : String) {s : Smu (Taped V)}
    (hs : s.session = true) :
    Post (emergencyOutputOffReporting cfg ni.taped onEvent.taped n reason)
      (fun verified t ↦ ∃ opening attempts closing result,
        Adds (closing ++ (attemptCalls attempts ++ opening)) s t ∧ Harmless opening ∧
          Attempted n .verificationCommFailure attempts verified result ∧
          Reported onEvent (verificationMessage n verified result) closing)
      (fun _ _ ↦ False) s := by
  refine (post_bind _).mpr ((post_emit onEvent _ s).mono ?_ fun _ _ h ↦ h)
  rintro _ t ⟨entry, hst, hentry⟩
  have hzero := post_of_harmless (harmless_applyZeroSetpoint ni onEvent "pre-disable")
    (raises_applyZeroSetpointReporting ni.taped onEvent.taped "pre-disable") t
  refine (post_bind _).mpr (hzero.mono ?_ fun _ _ h ↦ h)
  rintro _ u ⟨zeroing, htu, hzeroing⟩
  have hu : u.session = true := htu.1.1.trans (hst.1.1.trans hs)
  refine (post_bind _).mpr ((post_outputOffAttempts cfg ni n _ hu).mono ?_ fun _ _ h ↦ h)
  rintro ⟨verified, result⟩ v ⟨attempts, huv, hattempted⟩
  refine (post_bind _).mpr ((post_emit onEvent _ v).mono ?_ fun _ _ h ↦ h)
  rintro _ w ⟨closing, hvw, hclosing⟩
  refine ⟨zeroing ++ entry, attempts, closing, result, ?_, ?_, hattempted, hclosing⟩
  · exact ((hst.append htu).append huv).append hvw
  · intro c hc
    exact (List.mem_append.mp hc).elim (hzeroing c) (hentry.harmless c)

theorem driver_of_harmless {α : Type} {x : SmuProg (Taped V) α}
    (hx : Ends (Calling (AllCalls IsHarmless)) x) : Ends (Calling (AllCalls IsDriverCall)) x := by
  intro s
  obtain ⟨t, ht, hobject, hadded⟩ := hx s
  exact ⟨t, ht, hobject, hadded.mono fun new hnew c hc ↦ isDriverCall_of_isHarmless (hnew c hc)⟩

theorem ends_outputOffAttempts (n : ℕ) (lastResult : OutputVerificationResult) :
    Ends (Calling (AllCalls IsDriverCall)) (outputOffAttempts cfg ni.taped n lastResult) := by
  have hdisable : Ends (Calling (AllCalls IsDriverCall)) (outputDisable cfg ni.taped) := by
    refine .bind .get fun m ↦ .ite ?_ (.pure _)
    refine .bind (calling_niCall _ _ fun _ ↦ trivial) fun _ ↦ ?_
    refine .bind (calling_niCall _ _ fun _ ↦ trivial) fun r ↦ ?_
    cases r with
    | none => exact .pure _
    | some e => exact .raise _
  have hcheck :
      Ends (Calling (AllCalls IsDriverCall)) (checkOutputDisabledDetailed ni.taped) := by
    refine .bind .get fun m ↦ .ite (.bind (calling_niCall _ _ fun _ ↦ trivial) fun r ↦ ?_)
      (.pure _)
    cases r with
    | ok enabled => exact .pure _
    | error e => exact .pure _
  induction n generalizing lastResult with
  | zero => exact .pure _
  | succ n ih =>
    refine .bind (.attempt hdisable) fun r ↦ ?_
    cases r with
    | error e => exact ih _
    | ok _ =>
      refine .bind hcheck fun result ↦ ?_
      cases result with
      | disabled => exact .pure _
      | stillEnabled | verificationCommFailure => exact ih _

theorem ends_emergencyOutputOffReporting (n : ℕ) (reason : String) :
    Ends (Calling (AllCalls IsDriverCall))
      (emergencyOutputOffReporting cfg ni.taped onEvent.taped n reason) := by
  refine .bind (calling_emit onEvent _ fun _ ↦ trivial) fun _ ↦ ?_
  refine .bind (driver_of_harmless (harmless_applyZeroSetpoint ni onEvent _)) fun _ ↦ ?_
  refine .bind (ends_outputOffAttempts cfg ni n _) fun _ ↦ ?_
  exact .bind (calling_emit onEvent _ fun _ ↦ trivial) fun _ ↦ .pure _

/-- With or without a session, the reflex raises nothing. -/
theorem post_emergencyOutputOffReporting_true (n : ℕ) (reason : String) (s : Smu V) :
    Post (emergencyOutputOffReporting cfg ni onEvent n reason) (fun _ _ ↦ True)
      (fun _ _ ↦ False) s := by
  have hemit : ∀ message, Raises (fun _ ↦ False) (emit onEvent message : SmuProg V Unit) := by
    intro message
    cases onEvent with
    | none => exact .pure _
    | some f => exact .bind (.query _) fun _ ↦ .pure _
  have hattempts : ∀ k lastResult, Raises (fun _ ↦ False)
      (outputOffAttempts cfg ni k lastResult) := by
    intro k
    induction k with
    | zero => exact fun _ ↦ .pure _
    | succ k ih =>
      refine fun _ ↦ .bind (.attempt _) fun r ↦ ?_
      cases r with
      | error e => exact ih _
      | ok _ =>
        refine .bind (raises_checkOutputDisabledDetailed ni) fun result ↦ ?_
        cases result with
        | disabled => exact .pure _
        | stillEnabled | verificationCommFailure => exact ih _
  have hraises : Raises (fun _ ↦ False) (emergencyOutputOffReporting cfg ni onEvent n reason) :=
    .bind (hemit _) fun _ ↦ .bind (raises_applyZeroSetpointReporting ni onEvent _) fun _ ↦
      .bind (hattempts n _) fun _ ↦ .bind (hemit _) fun _ ↦ .pure _
  exact hraises s

/-- **The reflex keeps its word.** It returns; it returns true exactly if an attempt wrote and then
read `output_enabled` as false; it makes no attempt after such a one, and all permitted attempts if
there is none; and it never switches the output on. -/
theorem emergencyOutputOff_keepsWord (n : ℕ) (reason : String) (s : Smu (Taped V))
    (hs : s.session = true) :
    ∃ verified t opening attempts closing,
      emergencyOutputOffReporting cfg ni.taped onEvent.taped n reason s = .ok verified t ∧
      taped t = closing ++ (attemptCalls attempts ++ opening) ++ taped s ∧
      (Harmless opening ∧ Harmless closing) ∧
      (verified = true ↔ ∃ a ∈ attempts, a.Verifies) ∧
      (∀ l a r, attempts = l ++ a :: r → a.Verifies → r = []) ∧
      attempts.length ≤ n ∧ ((¬∃ a ∈ attempts, a.Verifies) → attempts.length = n) ∧
      ∀ c ∈ closing ++ (attemptCalls attempts ++ opening), NotEnabling c := by
  obtain ⟨verified, t, hrun, opening, attempts, closing, result, hadds, hopening, hattempted,
    hclosing⟩ := (ends_emergencyOutputOffReporting cfg ni onEvent n reason).exists_ok
      (post_emergencyOutputOffReporting cfg ni onEvent n reason hs)
  obtain ⟨-, new, hnew, rfl⟩ := hadds
  refine ⟨verified, t, opening, attempts, closing, hrun, hnew, ⟨hopening, hclosing.harmless⟩,
    hattempted.verified_iff, hattempted.stops, hattempted.length_le, fun hnone ↦ ?_, fun c hc ↦ ?_⟩
  · refine hattempted.exhausts ?_
    rw [← hattempted.verified_iff] at hnone
    exact Bool.eq_false_of_not_eq_true hnone
  · rcases List.mem_append.mp hc with hc | hc
    · exact notEnabling_of_isHarmless (hclosing.harmless c hc)
    · rcases List.mem_append.mp hc with hc | hc
      · exact notEnabling_of_mem_attemptCalls hc
      · exact notEnabling_of_isHarmless (hopening c hc)

end

/-- A session that reads its output as still enabled once, and then is no longer heard of. -/
def fadingSession : Nidcpower ℕ where
  session readings := (.opened, readings)
  close readings := (none, readings)
  abort readings := (none, readings)
  disableOutput readings := (none, readings)
  outputEnabled readings :=
    (if readings = 0 then .ok true else .error "timeout", readings + 1)
  sourcesCurrent readings := (.error "timeout", readings)
  read _ readings := (.error "timeout", readings)
  write _ _ readings := (none, readings)
  commit readings := (none, readings)

/-- The SMU connected to it. -/
def fadingSmu : Smu (Taped ℕ) := ⟨true, true, ⟨0, []⟩, []⟩

theorem emergencyOutputOff_keepsWord_fading :
    ∃ verified t opening attempts closing,
      emergencyOutputOffReporting ⟨"PXI1Slot2", "0"⟩ fadingSession.taped (OnEvent.taped none) 3
        "normal shutdown" fadingSmu = .ok verified t ∧
      taped t = closing ++ (attemptCalls attempts ++ opening) ++ taped fadingSmu ∧
      (Harmless opening ∧ Harmless closing) ∧
      (verified = true ↔ ∃ a ∈ attempts, a.Verifies) ∧
      (∀ l a r, attempts = l ++ a :: r → a.Verifies → r = []) ∧
      attempts.length ≤ 3 ∧ ((¬∃ a ∈ attempts, a.Verifies) → attempts.length = 3) ∧
      ∀ c ∈ closing ++ (attemptCalls attempts ++ opening), NotEnabling c :=
  emergencyOutputOff_keepsWord _ _ none _ _ fadingSmu rfl

/-! ## Without a callback -/

section

variable (cfg : SmuConfig) (ni : Nidcpower V)

theorem applyZeroSetpointReporting_none (stage : String) :
    applyZeroSetpointReporting ni none stage = applyZeroSetpoint ni := by
  have hzero : zeroActiveSetpointReporting ni none stage = zeroActiveSetpoint ni := by
    unfold zeroActiveSetpointReporting zeroActiveSetpoint
    refine congrArg _ (funext fun sourcesCurrent ↦ ?_)
    cases sourcesCurrent with
    | true => simp only [emit, if_true, bind_pure_unit]
    | false => simp only [emit, bind_pure_unit, Bool.false_eq_true, if_false]
  unfold applyZeroSetpointReporting applyZeroSetpoint
  rewrite [hzero]
  rfl

theorem outputOffLoop_eq (n : ℕ) (lastResult : OutputVerificationResult) :
    outputOffLoop cfg ni n = Prod.fst <$> outputOffAttempts cfg ni n lastResult := by
  induction n generalizing lastResult with
  | zero => rfl
  | succ n ih =>
    unfold outputOffLoop outputOffAttempts
    rw [map_bind]
    refine congrArg _ (funext fun r ↦ ?_)
    cases r with
    | error e => exact ih _
    | ok _ =>
      rw [map_bind]
      refine congrArg (checkOutputDisabledDetailed ni >>= ·) (funext fun result ↦ ?_)
      cases result with
      | disabled => rfl
      | stillEnabled | verificationCommFailure => exact ih _

/-- The reflex of the callers that pass no callback, with its verdict noted. -/
theorem emergencyOutputOff_eq (reason : String) :
    emergencyOutputOff cfg ni reason =
      emergencyOutputOffReporting cfg ni none EMERGENCY_OUTPUT_OFF_MAX_ATTEMPTS reason >>=
        fun verified ↦ smuNote (.outputOff reason verified) >>= fun _ ↦ pure verified := by
  unfold emergencyOutputOff emergencyOutputOffReporting
  rw [applyZeroSetpointReporting_none, outputOffLoop_eq cfg ni _ .verificationCommFailure]
  simp only [emit, pure_bind, bind_assoc, map_eq_pure_bind]

end

end Smu

end Nipxi
