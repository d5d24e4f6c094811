import Mathlib.Data.Rat.Defs
import Nipxi.Effect.Prog
import Nipxi.Utils.Errors

/-!
# The source measure unit

`hardware/smu.py`, as far as connecting, disconnecting and the shutdown reflex go. The
NI-DCPower library and the instrument behind it are a record of functions over a world `V`; each
call may raise, and a reading may come back as it likes.

`emergency_output_off` never raises and says whether a readback confirmed the output off. The
observer callbacks it can be given are not passed by the callers modelled over this driver, and
are left out with the log.
-/

open Effect

namespace Nipxi

/-- How opening a session can end. -/
inductive SessionResult where
  | opened
  | notInstalled
  | failed (e : String)

/-- The numeric attributes of a session the shutdown touches. -/
inductive SmuProperty where
  | currentLevel
  | voltageLimit
  | voltageLevel

/-- The `nidcpower` library: its session and the instrument. A text is the exception raised. -/
structure Nidcpower (V : Type) where
  /-- `nidcpower.Session(...)`. -/
  session : V → SessionResult × V
  /-- `session.close()`. -/
  close : V → Option String × V
  /-- `session.abort()`. -/
  abort : V → Option String × V
  /-- `session.output_enabled = False`. -/
  disableOutput : V → Option String × V
  /-- Reading `session.output_enabled`. -/
  outputEnabled : V → Except String Bool × V
  /-- Whether `session.output_function` is `DC_CURRENT`. -/
  sourcesCurrent : V → Except String Bool × V
  /-- Reading an attribute. -/
  read : SmuProperty → V → Except String ℚ × V
  /-- Setting an attribute. -/
  write : SmuProperty → ℚ → V → Option String × V
  /-- `session.commit()`. -/
  commit : V → Option String × V

/-- What an SMU object is constructed with. -/
structure SmuConfig where
  resource : String
  /-- `cfg["smu_channel"]`. -/
  channel : String

/-- An entry of the trace. -/
inductive SmuEvent where
  /-- `connect` opened a session. -/
  | opened
  /-- `emergency_output_off(reason)` returned. -/
  | outputOff (reason : String) (verified : Bool)
  /-- `disconnect` was called while connected. -/
  | closed
  deriving DecidableEq

/-- An `SMU` object with the world it talks to. -/
structure Smu (V : Type) where
  /-- Whether `_session` is not `None`. -/
  session : Bool
  connected : Bool
  world : V
  /-- What happened, newest first. -/
  trace : List SmuEvent

/-- Driver code. -/
abbrev SmuProg (V α : Type) := Prog Exc (Smu V) α

variable {V : Type}

/-- A call into the library. -/
def niCall {α : Type} (f : V → α × V) : SmuProg V α :=
  .query fun m ↦ ((f m.world).1, { m with world := (f m.world).2 })

/-- A call that raises the library's exception. -/
def niRaising {α : Type} (f : V → Except String α × V) : SmuProg V α := do
  match ← niCall f with
  | .ok a => pure a
  | .error e => .raise ⟨.exception, e⟩

/-- The same for a call without a result. -/
def niDoing (f : V → Option String × V) : SmuProg V Unit := do
  match ← niCall f with
  | none => pure ()
  | some e => .raise ⟨.exception, e⟩

/-- Adds an entry to the trace. -/
def smuNote (ev : SmuEvent) : SmuProg V Unit := .modify fun m ↦ { m with trace := ev :: m.trace }

namespace Smu

section

variable (cfg : SmuConfig) (ni : Nidcpower V)

/-- `name`. -/
def name (cfg : SmuConfig) : String := "SMU_" ++ cfg.resource

/-- `connect`. -/
def connect : SmuProg V Unit := do
  match ← niCall ni.session with
  | .notInstalled =>
    .raise ⟨.smuError, "Library 'nidcpower' is not installed. Run: pip install nidcpower"⟩
  | .failed e =>
    .raise ⟨.smuError, "SMU " ++ cfg.resource ++ " channel " ++ cfg.channel
      ++ " failed to open session: " ++ e⟩
  | .opened =>
    .modify fun m ↦ { m with session := true, connected := true }
    smuNote .opened

/-- Notes that a connected object is disconnected. -/
def noteClosed : SmuProg V Unit := do
  let m ← .get
  if m.connected then smuNote .closed else pure ()

/-- `disconnect`: a failing close is ignored. -/
def disconnect : SmuProg V Unit := do
  noteClosed
  let m ← .get
  if m.session then
    let _ ← niCall ni.close
    .modify fun m ↦ { m with session := false, connected := false }
  else .modify fun m ↦ { m with connected := false }

/-- `output_disable`: a failing abort is ignored. -/
def outputDisable : SmuProg V Unit := do
  let m ← .get
  if m.session then
    let _ ← niCall ni.abort
    match ← niCall ni.disableOutput with
    | none => pure ()
    | some e =>
      .raise ⟨.smuError, "SMU " ++ cfg.resource ++ " failed to disable output: " ++ e⟩
  else pure ()

/-- `OutputVerificationResult`. -/
inductive OutputVerificationResult where
  | disabled
  | stillEnabled
  | verificationCommFailure
  deriving DecidableEq

/-- `_check_output_disabled_detailed`. -/
def checkOutputDisabledDetailed : SmuProg V OutputVerificationResult := do
  let m ← .get
  if m.session then
    match ← niCall ni.outputEnabled with
    | .error _ => pure .verificationCommFailure
    | .ok enabled => pure (if enabled then .stillEnabled else .disabled)
  else pure .disabled

/-- The writes of `_apply_zero_setpoint`, for the mode the session is in. -/
def zeroActiveSetpoint : SmuProg V Unit := do
  if ← niRaising ni.sourcesCurrent then
    let _ ← niRaising (ni.read .currentLevel)
    let _ ← niRaising (ni.read .voltageLimit)
    niDoing (ni.write .currentLevel 0)
    niDoing (ni.write .voltageLimit 0)
    niDoing ni.commit
  else
    let _ ← niRaising (ni.read .voltageLevel)
    niDoing (ni.write .voltageLevel 0)
    niDoing ni.commit

/-- `_apply_zero_setpoint`, which is also `zero_output_setpoint_best_effort`. -/
def applyZeroSetpoint : SmuProg V Bool := do
  let m ← .get
  if m.session then
    match ← (zeroActiveSetpoint ni).attempt with
    | .ok _ => pure true
    | .error _ => pure false
  else pure true

/-- The attempts of `emergency_output_off`. -/
def outputOffLoop : ℕ → SmuProg V Bool
  | 0 => pure false
  | attempts + 1 => do
    match ← (outputDisable cfg ni).attempt with
    | .error _ => outputOffLoop attempts
    | .ok _ =>
      match ← checkOutputDisabledDetailed ni with
      | .disabled => pure true
      | .stillEnabled | .verificationCommFailure => outputOffLoop attempts

/-- `Settings.EMERGENCY_OUTPUT_OFF_MAX_ATTEMPTS`. -/
def EMERGENCY_OUTPUT_OFF_MAX_ATTEMPTS : ℕ := 3

/-- `emergency_output_off`. -/
def emergencyOutputOff (reason : String) : SmuProg V Bool := do
  let _ ← applyZeroSetpoint ni
  let verified ← outputOffLoop cfg ni EMERGENCY_OUTPUT_OFF_MAX_ATTEMPTS
  smuNote (.outputOff reason verified)
  pure verified

end

/-! ## What the calls leave on the trace -/

/-- Only the instrument has changed. -/
def Quiet (s t : Smu V) : Prop :=
  t.trace = s.trace ∧ t.connected = s.connected ∧ t.session = s.session

instance : IsPreorder (Smu V) Quiet where
  refl _ := ⟨rfl, rfl, rfl⟩
  trans _ _ _ h h' := ⟨h'.1.trans h.1, h'.2.1.trans h.2.1, h'.2.2.trans h.2.2⟩

section

variable (cfg : SmuConfig) (ni : Nidcpower V)

theorem quiet_niCall {α : Type} (f : V → α × V) : Within Quiet (niCall f) :=
  fun _ ↦ ⟨rfl, rfl, rfl⟩

theorem quiet_niRaising {α : Type} (f : V → Except String α × V) : Within Quiet (niRaising f) := by
  refine .bind (quiet_niCall f) fun r ↦ ?_
  cases r with
  | ok a => exact .pure a
  | error e => exact .raise _

theorem quiet_niDoing (f : V → Option String × V) : Within Quiet (niDoing f) := by
  refine .bind (quiet_niCall f) fun r ↦ ?_
  cases r with
  | none => exact .pure _
  | some e => exact .raise _

theorem quiet_applyZeroSetpoint : Within Quiet (applyZeroSetpoint ni) := by
  have hread : ∀ p, Within Quiet (niRaising (ni.read p)) := fun p ↦ quiet_niRaising _
  have hwrite : ∀ f : V → Option String × V, Within Quiet (niDoing f) := quiet_niDoing
  have hzero : Within Quiet (zeroActiveSetpoint ni) :=
    .bind (quiet_niRaising _) fun _ ↦
      .ite (.bind (hread _) fun _ ↦ .bind (hread _) fun _ ↦ .bind (hwrite _) fun _ ↦
          .bind (hwrite _) fun _ ↦ hwrite _)
        (.bind (hread _) fun _ ↦ .bind (hwrite _) fun _ ↦ hwrite _)
  refine .bind .get fun m ↦ .ite (.bind (.attempt hzero) fun r ↦ ?_) (.pure _)
  cases r with
  | ok _ => exact .pure _
  | error _ => exact .pure _

theorem raises_applyZeroSetpoint : Raises (fun _ ↦ False) (applyZeroSetpoint ni) := by
  refine .bind .get fun m ↦ .ite (.bind (.attempt _) fun r ↦ ?_) (.pure _)
  cases r with
  | ok _ => exact .pure _
  | error _ => exact .pure _

theorem quiet_outputOffLoop (attempts : ℕ) : Within Quiet (outputOffLoop cfg ni attempts) := by
  have hdisable : Within Quiet (outputDisable cfg ni) := by
    refine .bind .get fun m ↦ .ite ?_ (.pure _)
    refine .bind (quiet_niCall _) fun _ ↦ .bind (quiet_niCall _) fun r ↦ ?_
    cases r with
    | none => exact .pure _
    | some e => exact .raise _
  have hcheck : Within Quiet (checkOutputDisabledDetailed ni) := by
    refine .bind .get fun m ↦ .ite (.bind (quiet_niCall _) fun r ↦ ?_) (.pure _)
    cases r with
    | ok enabled => exact .pure _
    | error e => exact .pure _
  induction attempts with
  | zero => exact .pure _
  | succ attempts ih =>
    refine .bind (.attempt hdisable) fun r ↦ ?_
    cases r with
    | error e => exact ih
    | ok _ =>
      refine .bind hcheck fun result ↦ ?_
      cases result with
      | disabled => exact .pure _
      | stillEnabled | verificationCommFailure => exact ih

theorem raises_outputOffLoop (attempts : ℕ) :
    Raises (fun _ ↦ False) (outputOffLoop cfg ni attempts) := by
  have hcheck : Raises (fun _ ↦ False) (checkOutputDisabledDetailed ni) := by
    refine .bind .get fun m ↦ .ite (.bind (.query _) fun r ↦ ?_) (.pure _)
    cases r with
    | ok enabled => exact .pure _
    | error e => exact .pure _
  induction attempts with
  | zero => exact .pure _
  | succ attempts ih =>
    refine .bind (.attempt _) fun r ↦ ?_
    cases r with
    | error e => exact ih
    | ok _ =>
      refine .bind hcheck fun result ↦ ?_
      cases result with
      | disabled => exact .pure _
      | stillEnabled | verificationCommFailure => exact ih

/-- **Connecting** opens a session or changes nothing but the world. -/
theorem post_connect (s : Smu V) :
    Post (connect cfg ni) (fun _ t ↦ t.connected = true ∧ t.trace = .opened :: s.trace)
      (fun _ t ↦ Quiet s t) s := by
  refine (post_bind _).mpr ((post_query _).mpr ?_)
  split
  · exact ⟨rfl, rfl, rfl⟩
  · exact ⟨rfl, rfl, rfl⟩
  · exact ⟨rfl, rfl⟩

/-- The trace after a disconnect. -/
def closing (smu : Smu V) : List SmuEvent :=
  if smu.connected then .closed :: smu.trace else smu.trace

/-- **Disconnecting** always leaves the object not connected. -/
theorem post_disconnect (s : Smu V) :
    Post (disconnect ni) (fun _ t ↦ t.connected = false ∧ t.trace = s.closing)
      (fun _ _ ↦ False) s := by
  have hnote : Post noteClosed (fun _ t ↦ t.trace = s.closing) (fun _ _ ↦ False) s := by
    refine (post_bind _).mpr (post_get.mpr (post_ite.mpr ?_))
    unfold closing
    split <;> rfl
  refine hnote.bind fun _ t ht ↦ ?_
  refine (post_bind _).mpr (post_get.mpr (post_ite.mpr ?_))
  split
  · exact (post_bind _).mpr ⟨rfl, ht⟩
  · exact ⟨rfl, ht⟩

/-- **The shutdown reflex** leaves its verdict on the trace, and raises nothing. -/
theorem post_emergencyOutputOff (reason : String) (s : Smu V) :
    Post (emergencyOutputOff cfg ni reason)
      (fun verified t ↦ t.trace = .outputOff reason verified :: s.trace ∧
        t.connected = s.connected) (fun _ _ ↦ False) s := by
  have hzero := (quiet_applyZeroSetpoint ni s).and (raises_applyZeroSetpoint ni s)
  refine (post_bind _).mpr (hzero.mono ?_ fun _ _ h ↦ h.2)
  rintro _ t ⟨hst, -⟩
  have hloop := (quiet_outputOffLoop cfg ni EMERGENCY_OUTPUT_OFF_MAX_ATTEMPTS t).and
    (raises_outputOffLoop cfg ni EMERGENCY_OUTPUT_OFF_MAX_ATTEMPTS t)
  refine (post_bind _).mpr (hloop.mono ?_ fun _ _ h ↦ h.2)
  rintro verified u ⟨htu, -⟩
  exact ⟨congrArg _ (htu.1.trans hst.1), htu.2.1.trans hst.2.1⟩

end

end Smu

end Nipxi
