import Nipxi.Hardware.AuditRows
import Nipxi.Hardware.SmuSourcing

/-!
# The SMU under audit

`hardware/smu.py` with the calls a method makes of the other public methods of its object left as
calls: these are the ones that pass through the wrappers when the object is instrumented. What a
method does by itself, and what private helpers do, is embedded as it is in the driver's model.

`SmuRequest` lists the public methods with the arguments they are declared for, `measure` apart,
which calls no method and is sampled. `SmuRequest.Alone` says when a call makes no other, so that it
is handed over as one row (`calls_code_iff`).
-/

open Effect

namespace Nipxi.Smu

open Audit

variable {V : Type}

/-! ## Values -/

/-- What is passed to the methods and returned by them. -/
inductive SmuValue (V : Type)
  | none
  | bool (b : Bool)
  | number (q : ℚ)
  | text (s : String)
  | dict (entries : List (String × SmuValue V))
  /-- `on_event`. -/
  | callback (f : String → V → Option String × V)
  /-- `during_hold`, whose result is shown as a text. -/
  | duringHold (f : V → Except Exc String × V)
  /-- A cancellation token. -/
  | token (id : ℕ)

/-- `bool(value)`, for the values that are tested. -/
def SmuValue.truthy : SmuValue V → Bool
  | .none => false
  | .bool b => b
  | _ => true

/-- `None`, or the value. -/
def optional {α : Type} (f : α → SmuValue V) : Option α → SmuValue V
  | .none => .none
  | some a => f a

/-- The library, with what the other public methods use. -/
structure SmuLibrary (V : Type) extends SourcingSession V where
  /-- `session.self_test()`: the code and the message of the exception, as they are shown. -/
  selfTest : V → Option (String × String) × V
  instrumentModel : V → Except String String × V
  /-- `session.output_function = DC_CURRENT`. -/
  setDcCurrent : V → Option String × V
  setCurrentLevelRange : ℚ → V → Option String × V
  setVoltageLimitRange : ℚ → V → Option String × V
  /-- `interruptible_sleep(hold_s, token=token)`: the reason it was cancelled for, if it was. -/
  interruptibleSleep : ℚ → Option ℕ → V → Option String × V
  /-- `repr` of a number. -/
  repr : ℚ → String

/-- The public methods with their arguments. -/
inductive SmuRequest (V : Type)
  | connect
  | disconnect
  | identify
  | setChargeMode (currentA voltageLimitV : ℚ)
  | setDischargeMode (currentA voltageLimitV : ℚ)
  | outputEnable
  | outputDisable
  | verifyOutputDisabled
  | queryOutputState
  | checkCurrentOutputState (context : String)
  | forceOutputOffAndVerify (context : String)
  | crossValidateOutputState (measuredV measuredI : Option ℚ)
  | emergencyOutputOff (reason : String) (onEvent : OnEvent V)
  | zeroOutputSetpointBestEffort (context : String) (onEvent : OnEvent V)
  | sourceDcVoltagePoint (voltageV currentLimitA voltageRangeV holdS : ℚ)
      (duringHold : Option (V → Except Exc String × V)) (token : Option ℕ)

namespace SmuRequest

/-- The name of the method. -/
def name : SmuRequest V → String
  | connect => "connect"
  | disconnect => "disconnect"
  | identify => "identify"
  | setChargeMode .. => "set_charge_mode"
  | setDischargeMode .. => "set_discharge_mode"
  | outputEnable => "output_enable"
  | outputDisable => "output_disable"
  | verifyOutputDisabled => "verify_output_disabled"
  | queryOutputState => "query_output_state"
  | checkCurrentOutputState .. => "check_current_output_state"
  | forceOutputOffAndVerify .. => "force_output_off_and_verify"
  | crossValidateOutputState .. => "cross_validate_output_state"
  | emergencyOutputOff .. => "emergency_output_off"
  | zeroOutputSetpointBestEffort .. => "zero_output_setpoint_best_effort"
  | sourceDcVoltagePoint .. => "source_dc_voltage_point"

/-- Its arguments, by position. -/
def args : SmuRequest V → List (SmuValue V)
  | connect | disconnect | identify | outputEnable | outputDisable | verifyOutputDisabled
  | queryOutputState => []
  | setChargeMode currentA voltageLimitV | setDischargeMode currentA voltageLimitV =>
    [.number currentA, .number voltageLimitV]
  | checkCurrentOutputState context | forceOutputOffAndVerify context => [.text context]
  | crossValidateOutputState measuredV measuredI =>
    [optional .number measuredV, optional .number measuredI]
  | emergencyOutputOff reason onEvent => [.text reason, optional .callback onEvent]
  | zeroOutputSetpointBestEffort context onEvent => [.text context, optional .callback onEvent]
  | sourceDcVoltagePoint voltageV currentLimitA voltageRangeV holdS duringHold token =>
    [.number voltageV, .number currentLimitA, .number voltageRangeV, .number holdS,
      optional .duringHold duringHold, optional .token token]

end SmuRequest

/-! ## The code -/

/-- The code of a method. -/
abbrev SmuCode (V α : Type) := Code Raised (Smu V) (MethodCall (SmuValue V)) (SmuValue V) α

/-- `self.method(...)`. -/
def self (r : SmuRequest V) : SmuCode V (SmuValue V) := .send ⟨r.name, ⟨r.args, []⟩⟩

/-- `self.method(context=context)`. -/
def selfNamed (r : SmuRequest V) (context : String) : SmuCode V (SmuValue V) :=
  .send ⟨r.name, ⟨[], [("context", .text context)]⟩⟩

section

variable (cfg : SmuConfig) (lib : SmuLibrary V) (maxAttempts : ℕ)

def notConnected : Exc := ⟨.smuError, s!"{smuChannel cfg} is not connected"⟩

/-- `identify`. -/
def identify : SmuProg V String := do
  let m ← .get
  if m.session then
    match ← niCall lib.selfTest with
    | some (code, message) =>
      .raise ⟨.smuError, s!"SMU {cfg.resource} self-test FAILED: code={code} message={message}"⟩
    | none => niRaising lib.instrumentModel
  else .raise ⟨.smuError, s!"SMU {cfg.resource} is not connected"⟩

/-- `query_output_state`, with its result. -/
def queryOutputStateResult : SmuProg V (Option Bool) := do
  let m ← .get
  if m.session then
    match ← niCall lib.outputEnabled with
    | .ok state => pure (some state)
    | .error _ => pure none
  else pure none

/-- The `try` of `output_enable`. -/
def enableOutput : SmuProg V Unit :=
  (do niDoing lib.enableOutput
      niDoing lib.commit
      niDoing lib.initiate).handle fun e ↦
    .raise ⟨.smuError, s!"{smuChannel cfg} failed to enable output: {e.message}"⟩

/-- `output_enable`. -/
def outputEnableCode : SmuCode V (SmuValue V) := do
  let m ← own .get
  if m.session then
    own (enableOutput cfg lib)
    let state ← self .queryOutputState
    if state.truthy then pure .none
    else fail ⟨.smuError, s!"{smuChannel cfg}: output_enable() command sent but output could " ++
      "not be verified ON (readback: " ++
      (match state with | .bool _ => "False" | _ => "None") ++ ")."⟩
  else fail (notConnected cfg)

/-- `check_current_output_state`. -/
def checkCurrentOutputStateCode : SmuCode V (SmuValue V) :=
  self .queryOutputState

/-- `force_output_off_and_verify`. -/
def forceOutputOffAndVerifyCode (context : String) : SmuCode V (SmuValue V) := do
  let _ ← selfNamed (.checkCurrentOutputState context) context
  catching (self .outputDisable) (fun _ ↦ pure (.bool false)) fun _ ↦ self .verifyOutputDisabled

/-- The `try` of `_configure_current_source`, and the readback. -/
def configureCurrent (currentA voltageLimitV : ℚ) (context : String) :
    SmuProg V (SmuValue V) := do
  (do niDoing lib.setDcCurrent
      niDoing lib.setSinglePoint
      niDoing (lib.setCurrentLevelRange |currentA|)
      niDoing (lib.write .currentLevel currentA)
      niDoing (lib.setVoltageLimitRange |voltageLimitV|)
      niDoing (lib.write .voltageLimit voltageLimitV)
      niDoing lib.commit : SmuProg V Unit).handle fun e ↦
    .raise ⟨.smuError, s!"{smuChannel cfg} failed to configure {context} " ++
      s!"({formatSigned 3 currentA} A, {formatFixed 3 voltageLimitV} V limit): {e.message}"⟩
  let readbackCurrent ← niRaising (lib.read .currentLevel)
  let readbackVoltageLimit ← niRaising (lib.read .voltageLimit)
  verifyConfigReadback cfg "current_level" (lib.repr currentA) (lib.repr readbackCurrent)
    (SMU_CURRENT_READBACK_TOLERANCE_A < |readbackCurrent - currentA|)
  verifyConfigReadback cfg "voltage_limit" (lib.repr voltageLimitV) (lib.repr readbackVoltageLimit)
    (SMU_VOLTAGE_READBACK_TOLERANCE_V < |readbackVoltageLimit - voltageLimitV|)
  pure (.dict [("commanded_current_a", .number currentA),
    ("readback_current_a", .number readbackCurrent),
    ("commanded_voltage_limit_v", .number voltageLimitV),
    ("readback_voltage_limit_v", .number readbackVoltageLimit)])

/-- `_configure_current_source`. -/
def configureCurrentSourceCode (currentA voltageLimitV : ℚ) (context : String) :
    SmuCode V (SmuValue V) := do
  let m ← own .get
  if m.session then
    let ok ← selfNamed (.forceOutputOffAndVerify context) context
    if ok.truthy then own (configureCurrent cfg lib currentA voltageLimitV context)
    else fail ⟨.smuError, s!"{smuChannel cfg}: could not verify a safe (output-off) baseline " ++
      s!"before configuring {context} ({formatSigned 3 currentA} A, " ++
      s!"{formatFixed 3 voltageLimitV} V limit) -- aborting before any configuration was " ++
      "attempted."⟩
  else fail (notConnected cfg)

/-- What `emergency_output_off` does before its attempts. -/
def beginEmergency (reason : String) (onEvent : OnEvent V) : SmuProg V Unit := do
  emit onEvent s!"emergency_output_off requested ({reason})"
  let _ ← applyZeroSetpointReporting lib.toNidcpower onEvent "pre-disable"
  pure ()

/-- The attempts that are left, with `last_result`. -/
def outputOffAttemptsCode :
    ℕ → OutputVerificationResult → SmuCode V (Bool × OutputVerificationResult)
  | 0, lastResult => pure (false, lastResult)
  | attempts + 1, _ =>
    catching (self .outputDisable)
      (fun _ ↦ outputOffAttemptsCode attempts .verificationCommFailure) fun _ ↦ do
        match ← own (checkOutputDisabledDetailed lib.toNidcpower) with
        | .disabled => pure (true, .disabled)
        | .stillEnabled => outputOffAttemptsCode attempts .stillEnabled
        | .verificationCommFailure => outputOffAttemptsCode attempts .verificationCommFailure

/-- `emergency_output_off`, for any `EMERGENCY_OUTPUT_OFF_MAX_ATTEMPTS`. -/
def emergencyOutputOffCode (reason : String) (onEvent : OnEvent V) : SmuCode V (SmuValue V) := do
  own (beginEmergency lib reason onEvent)
  let (verified, result) ← outputOffAttemptsCode lib maxAttempts .verificationCommFailure
  own (emit onEvent (verificationMessage maxAttempts verified result))
  pure (.bool verified)

/-- What `source_dc_voltage_point` is called with, as the model of its parts takes it. -/
def sourcePoint (voltageV currentLimitA voltageRangeV holdS : ℚ)
    (duringHold : Option (V → Except Exc String × V)) (token : Option ℕ) :
    SourcePoint V String where
  voltageV := voltageV
  currentLimitA := currentLimitA
  voltageRangeV := voltageRangeV
  hold := lib.interruptibleSleep holdS token
  duringHold := duringHold
  repr := lib.repr

/-- What `source_dc_voltage_point` returns. -/
def readingValue (reading : SourceReading String) : SmuValue V :=
  .dict [("commanded_v", .number reading.commandedV), ("readback_v", .number reading.readbackV),
    ("commanded_current_limit_a", .number reading.commandedCurrentLimitA),
    ("readback_current_limit_a", .number reading.readbackCurrentLimitA),
    ("output_enabled_readback", .bool reading.outputEnabledReadback),
    ("in_compliance", .bool reading.inCompliance), ("measured_v", .number reading.measuredV),
    ("measured_i", .number reading.measuredI),
    ("during_hold_result", optional .text reading.duringHoldResult)]

/-- The second `try` of `source_dc_voltage_point`. An exception of the `finally` replaces the one
before it. -/
def guardedSourcingCode (p : SourcePoint V String) : SmuCode V (SourceReading String) := do
  let r ← (own ((sourcing cfg lib.toSourcingSession p).handle fun e ↦
    .raise (wrapSourcing cfg p e))).attempt
  let _ ← self .outputDisable
  let _ ← self .verifyOutputDisabled
  .ofExcept r

/-- The exception of a current limit that was entered. -/
def complianceError (p : SourcePoint V String) : Exc :=
  ⟨.smuError, s!"SMU {cfg.resource} entered current-limit compliance while sourcing " ++
    s!"{formatSigned 3 p.voltageV} V (limit {formatFixed 3 p.currentLimitA} A) -- possible " ++
    "short or unexpected load."⟩

/-- `source_dc_voltage_point`. -/
def sourceDcVoltagePointCode (p : SourcePoint V String) : SmuCode V (SmuValue V) := do
  let m ← own .get
  if m.session then
    let context := "source_dc_voltage_point pre-check"
    let ok ← selfNamed (.forceOutputOffAndVerify context) context
    if ok.truthy then
      own (configure cfg lib.toSourcingSession p)
      let reading ← guardedSourcingCode cfg lib p
      if reading.inCompliance then fail (complianceError cfg p)
      else pure (readingValue reading)
    else fail ⟨.smuError, s!"{smuChannel cfg}: could not verify a safe (output-off) baseline " ++
      s!"before sourcing {formatSigned 3 p.voltageV} V -- aborting before any configuration was " ++
      "attempted."⟩
  else fail (notConnected cfg)

/-- The code behind a request. -/
def SmuRequest.code : SmuRequest V → SmuCode V (SmuValue V)
  | .connect => do
    own (Smu.connect cfg lib.toNidcpower)
    pure .none
  | .disconnect => do
    own (Smu.disconnect lib.toNidcpower)
    pure .none
  | .identify => do
    let model ← own (Smu.identify cfg lib)
    pure (.text model)
  | .setChargeMode currentA voltageLimitV =>
    configureCurrentSourceCode cfg lib currentA voltageLimitV "charge mode"
  | .setDischargeMode currentA voltageLimitV =>
    configureCurrentSourceCode cfg lib (-|currentA|) voltageLimitV "discharge mode"
  | .outputEnable => outputEnableCode cfg lib
  | .outputDisable => do
    own (Smu.outputDisable cfg lib.toNidcpower)
    pure .none
  | .verifyOutputDisabled => do
    let ok ← own (Smu.verifyOutputDisabled lib.toSourcingSession)
    pure (.bool ok)
  | .queryOutputState => do
    let state ← own (queryOutputStateResult lib)
    pure (optional .bool state)
  | .checkCurrentOutputState _ => checkCurrentOutputStateCode
  | .forceOutputOffAndVerify context => forceOutputOffAndVerifyCode context
  | .crossValidateOutputState _ _ => fail ⟨.other "NotImplementedError",
    "Cross-validation of PSU output state against an external measurement (DMM reading or PSU " ++
    "ADC readback) is a documented future extension point -- not implemented yet. See " ++
    "docs/architecture.md 'PSU/Relay Cross-Validation (Future)'."⟩
  | .emergencyOutputOff reason onEvent => emergencyOutputOffCode lib maxAttempts reason onEvent
  | .zeroOutputSetpointBestEffort _ onEvent => do
    let ok ← own (Smu.zeroOutputSetpointBestEffort lib.toNidcpower onEvent)
    pure (.bool ok)
  | .sourceDcVoltagePoint voltageV currentLimitA voltageRangeV holdS duringHold token =>
    sourceDcVoltagePointCode cfg lib
      (sourcePoint lib voltageV currentLimitA voltageRangeV holdS duringHold token)

end

/-! ## The driver -/

/-- A value that may be `None`. -/
def optional? {α : Type} (f : SmuValue V → Option α) : SmuValue V → Option (Option α)
  | .none => some .none
  | v => (f v).map some

def SmuValue.number? : SmuValue V → Option ℚ
  | .number q => some q
  | _ => Option.none

def SmuValue.callback? : SmuValue V → Option (String → V → Option String × V)
  | .callback f => some f
  | _ => Option.none

def SmuValue.duringHold? : SmuValue V → Option (V → Except Exc String × V)
  | .duringHold f => some f
  | _ => Option.none

def SmuValue.token? : SmuValue V → Option ℕ
  | .token id => some id
  | _ => Option.none

/-- The public methods. -/
def smuMethods : List (String × Declaration (SmuRequest V) (SmuValue V)) :=
  [("connect", nullary .connect), ("disconnect", nullary .disconnect),
    ("identify", nullary .identify),
    ("set_charge_mode", ⟨[("current_a", .none), ("voltage_limit_v", .none)], fun
      | [.number currentA, .number voltageLimitV] => some (.setChargeMode currentA voltageLimitV)
      | _ => none⟩),
    ("set_discharge_mode", ⟨[("current_a", .none), ("voltage_limit_v", .none)], fun
      | [.number currentA, .number voltageLimitV] => some (.setDischargeMode currentA voltageLimitV)
      | _ => none⟩),
    ("output_enable", nullary .outputEnable), ("output_disable", nullary .outputDisable),
    ("verify_output_disabled", nullary .verifyOutputDisabled),
    ("query_output_state", nullary .queryOutputState),
    ("check_current_output_state", ⟨[("context", some (.text ""))], fun
      | [.text context] => some (.checkCurrentOutputState context)
      | _ => none⟩),
    ("force_output_off_and_verify", ⟨[("context", some (.text ""))], fun
      | [.text context] => some (.forceOutputOffAndVerify context)
      | _ => none⟩),
    ("cross_validate_output_state",
      ⟨[("measured_v", some .none), ("measured_i", some .none)], fun
      | [measuredV, measuredI] => do
        let measuredV ← optional? SmuValue.number? measuredV
        let measuredI ← optional? SmuValue.number? measuredI
        some (.crossValidateOutputState measuredV measuredI)
      | _ => none⟩),
    ("emergency_output_off", ⟨[("reason", .none), ("on_event", some .none)], fun
      | [.text reason, onEvent] => do
        let onEvent ← optional? SmuValue.callback? onEvent
        some (.emergencyOutputOff reason onEvent)
      | _ => none⟩),
    ("zero_output_setpoint_best_effort",
      ⟨[("context", some (.text "")), ("on_event", some .none)], fun
      | [.text context, onEvent] => do
        let onEvent ← optional? SmuValue.callback? onEvent
        some (.zeroOutputSetpointBestEffort context onEvent)
      | _ => none⟩),
    ("source_dc_voltage_point", ⟨[("voltage_v", .none), ("current_limit_a", .none),
        ("voltage_range_v", .none), ("hold_s", some (.number 0)), ("during_hold", some .none),
        ("token", some .none)], fun
      | [.number voltageV, .number currentLimitA, .number voltageRangeV, .number holdS, duringHold,
          token] => do
        let duringHold ← optional? SmuValue.duringHold? duringHold
        let token ← optional? SmuValue.token? token
        some (.sourceDcVoltagePoint voltageV currentLimitA voltageRangeV holdS duringHold token)
      | _ => none⟩)]

section

variable (cfg : SmuConfig) (lib : SmuLibrary V) (maxAttempts : ℕ)

/-- When a call makes no other call of the object. -/
def SmuRequest.Alone : SmuRequest V → Smu V → Prop
  | .connect, _ | .disconnect, _ | .identify, _ | .outputDisable, _ | .verifyOutputDisabled, _
  | .queryOutputState, _ | .crossValidateOutputState .., _
  | .zeroOutputSetpointBestEffort .., _ => True
  | .checkCurrentOutputState _, _ | .forceOutputOffAndVerify _, _ => False
  | .setChargeMode .., s | .setDischargeMode .., s | .sourceDcVoltagePoint .., s =>
    s.session = false
  | .outputEnable, s => s.session = false ∨ ∀ a t, enableOutput cfg lib s ≠ .ok a t
  | .emergencyOutputOff .., _ => maxAttempts = 0

/-! ## What comes before the attempts -/

section

variable (ni : Nidcpower V) (onEvent : OnEvent V)

theorem ends_niCall {α : Type} (f : V → α × V) : Ends Quiet (niCall f) := fun s ↦
  ⟨_, rfl, quiet_niCall f s⟩

theorem ends_niRaising {α : Type} (f : V → Except String α × V) : Ends Quiet (niRaising f) := by
  refine .bind (ends_niCall f) fun r ↦ ?_
  cases r with
  | ok a => exact .pure a
  | error e => exact .raise _

theorem ends_niDoing (f : V → Option String × V) : Ends Quiet (niDoing f) := by
  refine .bind (ends_niCall f) fun r ↦ ?_
  cases r with
  | none => exact .pure _
  | some e => exact .raise _

theorem ends_emit (message : String) : Ends Quiet (emit onEvent message) := by
  cases onEvent with
  | none => exact .pure _
  | some f => exact .bind (ends_niCall _) fun _ ↦ .pure _

theorem raises_emit (message : String) : Raises (fun _ ↦ False) (emit onEvent message) := by
  cases onEvent with
  | none => exact .pure _
  | some f => exact .bind (.query _) fun _ ↦ .pure _

theorem ends_zeroActiveSetpointReporting (stage : String) :
    Ends Quiet (zeroActiveSetpointReporting ni onEvent stage) := by
  refine .bind (ends_niRaising _) fun sourcesCurrent ↦ .ite ?_ ?_
  · refine .bind (ends_niRaising _) fun _ ↦ .bind (ends_niRaising _) fun _ ↦ ?_
    refine .bind (ends_niDoing _) fun _ ↦ .bind (ends_niDoing _) fun _ ↦ ?_
    exact .bind (ends_niDoing _) fun _ ↦ .bind (ends_emit onEvent _) fun _ ↦ ends_emit onEvent _
  · refine .bind (ends_niRaising _) fun _ ↦ .bind (ends_niDoing _) fun _ ↦ ?_
    exact .bind (ends_niDoing _) fun _ ↦ ends_emit onEvent _

theorem ends_applyZeroSetpointReporting (stage : String) :
    Ends Quiet (applyZeroSetpointReporting ni onEvent stage) := by
  refine .bind .get fun m ↦ .ite (.bind (ends_zeroActiveSetpointReporting ni onEvent stage).attempt
    fun r ↦ ?_) (.pure _)
  cases r with
  | ok _ => exact .pure _
  | error _ => exact .pure _

end

variable {cfg lib maxAttempts}

/-- It ends, and raises nothing. -/
theorem exists_beginEmergency (reason : String) (onEvent : OnEvent V) (s : Smu V) :
    ∃ a t, beginEmergency lib reason onEvent s = .ok a t := by
  have hends : Ends Quiet (beginEmergency lib reason onEvent) :=
    .bind (ends_emit onEvent _) fun _ ↦
      .bind (ends_applyZeroSetpointReporting _ onEvent _) fun _ ↦ .pure _
  have hraises : Raises (fun _ ↦ False) (beginEmergency lib reason onEvent) :=
    .bind (raises_emit onEvent _) fun _ ↦
      .bind (raises_applyZeroSetpointReporting _ onEvent _) fun _ ↦ .pure _
  obtain ⟨a, t, h, -⟩ := hends.exists_ok (hraises s)
  exact ⟨a, t, h⟩

/-! ## Which calls are alone -/

theorem calls_own_pure {α : Type} (x : SmuProg V α) (g : α → SmuValue V) (s : Smu V) :
    (own x >>= fun a ↦ (pure (g a) : SmuCode V (SmuValue V))).calls s = false := by
  rw [Code.calls_bind_eq (own x) fun _ _ ↦ rfl]
  exact Code.calls_embed _ x s

theorem calls_connected_iff {c : SmuRequest V} {context : String}
    {g : SmuValue V → SmuCode V (SmuValue V)} {e : Exc} {s : Smu V} :
    ((do
      let m ← own .get
      if m.session then
        let ok ← selfNamed c context
        g ok
      else fail e : SmuCode V (SmuValue V)).calls s = false) ↔ s.session = false := by
  change (if s.session = true then (selfNamed c context >>= g : SmuCode V (SmuValue V))
    else fail e).calls s = false ↔ _
  cases s.session with
  | false => exact iff_of_true rfl rfl
  | true => exact iff_of_false Bool.true_eq_false.mp Bool.true_eq_false.mp

theorem calls_outputEnableCode_iff (s : Smu V) :
    (outputEnableCode cfg lib).calls s = false ↔
      s.session = false ∨ ∀ a t, enableOutput cfg lib s ≠ .ok a t := by
  unfold outputEnableCode
  change (if s.session = true then _ else fail (notConnected cfg) :
    SmuCode V (SmuValue V)).calls s = false ↔ _
  cases s.session with
  | false => exact iff_of_true rfl (Or.inl rfl)
  | true =>
    refine (Code.calls_embed_bind_eq_false_iff _ fun _ _ ↦ rfl).trans ?_
    exact (or_iff_right Bool.true_eq_false.mp).symm

theorem calls_emergencyOutputOffCode_iff (reason : String) (onEvent : OnEvent V) (s : Smu V) :
    (emergencyOutputOffCode lib maxAttempts reason onEvent).calls s = false ↔
      maxAttempts = 0 := by
  have hbegins : ∃ a t, beginEmergency lib reason onEvent s = .ok a t :=
    exists_beginEmergency reason onEvent s
  obtain ⟨a, t, h⟩ := hbegins
  unfold emergencyOutputOffCode own
  rw [Code.calls_embed_bind_of_ok _ h]
  cases maxAttempts with
  | zero => exact iff_of_true (calls_own_pure _ _ t) rfl
  | succ attempts => exact iff_of_false Bool.true_eq_false.mp (Nat.succ_ne_zero attempts)

theorem calls_code_iff (r : SmuRequest V) (s : Smu V) :
    (r.code cfg lib maxAttempts).calls s = false ↔ r.Alone cfg lib maxAttempts s := by
  cases r with
  | connect | disconnect | identify | outputDisable | verifyOutputDisabled | queryOutputState
  | zeroOutputSetpointBestEffort => exact iff_of_true (calls_own_pure _ _ s) True.intro
  | crossValidateOutputState => exact iff_of_true rfl True.intro
  | checkCurrentOutputState | forceOutputOffAndVerify =>
    exact iff_of_false Bool.true_eq_false.mp id
  | setChargeMode | setDischargeMode | sourceDcVoltagePoint => exact calls_connected_iff
  | outputEnable => exact calls_outputEnableCode_iff s
  | emergencyOutputOff reason onEvent => exact calls_emergencyOutputOffCode_iff reason onEvent s

/-! ## The interface -/

/-- A call of one of the methods. -/
def IsRequest (c : MethodCall (SmuValue V)) : Prop := ∃ q : SmuRequest V, c.name = q.name

theorem obeys_self (r : SmuRequest V) : (self r).Obeys IsRequest IsException := .send ⟨r, rfl⟩

theorem obeys_selfNamed (r : SmuRequest V) (context : String) :
    (selfNamed r context).Obeys IsRequest IsException := .send ⟨r, rfl⟩

theorem obeys_configureCurrentSourceCode (currentA voltageLimitV : ℚ) (context : String) :
    (configureCurrentSourceCode cfg lib currentA voltageLimitV context).Obeys IsRequest
      IsException := by
  refine .bind (obeys_own _) fun m ↦ .ite ?_ (obeys_fail _)
  exact .bind (obeys_selfNamed _ _) fun ok ↦ .ite (obeys_own _) (obeys_fail _)

theorem obeys_outputEnableCode : (outputEnableCode cfg lib).Obeys IsRequest IsException := by
  refine .bind (obeys_own _) fun m ↦ .ite (.bind (obeys_own _) fun _ ↦ ?_) (obeys_fail _)
  exact .bind (obeys_self _) fun state ↦ .ite (.ret _) (obeys_fail _)

theorem obeys_outputOffAttemptsCode (attempts : ℕ) (lastResult : OutputVerificationResult) :
    (outputOffAttemptsCode lib attempts lastResult).Obeys IsRequest IsException := by
  induction attempts generalizing lastResult with
  | zero => exact .ret _
  | succ attempts ih =>
    refine obeys_catching (obeys_self _) (fun _ ↦ ih _) fun _ ↦ .bind (obeys_own _) fun result ↦ ?_
    cases result with
    | disabled => exact .ret _
    | stillEnabled | verificationCommFailure => exact ih _

theorem obeys_guardedSourcingCode (p : SourcePoint V String) :
    (guardedSourcingCode cfg lib p).Obeys IsRequest IsException := by
  refine .attempt_bind (obeys_own _) fun r hr ↦ ?_
  refine .bind (obeys_self _) fun _ ↦ .bind (obeys_self _) fun _ ↦ ?_
  cases r with
  | ok reading => exact .ret _
  | error e => exact hr e rfl

theorem obeys_sourceDcVoltagePointCode (p : SourcePoint V String) :
    (sourceDcVoltagePointCode cfg lib p).Obeys IsRequest IsException := by
  refine .bind (obeys_own _) fun m ↦ .ite ?_ (obeys_fail _)
  refine .bind (obeys_selfNamed _ _) fun ok ↦ .ite (.bind (obeys_own _) fun _ ↦ ?_) (obeys_fail _)
  exact .bind (obeys_guardedSourcingCode p) fun reading ↦ .ite (obeys_fail _) (.ret _)

/-- The driver calls only its public methods. -/
theorem obeys_code (r : SmuRequest V) :
    (r.code cfg lib maxAttempts).Obeys IsRequest IsException := by
  cases r with
  | connect | disconnect | identify | outputDisable | verifyOutputDisabled | queryOutputState
  | zeroOutputSetpointBestEffort => exact .bind (obeys_own _) fun _ ↦ .ret _
  | crossValidateOutputState => exact obeys_fail _
  | checkCurrentOutputState => exact obeys_self _
  | forceOutputOffAndVerify =>
    refine .bind (obeys_selfNamed _ _) fun _ ↦ ?_
    exact obeys_catching (obeys_self _) (fun _ ↦ .ret _) fun _ ↦ obeys_self _
  | setChargeMode | setDischargeMode => exact obeys_configureCurrentSourceCode _ _ _
  | sourceDcVoltagePoint => exact obeys_sourceDcVoltagePointCode _
  | outputEnable => exact obeys_outputEnableCode
  | emergencyOutputOff =>
    refine .bind (obeys_own _) fun _ ↦ .bind (obeys_outputOffAttemptsCode _ _) fun _ ↦ ?_
    exact .bind (obeys_own _) fun _ ↦ .ret _

theorem exists_declaration (r : SmuRequest V) :
    ∃ d, (smuMethods (V := V)).lookup r.name = some d ∧ d.ask r.args = some r := by
  cases r with
  | crossValidateOutputState measuredV measuredI =>
    refine ⟨_, rfl, ?_⟩
    cases measuredV <;> cases measuredI <;> rfl
  | emergencyOutputOff _ onEvent | zeroOutputSetpointBestEffort _ onEvent =>
    refine ⟨_, rfl, ?_⟩
    cases onEvent <;> rfl
  | sourceDcVoltagePoint _ _ _ _ duringHold token =>
    refine ⟨_, rfl, ?_⟩
    cases duringHold <;> cases token <;> rfl
  | _ => exact ⟨_, rfl, rfl⟩

end

/-- The class `SMU`. -/
def smuInterface (cfg : SmuConfig) (lib : SmuLibrary V) (maxAttempts : ℕ) :
    Interface (SmuRequest V) (Smu V) (SmuValue V) where
  className := "SMU"
  table := smuMethods
  name := SmuRequest.name
  args := SmuRequest.args
  code := SmuRequest.code cfg lib maxAttempts
  exists_declaration := exists_declaration
  isPublic_name r := by cases r <;> (dsimp only [SmuRequest.name]; decide)
  name_notMem r := by cases r <;> (dsimp only [SmuRequest.name]; decide)
  obeys_code := obeys_code

end Nipxi.Smu
