import Nipxi.Config.Devices
import Nipxi.Config.SystemMode
import Nipxi.Utils.Numbers

/-!
# The validation of a group's test recipe

`validate_group_test_config` of `utils/validators.py`, stage by stage. The limits of Stages 2 and 3
are bounds from one side only: nothing asks for a positive setpoint, as Stage 4 does for the
timeouts and `validate_settings` for the default currents. What an accepted recipe is known to
satisfy is `exists_of_validateGroupTestConfig`.

The stages are those of a recipe with any numbers `N`: rational ones here, and `PyNumber` where
`nan` matters.
-/

open Collections

namespace Nipxi

/-! ## Recipes -/

variable {N : Type}

/-- A value of `test_setpoints`. -/
inductive SetpointValue (N : Type) where
  /-- An `int` or a `float`, with its `repr`. -/
  | number (value : N) (repr : String)
  | flag (value : Bool)
  | text (value : String)
  | none
  deriving DecidableEq

/-- `repr` of a text of printable characters, line breaks and tabs. -/
def reprStr (s : String) : String :=
  let quote := if '\'' ∈ s.toList ∧ '"' ∉ s.toList then '"' else '\''
  let escape (c : Char) : List Char :=
    if c = '\\' ∨ c = quote then ['\\', c]
    else if c = '\n' then ['\\', 'n']
    else if c = '\r' then ['\\', 'r']
    else if c = '\t' then ['\\', 't']
    else [c]
  String.ofList (quote :: s.toList.flatMap escape ++ [quote])

namespace SetpointValue

/-- `repr(value)`. -/
def repr : SetpointValue N → String
  | number _ repr => repr
  | flag value => if value then "True" else "False"
  | text value => reprStr value
  | none => "None"

/-- `isinstance(value, (int, float)) and not isinstance(value, bool)`, with the value. -/
def seconds? : SetpointValue N → Option N
  | number value _ => some value
  | flag _ | text _ | none => Option.none

variable [ConfigNumber N]

/-- The value as a number. -/
def numeric? : SetpointValue N → Option N
  | number value _ => some value
  | flag value => some (ConfigNumber.ofRat (if value then 1 else 0))
  | text _ | none => Option.none

/-- The value as an operand of `<` or `>` against a `float`. -/
def operand (op : String) (v : SetpointValue N) : Except Exc N :=
  match v.numeric? with
  | some x => .ok x
  | Option.none =>
    let type := match v with
      | text _ => "str"
      | _ => "NoneType"
    .error ⟨.other "TypeError",
      s!"'{op}' not supported between instances of '{type}' and 'float'"⟩

end SetpointValue

/-- `test_setpoints`. -/
abbrev Setpoints (N : Type) := Dict String (SetpointValue N)

/-- The entries of a group the validator reads beside its devices. -/
structure GroupRecipe (N : Type) where
  batteryType : Option String
  testSetpoints : Option (Setpoints N)

/-- The limits of an entry of `BATTERY_CONFIGS`. -/
structure BatteryCfg where
  maxChargeCurrentA : ℚ
  voltageMaxV : ℚ
  maxDischargeCurrentA : ℚ
  voltageMinV : ℚ

/-- What the validator reads of the configuration. -/
structure ValidatorConfig (N : Type) where
  tables : DeviceTables
  recipes : Dict String (GroupRecipe N)
  /-- `BATTERY_CONFIGS`. -/
  batteryConfigs : Dict String BatteryCfg
  /-- `Settings.SYSTEM_MODE`. -/
  systemMode : SystemMode

/-- `Settings.MAX_TIMEOUT_OVERRIDE_S`. -/
def MAX_TIMEOUT_OVERRIDE_S : ℚ := 86400

/-- `_REQUIRED_TEST_SETPOINTS`. -/
def REQUIRED_TEST_SETPOINTS : List String :=
  ["charge_current_a", "charge_voltage_v", "discharge_current_a", "discharge_cutoff_v"]

/-- What the validator returns. -/
structure AcceptedRecipe (N : Type) where
  batteryType : String
  testSetpoints : Setpoints N

/-- The recipe of a group. -/
def ValidatorConfig.recipe (cfg : ValidatorConfig N) (group : String) : GroupRecipe N :=
  (cfg.recipes.get? group).getD ⟨none, none⟩

/-- The SMU's rated current. -/
def GroupHardware.smuMaxA (hw : GroupHardware) : Option ℚ := hw.smuCfg.bind DeviceCfg.maxCurrentA

/-! ## The stages -/

section Stages

variable (cfg : ValidatorConfig N) (group : String)

/-- `test_setpoints[key]`. -/
def setpoint (setpoints : Setpoints N) (key : String) : Except Exc (SetpointValue N) :=
  match setpoints.get? key with
  | some v => .ok v
  | none => .error ⟨.other "KeyError", reprStr key⟩

/-- The roles without a device. -/
def missingRoles (hw : GroupHardware) : List String :=
  [("relay_matrix", hw.relayMatrixCfg), ("smu", hw.smuCfg), ("dmm", hw.dmmCfg)].filterMap
    fun role ↦ if role.2.isNone then some role.1 else none

/-- Stage 1: the group is known, with its devices, its battery type and its setpoints. -/
def groupConfiguration : Except Exc (GroupHardware × String × Setpoints N) :=
  match hardwareForGroup cfg.tables group with
  | .error _ =>
    .error ⟨.groupConfigurationError, s!"Unknown battery group {reprStr group}."⟩
  | .ok hw =>
    let see := s!"see config/devices.py::BATTERY_GROUPS[{reprStr group}]."
    if missingRoles hw ≠ [] then
      let roles := String.intercalate ", " (missingRoles hw)
      .error ⟨.groupConfigurationError,
        s!"Group {reprStr group} has no {roles} assigned -- " ++ see⟩
    else
      match (cfg.recipe group).batteryType, (cfg.recipe group).testSetpoints with
      | none, _ =>
        .error ⟨.groupConfigurationError,
          s!"Group {reprStr group} has no battery_type configured -- " ++ see⟩
      | some _, none =>
        .error ⟨.groupConfigurationError, missingSetpoints see⟩
      | some batteryType, some setpoints =>
        if ∀ key ∈ REQUIRED_TEST_SETPOINTS, key ∈ setpoints.keys then
          .ok (hw, batteryType, setpoints)
        else .error ⟨.groupConfigurationError, missingSetpoints see⟩
where
  /-- The text for a recipe that lacks a setpoint. -/
  missingSetpoints (see : String) : String :=
    s!"Group {reprStr group} is missing one or more required test_setpoints " ++
      "('charge_current_a', 'charge_voltage_v', 'discharge_current_a', 'discharge_cutoff_v')" ++
      " -- " ++ see

/-- `resolved_test_setpoints.setdefault("charge_mode", "CC_CV")`. -/
def setDefaultChargeMode (setpoints : Setpoints N) : Setpoints N :=
  match setpoints.get? "charge_mode" with
  | some _ => setpoints
  | none => setpoints.insert "charge_mode" (.text "CC_CV")

open ConfigNumber

variable [ConfigNumber N]

/-- A setpoint is refused where `bad` holds of it. -/
def checkSetpoint (setpoints : Setpoints N) (key op : String) (cls : ExcClass) (bad : N → Bool)
    (message : N → String) : Except Exc N := do
  let v ← setpoint setpoints key
  let x ← v.operand op
  if bad x then .error ⟨cls, message x⟩ else .ok x

/-- A setpoint against a limit of the battery. -/
def checkBatteryLimit (batteryType : String) (setpoints : Setpoints N)
    (key unit limitKey : String) (limit : ℚ) : Except Exc N :=
  checkSetpoint setpoints key ">" .configurationError (lt (ofRat limit)) fun x ↦
    s!"Group {reprStr group}: configured {key} ({format 3 x} {unit}) exceeds " ++
      s!"{batteryType}'s {limitKey} ({formatFixed 3 limit} {unit})."

/-- Stage 2: the setpoints against the limits of the battery. -/
def batteryLimits (batteryType : String) (setpoints : Setpoints N) : Except Exc Unit :=
  match cfg.batteryConfigs.get? batteryType with
  | none =>
    .error ⟨.configurationError,
      s!"Group {reprStr group}: battery_type {reprStr batteryType} is not a known " ++
        s!"BATTERY_CONFIGS entry -- see config/devices.py::BATTERY_GROUPS" ++
        s!"[{reprStr group}] and config/devices.py::BATTERY_CONFIGS."⟩
  | some battery => do
    let _ ← checkBatteryLimit group batteryType setpoints "charge_current_a" "A"
      "max_charge_current_a" battery.maxChargeCurrentA
    let _ ← checkBatteryLimit group batteryType setpoints "charge_voltage_v" "V" "voltage_max_v"
      battery.voltageMaxV
    let _ ← checkBatteryLimit group batteryType setpoints "discharge_current_a" "A"
      "max_discharge_current_a" battery.maxDischargeCurrentA
    -- The floor is the one limit from below.
    let _ ← checkSetpoint setpoints "discharge_cutoff_v" "<" .configurationError
      (lt · (ofRat battery.voltageMinV)) fun x ↦
        s!"Group {reprStr group}: configured discharge_cutoff_v ({format 3 x} V) is below " ++
          s!"{batteryType}'s voltage_min_v safety floor ({formatFixed 3 battery.voltageMinV} V)."
    .ok ()

/-- A setpoint against the rated current of the SMU. -/
def checkCapability (hw : GroupHardware) (setpoints : Setpoints N) (key : String) (limit : ℚ) :
    Except Exc N :=
  let smuName := hw.smuName.getD "None"
  checkSetpoint setpoints key ">" .hardwareConfigurationError (lt (ofRat limit)) fun x ↦
    s!"Group {reprStr group}: configured {key} ({format 3 x} A) exceeds " ++
      s!"{smuName}'s rated capability ({formatFixed 3 limit} A)."

/-- Stage 3: the currents against the rated current of the SMU, where there is one. -/
def hardwareCapability (hw : GroupHardware) (setpoints : Setpoints N) : Except Exc Unit :=
  match hw.smuMaxA with
  | none => .ok ()
  | some limit => do
    let _ ← checkCapability group hw setpoints "charge_current_a" limit
    let _ ← checkCapability group hw setpoints "discharge_current_a" limit
    .ok ()

/-- One key of Stage 4. -/
def checkTimeout (setpoints : Setpoints N) (key : String) : Except Exc Unit :=
  let name := s!"Group {reprStr group}: test_setpoints[{reprStr key}]"
  match setpoints.get? key with
  | none => .ok ()
  | some v =>
    if cfg.systemMode = .production then
      .error ⟨.groupConfigurationError,
        s!"{name} is a validation-only timeout override and must not be present while " ++
          s!"Settings.SYSTEM_MODE is PRODUCTION -- remove it from config/devices.py::" ++
          s!"BATTERY_GROUPS[{reprStr group}][\"test_setpoints\"] before running this group in " ++
          "production."⟩
    else
      match v.seconds? with
      | none => .error ⟨.configurationError, notPositive name v⟩
      | some x =>
        if le x (ofRat 0) then .error ⟨.configurationError, notPositive name v⟩
        else if lt (ofRat MAX_TIMEOUT_OVERRIDE_S) x then
          .error ⟨.configurationError,
            s!"{name} ({format 0 x}s) exceeds the hard ceiling " ++
              s!"Settings.MAX_TIMEOUT_OVERRIDE_S ({formatFixed 0 MAX_TIMEOUT_OVERRIDE_S}s) -- " ++
              "a validation timeout override may be large, but must never be effectively " ++
              "unbounded."⟩
        else .ok ()
where
  /-- The text for a value that is no positive number. -/
  notPositive (name : String) (v : SetpointValue N) : String :=
    s!"{name} must be a positive number of seconds if present, got {v.repr}."

/-- Stage 4: the timeout overrides. -/
def timeoutOverrides (setpoints : Setpoints N) : Except Exc Unit := do
  checkTimeout cfg group setpoints "charge_timeout_s"
  checkTimeout cfg group setpoints "discharge_timeout_s"

/-- Stage 5: the charge mode, by default `CC_CV`. -/
def chargeMode [DecidableEq N] (setpoints : Setpoints N) : Except Exc (Setpoints N) := do
  let resolved := setDefaultChargeMode setpoints
  let mode ← setpoint resolved "charge_mode"
  if mode ∉ [SetpointValue.text "CC_CV", .text "CV"] then
    .error ⟨.groupConfigurationError,
      s!"Group {reprStr group}: test_setpoints['charge_mode'] must be one of " ++
        s!"('CC_CV', 'CV'), got {mode.repr}."⟩
  else if mode ∉ [SetpointValue.text "CC_CV"] then
    .error ⟨.groupConfigurationError,
      s!"Group {reprStr group}: charge_mode {mode.repr} is a recognized future " ++
        "charging strategy but is not yet implemented in ChargeSequence -- only " ++
        "('CC_CV',) can be used today. See docs/architecture.md " ++
        "'Future Architecture: Configurable Charge Modes'."⟩
  else .ok resolved

/-- `validate_group_test_config`. -/
def validateGroupTestConfig [DecidableEq N] : Except Exc (AcceptedRecipe N) := do
  let (hw, batteryType, setpoints) ← groupConfiguration cfg group
  batteryLimits cfg group batteryType setpoints
  hardwareCapability group hw setpoints
  timeoutOverrides cfg group setpoints
  let resolved ← chargeMode group setpoints
  .ok ⟨batteryType, resolved⟩

end Stages

/-! ## What the configuration says of a group -/

/-- `test_setpoints[key]`, as a number. -/
def numberAt [ConfigNumber N] (setpoints : Setpoints N) (key : String) : Option N :=
  (setpoints.get? key).bind SetpointValue.numeric?

namespace ValidatorConfig

variable (cfg : ValidatorConfig N) (group : String)

/-- A setpoint of the group, as a number. -/
def number [ConfigNumber N] (key : String) : Option N :=
  (cfg.recipe group).testSetpoints.bind (numberAt · key)

/-- The group's battery. -/
def battery : Option BatteryCfg := (cfg.recipe group).batteryType.bind cfg.batteryConfigs.get?

/-- The rated current of the group's SMU, where there is one. -/
def smuMaxA : Option ℚ :=
  match hardwareForGroup cfg.tables group with
  | .error _ => none
  | .ok hw => hw.smuMaxA

end ValidatorConfig

/-! ## What an accepted recipe satisfies -/

/-- The numbers of a recipe. -/
structure OperatingPoint where
  chargeCurrentA : ℚ
  chargeVoltageV : ℚ
  dischargeCurrentA : ℚ
  dischargeCutoffV : ℚ

/-- A recipe has these numbers. -/
structure ReadsAs (read : String → Option ℚ) (p : OperatingPoint) : Prop where
  chargeCurrentA : read "charge_current_a" = some p.chargeCurrentA
  chargeVoltageV : read "charge_voltage_v" = some p.chargeVoltageV
  dischargeCurrentA : read "discharge_current_a" = some p.dischargeCurrentA
  dischargeCutoffV : read "discharge_cutoff_v" = some p.dischargeCutoffV

/-- The bounds of Stages 2 and 3. -/
structure WithinLimits (battery : BatteryCfg) (smuMaxA : Option ℚ) (p : OperatingPoint) :
    Prop where
  chargeCurrentA : p.chargeCurrentA ≤ battery.maxChargeCurrentA
  chargeVoltageV : p.chargeVoltageV ≤ battery.voltageMaxV
  dischargeCurrentA : p.dischargeCurrentA ≤ battery.maxDischargeCurrentA
  dischargeCutoffV : battery.voltageMinV ≤ p.dischargeCutoffV
  charges : ∀ limit ∈ smuMaxA, p.chargeCurrentA ≤ limit
  discharges : ∀ limit ∈ smuMaxA, p.dischargeCurrentA ≤ limit

section Accepted

/-- Stage 1. -/
theorem of_groupConfiguration {cfg : ValidatorConfig N} {group : String}
    {setpoints : Setpoints N} {hw : GroupHardware} {batteryType : String}
    (h : groupConfiguration cfg group = .ok (hw, batteryType, setpoints)) :
    hardwareForGroup cfg.tables group = .ok hw ∧
      (cfg.recipe group).batteryType = some batteryType ∧
      (cfg.recipe group).testSetpoints = some setpoints := by
  unfold groupConfiguration at h
  split at h
  · cases h
  · next hhw =>
    simp only at h
    split at h
    · cases h
    · split at h
      · cases h
      · cases h
      · next htype hsetpoints =>
        split at h
        · obtain ⟨rfl, rfl, rfl⟩ := by simpa using h
          exact ⟨hhw, htype, hsetpoints⟩
        · cases h

theorem get?_setDefaultChargeMode {setpoints : Setpoints N} {key : String}
    (hkey : key ≠ "charge_mode") :
    (setDefaultChargeMode setpoints).get? key = setpoints.get? key := by
  unfold setDefaultChargeMode
  split
  · rfl
  · rw [Dict.get?_insert, if_neg hkey]

/-- Stage 5 leaves the other setpoints as they are. -/
theorem get?_of_chargeMode [DecidableEq N] {group : String} {setpoints resolved : Setpoints N}
    {key : String} (hkey : key ≠ "charge_mode")
    (h : chargeMode group setpoints = .ok resolved) :
    resolved.get? key = setpoints.get? key := by
  obtain ⟨mode, -, h⟩ := exists_of_except_bind_eq_ok h
  have hresolved : resolved = setDefaultChargeMode setpoints := by
    split at h
    · cases h
    · split at h
      · cases h
      · exact (Except.ok.inj h).symm
  rw [hresolved, get?_setDefaultChargeMode hkey]

theorem numberAt_of_checkSetpoint [ConfigNumber N] {setpoints : Setpoints N} {key op : String}
    {cls : ExcClass} {bad : N → Bool} {message : N → String} {x : N}
    (h : checkSetpoint setpoints key op cls bad message = .ok x) :
    numberAt setpoints key = some x ∧ bad x = false := by
  obtain ⟨v, hv, h⟩ := exists_of_except_bind_eq_ok h
  obtain ⟨y, hy, h⟩ := exists_of_except_bind_eq_ok h
  have hget : setpoints.get? key = some v := by
    unfold setpoint at hv
    split at hv
    · next heq => rw [heq, Except.ok.inj hv]
    · cases hv
  have hnumeric : v.numeric? = some y := by
    unfold SetpointValue.operand at hy
    split at hy
    · next heq => rw [heq, Except.ok.inj hy]
    · cases hy
  split at h
  · cases h
  · next hbad =>
    obtain rfl := Except.ok.inj h
    refine ⟨?_, Bool.eq_false_of_not_eq_true hbad⟩
    rw [numberAt, hget]
    exact hnumeric

variable {cfg : ValidatorConfig ℚ} {group : String} {setpoints : Setpoints ℚ}

theorem le_of_lt_eq_false {x y : ℚ} (h : ConfigNumber.lt x y = false) : y ≤ x :=
  not_lt.mp (of_decide_eq_false h)

/-- Stage 2. -/
theorem exists_of_batteryLimits {batteryType : String}
    (h : batteryLimits cfg group batteryType setpoints = .ok ()) :
    ∃ battery p, cfg.batteryConfigs.get? batteryType = some battery ∧
      ReadsAs (numberAt setpoints) p ∧ p.chargeCurrentA ≤ battery.maxChargeCurrentA ∧
      p.chargeVoltageV ≤ battery.voltageMaxV ∧
      p.dischargeCurrentA ≤ battery.maxDischargeCurrentA ∧
      battery.voltageMinV ≤ p.dischargeCutoffV := by
  unfold batteryLimits at h
  split at h
  · cases h
  · next battery hbattery =>
    obtain ⟨cc, hcc, h⟩ := exists_of_except_bind_eq_ok h
    obtain ⟨cv, hcv, h⟩ := exists_of_except_bind_eq_ok h
    obtain ⟨dc, hdc, h⟩ := exists_of_except_bind_eq_ok h
    obtain ⟨co, hco, -⟩ := exists_of_except_bind_eq_ok h
    obtain ⟨hcc, hcc'⟩ := numberAt_of_checkSetpoint hcc
    obtain ⟨hcv, hcv'⟩ := numberAt_of_checkSetpoint hcv
    obtain ⟨hdc, hdc'⟩ := numberAt_of_checkSetpoint hdc
    obtain ⟨hco, hco'⟩ := numberAt_of_checkSetpoint hco
    exact ⟨battery, ⟨cc, cv, dc, co⟩, hbattery, ⟨hcc, hcv, hdc, hco⟩, le_of_lt_eq_false hcc',
      le_of_lt_eq_false hcv', le_of_lt_eq_false hdc', le_of_lt_eq_false hco'⟩

/-- Stage 3. -/
theorem le_of_hardwareCapability {hw : GroupHardware} {p : OperatingPoint}
    (h : hardwareCapability group hw setpoints = .ok ()) (hp : ReadsAs (numberAt setpoints) p)
    {limit : ℚ} (hlimit : limit ∈ hw.smuMaxA) :
    p.chargeCurrentA ≤ limit ∧ p.dischargeCurrentA ≤ limit := by
  rw [hardwareCapability, Option.mem_def.mp hlimit] at h
  obtain ⟨cc, hcc, h⟩ := exists_of_except_bind_eq_ok h
  obtain ⟨dc, hdc, -⟩ := exists_of_except_bind_eq_ok h
  obtain ⟨hcc, hcc'⟩ := numberAt_of_checkSetpoint hcc
  obtain ⟨hdc, hdc'⟩ := numberAt_of_checkSetpoint hdc
  obtain rfl := Option.some.inj (hp.chargeCurrentA.symm.trans hcc)
  obtain rfl := Option.some.inj (hp.dischargeCurrentA.symm.trans hdc)
  exact ⟨le_of_lt_eq_false hcc', le_of_lt_eq_false hdc'⟩

theorem readsAs_of_chargeMode {resolved : Setpoints ℚ} {p : OperatingPoint}
    (h : chargeMode group setpoints = .ok resolved) (hp : ReadsAs (numberAt setpoints) p) :
    ReadsAs (numberAt resolved) p := by
  have hread : ∀ {key : String}, key ≠ "charge_mode" →
      numberAt resolved key = numberAt setpoints key := by
    intro key hkey
    rw [numberAt, get?_of_chargeMode hkey h, numberAt]
  constructor
  · exact (hread (by decide)).trans hp.chargeCurrentA
  · exact (hread (by decide)).trans hp.chargeVoltageV
  · exact (hread (by decide)).trans hp.dischargeCurrentA
  · exact (hread (by decide)).trans hp.dischargeCutoffV

/-- **What an accepted recipe satisfies.** Its numbers are those of the configuration, and within
the limits of Stages 2 and 3. -/
theorem exists_of_validateGroupTestConfig {accepted : AcceptedRecipe ℚ}
    (h : validateGroupTestConfig cfg group = .ok accepted) :
    ∃ battery p, cfg.battery group = some battery ∧ ReadsAs (cfg.number group) p ∧
      ReadsAs (numberAt accepted.testSetpoints) p ∧
      WithinLimits battery (cfg.smuMaxA group) p := by
  obtain ⟨⟨hw, batteryType, setpoints⟩, hgroup, h⟩ := exists_of_except_bind_eq_ok h
  obtain ⟨_, hlimits, h⟩ := exists_of_except_bind_eq_ok h
  obtain ⟨_, hcapability, h⟩ := exists_of_except_bind_eq_ok h
  obtain ⟨_, -, h⟩ := exists_of_except_bind_eq_ok h
  obtain ⟨resolved, hmode, h⟩ := exists_of_except_bind_eq_ok h
  obtain rfl := Except.ok.inj h
  obtain ⟨hhw, htype, hsetpoints⟩ := of_groupConfiguration hgroup
  obtain ⟨battery, p, hbattery, hp, hcc, hcv, hdc, hco⟩ := exists_of_batteryLimits hlimits
  have hmax : cfg.smuMaxA group = hw.smuMaxA := by rw [ValidatorConfig.smuMaxA, hhw]
  refine ⟨battery, p, ?_, ?_, readsAs_of_chargeMode hmode hp, hcc, hcv, hdc, hco, ?_, ?_⟩
  · rw [ValidatorConfig.battery, htype]
    exact hbattery
  · have hread : cfg.number group = numberAt setpoints := by
      funext key
      rw [ValidatorConfig.number, hsetpoints]
      rfl
    rw [hread]
    exact hp
  · intro limit hlimit
    rw [hmax] at hlimit
    exact (le_of_hardwareCapability hcapability hp hlimit).1
  · intro limit hlimit
    rw [hmax] at hlimit
    exact (le_of_hardwareCapability hcapability hp hlimit).2

end Accepted

end Nipxi
