import Nipxi.Hardware.Temperature

/-!
# The safety check of a sample

`SafetyMonitor.check` and what the sampling loops of `ChargeSequence.run` and
`DischargeSequence.run` do with one sample, over the real numbers: the NTC reading, the check, and
the end of the phase. The rows a sample writes, the NTC warnings among them, are left out.

A reading is taken for a temperature only if it is classified as present. So the check is monotone
in the voltage of the NTC up to the readings that are classified as a fault, of a shorted NTC or of
more than 80 °C (`violates_of_hotter`), and there it does not look at the temperature at all.
-/

namespace Nipxi

/-! ## The monitor -/

/-- `mode` of a check. -/
inductive CheckMode where
  | charge
  | discharge
  deriving DecidableEq

/-- The entries of a battery configuration `check` reads. -/
structure BatteryLimits where
  voltageMaxV : Option ℝ
  voltageMinV : Option ℝ
  maxChargeCurrentA : Option ℝ
  maxDischargeCurrentA : Option ℝ
  maxTempC : Option ℝ

/-- A `SafetyMonitor` with the settings it falls back on. -/
structure SafetyMonitor where
  /-- `Settings.BAT_VOLTAGE_MAX`. -/
  batVoltageMax : ℝ
  /-- `Settings.BAT_VOLTAGE_MIN`. -/
  batVoltageMin : ℝ
  /-- `Settings.BAT_CURRENT_MAX`. -/
  batCurrentMax : ℝ
  /-- `Settings.BAT_TEMP_MAX_C`. -/
  batTempMaxC : ℝ
  batteryCfg : Option BatteryLimits

/-- Why a sample is not safe, with the numbers of the message. -/
inductive Violation where
  | overvoltage (voltageV limitV : ℝ)
  | undervoltage (voltageV limitV : ℝ)
  | overcurrent (currentA limitA : ℝ)
  | overtemperature (tempC limitC : ℝ)

namespace SafetyMonitor

variable (m : SafetyMonitor)

/-- `_voltage_max`. -/
def voltageMax : ℝ := (m.batteryCfg.bind BatteryLimits.voltageMaxV).getD m.batVoltageMax

/-- `_voltage_min`. -/
def voltageMin : ℝ := (m.batteryCfg.bind BatteryLimits.voltageMinV).getD m.batVoltageMin

/-- `_temp_max`. -/
def tempMax : ℝ := (m.batteryCfg.bind BatteryLimits.maxTempC).getD m.batTempMaxC

/-- `_current_max`. -/
noncomputable def currentMax (mode : Option CheckMode) : ℝ :=
  match m.batteryCfg with
  | none => m.batCurrentMax
  | some cfg =>
    match mode, cfg.maxChargeCurrentA, cfg.maxDischargeCurrentA with
    | some .charge, some charge, _ => charge
    | some .discharge, _, some discharge => discharge
    | _, some charge, some discharge => min charge discharge
    | _, some charge, none => charge
    | _, none, some discharge => discharge
    | _, none, none => m.batCurrentMax

/-- `check`: nothing, or why the sample is not safe. -/
noncomputable def check (v i : ℝ) (tempC : Option ℝ) (mode : Option CheckMode) :
    Option Violation :=
  if m.voltageMax < v then some (.overvoltage v m.voltageMax)
  else if v < m.voltageMin then some (.undervoltage v m.voltageMin)
  else if m.currentMax mode < |i| then some (.overcurrent |i| (m.currentMax mode))
  else
    match tempC with
    | some temp => if m.tempMax < temp then some (.overtemperature temp m.tempMax) else none
    | none => none

variable {m}

/-- A sample with a higher temperature, or with one at all, is no safer. -/
theorem check_isSome_of_le {v i : ℝ} {t t' : Option ℝ} {mode : Option CheckMode}
    (hle : ∀ a ∈ t, ∃ b ∈ t', a ≤ b) (h : (m.check v i t mode).isSome) :
    (m.check v i t' mode).isSome := by
  unfold check at h ⊢
  split
  · rfl
  · split
    · rfl
    · split
      · rfl
      · next hv hv' hi =>
        rw [if_neg hv, if_neg hv', if_neg hi] at h
        cases t with
        | none => cases h
        | some a =>
          obtain ⟨b, hb, hab⟩ := hle a rfl
          rw [Option.mem_def.mp hb]
          dsimp only at h ⊢
          split at h
          · next hhot =>
            rw [if_pos (hhot.trans_le hab)]
            rfl
          · cases h

end SafetyMonitor

/-! ## One sample -/

/-- What reading the NTC of a position gives. -/
inductive NtcReading where
  /-- There is no DAQ, or no channel for the position. -/
  | notWired
  /-- A `DAQError`, which is caught. -/
  | failed
  | voltage (v : ℝ)

/-- `t_c`. -/
noncomputable def NtcReading.tempC : NtcReading → Option ℝ
  | notWired | failed => none
  | voltage v =>
    match Ntc.classify v with
    | .present => Ntc.voltageToCelsius v
    | .absent | .fault => none

/-- The state a loop decides the end of its phase by. -/
inductive SampledPhase where
  /-- A charge to `voltage_limit_v` at `current_a`, with the sample before. -/
  | charge (currentA voltageLimitV cutoffA : ℝ) (prev : Option (ℝ × ℝ))
  /-- A discharge to `cutoff_v`. -/
  | discharge (cutoffV : ℝ)

/-- `mode` of the checks of a phase. -/
def SampledPhase.mode : SampledPhase → CheckMode
  | charge _ _ _ _ => .charge
  | discharge _ => .discharge

/-- How the loop goes on after a sample. -/
inductive SampleEnd where
  /-- `SafetyViolationError`. -/
  | violation (reason : Violation)
  /-- `BatteryRemovedDuringChargeError`, which is a `SafetyViolationError` too. -/
  | removed
  /-- The phase is complete. -/
  | complete
  | continues

/-- A safety violation. -/
def SampleEnd.Violates : SampleEnd → Prop
  | violation _ | removed => True
  | complete | continues => False

/-- `CC_PHASE_CURRENT_FRACTION`. -/
noncomputable def CC_PHASE_CURRENT_FRACTION : ℝ := 1 / 2

/-- `charge_transition_suggests_battery_removed`. -/
noncomputable def chargeTransitionSuggestsBatteryRemoved (prev : Option (ℝ × ℝ))
    (v i currentA voltageLimitV cutoffA : ℝ) : Bool :=
  match prev with
  | none => false
  | some (_, prevI) =>
    if voltageLimitV ≤ v ∧ |i| ≤ cutoffA then
      decide (|currentA| * CC_PHASE_CURRENT_FRACTION ≤ |prevI|)
    else false

/-- The end of a phase, of a sample that is safe. -/
noncomputable def SampledPhase.endOfPhase (v i : ℝ) : SampledPhase → SampleEnd
  | charge currentA voltageLimitV cutoffA prev =>
    if voltageLimitV ≤ v ∧ |i| ≤ cutoffA then
      if chargeTransitionSuggestsBatteryRemoved prev v i currentA voltageLimitV cutoffA then
        .removed
      else .complete
    else .continues
  | discharge cutoffV => if v ≤ cutoffV then .complete else .continues

/-- What a loop does with one sample. -/
noncomputable def takeSample (m : SafetyMonitor) (ph : SampledPhase) (v i : ℝ)
    (reading : NtcReading) : SampleEnd :=
  match m.check v i reading.tempC (some ph.mode) with
  | some reason => .violation reason
  | none => ph.endOfPhase v i

section Sample

variable {m : SafetyMonitor} {ph : SampledPhase} {v i v₁ v₂ : ℝ}

theorem violates_takeSample_iff {reading : NtcReading} :
    (takeSample m ph v i reading).Violates ↔
      (m.check v i reading.tempC (some ph.mode)).isSome ∨ (ph.endOfPhase v i).Violates := by
  unfold takeSample
  cases m.check v i reading.tempC (some ph.mode) with
  | some reason => exact iff_of_true trivial (Or.inl rfl)
  | none => exact ⟨Or.inr, fun h ↦ h.resolve_left Bool.false_ne_true⟩

/-- A sample that is no cooler, as far as the loop can tell, is no safer. -/
theorem violates_of_tempC_le {reading reading' : NtcReading}
    (hle : ∀ a ∈ reading.tempC, ∃ b ∈ reading'.tempC, a ≤ b)
    (h : (takeSample m ph v i reading).Violates) : (takeSample m ph v i reading').Violates := by
  rw [violates_takeSample_iff] at h ⊢
  exact h.imp_left (SafetyMonitor.check_isSome_of_le hle)

theorem tempC_of_present (h : Ntc.classify v = .present) :
    (NtcReading.voltage v).tempC = some (Ntc.celsius v) := by
  rw [NtcReading.tempC, h]
  exact Ntc.voltageToCelsius_of_present h

theorem tempC_of_ne_present (h : Ntc.classify v ≠ .present) :
    (NtcReading.voltage v).tempC = none := by
  rw [NtcReading.tempC]
  split
  · next hpresent => exact absurd hpresent h
  · rfl
  · rfl

/-- What the loop makes of the voltages of a cooler and a hotter NTC, where the hotter is not taken
for a fault. -/
theorem tempC_le_tempC (hlt : v₁ < v₂) (hfault : Ntc.classify v₂ ≠ .fault) :
    ∀ a ∈ (NtcReading.voltage v₁).tempC, ∃ b ∈ (NtcReading.voltage v₂).tempC, a ≤ b := by
  intro a ha
  by_cases h₁ : Ntc.classify v₁ = .present
  · rw [tempC_of_present h₁, Option.mem_some_iff] at ha
    obtain ⟨hlow, -⟩ := Ntc.classify_eq_present_iff.mp h₁
    have hpresent : Ntc.classify v₂ = .present := by
      cases h₂ : Ntc.classify v₂ with
      | present => rfl
      | absent => exact absurd (Ntc.classify_eq_absent_iff.mp h₂) (not_le.mpr (hlow.trans hlt))
      | fault => exact absurd h₂ hfault
    refine ⟨Ntc.celsius v₂, tempC_of_present hpresent, ?_⟩
    rw [← ha]
    have hhigh := (Ntc.classify_eq_present_iff.mp hpresent).2.1
    exact (Ntc.celsius_lt_celsius (lt_trans (by norm_num) hlow) hlt hhigh).le
  · rw [tempC_of_ne_present h₁] at ha
    cases ha

/-- **Hotter is never safer, up to a fault of the NTC.** If a sample violates, so does one with the
voltage of a hotter cell; unless that is taken for a fault, where the loop goes on as if there were
no NTC. -/
theorem violates_of_hotter (m : SafetyMonitor) (ph : SampledPhase) (v i : ℝ) (hlt : v₁ < v₂)
    (h : (takeSample m ph v i (.voltage v₁)).Violates) :
    (Ntc.classify v₂ ≠ .fault → (takeSample m ph v i (.voltage v₂)).Violates) ∧
      (Ntc.classify v₂ = .fault →
        takeSample m ph v i (.voltage v₂) = takeSample m ph v i .notWired) := by
  refine ⟨fun hfault ↦ violates_of_tempC_le (tempC_le_tempC hlt hfault) h, fun hfault ↦ ?_⟩
  have htemp : (NtcReading.voltage v₂).tempC = none :=
    tempC_of_ne_present (by rw [hfault]; exact nofun)
  unfold takeSample
  rw [htemp]
  rfl

end Sample

/-! ## A cell at 66 °C and a shorted NTC -/

/-- A monitor with a maximum of 45 °C. -/
noncomputable def monitorAt45 : SafetyMonitor where
  batVoltageMax := (5 : ℚ)
  batVoltageMin := (2 : ℚ)
  batCurrentMax := (1 : ℚ)
  batTempMaxC := (45 : ℚ)
  batteryCfg := some ⟨some (21 / 5 : ℚ), some (3 : ℚ), some (1 : ℚ), some (1 : ℚ), some (45 : ℚ)⟩

/-- A charge that is not near its end. -/
noncomputable def earlyCharge : SampledPhase :=
  .charge (1 : ℚ) (21 / 5 : ℚ) (3 / 20 : ℚ) none

/-- At 4 V the cell is between 65 and 70 °C. -/
theorem celsius_four : 65 < Ntc.celsius 4 ∧ Ntc.celsius 4 < 70 := by
  have hinverse : Ntc.kelvinInverse 4 = 1 / (25 + 273.15) - 2 / 3435 * Real.log 2 := by
    unfold Ntc.kelvinInverse Ntc.BETA
    rw [Ntc.resistance_div_r25 (by norm_num), show (5 / 4 - 1 : ℝ) = (2 ^ 2)⁻¹ by norm_num,
      Real.log_inv, Real.log_pow]
    ring
  have hlow := Real.log_two_gt_d9
  have hhigh := Real.log_two_lt_d9
  have hpos := Ntc.kelvinInverse_pos (v := 4) (by norm_num) (by norm_num)
  unfold Ntc.celsius
  constructor
  · rw [lt_sub_iff_add_lt, lt_div_iff₀ hpos, hinverse]
    norm_num at hlow ⊢
    linarith
  · rw [sub_lt_iff_lt_add, div_lt_iff₀ hpos, hinverse]
    norm_num at hhigh ⊢
    linarith

theorem classify_four : Ntc.classify 4 = .present := by
  obtain ⟨hlow, hhigh⟩ := celsius_four
  refine Ntc.classify_eq_present_iff.mpr ⟨by norm_num, by norm_num, ?_, ?_⟩ <;> linarith

/-- A sample of 3.7 V and 0.5 A is within the limits but for its temperature. -/
theorem check_monitorAt45 (temp : Option ℝ) :
    monitorAt45.check (37 / 10) (1 / 2) temp (some .charge)
      = match temp with
        | some t => if (45 : ℚ) < t then some (.overtemperature t (45 : ℚ)) else none
        | none => none := by
  have hvmax : ¬monitorAt45.voltageMax < 37 / 10 := by
    change ¬((21 / 5 : ℚ) : ℝ) < 37 / 10
    norm_num
  have hvmin : ¬(37 / 10 : ℝ) < monitorAt45.voltageMin := by
    change ¬(37 / 10 : ℝ) < (3 : ℚ)
    norm_num
  have himax : ¬monitorAt45.currentMax (some .charge) < |(1 / 2 : ℝ)| := by
    change ¬((1 : ℚ) : ℝ) < |(1 / 2 : ℝ)|
    rw [abs_of_pos (by norm_num)]
    norm_num
  unfold SafetyMonitor.check
  rw [if_neg hvmax, if_neg hvmin, if_neg himax]
  rfl

theorem violates_four :
    (takeSample monitorAt45 earlyCharge (37 / 10) (1 / 2) (.voltage 4)).Violates := by
  refine violates_takeSample_iff.mpr (Or.inl ?_)
  change (monitorAt45.check (37 / 10) (1 / 2) _ (some .charge)).isSome
  rw [tempC_of_present classify_four, check_monitorAt45]
  dsimp only
  have hhot : ((45 : ℚ) : ℝ) < Ntc.celsius 4 := by
    norm_num
    linarith [celsius_four.1]
  rw [if_pos hhot]
  rfl

/-- The case of 4 V and 4.96 V, the reading of a shorted NTC. -/
theorem violates_of_hotter_shorted :
    (Ntc.classify (124 / 25) ≠ .fault →
        (takeSample monitorAt45 earlyCharge (37 / 10) (1 / 2) (.voltage (124 / 25))).Violates) ∧
      (Ntc.classify (124 / 25) = .fault →
        takeSample monitorAt45 earlyCharge (37 / 10) (1 / 2) (.voltage (124 / 25))
          = takeSample monitorAt45 earlyCharge (37 / 10) (1 / 2) .notWired) :=
  violates_of_hotter monitorAt45 earlyCharge (37 / 10) (1 / 2)
    (show (4 : ℝ) < 124 / 25 by norm_num) violates_four

/-- A charge that stops at 66 °C goes on at 4.96 V, the reading of a hotter NTC. -/
theorem not_hotter_never_safer :
    ¬∀ (m : SafetyMonitor) (ph : SampledPhase) (v i v₁ v₂ : ℝ), -20 ≤ m.tempMax →
      m.tempMax ≤ 80 → 0 < v₁ → v₁ < v₂ → v₂ < 5 →
        (takeSample m ph v i (.voltage v₁)).Violates →
          takeSample m ph v i (.voltage v₂) ≠ .continues := by
  intro h
  have hfault : Ntc.classify (124 / 25) ≠ .present := by
    intro hpresent
    have hhigh := (Ntc.classify_eq_present_iff.mp hpresent).2.1
    norm_num at hhigh
  refine h monitorAt45 earlyCharge (37 / 10) (1 / 2) 4 (124 / 25) ?_ ?_ (by norm_num)
    (by norm_num) (by norm_num) violates_four ?_
  · change (-20 : ℝ) ≤ (45 : ℚ)
    norm_num
  · change ((45 : ℚ) : ℝ) ≤ 80
    norm_num
  · unfold takeSample
    rw [tempC_of_ne_present hfault]
    change (match monitorAt45.check (37 / 10) (1 / 2) none (some .charge) with
      | some reason => SampleEnd.violation reason
      | none => earlyCharge.endOfPhase (37 / 10) (1 / 2)) = _
    rw [check_monitorAt45]
    have hend : ¬(((21 / 5 : ℚ) : ℝ) ≤ 37 / 10 ∧ |(1 / 2 : ℝ)| ≤ (3 / 20 : ℚ)) := by
      rintro ⟨hv, -⟩
      norm_num at hv
    exact if_neg hend

end Nipxi
