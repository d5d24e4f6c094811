import Mathlib.Analysis.Complex.ExponentialBounds
import Nipxi.TestControl.PresencePrecheck

/-!
# The temperature of a cell

`hardware/temperature.py` over the real numbers: the divider with the NTC on its excitation side,
the Beta approximation, and the classification of a reading. The kelvin-inverse of the
approximation falls with the voltage and is positive below the band of a shorted NTC, so that within
the band of the readings that are taken for a temperature, more voltage is hotter
(`celsius_lt_celsius`). The plausible temperatures are those of an interval of voltages, with open
and cold readings below it and shorted and hot ones above (`present_interval`).
-/

namespace Nipxi

namespace Ntc

/-! ## Parameters -/

/-- `NTC_R25_OHM`. -/
def R25_OHM : ℝ := 10000

/-- `NTC_BETA`. -/
def BETA : ℝ := 3435

/-- `NTC_PULLDOWN_R`. -/
def PULLDOWN_R : ℝ := 10000

/-- `NTC_EXCITATION_V`. -/
def EXCITATION_V : ℝ := 5

/-- `ABSENT_VOLTAGE_THRESHOLD`. -/
noncomputable def ABSENT_VOLTAGE_THRESHOLD : ℝ := 1 / 20

/-- `NTC_SHORT_VOLTAGE_MARGIN_V`. -/
noncomputable def SHORT_VOLTAGE_MARGIN_V : ℝ := 1 / 20

/-- `NTC_PLAUSIBLE_TEMP_MIN_C`. -/
def PLAUSIBLE_TEMP_MIN_C : ℝ := -20

/-- `NTC_PLAUSIBLE_TEMP_MAX_C`. -/
def PLAUSIBLE_TEMP_MAX_C : ℝ := 80

/-! ## The conversion -/

/-- `r_ntc`. -/
noncomputable def resistance (v : ℝ) : ℝ := PULLDOWN_R * (EXCITATION_V - v) / v

/-- `1 / t_k`. -/
noncomputable def kelvinInverse (v : ℝ) : ℝ :=
  1 / (25 + 273.15) + 1 / BETA * Real.log (resistance v / R25_OHM)

/-- What `ntc_voltage_to_celsius` returns for a voltage in the range of the divider. -/
noncomputable def celsius (v : ℝ) : ℝ := 1 / kelvinInverse v - 273.15

/-- `ntc_voltage_to_celsius`. -/
noncomputable def voltageToCelsius (v : ℝ) : Option ℝ :=
  if v ≤ 0 ∨ EXCITATION_V ≤ v then none else some (celsius v)

/-- `classify_ntc_presence`. -/
noncomputable def classify (v : ℝ) : NTCPresence :=
  if v ≤ ABSENT_VOLTAGE_THRESHOLD then .absent
  else if EXCITATION_V - SHORT_VOLTAGE_MARGIN_V ≤ v then .fault
  else
    match voltageToCelsius v with
    | none => .fault
    | some temp =>
      if PLAUSIBLE_TEMP_MIN_C ≤ temp ∧ temp ≤ PLAUSIBLE_TEMP_MAX_C then .present else .fault

/-! ## More voltage is hotter -/

variable {v v₁ v₂ : ℝ}

/-- The resistance in units of the one at 25 °C. -/
theorem resistance_div_r25 (hv : 0 < v) : resistance v / R25_OHM = 5 / v - 1 := by
  unfold resistance PULLDOWN_R EXCITATION_V R25_OHM
  field_simp

/-- A hotter NTC conducts better. -/
theorem kelvinInverse_lt (hv₁ : 0 < v₁) (hlt : v₁ < v₂) (hv₂ : v₂ < 5) :
    kelvinInverse v₂ < kelvinInverse v₁ := by
  have hdiv : 5 / v₂ < 5 / v₁ := div_lt_div_of_pos_left (by norm_num) hv₁ hlt
  have hpos : 0 < 5 / v₂ - 1 := by
    rw [sub_pos, one_lt_div (hv₁.trans hlt)]
    exact hv₂
  have hlog : Real.log (5 / v₂ - 1) < Real.log (5 / v₁ - 1) :=
    Real.log_lt_log hpos (by linarith)
  unfold kelvinInverse
  rw [resistance_div_r25 hv₁, resistance_div_r25 (hv₁.trans hlt)]
  have hbeta : 0 < 1 / BETA := by
    unfold BETA
    norm_num
  have hmul := mul_lt_mul_of_pos_left hlog hbeta
  linarith

/-- Below the band of a shorted NTC the approximation is far from its pole. -/
theorem kelvinInverse_pos (hv : 0 < v) (hlt : v < 99 / 20) : 0 < kelvinInverse v := by
  have hratio : (1 / 32 : ℝ) ^ 2 < 5 / v - 1 := by
    have hdiv : 5 / (99 / 20) < 5 / v := div_lt_div_of_pos_left (by norm_num) hv hlt
    norm_num at hdiv ⊢
    linarith
  have hlog : -10 * Real.log 2 < Real.log (5 / v - 1) := by
    have hpow : Real.log ((1 / 32 : ℝ) ^ 2) = -10 * Real.log 2 := by
      rw [show ((1 / 32 : ℝ) ^ 2) = (2 ^ 10)⁻¹ by norm_num, Real.log_inv, Real.log_pow]
      ring
    rw [← hpow]
    exact Real.log_lt_log (by norm_num) hratio
  have htwo := Real.log_two_lt_d9
  unfold kelvinInverse BETA
  rw [resistance_div_r25 hv]
  norm_num at htwo ⊢
  linarith

/-- **More voltage is hotter**, below the band of a shorted NTC. -/
theorem celsius_lt_celsius (hv₁ : 0 < v₁) (hlt : v₁ < v₂) (hv₂ : v₂ < 99 / 20) :
    celsius v₁ < celsius v₂ := by
  have hinverse := kelvinInverse_lt hv₁ hlt (hv₂.trans (by norm_num))
  have hpos := kelvinInverse_pos (hv₁.trans hlt) hv₂
  exact sub_lt_sub_right (one_div_lt_one_div_of_lt hpos hinverse) _

/-! ## The classification -/

/-- The band between an open and a shorted NTC. -/
theorem classify_eq_absent_iff : classify v = .absent ↔ v ≤ 1 / 20 := by
  unfold classify ABSENT_VOLTAGE_THRESHOLD
  split
  · next h => exact iff_of_true rfl h
  · next h =>
    refine iff_of_false ?_ h
    split
    · exact nofun
    · split
      · exact nofun
      · split <;> exact nofun

/-- A reading is taken for a temperature between an open and a shorted NTC, if it is plausible. -/
theorem classify_eq_present_iff :
    classify v = .present ↔ 1 / 20 < v ∧ v < 99 / 20 ∧ -20 ≤ celsius v ∧ celsius v ≤ 80 := by
  unfold classify ABSENT_VOLTAGE_THRESHOLD EXCITATION_V SHORT_VOLTAGE_MARGIN_V
  split
  · next h => exact iff_of_false nofun fun hv ↦ absurd h (not_le.mpr hv.1)
  · next h =>
    have hlow := not_le.mp h
    split
    · next h' =>
      refine iff_of_false nofun fun hv ↦ ?_
      have := hv.2.1
      norm_num at h' this
      linarith
    · next h' =>
      have hhigh : v < 99 / 20 := by
        have := not_le.mp h'
        norm_num at this ⊢
        exact this
      have hrange : ¬(v ≤ 0 ∨ EXCITATION_V ≤ v) := by
        unfold EXCITATION_V
        rintro (hv | hv) <;> linarith
      rw [voltageToCelsius, if_neg hrange]
      dsimp only
      unfold PLAUSIBLE_TEMP_MIN_C PLAUSIBLE_TEMP_MAX_C
      split
      · next hplausible => exact iff_of_true rfl ⟨hlow, hhigh, hplausible⟩
      · next hplausible => exact iff_of_false nofun fun hv ↦ hplausible hv.2.2

/-- The temperature of a reading that is taken for one. -/
theorem voltageToCelsius_of_present (h : classify v = .present) :
    voltageToCelsius v = some (celsius v) := by
  obtain ⟨hlow, hhigh, -⟩ := classify_eq_present_iff.mp h
  refine if_neg ?_
  unfold EXCITATION_V
  rintro (hv | hv) <;> linarith

/-! ## The voltages of a temperature -/

/-- The voltage at which the conversion gives a temperature. -/
noncomputable def voltageAt (temp : ℝ) : ℝ :=
  EXCITATION_V / (1 + Real.exp (BETA * (1 / (temp + 273.15) - 1 / (25 + 273.15))))

theorem voltageAt_pos (temp : ℝ) : 0 < voltageAt temp := by
  unfold voltageAt EXCITATION_V
  positivity

theorem kelvinInverse_voltageAt (temp : ℝ) :
    kelvinInverse (voltageAt temp) = 1 / (temp + 273.15) := by
  have hratio : 5 / voltageAt temp - 1 =
      Real.exp (BETA * (1 / (temp + 273.15) - 1 / (25 + 273.15))) := by
    rw [voltageAt, EXCITATION_V, div_div_cancel₀ (by norm_num), add_sub_cancel_left]
  have hbeta : BETA ≠ 0 := by
    unfold BETA
    norm_num
  rw [kelvinInverse, resistance_div_r25 (voltageAt_pos temp), hratio, Real.log_exp, ← mul_assoc,
    one_div_mul_cancel hbeta, one_mul, add_sub_cancel]

/-- **The conversion, backwards.** -/
theorem celsius_voltageAt (temp : ℝ) : celsius (voltageAt temp) = temp := by
  rw [celsius, kelvinInverse_voltageAt, one_div_one_div, add_sub_cancel_right]

theorem exp_natCast_le (n : ℕ) : Real.exp n ≤ 3 ^ n := by
  rw [← mul_one (n : ℝ), Real.exp_nat_mul]
  exact pow_le_pow_left₀ (Real.exp_pos 1).le Real.exp_one_lt_three.le n

/-- The coldest plausible voltage is above the one of an open NTC. -/
theorem lt_voltageAt_min : 1 / 20 < voltageAt PLAUSIBLE_TEMP_MIN_C := by
  have hexp : Real.exp (BETA * (1 / (PLAUSIBLE_TEMP_MIN_C + 273.15) - 1 / (25 + 273.15))) ≤
      3 ^ 3 := by
    refine le_trans (Real.exp_le_exp.mpr ?_) (exp_natCast_le 3)
    unfold BETA PLAUSIBLE_TEMP_MIN_C
    norm_num
  unfold voltageAt EXCITATION_V
  rw [lt_div_iff₀ (by positivity)]
  linarith

/-- The hottest plausible voltage is below the one of a shorted NTC. -/
theorem voltageAt_max_lt : voltageAt PLAUSIBLE_TEMP_MAX_C < 99 / 20 := by
  have hexp : (3 ^ 2)⁻¹ ≤
      Real.exp (BETA * (1 / (PLAUSIBLE_TEMP_MAX_C + 273.15) - 1 / (25 + 273.15))) := by
    refine (inv_anti₀ (Real.exp_pos _) (exp_natCast_le 2)).trans ?_
    rw [← Real.exp_neg, Real.exp_le_exp]
    unfold BETA PLAUSIBLE_TEMP_MAX_C
    norm_num
  unfold voltageAt EXCITATION_V
  rw [div_lt_iff₀ (by positivity)]
  linarith

/-- Below the band of a shorted NTC, the order of the voltages is the order of the temperatures. -/
theorem strictMonoOn_celsius : StrictMonoOn celsius (Set.Ioo 0 (99 / 20)) :=
  fun _ h₁ _ h₂ hlt ↦ celsius_lt_celsius h₁.1 hlt h₂.2

theorem voltageAt_min_lt_max : voltageAt PLAUSIBLE_TEMP_MIN_C < voltageAt PLAUSIBLE_TEMP_MAX_C := by
  have hexp : Real.exp (BETA * (1 / (PLAUSIBLE_TEMP_MAX_C + 273.15) - 1 / (25 + 273.15))) <
      Real.exp (BETA * (1 / (PLAUSIBLE_TEMP_MIN_C + 273.15) - 1 / (25 + 273.15))) := by
    rw [Real.exp_lt_exp]
    unfold BETA PLAUSIBLE_TEMP_MIN_C PLAUSIBLE_TEMP_MAX_C
    norm_num
  have hpos : 0 < EXCITATION_V := by
    unfold EXCITATION_V
    norm_num
  exact div_lt_div_of_pos_left hpos (by positivity) (add_lt_add_right hexp 1)

/-- The conversion in the range of the divider. -/
theorem voltageToCelsius_eq_some (hv : 0 < v) (hlt : v < 5) :
    voltageToCelsius v = some (celsius v) := by
  refine if_neg ?_
  unfold EXCITATION_V
  rintro (h | h) <;> linarith

/-- **The readings taken for a temperature** are those of an interval inside the range of the
divider. On it the conversion divides by nothing that is zero, its temperatures are plausible, and
more voltage is hotter. Below it the NTC is open or colder than plausible, and above it shorted or
hotter. -/
theorem present_interval : ∃ low high, 0 < low ∧ low < high ∧ high < EXCITATION_V ∧
    (∀ v, classify v = .present ↔ v ∈ Set.Icc low high) ∧
    (∀ v ∈ Set.Icc low high, v ≠ 0 ∧ 0 < resistance v / R25_OHM ∧ kelvinInverse v ≠ 0 ∧
      ∃ temp, voltageToCelsius v = some temp ∧
        PLAUSIBLE_TEMP_MIN_C ≤ temp ∧ temp ≤ PLAUSIBLE_TEMP_MAX_C) ∧
    StrictMonoOn celsius (Set.Icc low high) ∧
    (∀ v, v < low → classify v = .absent ∨
      ∃ temp, voltageToCelsius v = some temp ∧ temp < PLAUSIBLE_TEMP_MIN_C) ∧
    ∀ v, high < v → EXCITATION_V - SHORT_VOLTAGE_MARGIN_V ≤ v ∨
      ∃ temp, voltageToCelsius v = some temp ∧ PLAUSIBLE_TEMP_MAX_C < temp := by
  have hmin := lt_voltageAt_min
  have hmax := voltageAt_max_lt
  have hlow : voltageAt PLAUSIBLE_TEMP_MIN_C ∈ Set.Ioo (0 : ℝ) (99 / 20) :=
    ⟨voltageAt_pos _, voltageAt_min_lt_max.trans hmax⟩
  have hhigh : voltageAt PLAUSIBLE_TEMP_MAX_C ∈ Set.Ioo (0 : ℝ) (99 / 20) :=
    ⟨voltageAt_pos _, hmax⟩
  have hmono := strictMonoOn_celsius
  -- in the band between an open and a shorted NTC, the two ends are the plausible temperatures
  have hcold : ∀ v ∈ Set.Ioo (0 : ℝ) (99 / 20),
      PLAUSIBLE_TEMP_MIN_C ≤ celsius v ↔ voltageAt PLAUSIBLE_TEMP_MIN_C ≤ v := by
    intro v hv
    rw [← hmono.le_iff_le hlow hv, celsius_voltageAt]
  have hhot : ∀ v ∈ Set.Ioo (0 : ℝ) (99 / 20),
      celsius v ≤ PLAUSIBLE_TEMP_MAX_C ↔ v ≤ voltageAt PLAUSIBLE_TEMP_MAX_C := by
    intro v hv
    rw [← hmono.le_iff_le hv hhigh, celsius_voltageAt]
  have hsub : Set.Icc (voltageAt PLAUSIBLE_TEMP_MIN_C) (voltageAt PLAUSIBLE_TEMP_MAX_C) ⊆
      Set.Ioo 0 (99 / 20) := fun v hv ↦ ⟨hlow.1.trans_le hv.1, hv.2.trans_lt hmax⟩
  refine ⟨voltageAt PLAUSIBLE_TEMP_MIN_C, voltageAt PLAUSIBLE_TEMP_MAX_C, hlow.1,
    voltageAt_min_lt_max, ?_, fun v ↦ ?_, fun v hv ↦ ?_, hmono.mono hsub, fun v hv ↦ ?_,
    fun v hv ↦ ?_⟩
  · unfold EXCITATION_V
    linarith
  · rw [classify_eq_present_iff]
    constructor
    · rintro ⟨hopen, hshort, hplausible, hplausible'⟩
      have hv : v ∈ Set.Ioo (0 : ℝ) (99 / 20) := ⟨by linarith, hshort⟩
      exact ⟨(hcold v hv).mp hplausible, (hhot v hv).mp hplausible'⟩
    · intro hv
      exact ⟨hmin.trans_le hv.1, (hsub hv).2, (hcold v (hsub hv)).mpr hv.1,
        (hhot v (hsub hv)).mpr hv.2⟩
  · obtain ⟨hpos, hshort⟩ := hsub hv
    have hratio : 0 < resistance v / R25_OHM := by
      rw [resistance_div_r25 hpos, sub_pos, one_lt_div hpos]
      linarith
    exact ⟨hpos.ne', hratio, (kelvinInverse_pos hpos hshort).ne', celsius v,
      voltageToCelsius_eq_some hpos (by linarith), (hcold v (hsub hv)).mpr hv.1,
      (hhot v (hsub hv)).mpr hv.2⟩
  · rcases le_or_gt v (1 / 20) with hopen | hopen
    · exact .inl (classify_eq_absent_iff.mpr hopen)
    · have hband : v ∈ Set.Ioo (0 : ℝ) (99 / 20) := ⟨by linarith, hv.trans hlow.2⟩
      refine .inr ⟨celsius v, voltageToCelsius_eq_some hband.1 (by linarith [hband.2]), ?_⟩
      exact not_le.mp fun h ↦ absurd ((hcold v hband).mp h) (not_le.mpr hv)
  · rcases le_or_gt (99 / 20) v with hshort | hshort
    · refine .inl ?_
      unfold EXCITATION_V SHORT_VOLTAGE_MARGIN_V
      linarith
    · have hband : v ∈ Set.Ioo (0 : ℝ) (99 / 20) := ⟨hhigh.1.trans hv, hshort⟩
      refine .inr ⟨celsius v, voltageToCelsius_eq_some hband.1 (by linarith), ?_⟩
      exact not_le.mp fun h ↦ absurd ((hhot v hband).mp h) (not_le.mpr hv)

end Ntc

end Nipxi
