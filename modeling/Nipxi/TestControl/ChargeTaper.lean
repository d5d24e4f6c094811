import Nipxi.TestControl.ChargeSampling
import Nipxi.TestControl.Setpoints

/-!
# Whether a genuine charge passes

The removal detector asks whether the sample before the end of charge had at least half the
commanded current, and the end of charge is at a fixed current. A taper by at most a tenth from
sample to sample reaches the end from at most 10/9 of that current: so it passes if half the
commanded current is more than that (`genuineChargesPass_iff`). The validator does not ask for it.
-/

open Collections

namespace Nipxi

/-- `Settings.CHARGE_CUTOFF_A`. -/
def CHARGE_CUTOFF_A : ℚ := 3 / 20

/-- Each current of a taper is at least this part of the one before. -/
def TAPER_FRACTION : ℚ := 9 / 10

namespace ChargeLoop

/-- The loop for a battery and a recipe. -/
noncomputable def ofRecipe (battery : BatteryCfg) (currentA voltageV : ℚ) (m : SafetyMonitor)
    (maxTempC : Option ℝ) (overtime : ℝ → Bool) (maxDmmFailures : ℕ) : ChargeLoop where
  monitor := m.setBatteryLimits (battery.limits maxTempC)
  currentA := currentA
  voltageLimitV := voltageV
  cutoffA := CHARGE_CUTOFF_A
  overtime := overtime
  maxDmmFailures := maxDmmFailures

/-- A CC-CV charge up to its end of charge: nothing else ends it, every sample is within the
limits, the current is the commanded one up to the charge voltage, and tapers from there on. -/
structure Genuine (c : ChargeLoop) (s : ℕ → Iteration) (k : ℕ) : Prop where
  runs : ∀ j ≤ k, ¬c.loop.StopsEarly (s j)
  dmm : ∀ j < k, ¬c.loop.LosesDmm s j
  sleeps : ∀ j < k, (s j).sleepCancelled = false
  safe : ∀ j ≤ k, ¬c.Unsafe (s j)
  cc : ∀ j ≤ k, ∀ v i, (s j).reading = some (v, i) → v < c.voltageLimitV → i = c.currentA
  cv : ∀ j ≤ k, ∀ v i v' i', SamplingLoop.lastReading s j = some (v', i') →
    (s j).reading = some (v, i) → c.voltageLimitV ≤ v' → c.voltageLimitV ≤ v
  taper : ∀ j ≤ k, ∀ v i v' i', SamplingLoop.lastReading s j = some (v', i') →
    (s j).reading = some (v, i) → c.voltageLimitV ≤ v → TAPER_FRACTION * |i'| ≤ |i| ∧ |i| ≤ |i'|
  charges : ∀ j < k, ¬c.AtEnd (s j)
  ends : c.AtEnd (s k)

variable {c : ChargeLoop} {s : ℕ → Iteration} {k : ℕ}

theorem Genuine.goesOn (h : c.Genuine s k) : ∀ j < k, c.GoesOn s j := fun j hj ↦
  ⟨h.runs j hj.le, h.dmm j hj, h.safe j hj.le, h.charges j hj, h.sleeps j hj⟩

/-- A genuine charge passes exactly if its last sample was not in the CC phase. -/
theorem Genuine.endsWith_complete (h : c.Genuine s k) (hcc : ¬c.FromCc s k) :
    c.loop.EndsWith s .complete :=
  SamplingLoop.endsWith_iff.mpr ⟨k, reaches_iff.mpr h.goesOn,
    endAt_eq_complete_iff.mpr ⟨h.runs k le_rfl, h.safe k le_rfl, h.ends, hcc⟩⟩

theorem Genuine.endsWith_removed (h : c.Genuine s k) (hcc : c.FromCc s k) :
    c.loop.EndsWith s .removed :=
  SamplingLoop.endsWith_iff.mpr ⟨k, reaches_iff.mpr h.goesOn,
    endAt_eq_removed_iff.mpr ⟨h.runs k le_rfl, h.safe k le_rfl, h.ends, hcc⟩⟩

theorem check_none_eq_none_iff {m : SafetyMonitor} {v i : ℝ} {tempC : Option ℝ}
    (h : m.check v i tempC (some .charge) = none) :
    v ≤ m.voltageMax ∧ m.voltageMin ≤ v ∧ |i| ≤ m.currentMax (some .charge) := by
  unfold SafetyMonitor.check at h
  split at h
  · cases h
  next hmax =>
  split at h
  · cases h
  next hmin =>
  split at h
  · cases h
  next hi => exact ⟨not_lt.mp hmax, not_lt.mp hmin, not_lt.mp hi⟩

theorem check_notWired {m : SafetyMonitor} {v i : ℝ} (hmax : v ≤ m.voltageMax)
    (hmin : m.voltageMin ≤ v) (hi : |i| ≤ m.currentMax (some .charge)) :
    m.check v i NtcReading.notWired.tempC (some .charge) = none := by
  unfold SafetyMonitor.check
  rw [if_neg hmax.not_gt, if_neg hmin.not_gt, if_neg hi.not_gt]
  rfl

end ChargeLoop

/-! ## Recipes -/

/-- Every genuine charge of a battery with a recipe passes. -/
def GenuineChargesPass (battery : BatteryCfg) (currentA voltageV : ℚ) : Prop :=
  ∀ (m : SafetyMonitor) (maxTempC : Option ℝ) (overtime : ℝ → Bool) (maxDmmFailures : ℕ)
    (s : ℕ → Iteration) (k : ℕ),
    (ChargeLoop.ofRecipe battery currentA voltageV m maxTempC overtime maxDmmFailures).Genuine s k →
      (ChargeLoop.ofRecipe battery currentA voltageV m maxTempC overtime
          maxDmmFailures).loop.EndsWith s .complete ∧
        ¬(ChargeLoop.ofRecipe battery currentA voltageV m maxTempC overtime
          maxDmmFailures).loop.EndsWith s .removed

/-- Half the commanded current is more than a taper can have just before the cutoff; or the limits
of the battery leave no such charge: they admit no voltage, or not half the commanded current, or
only currents below the cutoff and none of them before the charge voltage is reached. -/
def TaperClear (battery : BatteryCfg) (currentA voltageV : ℚ) : Prop :=
  CHARGE_CUTOFF_A < TAPER_FRACTION * (|currentA| / 2) ∨ battery.voltageMaxV < battery.voltageMinV ∨
    battery.maxChargeCurrentA < |currentA| / 2 ∨
      (battery.maxChargeCurrentA ≤ CHARGE_CUTOFF_A ∧
        (battery.maxChargeCurrentA < |currentA| ∨ voltageV ≤ battery.voltageMinV))

theorem taperClear_pass {battery : BatteryCfg} {currentA voltageV : ℚ}
    (hclear : TaperClear battery currentA voltageV) :
    GenuineChargesPass battery currentA voltageV := by
  intro m maxTempC overtime n s k h
  have hcc : ¬(ChargeLoop.ofRecipe battery currentA voltageV m maxTempC overtime n).FromCc s k := by
    rintro ⟨j, hj, u, p, hreading, hnone, hp⟩
    have hlast := SamplingLoop.lastReading_eq_some_iff.mpr ⟨j, hj, hreading, hnone⟩
    obtain ⟨w, q, hreading', hw, hq⟩ := h.ends
    obtain ⟨htaper, -⟩ := h.taper k le_rfl w q u p hlast hreading' hw
    have hsafe := h.safe j hj.le
    rw [ChargeLoop.unsafe_iff hreading, Option.not_isSome_iff_eq_none] at hsafe
    obtain ⟨hmax, hmin, hi⟩ := ChargeLoop.check_none_eq_none_iff hsafe
    have hmax : u ≤ (battery.voltageMaxV : ℝ) := hmax
    have hmin : (battery.voltageMinV : ℝ) ≤ u := hmin
    have hi : |p| ≤ (battery.maxChargeCurrentA : ℝ) := hi
    have hq : |q| ≤ (CHARGE_CUTOFF_A : ℝ) := hq
    have hhalf : (|currentA| : ℝ) / 2 ≤ |p| := by
      have hfraction : |(currentA : ℝ)| * CC_PHASE_CURRENT_FRACTION ≤ |p| := hp
      rw [CC_PHASE_CURRENT_FRACTION] at hfraction
      linarith
    rcases hclear with hclear | hclear | hclear | ⟨hlow, hclear⟩
    · have hclear : (CHARGE_CUTOFF_A : ℝ) < TAPER_FRACTION * (|(currentA : ℝ)| / 2) := by
        exact_mod_cast hclear
      have hfraction : (0 : ℝ) < TAPER_FRACTION := by
        exact_mod_cast (show (0 : ℚ) < TAPER_FRACTION by decide +kernel)
      have := mul_le_mul_of_nonneg_left hhalf hfraction.le
      linarith
    · have hclear : (battery.voltageMaxV : ℝ) < battery.voltageMinV := by exact_mod_cast hclear
      linarith
    · have hclear : (battery.maxChargeCurrentA : ℝ) < |(currentA : ℝ)| / 2 := by
        exact_mod_cast hclear
      linarith
    · have hlow : (battery.maxChargeCurrentA : ℝ) ≤ CHARGE_CUTOFF_A := by exact_mod_cast hlow
      -- The sample before is below the cutoff, so it is before the charge voltage.
      have hcv : ¬(voltageV : ℝ) ≤ u := fun hu ↦
        h.charges j hj ⟨u, p, hreading, hu, hi.trans hlow⟩
      have hcurrent : p = currentA := h.cc j hj.le u p hreading (not_le.mp hcv)
      rcases hclear with hclear | hclear
      · have hclear : (battery.maxChargeCurrentA : ℝ) < |(currentA : ℝ)| := by
          exact_mod_cast hclear
        rw [hcurrent] at hi
        linarith
      · have hclear : (voltageV : ℝ) ≤ battery.voltageMinV := by exact_mod_cast hclear
        exact hcv (hclear.trans hmin)
  have hcomplete := h.endsWith_complete hcc
  exact ⟨hcomplete, fun hremoved ↦ by cases hcomplete.unique hremoved⟩

/-- Two samples, the second for good. -/
def twoSamples (first second : Iteration) : ℕ → Iteration
  | 0 => first
  | _ + 1 => second

/-- A charge with nothing that counts failures yet, without a limit of temperature or time. -/
noncomputable def plainCharge (battery : BatteryCfg) (currentA voltageV : ℚ) : ChargeLoop :=
  ChargeLoop.ofRecipe battery currentA voltageV ⟨0, 0, 0, 0, none⟩ none (fun _ ↦ false) 1

section TwoSamples

variable {battery : BatteryCfg} {currentA voltageV : ℚ} {u w p q : ℝ}

theorem not_unsafe_twoSamples (hu : (battery.voltageMinV : ℝ) ≤ u ∧ u ≤ battery.voltageMaxV)
    (hw : (battery.voltageMinV : ℝ) ≤ w ∧ w ≤ battery.voltageMaxV)
    (hp : |p| ≤ battery.maxChargeCurrentA) (hq : |q| ≤ battery.maxChargeCurrentA) (j : ℕ) :
    ¬(plainCharge battery currentA voltageV).Unsafe
      (twoSamples (plainIteration u p) (plainIteration w q) j) := by
  cases j with
  | zero =>
    rw [ChargeLoop.unsafe_iff (v := u) (i := p) rfl, Option.not_isSome_iff_eq_none]
    exact ChargeLoop.check_notWired hu.2 hu.1 hp
  | succ j =>
    rw [ChargeLoop.unsafe_iff (v := w) (i := q) rfl, Option.not_isSome_iff_eq_none]
    exact ChargeLoop.check_notWired hw.2 hw.1 hq

/-- The first sample is of the constant current, or at the charge voltage above the cutoff; the
second is the end of the charge. -/
theorem genuine_twoSamples (hu : (battery.voltageMinV : ℝ) ≤ u ∧ u ≤ battery.voltageMaxV)
    (hw : (battery.voltageMinV : ℝ) ≤ w ∧ w ≤ battery.voltageMaxV)
    (hp : |p| ≤ battery.maxChargeCurrentA)
    (hcv : (voltageV : ℝ) ≤ w) (hq : |q| ≤ CHARGE_CUTOFF_A)
    (htaper : TAPER_FRACTION * |p| ≤ |q| ∧ |q| ≤ |p|)
    (hfirst : (u < voltageV ∧ p = currentA) ∨ ((voltageV : ℝ) ≤ u ∧ CHARGE_CUTOFF_A < |p|)) :
    (plainCharge battery currentA voltageV).Genuine
      (twoSamples (plainIteration u p) (plainIteration w q)) 1 := by
  have hlast : SamplingLoop.lastReading (twoSamples (plainIteration u p) (plainIteration w q)) 1
      = some (u, p) := rfl
  have hruns : ∀ j, ¬(plainCharge battery currentA voltageV).loop.StopsEarly
      (twoSamples (plainIteration u p) (plainIteration w q) j) := by
    intro j
    cases j <;> rintro (h | h | h) <;> cases h
  have hdmm : ∀ j, ¬(plainCharge battery currentA voltageV).loop.LosesDmm
      (twoSamples (plainIteration u p) (plainIteration w q)) j := by
    intro j
    cases j <;> rintro ⟨h, -⟩ <;> cases h
  refine ⟨fun j _ ↦ hruns j, fun j _ ↦ hdmm j, fun j _ ↦ by cases j <;> rfl,
    fun j _ ↦ not_unsafe_twoSamples hu hw hp (htaper.2.trans hp) j, ?_, ?_, ?_, ?_,
    ⟨w, q, rfl, hcv, hq⟩⟩
  · intro j hj v i hreading hv
    cases j with
    | zero =>
      obtain ⟨rfl, rfl⟩ := Prod.mk.inj (Option.some.inj hreading)
      rcases hfirst with ⟨-, h⟩ | ⟨h, -⟩
      · exact h
      · exact absurd hv h.not_gt
    | succ j =>
      obtain ⟨rfl, rfl⟩ := Prod.mk.inj (Option.some.inj hreading)
      exact absurd hv hcv.not_gt
  · intro j hj v i v' i' hlast' hreading hv'
    cases j with
    | zero => cases hlast'
    | succ j =>
      obtain ⟨rfl, rfl⟩ := Prod.mk.inj (Option.some.inj hreading)
      exact hcv
  · intro j hj v i v' i' hlast' hreading hv
    cases j with
    | zero => cases hlast'
    | succ j =>
      -- The charge ends with the second sample, so the one before it is the first.
      obtain rfl : j = 0 := by omega
      obtain ⟨rfl, rfl⟩ := Prod.mk.inj (Option.some.inj hreading)
      obtain ⟨rfl, rfl⟩ := Prod.mk.inj (Option.some.inj (hlast.symm.trans hlast'))
      exact htaper
  · intro j hj hend
    obtain rfl : j = 0 := by omega
    obtain ⟨hv, hi⟩ := (ChargeLoop.atEnd_iff (v := u) (i := p) rfl).mp hend
    rcases hfirst with ⟨h, -⟩ | ⟨-, h⟩
    · exact absurd hv h.not_ge
    · exact absurd hi h.not_ge

/-- A charge of two samples, the first of at least half the commanded current. -/
theorem not_genuineChargesPass (hu : (battery.voltageMinV : ℝ) ≤ u ∧ u ≤ battery.voltageMaxV)
    (hw : (battery.voltageMinV : ℝ) ≤ w ∧ w ≤ battery.voltageMaxV)
    (hp : |p| ≤ battery.maxChargeCurrentA) (hhalf : |(currentA : ℝ)| / 2 ≤ |p|)
    (hcv : (voltageV : ℝ) ≤ w) (hq : |q| ≤ CHARGE_CUTOFF_A)
    (htaper : TAPER_FRACTION * |p| ≤ |q| ∧ |q| ≤ |p|)
    (hfirst : (u < voltageV ∧ p = currentA) ∨ ((voltageV : ℝ) ≤ u ∧ CHARGE_CUTOFF_A < |p|)) :
    ¬GenuineChargesPass battery currentA voltageV := by
  intro hpass
  have hgenuine := genuine_twoSamples hu hw hp hcv hq htaper hfirst
  have hcc : (plainCharge battery currentA voltageV).FromCc
      (twoSamples (plainIteration u p) (plainIteration w q)) 1 := by
    refine ChargeLoop.fromCc_iff.mpr ⟨(u, p), rfl, ?_⟩
    rw [CC_PHASE_CURRENT_FRACTION]
    change |(currentA : ℝ)| * (1 / 2) ≤ |p|
    linarith
  exact (hpass _ none (fun _ ↦ false) 1 _ 1 hgenuine).2 (hgenuine.endsWith_removed hcc)

end TwoSamples

section NotClear

variable {battery : BatteryCfg} {currentA voltageV : ℚ}

theorem not_pass_of_taper (hvoltage : voltageV ≤ battery.voltageMaxV)
    (hwindow : battery.voltageMinV ≤ battery.voltageMaxV)
    (htaper : TAPER_FRACTION * (|currentA| / 2) ≤ CHARGE_CUTOFF_A)
    (hhalf : |currentA| / 2 ≤ battery.maxChargeCurrentA)
    (hhigh : CHARGE_CUTOFF_A < battery.maxChargeCurrentA) :
    ¬GenuineChargesPass battery currentA voltageV := by
  have hcutoff : CHARGE_CUTOFF_A = 3 / 20 := rfl
  have hfraction : TAPER_FRACTION = 9 / 10 := rfl
  -- the highest current that may taper to the cutoff in one step, and a voltage in the CV phase
  obtain ⟨p, hp⟩ : ∃ p, p = min battery.maxChargeCurrentA (CHARGE_CUTOFF_A / TAPER_FRACTION) :=
    ⟨_, rfl⟩
  obtain ⟨w, hw⟩ : ∃ w, w = max voltageV battery.voltageMinV := ⟨_, rfl⟩
  have hpmax : p ≤ battery.maxChargeCurrentA := hp ▸ min_le_left _ _
  have hpcutoff : TAPER_FRACTION * p ≤ CHARGE_CUTOFF_A := by
    have := hp ▸ min_le_right battery.maxChargeCurrentA (CHARGE_CUTOFF_A / TAPER_FRACTION)
    rw [hcutoff, hfraction] at this ⊢
    linarith
  have hcutoffp : CHARGE_CUTOFF_A < p := by
    rw [hp, lt_min_iff]
    refine ⟨hhigh, ?_⟩
    rw [hcutoff, hfraction]
    norm_num
  have hhalfp : |currentA| / 2 ≤ p := by
    rw [hp, le_min_iff]
    refine ⟨hhalf, ?_⟩
    rw [hcutoff, hfraction] at htaper ⊢
    linarith
  have hppos : 0 < p := lt_trans (by rw [hcutoff]; norm_num) hcutoffp
  have hqpos : 0 < TAPER_FRACTION * p := mul_pos (by rw [hfraction]; norm_num) hppos
  have hqp : TAPER_FRACTION * p ≤ p := by
    rw [hfraction]
    linarith
  have hwindow' : battery.voltageMinV ≤ w ∧ w ≤ battery.voltageMaxV :=
    ⟨hw ▸ le_max_right _ _, hw ▸ max_le hvoltage hwindow⟩
  have hvw : voltageV ≤ w := hw ▸ le_max_left _ _
  have habs : |(p : ℝ)| = p := abs_of_pos (by exact_mod_cast hppos)
  have habs' : |((TAPER_FRACTION * p : ℚ) : ℝ)| = (TAPER_FRACTION * p : ℚ) :=
    abs_of_pos (by exact_mod_cast hqpos)
  refine not_genuineChargesPass (u := w) (w := w) (p := p) (q := (TAPER_FRACTION * p : ℚ))
    (by exact_mod_cast hwindow') (by exact_mod_cast hwindow') ?_ ?_ (by exact_mod_cast hvw) ?_
    ?_ (.inr ⟨by exact_mod_cast hvw, ?_⟩)
  · rw [habs]
    exact_mod_cast hpmax
  · rw [habs]
    exact_mod_cast hhalfp
  · rw [habs']
    exact_mod_cast hpcutoff
  · rw [habs, habs']
    exact ⟨by push_cast; exact le_refl _, by exact_mod_cast hqp⟩
  · rw [habs]
    exact_mod_cast hcutoffp

/-- A step from a commanded current below the cutoff, out of the constant-current phase. -/
theorem not_pass_of_step (hvoltage : voltageV ≤ battery.voltageMaxV)
    (hwindow : battery.voltageMinV ≤ battery.voltageMaxV)
    (hhigh : battery.maxChargeCurrentA ≤ CHARGE_CUTOFF_A)
    (hcurrent : |currentA| ≤ battery.maxChargeCurrentA) (hfloor : battery.voltageMinV < voltageV) :
    ¬GenuineChargesPass battery currentA voltageV := by
  have hfraction : TAPER_FRACTION = 9 / 10 := rfl
  have hnonneg : 0 ≤ |currentA| := abs_nonneg currentA
  have habs : |TAPER_FRACTION * currentA| = TAPER_FRACTION * |currentA| := by
    rw [abs_mul, abs_of_pos (by rw [hfraction]; norm_num)]
  have hq : |TAPER_FRACTION * currentA| ≤ CHARGE_CUTOFF_A := by
    rw [habs, hfraction]
    linarith
  have hqp : |TAPER_FRACTION * currentA| ≤ |currentA| := by
    rw [habs, hfraction]
    linarith
  have htaper' : TAPER_FRACTION * |currentA| ≤ |TAPER_FRACTION * currentA| := habs.ge
  have hhalf' : |currentA| / 2 ≤ |currentA| := by linarith
  refine not_genuineChargesPass (u := battery.voltageMinV) (w := voltageV) (p := currentA)
    (q := (TAPER_FRACTION * currentA : ℚ)) ⟨le_refl _, by exact_mod_cast hwindow⟩
    ⟨by exact_mod_cast hfloor.le, by exact_mod_cast hvoltage⟩ (by exact_mod_cast hcurrent)
    (by exact_mod_cast hhalf') (le_refl _) (by exact_mod_cast hq)
    ⟨by exact_mod_cast htaper', by exact_mod_cast hqp⟩
    (.inl ⟨by exact_mod_cast hfloor, rfl⟩)

theorem not_pass_of_not_taperClear (hvoltage : voltageV ≤ battery.voltageMaxV)
    (h : ¬TaperClear battery currentA voltageV) :
    ¬GenuineChargesPass battery currentA voltageV := by
  unfold TaperClear at h
  push Not at h
  obtain ⟨htaper, hwindow, hhalf, hlow⟩ := h
  -- Only a battery that admits currents above the cutoff can taper down to it.
  by_cases hhigh : CHARGE_CUTOFF_A < battery.maxChargeCurrentA
  · exact not_pass_of_taper hvoltage hwindow htaper hhalf hhigh
  · obtain ⟨hcurrent, hfloor⟩ := hlow (not_lt.mp hhigh)
    exact not_pass_of_step hvoltage hwindow (not_lt.mp hhigh) hcurrent hfloor

end NotClear

/-- If the recipe of a group is accepted, every genuine charge with it passes. -/
def GenuineChargesPassFor (cfg : ValidatorConfig ℚ) (group : String) : Prop :=
  ∀ accepted, validateGroupTestConfig cfg group = .ok accepted →
    ∀ battery ∈ cfg.battery group,
      ∀ currentA ∈ numberAt accepted.testSetpoints "charge_current_a",
        ∀ voltageV ∈ numberAt accepted.testSetpoints "charge_voltage_v",
          GenuineChargesPass battery currentA voltageV

/-- The commanded current of a group is clear of the cutoff. -/
def TaperClearFor (cfg : ValidatorConfig ℚ) (group : String) : Prop :=
  ∀ battery ∈ cfg.battery group, ∀ currentA ∈ cfg.number group "charge_current_a",
    ∀ voltageV ∈ cfg.number group "charge_voltage_v", TaperClear battery currentA voltageV

/-- **When a genuine charge passes.** -/
theorem genuineChargesPass_iff {cfg : ValidatorConfig ℚ} {group : String}
    {accepted : AcceptedRecipe ℚ} (haccepted : validateGroupTestConfig cfg group = .ok accepted) :
    GenuineChargesPassFor cfg group ↔ TaperClearFor cfg group := by
  obtain ⟨battery, p, hbattery, hp, hp', hlimits⟩ := exists_of_validateGroupTestConfig haccepted
  constructor
  · intro h battery' hbattery' currentA hcurrent voltageV hvoltage
    obtain rfl := Option.some.inj (hbattery.symm.trans hbattery')
    obtain rfl := Option.some.inj (hp.chargeCurrentA.symm.trans hcurrent)
    obtain rfl := Option.some.inj (hp.chargeVoltageV.symm.trans hvoltage)
    by_contra hclear
    exact not_pass_of_not_taperClear hlimits.chargeVoltageV hclear
      (h accepted haccepted battery hbattery _ hp'.chargeCurrentA _ hp'.chargeVoltageV)
  · intro h accepted' haccepted' battery' hbattery' currentA hcurrent voltageV hvoltage
    obtain rfl := Except.ok.inj (haccepted.symm.trans haccepted')
    obtain rfl := Option.some.inj (hbattery.symm.trans hbattery')
    obtain rfl := Option.some.inj (hp'.chargeCurrentA.symm.trans hcurrent)
    obtain rfl := Option.some.inj (hp'.chargeVoltageV.symm.trans hvoltage)
    exact taperClear_pass (h battery hbattery _ hp.chargeCurrentA _ hp.chargeVoltageV)

/-- A charge at 1 A is clear of a cutoff of 0.15 A. -/
theorem genuineChargesPass_groupB1 : GenuineChargesPassFor (groupB1 (.number 1 "1.0")) "B1" := by
  obtain ⟨_, haccepted⟩ : ∃ accepted,
      validateGroupTestConfig (groupB1 (.number 1 "1.0")) "B1" = .ok accepted :=
    exists_accepted_of_toOption (by decide +kernel)
  refine (genuineChargesPass_iff haccepted).mpr ?_
  unfold TaperClearFor TaperClear
  decide +kernel

/-- A charge at 0.2 A is accepted: a taper from 0.16 A to 0.15 A is then taken for a removal. -/
theorem not_genuineChargesPass_lowCurrent : ¬∀ cfg group, GenuineChargesPassFor cfg group := by
  intro h
  obtain ⟨accepted, haccepted⟩ : ∃ accepted,
      validateGroupTestConfig (groupB1 (.number (1 / 5) "0.2")) "B1" = .ok accepted :=
    exists_accepted_of_toOption (by decide +kernel)
  obtain ⟨battery, p, hbattery, hp, hp', hlimits⟩ := exists_of_validateGroupTestConfig haccepted
  have hclear : ¬TaperClear battery p.chargeCurrentA p.chargeVoltageV := by
    have hnone : ∀ b ∈ (groupB1 (.number (1 / 5) "0.2")).battery "B1",
        ∀ x ∈ (groupB1 (.number (1 / 5) "0.2")).number "B1" "charge_current_a",
          ∀ v ∈ (groupB1 (.number (1 / 5) "0.2")).number "B1" "charge_voltage_v",
            ¬TaperClear b x v := by
      unfold TaperClear
      decide +kernel
    exact hnone battery hbattery _ hp.chargeCurrentA _ hp.chargeVoltageV
  exact not_pass_of_not_taperClear hlimits.chargeVoltageV hclear
    (h _ _ accepted haccepted battery hbattery _ hp'.chargeCurrentA _ hp'.chargeVoltageV)

end Nipxi
