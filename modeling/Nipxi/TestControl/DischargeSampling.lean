import Nipxi.TestControl.SamplingLoop
import Nipxi.TestControl.Setpoints

/-!
# Whether a discharge can end

The sampling loop of `DischargeSequence.run` checks a sample before it looks for the end of the
discharge. The cutoff is clamped to the floor, so a recipe may put it there: the sample that
reaches the cutoff is then below the floor, and a violation. A discharge ends for every small
enough step across the cutoff exactly if the cutoff is above the floor (`dischargesEnd_iff`).
-/

open Collections

namespace Nipxi

/-! ## The loop -/

/-- What the sampling loop of a discharge is given. -/
structure DischargeLoop where
  monitor : SafetyMonitor
  /-- `cutoff_v`. -/
  cutoffV : ℝ
  /-- `elapsed > discharge_timeout_s`. -/
  overtime : ℝ → Bool
  /-- `Settings.DMM_MEASUREMENT_MAX_CONSECUTIVE_FAILURES`. -/
  maxDmmFailures : ℕ

namespace DischargeLoop

/-- The loop of `DischargeSequence.run`. -/
noncomputable def loop (c : DischargeLoop) : SamplingLoop where
  overtime := c.overtime
  maxDmmFailures := c.maxDmmFailures
  take _ v i ntc := takeSample c.monitor (.discharge c.cutoffV) v i ntc

/-- The loop for a battery and a recipe. -/
noncomputable def ofRecipe (battery : BatteryCfg) (targetV : ℚ) (m : SafetyMonitor)
    (maxTempC : Option ℝ) (overtime : ℝ → Bool) (maxDmmFailures : ℕ) : DischargeLoop where
  monitor := m.setBatteryLimits (battery.limits maxTempC)
  cutoffV := (clampCutoffV targetV battery.voltageMinV : ℚ)
  overtime := overtime
  maxDmmFailures := maxDmmFailures

variable (c : DischargeLoop)

/-- The current and the temperature of a sample are within the limits. -/
def WithinCurrentAndTemp (i : ℝ) (ntc : NtcReading) : Prop :=
  |i| ≤ c.monitor.currentMax (some .discharge) ∧ ∀ temp ∈ ntc.tempC, temp ≤ c.monitor.tempMax

/-- An iteration before the cutoff is reached: its sample, if the DMM is read, is within all limits
and above the cutoff. -/
structure Discharging (s : ℕ → Iteration) (k : ℕ) : Prop where
  runs : ¬c.loop.StopsEarly (s k)
  dmm : ¬c.loop.LosesDmm s k
  sleeps : (s k).sleepCancelled = false
  safe : ∀ v i, (s k).reading = some (v, i) →
    c.monitor.check v i (s k).ntc.tempC (some .discharge) = none
  above : ∀ v i, (s k).reading = some (v, i) → c.cutoffV < v

/-- The cutoff is reached at an iteration, from above, and crossed by at most `d`. -/
structure CrossesWithin (d : ℝ) (s : ℕ → Iteration) (k : ℕ) : Prop where
  before : ∀ j < k, c.Discharging s j
  runs : ¬c.loop.StopsEarly (s k)
  crosses : ∃ v i, (s k).reading = some (v, i) ∧ v ≤ c.cutoffV ∧ c.cutoffV - d ≤ v ∧
    c.WithinCurrentAndTemp i (s k).ntc

variable {c}

theorem take_eq (prev : Option (ℝ × ℝ)) (v i : ℝ) (ntc : NtcReading) :
    c.loop.take prev v i ntc = takeSample c.monitor (.discharge c.cutoffV) v i ntc :=
  rfl

theorem take_of_safe {prev : Option (ℝ × ℝ)} {v i : ℝ} {ntc : NtcReading}
    (h : c.monitor.check v i ntc.tempC (some .discharge) = none) :
    c.loop.take prev v i ntc = if v ≤ c.cutoffV then .complete else .continues := by
  rw [take_eq, takeSample, show c.monitor.check v i ntc.tempC
    (some (SampledPhase.discharge c.cutoffV).mode) = none from h]
  rfl

theorem take_of_unsafe (prev : Option (ℝ × ℝ)) {v i : ℝ} {ntc : NtcReading}
    (h : (c.monitor.check v i ntc.tempC (some .discharge)).isSome = true) :
    ∃ reason, c.loop.take prev v i ntc = .violation reason := by
  obtain ⟨reason, hreason⟩ := Option.isSome_iff_exists.mp h
  refine ⟨reason, ?_⟩
  rw [take_eq, takeSample, show c.monitor.check v i ntc.tempC
    (some (SampledPhase.discharge c.cutoffV).mode) = some reason from hreason]

theorem Discharging.endAt_eq_none {s : ℕ → Iteration} {k : ℕ} (h : c.Discharging s k) :
    c.loop.endAt s k = none := by
  cases hreading : (s k).reading with
  | none =>
    have hdmm : (s k).dmm = none := by
      cases hd : (s k).dmm with
      | none => rfl
      | some v =>
        cases hs : (s k).smu with
        | none => exact absurd (.inr (.inr hs)) h.runs
        | some measured =>
          rw [Iteration.reading, hd, hs] at hreading
          cases hreading
    exact SamplingLoop.endAt_of_dmm_eq_none h.runs hdmm h.dmm h.sleeps
  | some p =>
    rw [SamplingLoop.endAt_of_reading (v := p.1) (i := p.2) h.runs hreading,
      take_of_safe (h.safe _ _ hreading), if_neg (h.above _ _ hreading).not_ge]
    exact if_neg (ne_true_of_eq_false h.sleeps)

/-- The check of a sample whose current and temperature are within the limits is one of its
voltage. -/
theorem check_eq_none_iff {v i : ℝ} {ntc : NtcReading} (h : c.WithinCurrentAndTemp i ntc) :
    c.monitor.check v i ntc.tempC (some .discharge) = none ↔
      c.monitor.voltageMin ≤ v ∧ v ≤ c.monitor.voltageMax := by
  obtain ⟨hi, htemp⟩ := h
  unfold SafetyMonitor.check
  split
  · next hmax => exact iff_of_false (Option.some_ne_none _) fun h ↦ hmax.not_ge h.2
  next hmax =>
  split
  · next hmin => exact iff_of_false (Option.some_ne_none _) fun h ↦ hmin.not_ge h.1
  next hmin =>
  rw [if_neg hi.not_gt]
  refine iff_of_true ?_ ⟨not_lt.mp hmin, not_lt.mp hmax⟩
  cases htc : ntc.tempC with
  | none => rfl
  | some temp => exact if_neg (htemp temp htc).not_gt

/-- A discharge whose sample at the cutoff passes the check is complete. -/
theorem CrossesWithin.endsWith {d : ℝ} {s : ℕ → Iteration} {k : ℕ} (h : c.CrossesWithin d s k)
    (hmin : c.monitor.voltageMin ≤ c.cutoffV - d) (hmax : c.cutoffV ≤ c.monitor.voltageMax) :
    c.loop.EndsWith s .complete := by
  obtain ⟨v, i, hreading, hcutoff, hd, hwithin⟩ := h.crosses
  refine SamplingLoop.endsWith_iff.mpr ⟨k, fun j hj ↦ (h.before j hj).endAt_eq_none, ?_⟩
  have hsafe := (check_eq_none_iff hwithin).mpr ⟨hmin.trans hd, hcutoff.trans hmax⟩
  rw [SamplingLoop.endAt_of_reading h.runs hreading, take_of_safe hsafe, if_pos hcutoff]
  rfl

/-- A discharge whose first sample fails the check is not. -/
theorem not_endsWith_complete {s : ℕ → Iteration} {v i : ℝ} (hruns : ¬c.loop.StopsEarly (s 0))
    (hreading : (s 0).reading = some (v, i))
    (h : (c.monitor.check v i (s 0).ntc.tempC (some .discharge)).isSome = true) :
    ¬c.loop.EndsWith s .complete := by
  intro hcomplete
  obtain ⟨reason, hreason⟩ := take_of_unsafe (SamplingLoop.lastReading s 0) h
  have hends : c.loop.EndsWith s (.violation reason) := by
    refine SamplingLoop.endsWith_iff.mpr ⟨0, fun j hj ↦ absurd hj j.not_lt_zero, ?_⟩
    rw [SamplingLoop.endAt_of_reading hruns hreading, hreason]
    rfl
  cases hends.unique hcomplete

theorem ofRecipe_cutoffV {battery : BatteryCfg} {targetV : ℚ} {m : SafetyMonitor}
    {maxTempC : Option ℝ} {overtime : ℝ → Bool} {n : ℕ} (hfloor : battery.voltageMinV ≤ targetV) :
    (ofRecipe battery targetV m maxTempC overtime n).cutoffV = (targetV : ℝ) := by
  rw [ofRecipe, clampCutoffV, max_eq_left hfloor]

end DischargeLoop

/-! ## Accepted recipes -/

/-- There is a margin within which every discharge that crosses its cutoff is complete. -/
def DischargeEnds (battery : BatteryCfg) (targetV : ℚ) : Prop :=
  ∃ d : ℝ, 0 < d ∧ ∀ (m : SafetyMonitor) (maxTempC : Option ℝ) (overtime : ℝ → Bool)
    (maxDmmFailures : ℕ) (s : ℕ → Iteration) (k : ℕ),
    (DischargeLoop.ofRecipe battery targetV m maxTempC overtime maxDmmFailures).CrossesWithin
        d s k →
      (DischargeLoop.ofRecipe battery targetV m maxTempC overtime maxDmmFailures).loop.EndsWith s
        .complete

/-- A cutoff leaves room for a discharge to end, unless no current is within the limits. -/
theorem dischargeEnds_iff {battery : BatteryCfg} {targetV : ℚ}
    (hfloor : battery.voltageMinV ≤ targetV) :
    DischargeEnds battery targetV ↔
      (battery.voltageMinV < targetV ∧ targetV ≤ battery.voltageMaxV) ∨
        battery.maxDischargeCurrentA < 0 := by
  constructor
  · rintro ⟨d, hd, hends⟩
    by_contra hnot
    obtain ⟨hroom, hcurrent⟩ := not_or.mp hnot
    have hcurrent : (0 : ℝ) ≤ battery.maxDischargeCurrentA := by
      exact_mod_cast not_lt.mp hcurrent
    -- A first sample without a current, which crosses the cutoff by the margin or ends at it.
    obtain ⟨v, hv, hvd, hfail⟩ : ∃ v : ℝ, v ≤ (targetV : ℝ) ∧ (targetV : ℝ) - d ≤ v ∧
        ¬((battery.voltageMinV : ℝ) ≤ v ∧ v ≤ (battery.voltageMaxV : ℝ)) := by
      by_cases hmax : targetV ≤ battery.voltageMaxV
      · have hmin : targetV = battery.voltageMinV :=
          le_antisymm (not_lt.mp fun h ↦ hroom ⟨h, hmax⟩) hfloor
        refine ⟨targetV - d, by linarith, le_refl _, fun h ↦ ?_⟩
        rw [← hmin] at h
        linarith [h.1]
      · refine ⟨targetV, le_refl _, by linarith, fun h ↦ hmax ?_⟩
        exact_mod_cast h.2
    let m : SafetyMonitor := ⟨0, 0, 0, 0, none⟩
    let c := DischargeLoop.ofRecipe battery targetV m none (fun _ ↦ false) 0
    have hcut : c.cutoffV = (targetV : ℝ) := DischargeLoop.ofRecipe_cutoffV hfloor
    have hwithin : c.WithinCurrentAndTemp 0 .notWired := by
      refine ⟨?_, fun temp htemp ↦ absurd htemp (Option.some_ne_none temp).symm⟩
      rw [abs_zero]
      exact hcurrent
    have hruns : ¬c.loop.StopsEarly (plainIteration v 0) := by
      rintro (h | h | h) <;> cases h
    refine DischargeLoop.not_endsWith_complete (c := c) (s := fun _ ↦ plainIteration v 0) hruns rfl
      ?_ (hends m none (fun _ ↦ false) 0 (fun _ ↦ plainIteration v 0) 0 ?_)
    · rw [Option.isSome_iff_ne_none]
      exact fun hnone ↦ hfail ((DischargeLoop.check_eq_none_iff hwithin).mp hnone)
    · exact ⟨fun j hj ↦ absurd hj j.not_lt_zero, hruns, v, 0, rfl, hcut ▸ hv, hcut ▸ hvd, hwithin⟩
  · rintro (⟨hmin, hmax⟩ | hcurrent)
    · have hmin : (battery.voltageMinV : ℝ) < targetV := by exact_mod_cast hmin
      have hmax : (targetV : ℝ) ≤ battery.voltageMaxV := by exact_mod_cast hmax
      refine ⟨targetV - battery.voltageMinV, sub_pos.mpr hmin, fun m maxTempC overtime n s k h ↦ ?_⟩
      have hcut : (DischargeLoop.ofRecipe battery targetV m maxTempC overtime n).cutoffV
          = (targetV : ℝ) := DischargeLoop.ofRecipe_cutoffV hfloor
      refine h.endsWith ?_ (hcut ▸ hmax)
      rw [hcut, sub_sub_cancel]
      exact le_refl (battery.voltageMinV : ℝ)
    · refine ⟨1, one_pos, fun m maxTempC overtime n s k h ↦ ?_⟩
      obtain ⟨v, i, -, -, -, hi, -⟩ := h.crosses
      have hcurrent : (battery.maxDischargeCurrentA : ℝ) < 0 := by exact_mod_cast hcurrent
      exact absurd (hi.trans_lt hcurrent) (abs_nonneg i).not_gt

/-- If the recipe of a group is accepted, there is a margin within which every discharge with it
that crosses its cutoff is complete. -/
def DischargesEnd (cfg : ValidatorConfig ℚ) (group : String) : Prop :=
  ∀ accepted, validateGroupTestConfig cfg group = .ok accepted →
    ∀ battery ∈ cfg.battery group,
      ∀ targetV ∈ numberAt accepted.testSetpoints "discharge_cutoff_v",
        DischargeEnds battery targetV

/-- The cutoff of a group is above the floor of its battery and not above the ceiling, or the
battery bears no current at all. -/
def CutoffClear (cfg : ValidatorConfig ℚ) (group : String) : Prop :=
  ∀ battery ∈ cfg.battery group, ∀ targetV ∈ cfg.number group "discharge_cutoff_v",
    (battery.voltageMinV < targetV ∧ targetV ≤ battery.voltageMaxV) ∨
      battery.maxDischargeCurrentA < 0

/-- **When a normal discharge can end.** -/
theorem dischargesEnd_iff {cfg : ValidatorConfig ℚ} {group : String}
    {accepted : AcceptedRecipe ℚ} (haccepted : validateGroupTestConfig cfg group = .ok accepted) :
    DischargesEnd cfg group ↔ CutoffClear cfg group := by
  obtain ⟨battery, p, hbattery, hp, hp', hlimits⟩ := exists_of_validateGroupTestConfig haccepted
  have hends := dischargeEnds_iff hlimits.dischargeCutoffV
  constructor
  · intro h battery' hbattery' targetV htarget
    obtain rfl := Option.some.inj (hbattery.symm.trans hbattery')
    obtain rfl := Option.some.inj (hp.dischargeCutoffV.symm.trans htarget)
    exact hends.mp (h accepted haccepted battery hbattery _ hp'.dischargeCutoffV)
  · intro h accepted' haccepted' battery' hbattery' targetV htarget
    obtain rfl := Except.ok.inj (haccepted.symm.trans haccepted')
    obtain rfl := Option.some.inj (hbattery.symm.trans hbattery')
    obtain rfl := Option.some.inj (hp'.dischargeCutoffV.symm.trans htarget)
    exact hends.mpr (h battery hbattery _ hp.dischargeCutoffV)

/-- A cutoff of 3 V is clear of a floor of 2.75 V. -/
theorem dischargesEnd_groupB1 : DischargesEnd (groupB1 (.number 1 "1.0")) "B1" := by
  obtain ⟨_, haccepted⟩ : ∃ accepted,
      validateGroupTestConfig (groupB1 (.number 1 "1.0")) "B1" = .ok accepted :=
    exists_accepted_of_toOption (by decide +kernel)
  refine (dischargesEnd_iff haccepted).mpr ?_
  unfold CutoffClear
  decide +kernel

/-- A group whose battery has its floor at the cutoff. -/
def groupAtFloor : ValidatorConfig ℚ :=
  { groupB1 (.number 1 "1.0") with
    batteryConfigs := Dict.empty.insert "HUB" ⟨2, 21 / 5, 2, 3⟩ }

/-- A cutoff of 3 V is accepted for a floor of 3 V: then no discharge that steps across it ends
without a violation. -/
theorem not_dischargesEnd_atFloor : ¬∀ cfg group, DischargesEnd cfg group := by
  intro h
  obtain ⟨accepted, haccepted⟩ : ∃ accepted,
      validateGroupTestConfig groupAtFloor "B1" = .ok accepted :=
    exists_accepted_of_toOption (by decide +kernel)
  obtain ⟨battery, p, hbattery, hp, hp', hlimits⟩ := exists_of_validateGroupTestConfig haccepted
  have hroom := (dischargeEnds_iff hlimits.dischargeCutoffV).mp
    (h _ _ accepted haccepted battery hbattery _ hp'.dischargeCutoffV)
  have hnone : ∀ b ∈ groupAtFloor.battery "B1", ∀ x ∈ groupAtFloor.number "B1" "discharge_cutoff_v",
      ¬((b.voltageMinV < x ∧ x ≤ b.voltageMaxV) ∨ b.maxDischargeCurrentA < 0) := by
    decide +kernel
  exact hnone battery hbattery _ hp.dischargeCutoffV hroom

end Nipxi
