import Nipxi.TestControl.ChargeTaper

/-!
# Whether a loop is bounded in time

Stage 4 of the validator refuses a timeout where `value > MAX_TIMEOUT_OVERRIDE_S`, and the loops
stop where `elapsed > timeout`. Neither comparison is ever true of a `nan`: so a timeout that is one
is accepted, and never reached. All other accepted timeouts are bounded, whatever the loop makes of
its samples (`timeoutCeiling_iff`).
-/

open Collections

namespace Nipxi

/-! ## Timeouts -/

/-- `elapsed > x`. -/
noncomputable def PyNumber.exceededBy (elapsed : ℝ) : PyNumber → Bool
  | nan | posInf => false
  | negInf => true
  | finite x => decide ((x : ℝ) < elapsed)

/-- `test_setpoints.get(key, default)`, as the bound of a comparison: values that are no numbers do
not pass Stage 4. -/
def timeoutOf (setpoints : Setpoints PyNumber) (key : String) (default : ℚ) : PyNumber :=
  match setpoints.get? key with
  | none => .finite default
  | some v => v.numeric?.getD .nan

/-- A sampling loop with a timeout, which makes of its samples what it will. -/
noncomputable def SamplingLoop.withTimeout (timeout : PyNumber) (maxDmmFailures : ℕ)
    (take : Option (ℝ × ℝ) → ℝ → ℝ → NtcReading → SampleEnd) : SamplingLoop where
  overtime elapsed := timeout.exceededBy elapsed
  maxDmmFailures := maxDmmFailures
  take := take

/-- No sample is recorded once the elapsed time exceeds the ceiling. -/
def BoundedBy (ceiling : ℝ) (timeout : PyNumber) : Prop :=
  ∀ maxDmmFailures take (s : ℕ → Iteration) (k n : ℕ), ceiling < (s k).elapsed → k ≤ n →
    (SamplingLoop.withTimeout timeout maxDmmFailures take).recordedBy s n
      = (SamplingLoop.withTimeout timeout maxDmmFailures take).recordedBy s k

theorem boundedBy_finite {ceiling : ℝ} {x : ℚ} (hx : (x : ℝ) ≤ ceiling) :
    BoundedBy ceiling (.finite x) := by
  intro maxDmmFailures take s k n hk hkn
  refine SamplingLoop.recordedBy_of_refuses (.inl (.inr (.inl ?_))) hkn
  exact decide_eq_true (hx.trans_lt hk)

/-- A charge that never gets near its end, with limits that 0 V and 0 A are within. -/
noncomputable def idleCharge : ChargeLoop where
  monitor := ⟨0, 0, 0, 0, none⟩
  currentA := 1
  voltageLimitV := 1
  cutoffA := 0
  overtime elapsed := PyNumber.exceededBy elapsed .nan
  maxDmmFailures := 1

/-- The first sample of such a charge is recorded, however late it is. -/
theorem not_boundedBy_nan (ceiling : ℝ) : ¬BoundedBy ceiling .nan := by
  intro h
  obtain ⟨elapsed, helapsed⟩ := exists_gt ceiling
  let s : ℕ → Iteration := fun _ ↦ { plainIteration 0 0 with elapsed := elapsed }
  have hsame := h 1 idleCharge.loop.take s 0 1 helapsed (Nat.zero_le 1)
  have hcheck : idleCharge.monitor.check 0 0 NtcReading.notWired.tempC (some .charge) = none :=
    ChargeLoop.check_notWired (le_refl (0 : ℝ)) (le_refl (0 : ℝ)) (abs_zero (α := ℝ)).le
  have htake : idleCharge.loop.take none 0 0 .notWired = .continues := by
    have hend : ¬((1 : ℝ) ≤ 0 ∧ |(0 : ℝ)| ≤ 0) := fun h ↦ absurd h.1 one_pos.not_ge
    change takeSample idleCharge.monitor (.charge 1 1 0 none) 0 0 .notWired = .continues
    unfold takeSample
    rw [show idleCharge.monitor.check 0 0 NtcReading.notWired.tempC
      (some (SampledPhase.charge 1 1 0 none).mode) = none from hcheck]
    exact if_neg hend
  have hrecorded : (SamplingLoop.withTimeout .nan 1 idleCharge.loop.take).recordedBy s 1
      = [⟨0, 0, none⟩] := by
    change (SamplingLoop.sample (SamplingLoop.withTimeout .nan 1 idleCharge.loop.take)
      ⟨none, 0, []⟩ 0 0 (s 0)).1.recorded = _
    unfold SamplingLoop.sample
    rw [show (SamplingLoop.withTimeout .nan 1 idleCharge.loop.take).take none 0 0 (s 0).ntc
      = .continues from htake]
    rfl
  rw [hrecorded] at hsame
  cases hsame

/-! ## Accepted recipes -/

/-- A timeout that Stage 4 lets through: a `nan`, or positive and at most the ceiling. -/
inductive AcceptsTimeout : SetpointValue PyNumber → Prop
  | nan (repr : String) : AcceptsTimeout (.number .nan repr)
  | bounded (x : ℚ) (repr : String) (hpos : 0 < x) (hle : x ≤ MAX_TIMEOUT_OVERRIDE_S) :
    AcceptsTimeout (.number (.finite x) repr)

section Accepted

variable {cfg : ValidatorConfig PyNumber} {group key : String}
  {accepted : AcceptedRecipe PyNumber}

theorem acceptsTimeout_of_checkTimeout {setpoints : Setpoints PyNumber}
    {v : SetpointValue PyNumber} (h : checkTimeout cfg group setpoints key = .ok ())
    (hv : setpoints.get? key = some v) : AcceptsTimeout v := by
  unfold checkTimeout at h
  simp only [hv] at h
  split at h
  · cases h
  split at h
  · cases h
  next x hx =>
  split at h
  · cases h
  next hle =>
  split at h
  · cases h
  next hlt =>
  cases v with
  | number y repr =>
    obtain rfl := Option.some.inj hx
    cases y with
    -- Neither comparison of Stage 4 is true of a `nan`.
    | nan => exact .nan repr
    | negInf => exact absurd rfl hle
    | posInf => exact absurd rfl hlt
    | finite x =>
      have hpos : ¬x ≤ 0 := fun hx ↦ hle (by
        change (!(decide (0 < x))) = true
        rw [decide_eq_false hx.not_gt]
        rfl)
      exact .bounded x repr (not_le.mp hpos) (not_lt.mp fun hx ↦ hlt (decide_eq_true hx))
  | flag | text | none => cases hx

/-- **What the timeouts of an accepted recipe satisfy**: they are the overrides of the group, where
there are any, and each of these passes Stage 4. -/
theorem exists_of_acceptsTimeout (h : validateGroupTestConfig cfg group = .ok accepted)
    (hkey : key = "charge_timeout_s" ∨ key = "discharge_timeout_s") :
    accepted.testSetpoints.get? key = (cfg.recipe group).testSetpoints.bind (·.get? key) ∧
      ∀ v ∈ accepted.testSetpoints.get? key, AcceptsTimeout v := by
  obtain ⟨⟨hw, batteryType, setpoints⟩, hgroup, h⟩ := exists_of_except_bind_eq_ok h
  obtain ⟨_, -, h⟩ := exists_of_except_bind_eq_ok h
  obtain ⟨_, -, h⟩ := exists_of_except_bind_eq_ok h
  obtain ⟨_, htimeouts, h⟩ := exists_of_except_bind_eq_ok h
  obtain ⟨resolved, hmode, h⟩ := exists_of_except_bind_eq_ok h
  obtain rfl := Except.ok.inj h
  obtain ⟨_, hcharge, hdischarge⟩ := exists_of_except_bind_eq_ok htimeouts
  obtain ⟨-, -, hsetpoints⟩ := of_groupConfiguration hgroup
  have hne : key ≠ "charge_mode" := by
    rcases hkey with rfl | rfl <;> decide
  rw [get?_of_chargeMode hne hmode, hsetpoints]
  refine ⟨rfl, fun v hv ↦ ?_⟩
  rcases hkey with rfl | rfl
  · exact acceptsTimeout_of_checkTimeout hcharge hv
  · exact acceptsTimeout_of_checkTimeout hdischarge hv

/-- If the recipe of a group is accepted, the loop with this timeout is bounded by the default and
the ceiling of the overrides. -/
def TimeoutBounded (cfg : ValidatorConfig PyNumber) (group key : String) (default : ℚ) : Prop :=
  ∀ accepted, validateGroupTestConfig cfg group = .ok accepted →
    BoundedBy (max default MAX_TIMEOUT_OVERRIDE_S : ℚ)
      (timeoutOf accepted.testSetpoints key default)

theorem timeoutBounded_iff (hkey : key = "charge_timeout_s" ∨ key = "discharge_timeout_s")
    (haccepted : validateGroupTestConfig cfg group = .ok accepted) (default : ℚ) :
    TimeoutBounded cfg group key default ↔ cfg.number group key ≠ some .nan := by
  obtain ⟨hget, haccepts⟩ := exists_of_acceptsTimeout haccepted hkey
  have hbounded : TimeoutBounded cfg group key default ↔
      BoundedBy (max default MAX_TIMEOUT_OVERRIDE_S : ℚ)
        (timeoutOf accepted.testSetpoints key default) := by
    refine ⟨fun h ↦ h accepted haccepted, fun h accepted' haccepted' ↦ ?_⟩
    obtain rfl := Except.ok.inj (haccepted.symm.trans haccepted')
    exact h
  have hnumber : cfg.number group key
      = (accepted.testSetpoints.get? key).bind SetpointValue.numeric? := by
    rw [hget, Option.bind_assoc]
    rfl
  rw [hbounded, hnumber, timeoutOf]
  cases hoverride : accepted.testSetpoints.get? key with
  | none =>
    refine iff_of_true (boundedBy_finite ?_) (Option.some_ne_none _).symm
    exact_mod_cast le_max_left default MAX_TIMEOUT_OVERRIDE_S
  | some v =>
    cases haccepts v hoverride with
    | nan => exact iff_of_false (not_boundedBy_nan _) fun h ↦ h rfl
    | bounded x repr _ hle =>
      refine iff_of_true (boundedBy_finite ?_) fun h ↦ ?_
      · exact_mod_cast hle.trans (le_max_right default MAX_TIMEOUT_OVERRIDE_S)
      · cases Option.some.inj h

/-- Both loops of a group are bounded in time. -/
def TimeoutCeiling (cfg : ValidatorConfig PyNumber) (group : String)
    (chargeTimeoutS dischargeTimeoutS : ℚ) : Prop :=
  TimeoutBounded cfg group "charge_timeout_s" chargeTimeoutS ∧
    TimeoutBounded cfg group "discharge_timeout_s" dischargeTimeoutS

/-- **When there is a ceiling.** Both loops of an accepted recipe are bounded in time exactly if
neither override is a `nan`. -/
theorem timeoutCeiling_iff (haccepted : validateGroupTestConfig cfg group = .ok accepted)
    (chargeTimeoutS dischargeTimeoutS : ℚ) :
    TimeoutCeiling cfg group chargeTimeoutS dischargeTimeoutS ↔
      cfg.number group "charge_timeout_s" ≠ some .nan ∧
        cfg.number group "discharge_timeout_s" ≠ some .nan :=
  and_congr (timeoutBounded_iff (.inl rfl) haccepted chargeTimeoutS)
    (timeoutBounded_iff (.inr rfl) haccepted dischargeTimeoutS)

end Accepted

/-- The group `B1`, with a timeout for its charges. -/
def groupB1WithTimeout (chargeTimeoutS : SetpointValue PyNumber) : ValidatorConfig PyNumber where
  tables := (groupB1 (.number 1 "1.0")).tables
  recipes := Dict.empty.insert "B1" {
    batteryType := some "HUB"
    testSetpoints := some (Dict.assign [("charge_current_a", .number (.finite 1) "1.0"),
      ("charge_voltage_v", .number (.finite (21 / 5)) "4.2"),
      ("discharge_current_a", .number (.finite 1) "1.0"),
      ("discharge_cutoff_v", .number (.finite 3) "3.0"),
      ("charge_timeout_s", chargeTimeoutS)] Dict.empty) }
  batteryConfigs := (groupB1 (.number 1 "1.0")).batteryConfigs
  systemMode := .development

/-- A timeout of 600 s is a ceiling. -/
theorem timeoutCeiling_groupB1 :
    TimeoutCeiling (groupB1WithTimeout (.number (.finite 600) "600.0")) "B1" 7200 7200 := by
  obtain ⟨_, haccepted⟩ : ∃ accepted, validateGroupTestConfig
      (groupB1WithTimeout (.number (.finite 600) "600.0")) "B1" = .ok accepted :=
    exists_accepted_of_toOption (by decide +kernel)
  exact (timeoutCeiling_iff haccepted 7200 7200).mpr (by decide +kernel)

/-- A timeout of `nan` is accepted, and then there is none. -/
theorem not_timeoutCeiling_nan : ¬∀ cfg group, TimeoutCeiling cfg group 7200 7200 := by
  intro h
  obtain ⟨_, haccepted⟩ : ∃ accepted,
      validateGroupTestConfig (groupB1WithTimeout (.number .nan "nan")) "B1" = .ok accepted :=
    exists_accepted_of_toOption (by decide +kernel)
  have hnan : (groupB1WithTimeout (.number .nan "nan")).number "B1" "charge_timeout_s"
      = some .nan := by
    decide +kernel
  exact (timeoutBounded_iff (.inl rfl) haccepted 7200).mp
    (h (groupB1WithTimeout (.number .nan "nan")) "B1").1 hnan

end Nipxi
