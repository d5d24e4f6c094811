import Nipxi.TestControl.ChargeSampling
import Nipxi.TestControl.DischargeSampling
import Nipxi.TestControl.PresencePrecheck

/-!
# The diagnosis of a run

A charge and a discharge keep running statistics of their samples, and their summary says what the
run looks like: a battery that was charged already, a position without a battery, or nothing of
note. A sample is counted before it is checked, so a sample that violates a limit is counted and not
recorded, and any other is recorded too (`SamplingLoop.counts_statsAfter`).

What the summary says is then a statement on the rows that the loop asks for. Both diagnoses rest on
a mean current below a twentieth of the one commanded, so that less than a tenth of the samples can
have reached half of it, which is what the detector of a removed battery asks of one. Sums and means
are exact here. The last voltage is the guard's where a run raises and the guard can read one
(`DiagnosticFields.withEndVoltage`).
-/

namespace Nipxi

/-! ## The diagnoses -/

/-- `ChargeDiagnosis`. -/
inductive ChargeDiagnosis where
  | alreadyCharged
  | possiblyEmptyPosition
  | normalChargeBehavior
  deriving DecidableEq

/-- `DischargeDiagnosis`. -/
inductive DischargeDiagnosis where
  | normalDischargeBehavior
  | possiblyEmptyPosition
  deriving DecidableEq

/-- The stored text. -/
def ChargeDiagnosis.text : ChargeDiagnosis → String
  | alreadyCharged => "ALREADY_CHARGED"
  | possiblyEmptyPosition => "POSSIBLY_EMPTY_POSITION"
  | normalChargeBehavior => "NORMAL_CHARGE_BEHAVIOR"

/-- The stored text. -/
def DischargeDiagnosis.text : DischargeDiagnosis → String
  | normalDischargeBehavior => "NORMAL_DISCHARGE_BEHAVIOR"
  | possiblyEmptyPosition => "POSSIBLY_EMPTY_POSITION"

/-- `_CHARGE_MESSAGES`. -/
def ChargeDiagnosis.message : ChargeDiagnosis → String
  | alreadyCharged => "Battery appears already charged before the test started."
  | possiblyEmptyPosition => "No meaningful charging current detected. " ++
    "Position may be empty, disconnected, or improperly wired."
  | normalChargeBehavior => ""

/-- `_DISCHARGE_MESSAGES`. -/
def DischargeDiagnosis.message : DischargeDiagnosis → String
  | normalDischargeBehavior => ""
  | possiblyEmptyPosition => "No meaningful discharge current detected. " ++
    "Position may be empty, disconnected, or improperly wired."

/-- `NEAR_FULL_MARGIN_V`. -/
def NEAR_FULL_MARGIN_V : ℚ := 1 / 20

/-- `MIN_MEANINGFUL_CURRENT_FRACTION`. -/
def MIN_MEANINGFUL_CURRENT_FRACTION : ℚ := 1 / 20

/-- `SHORT_DURATION_S`. -/
def SHORT_DURATION_S : ℚ := 15

/-- `_ChargeDischargeStats`. -/
structure ChargeDischargeStats where
  initialVoltageV : Option ℝ
  finalVoltageV : Option ℝ
  maxCurrentA : ℝ
  currentSum : ℝ
  sampleCount : ℕ

/-- The statistics before the first sample, with the reading before the output is enabled. -/
noncomputable def ChargeDischargeStats.start (preEnableV : ℝ) : ChargeDischargeStats where
  initialVoltageV := some preEnableV
  finalVoltageV := none
  maxCurrentA := 0
  currentSum := 0
  sampleCount := 0

/-- `add`. -/
noncomputable def ChargeDischargeStats.add (stats : ChargeDischargeStats) (voltageV currentA : ℝ) :
    ChargeDischargeStats where
  initialVoltageV := stats.initialVoltageV.or (some voltageV)
  finalVoltageV := some voltageV
  maxCurrentA := max stats.maxCurrentA |currentA|
  currentSum := stats.currentSum + |currentA|
  sampleCount := stats.sampleCount + 1

/-- `avg_current_a`. -/
noncomputable def ChargeDischargeStats.avgCurrentA (stats : ChargeDischargeStats) : ℝ :=
  if stats.sampleCount = 0 then 0 else stats.currentSum / stats.sampleCount

/-- `small_current and short_duration`. -/
def SmallAndShort (avgCurrentA durationS commandedCurrentA : ℝ) : Prop :=
  avgCurrentA < commandedCurrentA * (MIN_MEANINGFUL_CURRENT_FRACTION : ℚ) ∧
    durationS ≤ (SHORT_DURATION_S : ℚ)

noncomputable instance (avgCurrentA durationS commandedCurrentA : ℝ) :
    Decidable (SmallAndShort avgCurrentA durationS commandedCurrentA) :=
  inferInstanceAs (Decidable (_ ∧ _))

/-- `classify_charge_behavior`. -/
noncomputable def classifyChargeBehavior (initialVoltageV : Option ℝ)
    (avgCurrentA durationS commandedCurrentA : ℝ) (battery : BatteryCfg) : ChargeDiagnosis :=
  match initialVoltageV with
  | none => .normalChargeBehavior
  | some v =>
    if SmallAndShort avgCurrentA durationS commandedCurrentA then
      if ((battery.voltageMaxV - NEAR_FULL_MARGIN_V : ℚ) : ℝ) ≤ v then .alreadyCharged
      else if v ≤ (EMPTY_POSITION_VOLTAGE_V : ℚ) then .possiblyEmptyPosition
      else .normalChargeBehavior
    else .normalChargeBehavior

/-- `classify_discharge_behavior`. -/
noncomputable def classifyDischargeBehavior (initialVoltageV finalVoltageV : Option ℝ)
    (avgCurrentA durationS commandedCurrentA : ℝ) (battery : BatteryCfg) : DischargeDiagnosis :=
  match initialVoltageV, finalVoltageV with
  | some _, some v =>
    if SmallAndShort avgCurrentA durationS commandedCurrentA ∧ v ≤ (battery.voltageMinV : ℚ) then
      .possiblyEmptyPosition
    else .normalDischargeBehavior
  | _, _ => .normalDischargeBehavior

/-- What is folded into the summary of a run. -/
structure DiagnosticFields where
  analysisResult : String
  startVoltage : Option ℝ
  endVoltage : Option ℝ
  sampleCount : ℕ

/-- `fields["end_voltage"] = final_v` of `run_guarded`, where there is a final voltage. -/
def DiagnosticFields.withEndVoltage (fields : DiagnosticFields) (finalV : Option ℝ) :
    DiagnosticFields :=
  { fields with endVoltage := finalV.or fields.endVoltage }

/-- The line about a diagnosis, where there is something to say. -/
def diagnosticLine (message : String) : Option String :=
  if message = "" then none else some ("Diagnostic: " ++ message)

section Fields

variable (stats : ChargeDischargeStats) (commandedCurrentA : ℝ) (battery : BatteryCfg)
  (durationS : ℝ)

/-- What a charge is diagnosed as. -/
noncomputable def ChargeDischargeStats.chargeDiagnosis : ChargeDiagnosis :=
  classifyChargeBehavior stats.initialVoltageV stats.avgCurrentA durationS commandedCurrentA battery

/-- What a discharge is diagnosed as. -/
noncomputable def ChargeDischargeStats.dischargeDiagnosis : DischargeDiagnosis :=
  classifyDischargeBehavior stats.initialVoltageV stats.finalVoltageV stats.avgCurrentA durationS
    commandedCurrentA battery

/-- `_charge_diagnostic_fields`, with the line it logs. -/
noncomputable def chargeDiagnosticFields : Option String × DiagnosticFields :=
  let result := stats.chargeDiagnosis commandedCurrentA battery durationS
  (diagnosticLine result.message,
    ⟨result.text, stats.initialVoltageV, stats.finalVoltageV, stats.sampleCount⟩)

/-- `_discharge_diagnostic_fields`, with the line it logs. -/
noncomputable def dischargeDiagnosticFields : Option String × DiagnosticFields :=
  let result := stats.dischargeDiagnosis commandedCurrentA battery durationS
  (diagnosticLine result.message,
    ⟨result.text, stats.initialVoltageV, stats.finalVoltageV, stats.sampleCount⟩)

end Fields

/-- `stats.add`, of the sample of an iteration that comes to it. -/
noncomputable def SamplingLoop.addSample (loop : SamplingLoop) (stats : ChargeDischargeStats)
    (it : Iteration) : ChargeDischargeStats :=
  if it.cancelled then stats
  else if loop.overtime it.elapsed then stats
  else
    match it.reading with
    | none => stats
    | some (v, i) => stats.add v i

/-- `stats` after a number of iterations. -/
noncomputable def SamplingLoop.statsAfter (loop : SamplingLoop) (preEnableV : ℝ)
    (s : ℕ → Iteration) : ℕ → ChargeDischargeStats
  | 0 => .start preEnableV
  | n + 1 =>
    match (loop.after s n).2 with
    | some _ => loop.statsAfter preEnableV s n
    | none => loop.addSample (loop.statsAfter preEnableV s n) (s n)

/-! ## The statistics of samples -/

/-- The statistics of samples, newest first. -/
noncomputable def ChargeDischargeStats.ofSamples (preEnableV : ℝ) :
    List (ℝ × ℝ) → ChargeDischargeStats
  | [] => .start preEnableV
  | p :: older => (ofSamples preEnableV older).add p.1 p.2

namespace ChargeDischargeStats

variable {preEnableV : ℝ} {samples : List (ℝ × ℝ)}

theorem initialVoltageV_ofSamples :
    (ofSamples preEnableV samples).initialVoltageV = some preEnableV := by
  induction samples with
  | nil => rfl
  | cons p older ih => exact congrArg (fun first : Option ℝ ↦ first.or (some p.1)) ih

theorem finalVoltageV_ofSamples :
    (ofSamples preEnableV samples).finalVoltageV = samples.head?.map Prod.fst := by
  cases samples with
  | nil => rfl
  | cons p older => rfl

theorem sampleCount_ofSamples : (ofSamples preEnableV samples).sampleCount = samples.length := by
  induction samples with
  | nil => rfl
  | cons p older ih => exact congrArg (· + 1) ih

/-- The samples that reach a current carry at least that much of the sum. -/
theorem countP_mul_le_currentSum {a : ℝ} :
    (samples.countP fun p ↦ a ≤ |p.2|) * a ≤ (ofSamples preEnableV samples).currentSum := by
  induction samples with
  | nil =>
    change ((0 : ℕ) : ℝ) * a ≤ 0
    rw [Nat.cast_zero, zero_mul]
  | cons p older ih =>
    change _ ≤ (ofSamples preEnableV older).currentSum + |p.2|
    rw [List.countP_cons]
    by_cases hp : a ≤ |p.2|
    · rw [if_pos (decide_eq_true hp), Nat.cast_add, Nat.cast_one, add_mul, one_mul]
      exact add_le_add ih hp
    · rw [if_neg (mt of_decide_eq_true hp), Nat.add_zero]
      exact le_add_of_le_of_nonneg ih (abs_nonneg p.2)

/-- **A small mean current** leaves less than a tenth of the samples at half the current. -/
theorem ten_mul_countP_lt {durationS currentA : ℝ}
    (h : SmallAndShort (ofSamples preEnableV samples).avgCurrentA durationS currentA)
    (hne : samples ≠ []) :
    10 * (samples.countP fun p ↦ |currentA| * CC_PHASE_CURRENT_FRACTION ≤ |p.2|)
      < samples.length := by
  have hlength : (0 : ℝ) < samples.length := Nat.cast_pos.mpr (List.length_pos_of_ne_nil hne)
  have hcount : (ofSamples preEnableV samples).sampleCount ≠ 0 := by
    rw [sampleCount_ofSamples]
    exact (List.length_pos_of_ne_nil hne).ne'
  have hsmall := h.1
  rw [avgCurrentA, if_neg hcount, sampleCount_ofSamples, div_lt_iff₀ hlength] at hsmall
  have hfraction : ((MIN_MEANINGFUL_CURRENT_FRACTION : ℚ) : ℝ) = 1 / 20 := by
    rw [MIN_MEANINGFUL_CURRENT_FRACTION]
    norm_num
  have hsum : (samples.countP fun p ↦ |currentA| * CC_PHASE_CURRENT_FRACTION ≤ |p.2|)
      * (|currentA| * CC_PHASE_CURRENT_FRACTION) ≤ (ofSamples preEnableV samples).currentSum :=
    countP_mul_le_currentSum
  set k := samples.countP fun p ↦ |currentA| * CC_PHASE_CURRENT_FRACTION ≤ |p.2|
  rw [hfraction] at hsmall
  rw [CC_PHASE_CURRENT_FRACTION] at hsum
  have habs : currentA * (1 / 20) * samples.length ≤ |currentA| * (1 / 20) * samples.length := by
    gcongr
    exact le_abs_self currentA
  have hscaled : |currentA| * (10 * k : ℕ) < |currentA| * samples.length := by
    push_cast
    linarith
  exact_mod_cast lt_of_mul_lt_mul_left hscaled (abs_nonneg currentA)

end ChargeDischargeStats

/-! ## The samples of a loop -/

namespace SamplingLoop

variable {loop : SamplingLoop} {preEnableV : ℝ}

/-- A loop has ended with a violation of a limit. -/
def InViolation : Option LoopEnd → Prop
  | some (.violation _) => True
  | _ => False

/-- The samples of rows. -/
def samplesOf (rows : List Measurement) : List (ℝ × ℝ) := rows.map fun row ↦ (row.v, row.i)

/-- What an iteration that is reached does with its sample, if it comes to one. -/
inductive Samples (loop : SamplingLoop) (st : LoopState) (stats : ChargeDischargeStats)
    (it : Iteration) : Prop
  | none (hstats : loop.addSample stats it = stats)
    (hrows : (loop.iterate st it).1.recorded = st.recorded)
    (hprev : (loop.iterate st it).1.prev = st.prev)
    (hend : ¬InViolation (loop.iterate st it).2 ∧ (loop.iterate st it).2 ≠ some .removed)
  | violates {v i : ℝ} (hstats : loop.addSample stats it = stats.add v i)
    (hrows : (loop.iterate st it).1.recorded = st.recorded)
    (hprev : (loop.iterate st it).1.prev = st.prev)
    (hend : InViolation (loop.iterate st it).2)
  | records {v i : ℝ} (hstats : loop.addSample stats it = stats.add v i)
    (hsafe : ∀ reason, loop.take st.prev v i it.ntc ≠ .violation reason)
    (hrows : (loop.iterate st it).1.recorded = ⟨v, i, it.ntc.tempC⟩ :: st.recorded)
    (hprev : (loop.iterate st it).1.prev = st.prev ∨ (loop.iterate st it).1.prev = some (v, i))
    (hend : ¬InViolation (loop.iterate st it).2)
    (hremoved : (loop.iterate st it).2 = some .removed → loop.take st.prev v i it.ntc = .removed)

theorem sleep_cases (it : Iteration) : it.sleep = none ∨ it.sleep = some .cancelled := by
  unfold Iteration.sleep
  split
  · exact .inr rfl
  · exact .inl rfl

section Iterate

variable {st : LoopState} {stats : ChargeDischargeStats} {it : Iteration}

theorem addSample_eq (hcancelled : ¬it.cancelled = true) (hover : ¬loop.overtime it.elapsed = true)
    {reading : Option (ℝ × ℝ)} (hreading : it.reading = reading) :
    loop.addSample stats it = reading.elim stats fun p ↦ stats.add p.1 p.2 := by
  rw [addSample, if_neg hcancelled, if_neg hover, hreading]
  cases reading with
  | none => rfl
  | some p => rfl

theorem iterate_of_smu_eq_none (hcancelled : ¬it.cancelled = true)
    (hover : ¬loop.overtime it.elapsed = true) (hsmu : it.smu = none) :
    loop.iterate st it = (st, some .smuFailed) := by
  rw [iterate, if_neg hcancelled, if_neg hover, hsmu]

theorem iterate_of_dmm_eq_none (hcancelled : ¬it.cancelled = true)
    (hover : ¬loop.overtime it.elapsed = true) {measured : ℝ × ℝ} (hsmu : it.smu = some measured)
    (hdmm : it.dmm = none) : loop.iterate st it = (st.fail,
      if loop.maxDmmFailures ≤ st.fail.consecutiveDmmFailures then some .dmmLost
      else it.sleep) := by
  rw [iterate, if_neg hcancelled, if_neg hover, hsmu, hdmm]
  dsimp only
  split
  · rfl
  · rfl

theorem iterate_of_sample (hcancelled : ¬it.cancelled = true)
    (hover : ¬loop.overtime it.elapsed = true) {measured : ℝ × ℝ} {v : ℝ}
    (hsmu : it.smu = some measured) (hdmm : it.dmm = some v) :
    loop.iterate st it = loop.sample st.recover v measured.2 it := by
  rw [iterate, if_neg hcancelled, if_neg hover, hsmu, hdmm]

end Iterate

theorem prev_recover (st : LoopState) : st.recover.prev = st.prev := by
  unfold LoopState.recover
  split <;> rfl

theorem recorded_recover (st : LoopState) : st.recover.recorded = st.recorded := by
  unfold LoopState.recover
  split <;> rfl

/-- A wait ends no loop in a violation, and takes no battery for removed. -/
theorem not_inViolation_sleep (it : Iteration) :
    ¬InViolation it.sleep ∧ it.sleep ≠ some .removed := by
  rcases sleep_cases it with h | h
  · rw [h]
    exact ⟨id, fun h ↦ by cases h⟩
  · rw [h]
    exact ⟨id, fun h ↦ by cases h⟩

theorem samples_of_ended {st : LoopState} {stats : ChargeDischargeStats} {it : Iteration}
    {e : LoopEnd} (hstats : loop.addSample stats it = stats)
    (hit : loop.iterate st it = (st, some e)) (he : ¬InViolation (some e) ∧ e ≠ .removed) :
    loop.Samples st stats it := by
  refine .none hstats ?_ ?_ ?_
  all_goals rw [hit]
  exact ⟨he.1, fun h ↦ he.2 (Option.some.inj h)⟩

theorem samples_of_reading {st : LoopState} {stats : ChargeDischargeStats} {it : Iteration}
    {v i : ℝ} (hstats : loop.addSample stats it = stats.add v i)
    (hit : loop.iterate st it = loop.sample st.recover v i it) : loop.Samples st stats it := by
  rw [sample, prev_recover] at hit
  cases htake : loop.take st.prev v i it.ntc with
  | violation reason =>
    -- counted, and not recorded
    rw [htake] at hit
    refine .violates hstats ?_ ?_ ?_
    all_goals rw [hit]
    · exact recorded_recover st
    · exact prev_recover st
    · trivial
  | removed =>
    rw [htake] at hit
    refine .records hstats (fun reason h ↦ ?_) ?_ (.inl ?_) ?_ fun _ ↦ htake
    · cases htake.symm.trans h
    all_goals rw [hit]
    · exact congrArg _ (recorded_recover st)
    · exact prev_recover st
    · exact id
  | complete =>
    rw [htake] at hit
    refine .records hstats (fun reason h ↦ ?_) ?_ (.inl ?_) ?_ fun h ↦ ?_
    · cases htake.symm.trans h
    · rw [hit]
      exact congrArg _ (recorded_recover st)
    · rw [hit]
      exact prev_recover st
    · rw [hit]
      exact id
    · rw [hit] at h
      cases h
  | continues =>
    rw [htake] at hit
    refine .records hstats (fun reason h ↦ ?_) ?_ (.inr ?_) ?_ fun h ↦ ?_
    · cases htake.symm.trans h
    · rw [hit]
      exact congrArg _ (recorded_recover st)
    · rw [hit]
    · rw [hit]
      exact (not_inViolation_sleep it).1
    · rw [hit] at h
      exact absurd h (not_inViolation_sleep it).2

theorem samples_iterate (st : LoopState) (stats : ChargeDischargeStats) (it : Iteration) :
    loop.Samples st stats it := by
  by_cases hcancelled : it.cancelled = true
  · exact samples_of_ended (if_pos hcancelled) (if_pos hcancelled) ⟨id, LoopEnd.noConfusion⟩
  by_cases hover : loop.overtime it.elapsed = true
  · exact samples_of_ended ((if_neg hcancelled).trans (if_pos hover))
      ((if_neg hcancelled).trans (if_pos hover)) ⟨id, LoopEnd.noConfusion⟩
  cases hsmu : it.smu with
  | none =>
    have hreading : it.reading = none := by
      rw [Iteration.reading, hsmu]
      cases it.dmm <;> rfl
    exact samples_of_ended (addSample_eq hcancelled hover hreading)
      (iterate_of_smu_eq_none hcancelled hover hsmu) ⟨id, LoopEnd.noConfusion⟩
  | some measured =>
    cases hdmm : it.dmm with
    | none =>
      have hreading : it.reading = none := by rw [Iteration.reading, hdmm]; rfl
      have hit : loop.iterate st it = _ := iterate_of_dmm_eq_none hcancelled hover hsmu hdmm
      refine .none (addSample_eq hcancelled hover hreading) ?_ ?_ ?_
      all_goals rw [hit]
      · rfl
      · rfl
      · dsimp only
        split
        · exact ⟨id, fun h ↦ by cases h⟩
        · exact not_inViolation_sleep it
    | some v =>
      have hreading : it.reading = some (v, measured.2) := by
        rw [Iteration.reading, hdmm, hsmu]
        rfl
      have hit : loop.iterate st it = loop.sample st.recover v measured.2 it :=
        iterate_of_sample hcancelled hover hsmu hdmm
      exact samples_of_reading (addSample_eq hcancelled hover hreading) hit

/-- What the statistics of a run count: the recorded samples, and one that violates a limit. -/
def Counts (stats : ChargeDischargeStats) (preEnableV : ℝ) (rows : List Measurement)
    (ended : Option LoopEnd) : Prop :=
  (¬InViolation ended ∧ stats = .ofSamples preEnableV (samplesOf rows)) ∨
    InViolation ended ∧ ∃ p, stats = .ofSamples preEnableV (p :: samplesOf rows)

/-- **What is counted.** By induction on the iterations. -/
theorem counts_statsAfter (loop : SamplingLoop) (preEnableV : ℝ) (s : ℕ → Iteration) (n : ℕ) :
    Counts (loop.statsAfter preEnableV s n) preEnableV (loop.recordedBy s n)
      (loop.after s n).2 := by
  induction n with
  | zero => exact .inl ⟨id, rfl⟩
  | succ n ih =>
    unfold recordedBy at ih ⊢
    rcases hrun : loop.after s n with ⟨st, ended⟩
    rw [hrun] at ih
    cases ended with
    | some e =>
      have hafter : loop.after s (n + 1) = (st, some e) := by rw [after, hrun]
      have hstats : loop.statsAfter preEnableV s (n + 1) = loop.statsAfter preEnableV s n := by
        rw [statsAfter, hrun]
      rw [hafter, hstats]
      exact ih
    | none =>
      have hafter : loop.after s (n + 1) = loop.iterate st (s n) := by rw [after, hrun]
      have hstats : loop.statsAfter preEnableV s (n + 1)
          = loop.addSample (loop.statsAfter preEnableV s n) (s n) := by
        rw [statsAfter, hrun]
      have hsofar : loop.statsAfter preEnableV s n
          = .ofSamples preEnableV (samplesOf st.recorded) :=
        (ih.resolve_right fun h ↦ h.1).2
      rw [hafter, hstats]
      cases samples_iterate st (loop.statsAfter preEnableV s n) (s n) with
      | none hadd hrows hprev hend =>
        rw [hadd, hrows]
        exact .inl ⟨hend.1, hsofar⟩
      | @violates v i hadd hrows hprev hend =>
        rw [hadd, hrows, hsofar]
        exact .inr ⟨hend, (v, i), rfl⟩
      | records hadd hsafe hrows hprev hend hremoved =>
        rw [hadd, hrows, hsofar]
        exact .inl ⟨hend, rfl⟩

theorem mem_samplesOf_of_prev (s : ℕ → Iteration) (n : ℕ) {p : ℝ × ℝ}
    (h : (loop.after s n).1.prev = some p) : p ∈ samplesOf (loop.recordedBy s n) := by
  induction n with
  | zero => cases h
  | succ n ih =>
    unfold recordedBy at ih ⊢
    rcases hrun : loop.after s n with ⟨st, ended⟩
    rw [hrun] at ih
    cases ended with
    | some e =>
      have hafter : loop.after s (n + 1) = (st, some e) := by rw [after, hrun]
      rw [hafter] at h ⊢
      exact ih h
    | none =>
      have hafter : loop.after s (n + 1) = loop.iterate st (s n) := by rw [after, hrun]
      rw [hafter] at h ⊢
      cases samples_iterate st (.start 0) (s n) with
      | none hadd hrows hprev hend =>
        rw [hrows]
        exact ih (hprev.symm.trans h)
      | violates hadd hrows hprev hend =>
        rw [hrows]
        exact ih (hprev.symm.trans h)
      | records hadd hsafe hrows hprev hend hremoved =>
        rw [hrows]
        rcases hprev with hprev | hprev
        · exact List.mem_cons_of_mem _ (ih (hprev.symm.trans h))
        · obtain rfl := Option.some.inj (hprev.symm.trans h)
          exact List.mem_cons_self

/-- The columns of a summary agree with the rows of the run, and with the voltage that the guard
read at its end, if it read one. -/
structure ColumnsAgree (fields : DiagnosticFields) (preEnableV : ℝ) (rows : List Measurement)
    (ended : Option LoopEnd) (finalV : Option ℝ) : Prop where
  start : fields.startVoltage = some preEnableV
  recorded : ¬InViolation ended →
    fields.sampleCount = rows.length ∧ fields.endVoltage = finalV.or (rows.head?.map Measurement.v)
  violated : InViolation ended →
    fields.sampleCount = rows.length + 1 ∧ ∃ v, fields.endVoltage = finalV.or (some v)

section Columns

variable {stats : ChargeDischargeStats} {rows : List Measurement} {ended : Option LoopEnd}

theorem Counts.columnsAgree (h : Counts stats preEnableV rows ended) (result : String)
    (finalV : Option ℝ) :
    ColumnsAgree (DiagnosticFields.withEndVoltage
      ⟨result, stats.initialVoltageV, stats.finalVoltageV, stats.sampleCount⟩ finalV)
      preEnableV rows ended finalV := by
  rcases h with ⟨hend, rfl⟩ | ⟨hend, p, rfl⟩
  · refine ⟨ChargeDischargeStats.initialVoltageV_ofSamples, fun _ ↦ ⟨?_, congrArg finalV.or ?_⟩,
      fun h ↦ absurd h hend⟩
    · change (ChargeDischargeStats.ofSamples preEnableV (samplesOf rows)).sampleCount = _
      rw [ChargeDischargeStats.sampleCount_ofSamples, samplesOf, List.length_map]
    · rw [ChargeDischargeStats.finalVoltageV_ofSamples, samplesOf, List.head?_map, Option.map_map]
      rfl
  · refine ⟨ChargeDischargeStats.initialVoltageV_ofSamples, fun h ↦ absurd hend h,
      fun _ ↦ ⟨?_, p.1, rfl⟩⟩
    change (ChargeDischargeStats.ofSamples preEnableV (p :: samplesOf rows)).sampleCount = _
    rw [ChargeDischargeStats.sampleCount_ofSamples, List.length_cons, samplesOf, List.length_map]

theorem Counts.sampleCount_ne_zero (h : Counts stats preEnableV rows ended) {v : ℝ}
    (hfinal : stats.finalVoltageV = some v) : stats.sampleCount ≠ 0 := by
  rcases h with ⟨-, rfl⟩ | ⟨-, p, rfl⟩
  · rw [ChargeDischargeStats.sampleCount_ofSamples]
    intro hzero
    rw [List.length_eq_zero_iff.mp hzero] at hfinal
    cases hfinal
  · rw [ChargeDischargeStats.sampleCount_ofSamples]
    exact List.length_pos_of_ne_nil (List.cons_ne_nil p _) |>.ne'

/-- Of the rows, too, less than a tenth is at half the current. -/
theorem Counts.ten_mul_countP_lt (h : Counts stats preEnableV rows ended)
    {durationS currentA : ℝ} (hsmall : SmallAndShort stats.avgCurrentA durationS currentA) :
    stats.sampleCount = 0 ∨
      10 * (rows.countP fun row ↦ |currentA| * CC_PHASE_CURRENT_FRACTION ≤ |row.i|)
        < stats.sampleCount := by
  have hrows : (samplesOf rows).countP (fun p ↦ |currentA| * CC_PHASE_CURRENT_FRACTION ≤ |p.2|)
      = rows.countP fun row ↦ |currentA| * CC_PHASE_CURRENT_FRACTION ≤ |row.i| := by
    rw [samplesOf, List.countP_map]
    rfl
  rcases h with ⟨-, rfl⟩ | ⟨-, p, rfl⟩
  · rw [ChargeDischargeStats.sampleCount_ofSamples]
    by_cases hnil : samplesOf rows = []
    · exact .inl (congrArg List.length hnil)
    · rw [← hrows]
      exact .inr (ChargeDischargeStats.ten_mul_countP_lt hsmall hnil)
  · right
    rw [ChargeDischargeStats.sampleCount_ofSamples, ← hrows]
    have hle := (List.sublist_cons_self p (samplesOf rows)).countP_le
      (p := fun p ↦ |currentA| * CC_PHASE_CURRENT_FRACTION ≤ |p.2|)
    have hlt := ChargeDischargeStats.ten_mul_countP_lt hsmall (List.cons_ne_nil p _)
    omega

end Columns

end SamplingLoop

/-! ## The laws -/

theorem ChargeDischargeStats.smallAndShort_of_charge {stats : ChargeDischargeStats}
    {currentA durationS : ℝ} {battery : BatteryCfg}
    (h : stats.chargeDiagnosis currentA battery durationS ≠ .normalChargeBehavior) :
    SmallAndShort stats.avgCurrentA durationS currentA := by
  unfold chargeDiagnosis classifyChargeBehavior at h
  split at h
  · exact absurd rfl h
  · split at h
    · assumption
    · exact absurd rfl h

/-- A position is taken for empty where the voltage collapsed, too. -/
theorem ChargeDischargeStats.collapsed_of_discharge {stats : ChargeDischargeStats}
    {currentA durationS : ℝ} {battery : BatteryCfg}
    (h : stats.dischargeDiagnosis currentA battery durationS ≠ .normalDischargeBehavior) :
    SmallAndShort stats.avgCurrentA durationS currentA ∧
      ∃ v, stats.finalVoltageV = some v ∧ v ≤ battery.voltageMinV := by
  unfold dischargeDiagnosis classifyDischargeBehavior at h
  split at h
  · next v _ hfinal =>
    split at h
    · next hcollapsed => exact ⟨hcollapsed.1, v, hfinal, hcollapsed.2⟩
    · exact absurd rfl h
  · exact absurd rfl h

namespace ChargeLoop

variable (c : ChargeLoop) (battery : BatteryCfg)

/-- The columns about its diagnosis, in the summary of a charge whose end the guard read so. -/
noncomputable def diagnosticFields (preEnableV durationS : ℝ) (s : ℕ → Iteration) (n : ℕ)
    (finalV : Option ℝ) : DiagnosticFields :=
  (chargeDiagnosticFields (c.loop.statsAfter preEnableV s n) c.currentA battery
    durationS).2.withEndVoltage finalV

/-- The law of the diagnosis of a charge. -/
structure DiagnosisLaw (preEnableV durationS : ℝ) (s : ℕ → Iteration) (n : ℕ)
    (finalV : Option ℝ) : Prop where
  columns : SamplingLoop.ColumnsAgree (c.diagnosticFields battery preEnableV durationS s n finalV)
    preEnableV (c.loop.recordedBy s n) (c.loop.after s n).2 finalV
  /-- Less than a tenth of the samples were in the CC phase. -/
  current : (c.diagnosticFields battery preEnableV durationS s n finalV).analysisResult
      ≠ ChargeDiagnosis.normalChargeBehavior.text →
    (c.diagnosticFields battery preEnableV durationS s n finalV).sampleCount = 0 ∨
      10 * ((c.loop.recordedBy s n).countP
        fun row ↦ |c.currentA| * CC_PHASE_CURRENT_FRACTION ≤ |row.i|)
          < (c.diagnosticFields battery preEnableV durationS s n finalV).sampleCount
  /-- A battery that was removed within ten samples leaves no diagnosis. -/
  removed : (c.loop.after s n).2 = some .removed →
    (c.diagnosticFields battery preEnableV durationS s n finalV).sampleCount ≤ 10 →
      (c.diagnosticFields battery preEnableV durationS s n finalV).analysisResult
        = ChargeDiagnosis.normalChargeBehavior.text

variable {c}

theorem prev_of_take_eq_removed {prev : Option (ℝ × ℝ)} {v i : ℝ} {ntc : NtcReading}
    (h : c.loop.take prev v i ntc = .removed) :
    ∃ p, prev = some p ∧ |c.currentA| * CC_PHASE_CURRENT_FRACTION ≤ |p.2| := by
  change takeSample c.monitor _ v i ntc = .removed at h
  unfold takeSample at h
  split at h
  · cases h
  · change (if c.voltageLimitV ≤ v ∧ |i| ≤ c.cutoffA then
      if chargeTransitionSuggestsBatteryRemoved prev v i c.currentA c.voltageLimitV c.cutoffA
        then SampleEnd.removed else .complete
      else .continues) = .removed at h
    by_cases hend : c.voltageLimitV ≤ v ∧ |i| ≤ c.cutoffA
    · rw [if_pos hend] at h
      refine (removed_iff hend).mp ?_
      by_contra hnot
      rw [if_neg hnot] at h
      cases h
    · rw [if_neg hend] at h
      cases h

/-- The sample before the one that shows that the battery was removed. -/
theorem mem_of_removed {s : ℕ → Iteration} {n : ℕ} (h : (c.loop.after s n).2 = some .removed) :
    ∃ row ∈ c.loop.recordedBy s n, |c.currentA| * CC_PHASE_CURRENT_FRACTION ≤ |row.i| := by
  induction n with
  | zero => cases h
  | succ n ih =>
    have hbefore {p : ℝ × ℝ} (hp : (c.loop.after s n).1.prev = some p) :
        p ∈ SamplingLoop.samplesOf (c.loop.recordedBy s n) :=
      SamplingLoop.mem_samplesOf_of_prev s n hp
    unfold SamplingLoop.recordedBy at ih hbefore ⊢
    rcases hrun : c.loop.after s n with ⟨st, ended⟩
    rw [hrun] at ih hbefore
    cases ended with
    | some e =>
      have hafter : c.loop.after s (n + 1) = (st, some e) := by rw [SamplingLoop.after, hrun]
      rw [hafter] at h ⊢
      exact ih h
    | none =>
      have hafter : c.loop.after s (n + 1) = c.loop.iterate st (s n) := by
        rw [SamplingLoop.after, hrun]
      rw [hafter] at h ⊢
      have hsamples : c.loop.Samples st (.start 0) (s n) := SamplingLoop.samples_iterate st _ _
      cases hsamples with
      | none hadd hrows hprev hend => exact absurd h hend.2
      | violates hadd hrows hprev hend =>
        rw [h] at hend
        exact hend.elim
      | records hadd hsafe hrows hprev hend hremoved =>
        obtain ⟨p, hp, hcc⟩ := prev_of_take_eq_removed (hremoved h)
        obtain ⟨row, hmem, rfl⟩ := List.mem_map.mp (hbefore hp)
        rw [hrows]
        exact ⟨row, List.mem_cons_of_mem _ hmem, hcc⟩

end ChargeLoop

namespace DischargeLoop

variable (c : DischargeLoop) (battery : BatteryCfg)

/-- The columns about its diagnosis, in the summary of a discharge whose end the guard read so. -/
noncomputable def diagnosticFields (preEnableV durationS currentA : ℝ) (s : ℕ → Iteration)
    (n : ℕ) (finalV : Option ℝ) : DiagnosticFields :=
  (dischargeDiagnosticFields (c.loop.statsAfter preEnableV s n) currentA battery
    durationS).2.withEndVoltage finalV

/-- The law of the diagnosis of a discharge. -/
structure DiagnosisLaw (preEnableV durationS currentA : ℝ) (s : ℕ → Iteration) (n : ℕ)
    (finalV : Option ℝ) : Prop where
  columns : SamplingLoop.ColumnsAgree
    (c.diagnosticFields battery preEnableV durationS currentA s n finalV) preEnableV
    (c.loop.recordedBy s n) (c.loop.after s n).2 finalV
  /-- Less than a tenth of the samples were at half the current. -/
  current : (c.diagnosticFields battery preEnableV durationS currentA s n finalV).analysisResult
      ≠ DischargeDiagnosis.normalDischargeBehavior.text →
    10 * ((c.loop.recordedBy s n).countP
      fun row ↦ |currentA| * CC_PHASE_CURRENT_FRACTION ≤ |row.i|)
        < (c.diagnosticFields battery preEnableV durationS currentA s n finalV).sampleCount
  /-- A position is taken for empty after a violation, or with the last row at the floor. -/
  floor : (c.diagnosticFields battery preEnableV durationS currentA s n finalV).analysisResult
      ≠ DischargeDiagnosis.normalDischargeBehavior.text →
    SamplingLoop.InViolation (c.loop.after s n).2 ∨
      ∃ row, (c.loop.recordedBy s n).head? = some row ∧ row.v = battery.voltageMinV

variable {c}

/-- A recorded sample is not below the floor. -/
theorem voltageMin_le_of_recorded {s : ℕ → Iteration} {n : ℕ} {row : Measurement}
    (h : row ∈ c.loop.recordedBy s n) : c.monitor.voltageMin ≤ row.v := by
  induction n with
  | zero => cases h
  | succ n ih =>
    rcases SamplingLoop.recordedBy_succ c.loop s n with hsame | ⟨v, i, -, -, hsafe, hrows⟩
    · exact ih (hsame ▸ h)
    · rw [hrows] at h
      rcases List.mem_cons.mp h with rfl | hmem
      · by_contra hbelow
        have hcheck : (c.monitor.check v i (s n).ntc.tempC (some .discharge)).isSome = true := by
          unfold SafetyMonitor.check
          split
          · rfl
          · rw [if_pos (not_le.mp hbelow)]
            rfl
        obtain ⟨reason, hreason⟩ := take_of_unsafe (SamplingLoop.lastReading s n) hcheck
        exact hsafe reason hreason
      · exact ih hmem

end DischargeLoop

end Nipxi
