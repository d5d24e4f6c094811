import Nipxi.TestControl.SafetyMonitor
import Nipxi.Utils.Validators

/-!
# The sampling loops

The `while True` loops of `ChargeSequence.run` and `DischargeSequence.run` are one loop with two
ends: every iteration checks for a cancellation and for the timeout, measures the SMU, reads the
DMM, tolerates a number of failed readings in a row, and takes the sample as in `SafetyMonitor`. A
loop runs over a stream of iterations, and the state it carries, the sample before and the failures
so far, is a function of the stream: so the end of a run is decided at each iteration by the stream
alone (`endsWith_iff`). What a charge can end with is `ChargeLoop.samplingLaw`.
-/

namespace Nipxi

/-- The limits `check` reads of a battery. -/
def BatteryCfg.limits (battery : BatteryCfg) (maxTempC : Option ℝ) : BatteryLimits where
  voltageMaxV := some (battery.voltageMaxV : ℝ)
  voltageMinV := some (battery.voltageMinV : ℝ)
  maxChargeCurrentA := some (battery.maxChargeCurrentA : ℝ)
  maxDischargeCurrentA := some (battery.maxDischargeCurrentA : ℝ)
  maxTempC := maxTempC

/-- `set_battery_limits`. -/
def SafetyMonitor.setBatteryLimits (m : SafetyMonitor) (limits : BatteryLimits) : SafetyMonitor :=
  { m with batteryCfg := some limits }

/-! ## The loop -/

/-- What an iteration meets. -/
structure Iteration where
  /-- `check_cancellation` raises. -/
  cancelled : Bool
  /-- `time.monotonic() - t_start`. -/
  elapsed : ℝ
  /-- The voltage and the current of `smu.measure()`, unless it raises. -/
  smu : Option (ℝ × ℝ)
  /-- `dmm.measure_dc_voltage()`, unless it raises. -/
  dmm : Option ℝ
  ntc : NtcReading
  /-- `interruptible_sleep` raises. -/
  sleepCancelled : Bool

/-- An iteration with a sample, and nothing else. -/
def plainIteration (v i : ℝ) : Iteration where
  cancelled := false
  elapsed := 0
  smu := some (v, i)
  dmm := some v
  ntc := .notWired
  sleepCancelled := false

/-- How a loop ends. -/
inductive LoopEnd where
  /-- `SequenceCancelledError`. -/
  | cancelled
  /-- `NIPXITimeoutError`. -/
  | timeout
  /-- The exception of `smu.measure()`. -/
  | smuFailed
  /-- `DMMMeasurementLostError`. -/
  | dmmLost
  /-- `SafetyViolationError`. -/
  | violation (reason : Violation)
  /-- `BatteryRemovedDuringChargeError`. -/
  | removed
  /-- The `break` at the end of the phase. -/
  | complete

/-- A recorded measurement. -/
structure Measurement where
  v : ℝ
  i : ℝ
  tempC : Option ℝ

/-- A row a loop writes. -/
inductive LoopRow where
  /-- `DMM_MEASUREMENT_FAILED`. -/
  | dmmFailed (attempt : ℕ)
  /-- `DMM_MEASUREMENT_RECOVERED`. -/
  | dmmRecovered (afterFailures : ℕ)
  | measurement (row : Measurement)

/-- The local variables of a loop, with the rows it has written, newest first. -/
structure LoopState where
  /-- `prev_v`, `prev_i`. -/
  prev : Option (ℝ × ℝ)
  consecutiveDmmFailures : ℕ
  rows : List LoopRow

/-- What the two loops differ in. -/
structure SamplingLoop where
  /-- `elapsed > charge_timeout_s`. -/
  overtime : ℝ → Bool
  /-- `Settings.DMM_MEASUREMENT_MAX_CONSECUTIVE_FAILURES`. -/
  maxDmmFailures : ℕ
  /-- What becomes of a sample, by the sample before. -/
  take : Option (ℝ × ℝ) → ℝ → ℝ → NtcReading → SampleEnd

namespace LoopState

/-- A failed reading of the DMM. -/
def fail (st : LoopState) : LoopState where
  prev := st.prev
  consecutiveDmmFailures := st.consecutiveDmmFailures + 1
  rows := .dmmFailed (st.consecutiveDmmFailures + 1) :: st.rows

/-- A reading of the DMM. -/
def recover (st : LoopState) : LoopState :=
  if 0 < st.consecutiveDmmFailures then
    { st with
      consecutiveDmmFailures := 0
      rows := .dmmRecovered st.consecutiveDmmFailures :: st.rows }
  else st

/-- `_record_measurement`. -/
noncomputable def record (st : LoopState) (v i : ℝ) (ntc : NtcReading) : LoopState :=
  { st with rows := .measurement ⟨v, i, ntc.tempC⟩ :: st.rows }

/-- The recorded measurements, newest first. -/
def recorded (st : LoopState) : List Measurement :=
  st.rows.filterMap fun
    | .dmmFailed _ | .dmmRecovered _ => none
    | .measurement row => some row

end LoopState

/-- The sleep at the end of an iteration. -/
def Iteration.sleep (it : Iteration) : Option LoopEnd :=
  if it.sleepCancelled then some .cancelled else none

/-- The DMM's voltage and the SMU's current, where there are both. -/
def Iteration.reading (it : Iteration) : Option (ℝ × ℝ) :=
  it.dmm.bind fun v ↦ it.smu.map fun measured ↦ (v, measured.2)

/-- How a sample ends the loop, if it does. -/
def SampleEnd.loopEnd (it : Iteration) : SampleEnd → Option LoopEnd
  | violation reason => some (.violation reason)
  | removed => some .removed
  | complete => some .complete
  | continues => it.sleep

namespace SamplingLoop

variable (loop : SamplingLoop)

/-- A sample, with the DMM's voltage and the SMU's current. -/
noncomputable def sample (st : LoopState) (v i : ℝ) (it : Iteration) :
    LoopState × Option LoopEnd :=
  match loop.take st.prev v i it.ntc with
  | .violation reason => (st, some (.violation reason))
  | .removed => (st.record v i it.ntc, some .removed)
  | .complete => (st.record v i it.ntc, some .complete)
  | .continues => ({ st.record v i it.ntc with prev := some (v, i) }, it.sleep)

/-- One iteration: the state after it, and the end of the loop, if it ends. -/
noncomputable def iterate (st : LoopState) (it : Iteration) : LoopState × Option LoopEnd :=
  if it.cancelled then (st, some .cancelled)
  else if loop.overtime it.elapsed then (st, some .timeout)
  else
    match it.smu, it.dmm with
    | none, _ => (st, some .smuFailed)
    | some _, none =>
      if loop.maxDmmFailures ≤ st.fail.consecutiveDmmFailures then (st.fail, some .dmmLost)
      else (st.fail, it.sleep)
    | some (_, i), some v => loop.sample st.recover v i it

/-- The loop after a number of iterations. -/
noncomputable def after (s : ℕ → Iteration) : ℕ → LoopState × Option LoopEnd
  | 0 => (⟨none, 0, []⟩, none)
  | n + 1 =>
    match after s n with
    | (st, some e) => (st, some e)
    | (st, none) => loop.iterate st (s n)

/-- A run over the stream ends so. -/
def EndsWith (s : ℕ → Iteration) (e : LoopEnd) : Prop := ∃ n, (loop.after s n).2 = some e

/-- The measurements recorded so far. -/
noncomputable def recordedBy (s : ℕ → Iteration) (n : ℕ) : List Measurement :=
  (loop.after s n).1.recorded

/-! ## The end of a run -/

/-- An iteration that does not get to the DMM. -/
def StopsEarly (it : Iteration) : Prop :=
  it.cancelled = true ∨ loop.overtime it.elapsed = true ∨ it.smu = none

/-- How an iteration ends the loop, if it does. -/
noncomputable def endOf (prev : Option (ℝ × ℝ)) (failures : ℕ) (it : Iteration) : Option LoopEnd :=
  if it.cancelled then some .cancelled
  else if loop.overtime it.elapsed then some .timeout
  else
    match it.smu, it.dmm with
    | none, _ => some .smuFailed
    | some _, none => if loop.maxDmmFailures ≤ failures + 1 then some .dmmLost else it.sleep
    | some (_, i), some v => (loop.take prev v i it.ntc).loopEnd it

/-- The last sample before an iteration. -/
def lastReading (s : ℕ → Iteration) : ℕ → Option (ℝ × ℝ)
  | 0 => none
  | k + 1 => (s k).reading.or (lastReading s k)

/-- The failed readings of the DMM in a row before an iteration. -/
def failuresBefore (s : ℕ → Iteration) : ℕ → ℕ
  | 0 => 0
  | k + 1 => if (s k).dmm.isNone then failuresBefore s k + 1 else 0

/-- The reading of the DMM fails, and so did those before it, the allowed number in a row. -/
def LosesDmm (s : ℕ → Iteration) (k : ℕ) : Prop :=
  (s k).dmm = none ∧ loop.maxDmmFailures ≤ k + 1 ∧
    ∀ j < k, k < j + loop.maxDmmFailures → (s j).dmm = none

/-- How the iteration at `k` ends the loop, if it is reached and does. -/
noncomputable def endAt (s : ℕ → Iteration) (k : ℕ) : Option LoopEnd :=
  loop.endOf (lastReading s k) (failuresBefore s k) (s k)

/-- Every iteration before `k` goes on. -/
def Reaches (s : ℕ → Iteration) (k : ℕ) : Prop := ∀ j < k, loop.endAt s j = none

variable {loop}

variable (loop) in
/-- The three courses of an iteration. -/
theorem endOf_cases (prev : Option (ℝ × ℝ)) (failures : ℕ) (it : Iteration) :
    (loop.StopsEarly it ∧ ∃ e, loop.endOf prev failures it = some e ∧ e ≠ .dmmLost ∧
        e ≠ .removed ∧ e ≠ .complete) ∨
      (¬loop.StopsEarly it ∧ it.dmm = none ∧ it.reading = none ∧ loop.endOf prev failures it
        = if loop.maxDmmFailures ≤ failures + 1 then some .dmmLost else it.sleep) ∨
      ∃ v i, ¬loop.StopsEarly it ∧ it.dmm = some v ∧ it.reading = some (v, i) ∧
        loop.endOf prev failures it = (loop.take prev v i it.ntc).loopEnd it := by
  unfold endOf StopsEarly Iteration.reading
  by_cases hc : it.cancelled = true
  · refine .inl ⟨.inl hc, .cancelled, if_pos hc, ?_, ?_, ?_⟩ <;> exact LoopEnd.noConfusion
  rw [if_neg hc]
  by_cases ho : loop.overtime it.elapsed = true
  · refine .inl ⟨.inr (.inl ho), .timeout, if_pos ho, ?_, ?_, ?_⟩ <;> exact LoopEnd.noConfusion
  rw [if_neg ho]
  cases hs : it.smu with
  | none => refine .inl ⟨.inr (.inr rfl), .smuFailed, rfl, ?_, ?_, ?_⟩ <;> exact LoopEnd.noConfusion
  | some measured =>
    have hearly : ¬(it.cancelled = true ∨ loop.overtime it.elapsed = true ∨
        some measured = none) := by
      rintro (h | h | h)
      exacts [hc h, ho h, Option.some_ne_none _ h]
    cases it.dmm with
    | none => exact .inr (.inl ⟨hearly, rfl, rfl, rfl⟩)
    | some v => exact .inr (.inr ⟨v, measured.2, hearly, rfl, rfl, rfl⟩)

theorem iterate_snd (st : LoopState) (it : Iteration) :
    (loop.iterate st it).2 = loop.endOf st.prev st.consecutiveDmmFailures it := by
  have hprev : st.recover.prev = st.prev := by
    unfold LoopState.recover
    split <;> rfl
  unfold iterate endOf
  split
  · rfl
  split
  · rfl
  cases it.smu with
  | none => rfl
  | some measured =>
    cases it.dmm with
    | none => exact apply_ite Prod.snd _ _ _
    | some v =>
      dsimp only [sample]
      rw [hprev]
      cases loop.take st.prev v measured.2 it.ntc <;> rfl

/-- What an iteration that goes on carries over. -/
theorem iterate_fst {st : LoopState} {it : Iteration}
    (h : loop.endOf st.prev st.consecutiveDmmFailures it = none) :
    (loop.iterate st it).1.prev = it.reading.or st.prev ∧
      (loop.iterate st it).1.consecutiveDmmFailures =
        if it.dmm.isNone then st.consecutiveDmmFailures + 1 else 0 := by
  have hprev : st.recover.prev = st.prev := by
    unfold LoopState.recover
    split <;> rfl
  have hfailures : st.recover.consecutiveDmmFailures = 0 := by
    unfold LoopState.recover
    split
    · rfl
    · next h => exact Nat.eq_zero_of_not_pos h
  rw [← iterate_snd] at h
  unfold iterate at h ⊢
  unfold Iteration.reading
  split at h
  · cases h
  split at h
  · cases h
  next hc ho =>
  rw [if_neg hc, if_neg ho]
  cases hs : it.smu with
  | none =>
    rw [hs] at h
    cases h
  | some measured =>
    rw [hs] at h
    cases hd : it.dmm with
    | none =>
      dsimp only
      split <;> exact ⟨rfl, rfl⟩
    | some v =>
      rw [hd] at h
      dsimp only [sample] at h ⊢
      rw [hprev] at h ⊢
      cases htake : loop.take st.prev v measured.2 it.ntc with
      | violation | removed | complete =>
        rw [htake] at h
        cases h
      | continues => exact ⟨rfl, hfailures⟩

variable (loop) in
/-- By induction on the iterations: a loop that has not ended carries what the stream says, and one
that has, ended at the first iteration that ends it. -/
theorem after_cases (s : ℕ → Iteration) (n : ℕ) :
    ((loop.after s n).2 = none ∧ loop.Reaches s n ∧ (loop.after s n).1.prev = lastReading s n ∧
        (loop.after s n).1.consecutiveDmmFailures = failuresBefore s n) ∨
      ∃ k < n, ∃ e, loop.Reaches s k ∧ loop.endAt s k = some e ∧
        (loop.after s n).2 = some e := by
  induction n with
  | zero => exact .inl ⟨rfl, fun j hj ↦ absurd hj j.not_lt_zero, rfl, rfl⟩
  | succ n ih =>
    rcases hrun : loop.after s n with ⟨st, e⟩
    rw [hrun] at ih
    rcases ih with ⟨rfl, hreaches, hprev, hfailures⟩ | ⟨k, hk, e', hreaches, hend, rfl⟩
    -- Not ended yet: the next iteration decides from what the stream says of those before.
    · have hstep : loop.after s (n + 1) = loop.iterate st (s n) := by
        rw [after, hrun]
      have hsnd : (loop.iterate st (s n)).2 = loop.endAt s n := by
        rw [iterate_snd, endAt, hprev, hfailures]
      rw [hstep, hsnd]
      cases hend : loop.endAt s n with
      | none =>
        obtain ⟨hprev', hfailures'⟩ := iterate_fst ((iterate_snd st (s n)).symm.trans
          (hsnd.trans hend))
        refine .inl ⟨rfl, fun j hj ↦ ?_, ?_, ?_⟩
        · rcases Nat.lt_succ_iff_lt_or_eq.mp hj with hlt | rfl
          · exact hreaches j hlt
          · exact hend
        · rw [hprev', hprev, lastReading]
        · rw [hfailures', hfailures, failuresBefore]
      | some e => exact .inr ⟨n, n.lt_succ_self, e, hreaches, hend, rfl⟩
    · refine .inr ⟨k, Nat.lt_succ_of_lt hk, e', hreaches, hend, ?_⟩
      rw [after, hrun]

theorem Reaches.unique {s : ℕ → Iteration} {j k : ℕ} {e e' : LoopEnd} (hj : loop.Reaches s j)
    (hk : loop.Reaches s k) (hej : loop.endAt s j = some e) (hek : loop.endAt s k = some e') :
    j = k := by
  rcases lt_trichotomy j k with hlt | rfl | hlt
  · cases (hk j hlt).symm.trans hej
  · rfl
  · cases (hj k hlt).symm.trans hek

/-- **The end of a run is decided by the stream**: it is that of the first iteration that ends the
loop. -/
theorem endsWith_iff {s : ℕ → Iteration} {e : LoopEnd} :
    loop.EndsWith s e ↔ ∃ k, loop.Reaches s k ∧ loop.endAt s k = some e := by
  constructor
  · rintro ⟨n, hn⟩
    rcases after_cases loop s n with ⟨hnone, -⟩ | ⟨k, -, e', hreaches, hend, he'⟩
    · cases hnone.symm.trans hn
    · obtain rfl := Option.some.inj (he'.symm.trans hn)
      exact ⟨k, hreaches, hend⟩
  · rintro ⟨k, hreaches, hend⟩
    refine ⟨k + 1, ?_⟩
    rcases after_cases loop s (k + 1) with ⟨-, hreaches', -⟩ | ⟨k', -, e', hr, he, h⟩
    · cases (hreaches' k k.lt_succ_self).symm.trans hend
    · obtain rfl := hr.unique hreaches he hend
      exact h.trans (he.symm.trans hend)

/-! ## What the stream says of the state -/

theorem lastReading_eq_some_iff {s : ℕ → Iteration} {k : ℕ} {p : ℝ × ℝ} :
    lastReading s k = some p ↔
      ∃ j < k, (s j).reading = some p ∧ ∀ l, j < l → l < k → (s l).reading = none := by
  induction k with
  | zero =>
    refine iff_of_false (Option.some_ne_none p).symm ?_
    rintro ⟨j, hj, -⟩
    exact j.not_lt_zero hj
  | succ k ih =>
    rw [lastReading, Option.or_eq_some_iff, ih]
    constructor
    · rintro (h | ⟨h, j, hj, hp, hnone⟩)
      · exact ⟨k, k.lt_succ_self, h, fun l hl hl' ↦ absurd hl (Nat.lt_succ_iff.mp hl').not_gt⟩
      · refine ⟨j, Nat.lt_succ_of_lt hj, hp, fun l hl hl' ↦ ?_⟩
        rcases Nat.lt_succ_iff_lt_or_eq.mp hl' with hlt | rfl
        · exact hnone l hl hlt
        · exact h
    · rintro ⟨j, hj, hp, hnone⟩
      rcases Nat.lt_succ_iff_lt_or_eq.mp hj with hlt | rfl
      · exact .inr ⟨hnone k hlt k.lt_succ_self, j, hlt, hp,
          fun l hl hl' ↦ hnone l hl (Nat.lt_succ_of_lt hl')⟩
      · exact .inl hp

theorem le_failuresBefore_iff {s : ℕ → Iteration} {k n : ℕ} :
    n ≤ failuresBefore s k ↔ n ≤ k ∧ ∀ j < k, k ≤ j + n → (s j).dmm = none := by
  induction k generalizing n with
  | zero =>
    rw [failuresBefore]
    exact ⟨fun h ↦ ⟨h, fun j hj ↦ absurd hj j.not_lt_zero⟩, fun h ↦ h.1⟩
  | succ k ih =>
    rw [failuresBefore]
    cases n with
    | zero => exact iff_of_true (Nat.zero_le _) ⟨Nat.zero_le _, fun j hj hj' ↦ by omega⟩
    | succ n =>
      cases hd : (s k).dmm with
      | none =>
        rw [Option.isNone_none, if_pos rfl, Nat.add_le_add_iff_right, ih, Nat.add_le_add_iff_right]
        refine and_congr_right fun _ ↦ ⟨fun h j hj hj' ↦ ?_, fun h j hj hj' ↦ ?_⟩
        · rcases Nat.lt_succ_iff_lt_or_eq.mp hj with hlt | rfl
          · exact h j hlt (by omega)
          · exact hd
        · exact h j (by omega) (by omega)
      | some v =>
        rw [Option.isNone_some, if_neg Bool.false_ne_true]
        refine iff_of_false (by omega) fun h ↦ ?_
        exact absurd (hd.symm.trans (h.2 k k.lt_succ_self (by omega))) (Option.some_ne_none v)

theorem losesDmm_iff {s : ℕ → Iteration} {k : ℕ} :
    loop.LosesDmm s k ↔
      (s k).dmm = none ∧ loop.maxDmmFailures ≤ failuresBefore s k + 1 := by
  unfold LosesDmm
  refine and_congr_right fun hd ↦ ?_
  cases hN : loop.maxDmmFailures with
  | zero => exact iff_of_true ⟨Nat.zero_le _, fun j hj hj' ↦ by omega⟩ (Nat.zero_le _)
  | succ n =>
    rw [Nat.add_le_add_iff_right, Nat.add_le_add_iff_right, le_failuresBefore_iff]
    refine and_congr_right fun _ ↦ forall₂_congr fun j _ ↦ ?_
    rw [show k < j + (n + 1) ↔ k ≤ j + n by omega]

/-- A run ends in one way. -/
theorem EndsWith.unique {s : ℕ → Iteration} {e e' : LoopEnd} (h : loop.EndsWith s e)
    (h' : loop.EndsWith s e') : e = e' := by
  obtain ⟨k, hk, hek⟩ := endsWith_iff.mp h
  obtain ⟨k', hk', hek'⟩ := endsWith_iff.mp h'
  obtain rfl := hk.unique hk' hek hek'
  exact Option.some.inj (hek.symm.trans hek')

/-- A failed reading that does not lose the DMM ends nothing. -/
theorem endAt_of_dmm_eq_none {s : ℕ → Iteration} {k : ℕ} (hruns : ¬loop.StopsEarly (s k))
    (hdmm : (s k).dmm = none) (hkept : ¬loop.LosesDmm s k)
    (hsleeps : (s k).sleepCancelled = false) : loop.endAt s k = none := by
  unfold endAt
  rcases endOf_cases loop (lastReading s k) (failuresBefore s k) (s k) with
    ⟨hstops, -⟩ | ⟨-, -, -, hend⟩ | ⟨v, i, -, hread, -⟩
  · exact absurd hstops hruns
  · rw [hend, if_neg fun h ↦ hkept (losesDmm_iff.mpr ⟨hdmm, h⟩), Iteration.sleep,
      if_neg (ne_true_of_eq_false hsleeps)]
  · cases hdmm.symm.trans hread

theorem endAt_of_reading {s : ℕ → Iteration} {k : ℕ} {v i : ℝ} (hruns : ¬loop.StopsEarly (s k))
    (hreading : (s k).reading = some (v, i)) :
    loop.endAt s k = (loop.take (lastReading s k) v i (s k).ntc).loopEnd (s k) := by
  unfold endAt
  rcases endOf_cases loop (lastReading s k) (failuresBefore s k) (s k) with
    ⟨hstops, -⟩ | ⟨-, -, hnone, -⟩ | ⟨v', i', -, -, hreading', hend⟩
  · exact absurd hstops hruns
  · cases hreading.symm.trans hnone
  · obtain ⟨rfl, rfl⟩ := Prod.mk.inj (Option.some.inj (hreading.symm.trans hreading'))
    exact hend

/-! ## The recorded measurements -/

theorem after_add {s : ℕ → Iteration} {n : ℕ} {e : LoopEnd} (h : (loop.after s n).2 = some e)
    (m : ℕ) : loop.after s (n + m) = loop.after s n := by
  induction m with
  | zero => rfl
  | succ m ih =>
    rcases hrun : loop.after s n with ⟨st, e'⟩
    rw [hrun] at h ih
    obtain rfl : e' = some e := h
    rw [← Nat.add_assoc, after, ih]

theorem recorded_iterate (st : LoopState) (it : Iteration) :
    (loop.iterate st it).1.recorded = st.recorded ∨
      ∃ v i, ¬loop.StopsEarly it ∧ it.reading = some (v, i) ∧
        (∀ reason, loop.take st.prev v i it.ntc ≠ .violation reason) ∧
        (loop.iterate st it).1.recorded = ⟨v, i, it.ntc.tempC⟩ :: st.recorded := by
  have hprev : st.recover.prev = st.prev := by
    unfold LoopState.recover
    split <;> rfl
  have hrecover : st.recover.recorded = st.recorded := by
    unfold LoopState.recover
    split <;> rfl
  unfold iterate StopsEarly Iteration.reading
  split
  · exact .inl rfl
  split
  · exact .inl rfl
  next hc ho =>
  cases it.smu with
  | none => exact .inl rfl
  | some measured =>
    cases it.dmm with
    | none =>
      dsimp only
      split <;> exact .inl rfl
    | some v =>
      dsimp only [sample]
      rw [hprev]
      have hearly : ¬(it.cancelled = true ∨ loop.overtime it.elapsed = true ∨
          some measured = none) := by
        rintro (h | h | h)
        exacts [hc h, ho h, Option.some_ne_none _ h]
      cases htake : loop.take st.prev v measured.2 it.ntc with
      -- A violation raises before the sample is written; every other sample is.
      | violation reason => exact .inl hrecover
      | removed | complete | continues =>
        refine .inr ⟨v, measured.2, hearly, rfl, fun reason h ↦ ?_, ?_⟩
        · rw [htake] at h
          cases h
        · exact congrArg _ hrecover

variable (loop) in
theorem recordedBy_succ (s : ℕ → Iteration) (n : ℕ) :
    loop.recordedBy s (n + 1) = loop.recordedBy s n ∨
      ∃ v i, ¬loop.StopsEarly (s n) ∧ (s n).reading = some (v, i) ∧
        (∀ reason, loop.take (lastReading s n) v i (s n).ntc ≠ .violation reason) ∧
        loop.recordedBy s (n + 1) = ⟨v, i, (s n).ntc.tempC⟩ :: loop.recordedBy s n := by
  have hcases := after_cases loop s n
  unfold recordedBy
  rcases hrun : loop.after s n with ⟨st, e⟩
  rw [hrun] at hcases
  rcases hcases with ⟨rfl, -, hprev, -⟩ | ⟨k, -, e', -, -, rfl⟩
  · rw [after, hrun, ← hprev]
    exact recorded_iterate st (s n)
  · rw [after, hrun]
    exact .inl rfl

variable (loop) in
/-- An iteration that ends the loop before it records anything, whatever the sample before. -/
def Refuses (it : Iteration) : Prop :=
  loop.StopsEarly it ∨ ∃ v i, it.reading = some (v, i) ∧
    ∀ prev, ∃ reason, loop.take prev v i it.ntc = .violation reason

/-- **Nothing is recorded at or after an iteration that is refused.** -/
theorem recordedBy_of_refuses {s : ℕ → Iteration} {k n : ℕ} (h : loop.Refuses (s k))
    (hkn : k ≤ n) : loop.recordedBy s n = loop.recordedBy s k := by
  rcases hkn.eq_or_lt with rfl | hlt
  · rfl
  have hsame : loop.recordedBy s (k + 1) = loop.recordedBy s k := by
    refine (recordedBy_succ loop s k).resolve_right ?_
    rintro ⟨v, i, hearly, hreading, hsafe, -⟩
    rcases h with hstops | ⟨v', i', hreading', htake⟩
    · exact hearly hstops
    · obtain ⟨rfl, rfl⟩ := Prod.mk.inj (Option.some.inj (hreading.symm.trans hreading'))
      obtain ⟨reason, hreason⟩ := htake (lastReading s k)
      exact hsafe reason hreason
  -- A refused iteration ends the loop too, if it is reached, so nothing comes after it.
  have hends : ∃ e, (loop.after s (k + 1)).2 = some e := by
    rcases after_cases loop s (k + 1) with ⟨-, hreaches, -⟩ | ⟨_, -, e, -, -, he⟩
    · have hnone : loop.endAt s k = none := hreaches k k.lt_succ_self
      unfold endAt at hnone
      rcases endOf_cases loop (lastReading s k) (failuresBefore s k) (s k) with
        ⟨-, e, he, -⟩ | ⟨hearly, -, hreading, -⟩ | ⟨v, i, hearly, -, hreading, hend⟩
      · cases hnone.symm.trans he
      · rcases h with hstops | ⟨v', i', hreading', -⟩
        · exact absurd hstops hearly
        · cases hreading.symm.trans hreading'
      · rcases h with hstops | ⟨v', i', hreading', htake⟩
        · exact absurd hstops hearly
        · obtain ⟨rfl, rfl⟩ := Prod.mk.inj (Option.some.inj (hreading.symm.trans hreading'))
          obtain ⟨reason, hreason⟩ := htake (lastReading s k)
          rw [hreason] at hend
          cases hnone.symm.trans hend
    · exact ⟨e, he⟩
  obtain ⟨e, he⟩ := hends
  obtain ⟨m, rfl⟩ := Nat.exists_eq_add_of_le (Nat.succ_le_of_lt hlt)
  rw [← hsame]
  unfold recordedBy
  rw [after_add he m]

end SamplingLoop

end Nipxi
