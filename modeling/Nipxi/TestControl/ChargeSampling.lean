import Nipxi.TestControl.SamplingLoop

/-!
# What a charge ends with

The sampling loop of `ChargeSequence.run`. Five exits compete at every iteration, and the order of
the checks decides: `ChargeLoop.course` lists the courses an iteration can take, with what holds in
each, and the law of the whole loop is read off it.
-/

namespace Nipxi

/-- What the sampling loop of a charge is given. -/
structure ChargeLoop where
  monitor : SafetyMonitor
  currentA : ℝ
  voltageLimitV : ℝ
  /-- `Settings.CHARGE_CUTOFF_A`. -/
  cutoffA : ℝ
  /-- `elapsed > charge_timeout_s`. -/
  overtime : ℝ → Bool
  /-- `Settings.DMM_MEASUREMENT_MAX_CONSECUTIVE_FAILURES`. -/
  maxDmmFailures : ℕ

namespace ChargeLoop

variable (c : ChargeLoop)

/-- The loop of `ChargeSequence.run`. -/
noncomputable def loop : SamplingLoop where
  overtime := c.overtime
  maxDmmFailures := c.maxDmmFailures
  take prev v i ntc :=
    takeSample c.monitor (.charge c.currentA c.voltageLimitV c.cutoffA prev) v i ntc

/-! ## Iterations -/

/-- The sample does not pass the safety check. -/
def Unsafe (it : Iteration) : Prop :=
  ∃ v i, it.reading = some (v, i) ∧
    (c.monitor.check v i it.ntc.tempC (some .charge)).isSome = true

/-- `v >= voltage_limit_v and abs(i) <= self.s.CHARGE_CUTOFF_A`. -/
def AtEnd (it : Iteration) : Prop :=
  ∃ v i, it.reading = some (v, i) ∧ c.voltageLimitV ≤ v ∧ |i| ≤ c.cutoffA

/-- The last sample before, the failed readings skipped, was in the CC phase. -/
def FromCc (s : ℕ → Iteration) (k : ℕ) : Prop :=
  ∃ j < k, ∃ v i, (s j).reading = some (v, i) ∧
    (∀ l, j < l → l < k → (s l).reading = none) ∧
      |c.currentA| * CC_PHASE_CURRENT_FRACTION ≤ |i|

/-- No exit is taken. -/
structure GoesOn (s : ℕ → Iteration) (k : ℕ) : Prop where
  runs : ¬c.loop.StopsEarly (s k)
  dmm : ¬c.loop.LosesDmm s k
  safe : ¬c.Unsafe (s k)
  charges : ¬c.AtEnd (s k)
  sleeps : (s k).sleepCancelled = false

/-- The first sample at the end of charge comes before any other exit. -/
structure EndsAt (s : ℕ → Iteration) (k : ℕ) : Prop where
  before : ∀ j < k, c.GoesOn s j
  runs : ¬c.loop.StopsEarly (s k)
  safe : ¬c.Unsafe (s k)
  ends : c.AtEnd (s k)

/-- The courses of an iteration, with the end of the loop. -/
inductive Course (s : ℕ → Iteration) (k : ℕ) : Option LoopEnd → Prop
  | early {e : LoopEnd} (stops : c.loop.StopsEarly (s k)) (hdmm : e ≠ .dmmLost)
    (hremoved : e ≠ .removed) (hcomplete : e ≠ .complete) : Course s k (some e)
  | lost (runs : ¬c.loop.StopsEarly (s k)) (loses : c.loop.LosesDmm s k) :
    Course s k (some .dmmLost)
  | violation {reason : Violation} (hfail : c.Unsafe (s k)) :
    Course s k (some (.violation reason))
  | removed (runs : ¬c.loop.StopsEarly (s k)) (safe : ¬c.Unsafe (s k)) (ends : c.AtEnd (s k))
    (fromCc : c.FromCc s k) : Course s k (some .removed)
  | complete (runs : ¬c.loop.StopsEarly (s k)) (safe : ¬c.Unsafe (s k)) (ends : c.AtEnd (s k))
    (notFromCc : ¬c.FromCc s k) : Course s k (some .complete)
  | woken (dmm : ¬c.loop.LosesDmm s k) (charges : ¬c.AtEnd (s k))
    (sleeps : (s k).sleepCancelled = true) : Course s k (some .cancelled)
  | goesOn (h : c.GoesOn s k) : Course s k none

variable {c}

theorem fromCc_iff {s : ℕ → Iteration} {k : ℕ} :
    c.FromCc s k ↔ ∃ p, SamplingLoop.lastReading s k = some p ∧
      |c.currentA| * CC_PHASE_CURRENT_FRACTION ≤ |p.2| := by
  constructor
  · rintro ⟨j, hj, v, i, hreading, hnone, hi⟩
    exact ⟨(v, i), SamplingLoop.lastReading_eq_some_iff.mpr ⟨j, hj, hreading, hnone⟩, hi⟩
  · rintro ⟨⟨v, i⟩, hlast, hi⟩
    obtain ⟨j, hj, hreading, hnone⟩ := SamplingLoop.lastReading_eq_some_iff.mp hlast
    exact ⟨j, hj, v, i, hreading, hnone, hi⟩

theorem unsafe_iff {it : Iteration} {v i : ℝ} (h : it.reading = some (v, i)) :
    c.Unsafe it ↔ (c.monitor.check v i it.ntc.tempC (some .charge)).isSome = true := by
  refine ⟨?_, fun hcheck ↦ ⟨v, i, h, hcheck⟩⟩
  rintro ⟨v', i', h', hcheck⟩
  obtain ⟨rfl, rfl⟩ := Prod.mk.inj (Option.some.inj (h.symm.trans h'))
  exact hcheck

theorem atEnd_iff {it : Iteration} {v i : ℝ} (h : it.reading = some (v, i)) :
    c.AtEnd it ↔ c.voltageLimitV ≤ v ∧ |i| ≤ c.cutoffA := by
  refine ⟨?_, fun hend ↦ ⟨v, i, h, hend⟩⟩
  rintro ⟨v', i', h', hend⟩
  obtain ⟨rfl, rfl⟩ := Prod.mk.inj (Option.some.inj (h.symm.trans h'))
  exact hend

theorem not_of_reading_eq_none {it : Iteration} (h : it.reading = none) :
    ¬c.Unsafe it ∧ ¬c.AtEnd it := by
  constructor <;>
    · rintro ⟨v, i, h', -⟩
      cases h.symm.trans h'

/-- The detector compares the sample before with the commanded current. -/
theorem removed_iff {prev : Option (ℝ × ℝ)} {v i : ℝ}
    (hend : c.voltageLimitV ≤ v ∧ |i| ≤ c.cutoffA) :
    chargeTransitionSuggestsBatteryRemoved prev v i c.currentA c.voltageLimitV c.cutoffA = true ↔
      ∃ p, prev = some p ∧ |c.currentA| * CC_PHASE_CURRENT_FRACTION ≤ |p.2| := by
  unfold chargeTransitionSuggestsBatteryRemoved
  cases prev with
  | none =>
    refine iff_of_false Bool.false_ne_true ?_
    rintro ⟨p, hp, -⟩
    cases hp
  | some p =>
    dsimp only
    rw [if_pos hend, decide_eq_true_iff]
    refine ⟨fun h ↦ ⟨p, rfl, h⟩, ?_⟩
    rintro ⟨p', hp, h⟩
    obtain rfl := Option.some.inj hp
    exact h

/-- What becomes of a sample: the safety check comes first, then the end of charge, and then the
detector. -/
theorem course_of_reading {s : ℕ → Iteration} {k : ℕ} {v i : ℝ}
    (hruns : ¬c.loop.StopsEarly (s k)) (hdmm : (s k).dmm = some v)
    (hreading : (s k).reading = some (v, i)) :
    c.Course s k
      ((c.loop.take (SamplingLoop.lastReading s k) v i (s k).ntc).loopEnd (s k)) := by
  have hloses : ¬c.loop.LosesDmm s k := by
    rintro ⟨hnone, -⟩
    cases hnone.symm.trans hdmm
  change c.Course s k ((takeSample c.monitor _ v i (s k).ntc).loopEnd (s k))
  unfold takeSample
  cases hcheck : c.monitor.check v i (s k).ntc.tempC (some .charge) with
  | some reason =>
    have hfail : c.Unsafe (s k) := (unsafe_iff hreading).mpr (by rw [hcheck]; rfl)
    rw [show c.monitor.check v i (s k).ntc.tempC (some (SampledPhase.charge c.currentA
      c.voltageLimitV c.cutoffA (SamplingLoop.lastReading s k)).mode) = some reason from hcheck]
    exact .violation hfail
  | none =>
    have hsafe : ¬c.Unsafe (s k) := fun h ↦ by
      have hsome := (unsafe_iff hreading).mp h
      rw [hcheck] at hsome
      cases hsome
    rw [show c.monitor.check v i (s k).ntc.tempC (some (SampledPhase.charge c.currentA
      c.voltageLimitV c.cutoffA (SamplingLoop.lastReading s k)).mode) = none from hcheck]
    dsimp only [SampledPhase.endOfPhase]
    -- Only at the end of charge does the detector look at the sample before.
    split
    · next hend =>
      have hends : c.AtEnd (s k) := (atEnd_iff hreading).mpr hend
      split
      · next hremoved =>
        exact .removed hruns hsafe hends (fromCc_iff.mpr ((removed_iff hend).mp hremoved))
      · next hremoved =>
        exact .complete hruns hsafe hends fun h ↦
          hremoved ((removed_iff hend).mpr (fromCc_iff.mp h))
    · next hend =>
      have hcharges : ¬c.AtEnd (s k) := fun h ↦ hend ((atEnd_iff hreading).mp h)
      cases hsleep : (s k).sleepCancelled with
      | true =>
        rw [show SampleEnd.continues.loopEnd (s k) = some .cancelled from if_pos hsleep]
        exact .woken hloses hcharges hsleep
      | false =>
        rw [show SampleEnd.continues.loopEnd (s k) = none from
          if_neg (ne_true_of_eq_false hsleep)]
        exact .goesOn ⟨hruns, hloses, hsafe, hcharges, hsleep⟩

/-- **The course of an iteration.** -/
theorem course (s : ℕ → Iteration) (k : ℕ) : c.Course s k (c.loop.endAt s k) := by
  unfold SamplingLoop.endAt
  rcases SamplingLoop.endOf_cases c.loop (SamplingLoop.lastReading s k)
      (SamplingLoop.failuresBefore s k) (s k) with
    ⟨hstops, e, he, hdmm, hremoved, hcomplete⟩ | ⟨hruns, hdmm, hreading, hend⟩ |
    ⟨v, i, hruns, hdmm, hreading, hend⟩
  · rw [he]
    exact .early hstops hdmm hremoved hcomplete
  · obtain ⟨hsafe, hcharges⟩ := not_of_reading_eq_none (c := c) hreading
    rw [hend]
    split
    · next hlost => exact .lost hruns (SamplingLoop.losesDmm_iff.mpr ⟨hdmm, hlost⟩)
    · next hlost =>
      have hloses : ¬c.loop.LosesDmm s k := fun h ↦ hlost (SamplingLoop.losesDmm_iff.mp h).2
      unfold Iteration.sleep
      split
      · next hsleep => exact .woken hloses hcharges hsleep
      · next hsleep =>
        exact .goesOn ⟨hruns, hloses, hsafe, hcharges, eq_false_of_ne_true hsleep⟩
  · rw [hend]
    exact course_of_reading hruns hdmm hreading

/-! ## The law -/

theorem endAt_eq_none_iff {s : ℕ → Iteration} {k : ℕ} :
    c.loop.endAt s k = none ↔ c.GoesOn s k := by
  have hcourse := c.course s k
  generalize c.loop.endAt s k = e at hcourse
  cases hcourse with
  | early hstops => exact iff_of_false (Option.some_ne_none _) fun h ↦ h.runs hstops
  | lost _ hloses => exact iff_of_false (Option.some_ne_none _) fun h ↦ h.dmm hloses
  | violation hfail => exact iff_of_false (Option.some_ne_none _) fun h ↦ h.safe hfail
  | removed _ _ hends | complete _ _ hends =>
    exact iff_of_false (Option.some_ne_none _) fun h ↦ h.charges hends
  | woken _ _ hsleep =>
    exact iff_of_false (Option.some_ne_none _) fun h ↦ by
      cases hsleep.symm.trans h.sleeps
  | goesOn h => exact iff_of_true rfl h

theorem reaches_iff {s : ℕ → Iteration} {k : ℕ} :
    c.loop.Reaches s k ↔ ∀ j < k, c.GoesOn s j :=
  forall₂_congr fun _ _ ↦ endAt_eq_none_iff

/-- A sample at the end of charge was read from the DMM. -/
theorem AtEnd.not_losesDmm {s : ℕ → Iteration} {k : ℕ} (h : c.AtEnd (s k)) :
    ¬c.loop.LosesDmm s k := by
  obtain ⟨v, i, hreading, -⟩ := h
  intro hloses
  rw [Iteration.reading, hloses.1] at hreading
  cases hreading

theorem endAt_eq_complete_iff {s : ℕ → Iteration} {k : ℕ} :
    c.loop.endAt s k = some .complete ↔
      ¬c.loop.StopsEarly (s k) ∧ ¬c.Unsafe (s k) ∧ c.AtEnd (s k) ∧ ¬c.FromCc s k := by
  have hcourse := c.course s k
  constructor
  · intro h
    rw [h] at hcourse
    cases hcourse with
    | early _ _ _ hcomplete => exact absurd rfl hcomplete
    | complete hruns hsafe hends hcc => exact ⟨hruns, hsafe, hends, hcc⟩
  · rintro ⟨hruns, hsafe, hends, hcc⟩
    generalize c.loop.endAt s k = e at hcourse ⊢
    cases hcourse with
    | early hstops => exact absurd hstops hruns
    | lost _ hloses => exact absurd hloses hends.not_losesDmm
    | violation hfail => exact absurd hfail hsafe
    | removed _ _ _ hcc' => exact absurd hcc' hcc
    | complete => rfl
    | woken _ hcharges => exact absurd hends hcharges
    | goesOn h => exact absurd hends h.charges

theorem endAt_eq_removed_iff {s : ℕ → Iteration} {k : ℕ} :
    c.loop.endAt s k = some .removed ↔
      ¬c.loop.StopsEarly (s k) ∧ ¬c.Unsafe (s k) ∧ c.AtEnd (s k) ∧ c.FromCc s k := by
  have hcourse := c.course s k
  constructor
  · intro h
    rw [h] at hcourse
    cases hcourse with
    | early _ _ hremoved => exact absurd rfl hremoved
    | removed hruns hsafe hends hcc => exact ⟨hruns, hsafe, hends, hcc⟩
  · rintro ⟨hruns, hsafe, hends, hcc⟩
    generalize c.loop.endAt s k = e at hcourse ⊢
    cases hcourse with
    | early hstops => exact absurd hstops hruns
    | lost _ hloses => exact absurd hloses hends.not_losesDmm
    | violation hfail => exact absurd hfail hsafe
    | removed => rfl
    | complete _ _ _ hcc' => exact absurd hcc hcc'
    | woken _ hcharges => exact absurd hends hcharges
    | goesOn h => exact absurd hends h.charges

theorem endAt_eq_dmmLost_iff {s : ℕ → Iteration} {k : ℕ} :
    c.loop.endAt s k = some .dmmLost ↔ ¬c.loop.StopsEarly (s k) ∧ c.loop.LosesDmm s k := by
  have hcourse := c.course s k
  constructor
  · intro h
    rw [h] at hcourse
    cases hcourse with
    | early _ hdmm => exact absurd rfl hdmm
    | lost hruns hloses => exact ⟨hruns, hloses⟩
  · rintro ⟨hruns, hloses⟩
    generalize c.loop.endAt s k = e at hcourse ⊢
    cases hcourse with
    | early hstops => exact absurd hstops hruns
    | lost => rfl
    | violation hfail =>
      obtain ⟨v, i, hreading, -⟩ := hfail
      rw [Iteration.reading, hloses.1] at hreading
      cases hreading
    | removed _ _ hends | complete _ _ hends => exact absurd hloses hends.not_losesDmm
    | woken hdmm => exact absurd hloses hdmm
    | goesOn h => exact absurd hloses h.dmm

theorem Unsafe.refuses {it : Iteration} (h : c.Unsafe it) : c.loop.Refuses it := by
  obtain ⟨v, i, hreading, hcheck⟩ := h
  refine .inr ⟨v, i, hreading, fun prev ↦ ?_⟩
  obtain ⟨reason, hreason⟩ := Option.isSome_iff_exists.mp hcheck
  refine ⟨reason, ?_⟩
  change takeSample c.monitor _ v i it.ntc = _
  unfold takeSample
  rw [show c.monitor.check v i it.ntc.tempC (some (SampledPhase.charge c.currentA
    c.voltageLimitV c.cutoffA prev).mode) = some reason from hreason]

/-- By induction on the iterations: every one adds at most its own sample. -/
theorem check_of_recorded {s : ℕ → Iteration} {n : ℕ} {row : Measurement}
    (h : row ∈ c.loop.recordedBy s n) :
    c.monitor.check row.v row.i row.tempC (some .charge) = none := by
  induction n with
  | zero => exact absurd h List.not_mem_nil
  | succ n ih =>
    rcases SamplingLoop.recordedBy_succ c.loop s n with hsame | hadds
    · exact ih (hsame ▸ h)
    · obtain ⟨v, i, -, -, hsafe, hrow⟩ := hadds
      rw [hrow] at h
      rcases List.mem_cons.mp h with rfl | hmem
      · cases hcheck : c.monitor.check v i (s n).ntc.tempC (some .charge) with
        | none => rfl
        | some reason =>
          refine absurd ?_ (hsafe reason)
          change takeSample c.monitor _ v i (s n).ntc = _
          unfold takeSample
          rw [show c.monitor.check v i (s n).ntc.tempC (some (SampledPhase.charge c.currentA
            c.voltageLimitV c.cutoffA (SamplingLoop.lastReading s n)).mode) = some reason
            from hcheck]
      · exact ih hmem

variable (c) in
/-- The law of a charge, over a stream of iterations. -/
structure SamplingLaw (s : ℕ → Iteration) : Prop where
  complete : c.loop.EndsWith s .complete ↔ ∃ k, c.EndsAt s k ∧ ¬c.FromCc s k
  removed : c.loop.EndsWith s .removed ↔ ∃ k, c.EndsAt s k ∧ c.FromCc s k
  dmmLost : c.loop.EndsWith s .dmmLost ↔
    ∃ k, (∀ j < k, c.GoesOn s j) ∧ ¬c.loop.StopsEarly (s k) ∧ c.loop.LosesDmm s k
  safe : ∀ n, ∀ row ∈ c.loop.recordedBy s n,
    c.monitor.check row.v row.i row.tempC (some .charge) = none
  stops : ∀ k n, c.Unsafe (s k) → k ≤ n → c.loop.recordedBy s n = c.loop.recordedBy s k

/-- **The law of a charge.** -/
theorem samplingLaw (c : ChargeLoop) (s : ℕ → Iteration) : c.SamplingLaw s where
  complete := by
    rw [SamplingLoop.endsWith_iff]
    refine exists_congr fun k ↦ ?_
    rw [reaches_iff, endAt_eq_complete_iff]
    constructor
    · rintro ⟨hbefore, hruns, hsafe, hends, hcc⟩
      exact ⟨⟨hbefore, hruns, hsafe, hends⟩, hcc⟩
    · rintro ⟨⟨hbefore, hruns, hsafe, hends⟩, hcc⟩
      exact ⟨hbefore, hruns, hsafe, hends, hcc⟩
  removed := by
    rw [SamplingLoop.endsWith_iff]
    refine exists_congr fun k ↦ ?_
    rw [reaches_iff, endAt_eq_removed_iff]
    constructor
    · rintro ⟨hbefore, hruns, hsafe, hends, hcc⟩
      exact ⟨⟨hbefore, hruns, hsafe, hends⟩, hcc⟩
    · rintro ⟨⟨hbefore, hruns, hsafe, hends⟩, hcc⟩
      exact ⟨hbefore, hruns, hsafe, hends, hcc⟩
  dmmLost := by
    rw [SamplingLoop.endsWith_iff]
    refine exists_congr fun k ↦ ?_
    rw [reaches_iff, endAt_eq_dmmLost_iff]
  safe _ _ := check_of_recorded
  stops _ _ h := SamplingLoop.recordedBy_of_refuses h.refuses

end ChargeLoop

end Nipxi
