import Mathlib.Data.Rat.Floor
import Mathlib.Tactic.Linarith
import Nipxi.TestControl.MonitorScan

/-!
# The end of a scan

The `while` of `_monitor_dwell` is the only loop of a scan whose rounds are not counted beforehand.
It ends because a sleep takes time: with a clock that never goes back, each round but the last moves
it by the interval of the dwell. So the dwell takes at most as many rounds as there are intervals in
it, and the scan returns or raises (`scan_ends`).
-/

open Collections Effect

namespace Nipxi

/-! ## The clock -/

/-- A bench whose clock never goes back, and on which a sleep takes as long as it was asked to,
unless it raises. -/
structure Clocked {X : Type} (b : MonitorBench X) (time : X → ℚ) : Prop where
  perform : ∀ op x, time x ≤ time (b.station.perform op x).2
  read : ∀ reading x, time x ≤ time (b.station.read reading x).2
  emergencyOutputOff : ∀ reason x, time x ≤ time (b.station.emergencyOutputOff reason x).2
  runNumber : ∀ x, time x ≤ time (b.runNumber x).2
  recordCompleted : ∀ channel relay x, time x ≤ time (b.recordCompleted channel relay x).2
  readChannel : ∀ channel x, time x ≤ time (b.readChannel channel x).2
  recordMeasurement : ∀ row x, time x ≤ time (b.recordMeasurement row x).2
  renderFrame : ∀ frame x, time x ≤ time (b.renderFrame frame x).2
  monotonic : ∀ x, (b.monotonic x).1 = time x ∧ time x ≤ time (b.monotonic x).2
  sleep : ∀ seconds x, 0 ≤ seconds → time x ≤ time (b.interruptibleSleep seconds x).2
  slept : ∀ seconds x, (b.interruptibleSleep seconds x).1 = none →
    time x + seconds ≤ time (b.interruptibleSleep seconds x).2

section Ending

variable {X L : Type} {b : MonitorBench X} {r : ScanRun} {p : ScanPosition} {time : X → ℚ}

/-- The time of a session. -/
def clock (time : X → ℚ) (s : StationSession (MonitorWorld X L)) : ℚ := time s.world.journal.world

/-- The second session is no earlier than the first. -/
def NoEarlier (time : X → ℚ) (s t : StationSession (MonitorWorld X L)) : Prop :=
  clock time s ≤ clock time t

instance : IsPreorder (StationSession (MonitorWorld X L)) (NoEarlier time) where
  refl s := le_refl (clock time s)
  trans _ _ _ h h' := le_trans h h'

theorem ends_ask {α : Type} {f : X → Except Exc α × X} {entry : Except Exc α → MonitorEntry}
    (h : ∀ x, time x ≤ time (f x).2) :
    Ends (NoEarlier time) (MonitorBench.ask f entry : MonitorProg X L α) := by
  intro s
  have hs := h s.world.journal.world
  unfold MonitorBench.ask Prog.zoom Journal.ask
  dsimp only [MonitorBench.journalLens]
  cases (f s.world.journal.world).1 with
  | ok a => exact ⟨_, rfl, hs⟩
  | error e => exact ⟨_, rfl, hs⟩

theorem ends_tell {f : X → Option Exc × X} {entry : Option Exc → MonitorEntry}
    (h : ∀ x, time x ≤ time (f x).2) :
    Ends (NoEarlier time) (MonitorBench.tell f entry : MonitorProg X L PUnit) := by
  intro s
  have hs := h s.world.journal.world
  unfold MonitorBench.tell Prog.zoom Journal.call
  dsimp only [MonitorBench.journalLens]
  cases (f s.world.journal.world).1 with
  | none => exact ⟨_, rfl, hs⟩
  | some e => exact ⟨_, rfl, hs⟩

/-- Every call of the station ends. -/
theorem Clocked.traverses (hb : Clocked b time) :
    Traverses (b.written (L := L)) (NoEarlier time) where
  toIsPreorder := inferInstance
  call op _ := ends_call fun s ↦ hb.perform op s.world.journal.world
  read reading _ := ends_read fun s ↦ hb.read reading s.world.journal.world
  emergencyOutputOff reason s :=
    ⟨_, rfl, hb.emergencyOutputOff reason s.world.journal.world⟩
  note _ _ s := ⟨_, rfl, le_refl (clock time s)⟩

variable (hb : Clocked b time)
include hb

theorem Clocked.logScan (level message : String) :
    Ends (NoEarlier time) (Nipxi.logScan b p level message : MonitorProg X L PUnit) :=
  hb.traverses.dwells.logEvent _

theorem Clocked.recordRow (row : MonitorRow) :
    Ends (NoEarlier time) (Nipxi.recordRow b row : MonitorProg X L PUnit) :=
  ends_tell (hb.recordMeasurement row)

theorem Clocked.frame (frame : MonitorFrame) :
    Ends (NoEarlier time) (Nipxi.renderFrame b frame : MonitorProg X L PUnit) :=
  ends_tell (hb.renderFrame frame)

theorem Clocked.now : Ends (NoEarlier time) (b.now : MonitorProg X L ℚ) :=
  ends_ask fun x ↦ (hb.monotonic x).2

theorem Clocked.measure :
    Ends (NoEarlier time) (StationProg.read b.written .battery : MonitorProg X L ℚ) :=
  hb.traverses.read _ nofun

theorem Clocked.sampleDmm (samples : ℤ) :
    Ends (NoEarlier time) (Nipxi.sampleDmm b samples : MonitorProg X L VoltageSamples) := by
  have htimes (n : ℕ) : Ends (NoEarlier time) (measureTimes b n : MonitorProg X L (List ℚ)) := by
    induction n with
    | zero => exact .pure _
    | succ n ih => exact .bind hb.measure fun _ ↦ .bind ih fun _ ↦ .pure _
  refine .bind (htimes _) fun readings ↦ ?_
  cases voltageSamples readings with
  | none => exact .raise _
  | some taken => exact .pure _

theorem Clocked.readDaq (sampled : ℚ → Option String) (failed : Exc → String) :
    Ends (NoEarlier time) (Nipxi.readDaq b p sampled failed : MonitorProg X L (Option ℚ)) := by
  have hwarn (e : Exc) : Ends (NoEarlier time)
      (if e.isInstance [.daqError] then Nipxi.logScan b p "WARNING" (failed e)
        else Prog.raise e : MonitorProg X L PUnit) := .ite (hb.logScan _ _) (.raise _)
  refine .bind (.attempt (ends_ask (hb.readChannel _))) fun ended ↦ ?_
  cases ended with
  | ok voltage =>
    dsimp only
    cases sampled voltage with
    | none => exact .pure _
    | some message => exact .bind (.handle (hb.logScan _ _) hwarn) fun _ ↦ .pure _
  | error e => exact .bind (hwarn e) fun _ ↦ .pure _

theorem Clocked.measureState {wording phaseDetail relayState : String}
    {daq : MonitorProg X L (Option ℚ)} (hdaq : Ends (NoEarlier time) daq) :
    Ends (NoEarlier time) (Nipxi.measureState b r p wording phaseDetail relayState daq) :=
  .bind (hb.sampleDmm _) fun _ ↦ .bind (hb.logScan _ _) fun _ ↦ .bind hdaq fun _ ↦
    .bind (hb.recordRow _) fun _ ↦ .bind hb.now fun _ ↦ .bind (hb.frame _) fun _ ↦ .pure _

end Ending

/-! ## The dwell -/

/-- Going on after a part that ends. -/
theorem last_bind {σ α β : Type} {R : σ → σ → Prop} [IsPreorder σ R] {x : Prog Exc σ α}
    {f : α → Prog Exc σ β} {Q : α → σ → Prop} {s : σ} (hx : Ends R x)
    (hpost : Post x Q (fun _ _ ↦ True) s)
    (hf : ∀ a t, Q a t → R s t → ∃ u, (f a t).last = some u ∧ R t u) :
    ∃ u, ((x >>= f) s).last = some u ∧ R s u := by
  obtain ⟨t, hlast, hst⟩ := hx s
  change ∃ u, (Prog.bind x f s).last = some u ∧ R s u
  unfold Prog.bind
  unfold Post at hpost
  cases h : x s with
  | ok a v =>
    rw [h] at hlast hpost
    obtain rfl := Option.some.inj hlast
    obtain ⟨u, hu, hvu⟩ := hf a v hpost hst
    exact ⟨u, hu, trans_of R hst hvu⟩
  | error e v =>
    rw [h] at hlast
    exact ⟨t, hlast, hst⟩
  | diverged =>
    rw [h] at hlast
    cases hlast

/-- Going on after a part of which nothing is known but that it ends. -/
theorem last_andThen {σ α β : Type} {R : σ → σ → Prop} [IsPreorder σ R] {x : Prog Exc σ α}
    {f : α → Prog Exc σ β} {s : σ} (hx : Ends R x)
    (hf : ∀ a t, R s t → ∃ u, (f a t).last = some u ∧ R t u) :
    ∃ u, ((x >>= f) s).last = some u ∧ R s u :=
  last_bind (Q := fun _ _ ↦ True) hx (.of_forall (fun _ _ ↦ trivial) fun _ _ ↦ trivial)
    fun a t _ ↦ hf a t

section Dwell

variable {X L : Type} {b : MonitorBench X} {r : ScanRun} {p : ScanPosition} {time : X → ℚ}
  (hb : Clocked b time)
include hb

theorem Clocked.post_sleep (seconds : ℚ) (s : StationSession (MonitorWorld X L)) :
    Post (MonitorBench.tell (b.interruptibleSleep seconds) (.sleep seconds))
      (fun _ t ↦ clock time s + seconds ≤ clock time t) (fun _ _ ↦ True) s := by
  refine post_zoom.mpr ?_
  have hslept := hb.slept seconds s.world.journal.world
  change Post (Journal.call _ _) _ _ s.world.journal
  unfold Post Journal.call
  cases h : (b.interruptibleSleep seconds s.world.journal.world).1 with
  | none => exact hslept h
  | some e => trivial

theorem Clocked.post_now (s : StationSession (MonitorWorld X L)) :
    Post b.now (fun now t ↦ now = clock time s ∧ NoEarlier time s t) (fun _ _ ↦ True) s :=
  hb.monotonic s.world.journal.world

/-- By induction on the intervals left: so many more rounds are enough. -/
theorem Clocked.last_dwellLoop (hinterval : 0 < r.dwellIntervalS) (start : ℚ) (n : ℕ)
    (elapsed : ℚ) (sampleCount : ℤ) (s : StationSession (MonitorWorld X L))
    (hs : start + elapsed ≤ clock time s) (hn : r.dwellS - elapsed ≤ n * r.dwellIntervalS) :
    ∃ t, (dwellLoop b r p start (n + 1) elapsed sampleCount s).last = some t ∧
      NoEarlier time s t := by
  induction n generalizing elapsed sampleCount s with
  | zero =>
    rw [Nat.cast_zero, zero_mul, sub_nonpos] at hn
    rw [dwellLoop, if_neg hn.not_gt]
    exact ⟨s, rfl, refl_of (NoEarlier time) s⟩
  | succ n ih =>
    rw [dwellLoop]
    split
    swap
    · exact ⟨s, rfl, refl_of (NoEarlier time) s⟩
    next hgoes =>
    have hseconds : 0 ≤ min r.dwellIntervalS (r.dwellS - elapsed) :=
      le_min hinterval.le (sub_nonneg.mpr hgoes.le)
    refine last_bind (ends_tell fun x ↦ hb.sleep _ x hseconds) (hb.post_sleep _ s)
      fun _ t ht _ ↦ ?_
    refine last_bind hb.now (hb.post_now t) fun now u hu _ ↦ ?_
    -- The clock was read after the sleep, so the interval is over, or the dwell is.
    have hnow : min r.dwellIntervalS (r.dwellS - elapsed) ≤ now - start - elapsed := by
      rw [hu.1]
      linarith
    have hleft : r.dwellS - (now - start) ≤ n * r.dwellIntervalS := by
      rw [Nat.cast_succ, add_mul, one_mul] at hn
      rcases min_le_iff.mp hnow with h | h
      · linarith
      · have hzero : 0 ≤ n * r.dwellIntervalS := mul_nonneg n.cast_nonneg hinterval.le
        linarith
    have hstart : start + (now - start) ≤ clock time u := by
      rw [add_sub_cancel, hu.1]
      exact hu.2
    refine last_andThen hb.measure fun voltage v hv ↦ ?_
    refine last_andThen (hb.readDaq _ _) fun daqRaw w hw ↦ ?_
    refine last_andThen (hb.recordRow _) fun _ w₁ h₁ ↦ ?_
    refine last_andThen (hb.logScan _ _) fun _ w₂ h₂ ↦ ?_
    refine last_andThen hb.now fun _ w₃ h₃ ↦ ?_
    refine last_andThen (hb.frame _) fun _ w₄ h₄ ↦ ?_
    refine ih _ _ w₄ ?_ hleft
    exact hstart.trans (hv.trans (hw.trans (h₁.trans (h₂.trans (h₃.trans h₄)))))

theorem Clocked.dwell (hinterval : 0 < r.dwellIntervalS) {n : ℕ}
    (hn : r.dwellS ≤ n * r.dwellIntervalS) :
    Ends (NoEarlier time) (Nipxi.dwell b r p (n + 1) : MonitorProg X L ℤ) := by
  refine .ite (fun s ↦ ?_) (.pure _)
  refine last_bind hb.now (hb.post_now s) fun start t ht _ ↦ ?_
  refine hb.last_dwellLoop hinterval start n 0 0 t ?_ (by rwa [sub_zero])
  rw [add_zero, ht.1]
  exact ht.2

theorem Clocked.monitorDwell (hinterval : 0 < r.dwellIntervalS) {n : ℕ}
    (hn : r.dwellS ≤ n * r.dwellIntervalS) :
    Ends (NoEarlier time) (Nipxi.monitorDwell b r p (n + 1) : MonitorProg X L ℤ) :=
  .bind (hb.logScan _ _) fun _ ↦ .bind (hb.logScan _ _) fun _ ↦
    .bind (hb.dwell hinterval hn) fun _ ↦ .bind (hb.logScan _ _) fun _ ↦ .pure _

theorem Clocked.scanOnePosition (hinterval : 0 < r.dwellIntervalS) {n : ℕ}
    (hn : r.dwellS ≤ n * r.dwellIntervalS) :
    Ends (NoEarlier time) (Nipxi.scanOnePosition b r p (n + 1) : MonitorProg X L ℤ) := by
  have hcall (op : Operation) (hop : op.IsPlain) :
      Ends (NoEarlier time) (StationProg.call b.written op : MonitorProg X L PUnit) :=
    hb.traverses.call op hop
  refine .bind (hcall _ trivial) fun _ ↦ .bind (hb.logScan _ _) fun _ ↦ ?_
  refine .bind (hb.measureState (.pure _)) fun _ ↦ ?_
  refine .bind (hcall _ trivial) fun _ ↦ .bind (hb.logScan _ _) fun _ ↦ ?_
  refine .bind (hb.measureState (hb.readDaq _ _)) fun _ ↦ ?_
  refine .bind (hb.monitorDwell hinterval hn) fun _ ↦ ?_
  refine .bind (hcall _ trivial) fun _ ↦ .bind (hb.logScan _ _) fun _ ↦ ?_
  exact .bind (hb.measureState (.pure _)) fun _ ↦ .bind (hb.logScan _ _) fun _ ↦ .pure _

theorem Clocked.scanThisPosition (hinterval : 0 < r.dwellIntervalS) {n : ℕ}
    (hn : r.dwellS ≤ n * r.dwellIntervalS) :
    Ends (NoEarlier time) (Nipxi.scanThisPosition b r p (n + 1) : MonitorProg X L ℤ) := by
  have hfields : Ends (NoEarlier time)
      (extraRunSummaryFields (scanGuarded r p : GuardedRun (MonitorWorld X L))) :=
    ends_extraRunSummaryFields fun s _ ↦ le_refl (clock time s)
  refine hb.traverses.dwells.runGuarded hfields (ends_read fun s ↦ hb.read _ _) ?_
  exact .bind (hb.traverses.call _ trivial) fun _ ↦ hb.scanOnePosition hinterval hn

/-- By induction on the positions left. -/
theorem Clocked.scanPositions (hinterval : 0 < r.dwellIntervalS) {n : ℕ}
    (hn : r.dwellS ≤ n * r.dwellIntervalS) (runNumber : Option ℕ) (scanStartTime : ℚ)
    (positions : List ℕ) (idx : ℕ) (totalSamples : ℤ) (last : Option (ℕ × ℕ)) :
    Ends (NoEarlier time) (Nipxi.scanPositions b r (n + 1) runNumber scanStartTime idx positions
      totalSamples last : MonitorProg X L (ℤ × Option (ℕ × ℕ))) := by
  induction positions generalizing idx totalSamples last with
  | nil => exact .pure _
  | cons position rest ih =>
    rw [Nipxi.scanPositions]
    split
    · exact .raise _
    · exact .bind (hb.logScan _ _) fun _ ↦ .bind (hb.scanThisPosition hinterval hn) fun _ ↦
        ih _ _ _

omit hb in
/-- **A scan ends.** On a bench whose clock never goes back and whose sleeps take as long as they
are asked to, as many tests of the condition of each dwell as there are intervals in it, and one
more, are enough for the scan to return or to raise. -/
theorem scan_ends (b : MonitorBench X) (r : ScanRun) (time : X → ℚ) (hb : Clocked b time)
    (hinterval : 0 < r.dwellIntervalS) (s : StationSession (MonitorWorld X L)) :
    ∃ t, (scanRun b r (⌈r.dwellS / r.dwellIntervalS⌉₊ + 1) s).last = some t := by
  have hn : r.dwellS ≤ ⌈r.dwellS / r.dwellIntervalS⌉₊ * r.dwellIntervalS :=
    (div_le_iff₀ hinterval).mp (Nat.le_ceil _)
  have hrun : Ends (NoEarlier time)
      (scanRun b r (⌈r.dwellS / r.dwellIntervalS⌉₊ + 1) : MonitorProg X L PUnit) := by
    refine .bind (ends_ask hb.runNumber) fun _ ↦ .bind hb.now fun _ ↦ ?_
    refine .bind (hb.traverses.dwells.logEvent _) fun _ ↦ ?_
    refine .bind (hb.scanPositions hinterval hn _ _ _ _ _ _) fun _ ↦ ?_
    refine .bind (ends_tell (hb.recordCompleted _ _)) fun _ ↦ ?_
    exact .bind (hb.traverses.call _ trivial) fun _ ↦ hb.traverses.dwells.logEvent _
  obtain ⟨t, ht, -⟩ := hrun s
  exact ⟨t, ht⟩

end Dwell

/-- A bench whose world is its clock: everything returns, and only sleeping takes time. -/
def steadyBench : MonitorBench ℚ where
  station :=
    { perform := fun _ now ↦ (none, now)
      read := fun _ now ↦ (.ok 4, now)
      emergencyOutputOff := fun _ now ↦ (true, now)
      sequence := fun _ now ↦ ((.completed, true), now)
      ntcVoltageToCelsius := fun _ ↦ none }
  runNumber now := (.ok (some 1), now)
  recordCompleted _ _ now := (none, now)
  readChannel _ now := (.ok 1, now)
  recordMeasurement _ now := (none, now)
  renderFrame _ now := (none, now)
  interruptibleSleep seconds now := (none, now + seconds)
  monotonic now := (now, now)

theorem clocked_steadyBench : Clocked steadyBench id where
  perform _ x := le_refl x
  read _ x := le_refl x
  emergencyOutputOff _ x := le_refl x
  runNumber x := le_refl x
  recordCompleted _ _ x := le_refl x
  readChannel _ x := le_refl x
  recordMeasurement _ x := le_refl x
  renderFrame _ x := le_refl x
  monotonic x := ⟨rfl, le_refl x⟩
  sleep _ _ h := le_add_of_nonneg_right h
  slept _ _ _ := le_refl _

/-- The positions of a group of two, for thirty seconds each. -/
def pairScan : ScanRun where
  groupName := some "B1"
  batteryType := "default"
  group := "B1"
  positionsInGroup := [1, 2]
  relayAddress := some
  samples := 2
  dwellS := 30
  dwellIntervalS := 5
  relayMatrixName := none

theorem scan_ends_steadyBench :
    ∃ t, (scanRun steadyBench pairScan (⌈pairScan.dwellS / pairScan.dwellIntervalS⌉₊ + 1)
      (MonitorBench.begin 0 ())).last = some t :=
  scan_ends steadyBench pairScan id clocked_steadyBench (by decide +kernel) _

end Nipxi
