import Nipxi.TestControl.Cancellation

/-!
# Ctrl+C during a Group → ALL run

`_run_group_all_positions` never looks at the token: a request stops the loop through a position
that is reported as cancelled. So at most one position starts after the request, and the outcome
says that the run was stopped, unless a late position evades its checkpoint, and with it the end of
the loop: `stopsOnRequest_of_heeded`.
-/

open Collections Effect

namespace Nipxi

/-- At most one position was started after the request, and if one was, or one was left
unattempted, the outcome says that the run was cancelled or aborted. -/
structure StopsOnRequest {X : Type} (g : GroupRun) (results : List (ℕ × PositionResult))
    (t : StationSession (TokenWorld X)) : Prop where
  startedLate_le : t.world.startedLate ≤ 1
  reported : results.length < g.configured.length ∨ 0 < t.world.startedLate →
    ∃ result ∈ results, result.2.StopsRun

/-! ## The loop -/

section Loop

variable {X : Type} {asks : X → Bool} {st : Station X} {c : SequenceClass}
  {r : PositionRun → SequenceRun X} {s t : StationSession (TokenWorld X)} {n : ℕ}

/-- At most so many positions were started late, or an entry evaded. -/
def Timely (toCelsius : ℚ → Option ℚ) (n : ℕ) (s : StationSession (TokenWorld X)) : Prop :=
  Evaded toCelsius (lateCalls s) ∨ s.world.startedLate ≤ n

theorem startedLate_pos_of_evaded {toCelsius : ℚ → Option ℚ}
    (h : Evaded toCelsius (lateCalls s)) : 0 < s.world.startedLate := by
  obtain ⟨c, hc, -⟩ := h
  rcases Nat.eq_zero_or_pos s.world.startedLate with hzero | hpos
  · rw [lateCalls, hzero, newestSlots] at hc
    exact absurd hc List.not_mem_nil
  · exact hpos

theorem Later.evaded {toCelsius : ℚ → Option ℚ} (hst : Later s t)
    (h : Evaded toCelsius (lateCalls s)) : Evaded toCelsius (lateCalls t) :=
  h.mono (hst.lateCalls_subset (startedLate_pos_of_evaded h))

theorem Timely.mono {toCelsius : ℚ → Option ℚ} {m : ℕ} (h : Timely toCelsius n s) (hnm : n ≤ m) :
    Timely toCelsius m s := h.imp_right fun hn ↦ hn.trans hnm

/-- What stays within its slot stays timely, however it ends. -/
theorem Timely.post {toCelsius : ℚ → Option ℚ} {α : Type} {x : StationProg (TokenWorld X) α}
    (h : Timely toCelsius n s) (hx : Ends Later x) (hstays : Stays x) :
    Post x (fun _ t ↦ Later s t ∧ Timely toCelsius n t)
      (fun _ t ↦ Later s t ∧ Timely toCelsius n t) s := by
  have htimely {t : StationSession (TokenWorld X)} (hst : Later s t)
      (hwithin : Adds WithinSlot s t) : Later s t ∧ Timely toCelsius n t :=
    ⟨hst, h.imp hst.evaded fun hn ↦ (hst.startedLate_eq hwithin).trans_le hn⟩
  exact ((hx.within s).and (hstays s)).mono (fun _ _ h ↦ htimely h.1 h.2)
    fun _ _ h ↦ htimely h.1 h.2

/-- A slot begins, late or not. -/
theorem Timely.begin {toCelsius : ℚ → Option ℚ} (h : Timely toCelsius 0 s) :
    Post (StationProg.call (st.withToken asks) .beginNewRunId)
      (fun _ t ↦ Timely toCelsius 1 t) (fun _ t ↦ Timely toCelsius 1 t) s := by
  have hbegin (raised : Option Exc) (inner : X) : Timely toCelsius 1
      (s.after (.call .beginNewRunId raised) (s.world.started.step asks inner)) := by
    refine h.imp (later_beginNewRunId s raised inner).evaded fun hzero ↦ ?_
    change (if s.world.requested then s.world.startedLate + 1 else s.world.startedLate) ≤ 1
    split
    · exact Nat.succ_le_succ hzero
    · exact hzero.trans (Nat.zero_le 1)
  refine post_call_of_perform (fun world hperform ↦ ?_) fun e world hperform ↦ ?_
  · obtain rfl := (Prod.mk.inj hperform).2
    exact hbegin _ _
  · obtain rfl := (Prod.mk.inj hperform).2
    exact hbegin _ _

/-- `sequence.run` for the positions of a group, with the token. -/
def runWithToken (asks : X → Bool) (st : Station X) (c : SequenceClass)
    (r : PositionRun → SequenceRun X) (p : PositionRun) : StationProg (TokenWorld X) SequenceEnd :=
  sequenceEnd (c.run (st.withToken asks) ((r p).withToken asks))

theorem ends_runWithToken (p : PositionRun) : Ends Later (runWithToken asks st c r p) := by
  refine .bind (.attempt ((spans_withToken asks st (r p)).run c)) fun ended ↦ ?_
  cases ended with
  | ok _ => exact .pure _
  | error e => exact .pure _

/-- The results have one that stops the run. -/
def Stopped (results : List (ℕ × PositionResult)) : Prop := ∃ result ∈ results, result.2.StopsRun

/-- At most one position was started late, and if one was, the loop was stopped. -/
structure Prompt (toCelsius : ℚ → Option ℚ) (results : List (ℕ × PositionResult))
    (t : StationSession (TokenWorld X)) : Prop where
  timely : Timely toCelsius 1 t
  stopped : Timely toCelsius 0 t ∨ Stopped results

theorem Prompt.post {toCelsius : ℚ → Option ℚ} {results : List (ℕ × PositionResult)} {α : Type}
    {x : StationProg (TokenWorld X) α} (h : Prompt toCelsius results s) (hx : Ends Later x)
    (hstays : Stays x) :
    Post x (fun _ t ↦ Prompt toCelsius results t) (fun _ t ↦ Timely toCelsius 1 t) s := by
  rcases h.stopped with hontime | hstopped
  · exact (hontime.post hx hstays).mono (fun _ _ ht ↦ ⟨ht.2.mono (Nat.zero_le 1), Or.inl ht.2⟩)
      fun _ _ ht ↦ ht.2.mono (Nat.zero_le 1)
  · exact (h.timely.post hx hstays).mono (fun _ _ ht ↦ ⟨ht.2, Or.inr hstopped⟩) fun _ _ ht ↦ ht.2

/-- **The loop, by induction on the positions.** A late position ends it. -/
theorem timely_runPositions (g : GroupRun)
    (hcycle : c = .cycle → ∀ position p, g.config position = some p → 0 < (r p).cycleCount)
    (positions : List ℕ) (h : Timely st.ntcVoltageToCelsius 0 s) :
    Post (runPositions (st.withToken asks) (runWithToken asks st c r) g positions)
      (fun results t ↦ Prompt st.ntcVoltageToCelsius results t)
      (fun _ t ↦ Timely st.ntcVoltageToCelsius 1 t) s := by
  have hR := traverses_withToken asks st
  have hlog (entry : EventEntry) : Stays (StationProg.logEvent (st.withToken asks) entry) :=
    (calm_logEvent entry).isolates.stays
  induction positions generalizing s with
  | nil => exact ⟨h.mono (Nat.zero_le 1), Or.inl h⟩
  | cons position rest ih =>
    unfold runPositions
    cases hconfig : g.config position with
    | none => exact ih h
    | some p =>
      refine h.begin.bind fun _ t ht ↦ ?_
      refine (post_bind _).mpr ((ht.post (hR.dwells.logEvent _) (hlog _)).mono (fun _ u hu ↦ ?_)
        fun _ _ h ↦ h.2)
      have hends : Ends Later
          (runOnePosition (st.withToken asks) (runWithToken asks st c r p) p) :=
        hR.walks.runOnePosition (ends_runWithToken p)
      have hleaves : Leaves (runOnePosition (st.withToken asks) (runWithToken asks st c r p) p) :=
        (honest_run c).concludes.leaves
      have hstays : Stays (runOnePosition (st.withToken asks) (runWithToken asks st c r p) p) :=
        fun v ↦ (hleaves v).mono (fun _ _ hw ↦ hw.mono fun _ hnew ↦ hnew.within) fun _ _ hw ↦ hw
      -- a position that is late stops the loop, or evades
      have hposition : Post (runOnePosition (st.withToken asks) (runWithToken asks st c r p) p)
          (fun result v ↦ Timely st.ntcVoltageToCelsius 1 v ∧
            (¬result.StopsRun → Timely st.ntcVoltageToCelsius 0 v))
          (fun _ v ↦ Timely st.ntcVoltageToCelsius 1 v) u := by
        rcases Nat.eq_zero_or_pos u.world.startedLate with hzero | hlate
        · have hontime : Timely st.ntcVoltageToCelsius 0 u := Or.inr hzero.le
          exact (hontime.post hends hstays).mono
            (fun _ _ hv ↦ ⟨hv.2.mono (Nat.zero_le 1), fun _ ↦ hv.2⟩)
            fun _ _ hv ↦ hv.2.mono (Nat.zero_le 1)
        · have hevades : Post
              (runOnePosition (st.withToken asks) (runWithToken asks st c r p) p)
              (fun result v ↦ Later u v ∧
                (¬result.StopsRun → Evaded st.ntcVoltageToCelsius (lateCalls v)))
              (fun _ _ ↦ True) u :=
            post_runOnePosition_late c (fun hc ↦ hcycle hc position p hconfig) hlate
          exact ((hu.2.post hends hstays).and hevades).mono
            (fun _ _ hv ↦ ⟨hv.1.2, fun hmoves ↦ Or.inl (hv.2.2 hmoves)⟩) fun _ _ hv ↦ hv.1.2
      refine hposition.bind fun result v hv ↦ ?_
      by_cases hstops : result.StopsRun
      · refine (post_bind _).mpr ((hv.1.post (hR.dwells.logEvent _) (hlog _)).mono (fun _ w hw ↦ ?_)
          fun _ _ h ↦ h.2)
        rw [if_pos hstops]
        exact ⟨hw.2, Or.inr ⟨_, List.mem_singleton_self _, hstops⟩⟩
      · refine (post_bind _).mpr (((hv.2 hstops).post (hR.dwells.logEvent _) (hlog _)).mono
          (fun _ w hw ↦ ?_) fun _ _ h ↦ h.2.mono (Nat.zero_le 1))
        rw [if_neg hstops]
        refine (ih hw.2).bind fun results x hx ↦ ?_
        refine ⟨hx.timely, hx.stopped.imp_right fun hstopped ↦ ?_⟩
        obtain ⟨later, hlater, hlaterstops⟩ := hstopped
        exact ⟨later, List.mem_cons_of_mem _ hlater, hlaterstops⟩

/-- The run, with its sense router. -/
theorem timely_runGroupAllPositions (g : GroupRun)
    (hcycle : c = .cycle → ∀ position p, g.config position = some p → 0 < (r p).cycleCount)
    (h : Timely st.ntcVoltageToCelsius 0 s) :
    Post (runGroupAllPositions (st.withToken asks) (runWithToken asks st c r) g)
      (fun results t ↦ Prompt st.ntcVoltageToCelsius results t)
      (fun _ t ↦ Timely st.ntcVoltageToCelsius 1 t) s := by
  have hR := traverses_withToken asks st
  have hpre := hR.toIsPreorder
  have hstays {op : Operation} (hslot : ∀ raised, (StationCall.call op raised).isSlot = false)
      (hopening : ∀ raised, (StationCall.call op raised).openingVerdict = none) :
      Stays (StationProg.call (st.withToken asks) op) :=
    (calm_call hslot hopening).isolates.stays
  have hlog (entry : EventEntry) : Stays (StationProg.logEvent (st.withToken asks) entry) :=
    hstays (fun _ ↦ rfl) fun _ ↦ rfl
  have hstart : Ends Later (startSenseRouter (st.withToken asks) g) ∧
      Stays (startSenseRouter (st.withToken asks) g) :=
    ⟨.ite (hR.call _ trivial) (.pure _),
      .ite (hstays (fun _ ↦ rfl) fun _ ↦ rfl) (Calm.isolates (.pure _)).stays⟩
  have hstop : Ends Later (stopSenseRouter (st.withToken asks) g) ∧
      Stays (stopSenseRouter (st.withToken asks) g) := by
    have hshutdown : Calm ((StationProg.call (st.withToken asks) .senseRouterShutdown).handle
        fun _ ↦ pure ⟨⟩) :=
      Within.handle (calm_call (fun _ ↦ rfl) fun _ ↦ rfl) fun _ ↦ .pure _
    exact ⟨.ite (hR.dwells.swallowed trivial) (.pure _),
      .ite hshutdown.isolates.stays (Calm.isolates (.pure _)).stays⟩
  have hbody : Post (runGroupBody (st.withToken asks) (runWithToken asks st c r) g)
      (fun results t ↦ Prompt st.ntcVoltageToCelsius results t)
      (fun _ t ↦ Timely st.ntcVoltageToCelsius 1 t) s := by
    refine (post_bind _).mpr ((h.post hstart.1 hstart.2).mono (fun _ t ht ↦ ?_)
      fun _ _ ht ↦ ht.2.mono (Nat.zero_le 1))
    refine (post_bind _).mpr ((ht.2.post (hR.dwells.logEvent _) (hlog _)).mono (fun _ u hu ↦ ?_)
      fun _ _ hu ↦ hu.2.mono (Nat.zero_le 1))
    refine (timely_runPositions g hcycle g.positions hu.2).bind fun results v hv ↦ ?_
    exact (post_bind _).mpr ((hv.post (hR.dwells.logEvent _) (hlog _)).mono (fun _ _ hw ↦ hw)
      fun _ _ h ↦ h)
  rw [runGroupAllPositions, post_ensuring]
  refine hbody.mono (fun results t ht ↦ ht.post hstop.1 hstop.2) fun _ t ht ↦ ?_
  exact (ht.post hstop.1 hstop.2).mono (fun _ _ h ↦ h.2) fun _ _ h ↦ h.2

/-- A loop that left a position unattempted was stopped. -/
theorem UpToFirstStop.stopped {positions : List ℕ} {results : List (ℕ × PositionResult)}
    (h : UpToFirstStop positions results) (hlength : results.length < positions.length) :
    Stopped results := by
  induction h with
  | nil => exact absurd hlength (Nat.lt_irrefl 0)
  | stop hstops => exact ⟨_, List.mem_singleton_self _, hstops⟩
  | next _ _ ih =>
    obtain ⟨result, hresult, hstops⟩ := ih (Nat.lt_of_succ_lt_succ hlength)
    exact ⟨result, List.mem_cons_of_mem _ hresult, hstops⟩

/-- Every cycle has a repetition, and no entry evades after the request. -/
structure Heeded (st : Station X) (c : SequenceClass) (r : PositionRun → SequenceRun X)
    (g : GroupRun) (t : StationSession (TokenWorld X)) : Prop where
  repeats : c = .cycle → ∀ position p, g.config position = some p → 0 < (r p).cycleCount
  noneEvades : ¬Evaded st.ntcVoltageToCelsius (lateCalls t)

/-- **When a request stops the group.** At most one position starts after it, and the outcome says
so, if every cycle has a repetition and no entry of a position that is started after it evades. -/
theorem stopsOnRequest_of_heeded (asks : X → Bool) (st : Station X) (c : SequenceClass)
    (r : PositionRun → SequenceRun X) (g : GroupRun) (inner : X) (requested : Bool) :
    Post (runGroupAllPositions (st.withToken asks) (runWithToken asks st c r) g)
      (fun results t ↦ Heeded st c r g t → StopsOnRequest g results t)
      (fun _ t ↦ Heeded st c r g t → t.world.startedLate ≤ 1)
      ⟨.start inner requested, []⟩ := by
  by_cases hcycle : c = .cycle → ∀ position p, g.config position = some p → 0 < (r p).cycleCount
  · have hbegin : Timely st.ntcVoltageToCelsius 0
        (⟨.start inner requested, []⟩ : StationSession (TokenWorld X)) := Or.inr le_rfl
    refine Post.mono (Post.and (timely_runGroupAllPositions g hcycle hbegin)
      (upToFirstStop_runGroupAllPositions g _))
      (fun results t ht hheeded ↦ ?_) fun _ t ht hheeded ↦ ?_
    · refine ⟨ht.1.timely.resolve_left hheeded.noneEvades, fun hleft ↦ ?_⟩
      rcases hleft with hlength | hlate
      · exact ht.2.stopped hlength
      · refine ht.1.stopped.resolve_left fun hontime ↦ ?_
        exact Nat.not_lt.mpr (hontime.resolve_left hheeded.noneEvades) hlate
    · exact ht.1.resolve_left hheeded.noneEvades
  · exact .of_forall (fun _ _ h ↦ absurd h.repeats hcycle) fun _ _ h ↦ absurd h.repeats hcycle

end Loop

/-! ## A group without batteries after the request -/

/-- A station whose first position has a battery, and the others have none. The world is the
number of phases that ended well. -/
def emptyingStation : Station ℕ where
  perform op phases :=
    match op with
    | .zeroOutputSetpoint _ => (none, phases + 1)
    | _ => (none, phases)
  read _ phases := (.ok (if phases = 0 then 4 else 0), phases)
  emergencyOutputOff _ phases := (true, phases)
  sequence _ phases := ((.completed, true), phases)
  ntcVoltageToCelsius _ := none

/-- Three positions of a group. -/
def threePositions : GroupRun where
  group := "A"
  positions := [1, 2, 3]
  config position := some { onePosition with position := position }
  hasSenseChannel := false

/-- Two late positions are too many, whatever is reported. -/
theorem not_post_of_startedLate {X : Type} {g : GroupRun}
    {x : StationProg (TokenWorld X) (List (ℕ × PositionResult))}
    {E : Exc → StationSession (TokenWorld X) → Prop} {s : StationSession (TokenWorld X)}
    (h : ((x s).final.map fun t ↦ decide (t.world.startedLate ≤ 1)) = some false) :
    ¬Post x (fun results t ↦ StopsOnRequest g results t) E s := fun hpost ↦
  not_post_of_final h (hpost.mono (fun _ _ ht ↦ ht.startedLate_le) fun _ _ ht ↦ ht)

/-- The operator asks at the end of the first charge. Two more positions are started, and nothing
says that the run was cancelled. -/
theorem not_stopsOnRequest_emptyGroup :
    ¬∀ (X : Type) (asks : X → Bool) (st : Station X) (c : SequenceClass)
      (r : PositionRun → SequenceRun X) (g : GroupRun) (inner : X) (requested : Bool),
      Post (runGroupAllPositions (st.withToken asks) (runWithToken asks st c r) g)
        (fun results t ↦ StopsOnRequest g results t) (fun _ t ↦ t.world.startedLate ≤ 1)
        ⟨.start inner requested, []⟩ := by
  have hrun : ((runGroupAllPositions (emptyingStation.withToken (1 ≤ ·))
      (runWithToken (1 ≤ ·) emptyingStation .charge fun _ ↦ firstPosition) threePositions
      ⟨.start 0 false, []⟩).final.map fun t ↦ decide (t.world.startedLate ≤ 1)) = some false := by
    decide +kernel
  simp only [not_forall]
  exact ⟨ℕ, (1 ≤ ·), emptyingStation, .charge, fun _ ↦ firstPosition, threePositions, 0, false,
    not_post_of_startedLate hrun⟩

end Nipxi
