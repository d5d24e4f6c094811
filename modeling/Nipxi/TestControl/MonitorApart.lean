import Nipxi.TestControl.MonitorGroup
import Nipxi.TestControl.RelayApart

/-!
# No two batteries of a monitored group

Monitoring a group closes the relay of a position twice: for the reading of the pre-check, and for
the session, which only the guard ends. With the rules for the relay that was asked to close, no
relay is asked to close before every other was asked to open: `monitor_closesApart`.
-/

open Collections Effect

namespace Nipxi

variable {X L : Type} {b : MonitorBench X} {asks : X → Bool}

theorem Still.unclosing {α : Type} {x : MonitorProg X L α} (hx : Still x) : Unclosing x :=
  Within.mono hx fun _ _ h ↦ h.mono fun _ hnew c hc ↦ ⟨(hnew c hc).1.2, id⟩

/-- **A session asks its relay to open** where it raises a fault of the battery. -/
theorem failsApart_monitorRun (r : MonitorRun) (rounds : ℕ) :
    FailsApart (monitorRun b r rounds) := by
  have hlog (entry : EventEntry) : Passive (StationProg.logEvent b.written entry :
      MonitorProg X MonitorLocals PUnit) := passive_logEvent entry
  have hcancel : Separates (StationProg.call b.written .checkCancellation :
      MonitorProg X MonitorLocals PUnit) := Passive.separates (passive_call fun _ ↦ ⟨rfl, rfl⟩)
  have hstate : Passive (StationProg.call b.written
      (.recordExecutionState r.channel r.relayAddress "ACTIVE") :
        MonitorProg X MonitorLocals PUnit) := passive_call fun _ ↦ ⟨rfl, rfl⟩
  refine (still_ask _ _).unclosing.failsApart.bind fun runNumber ↦ ?_
  refine (still_ask _ _).unclosing.failsApart.bind fun start ↦ Separates.failsApart_runGuarded ?_
  refine hcancel.bind fun _ ↦ Frees.separates fun _ ↦ ?_
  refine (hlog _).frees_bind fun _ ↦ (hlog _).frees_bind fun _ ↦ (hlog _).frees_bind fun _ ↦ ?_
  refine hstate.frees_bind fun _ ↦ ?_
  -- the loop never returns, so there is nothing that it would have to release
  exact (still_monitorLoop r runNumber start rounds).unclosing.frees_of_not_returns
    (not_returns_monitorLoop r runNumber start rounds)

theorem FailsApart.leavesApart_monitorResult {x : MonitorProg X L PUnit} (hx : FailsApart x) :
    LeavesApart (monitorResult x) := by
  intro s
  refine (post_bind _).mpr (post_attempt.mpr ((hx s).mono (fun _ t ht ↦ ?_) fun e t ht ↦ ?_))
  · exact ht.mono fun _ hnew ↦ hnew.mono fun _ ↦ trivial
  · rw [post_ite]
    split
    · exact ht.mono fun _ hnew ↦ hnew.mono fun hmoves ↦ absurd (Or.inl rfl) hmoves
    · refine ht.mono fun _ hnew ↦ hnew.mono fun hmoves ↦ ?_
      exact (classifyPositionException_cases e).resolve_right fun h ↦ hmoves (Or.inr h)

theorem leavesApart_runOneMonitorPosition (p : MonitorPosition) (rounds : ℕ) :
    LeavesApart (runOneMonitorPosition b p rounds) := by
  have hcall {op : Operation} (hop : ∀ raised, (StationCall.call op raised).IsPassive) :
      Separates (StationProg.call b.written op : MonitorProg X MonitorLocals PUnit) :=
    (passive_call hop).separates
  have hpure (result : PositionResult) :
      LeavesApart (pure result : MonitorProg X MonitorLocals PositionResult) :=
    (Separates.pure _).leavesApart
  have hprint : Passive (StationProg.call b.written .printPostRunSummary :
      MonitorProg X MonitorLocals PUnit) := passive_call fun _ ↦ ⟨rfl, rfl⟩
  refine passive_startRunSummaryGuarded.separates.then_leavesApart fun started ↦ .ite ?_ (hpure _)
  refine (passive_logEvents _).separates.then_leavesApart fun _ ↦ ?_
  refine separates_precheck.then_leavesApart fun found ↦ .ite ?_ (.ite ?_ ?_)
  · exact (passive_recordStationFault _ _).separates.then_leavesApart fun _ ↦ hpure _
  · refine (still_assign _).unclosing.separates.then_leavesApart fun _ ↦ ?_
    exact (failsApart_monitorRun p.session rounds).leavesApart_monitorResult.before fun _ ↦ hprint
  · refine (hcall fun _ ↦ ⟨rfl, rfl⟩).then_leavesApart fun _ ↦ ?_
    exact (hcall fun _ ↦ ⟨rfl, rfl⟩).then_leavesApart fun _ ↦ hpure _

/-- By induction on the positions. -/
theorem apartIf_monitorPositions (config : ℕ → MonitorPosition) (rounds : ℕ)
    (positions : List ℕ) (s : StationSession (MonitorWorld X MonitorLocals)) :
    Post (monitorPositions b asks config rounds positions)
      (fun results t ↦ Adds (ApartIf (∀ r ∈ results, ¬r.2.StopsRun)) s t)
      (fun _ t ↦ Adds ClosesApart s t) s := by
  have hbegin : Passive (StationProg.call b.written .beginNewRunId :
      MonitorProg X MonitorLocals PUnit) := passive_call fun _ ↦ ⟨rfl, rfl⟩
  have hnone {P : Prop} {t : StationSession (MonitorWorld X MonitorLocals)} :
      Adds (ApartIf P) t t := ⟨[], rfl, trivial, fun _ ↦ .inl rfl⟩
  induction positions generalizing s with
  | nil => exact hnone
  | cons position rest ih =>
    refine (post_bind _).mpr ?_
    change Post (if asks s.world.journal.world then _ else _) _ _ s
    rw [post_ite]
    split
    · exact hnone
    · refine (post_bind _).mpr ((hbegin.separates s).mono (fun _ t ht ↦ ?_) fun _ _ ht ↦ ht)
      refine (post_bind _).mpr ((leavesApart_runOneMonitorPosition (config position) rounds t).mono
        (fun result u hu ↦ ?_) fun _ _ hu ↦ ht.closesApart hu)
      rw [post_ite]
      split
      · next hstops =>
        exact (ht.apartIf hu).mono fun _ hnew ↦ hnew.mono fun hall ↦
          absurd hstops (hall _ (List.mem_singleton_self _))
      · -- the loop goes on with all relays asked to open
        next hmoves =>
        have hapart : Adds KeptApart s u :=
          (ht.apartIf hu).mono fun _ hnew ↦ hnew.mono fun _ ↦ hmoves
        refine (post_bind _).mpr ((ih u).mono (fun results v hv ↦ ?_)
          fun _ _ hv ↦ hapart.closesApart hv)
        exact (hapart.apartIf hv).mono fun _ hnew ↦ hnew.mono fun hall r hr ↦
          hall r (List.mem_cons_of_mem _ hr)

/-- **No two batteries of a group.** Whatever the bench does, and however the run ends, a relay is
asked to close only where every relay that was asked to close before has been asked to open since,
and so it is with all of them at the end of a run that returns without a cancellation or a fault of
the station; unless a row about a failure raised what the loop takes for a fault of the battery. -/
theorem monitor_closesApart (b : MonitorBench X) (asks : X → Bool) (g : MonitorGroup) (rounds : ℕ)
    (x : X) :
    Post (runMonitor b asks g rounds)
      (fun out t ↦ ClosesApart t.trace ∧
        ((∀ r ∈ out.2, ¬r.2.StopsRun) → askedToClose t.trace = none ∨ RowLost t.trace))
      (fun _ t ↦ ClosesApart t.trace) (MonitorBench.begin x {}) := by
  unfold runMonitor
  rw [post_ite]
  split
  · exact ⟨trivial, fun _ ↦ .inl rfl⟩
  · cases g.config with
    | error e => exact trivial
    | ok config =>
      refine (post_bind _).mpr ((apartIf_monitorPositions config rounds _ _).mono
        (fun results t ht ↦ ?_) fun _ t ht ↦ ?_)
      · obtain ⟨new, hnew, hcloses, hreleased⟩ := ht
        change ClosesApart t.trace ∧ (_ → askedToClose t.trace = none ∨ RowLost t.trace)
        rw [hnew.trans (List.append_nil new)]
        exact ⟨hcloses, hreleased⟩
      · obtain ⟨new, hnew, hcloses⟩ := ht
        rwa [hnew.trans (List.append_nil new)]

end Nipxi
