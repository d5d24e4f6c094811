import Mathlib.Data.List.Sort
import Nipxi.TestControl.GroupShutdown
import Nipxi.TestControl.MonitorBattery

/-!
# Monitoring the positions of a group

A worker that monitors runs `_run_monitor`: the enabled positions of its group in order, each
through `_run_one_monitor_position` with its pre-check and its own row, until one of them is
cancelled or is a fault of the station, or until the worker is asked to stop.

A monitoring session never returns, so no position passes. And it is run under the guard, so what
holds of moving on within a group of charges holds here too: `monitor_movesOnSafely`.
-/

open Collections Effect

namespace Nipxi

/-! ## One position -/

/-- What `_run_one_monitor_position` is called with. -/
structure MonitorPosition extends PositionRun where
  /-- The numbers of `battery_cfg`. -/
  batteryCfg : Dict String ℚ
  /-- `Settings.BAT_TEMP_MAX_C`. -/
  batTempMaxC : ℚ
  /-- `relay.name`. -/
  relayName : String
  /-- `str` of a number. -/
  str : ℚ → String
  /-- The float that a sum or a quotient of floats comes to. -/
  round : ℚ → ℚ

/-- What its `MonitorBatterySequence` is run with. -/
def MonitorPosition.session (p : MonitorPosition) : MonitorRun where
  groupName := p.group
  channel := p.position
  relayAddress := p.relayAddress
  sampleIntervalS := 2
  hasDaq := p.hasNtcDaq
  ntcChannel := p.ntcChannel p.position
  batteryCfg := p.batteryCfg
  batTempMaxC := p.batTempMaxC
  relayName := p.relayName
  str := p.str
  round := p.round

section Program

variable {X L : Type} (b : MonitorBench X) (asks : X → Bool)

/-- The `except` clauses around `sequence.run`. They write no row about a fault of the station. -/
def monitorResult (run : MonitorProg X L PUnit) : MonitorProg X L PositionResult := do
  match ← run.attempt with
  | .ok _ => pure .pass
  | .error e =>
    if e.isInstance [.operationCancelledError] then pure .cancelled
    else pure (classifyPositionException e)

/-- `_run_one_monitor_position`, with a session of at most so many rounds. -/
def runOneMonitorPosition (p : MonitorPosition) (rounds : ℕ) :
    MonitorProg X MonitorLocals PositionResult := do
  let started ← startRunSummaryGuarded b.written { p.toPositionRun with source := "monitor" }
  if started then do
    logEvents b.written
      (traceabilityEntries { p.toPositionRun with operation := "Monitor Battery" })
    let found ← precheck b.written p.toPrecheckRun
    if found.stationFault then do
      recordStationFault b.written p.toPositionRun "DAQError"
        "DAQ communication failure during NTC pre-check"
      pure .stationFault
    else if found.ok then do
      MonitorBench.assign fun _ ↦ {}
      let result ← monitorResult (monitorRun b p.session rounds)
      StationProg.call b.written .printPostRunSummary
      pure result
    else do
      StationProg.call b.written
        (.recordExecutionState p.position p.relayAddress "SAFETY_VIOLATION")
      StationProg.call b.written (.finishRunSummary "SAFETY_VIOLATION" "FAIL" [])
      pure .fail
  else pure .fail

/-! ## The group -/

/-- What `_run_monitor` reads of a group. -/
structure MonitorGroup where
  /-- Whether a position is enabled. -/
  enabled : Dict ℕ Bool
  /-- What the tables and `validate_group_test_config` give for its positions, or raise. -/
  config : Except Exc (ℕ → MonitorPosition)

/-- `_enabled_positions`. -/
def MonitorGroup.enabledPositions (g : MonitorGroup) : List ℕ :=
  ((g.enabled.items.filter Prod.snd).map Prod.fst).insertionSort (· ≤ ·)

/-- `runtime.cancellation.requested`. -/
def cancelRequested : MonitorProg X L Bool := fun s ↦ .ok (asks s.world.journal.world) s

/-- The loop of `_run_monitor`, and the results of its positions. -/
def monitorPositions (config : ℕ → MonitorPosition) (rounds : ℕ) :
    List ℕ → MonitorProg X MonitorLocals (List (ℕ × PositionResult))
  | [] => pure []
  | position :: rest => do
    if ← cancelRequested asks then pure []
    else do
      StationProg.call b.written .beginNewRunId
      let result ← runOneMonitorPosition b (config position) rounds
      if result.StopsRun then pure [(position, result)]
      else do
        let results ← monitorPositions config rounds rest
        pure ((position, result) :: results)

/-- Whether no position ended as a fault of the station. -/
def noStationFault (results : List (ℕ × PositionResult)) : Bool :=
  results.all fun r ↦ r.2 != .stationFault

/-- `_run_monitor`, and the results of its positions. -/
def runMonitor (g : MonitorGroup) (rounds : ℕ) :
    MonitorProg X MonitorLocals (Bool × List (ℕ × PositionResult)) :=
  if g.enabledPositions = [] then pure (true, [])
  else
    match g.config with
    | .error e => Prog.raise e
    | .ok config => do
      let results ← monitorPositions b asks config rounds g.enabledPositions
      pure (noStationFault results, results)

end Program

/-! ## The results -/

theorem mem_enabledPositions {g : MonitorGroup} {position : ℕ} :
    position ∈ g.enabledPositions ↔ g.enabled.get? position = some true := by
  rw [MonitorGroup.enabledPositions, List.mem_insertionSort, List.mem_map,
    ← Dict.mem_items_iff]
  constructor
  · rintro ⟨⟨position', flag⟩, hmem, rfl⟩
    obtain ⟨hitem, hflag⟩ := List.mem_filter.mp hmem
    rwa [show flag = true from hflag] at hitem
  · exact fun hitem ↦ ⟨_, List.mem_filter.mpr ⟨hitem, rfl⟩, rfl⟩

/-- The positions of a group are run in ascending order. -/
theorem pairwise_enabledPositions (g : MonitorGroup) : g.enabledPositions.Pairwise (· < ·) := by
  have hsorted : g.enabledPositions.Pairwise (· ≤ ·) := List.pairwise_insertionSort _ _
  have hnodup : g.enabledPositions.Nodup := by
    refine (List.perm_insertionSort _ _).nodup_iff.mpr ?_
    exact (List.filter_sublist.map Prod.fst).nodup g.enabled.nodup_keys
  exact (hsorted.and hnodup).imp fun h ↦ lt_of_le_of_ne h.1 h.2

/-- The results of the positions that were run: the group goes on only after a failure. -/
inductive MonitoredUpTo (stopped : Prop) : List ℕ → List (ℕ × PositionResult) → Prop
  | done : MonitoredUpTo stopped [] []
  | asked {positions : List ℕ} (h : stopped) : MonitoredUpTo stopped positions []
  | stop {position : ℕ} {rest : List ℕ} {result : PositionResult} (h : result.StopsRun) :
      MonitoredUpTo stopped (position :: rest) [(position, result)]
  | next {position : ℕ} {rest : List ℕ} {results : List (ℕ × PositionResult)}
      (hrest : MonitoredUpTo stopped rest results) :
      MonitoredUpTo stopped (position :: rest) ((position, .fail) :: results)

section Results

variable {X : Type} {b : MonitorBench X} {asks : X → Bool}

theorem not_returns_monitorLoop (r : MonitorRun) (runNumber : Option ℕ) (start : ℚ) (rounds : ℕ)
    (s : StationSession (MonitorWorld X MonitorLocals)) :
    Post (monitorLoop b r runNumber start rounds) (fun _ _ ↦ False) (fun _ _ ↦ True) s := by
  induction rounds generalizing s with
  | zero => exact trivial
  | succ rounds ih =>
    exact (post_bind _).mpr (.of_forall (fun _ t ↦ ih t) fun _ _ ↦ trivial)

/-- What comes before something that never returns. -/
theorem not_returns_bind {α β : Type} {x : MonitorProg X MonitorLocals α}
    {f : α → MonitorProg X MonitorLocals β} {s : StationSession (MonitorWorld X MonitorLocals)}
    (hf : ∀ a t, Post (f a) (fun _ _ ↦ False) (fun _ _ ↦ True) t) :
    Post (x >>= f) (fun _ _ ↦ False) (fun _ _ ↦ True) s :=
  (post_bind _).mpr (.of_forall hf fun _ _ ↦ trivial)

theorem not_returns_monitorGuarded (r : MonitorRun) (runNumber : Option ℕ) (start : ℚ)
    (rounds : ℕ) (s : StationSession (MonitorWorld X MonitorLocals)) :
    Post (monitorGuarded b r runNumber start rounds) (fun _ _ ↦ False) (fun _ _ ↦ True) s := by
  refine not_returns_bind fun _ _ ↦ not_returns_bind fun _ _ ↦ not_returns_bind fun _ _ ↦ ?_
  refine not_returns_bind fun _ _ ↦ not_returns_bind fun _ _ ↦ not_returns_bind fun _ t ↦ ?_
  exact not_returns_monitorLoop r runNumber start rounds t

theorem not_returns_monitorRun (r : MonitorRun) (rounds : ℕ)
    (s : StationSession (MonitorWorld X MonitorLocals)) :
    Post (monitorRun b r rounds) (fun _ _ ↦ False) (fun _ _ ↦ True) s := by
  refine not_returns_bind fun runNumber t ↦ not_returns_bind fun start u ↦ (post_handle _).mpr ?_
  refine (not_returns_monitorGuarded r runNumber start rounds u).mono (fun _ _ h ↦ h) fun e v _ ↦ ?_
  exact (settles_handler (fun w ↦ ⟨_, rfl⟩) e v).mono (fun _ _ h ↦ h) fun _ _ _ ↦ trivial

theorem post_monitorResult {L : Type} {x : MonitorProg X L PUnit}
    {s : StationSession (MonitorWorld X L)}
    (hx : Post x (fun _ _ ↦ False) (fun _ _ ↦ True) s) :
    Post (monitorResult x) (fun result _ ↦ result = .fail ∨ result.StopsRun)
      (fun _ _ ↦ True) s := by
  refine (post_bind _).mpr (post_attempt.mpr (hx.mono (fun _ _ h ↦ h.elim) fun e t _ ↦ ?_))
  rw [post_ite]
  split
  · exact .inr (.inl rfl)
  · exact (classifyPositionException_cases e).imp_right .inr

theorem post_runOneMonitorPosition (p : MonitorPosition) (rounds : ℕ)
    (s : StationSession (MonitorWorld X MonitorLocals)) :
    Post (runOneMonitorPosition b p rounds) (fun result _ ↦ result = .fail ∨ result.StopsRun)
      (fun _ _ ↦ True) s := by
  have hskip {α : Type} {x : MonitorProg X MonitorLocals α}
      {f : α → MonitorProg X MonitorLocals PositionResult}
      {t : StationSession (MonitorWorld X MonitorLocals)}
      (hf : ∀ a u, Post (f a) (fun result _ ↦ result = .fail ∨ result.StopsRun)
        (fun _ _ ↦ True) u) :
      Post (x >>= f) (fun result _ ↦ result = .fail ∨ result.StopsRun) (fun _ _ ↦ True) t :=
    (post_bind _).mpr (.of_forall hf fun _ _ ↦ trivial)
  refine hskip fun started t ↦ post_ite.mpr ?_
  split
  · refine hskip fun _ _ ↦ hskip fun found u ↦ post_ite.mpr ?_
    split
    · exact hskip fun _ _ ↦ .inr (.inr rfl)
    · refine post_ite.mpr ?_
      split
      · refine hskip fun _ v ↦ (post_bind _).mpr ?_
        refine (post_monitorResult (not_returns_monitorRun p.session rounds v)).mono
          (fun result w h ↦ ?_) fun _ _ h ↦ h
        exact hskip fun _ _ ↦ h
      · exact hskip fun _ _ ↦ hskip fun _ _ ↦ .inl rfl
  · exact .inl rfl

/-- By induction on the positions. A request that was made when the loop asked is the last thing
the loop looks at. -/
theorem post_monitorPositions (config : ℕ → MonitorPosition) (rounds : ℕ) (positions : List ℕ)
    (s : StationSession (MonitorWorld X MonitorLocals)) :
    Post (monitorPositions b asks config rounds positions)
      (fun results t ↦ MonitoredUpTo (asks t.world.journal.world = true) positions results)
      (fun _ _ ↦ True) s := by
  induction positions generalizing s with
  | nil => exact MonitoredUpTo.done
  | cons position rest ih =>
    refine (post_bind _).mpr ?_
    change Post (if asks s.world.journal.world then _ else _) _ _ s
    rw [post_ite]
    split
    · next hasks => exact MonitoredUpTo.asked hasks
    · refine (post_bind _).mpr (.of_forall (fun _ t ↦ ?_) fun _ _ ↦ trivial)
      refine (post_bind _).mpr ((post_runOneMonitorPosition (config position) rounds t).mono
        (fun result u hresult ↦ ?_) fun _ _ h ↦ h)
      rw [post_ite]
      split
      · next hstops => exact MonitoredUpTo.stop hstops
      · next hstops =>
        obtain rfl := hresult.resolve_right hstops
        exact (ih u).bind fun _ _ hresults ↦ .next hresults

/-- **The results of a group that is monitored.** Whatever the bench does, a run that returns has
monitored the enabled positions in ascending order, up to the first one that was cancelled or was a
fault of the station, or until it was asked to stop. Every position before that has failed, and the
run reports whether none was a fault of the station. -/
theorem monitor_results (b : MonitorBench X) (asks : X → Bool) (g : MonitorGroup) (rounds : ℕ)
    (s : StationSession (MonitorWorld X MonitorLocals)) :
    Post (runMonitor b asks g rounds)
      (fun out t ↦
        MonitoredUpTo (asks t.world.journal.world = true) g.enabledPositions out.2 ∧
          g.enabledPositions.Pairwise (· < ·) ∧
          (∀ position, position ∈ g.enabledPositions ↔ g.enabled.get? position = some true) ∧
          (out.1 = true ↔ ∀ r ∈ out.2, r.2 ≠ .stationFault))
      (fun _ _ ↦ True) s := by
  have hmem (position : ℕ) :
      position ∈ g.enabledPositions ↔ g.enabled.get? position = some true :=
    mem_enabledPositions
  have hgroup := And.intro (pairwise_enabledPositions g) hmem
  unfold runMonitor
  rw [post_ite]
  split
  · next hempty =>
    rw [hempty] at hgroup ⊢
    exact ⟨.done, hgroup.1, hgroup.2, iff_of_true rfl fun _ h ↦ absurd h List.not_mem_nil⟩
  · cases g.config with
    | error e => exact trivial
    | ok config =>
      refine (post_monitorPositions config rounds _ s).bind fun results t ht ↦ ?_
      refine ⟨ht, hgroup.1, hgroup.2, ?_⟩
      simp only [noStationFault, List.all_eq_true, bne_iff_ne]

end Results

/-! ## Moving on -/

section Moves

variable {X L α : Type} {b : MonitorBench X} {asks : X → Bool}

/-- An entry that says nothing about the output or the relays. -/
def StationCall.IsStill (c : StationCall) : Prop := c.IsNeutral ∧ c.isRelayClose = false

/-- Only such entries, however `x` ends. -/
abbrev Still (x : StationProg X α) : Prop :=
  Quiet StationSession.trace StationCall.IsStill (fun _ ↦ False) x

theorem Still.calm {x : StationProg X α} (hx : Still x) : Calm x :=
  Within.mono hx fun _ _ h ↦ h.mono fun _ hnew c hc ↦ ⟨(hnew c hc).1.1, id⟩

theorem still_call {st : Station X} {op : Operation}
    (hop : ∀ raised, (StationCall.call op raised).IsStill) : Still (StationProg.call st op) :=
  StationProg.quiet_call fun raised ↦ ⟨hop raised, id⟩

theorem still_read {st : Station X} (reading : Reading) : Still (StationProg.read st reading) :=
  StationProg.quiet_read fun _ ↦ ⟨⟨⟨rfl, rfl, rfl⟩, rfl⟩, id⟩

theorem still_logEvent {st : Station X} (entry : EventEntry) :
    Still (StationProg.logEvent st entry) := still_call fun _ ↦ ⟨⟨rfl, rfl, rfl⟩, rfl⟩

/-- What is asked of the bench alone leaves the trace of the station as it is. -/
theorem still_ask (f : X → Except Exc α × X) (entry : Except Exc α → MonitorEntry) :
    Still (MonitorBench.ask f entry : MonitorProg X L α) := fun _ ↦
  post_zoom.mpr (.of_forall (fun _ _ ↦ ⟨[], rfl, faultless_nil⟩)
    fun _ _ ↦ ⟨[], rfl, faultless_nil⟩)

theorem still_tell (f : X → Option Exc × X) (entry : Option Exc → MonitorEntry) :
    Still (MonitorBench.tell f entry : MonitorProg X L PUnit) := fun _ ↦
  post_zoom.mpr (.of_forall (fun _ _ ↦ ⟨[], rfl, faultless_nil⟩)
    fun _ _ ↦ ⟨[], rfl, faultless_nil⟩)

theorem still_locals : Still (MonitorBench.locals : MonitorProg X L L) := fun _ ↦
  ⟨[], rfl, faultless_nil⟩

theorem still_assign (f : L → L) : Still (MonitorBench.assign f : MonitorProg X L PUnit) := fun _ ↦
  ⟨[], rfl, faultless_nil⟩

theorem still_readTemperature (r : MonitorRun) : Still (readTemperature b r) := by
  have hwarn (state : NTCPresence) (message : String) : Still (warnNtc b r state message) :=
    .bind still_locals fun _ ↦ .ite (.pure _) (still_logEvent _)
  have hnote (state : NTCPresence) : Still (noteNtc state : MonitorProg X MonitorLocals PUnit) :=
    still_assign _
  have hread (ntcChannel : String) : Still (readNtc b r ntcChannel) := by
    refine Within.handle (.bind (still_ask _ _) fun ntcV ↦ ?_) fun e ↦ ?_
    · refine .ite (.bind (hnote _) fun _ ↦ .pure _) (.bind (hwarn _ _) fun _ ↦ ?_)
      exact .bind (hnote _) fun _ ↦ .pure _
    · exact .ite (.bind (hwarn _ _) fun _ ↦ .bind (hnote _) fun _ ↦ .pure _) (.raise e)
  unfold readTemperature
  cases r.ntc with
  | none => exact .pure _
  | some ntcChannel =>
    refine .bind (hread ntcChannel) fun tempC ↦ ?_
    cases r.checkTemperature tempC with
    | none => exact .pure _
    | some reason => exact .raise _

theorem still_monitorLoop (r : MonitorRun) (runNumber : Option ℕ) (start : ℚ) (rounds : ℕ) :
    Still (monitorLoop b r runNumber start rounds) := by
  have hcancel : Still (StationProg.call b.written .checkCancellation :
      MonitorProg X MonitorLocals PUnit) := still_call fun _ ↦ ⟨⟨rfl, rfl, rfl⟩, rfl⟩
  have hassign (f : MonitorLocals → MonitorLocals) :
      Still (MonitorBench.assign f : MonitorProg X MonitorLocals PUnit) := still_assign f
  induction rounds with
  | zero => exact fun _ ↦ trivial
  | succ rounds ih =>
    refine .bind ?_ fun _ ↦ ih
    refine .bind hcancel fun _ ↦ .bind (still_read _) fun _ ↦ ?_
    refine .bind (still_readTemperature r) fun _ ↦ .bind (hassign _) fun _ ↦ ?_
    refine .bind (still_tell _ _) fun _ ↦ .bind (still_ask _ _) fun _ ↦ ?_
    exact .bind (still_tell _ _) fun _ ↦ still_tell _ _

theorem still_afterClose (r : MonitorRun) (runNumber : Option ℕ) (start : ℚ) (rounds : ℕ) :
    Still (do
      logMonitor b r "INFO" s!"Relay {r.relayAddress} activated -- monitoring started"
      logMonitor b r "INFO" (eventMessage "RELAY_CLOSE"
        [("relay_matrix_name", some r.relayName), ("relay_address", toString r.relayAddress)])
      StationProg.logEvent b.written { level := "INFO", message := "Monitoring source: DMM" }
      StationProg.call b.written (.recordExecutionState r.channel r.relayAddress "ACTIVE")
      monitorLoop b r runNumber start rounds) := by
  have hstate : Still (StationProg.call b.written
      (.recordExecutionState r.channel r.relayAddress "ACTIVE") :
        MonitorProg X MonitorLocals PUnit) := still_call fun _ ↦ ⟨⟨rfl, rfl, rfl⟩, rfl⟩
  refine .bind (still_logEvent _) fun _ ↦ .bind (still_logEvent _) fun _ ↦ ?_
  refine .bind (still_logEvent _) fun _ ↦ .bind hstate fun _ ↦ ?_
  exact still_monitorLoop r runNumber start rounds

/-- A session is under the guard. -/
theorem honest_monitorRun (r : MonitorRun) (rounds : ℕ) : Honest (monitorRun b r rounds) := by
  have hcall {op : Operation} (hslot : ∀ raised, (StationCall.call op raised).isSlot = false)
      (hopening : ∀ raised, (StationCall.call op raised).openingVerdict = none) :
      Calm (StationProg.call b.written op : MonitorProg X MonitorLocals PUnit) :=
    calm_call hslot hopening
  refine .bind (still_ask _ _).calm.honest fun runNumber ↦ ?_
  refine .bind (still_ask _ _).calm.honest fun start ↦ ?_
  refine (Calm.isolates ?_).honest_runGuarded
  refine .bind (hcall (fun _ ↦ rfl) fun _ ↦ rfl) fun _ ↦ ?_
  refine .bind (hcall (fun _ ↦ rfl) fun _ ↦ rfl) fun _ ↦ ?_
  exact (still_afterClose r runNumber start rounds).calm

/-- A session after which the loop moves on has ended safely. -/
theorem Honest.leaves_monitorResult {x : MonitorProg X L PUnit} (hx : Honest x) :
    Leaves (monitorResult x) := by
  intro s
  refine (post_bind _).mpr (post_attempt.mpr ((hx s).mono (fun _ t ht ↦ ?_) fun e t ht ↦ ?_))
  · exact ht.mono fun _ hnew ↦ hnew.securedIf
  · rw [post_ite]
    split
    · exact ht.mono fun _ hnew ↦ ⟨hnew.within, fun hmoves ↦ absurd (Or.inl rfl) hmoves⟩
    · refine ht.mono fun _ hnew ↦ ⟨hnew.within, fun hmoves ↦ hnew.safe ?_⟩
      rcases classifyPositionException_cases e with h | h
      · exact h
      · exact absurd (Or.inr h) hmoves

theorem Leaves.andThen {x : StationProg X PositionResult} {y : StationProg X PUnit}
    (hx : Leaves x) (hy : Calm y) :
    Leaves (do
      let result ← x
      y
      pure result) := by
  intro s
  refine (hx s).bind fun result t ht ↦ ?_
  refine (post_bind _).mpr ((hy t).mono (fun _ u hu ↦ ?_) fun _ u hu ↦ ?_)
  · exact ht.append hu fun _ _ hold hnew ↦ .append (Neutral.secured hnew).securedIf hold
  · exact ht.append hu fun _ _ hold hnew ↦ (Neutral.within hnew).append hold.within

theorem calm_startRunSummaryGuarded {st : Station X} (p : PositionRun) :
    Calm (startRunSummaryGuarded st p) := by
  refine Within.handle (.bind (calm_call (fun _ ↦ rfl) fun _ ↦ rfl) fun _ ↦ .pure _) fun e ↦ ?_
  exact .ite (.pure _) (.raise e)

theorem leaves_runOneMonitorPosition (p : MonitorPosition) (rounds : ℕ) :
    Leaves (runOneMonitorPosition b p rounds) := by
  have hcall {op : Operation} (hslot : ∀ raised, (StationCall.call op raised).isSlot = false)
      (hopening : ∀ raised, (StationCall.call op raised).openingVerdict = none) :
      Calm (StationProg.call b.written op : MonitorProg X MonitorLocals PUnit) :=
    calm_call hslot hopening
  refine (calm_startRunSummaryGuarded _).isolates.then_leaves fun started ↦
    .ite ?_ (Calm.isolates (.pure _)).leaves
  refine (calm_logEvents _).isolates.then_leaves fun _ ↦ ?_
  refine isolates_precheck.then_leaves fun found ↦ .ite ?_ (.ite ?_ ?_)
  · exact (Calm.isolates (.bind (calm_recordStationFault _ _) fun _ ↦ .pure _)).leaves
  · refine (still_assign _).calm.isolates.then_leaves fun _ ↦ ?_
    exact (honest_monitorRun p.session rounds).leaves_monitorResult.andThen
      (hcall (fun _ ↦ rfl) fun _ ↦ rfl)
  · refine (hcall (fun _ ↦ rfl) fun _ ↦ rfl).isolates.then_leaves fun _ ↦ ?_
    exact (hcall (fun _ ↦ rfl) fun _ ↦ rfl).isolates.then_leaves fun _ ↦
      (Calm.isolates (.pure _)).leaves

/-- **The loop, by induction on the positions.** Every slot begins after a safe end. -/
theorem moves_monitorPositions (config : ℕ → MonitorPosition) (rounds : ℕ) (positions : List ℕ)
    (s : StationSession (MonitorWorld X MonitorLocals)) (h : OnceVerified BetweenSlots s) :
    Post (monitorPositions b asks config rounds positions) (fun _ t ↦ OnceVerified InSlot t)
      (fun _ t ↦ OnceVerified InSlot t) s := by
  induction positions generalizing s with
  | nil => exact fun hverified ↦ (h hverified).toInSlot
  | cons position rest ih =>
    refine (post_bind _).mpr ?_
    change Post (if asks s.world.journal.world then _ else _) _ _ s
    rw [post_ite]
    split
    · exact fun hverified ↦ (h hverified).toInSlot
    · have hbegin {raised : Option Exc} {t : StationSession (MonitorWorld X MonitorLocals)}
          (ht : t.trace = .call .beginNewRunId raised :: s.trace) :
          OnceVerified BetweenSlots t := by
        intro hverified
        rw [ht, ← List.singleton_append] at hverified
        rw [ht]
        exact (h hverified.right).begin raised
      refine (post_bind _).mpr ((StationProg.post_call _ _ s).mono (fun _ t ht ↦ ?_)
        fun _ t ht hverified ↦ (hbegin ht hverified).toInSlot)
      have hinslot : OnceVerified InSlot t := fun hverified ↦ (hbegin ht hverified).toInSlot
      refine (post_bind _).mpr ((leaves_runOneMonitorPosition (config position) rounds t).mono
        (fun result u hu ↦ ?_) fun _ _ hu ↦ hinslot.within hu)
      rw [post_ite]
      split
      · exact hinslot.within (hu.mono fun _ hnew ↦ hnew.within)
      · -- the loop moves on
        next hmoves =>
        have hsecured : Adds Secured t u := hu.mono fun _ hnew ↦ ⟨hnew.within, hnew.safe hmoves⟩
        exact (post_bind _).mpr ((ih u ((hbegin ht).secured hsecured)).mono (fun _ _ hv ↦ hv)
          fun _ _ hv ↦ hv)

/-- **When a group that is monitored moves on safely.** In every run, whatever the bench does, a
relay is closed for a position only after the last attempt to turn the output off was verified and
the last opening of relays returned, if every `emergency_stop` for a fault of the battery under test
turned the output off and opened the relays, and no row of a failure raised such a fault. -/
theorem monitor_movesOnSafely (b : MonitorBench X) (asks : X → Bool) (g : MonitorGroup) (rounds : ℕ)
    (x : X) :
    Post (runMonitor b asks g rounds)
      (fun _ t ↦ StopsAreVerified t.trace → MovesOnSafely t.trace)
      (fun _ t ↦ StopsAreVerified t.trace → MovesOnSafely t.trace) (MonitorBench.begin x {}) := by
  have hnil : OnceVerified BetweenSlots (MonitorBench.begin x ({} : MonitorLocals)) := fun _ ↦
    ⟨⟨trivial, nofun, nofun⟩, nofun, nofun⟩
  have hbegin : StopsAreVerified (MonitorBench.begin x ({} : MonitorLocals)).trace →
      MovesOnSafely (MonitorBench.begin x ({} : MonitorLocals)).trace := fun _ ↦ trivial
  unfold runMonitor
  rw [post_ite]
  split
  · exact hbegin
  · cases g.config with
    | error e => exact hbegin
    | ok config =>
      refine (post_bind _).mpr ((moves_monitorPositions config rounds _ _ hnil).mono
        (fun _ _ ht hverified ↦ ?_) fun _ _ ht hverified ↦ (ht hverified).moves)
      exact (ht hverified).moves

end Moves

/-! ## A fault of the battery -/

/-- A call that raised nothing. -/
def StationCall.returned : StationCall → Bool
  | .call _ (some _) | .extraFields (some _) => false
  | _ => true

theorem StationCall.not_misleads_of_returned {c : StationCall} (h : c.returned = true) :
    ¬c.Misleads := by
  intro hmisleads
  unfold StationCall.Misleads at hmisleads
  split at hmisleads
  all_goals first | exact absurd h Bool.false_ne_true | exact hmisleads

theorem stopsAreVerified_of_verdicts {calls : List StationCall}
    (hrecorded : ∀ c ∈ calls, ¬c.Misleads) (houtput : false ∉ outputVerdicts calls)
    (hopening : false ∉ openingVerdicts calls) : StopsAreVerified calls where
  recorded := hrecorded
  stopped newer e older hsplit _ := by
    rw [hsplit, outputVerdicts_append] at houtput
    rw [hsplit, openingVerdicts_append] at hopening
    exact ⟨fun h ↦ houtput (List.mem_append_left _ (List.mem_of_getLast? h)),
      fun h ↦ hopening (List.mem_append_left _ (List.mem_of_getLast? h))⟩

/-- A bench on which everything works, and the batteries are too hot. -/
def hotBench : MonitorBench Unit where
  station :=
    { perform := fun _ x ↦ (none, x)
      read := fun _ x ↦ (.ok 4, x)
      emergencyOutputOff := fun _ x ↦ (true, x)
      sequence := fun _ x ↦ ((.completed, true), x)
      ntcVoltageToCelsius := fun _ ↦ some 75 }
  runNumber x := (.ok (some 1), x)
  recordCompleted _ _ x := (none, x)
  readChannel _ x := (.ok 4, x)
  recordMeasurement _ x := (none, x)
  renderFrame _ x := (none, x)
  interruptibleSleep _ x := (none, x)
  monotonic x := (0, x)

/-- A position with an NTC, whose battery may have sixty degrees. -/
def hotPosition (position : ℕ) : MonitorPosition :=
  { onePosition with
    position := position
    relayAddress := position
    size := 2
    hasNtcDaq := true
    ntcChannel := fun _ ↦ some "Dev1/ai1"
    batteryCfg := Dict.assign [("max_temp_c", 60)] Dict.empty
    batTempMaxC := 60
    relayName := "MATRIX_A"
    str := fun _ ↦ "60"
    round := id }

/-- A group of two of them. -/
def hotGroup : MonitorGroup where
  enabled := Dict.assign [(1, true), (2, true)] Dict.empty
  config := .ok hotPosition

/-- The first session ends in an `emergency_stop` that is verified, and the loop moves on. -/
theorem monitor_movesOnSafely_hotGroup :
    ∃ out t, runMonitor hotBench (fun _ ↦ false) hotGroup 1 (MonitorBench.begin () {}) = .ok out t ∧
      out.2 = [(1, .fail), (2, .fail)] ∧ outputVerdicts t.trace = [true, true] ∧
        StopsAreVerified t.trace ∧ MovesOnSafely t.trace := by
  have htest : (runMonitor hotBench (fun _ ↦ false) hotGroup 1 (MonitorBench.begin () {})).passes
      (fun out t ↦ out.2 == [(1, .fail), (2, .fail)] && outputVerdicts t.trace == [true, true] &&
        openingVerdicts t.trace == [true, true, true, true] &&
          t.trace.all StationCall.returned) = true := by
    decide +kernel
  obtain ⟨out, t, hrun, htest⟩ := Outcome.exists_of_passes htest
  obtain ⟨⟨⟨hresults, houtput⟩, hopening⟩, hreturned⟩ : ((_ ∧ _) ∧ _) ∧ _ := by
    simpa only [Bool.and_eq_true, beq_iff_eq] using htest
  have hstops : StopsAreVerified t.trace := by
    refine stopsAreVerified_of_verdicts (fun c hc ↦ ?_) ?_ ?_
    · exact StationCall.not_misleads_of_returned (List.all_eq_true.mp hreturned c hc)
    · rw [houtput]
      decide
    · rw [hopening]
      decide
  have hmoves : StopsAreVerified t.trace → MovesOnSafely t.trace := by
    -- a named bench keeps the elaborator from running the session
    generalize hotBench = b at hrun
    exact (post_of_ok hrun).mp (monitor_movesOnSafely b (fun _ ↦ false) hotGroup 1 ())
  exact ⟨out, t, hrun, hresults, houtput, hstops, hmoves hstops⟩

end Nipxi
