import Nipxi.TestControl.PresencePrecheck

/-!
# The positions of a group

`_run_one_charge_or_discharge_position` and the loop `_run_group_all_positions` around it, of
`test.py`. One position ends as passed, failed, skipped, cancelled or as a fault of the station;
the last two stop the loop.

Only what the sequence raises is classified. Every call before it, and every row written after
it, is outside the classifying `try`: a position is classified, with the row of its run finished,
exactly if all of these return and the sequence leaves its row finished.
-/

open Collections Effect

namespace Nipxi

/-! ## One position -/

/-- What `_run_one_charge_or_discharge_position` is called with. -/
structure PositionRun extends PrecheckRun where
  operation : String
  batteryType : String
  capacityAh : ℚ
  relayMatrixName : String
  smuName : String
  dmmName : String
  daqName : String
  ntcDaqName : Option String
  /-- The columns of the hardware snapshot that have a value. -/
  hardwareSnapshot : Dict String String

/-- One line of `hardware_traceability_messages`, for an instrument that is in the snapshot. -/
def instrumentMessage (snapshot : Dict String String) (role label : String) : Option String :=
  match snapshot.get? (role ++ "_name") with
  | none | some "" => none
  | some name =>
    let model := (snapshot.get? (role ++ "_model")).getD "?"
    let resource := (snapshot.get? (role ++ "_resource")).getD "?"
    some s!"{label} in use: {name} ({model}, {resource})"

/-- `hardware_traceability_messages`. -/
def hardwareTraceabilityMessages (snapshot : Dict String String) : List String :=
  [("smu", "SMU"), ("dmm", "DMM"), ("daq", "DAQ"), ("relay_matrix", "Relay matrix")].filterMap
    (fun role ↦ instrumentMessage snapshot role.1 role.2)
      ++ ["Hardware configuration snapshot recorded"]

/-- What is logged before the pre-check. -/
def traceabilityEntries (p : PositionRun) : List EventEntry :=
  let info (message : String) : EventEntry := { level := "INFO", message := message }
  [info "Run started", info s!"Operation selected: {p.operation}",
    info s!"Battery selected: {p.batteryType}",
    info s!"Battery capacity: {formatFixed 0 (p.capacityAh * 1000)} mAh",
    info s!"Group selected: {p.group}",
    { level := "INFO", channel := p.position, relay := p.relayAddress,
      message := s!"Position selected: {p.position} (Group {p.group} Position {p.position})" },
    info "Configuration snapshot recorded", info "Hardware assignment resolved",
    info s!"Relay matrix selected: {p.relayMatrixName}", info s!"SMU selected: {p.smuName}",
    info s!"DMM selected: {p.dmmName}", info s!"DAQ selected: {p.daqName}"] ++
    (p.ntcDaqName.map fun name ↦ info s!"NTC DAQ selected: {name}").toList ++
    info "Operator confirmed execution" ::
      (hardwareTraceabilityMessages p.hardwareSnapshot).map info

section Program

variable {X : Type} (st : Station X)

/-- `_start_run_summary_guarded`. -/
def startRunSummaryGuarded (p : PositionRun) : StationProg X Bool :=
  (do StationProg.call st (.startRunSummary p.source p.batteryType p.group p.position)
      pure true).handle fun e ↦
    if e.isInstance [.sqliteError] then pure false else Prog.raise e

/-- The rows that record a fault of the station. -/
def recordStationFault (p : PositionRun) (exception message : String) : StationProg X PUnit := do
  StationProg.call st (.recordExecutionState p.position p.relayAddress StopReason.stationFault.text)
  StationProg.call st (.finishRunSummary StopReason.stationFault.text "STATION_FAULT" [])
  StationProg.logEvent st
    { level := "ERROR", channel := p.position, relay := p.relayAddress,
      message := eventMessage "GROUP_RUN_ABORTED_STATION_FAULT"
        [("group", p.group), ("position", toString p.position), ("exception", exception),
          ("message", message)] }

/-- The `except` clauses around `sequence.run`. -/
def classifyEnd (p : PositionRun) : SequenceEnd → StationProg X PositionResult
  | .completed => pure .pass
  | .interrupted => pure .cancelled
  | .raised e =>
    if e.isInstance [.operationCancelledError] then pure .cancelled
    else if classifyPositionException e = .stationFault then do
      recordStationFault st p e.cls.pyName e.message
      pure .stationFault
    else pure (classifyPositionException e)

/-- `_run_one_charge_or_discharge_position`, for a sequence. -/
def runOnePosition (run : StationProg X SequenceEnd) (p : PositionRun) :
    StationProg X PositionResult := do
  let started ← startRunSummaryGuarded st p
  if started then do
    logEvents st (traceabilityEntries p)
    let found ← precheck st p.toPrecheckRun
    if found.stationFault then do
      recordStationFault st p "DAQError" "DAQ communication failure during NTC pre-check"
      pure .stationFault
    else if found.ok then do
      let ended ← run
      let result ← classifyEnd st p ended
      StationProg.call st .printPostRunSummary
      pure result
    else do
      StationProg.call st (.recordExecutionState p.position p.relayAddress "SAFETY_VIOLATION")
      StationProg.call st (.finishRunSummary "SAFETY_VIOLATION" "FAIL" [])
      pure .skipped
  else pure .fail

/-- `sequence.run`, whatever it does. -/
def runSequence (position : ℕ) : StationProg X SequenceEnd := fun s ↦
  let (ended, finished) := (st.sequence position s.world).1
  .ok ended (s.after (.sequence ended finished) (st.sequence position s.world).2)

end Program

/-! ## The loop -/

/-- The results that end a Group → ALL run. -/
def PositionResult.StopsRun (result : PositionResult) : Prop :=
  result = .cancelled ∨ result = .stationFault

instance (result : PositionResult) : Decidable result.StopsRun :=
  inferInstanceAs (Decidable (_ ∨ _))

/-- The text of a result. -/
def PositionResult.text : PositionResult → String
  | .pass => "PASS"
  | .fail => "FAIL"
  | .skipped => "SKIPPED"
  | .cancelled => "CANCELLED"
  | .stationFault => "STATION_FAULT"

/-- The event that closes a slot. -/
def PositionResult.slotEventType : PositionResult → String
  | .pass => "GROUP_SLOT_COMPLETED"
  | .skipped => "GROUP_SLOT_SKIPPED"
  | .fail | .cancelled | .stationFault => "GROUP_SLOT_FAILED"

/-- What `_run_group_all_positions` is called with. -/
structure GroupRun where
  group : String
  positions : List ℕ
  /-- The run of a position that is configured for the group. -/
  config : ℕ → Option PositionRun
  /-- Whether the group has a sense channel. -/
  hasSenseChannel : Bool

/-- The positions the loop does not pass over. -/
def GroupRun.configured (g : GroupRun) : List ℕ :=
  g.positions.filter fun position ↦ (g.config position).isSome

section Loop

variable {X : Type} (st : Station X) (run : PositionRun → StationProg X SequenceEnd)

/-- The loop, for the sequences of the positions. The positions of a group are the keys of a
dictionary, so that assigning a result appends it. -/
def runPositions (g : GroupRun) : List ℕ → StationProg X (List (ℕ × PositionResult))
  | [] => pure []
  | position :: rest =>
    match g.config position with
    | none => runPositions g rest
    | some p => do
      StationProg.call st .beginNewRunId
      StationProg.logEvent st
        { level := "INFO", channel := position, relay := p.relayAddress,
          message := eventMessage "GROUP_SLOT_STARTED"
            [("group", g.group), ("position", toString position)] }
      let result ← runOnePosition st (run p) p
      StationProg.logEvent st
        { level := if result = .pass ∨ result = .skipped then "INFO" else "ERROR",
          channel := position, relay := p.relayAddress,
          message := eventMessage result.slotEventType
            [("group", g.group), ("position", toString position), ("result", result.text)] }
      if result.StopsRun then pure [(position, result)]
      else do
        let results ← runPositions g rest
        pure ((position, result) :: results)

/-- How often a result occurs. -/
def countResults (results : List (ℕ × PositionResult)) (result : PositionResult) : String :=
  toString (results.countP fun r ↦ r.2 == result)

/-- Whether a result occurs. -/
def hasResult (results : List (ℕ × PositionResult)) (result : PositionResult) : String :=
  if result ∈ results.map Prod.snd then "True" else "False"

/-- The sense router is constructed and instrumented. -/
def startSenseRouter (g : GroupRun) : StationProg X PUnit :=
  if g.hasSenseChannel then StationProg.call st .instrumentSenseRouter else pure ⟨⟩

/-- The sense router is shut down; a failure is only printed. -/
def stopSenseRouter (g : GroupRun) : StationProg X PUnit :=
  if g.hasSenseChannel then
    (StationProg.call st .senseRouterShutdown).handle fun _ ↦ pure ⟨⟩
  else pure ⟨⟩

/-- The body of the `try` of `_run_group_all_positions`. -/
def runGroupBody (g : GroupRun) : StationProg X (List (ℕ × PositionResult)) := do
  startSenseRouter st g
  StationProg.logEvent st
    { level := "INFO",
      message := eventMessage "GROUP_RUN_STARTED"
        [("group", g.group), ("positions", toString g.positions.length)] }
  let results ← runPositions st run g g.positions
  StationProg.logEvent st
    { level := "INFO",
      message := eventMessage "GROUP_RUN_COMPLETED"
        [("group", g.group), ("processed", toString results.length),
          ("passed", countResults results .pass), ("failed", countResults results .fail),
          ("skipped", countResults results .skipped),
          ("cancelled", hasResult results .cancelled),
          ("station_fault", hasResult results .stationFault)] }
  pure results

/-- `_run_group_all_positions`, and its `results`. -/
def runGroupAllPositions (g : GroupRun) : StationProg X (List (ℕ × PositionResult)) :=
  (runGroupBody st run g).ensuring (stopSenseRouter st g)

end Loop

/-! ## What a position promises -/

/-- An entry after which the row of the run is finished. -/
def StationCall.Finishes : StationCall → Prop
  | .call (.finishRunSummary _ _ _) none | .sequence _ true => True
  | _ => False

/-- `sequence.run` raised what is classified as a fault of the station. -/
def SequenceEnd.IsStationFault : SequenceEnd → Prop
  | .raised e => ¬e.isInstance [.operationCancelledError] = true ∧
      classifyPositionException e = .stationFault
  | _ => False

/-- An entry that leaves a position without a finished row: the row could not be started, or the
sequence left it unfinished and its end is not recorded as a fault of the station. -/
def StationCall.LeavesOpen : StationCall → Prop
  | .call (.startRunSummary _ _ _ _) (some _) => True
  | .sequence ended false => ¬ended.IsStationFault
  | _ => False

/-- A relay fault of the pre-check. -/
def StationCall.IsRelayFault : StationCall → Prop
  | .call (.relayClose _) (some e) | .call (.relayOpen _) (some e) =>
    e.isInstance [.relayError] = true
  | _ => False

/-- The row of the run was finished. -/
def RowFinished (new : List StationCall) : Prop := ∃ c ∈ new, c.Finishes

/-- What a position promises that returns a result: its row is finished, and a relay fault is a
fault of the station. -/
def KeepsPositionPromise (new : List StationCall) (result : PositionResult) : Prop :=
  RowFinished new ∧ ((∃ c ∈ new, c.IsRelayFault) → result = .stationFault)

/-- Every call outside the classifying `try` is caught or returns, and the row of the run is
started and left finished by the sequence. -/
def PositionBehaves (new : List StationCall) : Prop := ∀ c ∈ new, ¬c.Uncaught ∧ ¬c.LeavesOpen

theorem StationCall.IsRelayFault.uncaught {c : StationCall} (h : c.IsRelayFault) :
    c.Uncaught := by
  unfold IsRelayFault at h
  split at h
  · trivial
  · trivial
  · exact absurd h id

theorem StationCall.IsPreparation.not_finishes {c : StationCall} (h : c.IsPreparation) :
    ¬c.Finishes := by
  unfold Finishes
  split
  · exact absurd h id
  · exact absurd h id
  · exact id

theorem StationCall.IsPreparation.not_leavesOpen {c : StationCall} (h : c.IsPreparation) :
    ¬c.LeavesOpen := by
  unfold LeavesOpen
  split
  · exact absurd h id
  · exact absurd h id
  · exact id

theorem rowFinished_append {new old : List StationCall} :
    RowFinished (new ++ old) ↔ RowFinished new ∨ RowFinished old := by
  simp only [RowFinished, List.mem_append, or_and_right, exists_or]

/-- Nothing is uncaught, and the row is finished unless an entry leaves it open. -/
def Accounts (new : List StationCall) : Prop :=
  (∀ c ∈ new, ¬c.Uncaught) ∧ (RowFinished new ↔ ∀ c ∈ new, ¬c.LeavesOpen)

/-- Where nothing is uncaught there is no relay fault to classify. -/
theorem Accounts.keepsPositionPromise_iff {new : List StationCall} (h : Accounts new)
    (result : PositionResult) : KeepsPositionPromise new result ↔ PositionBehaves new := by
  have hrelay : ¬∃ c ∈ new, c.IsRelayFault := fun ⟨c, hc, hfault⟩ ↦ h.1 c hc hfault.uncaught
  have hbehaves : PositionBehaves new ↔ ∀ c ∈ new, ¬c.LeavesOpen :=
    ⟨fun hall c hc ↦ (hall c hc).2, fun hall c hc ↦ ⟨h.1 c hc, hall c hc⟩⟩
  rw [hbehaves, ← h.2]
  exact ⟨And.left, fun hfinished ↦ ⟨hfinished, fun hex ↦ absurd hex hrelay⟩⟩

/-- Entries that neither finish the row nor go wrong. -/
def Begun (old : List StationCall) : Prop :=
  ∀ c ∈ old, ¬c.Finishes ∧ ¬c.Uncaught ∧ ¬c.LeavesOpen

theorem Begun.append {new old : List StationCall} (hnew : Begun new) (hold : Begun old) :
    Begun (new ++ old) := fun c hc ↦ (List.mem_append.mp hc).elim (hnew c) (hold c)

theorem begun_of_faultless {new : List StationCall}
    (h : Faultless StationCall.IsPreparation StationCall.Uncaught new) : Begun new :=
  fun c hc ↦ ⟨(h c hc).1.not_finishes, (h c hc).2, (h c hc).1.not_leavesOpen⟩

theorem Begun.not_rowFinished {old : List StationCall} (h : Begun old) : ¬RowFinished old :=
  fun ⟨c, hc, hfinishes⟩ ↦ (h c hc).1 hfinishes

theorem Accounts.begun {new old : List StationCall} (h : Accounts new) (hold : Begun old) :
    Accounts (new ++ old) := by
  refine ⟨fun c hc ↦ (List.mem_append.mp hc).elim (h.1 c) fun hc ↦ (hold c hc).2.1, ?_⟩
  rw [rowFinished_append, or_iff_left hold.not_rowFinished, h.2, List.forall_mem_append]
  exact ⟨fun hall ↦ ⟨hall, fun c hc ↦ (hold c hc).2.2⟩, And.left⟩

theorem Begun.accounts {new old : List StationCall} (hnew : Begun new) (h : Accounts old) :
    Accounts (new ++ old) := by
  refine ⟨fun c hc ↦ (List.mem_append.mp hc).elim (fun hc ↦ (hnew c hc).2.1) (h.1 c), ?_⟩
  rw [rowFinished_append, or_iff_right hnew.not_rowFinished, h.2, List.forall_mem_append]
  exact ⟨fun hall ↦ ⟨fun c hc ↦ (hnew c hc).2.2, hall⟩, And.right⟩

theorem Accounts.of_finished {new : List StationCall} (hfinished : RowFinished new)
    (h : PositionBehaves new) : Accounts new :=
  ⟨fun c hc ↦ (h c hc).1, iff_of_true hfinished fun c hc ↦ (h c hc).2⟩

/-! ## One position, call by call -/

section Position

variable {X : Type} {st : Station X} {p : PositionRun}

/-- From the first state to the second something was begun. -/
abbrev Begins (s t : StationSession X) : Prop := Added StationSession.trace Begun s t

/-- From the first state to the second a call was uncaught. -/
abbrev Escapes (s t : StationSession X) : Prop :=
  Added StationSession.trace (∃ c ∈ ·, c.Uncaught) s t

theorem Escapes.after {P : List StationCall → Prop} {s t u : StationSession X}
    (h' : Escapes t u) (h : Added StationSession.trace P s t) : Escapes s u :=
  h.append h' fun old _ _ ⟨c, hc, huncaught⟩ ↦ ⟨c, List.mem_append_left old hc, huncaught⟩

theorem Begins.accounts {s t u : StationSession X} (h : Begins s t)
    (h' : Added StationSession.trace Accounts t u) : Added StationSession.trace Accounts s u :=
  h.append h' fun _ _ hold hnew ↦ hnew.begun hold

theorem Begins.prepares {α : Type} {x : StationProg X α} (hx : Prepares x)
    {s t : StationSession X} (h : Begins s t) :
    Post x (fun _ u ↦ Begins s u) (fun _ u ↦ Escapes s u) t :=
  (hx t).mono
    (fun _ _ h' ↦ h.append h' fun _ _ hold hnew ↦ (begun_of_faultless hnew).append hold)
    fun _ _ h' ↦ Escapes.after (h'.mono fun _ hnew ↦ hnew.2) h

theorem prepares_logEvents (entries : List EventEntry) : Prepares (logEvents st entries) := by
  induction entries with
  | nil => exact .pure _
  | cons entry rest ih => exact .bind (prepares_logEvent entry) fun _ ↦ ih

/-- A call that raises escapes, if nothing catches what it raised. -/
theorem escapes_call {op : Operation} {e : Exc} {s t : StationSession X}
    (ht : t.trace = .call op (some e) :: s.trace)
    (h : StationCall.Uncaught (.call op (some e))) : Escapes s t :=
  ⟨[.call op (some e)], ht, _, List.mem_singleton_self _, h⟩

/-- The row of the run is started, or the database refused it. -/
theorem post_startRunSummaryGuarded (s : StationSession X) :
    Post (startRunSummaryGuarded st p)
      (fun started t ↦ if started then Begins s t else Added StationSession.trace Accounts s t)
      (fun _ t ↦ Escapes s t) s := by
  rw [startRunSummaryGuarded, post_handle, post_bind]
  refine (StationProg.post_call st _ s).mono (fun _ t ht ↦ ?_) fun e t ht ↦ ?_
  · rw [post_pure, if_pos rfl]
    refine ⟨_ :: [], ht, fun c hc ↦ ?_⟩
    rw [List.mem_singleton.mp hc]
    exact ⟨id, id, id⟩
  · rw [post_ite]
    split
    · next he =>
      rw [post_pure, if_neg Bool.false_ne_true]
      refine ⟨_ :: [], ht, fun c hc ↦ ?_, iff_of_false ?_ fun hall ↦ ?_⟩
      · rw [List.mem_singleton.mp hc]
        exact fun hnot ↦ hnot he
      · rintro ⟨c, hc, hfinishes⟩
        rw [List.mem_singleton.mp hc] at hfinishes
        exact hfinishes
      · exact hall _ (List.mem_singleton_self _) trivial
    · next he => exact escapes_call ht he

/-- Writing the last rows of a run: before and after the finished row there are only
preparations. -/
theorem post_finish {α : Type} {before : StationProg X PUnit} {after : StationProg X α}
    (hb : Prepares before) (ha : Prepares after) (stopReason result : String)
    (fields : List (String × FieldValue)) (s : StationSession X) :
    Post (do before; StationProg.call st (.finishRunSummary stopReason result fields); after)
      (fun _ t ↦ Added StationSession.trace (fun new ↦ RowFinished new ∧ PositionBehaves new) s t)
      (fun _ t ↦ Escapes s t) s := by
  have hnil : Begins s s := ⟨[], rfl, List.forall_mem_nil _⟩
  refine (hnil.prepares hb).bind fun _ t ht ↦ ?_
  refine (post_bind _).mpr ((StationProg.post_call st _ t).mono (fun _ u hu ↦ ?_) fun e u hu ↦ ?_)
  · refine (ha u).mono (fun _ v hv ↦ ?_) fun e v hv ↦ ?_
    · obtain ⟨old, hold, hbegun⟩ := ht
      obtain ⟨new, hnew, hfaultless⟩ := hv
      have hbegun' := begun_of_faultless hfaultless
      refine ⟨new ++ .call (.finishRunSummary stopReason result fields) none :: old, ?_, ?_, ?_⟩
      · rw [hnew, hu, hold, List.append_assoc, List.cons_append]
      · exact ⟨_, List.mem_append_right new List.mem_cons_self, trivial⟩
      · intro c hc
        rcases List.mem_append.mp hc with hc | hc
        · exact (hbegun' c hc).2
        · rcases List.mem_cons.mp hc with rfl | hc
          · exact ⟨id, id⟩
          · exact (hbegun c hc).2
    · obtain ⟨new, hnew, -, c, hc, huncaught⟩ := hv
      refine Escapes.after ⟨new ++ [.call (.finishRunSummary stopReason result fields) none], ?_, c,
        List.mem_append_left _ hc, huncaught⟩ ht
      rw [hnew, hu, List.append_assoc, List.singleton_append]
  · exact (escapes_call hu trivial).after ht

theorem prepares_recordExecutionState (channel relay : ℕ) (state : String) :
    Prepares (StationProg.call st (.recordExecutionState channel relay state)) :=
  StationProg.attributed_call (fun _ ↦ trivial) id fun _ ↦ trivial

theorem prepares_printPostRunSummary : Prepares (StationProg.call st .printPostRunSummary) :=
  StationProg.attributed_call (fun _ ↦ trivial) id fun _ ↦ trivial

theorem post_recordStationFault (exception message : String) (s : StationSession X) :
    Post (recordStationFault st p exception message)
      (fun _ t ↦ Added StationSession.trace (fun new ↦ RowFinished new ∧ PositionBehaves new) s t)
      (fun _ t ↦ Escapes s t) s :=
  post_finish (prepares_recordExecutionState _ _ _) (prepares_logEvent _) _ _ _ s

theorem post_classifyEnd (ended : SequenceEnd) (s : StationSession X) :
    Post (classifyEnd st p ended)
      (fun _ t ↦ Added StationSession.trace
        (fun new ↦ PositionBehaves new ∧ (RowFinished new ↔ ended.IsStationFault)) s t)
      (fun _ t ↦ Escapes s t) s := by
  have hnothing (h : ¬ended.IsStationFault) : Added StationSession.trace
      (fun new ↦ PositionBehaves new ∧ (RowFinished new ↔ ended.IsStationFault)) s s :=
    ⟨[], rfl, List.forall_mem_nil _, iff_of_false (fun ⟨_, hc, _⟩ ↦ List.not_mem_nil hc) h⟩
  cases ended with
  | completed => exact hnothing id
  | interrupted => exact hnothing id
  | raised e =>
    rw [classifyEnd, post_ite]
    split
    · next hcancelled => exact hnothing fun h ↦ h.1 hcancelled
    · next hcancelled =>
      rw [post_ite]
      split
      · next hstation =>
        refine (post_recordStationFault _ _ s).bind fun _ t ht ↦ ?_
        exact ht.mono fun _ h ↦ ⟨h.2, iff_of_true h.1 ⟨hcancelled, hstation⟩⟩
      · next hstation => exact hnothing fun h ↦ hstation h.2

theorem post_runSequence (position : ℕ) (s : StationSession X) :
    Post (runSequence st position)
      (fun ended t ↦ ∃ finished, t.trace = .sequence ended finished :: s.trace)
      (fun _ _ ↦ False) s :=
  ⟨_, rfl⟩

theorem accounts_sequence {ended : SequenceEnd} {finished : Bool} {s t u : StationSession X}
    (ht : t.trace = .sequence ended finished :: s.trace)
    (hu : Added StationSession.trace
      (fun new ↦ PositionBehaves new ∧ (RowFinished new ↔ ended.IsStationFault)) t u) :
    Added StationSession.trace Accounts s u := by
  obtain ⟨new, hnew, hbehaves, hfinished⟩ := hu
  have hone : RowFinished [.sequence ended finished] ↔ finished = true := by
    simp only [RowFinished, List.mem_singleton, exists_eq_left]
    cases finished <;> simp [StationCall.Finishes]
  have hopen : StationCall.LeavesOpen (.sequence ended finished) ↔
      ¬(ended.IsStationFault ∨ finished = true) := by
    cases finished <;> simp [StationCall.LeavesOpen]
  refine ⟨new ++ [.sequence ended finished], ?_, fun c hc ↦ ?_, ?_⟩
  · rw [hnew, ht, List.append_assoc, List.singleton_append]
  · rcases List.mem_append.mp hc with hc | hc
    · exact (hbehaves c hc).1
    · rw [List.mem_singleton.mp hc]
      exact id
  · rw [rowFinished_append, hfinished, hone, List.forall_mem_append, List.forall_mem_singleton,
      hopen, not_not]
    exact ⟨fun h ↦ ⟨fun c hc ↦ (hbehaves c hc).2, h⟩, And.right⟩

/-- **One position.** It raises only where a call is uncaught, and where it returns its row is
finished unless an entry left it open. -/
theorem post_runOnePosition (position : ℕ) (s : StationSession X) :
    Post (runOnePosition st (runSequence st position) p)
      (fun _ t ↦ Added StationSession.trace Accounts s t) (fun _ t ↦ Escapes s t) s := by
  rw [runOnePosition, post_bind]
  refine (post_startRunSummaryGuarded s).mono (fun started t ht ↦ ?_) fun _ _ h ↦ h
  cases started with
  | false => exact ht
  | true =>
    replace ht : Begins s t := ht
    refine (ht.prepares (prepares_logEvents _)).bind fun _ u hu ↦ ?_
    refine (hu.prepares prepares_precheck).bind fun found v hv ↦ ?_
    rw [post_ite, post_ite]
    split
    · -- the DAQ did not answer for this position
      refine (post_bind _).mpr ((post_recordStationFault _ _ v).mono (fun _ w hw ↦ ?_)
        fun _ _ h ↦ h.after hv)
      exact hv.accounts (hw.mono fun _ h ↦ .of_finished h.1 h.2)
    · split
      · refine (post_bind _).mpr ((post_runSequence position v).mono ?_ nofun)
        rintro ended w ⟨finished, hw⟩
        refine (post_bind _).mpr ((post_classifyEnd ended w).mono (fun _ x hx ↦ ?_) fun _ x hx ↦ ?_)
        · have hdone := accounts_sequence hw hx
          refine (post_bind _).mpr ((prepares_printPostRunSummary x).mono (fun _ y hy ↦ ?_)
            fun e y hy ↦ ?_)
          · exact hv.accounts (hdone.append hy fun _ _ hold hnew ↦
              (begun_of_faultless hnew).accounts hold)
          · exact ((Escapes.after (hy.mono fun _ hnew ↦ hnew.2)) hdone).after hv
        · exact (hx.after (P := fun _ ↦ True) ⟨[_], hw, trivial⟩).after hv
      · refine (post_finish (prepares_recordExecutionState _ _ _) (.pure _) _ _ _ v).mono
          (fun _ w hw ↦ ?_) fun _ _ h ↦ h.after hv
        exact hv.accounts (hw.mono fun _ h ↦ .of_finished h.1 h.2)

end Position

/-! ## The loop, position by position -/

/-- The results are those of the positions up to and including the first that stops the run, or of
all if none does. -/
inductive UpToFirstStop : List ℕ → List (ℕ × PositionResult) → Prop
  | nil : UpToFirstStop [] []
  | stop {position : ℕ} {rest : List ℕ} {result : PositionResult} (h : result.StopsRun) :
      UpToFirstStop (position :: rest) [(position, result)]
  | next {position : ℕ} {rest : List ℕ} {result : PositionResult}
      {results : List (ℕ × PositionResult)} (h : ¬result.StopsRun)
      (hrest : UpToFirstStop rest results) :
      UpToFirstStop (position :: rest) ((position, result) :: results)

/-- Every call outside the classifying `try` is caught or returns. -/
def CallsReturn (new : List StationCall) : Prop := ∀ c ∈ new, ¬c.Uncaught

section Loop

variable {X : Type} {st : Station X} {run : PositionRun → StationProg X SequenceEnd}

/-- `x` raises exactly if a call of it is uncaught. -/
abbrev Reports {α : Type} (x : StationProg X α) : Prop :=
  Attributed StationSession.trace (fun _ ↦ True) StationCall.Uncaught x

theorem reports_logEvent (entry : EventEntry) : Reports (StationProg.logEvent st entry) :=
  StationProg.attributed_call (fun _ ↦ trivial) id fun _ ↦ trivial

theorem reports_runOnePosition (p : PositionRun) (position : ℕ) :
    Reports (runOnePosition st (runSequence st position) p) := fun s ↦
  (post_runOnePosition position s).mono
    (fun _ _ h ↦ h.mono fun _ hnew c hc ↦ ⟨trivial, hnew.1 c hc⟩)
    fun _ _ h ↦ h.mono fun _ hnew ↦ ⟨fun _ _ ↦ trivial, hnew⟩

theorem reports_runPositions (hrun : ∀ p, Reports (runOnePosition st (run p) p)) (g : GroupRun)
    (positions : List ℕ) : Reports (runPositions st run g positions) := by
  induction positions with
  | nil => exact .pure _
  | cons position rest ih =>
    unfold runPositions
    cases g.config position with
    | none => exact ih
    | some p =>
      have hbegin : Reports (StationProg.call st .beginNewRunId) :=
        StationProg.attributed_call (fun _ ↦ trivial) id fun _ ↦ trivial
      refine .bind hbegin fun _ ↦ .bind (reports_logEvent _) fun _ ↦ ?_
      refine .bind (hrun p) fun result ↦ .bind (reports_logEvent _) fun _ ↦ ?_
      exact .ite (.pure _) (.bind ih fun _ ↦ .pure _)

theorem upToFirstStop_runPositions (g : GroupRun) (positions : List ℕ) (s : StationSession X) :
    Post (runPositions st run g positions)
      (fun results _ ↦
        UpToFirstStop (positions.filter fun position ↦ (g.config position).isSome) results)
      (fun _ _ ↦ True) s := by
  induction positions generalizing s with
  | nil => exact UpToFirstStop.nil
  | cons position rest ih =>
    rw [List.filter_cons]
    unfold runPositions
    cases g.config position with
    | none => exact ih s
    | some p =>
      -- only the result of the position and of the rest of the loop matter
      refine (post_bind _).mpr (.of_forall (fun _ _ ↦ ?_) fun _ _ ↦ trivial)
      refine (post_bind _).mpr (.of_forall (fun _ _ ↦ ?_) fun _ _ ↦ trivial)
      refine (post_bind _).mpr (.of_forall (fun result _ ↦ ?_) fun _ _ ↦ trivial)
      refine (post_bind _).mpr (.of_forall (fun _ t ↦ ?_) fun _ _ ↦ trivial)
      rw [post_ite]
      split
      · next hstops => exact .stop hstops
      · next hstops =>
        refine (ih t).bind fun results _ hresults ↦ ?_
        exact .next hstops hresults

theorem reports_runGroupAllPositions (hrun : ∀ p, Reports (runOnePosition st (run p) p))
    (g : GroupRun) : Reports (runGroupAllPositions st run g) := by
  have hinstrument : Reports (StationProg.call st .instrumentSenseRouter) :=
    StationProg.attributed_call (fun _ ↦ trivial) id fun _ ↦ trivial
  have hshutdown : Reports ((StationProg.call st .senseRouterShutdown).handle fun _ ↦ pure ⟨⟩) :=
    (StationProg.quiet_call fun _ ↦ ⟨trivial, id⟩).handle fun _ ↦ .pure _
  refine Attributed.ensuring ?_ (.ite hshutdown (.pure _))
  refine .bind (.ite hinstrument (.pure _)) fun _ ↦ .bind (reports_logEvent _) fun _ ↦ ?_
  exact .bind (reports_runPositions hrun g _) fun _ ↦ .bind (reports_logEvent _) fun _ ↦ .pure _

theorem upToFirstStop_runGroupBody (g : GroupRun) (s : StationSession X) :
    Post (runGroupBody st run g) (fun results _ ↦ UpToFirstStop g.configured results)
      (fun _ _ ↦ True) s := by
  refine (post_bind _).mpr (.of_forall (fun _ _ ↦ ?_) fun _ _ ↦ trivial)
  refine (post_bind _).mpr (.of_forall (fun _ t ↦ ?_) fun _ _ ↦ trivial)
  refine (upToFirstStop_runPositions g g.positions t).bind fun results _ hresults ↦ ?_
  exact (post_bind _).mpr (.of_forall (fun _ _ ↦ hresults) fun _ _ ↦ trivial)

theorem upToFirstStop_runGroupAllPositions (g : GroupRun) (s : StationSession X) :
    Post (runGroupAllPositions st run g) (fun results _ ↦ UpToFirstStop g.configured results)
      (fun _ _ ↦ True) s := by
  rw [runGroupAllPositions, post_ensuring]
  refine (upToFirstStop_runGroupBody g s).mono (fun _ _ hresults ↦ ?_) fun _ _ _ ↦ ?_
  · exact .of_forall (fun _ _ ↦ hresults) fun _ _ ↦ trivial
  · exact .of_forall (fun _ _ ↦ trivial) fun _ _ ↦ trivial

/-- **When positions are classified.** A position returns with its row finished, and with its
relay faults as faults of the station, exactly if every call outside the classifying `try` is
caught or returns, its row could be started, and the sequence left the row finished unless its
end is a fault of the station. The loop returns the results of the positions up to the first that
stops it exactly if every call outside is caught or returns. -/
theorem classified_iff (st : Station X) (s : StationSession X) :
    (∀ p : PositionRun, Post (runOnePosition st (runSequence st p.position) p)
      (fun result t ↦ Added StationSession.trace
        (fun new ↦ KeepsPositionPromise new result ↔ PositionBehaves new) s t)
      (fun _ t ↦ Added StationSession.trace (fun new ↦ ¬PositionBehaves new) s t) s) ∧
    ∀ g : GroupRun, Post (runGroupAllPositions st (fun p ↦ runSequence st p.position) g)
      (fun results t ↦ UpToFirstStop g.configured results ∧
        Added StationSession.trace CallsReturn s t)
      (fun _ t ↦ Added StationSession.trace (fun new ↦ ¬CallsReturn new) s t) s := by
  refine ⟨fun p ↦ ?_, fun g ↦ ?_⟩
  · refine (post_runOnePosition p.position s).mono (fun result _ h ↦ ?_) fun _ _ h ↦ ?_
    · exact h.mono fun _ hnew ↦ hnew.keepsPositionPromise_iff result
    · exact h.mono fun _ ⟨c, hc, huncaught⟩ hall ↦ (hall c hc).1 huncaught
  · have hreports := reports_runGroupAllPositions
      (fun p ↦ (reports_runOnePosition p p.position : Reports (runOnePosition st _ p))) g
    refine ((upToFirstStop_runGroupAllPositions g s).and (hreports s)).mono
      (fun _ _ h ↦ ⟨h.1, ?_⟩) fun _ _ h ↦ ?_
    · exact h.2.mono fun _ hnew c hc ↦ (hnew c hc).2
    · exact h.2.mono fun _ ⟨_, c, hc, huncaught⟩ hall ↦ hall c hc huncaught

end Loop

/-! ## A relay fault in the pre-check -/

/-- A station whose relay cannot be verified closed. -/
def faultyRelay : Station Unit where
  perform op x :=
    match op with
    | .relayClose _ => (some ⟨.relayError, "relay 1 did not close"⟩, x)
    | _ => (none, x)
  read _ x := (.ok 0, x)
  emergencyOutputOff _ x := (true, x)
  sequence _ x := ((.completed, true), x)
  ntcVoltageToCelsius _ := none

/-- A position without an NTC DAQ. -/
def onePosition : PositionRun where
  group := "A"
  size := 1
  position := 1
  relayAddress := 1
  source := "charge_battery"
  measurementTestType := "charge"
  hasNtcDaq := false
  ntcChannel _ := none
  operation := "Charge Battery"
  batteryType := "NMC"
  capacityAh := 5
  relayMatrixName := "MATRIX_A"
  smuName := "SMU"
  dmmName := "DMM"
  daqName := "DAQ"
  ntcDaqName := none
  hardwareSnapshot := Dict.empty

/-- The relay fault leaves the position unclassified and its row unfinished. -/
theorem not_classified_faultyRelay :
    ¬∀ (X : Type) (st : Station X) (p : PositionRun) (s : StationSession X),
      Post (runOnePosition st (runSequence st p.position) p)
        (fun result t ↦ Added StationSession.trace (KeepsPositionPromise · result) s t)
        (fun _ _ ↦ False) s := by
  have hraised : ((runOnePosition faultyRelay (runSequence faultyRelay onePosition.position)
      onePosition ⟨(), []⟩).thrown.map fun _ ↦ ()) = some () := by decide +kernel
  simp only [not_forall]
  exact ⟨Unit, faultyRelay, onePosition, ⟨(), []⟩, not_post_of_thrown hraised⟩

end Nipxi
