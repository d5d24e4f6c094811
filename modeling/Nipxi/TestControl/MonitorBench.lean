import Nipxi.Effect.Journal
import Nipxi.Effect.Lens
import Nipxi.TestControl.Traversal

/-!
# The bench of the monitoring sequences

`MonitorBatterySequence` and `MonitorBatteryScanSequence` ask a station for what the other sequences
ask it for, and besides write rows with more columns, read a DAQ channel, render a frame, sleep and
look at the clock. A bench does all of this, and keeps a journal of every call in order: the calls
of `run_guarded` too, since the guard runs on the station of the bench.

`WindsUp` is what the guard does to the journal after an exception: it writes rows and shuts down,
and opens all relays exactly if every row could be written (`settles_handler`).
-/

open Collections Effect

namespace Nipxi

/-! ## The journal -/

/-- What `record_measurement` is given by a monitoring sequence. -/
structure MonitorRow where
  groupName : Option String
  positionInGroup : ℕ
  testType : String
  channel : ℕ
  relay : ℕ
  phaseDetail : String
  voltageV : ℚ
  voltageMinV : Option ℚ := none
  voltageMaxV : Option ℚ := none
  daqChannel0Raw : Option ℚ := none
  tempC : Option ℚ := none
  dmmMeasuredV : Option ℚ := none
  deriving DecidableEq

/-- What `_render_frame` is given by a monitoring sequence. -/
structure MonitorFrame where
  testType : String
  channel : ℕ
  relayAddress : ℕ
  runNumber : Option ℕ
  state : String
  phaseDetail : String
  elapsedS : ℚ
  batteryVoltage : ℚ
  batteryTemp : Option ℚ := none
  daqChannel0Raw : Option ℚ := none
  batteryType : Option String := none
  group : Option String := none
  positionInGroup : Option ℕ := none
  relayState : Option String := none
  currentStep : Option String := none
  scanProgress : Option String := none
  dwellProgress : Option String := none
  dwellRemainingS : Option ℚ := none
  deriving DecidableEq

/-- A call, and the way it ended. -/
inductive MonitorEntry where
  | station (op : Operation) (raised : Option Exc)
  | measured (reading : Reading) (result : Except Exc ℚ)
  /-- `emergency_output_off(reason)` returned. -/
  | outputOff (reason : String) (verified : Bool)
  /-- `_run_number`. -/
  | runNumber (result : Except Exc (Option ℕ))
  /-- `record_execution_state` of a completed run, which may be one of no relay. -/
  | recordCompleted (channel relay : Option ℕ) (raised : Option Exc)
  /-- `daq.read_channel`. -/
  | readChannel (channel : String) (result : Except Exc ℚ)
  | recordMeasurement (row : MonitorRow) (raised : Option Exc)
  | renderFrame (frame : MonitorFrame) (raised : Option Exc)
  /-- `interruptible_sleep`. -/
  | sleep (seconds : ℚ) (raised : Option Exc)
  /-- `time.monotonic()`. -/
  | clock (now : ℚ)

/-- The entry of a call of the station. Its other entries say what was done with an exception. -/
def MonitorEntry.ofStation : StationCall → Option MonitorEntry
  | .call op raised => some (.station op raised)
  | .read reading result => some (.measured reading result)
  | .outputOff reason verified => some (.outputOff reason verified)
  | .extraFields _ | .emergencyStop _ | .safeCancelShutdown _ | .sequence _ _ => none

/-! ## The bench -/

/-- A bench over worlds `X`. Every call may return or raise. -/
structure MonitorBench (X : Type) where
  station : Station X
  runNumber : X → Except Exc (Option ℕ) × X
  recordCompleted : Option ℕ → Option ℕ → X → Option Exc × X
  readChannel : String → X → Except Exc ℚ × X
  recordMeasurement : MonitorRow → X → Option Exc × X
  renderFrame : MonitorFrame → X → Option Exc × X
  interruptibleSleep : ℚ → X → Option Exc × X
  monotonic : X → ℚ × X

variable {X L : Type}

/-- A world with its journal, and the local variables `L` of a sequence. -/
structure MonitorWorld (X L : Type) where
  journal : Journal X MonitorEntry
  locals : L

/-- Programs on a bench. -/
abbrev MonitorProg (X L α : Type) := StationProg (MonitorWorld X L) α

/-- The world after a call. -/
def MonitorWorld.after (w : MonitorWorld X L) (entry : MonitorEntry) (world : X) :
    MonitorWorld X L :=
  { w with journal := ⟨world, entry :: w.journal.entries⟩ }

/-- What has been asked of the bench, newest first. -/
def entries (s : StationSession (MonitorWorld X L)) : List MonitorEntry :=
  s.world.journal.entries

namespace MonitorBench

/-- A session in which nothing has been asked. -/
def begin (x : X) (locals : L) : StationSession (MonitorWorld X L) := ⟨⟨⟨x, []⟩, locals⟩, []⟩

variable (b : MonitorBench X)

/-- The station of the bench, whose calls are entered in the journal. -/
def written : Station (MonitorWorld X L) where
  perform op w :=
    let (raised, world) := b.station.perform op w.journal.world
    (raised, w.after (.station op raised) world)
  read reading w :=
    let (result, world) := b.station.read reading w.journal.world
    (result, w.after (.measured reading result) world)
  emergencyOutputOff reason w :=
    let (verified, world) := b.station.emergencyOutputOff reason w.journal.world
    (verified, w.after (.outputOff reason verified) world)
  sequence position w :=
    let (ended, world) := b.station.sequence position w.journal.world
    (ended, { w with journal := { w.journal with world := world } })
  ntcVoltageToCelsius := b.station.ntcVoltageToCelsius

/-- The journal in a session. -/
def journalLens : Lens (StationSession (MonitorWorld X L)) (Journal X MonitorEntry) where
  get s := s.world.journal
  set j s := { s with world := { s.world with journal := j } }
  get_set _ _ := rfl
  set_get _ := rfl
  set_set _ _ _ := rfl

/-- A call with a result that is none of the station. -/
def ask {α : Type} (f : X → Except Exc α × X) (entry : Except Exc α → MonitorEntry) :
    MonitorProg X L α :=
  (Journal.ask f entry).zoom journalLens

/-- Such a call without a result. -/
def tell (f : X → Option Exc × X) (entry : Option Exc → MonitorEntry) : MonitorProg X L PUnit :=
  (Journal.call f entry).zoom journalLens

/-- `time.monotonic()`. -/
def now : MonitorProg X L ℚ :=
  ask (fun x ↦ (.ok (b.monotonic x).1, (b.monotonic x).2)) fun result ↦
    .clock (result.toOption.getD 0)

/-- The local variables. -/
def locals : MonitorProg X L L := fun s ↦ .ok s.world.locals s

/-- Assigning to a local variable. -/
def assign (f : L → L) : MonitorProg X L PUnit :=
  Prog.modify fun s ↦ { s with world := { s.world with locals := f s.world.locals } }

end MonitorBench

/-! ## What a call adds -/

section Calls

variable {b : MonitorBench X} {s : StationSession (MonitorWorld X L)}

theorem MonitorBench.post_perform (op : Operation) :
    Post (StationProg.call b.written op) (fun _ t ↦ entries t = .station op none :: entries s)
      (fun e t ↦ entries t = .station op (some e) :: entries s) s := by
  unfold Post StationProg.call
  have hentries : entries (s.after (.call op (b.written.perform op s.world).1)
      (b.written.perform op s.world).2) =
        .station op (b.written.perform op s.world).1 :: entries s := rfl
  cases h : (b.written.perform op s.world).1 with
  | none =>
    rw [h] at hentries
    exact hentries
  | some e =>
    rw [h] at hentries
    exact hentries

theorem MonitorBench.post_measure (reading : Reading) :
    Post (StationProg.read b.written reading)
      (fun v t ↦ entries t = .measured reading (.ok v) :: entries s)
      (fun e t ↦ entries t = .measured reading (.error e) :: entries s) s := by
  unfold Post StationProg.read
  have hentries : entries (s.after (.read reading (b.written.read reading s.world).1)
      (b.written.read reading s.world).2) =
        .measured reading (b.written.read reading s.world).1 :: entries s := rfl
  cases h : (b.written.read reading s.world).1 with
  | ok v =>
    rw [h] at hentries
    exact hentries
  | error e =>
    rw [h] at hentries
    exact hentries

theorem MonitorBench.post_ask {α : Type} (f : X → Except Exc α × X)
    (entry : Except Exc α → MonitorEntry) :
    Post (MonitorBench.ask f entry) (fun a t ↦ entries t = entry (.ok a) :: entries s)
      (fun e t ↦ entries t = entry (.error e) :: entries s) s :=
  post_zoom.mpr (Journal.post_ask f entry s.world.journal)

theorem MonitorBench.post_tell (f : X → Option Exc × X) (entry : Option Exc → MonitorEntry) :
    Post (MonitorBench.tell f entry) (fun _ t ↦ entries t = entry none :: entries s)
      (fun e t ↦ entries t = entry (some e) :: entries s) s :=
  post_zoom.mpr (Journal.post_call f entry s.world.journal)

theorem MonitorBench.post_now :
    Post b.now (fun now t ↦ entries t = .clock now :: entries s) (fun _ _ ↦ False) s := rfl

end Calls

/-! ## What the guard adds -/

/-- A call of the guard. -/
def Operation.IsSettling : Operation → Prop
  | .traceEvent _ | .logEvent _ | .recordExecutionState _ _ _ | .finishRunSummary _ _ _
  | .relayOpenAll | .zeroOutputSetpoint _ => True
  | _ => False

/-- An entry of the guard. -/
def MonitorEntry.IsSettling : MonitorEntry → Prop
  | .station op _ => op.IsSettling
  | .measured reading _ => reading = .finalVoltage
  | .outputOff _ _ => True
  | _ => False

/-- A row of a failure that could not be written. -/
def MonitorEntry.FailsRow : MonitorEntry → Prop
  | .station op raised => (StationCall.call op raised).FailsRecord
  | _ => False

/-- Entries of the guard, with an attempt to open all relays if every row could be written. -/
def WindsUp (new : List MonitorEntry) : Prop :=
  (∀ c ∈ new, c.IsSettling) ∧
    ((∀ c ∈ new, ¬c.FailsRow) → ∃ raised, .station .relayOpenAll raised ∈ new)

/-- A call of the guard whose entry in the journal shows a failed row. -/
def StationCall.IsSettling (c : StationCall) : Prop :=
  (∀ entry ∈ MonitorEntry.ofStation c, entry.IsSettling) ∧
    (c.FailsRecord → ∃ entry ∈ MonitorEntry.ofStation c, entry.FailsRow)

/-- What was added to the trace was added to the journal, by the guard. -/
def Mirrors (s t : StationSession (MonitorWorld X L)) : Prop :=
  ∃ new, t.trace = new ++ s.trace ∧
    entries t = new.filterMap MonitorEntry.ofStation ++ entries s ∧ ∀ c ∈ new, c.IsSettling

instance : IsPreorder (StationSession (MonitorWorld X L)) Mirrors where
  refl _ := ⟨[], rfl, rfl, nofun⟩
  trans _ _ _ := by
    rintro ⟨old, htrace, hentries, hold⟩ ⟨new, htrace', hentries', hnew⟩
    refine ⟨new ++ old, ?_, ?_, fun c hc ↦ (List.mem_append.mp hc).elim (hnew c) (hold c)⟩
    · rw [htrace', htrace, List.append_assoc]
    · rw [hentries', hentries, List.filterMap_append, List.append_assoc]

section Guard

variable {b : MonitorBench X} {g : GuardedRun (MonitorWorld X L)}

theorem mirrors_after {s : StationSession (MonitorWorld X L)} {c : StationCall}
    {w : MonitorWorld X L}
    (h : w.journal.entries = [c].filterMap MonitorEntry.ofStation ++ entries s)
    (hc : c.IsSettling) : Mirrors s (s.after c w) :=
  ⟨[c], rfl, h, List.forall_mem_singleton.mpr hc⟩

theorem mirrors_after_silent {s : StationSession (MonitorWorld X L)} {c : StationCall}
    {w : MonitorWorld X L} (hc : MonitorEntry.ofStation c = none) (hrecord : ¬c.FailsRecord)
    (h : w.journal.entries = entries s) : Mirrors s (s.after c w) := by
  refine mirrors_after ?_ ⟨fun entry hentry ↦ ?_, fun h ↦ absurd h hrecord⟩
  · rw [List.filterMap_cons, hc]
    exact h
  · rw [hc] at hentry
    cases hentry

theorem isSettling_of_some {c : StationCall} {entry : MonitorEntry}
    (h : MonitorEntry.ofStation c = some entry) (hentry : entry.IsSettling)
    (hfails : c.FailsRecord → entry.FailsRow) : c.IsSettling := by
  refine ⟨fun entry' h' ↦ ?_, fun hc ↦ ⟨entry, h, hfails hc⟩⟩
  rw [Option.mem_def, h] at h'
  rw [← Option.some.inj h']
  exact hentry

theorem mirrors_call {op : Operation} (hop : op.IsSettling) :
    Ends Mirrors (StationProg.call b.written op : MonitorProg X L PUnit) :=
  ends_call fun _ ↦ mirrors_after rfl (isSettling_of_some rfl hop id)

theorem mirrors_onEvent (message : String) :
    Ends Mirrors (onEvent b.written g message) :=
  .handle (mirrors_call trivial) fun _ ↦ .pure _

theorem mirrors_logEvents (l : List EventEntry) :
    Ends Mirrors (logEvents b.written l : MonitorProg X L PUnit) := by
  induction l with
  | nil => exact .pure _
  | cons entry rest ih => exact .bind (mirrors_call trivial) fun _ ↦ ih

/-- The extra fields are those of the local variables. -/
def GuardedRun.ReadsLocals (g : GuardedRun (MonitorWorld X L)) : Prop :=
  ∀ w, ∃ fields, g.extraFields w = (.ok fields, w)

theorem mirrors_recordFailure (hg : g.ReadsLocals) (clause : ExceptClause) :
    Ends Mirrors (recordFailure b.written g clause) := by
  have hfields : Ends Mirrors (extraRunSummaryFields g) := by
    intro s
    obtain ⟨fields, heq⟩ := hg s.world
    refine ⟨s.after (.extraFields none) s.world, ?_, mirrors_after_silent rfl id rfl⟩
    unfold extraRunSummaryFields
    rw [heq]
    rfl
  have hfinal : Ends Mirrors (safeFinalVoltageReading b.written g) := by
    refine .ite (.bind (.attempt (ends_read fun s ↦ mirrors_after rfl ?_)) fun ended ↦ ?_)
      (.pure _)
    · exact isSettling_of_some rfl rfl id
    · cases ended with
      | ok voltage => exact .pure _
      | error e => exact .pure _
  refine .bind (mirrors_onEvent _) fun _ ↦ .bind (mirrors_logEvents _) fun _ ↦ ?_
  refine .bind (mirrors_call trivial) fun _ ↦ .bind hfields fun _ ↦ ?_
  exact .bind hfinal fun _ ↦ mirrors_call trivial

theorem mirrors_shutDown (clause : ExceptClause) (e : Exc) :
    Ends Mirrors (shutDown b.written g clause e) := by
  have hopen : Ends Mirrors (openRelays b.written g) := by
    refine .handle (.bind (mirrors_call trivial) fun _ ↦ ?_) fun _ ↦ mirrors_onEvent _
    exact .bind (mirrors_onEvent _) fun _ ↦ mirrors_onEvent _
  have hoff (reason : String) :
      Ends Mirrors (StationProg.emergencyOutputOff b.written reason : MonitorProg X L Bool) :=
    fun s ↦ ⟨_, rfl, mirrors_after rfl (isSettling_of_some rfl trivial id)⟩
  have hhardware (reason : String) : Ends Mirrors (shutDownHardware b.written g reason) := by
    refine .bind (mirrors_onEvent _) fun _ ↦ .bind (hoff _) fun _ ↦ .bind hopen fun _ ↦ ?_
    refine .bind (.handle (mirrors_call trivial) fun _ ↦ .pure _) fun _ ↦ ?_
    exact .bind (mirrors_onEvent _) fun _ ↦ mirrors_onEvent _
  refine .ite (.bind (.modify fun _ ↦ ?_) fun _ ↦ hhardware _)
    (.bind (.modify fun _ ↦ ?_) fun _ ↦ hhardware _)
  · exact mirrors_after_silent rfl id rfl
  · exact mirrors_after_silent rfl id rfl

/-- Facts about the trace with what the journal says of it. -/
theorem Mirrors.entries_eq {s t : StationSession (MonitorWorld X L)} {P : List StationCall → Prop}
    (h : Mirrors s t) (hP : Added StationSession.trace P s t) :
    ∃ new, P new ∧ (∀ c ∈ new, c.IsSettling) ∧
      entries t = new.filterMap MonitorEntry.ofStation ++ entries s := by
  obtain ⟨new, htrace, hentries, hnew⟩ := h
  obtain ⟨new', htrace', hP⟩ := hP
  obtain rfl := List.append_cancel_right (htrace.symm.trans htrace')
  exact ⟨new, hP, hnew, hentries⟩

theorem isSettling_filterMap {new : List StationCall} (h : ∀ c ∈ new, c.IsSettling) :
    ∀ entry ∈ new.filterMap MonitorEntry.ofStation, entry.IsSettling := by
  intro entry hentry
  obtain ⟨c, hc, hofStation⟩ := List.mem_filterMap.mp hentry
  exact (h c hc).1 entry hofStation

/-- **After an exception** the guard settles what the operation left, and raises. -/
theorem settles_handler {α : Type} (hg : g.ReadsLocals) (e : Exc)
    (s : StationSession (MonitorWorld X L)) :
    Post (do
        recordFailure b.written g (exceptClause g e)
        shutDown b.written g (exceptClause g e) e
        Prog.raise e : MonitorProg X L α)
      (fun _ _ ↦ False)
      (fun _ t ↦ ∃ settle, entries t = settle ++ entries s ∧ WindsUp settle) s := by
  have hrecord : Post (recordFailure b.written g (exceptClause g e)) _ _ s :=
    .and ((mirrors_recordFailure hg (exceptClause g e)).within s)
      (records_recordFailure (exceptClause g e) s)
  refine (post_bind _).mpr (hrecord.mono (fun _ t ht ↦ ?_) fun _ t ht ↦ ?_)
  · have hshut : Post (shutDown b.written g (exceptClause g e) e) _ _ t :=
      .and ((mirrors_shutDown (exceptClause g e) e).within t) (post_shutDown (exceptClause g e) e t)
    refine (post_bind _).mpr (hshut.mono (fun _ u hu ↦ ?_) fun _ _ hu ↦ hu.2.elim)
    obtain ⟨old, -, hold, hentries⟩ := ht.1.entries_eq ht.2
    obtain ⟨new, ⟨⟨-, raised, hopen⟩, -⟩, hnew, hentries'⟩ := hu.1.entries_eq hu.2
    refine ⟨_, by rw [hentries', hentries, List.append_assoc], ?_, fun _ ↦ ⟨raised, ?_⟩⟩
    · intro entry hentry
      exact (List.mem_append.mp hentry).elim (isSettling_filterMap hnew entry)
        (isSettling_filterMap hold entry)
    · exact List.mem_append_left _ (List.mem_filterMap.mpr ⟨_, hopen, rfl⟩)
  · -- a row could not be written, so the shutdown is not reached
    obtain ⟨new, ⟨-, c, hc, hfails⟩, hnew, hentries⟩ := ht.1.entries_eq ht.2
    refine ⟨_, hentries, isSettling_filterMap hnew, fun hrows ↦ ?_⟩
    obtain ⟨entry, hentry, hrow⟩ := (hnew c hc).2 hfails
    exact absurd hrow (hrows entry (List.mem_filterMap.mpr ⟨c, hc, hentry⟩))

end Guard

end Nipxi
