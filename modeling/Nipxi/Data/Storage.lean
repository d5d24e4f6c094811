import Nipxi.Data.SequenceNumbers
import Mathlib.Data.Rat.Defs

/-!
# Writes to an open storage object

A `DataStorage` writes measurements and events through its telemetry connection and station
states, run summaries and the run counter through its index connection. Every writer executes one
statement and commits; none rolls back. A commit that fails, or a statement that fails inside the
transaction that was opened for it, leaves that transaction open on the connection.

How the database answers is part of the call: an operation of the model carries the answers to its
own statements, so that a list of operations is a schedule together with a pattern of failures.

## Main results

* `Op.run_idle`: on idle connections an operation that meets `Op.LeavesNothing` leaves them idle.
* `atomic_iff`: every operation of a list that raises leaves nothing behind exactly if every
  operation of the list meets `Op.LeavesNothing`.
-/

namespace Nipxi

open Sqlite

/-! ## Rows -/

/-- A value of a column. -/
inductive Value
  | integer (n : ℤ)
  | real (x : ℚ)
  | text (s : List Char)
  deriving DecidableEq

/-- A row: its columns and their values, where `none` is `NULL`. -/
abbrev Row := List (String × Option Value)

/-- The value of a column, `NULL` where the row does not have it. -/
def Row.get (row : Row) (column : String) : Option Value := (row.lookup column).join

/-- The row an `INSERT` writes: what the writer sets itself, then what the caller gave for the other
columns; what the caller gave for anything else is ignored. -/
def fillRow (columns : List String) (own fields : Row) : Row :=
  own ++ (columns.filter fun c ↦ (own.lookup c).isNone).map fun c ↦ (c, fields.get c)

/-- Setting columns of a row. -/
def Row.set (row updates : Row) : Row :=
  row.map fun cell ↦ (cell.1, (updates.lookup cell.1).getD cell.2)

/-- `_COLUMNS`. -/
def basicColumns : List String :=
  ["run_id", "channel", "timestamp", "elapsed_s", "phase", "voltage_v", "current_a", "temp_c"]

/-- `_MEASUREMENT_ALL_COLUMNS`. -/
def measurementColumns : List String :=
  basicColumns ++
    ["test_type", "relay", "phase_detail", "commanded_v", "commanded_current_limit_a",
      "smu_readback_v", "smu_readback_current_limit_a", "smu_measured_v", "smu_measured_i",
      "dmm_measured_v", "output_enabled_readback", "in_compliance", "daq_channel_0_raw",
      "voltage_min_v", "voltage_max_v", "group_name", "position_in_group", "matrix_card",
      "matrix_channel", "source", "unit"]

/-- `_STATION_STATE_COLUMNS`. -/
def stationStateColumns : List String :=
  ["channel", "relay", "state", "timestamp", "commanded_v", "commanded_current_limit_a",
    "smu_readback_v", "smu_readback_current_limit_a", "smu_measured_v", "smu_measured_i",
    "dmm_measured_v"]

/-- `_RUN_SUMMARY_COLUMNS` without `id`. -/
def runSummaryColumns : List String :=
  ["run_id", "test_type", "start_time", "end_time", "duration_s", "stop_reason", "result",
    "battery_type", "battery_voltage_max_v", "battery_voltage_min_v",
    "battery_charge_current_limit_a", "battery_discharge_current_limit_a", "capacity_ah",
    "energy_wh", "cycle_count", "start_voltage", "end_voltage", "min_voltage", "max_voltage",
    "average_voltage", "sample_count", "smu_name", "smu_resource", "smu_model", "dmm_name",
    "dmm_resource", "dmm_model", "daq_name", "daq_resource", "daq_model", "relay_matrix_name",
    "relay_matrix_resource", "relay_matrix_model", "group_name", "position_in_group",
    "analysis_result", "sequence_number", "station_id", "station_name", "telemetry_db",
    "parent_run_id"]

/-- The end-of-run columns that a caller of `finish_run_summary` may set. -/
def finishColumns : List String :=
  ["capacity_ah", "energy_wh", "cycle_count", "start_voltage", "end_voltage", "min_voltage",
    "max_voltage", "average_voltage", "sample_count", "analysis_result"]

/-! ## The storage object -/

/-- The tables of the telemetry database that the storage object writes. -/
structure Telemetry where
  measurements : List (Row)
  eventLog : List (Row)
  deriving DecidableEq

/-- The tables of the index database. -/
structure Index where
  stationState : List (Row)
  runSummary : List (Row)
  nextValue : ℕ
  deriving DecidableEq

/-- An open `DataStorage`. -/
structure DataStorage where
  runId : List Char
  sequenceNumber : ℕ
  stationId : List Char
  stationName : List Char
  telemetryDbName : List Char
  db : Database Unit (Telemetry)
  dbIndex : Database Unit (Index)
  /-- The rows of the CSV files, with their channels. -/
  csv : List (Value × Row)

/-- How a call ends. -/
inductive WriteEnd
  | returned
  | raised
  deriving DecidableEq

/-- One statement that writes, and the commit after it. Every writer is made of this. -/
def writeThrough {α : Type} (db : Database Unit α) (f : α → α) :
    Answer → Bool → WriteEnd × Database Unit α
  | .ok, true => (.returned, (db.execute () f .ok).commit () true)
  | .ok, false => (.raised, db.execute () f .ok)
  | answer, _ => (.raised, db.execute () f answer)

namespace DataStorage

/-- A write to the telemetry database. -/
def writeTelemetry (s : DataStorage) (f : Telemetry → Telemetry) (insert : Answer)
    (commit : Bool) : WriteEnd × DataStorage :=
  let (ended, db) := writeThrough s.db f insert commit
  (ended, { s with db := db })

/-- A write to the index database. -/
def writeIndex (s : DataStorage) (f : Index → Index) (statement : Answer) (commit : Bool) :
    WriteEnd × DataStorage :=
  let (ended, db) := writeThrough s.dbIndex f statement commit
  (ended, { s with dbIndex := db })

/-- The columns `record` sets itself. -/
def sampleColumns (s : DataStorage) (channel now : Value) : Row :=
  [("run_id", some (.text s.runId)), ("channel", some channel), ("timestamp", some now)]

/-- The row of a sample in the CSV file of its channel, where the sample comes first. -/
def csvRow (s : DataStorage) (channel now : Value) (sample : Row) : Row :=
  basicColumns.map fun c ↦
    (c, (sample.lookup c).getD ((s.sampleColumns channel now).get c))

/-- `record`. The CSV file is written once the database is, and may fail by itself. -/
def record (s : DataStorage) (channel now : Value) (sample : Row) (insert : Answer)
    (commit csv : Bool) : WriteEnd × DataStorage :=
  match s.writeTelemetry (fun t ↦ { t with
    measurements := t.measurements ++
      [fillRow basicColumns (s.sampleColumns channel now) sample] }) insert commit with
  | (.returned, s') =>
    if csv then (.returned, { s' with csv := s'.csv ++ [(channel, s.csvRow channel now sample)] })
    else (.raised, s')
  | (.raised, s') => (.raised, s')

def recordMeasurement (s : DataStorage) (testType channel : Value) (relay : Option Value)
    (timestamp : Value) (fields : Row) : Answer → Bool → WriteEnd × DataStorage :=
  s.writeTelemetry fun t ↦ { t with
    measurements := t.measurements ++ [fillRow measurementColumns
      [("run_id", some (.text s.runId)), ("channel", some channel), ("timestamp", some timestamp),
        ("test_type", some testType), ("relay", relay)] fields] }

def logEvent (s : DataStorage) (level source message : Value) (channel relay : Option Value)
    (now : Value) : Answer → Bool → WriteEnd × DataStorage :=
  s.writeTelemetry fun t ↦ { t with
    eventLog := t.eventLog ++
      [[("run_id", some (.text s.runId)), ("timestamp", some now), ("channel", channel),
        ("relay", relay), ("level", some level), ("source", some source),
        ("message", some message)]] }

def recordExecutionState (s : DataStorage) (relay : Option Value) (state now : Value)
    (fields : Row) : Answer → Bool → WriteEnd × DataStorage :=
  s.writeIndex fun x ↦ { x with
    stationState := x.stationState ++ [fillRow stationStateColumns
      [("run_id", some (.text s.runId)), ("timestamp", some now), ("relay", relay),
        ("state", some state)] fields] }

/-- A row of this object's run. -/
def mine (s : DataStorage) (row : Row) : Bool := row.get "run_id" == some (.text s.runId)

/-- `start_run_summary`. The identity columns are the object's own, whatever the caller gave. The
table takes one row for each run id: a second one breaks the constraint, which fails the statement
and nothing else. -/
def startRunSummary (s : DataStorage) (testType now : Value) (fields : Row) (insert : Answer)
    (commit : Bool) : WriteEnd × DataStorage :=
  s.writeIndex (fun x ↦ { x with
    runSummary := x.runSummary ++ [fillRow runSummaryColumns
      [("run_id", some (.text s.runId)), ("test_type", some testType), ("start_time", some now),
        ("sequence_number", some (.integer s.sequenceNumber)),
        ("station_id", some (.text s.stationId)), ("station_name", some (.text s.stationName)),
        ("telemetry_db", some (.text s.telemetryDbName))] fields] })
    (if (s.dbIndex.view ()).runSummary.any s.mine ∧ insert = .ok then .failed else insert) commit

/-- The columns `finish_run_summary` sets. The duration is the caller's, or is computed by
`elapsed` from the start time read back, where there is one. -/
def finishUpdates (endTime : Value) (stopReason result : Option Value) (fields : Row)
    (duration : Option Value) : Row :=
  [("end_time", some endTime), ("stop_reason", stopReason), ("result", result)] ++
    (finishColumns.filter fun c ↦ (fields.lookup c).isSome).map (fun c ↦ (c, fields.get c)) ++
    match fields.lookup "duration_s", duration with
    | some given, _ => [("duration_s", given)]
    | none, some d => [("duration_s", some d)]
    | none, none => []

/-- `finish_run_summary`. The start time is read only where the caller gave no duration; that
statement opens no transaction. -/
def finishRunSummary (s : DataStorage) (elapsed : Value → Value → Option Value) (now : Value)
    (stopReason result : Option Value) (fields : Row) (select : Bool) (update : Answer)
    (commit : Bool) : WriteEnd × DataStorage :=
  if (fields.lookup "duration_s").isNone ∧ select = false then (.raised, s)
  else
    let start := ((s.dbIndex.view ()).runSummary.find? s.mine).bind (Row.get · "start_time")
    let updates := finishUpdates now stopReason result fields (start.bind fun t ↦ elapsed t now)
    s.writeIndex (fun x ↦ { x with
      runSummary := x.runSummary.map fun row ↦ if s.mine row then row.set updates else row })
      update commit

end DataStorage

/-! ## Allocating a sequence number -/

/-- How one attempt of `_allocate_sequence_number` is answered, and whether what it raises is an
`OperationalError`. -/
structure Attempt where
  granted : Bool
  select : Bool
  update : Answer
  commit : Bool
  operational : Bool

inductive AttemptEnd
  | value (n : ℕ)
  | failed (operational : Bool)

namespace DataStorage

/-- One attempt. The handler around the two statements rolls back; the commit stands after it, and
`BEGIN IMMEDIATE` before it. Inside a transaction `BEGIN` is an operational error whatever else. -/
def attempt (s : DataStorage) (a : Attempt) : AttemptEnd × DataStorage :=
  match s.dbIndex.beginImmediate () a.granted with
  | none => (.failed (s.dbIndex.inTransaction () || a.operational), s)
  | some db =>
    if a.select then
      match a.update with
      | .ok =>
        let db' := db.execute () (fun x ↦ { x with nextValue := x.nextValue + 1 }) .ok
        if a.commit then
          (.value (db.view ()).nextValue, { s with dbIndex := db'.commit () true })
        else (.failed a.operational, { s with dbIndex := db' })
      | answer =>
        (.failed a.operational, { s with dbIndex := (db.execute () id answer).rollback () })
    else (.failed a.operational, { s with dbIndex := db.rollback () })

/-- The attempts that are left. Only an operational error is tried again. -/
def tryAllocate : List Attempt → DataStorage → Option ℕ × DataStorage
  | [], s => (none, s)
  | a :: rest, s =>
    match s.attempt a with
    | (.value n, s') => (some n, s')
    | (.failed operational, s') => if operational then tryAllocate rest s' else (none, s')

/-- `_allocate_sequence_number`, with five attempts. -/
def allocateSequenceNumber (s : DataStorage) (attempts : ℕ → Attempt) : Option ℕ × DataStorage :=
  tryAllocate ((List.range 5).map attempts) s

/-- `begin_new_run_id`. -/
def beginNewRunId (s : DataStorage) (attempts : ℕ → Attempt) : WriteEnd × DataStorage :=
  match s.allocateSequenceNumber attempts with
  | (some n, s') =>
    (.returned, { s' with sequenceNumber := n, runId := runIdText s.stationId n })
  | (none, s') => (.raised, s')

end DataStorage

/-! ## Schedules -/

/-- A call, with how the database answers its statements. -/
inductive Op
  | record (channel now : Value) (sample : Row) (insert : Answer) (commit csv : Bool)
  | recordMeasurement (testType channel : Value) (relay : Option Value) (timestamp : Value)
      (fields : Row) (insert : Answer) (commit : Bool)
  | logEvent (level source message : Value) (channel relay : Option Value) (now : Value)
      (insert : Answer) (commit : Bool)
  | recordExecutionState (relay : Option Value) (state now : Value) (fields : Row)
      (insert : Answer) (commit : Bool)
  | startRunSummary (testType now : Value) (fields : Row) (insert : Answer) (commit : Bool)
  | finishRunSummary (elapsed : Value → Value → Option Value) (now : Value)
      (stopReason result : Option Value) (fields : Row) (select : Bool) (update : Answer)
      (commit : Bool)
  | beginNewRunId (attempts : ℕ → Attempt)

def Op.run : Op → DataStorage → WriteEnd × DataStorage
  | .record channel now sample insert commit csv, s =>
    s.record channel now sample insert commit csv
  | .recordMeasurement testType channel relay timestamp fields insert commit, s =>
    s.recordMeasurement testType channel relay timestamp fields insert commit
  | .logEvent level source message channel relay now insert commit, s =>
    s.logEvent level source message channel relay now insert commit
  | .recordExecutionState relay state now fields insert commit, s =>
    s.recordExecutionState relay state now fields insert commit
  | .startRunSummary testType now fields insert commit, s =>
    s.startRunSummary testType now fields insert commit
  | .finishRunSummary elapsed now stopReason result fields select update commit, s =>
    s.finishRunSummary elapsed now stopReason result fields select update commit
  | .beginNewRunId attempts, s => s.beginNewRunId attempts

/-- `P` of every call of a schedule, with the storage object it is made on. -/
def Along (P : DataStorage → Op → Prop) : DataStorage → List Op → Prop
  | _, [] => True
  | s, op :: rest => P s op ∧ Along P (op.run s).2 rest

/-- No connection has contents that a later commit could make visible, and on each of them a new
transaction can begin. -/
def DataStorage.NothingLeft (s : DataStorage) : Prop :=
  (s.db.view () = s.db.committed ∧ (s.db.beginImmediate () true).isSome) ∧
    (s.dbIndex.view () = s.dbIndex.committed ∧ (s.dbIndex.beginImmediate () true).isSome)

/-- Writes are atomic: no call that raises leaves anything behind. -/
def Atomic (s : DataStorage) (ops : List Op) : Prop :=
  Along (fun s op ↦ (op.run s).1 = .raised → (op.run s).2.NothingLeft) s ops

/-- The answers after which a single write leaves no transaction open. -/
def writeLeavesNothing (statement : Answer) (commit : Bool) : Prop :=
  statement = .rolledBack ∨ (statement = .ok ∧ commit = true)

/-- The attempts that are made end without a failed commit. -/
def attemptsLeaveNothing : List Attempt → Prop
  | [] => True
  | a :: rest =>
    if a.granted ∧ a.select ∧ a.update = .ok then a.commit = true
    else a.operational = true → attemptsLeaveNothing rest

/-- The calls that leave no transaction open on idle connections. -/
def Op.LeavesNothing (s : DataStorage) : Op → Prop
  | .record _ _ _ insert commit _ | .recordMeasurement _ _ _ _ _ insert commit
  | .logEvent _ _ _ _ _ _ insert commit | .recordExecutionState _ _ _ _ insert commit =>
    writeLeavesNothing insert commit
  | .startRunSummary _ _ _ insert commit =>
    writeLeavesNothing insert commit ∧
      (insert = .ok → (s.dbIndex.view ()).runSummary.any s.mine = false)
  | .finishRunSummary _ _ _ _ fields select update commit =>
    ((fields.lookup "duration_s").isNone ∧ select = false) ∨ writeLeavesNothing update commit
  | .beginNewRunId attempts => attemptsLeaveNothing ((List.range 5).map attempts)

/-! ## Idle connections -/

/-- No connection is in a transaction. -/
def DataStorage.Idle (s : DataStorage) : Prop := s.db.txn () = .none ∧ s.dbIndex.txn () = .none

section Write

variable {α : Type} {db : Database Unit α}

/-- A connection has nothing left on it exactly if it is in no transaction. -/
theorem nothingLeft_iff_txn :
    (db.view () = db.committed ∧ (db.beginImmediate () true).isSome) ↔ db.txn () = .none := by
  constructor
  · rintro ⟨-, hbegin⟩
    obtain ⟨db', hdb'⟩ := Option.isSome_iff_exists.mp hbegin
    exact (Database.beginImmediate_eq_some.mp hdb').1
  · intro h
    refine ⟨Database.view_of_not_writing fun x hx ↦ ?_, ?_⟩
    · rw [h] at hx
      cases hx
    · exact Option.isSome_iff_exists.mpr ⟨_, Database.beginImmediate_eq_some.mpr ⟨h, rfl, rfl⟩⟩

/-- **One write.** On an idle connection a write leaves the connection idle exactly for the answers
of `writeLeavesNothing`, and raises for all others. -/
theorem writeThrough_idle (h : db.txn () = .none) (f : α → α) (statement : Answer) (commit : Bool) :
    ((writeThrough db f statement commit).2.txn () = .none ↔ writeLeavesNothing statement commit) ∧
      (¬writeLeavesNothing statement commit →
        (writeThrough db f statement commit).1 = .raised) := by
  cases statement with
  | ok => cases commit <;> simp [writeThrough, writeLeavesNothing, Database.execute]
  | failed => simp [writeThrough, writeLeavesNothing, Database.execute, h]
  | rolledBack => simp [writeThrough, writeLeavesNothing, Database.execute]

end Write

namespace DataStorage

variable {s : DataStorage}

theorem nothingLeft_iff_idle : s.NothingLeft ↔ s.Idle :=
  and_congr nothingLeft_iff_txn nothingLeft_iff_txn

theorem writeTelemetry_idle (h : s.Idle) (f : Telemetry → Telemetry) (insert : Answer)
    (commit : Bool) :
    ((s.writeTelemetry f insert commit).2.Idle ↔ writeLeavesNothing insert commit) ∧
      (¬writeLeavesNothing insert commit → (s.writeTelemetry f insert commit).1 = .raised) := by
  have hwrite := writeThrough_idle h.1 f insert commit
  exact ⟨(and_iff_left h.2).trans hwrite.1, hwrite.2⟩

theorem writeIndex_idle (h : s.Idle) (f : Index → Index) (statement : Answer) (commit : Bool) :
    ((s.writeIndex f statement commit).2.Idle ↔ writeLeavesNothing statement commit) ∧
      (¬writeLeavesNothing statement commit →
        (s.writeIndex f statement commit).1 = .raised) := by
  have hwrite := writeThrough_idle h.2 f statement commit
  exact ⟨(and_iff_right h.1).trans hwrite.1, hwrite.2⟩

theorem record_idle (h : s.Idle) (channel now : Value) (sample : Row) (insert : Answer)
    (commit csv : Bool) :
    ((s.record channel now sample insert commit csv).2.Idle ↔ writeLeavesNothing insert commit) ∧
      (¬writeLeavesNothing insert commit →
        (s.record channel now sample insert commit csv).1 = .raised) := by
  have hwrite := s.writeTelemetry_idle h (fun t ↦ { t with
    measurements := t.measurements ++
      [fillRow basicColumns (s.sampleColumns channel now) sample] }) insert commit
  unfold record
  split
  · rename_i s' heq
    rw [heq] at hwrite
    refine ⟨?_, fun hnot ↦ absurd (hwrite.2 hnot) nofun⟩
    rw [← hwrite.1]
    split <;> exact Iff.rfl
  · rename_i s' heq
    rw [heq] at hwrite
    exact hwrite

theorem startRunSummary_idle (h : s.Idle) (testType now : Value) (fields : Row) (insert : Answer)
    (commit : Bool) :
    ((s.startRunSummary testType now fields insert commit).2.Idle ↔
        (Op.startRunSummary testType now fields insert commit).LeavesNothing s) ∧
      (¬(Op.startRunSummary testType now fields insert commit).LeavesNothing s →
        (s.startRunSummary testType now fields insert commit).1 = .raised) := by
  unfold startRunSummary
  have hanswer : (Op.startRunSummary testType now fields insert commit).LeavesNothing s ↔
      writeLeavesNothing
        (if (s.dbIndex.view ()).runSummary.any s.mine ∧ insert = .ok then .failed else insert)
        commit := by
    cases hdup : (s.dbIndex.view ()).runSummary.any s.mine <;> cases insert <;>
      simp [Op.LeavesNothing, writeLeavesNothing, hdup]
  rw [hanswer]
  exact s.writeIndex_idle h _ _ _

theorem finishRunSummary_idle (h : s.Idle) (elapsed : Value → Value → Option Value) (now : Value)
    (stopReason result : Option Value) (fields : Row) (select : Bool) (update : Answer)
    (commit : Bool) :
    ((s.finishRunSummary elapsed now stopReason result fields select update commit).2.Idle ↔
        ((fields.lookup "duration_s").isNone ∧ select = false) ∨
          writeLeavesNothing update commit) ∧
      (¬(((fields.lookup "duration_s").isNone ∧ select = false) ∨
          writeLeavesNothing update commit) →
        (s.finishRunSummary elapsed now stopReason result fields select update commit).1 =
          .raised) := by
  unfold finishRunSummary
  split
  · rename_i hfails
    exact ⟨iff_of_true h (Or.inl hfails), fun _ ↦ rfl⟩
  · rename_i hreads
    rw [or_iff_right hreads]
    exact s.writeIndex_idle h _ _ _

/-! ## Attempts -/

/-- Inside a transaction every attempt is refused, so that the allocation raises and the
transaction stays. -/
theorem tryAllocate_of_inTransaction (h : s.dbIndex.txn () ≠ .none) (attempts : List Attempt) :
    tryAllocate attempts s = (none, s) := by
  have hbegin (a : Attempt) : s.dbIndex.beginImmediate () a.granted = none := by
    refine Option.eq_none_iff_forall_ne_some.mpr fun db hdb ↦ ?_
    exact h (Database.beginImmediate_eq_some.mp hdb).1
  have hoperational : s.dbIndex.inTransaction () = true := by
    unfold Database.inTransaction
    split
    · exact absurd ‹_› h
    · rfl
  induction attempts with
  | nil => rfl
  | cons a rest ih =>
    rw [tryAllocate, attempt, hbegin a]
    simpa [hoperational] using ih

/-- An attempt on an idle connection: it fails and leaves the connection idle, or it reaches the
commit. -/
theorem attempt_idle (h : s.Idle) (a : Attempt) :
    if a.granted ∧ a.select ∧ a.update = .ok then
      if a.commit then (∃ n, (s.attempt a).1 = .value n) ∧ (s.attempt a).2.Idle
      else (s.attempt a).1 = .failed a.operational ∧ (s.attempt a).2.dbIndex.txn () ≠ .none
    else (s.attempt a).1 = .failed a.operational ∧ (s.attempt a).2.Idle := by
  have hidle : s.dbIndex.inTransaction () = false := by rw [Database.inTransaction, h.2]
  unfold attempt Database.beginImmediate
  rw [h.2]
  cases hgranted : a.granted with
  | false => simp [hidle, h]
  | true =>
    cases hselect : a.select with
    | false => simp [Idle, Database.rollback, h.1]
    | true =>
      cases hupdate : a.update <;> cases hcommit : a.commit <;>
        simp [Idle, Database.rollback, Database.execute, h.1]

/-- **An allocation.** By induction on the attempts: as long as they fail before the commit the
connection stays idle; a failed commit ends the allocation, through the attempts still left. -/
theorem tryAllocate_idle (attempts : List Attempt) {s : DataStorage} (h : s.Idle) :
    ((tryAllocate attempts s).2.Idle ↔ attemptsLeaveNothing attempts) ∧
      (¬attemptsLeaveNothing attempts → (tryAllocate attempts s).1 = none) := by
  induction attempts generalizing s with
  | nil => exact ⟨iff_of_true h trivial, fun hnot ↦ absurd trivial hnot⟩
  | cons a rest ih =>
    have hattempt := s.attempt_idle h a
    rw [tryAllocate, attemptsLeaveNothing]
    generalize s.attempt a = res at hattempt ⊢
    obtain ⟨ended, s'⟩ := res
    split at hattempt
    · rename_i hreaches
      rw [if_pos hreaches]
      cases hcommit : a.commit with
      | true =>
        rw [hcommit] at hattempt
        obtain ⟨⟨n, rfl⟩, hidle⟩ := hattempt
        exact ⟨iff_of_true hidle rfl, fun hnot ↦ absurd rfl hnot⟩
      | false =>
        rw [hcommit] at hattempt
        obtain ⟨rfl, hopen⟩ := hattempt
        have hraises : (if a.operational = true then tryAllocate rest s' else (none, s')) =
            (none, s') := by
          split
          · exact tryAllocate_of_inTransaction hopen rest
          · rfl
        refine ⟨iff_of_false ?_ nofun, fun _ ↦ ?_⟩
        · exact fun hidle ↦ hopen (congrArg Prod.snd hraises ▸ hidle).2
        · exact congrArg Prod.fst hraises
    · rename_i hfails
      rw [if_neg hfails]
      obtain ⟨rfl, hidle⟩ := hattempt
      cases hoperational : a.operational with
      | true =>
        simp only [if_true, forall_const]
        exact ih hidle
      | false => exact ⟨iff_of_true hidle nofun, fun _ ↦ rfl⟩

theorem beginNewRunId_idle (h : s.Idle) (attempts : ℕ → Attempt) :
    ((s.beginNewRunId attempts).2.Idle ↔
        attemptsLeaveNothing ((List.range 5).map attempts)) ∧
      (¬attemptsLeaveNothing ((List.range 5).map attempts) →
        (s.beginNewRunId attempts).1 = .raised) := by
  have hallocate := tryAllocate_idle ((List.range 5).map attempts) h
  unfold beginNewRunId allocateSequenceNumber
  split
  · rename_i n s' heq
    rw [heq] at hallocate
    exact ⟨hallocate.1, fun hnot ↦ absurd (hallocate.2 hnot) nofun⟩
  · rename_i s' heq
    rw [heq] at hallocate
    exact ⟨hallocate.1, fun _ ↦ rfl⟩

end DataStorage

/-! ## Schedules of calls -/

variable {s : DataStorage}

/-- **One call.** On idle connections a call leaves the connections idle exactly if it meets
`Op.LeavesNothing`, and raises otherwise. -/
theorem Op.run_idle (h : s.Idle) (op : Op) :
    ((op.run s).2.Idle ↔ op.LeavesNothing s) ∧
      (¬op.LeavesNothing s → (op.run s).1 = .raised) := by
  cases op with
  | record channel now sample insert commit csv =>
    exact s.record_idle h channel now sample insert commit csv
  | recordMeasurement | logEvent => exact s.writeTelemetry_idle h _ _ _
  | recordExecutionState => exact s.writeIndex_idle h _ _ _
  | startRunSummary testType now fields insert commit =>
    exact s.startRunSummary_idle h testType now fields insert commit
  | finishRunSummary elapsed now stopReason result fields select update commit =>
    exact s.finishRunSummary_idle h elapsed now stopReason result fields select update commit
  | beginNewRunId attempts => exact s.beginNewRunId_idle h attempts

/-- An `open`ed storage object: two databases, with no transaction on either connection. -/
def DataStorage.opened (stationId stationName telemetryDbName : List Char) (sequenceNumber : ℕ)
    (telemetry : Telemetry) (index : Index) : DataStorage :=
  { runId := runIdText stationId sequenceNumber
    sequenceNumber := sequenceNumber
    stationId := stationId
    stationName := stationName
    telemetryDbName := telemetryDbName
    db := ⟨telemetry, fun _ ↦ .none⟩
    dbIndex := ⟨index, fun _ ↦ .none⟩
    csv := [] }

/-- By induction on the schedule: the first call that does not meet the condition raises, and
leaves a transaction open. -/
theorem atomic_iff_of_idle (ops : List Op) {s : DataStorage} (h : s.Idle) :
    Atomic s ops ↔ Along (fun s op ↦ op.LeavesNothing s) s ops := by
  induction ops generalizing s with
  | nil => exact Iff.rfl
  | cons op rest ih =>
    have hop := op.run_idle h
    by_cases hleaves : op.LeavesNothing s
    · have hidle : (op.run s).2.Idle := hop.1.mpr hleaves
      have hrest : Atomic (op.run s).2 rest ↔
          Along (fun s op ↦ op.LeavesNothing s) (op.run s).2 rest := ih hidle
      have hhead : (op.run s).1 = .raised → (op.run s).2.NothingLeft :=
        fun _ ↦ DataStorage.nothingLeft_iff_idle.mpr hidle
      exact (and_iff_right hhead).trans (hrest.trans (and_iff_right hleaves).symm)
    · refine iff_of_false (fun hatomic ↦ ?_) fun halong ↦ hleaves halong.1
      have hleft := hatomic.1 (hop.2 hleaves)
      exact hleaves (hop.1.mp (DataStorage.nothingLeft_iff_idle.mp hleft))

/-- **When writes are atomic.** From an opened storage object, every call of a schedule that raises
leaves nothing behind exactly if every call of it meets `Op.LeavesNothing` where it is made: no
commit fails, no statement of a writer fails without the database rolling back, and no run summary
is started twice. -/
theorem atomic_iff (stationId stationName telemetryDbName : List Char) (sequenceNumber : ℕ)
    (telemetry : Telemetry) (index : Index) (ops : List Op) :
    let s := DataStorage.opened stationId stationName telemetryDbName sequenceNumber telemetry index
    Atomic s ops ↔ Along (fun s op ↦ op.LeavesNothing s) s ops :=
  atomic_iff_of_idle ops ⟨rfl, rfl⟩

/-! ## A commit that finds the database busy -/

/-- An event of the given text. -/
def eventOp (message : List Char) (commit : Bool) : Op :=
  .logEvent (.text ['I']) (.text ['S']) (.text message) none none (.integer 0) .ok commit

/-- An empty station. -/
def emptyStorage : DataStorage := .opened ['S'] [] [] 1 ⟨[], []⟩ ⟨[], [], 2⟩

/-- The commit of `log_event("A")` fails, so the call raises; the commit of `log_event("B")` then
publishes both rows. With the first alone no transaction can begin on the connection. -/
theorem not_atomic_busyCommit :
    ¬(∀ s ops, Atomic s ops) ∧
      ((eventOp ['A'] false).run emptyStorage).1 = .raised ∧
      ((eventOp ['B'] true).run ((eventOp ['A'] false).run emptyStorage).2).1 = .returned ∧
      ((eventOp ['B'] true).run ((eventOp ['A'] false).run emptyStorage).2).2.db.committed.eventLog.map
        (Row.get · "message") = [some (.text ['A']), some (.text ['B'])] := by
  refine ⟨fun h ↦ ?_, rfl, rfl, by decide⟩
  have hleft := (h emptyStorage [eventOp ['A'] false]).1 rfl
  exact absurd hleft.1.2 (by decide)

end Nipxi
