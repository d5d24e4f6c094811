import Nipxi.Data.Storage
import Nipxi.Sqlite.Select

/-!
# Reads of the telemetry database

`get_measurements`, `get_first_measurement` and `get_recent_events` are queries on the tables that
`record`, `record_measurement` and `log_event` insert into. The panels of the execution screen read
a bounded number of rows, newest first, and turn them around; the reports read all rows, oldest
first.

`reads_agree` is what makes the panels show parts of the reports: the bounded reads return the last
rows of the full ones, and the first measurement is the first of the full list that is a reading of
the battery, and stays it.
-/

namespace Nipxi

open Sqlite

/-- `_EVENT_LOG_COLUMNS` without `id`. -/
def eventLogColumns : List String :=
  ["run_id", "timestamp", "channel", "relay", "level", "source", "message"]

/-- The tables that the reads are on, with the keys of their rows. -/
structure TelemetryTables where
  measurements : Table Row
  eventLog : Table Row

/-- A row that was recorded. -/
inductive TelemetryWrite
  | measurement (row : Row)
  | event (row : Row)

namespace TelemetryTables

/-- Nothing recorded. -/
def empty : TelemetryTables := ⟨.empty, .empty⟩

/-- What recording a row does to the tables. -/
def write (t : TelemetryTables) : TelemetryWrite → TelemetryTables
  | .measurement row => { t with measurements := t.measurements.insert row }
  | .event row => { t with eventLog := t.eventLog.insert row }

/-- A history, one row after the other. -/
def writeAll (t : TelemetryTables) (history : List TelemetryWrite) : TelemetryTables :=
  history.foldl write t

/-! ## The queries -/

/-- The columns a query asks for, as a dictionary. -/
def columnsOf (columns : List String) (row : Row) : Row := columns.map fun c ↦ (c, row.get c)

/-- `run_id = ?` -/
def isOfRun (runId : List Char) (row : Row) : Bool := row.get "run_id" == some (.text runId)

/-- `channel = ?` -/
def isOfChannel (channel : ℤ) (row : Row) : Bool := row.get "channel" == some (.integer channel)

/-- The conditions of the reads of measurements; what is `None` is not asked for. -/
def isAskedFor (runId : Option (List Char)) (channel : Option ℤ) (row : Row) : Bool :=
  runId.all (isOfRun · row) && channel.all (isOfChannel · row)

/-- `get_measurements`. -/
def getMeasurements (t : TelemetryTables) (runId : Option (List Char)) (channel : Option ℤ) :
    Option ℕ → List Row
  | some recentLimit =>
    ((t.measurements.select (isAskedFor runId channel) .desc (some recentLimit)).map
      fun r ↦ columnsOf measurementColumns r.row).reverse
  | none =>
    (t.measurements.select (isAskedFor runId channel) .asc none).map
      fun r ↦ columnsOf measurementColumns r.row

/-- The row was written before the relay closed. -/
def isPrecheck (row : Row) : Bool :=
  row.get "phase_detail" == some (.text "NTC_PRECHECK".toList) ||
    row.get "phase_detail" == some (.text "BATTERY_PRECHECK".toList)

/-- One of the electrical columns is not `NULL`. -/
def isElectrical (row : Row) : Bool :=
  (row.get "voltage_v").isSome || (row.get "current_a").isSome ||
    (row.get "smu_measured_v").isSome || (row.get "dmm_measured_v").isSome

/-- `get_first_measurement`. -/
def getFirstMeasurement (t : TelemetryTables) (runId : Option (List Char))
    (channel : Option ℤ) : Option Row :=
  (t.measurements.select
    (fun row ↦ (!isPrecheck row && isElectrical row) && isAskedFor runId channel row)
    .asc (some 1)).head?.map fun r ↦ columnsOf measurementColumns r.row

/-- `run_id or self.run_id`, and the channel where one is given. Without any run the comparison is
with `NULL`, which holds of no row. -/
def isEventOf (own runId : Option (List Char)) (channel : Option ℤ) (row : Row) : Bool :=
  ((runId.filter (· ≠ [])).or own).any (isOfRun · row) && channel.all (isOfChannel · row)

/-- A row of the event log, with its key. -/
def eventRow (r : Keyed Row) : Row :=
  ("id", some (.integer r.id)) :: columnsOf eventLogColumns r.row

/-- `get_recent_events`, of a storage object whose own run is `own`. -/
def getRecentEvents (t : TelemetryTables) (own runId : Option (List Char)) :
    Option ℕ → Option ℤ → List Row
  | none, channel => (t.eventLog.select (isEventOf own runId channel) .asc none).map eventRow
  | some limit, channel =>
    ((t.eventLog.select (isEventOf own runId channel) .desc (some limit)).map eventRow).reverse

/-! ## What is read -/

theorem get_columnsOf {columns : List String} {c : String} (row : Row) (hc : c ∈ columns) :
    (columnsOf columns row).get c = row.get c := by
  have hlookup : (columnsOf columns row).lookup c = some (row.get c) := by
    induction columns with
    | nil => exact absurd hc List.not_mem_nil
    | cons d columns ih =>
      rw [columnsOf, List.map_cons, List.lookup_cons]
      by_cases h : c = d
      · rw [h, beq_self_eq_true]
      · rw [beq_false_of_ne h]
        exact ih ((List.mem_cons.mp hc).resolve_left h)
  rw [Row.get, hlookup, Option.join_some]

theorem isReading_columnsOf (row : Row) :
    (!isPrecheck (columnsOf measurementColumns row) &&
        isElectrical (columnsOf measurementColumns row)) =
      (!isPrecheck row && isElectrical row) := by
  unfold isPrecheck isElectrical
  rw [get_columnsOf row (by decide), get_columnsOf row (by decide), get_columnsOf row (by decide),
    get_columnsOf row (by decide), get_columnsOf row (by decide)]

theorem rtake_map {α β : Type} (f : α → β) (l : List α) (k : ℕ) :
    (l.map f).rtake k = (l.rtake k).map f := by
  rw [List.rtake, List.rtake, List.length_map, List.map_drop]

variable {t : TelemetryTables} {own runId : Option (List Char)} {channel : Option ℤ}

/-- The bounded read of the measurements. -/
theorem getMeasurements_some (k : ℕ) : t.getMeasurements runId channel (some k) =
    (t.getMeasurements runId channel none).rtake k := by
  rw [getMeasurements, getMeasurements, rtake_map, ← List.map_reverse, Table.reverse_select_desc]

/-- The bounded read of the events. -/
theorem getRecentEvents_some (k : ℕ) : t.getRecentEvents own runId (some k) channel =
    (t.getRecentEvents own runId none channel).rtake k := by
  rw [getRecentEvents, getRecentEvents, rtake_map, ← List.map_reverse, Table.reverse_select_desc]

theorem getFirstMeasurement_eq : t.getFirstMeasurement runId channel =
    (t.getMeasurements runId channel none).find? fun row ↦ !isPrecheck row && isElectrical row := by
  have hcond : (fun row ↦ (!isPrecheck row && isElectrical row) && isAskedFor runId channel row) =
      fun row ↦ isAskedFor runId channel row && (!isPrecheck row && isElectrical row) :=
    funext fun row ↦ Bool.and_comm _ _
  rw [getFirstMeasurement, getMeasurements, hcond, Table.select_asc_one, List.find?_map]
  simp only [Function.comp_def, isReading_columnsOf]

/-- **One more row** is read after the others. -/
theorem getMeasurements_write (w : TelemetryWrite) :
    t.getMeasurements runId channel none <+: (t.write w).getMeasurements runId channel none := by
  cases w with
  | measurement row =>
    have hselect := t.measurements.select_insert (p := isAskedFor runId channel) row
    rw [write, getMeasurements, getMeasurements, hselect, List.map_append]
    exact List.prefix_append _ _
  | event row => exact List.prefix_refl _

/-- **A history** appends to what is read. -/
theorem getMeasurements_writeAll (later : List TelemetryWrite) :
    t.getMeasurements runId channel none <+:
      (t.writeAll later).getMeasurements runId channel none := by
  induction later generalizing t with
  | nil => exact List.prefix_refl _
  | cons w later ih => exact (getMeasurements_write w).trans ih

theorem getFirstMeasurement_writeAll {first : Row} (later : List TelemetryWrite)
    (h : t.getFirstMeasurement runId channel = some first) :
    (t.writeAll later).getFirstMeasurement runId channel = some first := by
  obtain ⟨rest, hrest⟩ : t.getMeasurements runId channel none <+:
    (t.writeAll later).getMeasurements runId channel none := getMeasurements_writeAll later
  rw [getFirstMeasurement_eq] at h ⊢
  rw [← hrest, List.find?_append, h, Option.some_or]

/-- **The reads agree.** After every history the bounded reads are the last rows of the full ones,
and the first measurement is the first of the full list that is no pre-check and has an electrical
value. Once there is one, it stays the first whatever is recorded later. -/
theorem reads_agree (history : List TelemetryWrite) (own runId : Option (List Char))
    (channel : Option ℤ) (k : ℕ) :
    (empty.writeAll history).getMeasurements runId channel (some k) =
        ((empty.writeAll history).getMeasurements runId channel none).rtake k ∧
      (empty.writeAll history).getRecentEvents own runId (some k) channel =
        ((empty.writeAll history).getRecentEvents own runId none channel).rtake k ∧
      (empty.writeAll history).getFirstMeasurement runId channel =
        ((empty.writeAll history).getMeasurements runId channel none).find?
          (fun row ↦ !isPrecheck row && isElectrical row) ∧
      ∀ first later, (empty.writeAll history).getFirstMeasurement runId channel = some first →
        (empty.writeAll (history ++ later)).getFirstMeasurement runId channel = some first := by
  refine ⟨getMeasurements_some k, getRecentEvents_some k, getFirstMeasurement_eq, ?_⟩
  intro first later hfirst
  rw [writeAll, List.foldl_append]
  exact getFirstMeasurement_writeAll later hfirst

/-- The row of a pre-check, with a voltage. -/
def precheckRow : Row :=
  [("run_id", some (.text ['R'])), ("channel", some (.integer 1)),
    ("phase_detail", some (.text "NTC_PRECHECK".toList)), ("voltage_v", some (.real 2))]

/-- The first reading of a charge. -/
def readingRow : Row :=
  [("run_id", some (.text ['R'])), ("channel", some (.integer 1)),
    ("dmm_measured_v", some (.real 4))]

/-- After a pre-check and a reading, the reading is the first measurement, and stays it when the
pre-check is made again. -/
theorem reads_agree_charge :
    (empty.writeAll [.measurement precheckRow, .measurement readingRow,
      .measurement precheckRow]).getFirstMeasurement (some ['R']) (some 1) =
      some (columnsOf measurementColumns readingRow) :=
  (reads_agree [.measurement precheckRow, .measurement readingRow] none (some ['R']) (some 1)
    0).2.2.2 _ [.measurement precheckRow] (by decide +kernel)

end TelemetryTables

end Nipxi
