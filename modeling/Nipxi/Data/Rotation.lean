import Nipxi.Effect.Journal
import Nipxi.Transition.System
import Mathlib.Data.List.Basic
import Mathlib.Data.Nat.Notation
import Mathlib.Logic.Function.Basic

/-!
# Monthly telemetry files

Measurements, events and hardware audit rows go to the telemetry file of a month. Three kinds of
writers choose the file, each by itself and each when it first connects: a storage object when it
is opened, the audit writer of a hardware manager at its first row, and a writer made for one
safety record when the record is written. `run_summary.telemetry_db` is the file of the storage
object.

The model has any number of storage objects and audit writers, and every step has its own time.
Which month a writer is pinned to is read off the schedule alone: `storageMonth`, `runMonth` and
`writerPast` go back to the step that opened a storage object, gave out a run id, or opened a
connection. `Dated` says that the files in the state are those of these months, so that a row of a
run is in the file of the run where the two months are the same.

## Main results

* `dated_run`: every file that is open, or chosen for a run, is that of the month of its opening.
* `oneFile_of_monthsKept`: where every audit row of a run goes through a connection opened in the
  month in which the run's storage object was opened, and every safety record of a run is made in
  that month, all rows of a run are in the file its summary names.
-/

namespace Nipxi

open Effect Transition

/-! ## The file of a month -/

/-- A moment: the months since year zero, and the time within the month. -/
structure Moment where
  month : ℕ
  rest : ℕ
  deriving DecidableEq

/-- The order of time. -/
def Moment.Before (a b : Moment) : Prop := a.month < b.month ∨ (a.month = b.month ∧ a.rest ≤ b.rest)

/-- The last `width` decimal digits of a number. -/
def digitsOf : ℕ → ℕ → List Char
  | 0, _ => []
  | width + 1, n => digitsOf width (n / 10) ++ [Nat.digitChar (n % 10)]

/-- The name of a telemetry file. -/
abbrev TelemetryFile := List Char

/-- `telemetry_database_file`, up to the directory, which is the same for all: the file the
settings name, or that of the month. -/
def telemetryDatabaseFile (databaseFile : Option TelemetryFile) (now : Moment) : TelemetryFile :=
  databaseFile.getD
    ("nipxi_".toList ++ digitsOf 4 (now.month / 12) ++ '_' :: digitsOf 2 (now.month % 12 + 1) ++
      ".db".toList)

/-! ## Writers and rows -/

/-- What a `DataStorage` knows of its telemetry file and its run. -/
structure TelemetryHandle where
  db : Option TelemetryFile
  telemetryDbName : Option TelemetryFile
  runId : Option (List Char)
  deriving DecidableEq

/-- A `RawHardwareLogWriter`. -/
structure AuditWriter where
  db : Option TelemetryFile
  connectFailed : Bool
  deriving DecidableEq

inductive TelemetryTable
  | measurements
  | eventLog
  | rawHardwareLog
  deriving DecidableEq

/-- A row of a telemetry file. -/
structure TelemetryRow where
  table : TelemetryTable
  runId : Option (List Char)
  file : TelemetryFile
  deriving DecidableEq

structure RotationState (ι κ : Type) where
  storage : ι → TelemetryHandle
  writer : κ → AuditWriter
  /-- The run ids given out, with the files of the storage objects that gave them out. -/
  runs : List (List Char × TelemetryFile)
  /-- The rows of `run_summary`: run id and `telemetry_db`. -/
  summaries : List (List Char × TelemetryFile)
  rows : List TelemetryRow
  now : Moment

/-- What becomes of an audit row. -/
inductive AuditOutcome
  | connectFails
  | writeFails
  | written
  deriving DecidableEq

inductive RotationAction (ι κ : Type)
  /-- `open` succeeds and allocates a run id. -/
  | openStorage (i : ι) (runId : List Char)
  /-- An attempt of `open` fails after it has resolved the file. -/
  | openFails (i : ι)
  | closeStorage (i : ι)
  | beginNewRunId (i : ι) (runId : List Char)
  | startRunSummary (i : ι)
  /-- `record`, `record_measurement` or `log_event`. -/
  | write (i : ι) (table : TelemetryTable)
  | audit (k : κ) (runId : Option (List Char)) (outcome : AuditOutcome)
  | closeWriter (k : κ)
  /-- `report_safety_fault` or `acknowledge_safety_fault`: an event through the storage object of a
  caller that has one, and a hardware row through a writer of its own. -/
  | safetyRecord (storage : Option ι) (runId : Option (List Char)) (outcome : AuditOutcome)

section System

variable {ι κ : Type} [DecidableEq ι] [DecidableEq κ] (databaseFile : Option TelemetryFile)

namespace RotationState

def setStorage (s : RotationState ι κ) (i : ι) (h : TelemetryHandle) : RotationState ι κ :=
  { s with storage := Function.update s.storage i h }

def setWriter (s : RotationState ι κ) (k : κ) (w : AuditWriter) : RotationState ι κ :=
  { s with writer := Function.update s.writer k w }

def addRow (s : RotationState ι κ) (row : TelemetryRow) : RotationState ι κ :=
  { s with rows := row :: s.rows }

/-- The file an audit row goes to: that of the connection, or that of the month where the writer
has yet to connect. -/
def auditFile (s : RotationState ι κ) (k : κ) (now : Moment) : TelemetryFile :=
  (s.writer k).db.getD (telemetryDatabaseFile databaseFile now)

/-- `RawHardwareLogWriter.log`. A connection that fails to open is never tried again; one that
fails to write is dropped, and the next row opens a new one. -/
def audit (s : RotationState ι κ) (k : κ) (runId : Option (List Char)) (now : Moment) :
    AuditOutcome → RotationState ι κ
  | .connectFails =>
    match (s.writer k).db with
    | some _ => s
    | none => s.setWriter k ⟨none, true⟩
  | .writeFails =>
    if (s.writer k).db = none ∧ (s.writer k).connectFailed then s
    else s.setWriter k ⟨none, (s.writer k).connectFailed⟩
  | .written =>
    if (s.writer k).db = none ∧ (s.writer k).connectFailed then s
    else
      (s.setWriter k ⟨some (s.auditFile databaseFile k now), (s.writer k).connectFailed⟩).addRow
        ⟨.rawHardwareLog, runId, s.auditFile databaseFile k now⟩

/-- A row of the storage object's own run, in its own file; nothing where it is not open. -/
def write (s : RotationState ι κ) (i : ι) (table : TelemetryTable) : RotationState ι κ :=
  match (s.storage i).db with
  | some file => s.addRow ⟨table, (s.storage i).runId, file⟩
  | none => s

/-- The event of a safety record, if there is a storage object for it. -/
def safetyEvent (s : RotationState ι κ) : Option ι → RotationState ι κ
  | some i => s.write i .eventLog
  | none => s

/-- The hardware row of a safety record: its writer is new, so it resolves the file now. -/
def safetyRow (s : RotationState ι κ) (runId : Option (List Char)) (now : Moment) :
    AuditOutcome → RotationState ι κ
  | .written => s.addRow ⟨.rawHardwareLog, runId, telemetryDatabaseFile databaseFile now⟩
  | _ => s

/-- `start_run_summary`, which raises where the object is not open. -/
def startRunSummary (s : RotationState ι κ) (i : ι) : RotationState ι κ :=
  match (s.storage i).db, (s.storage i).runId, (s.storage i).telemetryDbName with
  | some _, some runId, some name => { s with summaries := (runId, name) :: s.summaries }
  | _, _, _ => s

end RotationState

/-- A run id that a storage object has given out, or none. -/
def KnownRun (s : RotationState ι κ) (runId : Option (List Char)) : Prop :=
  ∀ r, runId = some r → ∃ file, (r, file) ∈ s.runs

/-- A run id that no storage object has given out. -/
def NewRun (s : RotationState ι κ) (runId : List Char) : Prop := ∀ file, (runId, file) ∉ s.runs

/-- What an action does at a time. Run ids are never given out twice, and the audit writer is
given the id of a run that there is. -/
inductive RotationActs (s : RotationState ι κ) (now : Moment) :
    RotationAction ι κ → RotationState ι κ → Prop
  | openStorage {i r} : NewRun s r →
      RotationActs s now (.openStorage i r)
        { s.setStorage i ⟨some (telemetryDatabaseFile databaseFile now),
            some (telemetryDatabaseFile databaseFile now), some r⟩ with
          runs := (r, telemetryDatabaseFile databaseFile now) :: s.runs }
  | openFails {i} :
      RotationActs s now (.openFails i)
        (s.setStorage i { s.storage i with
          db := none, telemetryDbName := some (telemetryDatabaseFile databaseFile now) })
  | closeStorage {i} :
      RotationActs s now (.closeStorage i) (s.setStorage i { s.storage i with db := none })
  | beginNewRunId {i r file} : (s.storage i).db = some file → NewRun s r →
      RotationActs s now (.beginNewRunId i r)
        { s.setStorage i { s.storage i with runId := some r } with runs := (r, file) :: s.runs }
  | startRunSummary {i} : RotationActs s now (.startRunSummary i) (s.startRunSummary i)
  | write {i table} : RotationActs s now (.write i table) (s.write i table)
  | audit {k r outcome} : KnownRun s r →
      RotationActs s now (.audit k r outcome) (s.audit databaseFile k r now outcome)
  | closeWriter {k} :
      RotationActs s now (.closeWriter k) (s.setWriter k { s.writer k with db := none })
  | safetyRecord {storage r outcome} : KnownRun s r →
      RotationActs s now (.safetyRecord storage r outcome)
        ((s.safetyEvent storage).safetyRow databaseFile r now outcome)

/-- A station with closed storage objects and unconnected writers. -/
def RotationState.Initial (s : RotationState ι κ) : Prop :=
  (∀ i, s.storage i = ⟨none, none, none⟩) ∧ (∀ k, s.writer k = ⟨none, false⟩) ∧ s.runs = [] ∧
    s.summaries = [] ∧ s.rows = []

/-- Steps at nondecreasing times. -/
def rotationSystem : System (RotationState ι κ) (Moment × RotationAction ι κ) where
  init := RotationState.Initial
  step s e s' :=
    s.now.Before e.1 ∧ ∃ s₁, RotationActs databaseFile s e.1 e.2 s₁ ∧ s' = { s₁ with now := e.1 }

/-- Every row of a run is in the file that the summary of the run names. -/
def OneFile (s : RotationState ι κ) : Prop :=
  ∀ row ∈ s.rows, ∀ r name, row.runId = some r → (r, name) ∈ s.summaries → row.file = name

/-! ## The months of a schedule -/

/-- The month in which a storage object was last opened, by the steps so far, newest first. -/
def storageMonth (i : ι) : List (Moment × RotationAction ι κ) → Option ℕ
  | [] => none
  | (now, .openStorage j _) :: older => if j = i then some now.month else storageMonth i older
  | _ :: older => storageMonth i older

/-- The month in which the storage object that gave out a run id was opened. -/
def runMonth (r : List Char) : List (Moment × RotationAction ι κ) → Option ℕ
  | [] => none
  | (now, .openStorage _ r') :: older => if r' = r then some now.month else runMonth r older
  | (_, .beginNewRunId i r') :: older => if r' = r then storageMonth i older else runMonth r older
  | _ :: older => runMonth r older

/-- What the past of an audit writer comes to: the month in which its open connection was opened,
and whether it has given up connecting. -/
structure WriterPast where
  month : Option ℕ
  gaveUp : Bool
  deriving DecidableEq

/-- The month whose file a row goes to that is written now, if it goes to one. -/
def WriterPast.rowMonth (past : WriterPast) (now : ℕ) : Option ℕ :=
  if past.month = none ∧ past.gaveUp then none else some (past.month.getD now)

/-- The past after one more row. -/
def WriterPast.next (past : WriterPast) (now : ℕ) : AuditOutcome → WriterPast
  | .connectFails => if past.month = none then ⟨none, true⟩ else past
  | .writeFails => ⟨none, past.gaveUp⟩
  | .written => ⟨past.rowMonth now, past.gaveUp⟩

/-- The past of a writer. A connection is opened by the first row after none was open, and given up
by a row that could not be written or when the writer is closed. -/
def writerPast (k : κ) : List (Moment × RotationAction ι κ) → WriterPast
  | [] => ⟨none, false⟩
  | (now, .audit j _ outcome) :: older =>
    if j = k then (writerPast k older).next now.month outcome else writerPast k older
  | (_, .closeWriter j) :: older =>
    if j = k then ⟨none, (writerPast k older).gaveUp⟩ else writerPast k older
  | _ :: older => writerPast k older

/-- A hardware row of a run is pinned to the month of the run: the connection of an audit row was
opened in the month in which the run's storage object was opened, and a safety record is made in
that month. -/
def InRunMonth (older : List (Moment × RotationAction ι κ)) : Moment × RotationAction ι κ → Prop
  | (now, .audit k (some r) .written) =>
    ∀ month, (writerPast k older).rowMonth now.month = some month → runMonth r older = some month
  | (now, .safetyRecord _ (some r) .written) => runMonth r older = some now.month
  | _ => True

/-- So is every hardware row of a schedule. -/
def MonthsKept (evs : List (Moment × RotationAction ι κ)) : Prop :=
  AtEach (fun e older ↦ InRunMonth older e) evs

/-- An audit row or a safety record of a run goes to the file of the run's storage object. -/
def SameFile (s : RotationState ι κ) : Moment × RotationAction ι κ → Prop
  | (now, .audit k (some r) .written) =>
    ¬((s.writer k).db = none ∧ (s.writer k).connectFailed = true) →
      ∀ file, (r, file) ∈ s.runs → s.auditFile databaseFile k now = file
  | (now, .safetyRecord _ (some r) .written) =>
    ∀ file, (r, file) ∈ s.runs → telemetryDatabaseFile databaseFile now = file
  | _ => True

/-! ## The invariant -/

/-- **The rotation invariant.** An open storage object names the file it writes to; run ids, rows
and summaries agree on the file of a run. -/
structure RotationInv (s : RotationState ι κ) : Prop where
  handles : ∀ i file, (s.storage i).db = some file → (s.storage i).telemetryDbName = some file ∧
    ∃ r, (s.storage i).runId = some r ∧ (r, file) ∈ s.runs
  unique : ∀ r file file', (r, file) ∈ s.runs → (r, file') ∈ s.runs → file = file'
  summaries : ∀ p ∈ s.summaries, p ∈ s.runs
  rows : ∀ row ∈ s.rows, ∀ r, row.runId = some r → (r, row.file) ∈ s.runs

namespace RotationInv

variable {s s' : RotationState ι κ} {databaseFile}

omit [DecidableEq ι] [DecidableEq κ] in
theorem of_initial (h : s.Initial) : RotationInv s := by
  obtain ⟨hstorage, -, hruns, hsummaries, hrows⟩ := h
  refine ⟨fun i file hfile ↦ ?_, fun r file file' hfile ↦ ?_, ?_, ?_⟩
  · rw [hstorage i] at hfile
    cases hfile
  · rw [hruns] at hfile
    exact absurd hfile List.not_mem_nil
  · rw [hsummaries]
    exact fun _ hp ↦ absurd hp List.not_mem_nil
  · rw [hrows]
    exact fun _ hrow ↦ absurd hrow List.not_mem_nil

omit [DecidableEq ι] [DecidableEq κ] in
theorem oneFile (h : RotationInv s) : OneFile s := fun row hrow r _ hr hname ↦
  h.unique r _ _ (h.rows row hrow r hr) (h.summaries _ hname)

omit [DecidableEq κ] in
/-- Closing an object, or failing to open it, leaves the run ids as they are. -/
theorem close (h : RotationInv s) (i : ι) (handle : TelemetryHandle) (hdb : handle.db = none) :
    RotationInv (s.setStorage i handle) := by
  refine ⟨fun j file hfile ↦ ?_, h.unique, h.summaries, h.rows⟩
  by_cases hj : j = i
  · subst hj
    simp only [RotationState.setStorage, Function.update_self, hdb] at hfile
    cases hfile
  · simp only [RotationState.setStorage, Function.update_of_ne hj] at hfile ⊢
    exact h.handles j file hfile

omit [DecidableEq κ] in
/-- An open object gives out a run id. -/
theorem newRun (h : RotationInv s) {i : ι} {handle : TelemetryHandle} {r : List Char}
    {file : TelemetryFile} (hnew : NewRun s r) (hdb : handle.db = some file)
    (hname : handle.telemetryDbName = some file) (hrun : handle.runId = some r) :
    RotationInv { s.setStorage i handle with runs := (r, file) :: s.runs } := by
  refine ⟨fun j f hf ↦ ?_, fun r' f f' hf hf' ↦ ?_, fun p hp ↦ ?_, fun row hrow r' hr ↦ ?_⟩
  · by_cases hj : j = i
    · subst hj
      simp only [RotationState.setStorage, Function.update_self] at hf ⊢
      obtain rfl : file = f := Option.some.inj (hdb.symm.trans hf)
      exact ⟨hname, r, hrun, List.mem_cons_self⟩
    · simp only [RotationState.setStorage, Function.update_of_ne hj] at hf ⊢
      obtain ⟨hname', r', hr', hmem⟩ := h.handles j f hf
      exact ⟨hname', r', hr', List.mem_cons_of_mem _ hmem⟩
  · rcases List.mem_cons.mp hf with heq | hf <;> rcases List.mem_cons.mp hf' with heq' | hf'
    · rw [(Prod.mk.inj heq).2, (Prod.mk.inj heq').2]
    · exact absurd ((Prod.mk.inj heq).1 ▸ hf') (hnew f')
    · exact absurd ((Prod.mk.inj heq').1 ▸ hf) (hnew f)
    · exact h.unique r' f f' hf hf'
  · exact List.mem_cons_of_mem _ (h.summaries p hp)
  · exact List.mem_cons_of_mem _ (h.rows row hrow r' hr)

omit [DecidableEq ι] [DecidableEq κ] in
theorem addRow (h : RotationInv s) {row : TelemetryRow}
    (hrow : ∀ r, row.runId = some r → (r, row.file) ∈ s.runs) : RotationInv (s.addRow row) := by
  refine ⟨h.handles, h.unique, h.summaries, fun row' hrow' ↦ ?_⟩
  rcases List.mem_cons.mp hrow' with rfl | hrow'
  · exact hrow
  · exact h.rows row' hrow'

omit [DecidableEq ι] [DecidableEq κ] in
/-- A storage object writes to the file of its run. -/
theorem write (h : RotationInv s) (i : ι) (table : TelemetryTable) :
    RotationInv (s.write i table) := by
  unfold RotationState.write
  split
  · rename_i file hfile
    obtain ⟨-, r, hr, hmem⟩ := h.handles i file hfile
    refine h.addRow fun r' hr' ↦ ?_
    obtain rfl : r = r' := Option.some.inj (hr.symm.trans hr')
    exact hmem
  · exact h

omit [DecidableEq ι] [DecidableEq κ] in
theorem startRunSummary (h : RotationInv s) (i : ι) : RotationInv (s.startRunSummary i) := by
  unfold RotationState.startRunSummary
  split
  · rename_i file r name hfile hr hname
    obtain ⟨hname', r', hr', hmem⟩ := h.handles i file hfile
    obtain rfl : r' = r := Option.some.inj (hr'.symm.trans hr)
    obtain rfl : file = name := Option.some.inj (hname'.symm.trans hname)
    refine ⟨h.handles, h.unique, fun p hp ↦ ?_, h.rows⟩
    rcases List.mem_cons.mp hp with rfl | hp
    · exact hmem
    · exact h.summaries p hp
  · exact h

omit [DecidableEq ι] [DecidableEq κ] in
theorem addKnownRow (h : RotationInv s) {table : TelemetryTable} {runId : Option (List Char)}
    {file : TelemetryFile} (hknown : KnownRun s runId)
    (hsame : ∀ r, runId = some r → ∀ f, (r, f) ∈ s.runs → file = f) :
    RotationInv (s.addRow ⟨table, runId, file⟩) := by
  refine h.addRow fun r hr ↦ ?_
  obtain ⟨f, hf⟩ := hknown r hr
  rw [hsame r hr f hf]
  exact hf

omit [DecidableEq ι] in
theorem audit (h : RotationInv s) {k : κ} {runId : Option (List Char)} {now : Moment}
    {outcome : AuditOutcome} (hknown : KnownRun s runId)
    (hsame : SameFile databaseFile s (now, .audit k runId outcome)) :
    RotationInv (s.audit databaseFile k runId now outcome) := by
  have hwriter (w : AuditWriter) : RotationInv (s.setWriter k w) :=
    ⟨h.handles, h.unique, h.summaries, h.rows⟩
  cases outcome with
  | connectFails =>
    rw [RotationState.audit]
    split
    · exact h
    · exact hwriter _
  | writeFails =>
    rw [RotationState.audit]
    split
    · exact h
    · exact hwriter _
  | written =>
    rw [RotationState.audit]
    split
    · exact h
    · next hwrites =>
      refine (hwriter _).addKnownRow hknown fun r hr file hfile ↦ ?_
      subst hr
      exact hsame hwrites file hfile

omit [DecidableEq ι] [DecidableEq κ] in
theorem safetyRecord (h : RotationInv s) {storage : Option ι} {runId : Option (List Char)}
    {now : Moment} {outcome : AuditOutcome} (hknown : KnownRun s runId)
    (hsame : SameFile databaseFile s (now, .safetyRecord storage runId outcome)) :
    RotationInv ((s.safetyEvent storage).safetyRow databaseFile runId now outcome) := by
  have hevent : RotationInv (s.safetyEvent storage) ∧ (s.safetyEvent storage).runs = s.runs := by
    cases storage with
    | none => exact ⟨h, rfl⟩
    | some i =>
      refine ⟨h.write i .eventLog, ?_⟩
      rw [RotationState.safetyEvent, RotationState.write]
      split <;> rfl
  cases outcome with
  | connectFails | writeFails => exact hevent.1
  | written =>
    refine hevent.1.addKnownRow (fun r hr ↦ ?_) fun r hr file hfile ↦ ?_
    · rw [hevent.2]
      exact hknown r hr
    · rw [hevent.2] at hfile
      subst hr
      exact hsame file hfile

/-- **What every action keeps**, where audit rows and safety records go to the file of their
run. -/
theorem acts (h : RotationInv s) {now : Moment} {a : RotationAction ι κ}
    (hacts : RotationActs databaseFile s now a s') (hsame : SameFile databaseFile s (now, a)) :
    RotationInv s' := by
  cases hacts with
  | openStorage hnew => exact h.newRun hnew rfl rfl rfl
  | openFails => exact h.close _ _ rfl
  | closeStorage => exact h.close _ _ rfl
  | @beginNewRunId i r file hdb hnew =>
    exact h.newRun hnew hdb (h.handles i file hdb).1 rfl
  | startRunSummary => exact h.startRunSummary _
  | write => exact h.write _ _
  | audit hknown => exact h.audit hknown hsame
  | closeWriter => exact ⟨h.handles, h.unique, h.summaries, h.rows⟩
  | safetyRecord hknown => exact h.safetyRecord hknown hsame

end RotationInv

/-! ## The files are those of the months -/

/-- The file of a month. -/
def monthFile (month : ℕ) : TelemetryFile := telemetryDatabaseFile databaseFile ⟨month, 0⟩

theorem telemetryDatabaseFile_eq (now : Moment) :
    telemetryDatabaseFile databaseFile now = monthFile databaseFile now.month := rfl

/-- **What is open was opened**: the files in a state are those of the months in which the schedule
opened them. -/
structure Dated (evs : List (Moment × RotationAction ι κ)) (s : RotationState ι κ) : Prop where
  storages : ∀ i file, (s.storage i).db = some file →
    ∃ month, storageMonth i evs = some month ∧ file = monthFile databaseFile month
  runs : ∀ r file, (r, file) ∈ s.runs →
    ∃ month, runMonth r evs = some month ∧ file = monthFile databaseFile month
  writers : ∀ k, s.writer k =
    ⟨(writerPast k evs).month.map (monthFile databaseFile), (writerPast k evs).gaveUp⟩

namespace Dated

variable {databaseFile} {evs : List (Moment × RotationAction ι κ)} {s : RotationState ι κ}

theorem auditFile_eq (h : Dated databaseFile evs s) {k : κ} {now : Moment} {month : ℕ}
    (hmonth : (writerPast k evs).rowMonth now.month = some month) :
    s.auditFile databaseFile k now = monthFile databaseFile month := by
  rw [RotationState.auditFile, h.writers k, telemetryDatabaseFile_eq]
  unfold WriterPast.rowMonth at hmonth
  split at hmonth
  · cases hmonth
  · obtain rfl := Option.some.inj hmonth
    cases (writerPast k evs).month with
    | none => rfl
    | some opened => rfl

theorem gaveUp_iff (h : Dated databaseFile evs s) (k : κ) :
    ((s.writer k).db = none ∧ (s.writer k).connectFailed = true) ↔
      ((writerPast k evs).month = none ∧ (writerPast k evs).gaveUp = true) := by
  rw [h.writers k, Option.map_eq_none_iff]

theorem writer_audit (h : Dated databaseFile evs s) (k : κ) (runId : Option (List Char))
    (now : Moment) (outcome : AuditOutcome) (j : κ) :
    (s.audit databaseFile k runId now outcome).writer j =
      if k = j then
        ⟨((writerPast k evs).next now.month outcome).month.map (monthFile databaseFile),
          ((writerPast k evs).next now.month outcome).gaveUp⟩
      else s.writer j := by
  have hgave := h.gaveUp_iff k
  have hwriter := h.writers k
  have hset (w : AuditWriter) : (s.setWriter k w).writer j = if k = j then w else s.writer j := by
    change Function.update s.writer k w j = _
    rw [Function.update_apply]
    simp only [eq_comm]
  cases outcome with
  | connectFails =>
    rw [RotationState.audit, WriterPast.next]
    cases hmonth : (writerPast k evs).month with
    | none =>
      rw [hwriter, hmonth]
      exact hset _
    | some month =>
      rw [hwriter, hmonth, if_neg (Option.some_ne_none month)]
      by_cases hj : k = j
      · subst hj
        rw [if_pos rfl, hmonth]
        exact hwriter.trans (by rw [hmonth])
      · rw [if_neg hj]
        rfl
  | writeFails =>
    rw [RotationState.audit, WriterPast.next]
    split
    · next hgivenUp =>
      by_cases hj : k = j
      · subst hj
        rw [if_pos rfl, hwriter, (hgave.mp hgivenUp).1]
      · rw [if_neg hj]
    · rw [hset, hwriter]
      rfl
  | written =>
    rw [RotationState.audit, WriterPast.next]
    split
    -- a writer that has given up drops the row
    · next hgivenUp =>
      obtain ⟨hnone, hfailed⟩ := hgave.mp hgivenUp
      by_cases hj : k = j
      · subst hj
        rw [if_pos rfl, hwriter, WriterPast.rowMonth, if_pos ⟨hnone, hfailed⟩, hnone]
      · rw [if_neg hj]
    · next hgivenUp =>
      have hrow : (writerPast k evs).rowMonth now.month =
          some ((writerPast k evs).month.getD now.month) :=
        if_neg fun hpast ↦ hgivenUp (hgave.mpr hpast)
      rw [RotationState.addRow, hset, h.auditFile_eq hrow, hwriter, hrow]
      rfl

/-- **What every action keeps**, whenever it comes. -/
theorem acts (h : Dated databaseFile evs s) {now : Moment} {a : RotationAction ι κ}
    {s' : RotationState ι κ} (hacts : RotationActs databaseFile s now a s') :
    Dated databaseFile ((now, a) :: evs) s' := by
  cases hacts with
  | @openStorage i r hnew =>
    refine ⟨fun j file hfile ↦ ?_, fun r' file hmem ↦ ?_, h.writers⟩
    · by_cases hj : i = j
      · subst hj
        simp only [RotationState.setStorage, Function.update_self] at hfile
        exact ⟨now.month, if_pos rfl, (Option.some.inj hfile).symm⟩
      · simp only [RotationState.setStorage, Function.update_of_ne (Ne.symm hj)] at hfile
        obtain ⟨month, hmonth, hfile⟩ := h.storages j file hfile
        exact ⟨month, (if_neg hj).trans hmonth, hfile⟩
    · rcases List.mem_cons.mp hmem with heq | hmem
      · obtain ⟨rfl, rfl⟩ := Prod.mk.inj heq
        exact ⟨now.month, if_pos rfl, rfl⟩
      · obtain ⟨month, hmonth, hfile⟩ := h.runs r' file hmem
        have hne : r ≠ r' := fun heq ↦ hnew file (heq ▸ hmem)
        exact ⟨month, (if_neg hne).trans hmonth, hfile⟩
  | @beginNewRunId i r file hdb hnew =>
    refine ⟨fun j f hf ↦ ?_, fun r' f hmem ↦ ?_, h.writers⟩
    · by_cases hj : j = i
      · subst hj
        simp only [RotationState.setStorage, Function.update_self] at hf
        exact h.storages j f hf
      · simp only [RotationState.setStorage, Function.update_of_ne hj] at hf
        exact h.storages j f hf
    · rcases List.mem_cons.mp hmem with heq | hmem
      · obtain ⟨rfl, rfl⟩ := Prod.mk.inj heq
        obtain ⟨month, hmonth, hfile⟩ := h.storages i _ hdb
        exact ⟨month, (if_pos rfl).trans hmonth, hfile⟩
      · obtain ⟨month, hmonth, hfile⟩ := h.runs r' f hmem
        have hne : r ≠ r' := fun heq ↦ hnew f (heq ▸ hmem)
        exact ⟨month, (if_neg hne).trans hmonth, hfile⟩
  | @openFails i | @closeStorage i =>
    refine ⟨fun j file hfile ↦ ?_, h.runs, h.writers⟩
    by_cases hj : j = i
    · subst hj
      simp only [RotationState.setStorage, Function.update_self] at hfile
      cases hfile
    · simp only [RotationState.setStorage, Function.update_of_ne hj] at hfile
      exact h.storages j file hfile
  | @startRunSummary i =>
    unfold RotationState.startRunSummary
    split <;> exact ⟨h.storages, h.runs, h.writers⟩
  | @write i table =>
    unfold RotationState.write
    split <;> exact ⟨h.storages, h.runs, h.writers⟩
  | @audit k r outcome hknown =>
    have hframe : (s.audit databaseFile k r now outcome).storage = s.storage ∧
        (s.audit databaseFile k r now outcome).runs = s.runs := by
      cases outcome with
      | connectFails | writeFails | written =>
        rw [RotationState.audit]
        split <;> exact ⟨rfl, rfl⟩
    refine ⟨fun i file hfile ↦ ?_, fun r' file hmem ↦ ?_, fun j ↦ ?_⟩
    · rw [hframe.1] at hfile
      exact h.storages i file hfile
    · rw [hframe.2] at hmem
      exact h.runs r' file hmem
    · rw [h.writer_audit, h.writers j, writerPast]
      by_cases hj : k = j
      · subst hj
        rw [if_pos rfl, if_pos rfl]
      · rw [if_neg hj, if_neg hj]
  | @closeWriter k =>
    refine ⟨h.storages, h.runs, fun j ↦ ?_⟩
    change Function.update s.writer k { s.writer k with db := none } j = _
    by_cases hj : j = k
    · subst hj
      rw [Function.update_self, h.writers j, writerPast, if_pos rfl]
      rfl
    · rw [Function.update_of_ne hj, h.writers j, writerPast, if_neg (Ne.symm hj)]
  | @safetyRecord storage r outcome hknown =>
    have hevent : (s.safetyEvent storage).storage = s.storage ∧
        (s.safetyEvent storage).runs = s.runs ∧ (s.safetyEvent storage).writer = s.writer := by
      cases storage with
      | none => exact ⟨rfl, rfl, rfl⟩
      | some i =>
        rw [RotationState.safetyEvent, RotationState.write]
        split <;> exact ⟨rfl, rfl, rfl⟩
    have hrow : Dated databaseFile evs (s.safetyEvent storage) :=
      ⟨hevent.1 ▸ h.storages, hevent.2.1 ▸ h.runs, hevent.2.2 ▸ h.writers⟩
    cases outcome with
    | connectFails | writeFails | written => exact ⟨hrow.storages, hrow.runs, hrow.writers⟩

theorem file_eq (h : Dated databaseFile evs s) {r : List Char} {file : TelemetryFile} {month : ℕ}
    (hmem : (r, file) ∈ s.runs) (hmonth : databaseFile = none → runMonth r evs = some month) :
    file = monthFile databaseFile month := by
  obtain ⟨opened, hopened, rfl⟩ := h.runs r file hmem
  cases databaseFile with
  | none =>
    rw [Option.some.inj (hopened.symm.trans (hmonth rfl))]
  | some fixed => rfl

/-- **A row that is pinned to the month of its run is in the file of the run.** A file that the
settings name is that of every month. -/
theorem sameFile (h : Dated databaseFile evs s) {e : Moment × RotationAction ι κ}
    (hmonth : databaseFile = none → InRunMonth evs e) : SameFile databaseFile s e := by
  obtain ⟨now, a⟩ := e
  cases a with
  | audit k runId outcome =>
    cases runId with
    | none => cases outcome <;> trivial
    | some r =>
      cases outcome with
      | connectFails | writeFails => trivial
      | written =>
        intro hwrites file hmem
        have hrow : (writerPast k evs).rowMonth now.month =
            some ((writerPast k evs).month.getD now.month) :=
          if_neg fun hpast ↦ hwrites ((h.gaveUp_iff k).mpr hpast)
        rw [h.auditFile_eq hrow]
        exact (h.file_eq hmem fun hnone ↦ hmonth hnone _ hrow).symm
  | safetyRecord storage runId outcome =>
    cases runId with
    | none => cases outcome <;> trivial
    | some r =>
      cases outcome with
      | connectFails | writeFails => trivial
      | written =>
        intro file hmem
        exact (h.file_eq hmem hmonth).symm
  | _ => trivial

end Dated

variable {databaseFile} {evs : List (Moment × RotationAction ι κ)} {s : RotationState ι κ}

theorem dated_run (h : Run (rotationSystem databaseFile) evs s) : Dated databaseFile evs s := by
  refine h.induction (I := fun evs s ↦ Dated databaseFile evs s) (fun s hinit ↦ ?_)
    fun evs s e s' _ hdated hs ↦ ?_
  · obtain ⟨hstorage, hwriter, hruns, -, -⟩ := hinit
    refine ⟨fun i file hfile ↦ ?_, fun r file hmem ↦ ?_, hwriter⟩
    · rw [hstorage i] at hfile
      cases hfile
    · rw [hruns] at hmem
      exact absurd hmem List.not_mem_nil
  · obtain ⟨-, s₁, hacts, rfl⟩ := hs
    have hacted := hdated.acts hacts
    exact ⟨hacted.storages, hacted.runs, hacted.writers⟩

theorem rotationInv_run (h : Run (rotationSystem databaseFile) evs s)
    (hmonths : databaseFile = none → MonthsKept evs) : RotationInv s := by
  induction h with
  | init hinit => exact .of_initial hinit
  | step hrun hs ih =>
    obtain ⟨-, s₁, hacts, rfl⟩ := hs
    have hacted := (ih fun hnone ↦ (hmonths hnone).2).acts hacts
      ((dated_run hrun).sameFile fun hnone ↦ (hmonths hnone).1)
    exact ⟨hacted.handles, hacted.unique, hacted.summaries, hacted.rows⟩

/-- **The telemetry of a run is in one file**, in every run of the station in which the connection
of each audit row of a run was opened in the month in which the run's storage object was opened, and
each safety record of a run is made in that month; or in which the settings name the file. -/
theorem oneFile_of_monthsKept (h : Run (rotationSystem databaseFile) evs s)
    (hmonths : databaseFile = none → MonthsKept evs) : OneFile s :=
  (rotationInv_run h hmonths).oneFile

end System

/-! ## A safety fault after the month has changed -/

/-- The last moment of a month, and the first of the next. -/
def monthEnd : Moment := ⟨24312, 59⟩

def nextMonth : Moment := ⟨24313, 0⟩

/-- One storage object and one audit writer. -/
def newRotation : RotationState Unit Unit :=
  ⟨fun _ ↦ ⟨none, none, none⟩, fun _ ↦ ⟨none, false⟩, [], [], [], monthEnd⟩

theorem newRotation_initial : newRotation.Initial :=
  ⟨fun _ ↦ rfl, fun _ ↦ rfl, rfl, rfl, rfl⟩

/-- Two runs, and a month that changes between them. The rows of `R` that come after the change go
through the connection opened before it; the writer is closed before `Q`, whose safety fault is in
the month in which its storage object was opened. -/
theorem oneFile_acrossMonths : ∃ (evs : List (Moment × RotationAction Unit Unit))
    (s : RotationState Unit Unit),
    Run (rotationSystem none) evs s ∧ MonthsKept evs ∧
      s.rows.map TelemetryRow.runId = [some ['Q'], some ['R'], some ['R'], some ['R']] ∧
      s.summaries.map Prod.fst = [['Q'], ['R']] ∧ OneFile s := by
  have hknown {s : RotationState Unit Unit} {r : List Char} {file : TelemetryFile}
      (h : (r, file) ∈ s.runs) : KnownRun s (some r) := fun r' hr ↦
    ⟨file, Option.some.inj hr ▸ h⟩
  have hnow : monthEnd.Before monthEnd := .inr ⟨rfl, Nat.le_refl _⟩
  have hnext : nextMonth.Before nextMonth := .inr ⟨rfl, Nat.le_refl _⟩
  have hrun := Run.init (S := rotationSystem none) newRotation_initial
    |>.step (e := (monthEnd, RotationAction.openStorage () ['R']))
      ⟨hnow, _, .openStorage fun _ ↦ List.not_mem_nil, rfl⟩
    |>.step (e := (monthEnd, RotationAction.startRunSummary ())) ⟨hnow, _, .startRunSummary, rfl⟩
    |>.step (e := (monthEnd, RotationAction.audit () (some ['R']) .written))
      ⟨hnow, _, .audit (hknown List.mem_cons_self), rfl⟩
    |>.step (e := (nextMonth, RotationAction.audit () (some ['R']) .written))
      ⟨.inl (by decide), _, .audit (hknown List.mem_cons_self), rfl⟩
    |>.step (e := (nextMonth, RotationAction.write () .measurements)) ⟨hnext, _, .write, rfl⟩
    |>.step (e := (nextMonth, RotationAction.closeStorage ())) ⟨hnext, _, .closeStorage, rfl⟩
    |>.step (e := (nextMonth, RotationAction.closeWriter ())) ⟨hnext, _, .closeWriter, rfl⟩
    |>.step (e := (nextMonth, RotationAction.openStorage () ['Q']))
      ⟨hnext, _, .openStorage (by
        intro file hfile
        exact absurd (Prod.mk.inj (List.mem_singleton.mp hfile)).1 (by decide)), rfl⟩
    |>.step (e := (nextMonth, RotationAction.startRunSummary ())) ⟨hnext, _, .startRunSummary, rfl⟩
    |>.step (e := (nextMonth, RotationAction.safetyRecord none (some ['Q']) .written))
      ⟨hnext, _, .safetyRecord (hknown List.mem_cons_self), rfl⟩
  refine ⟨_, _, hrun, ?kept, rfl, rfl, oneFile_of_monthsKept hrun fun _ ↦ ?kept⟩
  -- from the newest step to the oldest
  exact ⟨rfl, trivial, trivial, trivial, trivial, trivial, fun _ h ↦ h, fun _ h ↦ h, trivial,
    trivial, trivial⟩

/-- The storage object of run `R` is opened at the end of a month; the SMU fault at the end of the
workflow is reported in the next. -/
theorem not_oneFile_nextMonth :
    ¬∀ (evs : List (Moment × RotationAction Unit Unit)) (s : RotationState Unit Unit),
      Run (rotationSystem none) evs s → OneFile s := by
  intro h
  have hknown {s : RotationState Unit Unit} {file : TelemetryFile} (h : (['R'], file) ∈ s.runs) :
      KnownRun s (some ['R']) := fun r hr ↦ ⟨file, Option.some.inj hr ▸ h⟩
  have hone := h _ _
    (Run.init (S := rotationSystem none) newRotation_initial
    |>.step (e := (monthEnd, RotationAction.openStorage () ['R']))
      ⟨Or.inr ⟨rfl, Nat.le_refl _⟩, _, .openStorage fun _ ↦ List.not_mem_nil, rfl⟩
    |>.step (e := (monthEnd, RotationAction.startRunSummary ()))
      ⟨Or.inr ⟨rfl, Nat.le_refl _⟩, _, .startRunSummary, rfl⟩
    |>.step (e := (nextMonth, RotationAction.safetyRecord none (some ['R']) .written))
      ⟨Or.inl (by decide), _, .safetyRecord (hknown List.mem_cons_self), rfl⟩)
  have hfile := hone _ List.mem_cons_self ['R'] _ rfl List.mem_cons_self
  exact absurd hfile (by decide +kernel)

end Nipxi
