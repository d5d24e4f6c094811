import Nipxi.Scripts.SafetyExport
import Nipxi.Data.Storage
import Nipxi.Sqlite.Wal

/-!
# What a forensic export reads

An export opens the index database and the telemetry file of the run as immutable files, so that it
reads their main files and nothing that is still in a write-ahead log. A telemetry file it cannot
open makes its counts unknown; a measurements query that fails makes that count zero.

## Main results

* `reflects_iff`: an export reflects what was committed for its run exactly if the run's summary
  and every row counted are in the main files, and no measurements are lost to a failed query.
-/

namespace Nipxi

open Collections Sqlite

/-! ## The databases -/

/-- The columns of `run_summary` an export opens its files by. -/
structure RunSummaryRow where
  runId : List Char
  telemetryDb : Option (List Char)
  deriving DecidableEq

/-- A transaction on the index database: the run summaries it adds. -/
abbrev IndexCommit := List RunSummaryRow

/-- A transaction on a telemetry file: the rows it adds. The first one creates the tables. -/
structure TelemetryCommit where
  events : List EventRow
  measurements : List Row
  rawHardwareLog : List RawHardwareRow

/-- The files of a station. -/
structure StationFiles where
  index : Option (WalFile IndexCommit)
  telemetry : Dict (List Char) (WalFile TelemetryCommit)

/-- What happens to the files before an export. -/
inductive FileStep
  | commitIndex (c : IndexCommit)
  | checkpointIndex (n : ℕ)
  | commitTelemetry (name : List Char) (c : TelemetryCommit)
  | checkpointTelemetry (name : List Char) (n : ℕ)

/-- A file that does not exist is created by its first transaction. -/
def commitTo {τ : Type} (file : Option (WalFile τ)) (t : τ) : WalFile τ :=
  (file.getD ⟨[], []⟩).commit t

def StationFiles.step (s : StationFiles) : FileStep → StationFiles
  | .commitIndex c => { s with index := some (commitTo s.index c) }
  | .checkpointIndex n => { s with index := s.index.map (·.checkpoint n) }
  | .commitTelemetry name c => { s with telemetry := s.telemetry.upsert name (commitTo · c) }
  | .checkpointTelemetry name n =>
    match s.telemetry.get? name with
    | some file => { s with telemetry := s.telemetry.insert name (file.checkpoint n) }
    | none => s

/-- The files after a history. -/
def historyState (history : List FileStep) : StationFiles :=
  history.foldl StationFiles.step ⟨none, Dict.empty⟩

/-! ## The export -/

/-- Which of the export's own connections and queries the database answers. -/
structure ExportQueries where
  connectIndex : Bool
  runSummary : Bool
  connectTelemetry : Bool
  events : Bool
  measurements : Bool
  rawHardwareLog : Bool

/-- What `open_for_forensic_export` returns: the error text's case, or the run's summary with the
telemetry file where there is one. -/
inductive OpenResult
  | notFound
  /-- `get_run_summary` raises. -/
  | raised
  | found (run : RunSummaryRow) (telemetry : Option (WalFile TelemetryCommit))

/-- `open_for_forensic_export`. A main file without any transaction has no tables. -/
def openForForensicExport (s : StationFiles) (q : ExportQueries) (runId : List Char) : OpenResult :=
  match s.index with
  | none => .notFound
  | some index =>
    if q.connectIndex = false then .notFound
    else if index.main = [] ∨ q.runSummary = false then .raised
    else
      match index.main.flatten.find? fun row ↦ row.runId = runId with
      | none => .notFound
      | some run =>
        if q.connectTelemetry then .found run (run.telemetryDb.bind s.telemetry.get?)
        else .found run none

/-- The counts of an export, `none` where they are unavailable. -/
structure ExportCounts where
  faultCount : Option ℕ
  measurementRowCount : Option ℕ
  rawHardwareRowCount : Option ℕ
  deriving DecidableEq

inductive ExportResult
  | notFound
  /-- A query raises, and with it the export. -/
  | raised
  | exported (counts : ExportCounts)
  deriving DecidableEq

/-- A measurement row of a run. -/
def isMeasurementOf (runId : List Char) (row : Row) : Bool :=
  row.get "run_id" == some (.text runId)

/-- The rows of a run in a list of transactions, as the three queries return them. -/
def eventRows (runId : List Char) (cs : List TelemetryCommit) : List EventRow :=
  cs.flatMap fun c ↦ c.events.filter fun row ↦ row.runId = runId

def measurementRows (runId : List Char) (cs : List TelemetryCommit) : List Row :=
  cs.flatMap fun c ↦ c.measurements.filter (isMeasurementOf runId)

def rawHardwareRows (runId : List Char) (cs : List TelemetryCommit) : List RawHardwareRow :=
  cs.flatMap fun c ↦ c.rawHardwareLog.filter fun row ↦ row.runId = some runId

/-- `build_export`, as far as its counts go. -/
def buildExport (s : StationFiles) (q : ExportQueries) (runId : List Char) : ExportResult :=
  match openForForensicExport s q runId with
  | .notFound => .notFound
  | .raised => .raised
  | .found _ none => .exported ⟨none, none, none⟩
  | .found _ (some file) =>
    if file.main = [] ∨ q.events = false ∨ q.rawHardwareLog = false then .raised
    else
      let measurements := if q.measurements then measurementRows runId file.main else []
      .exported
        ⟨some (buildSafetySection (eventRows runId file.main)).faultCount,
          some measurements.length, some (rawHardwareRows runId file.main).length⟩

/-! ## What was committed -/

/-- The transactions committed to the index database. -/
def StationFiles.indexCommits (s : StationFiles) : List IndexCommit :=
  (s.index.map WalFile.committed).getD []

/-- The transactions committed to all telemetry files. -/
def StationFiles.telemetryCommits (s : StationFiles) : List TelemetryCommit :=
  s.telemetry.items.flatMap fun p ↦ p.2.committed

/-- The run summary of the run is committed. -/
def StationFiles.RunCommitted (s : StationFiles) (runId : List Char) : Prop :=
  ∃ row ∈ s.indexCommits.flatten, row.runId = runId

/-- The number of committed faults of a run. -/
def StationFiles.committedFaults (s : StationFiles) (runId : List Char) : ℕ :=
  (buildSafetySection (eventRows runId s.telemetryCommits)).faultCount

/-- **The claim of an export.** Each count is unknown or that of the rows committed for the run,
and a run whose summary is committed is found. -/
structure Reflects (s : StationFiles) (q : ExportQueries) (runId : List Char) : Prop where
  found : s.RunCommitted runId → ∃ run file, openForForensicExport s q runId = .found run file
  counts : ∀ e, buildExport s q runId = .exported e →
    (e.faultCount = none ∨ e.faultCount = some (s.committedFaults runId)) ∧
    (e.measurementRowCount = none ∨
      e.measurementRowCount = some (measurementRows runId s.telemetryCommits).length) ∧
    (e.rawHardwareRowCount = none ∨
      e.rawHardwareRowCount = some (rawHardwareRows runId s.telemetryCommits).length)

/-! ## What was committed and what was read -/

/-- A row that raises a safety fault. -/
def raisesFault (row : EventRow) : Bool :=
  (parseSafetyFaultEvent row.message).get? eventTypeField == some safetyFaultRaised

/-- The rows of the run that raise a fault. -/
def faultRows (runId : List Char) (cs : List TelemetryCommit) : List EventRow :=
  cs.flatMap fun c ↦ (c.events.filter fun row ↦ row.runId = runId).filter raisesFault

theorem isSome_faultEntry (acknowledged : Dict (Option (List Char)) ℕ) (row : EventRow) :
    (faultEntry acknowledged row).isSome = raisesFault row := by
  by_cases h : (parseSafetyFaultEvent row.message).get? eventTypeField = some safetyFaultRaised
  · rw [raisesFault, beq_iff_eq.mpr h, faultEntry, if_pos h]
    rfl
  · rw [raisesFault, beq_eq_false_iff_ne.mpr h, faultEntry, if_neg h]
    rfl

theorem length_filterMap_faultEntry (acknowledged : Dict (Option (List Char)) ℕ)
    (rows : List EventRow) :
    (rows.filterMap (faultEntry acknowledged)).length = (rows.filter raisesFault).length := by
  induction rows with
  | nil => rfl
  | cons row rows ih =>
    have hrow := isSome_faultEntry acknowledged row
    rw [List.filterMap_cons, List.filter_cons, ← hrow]
    cases faultEntry acknowledged row with
    | none => exact ih
    | some entry => exact congrArg (· + 1) ih

theorem faultCount_eventRows (runId : List Char) (cs : List TelemetryCommit) :
    (buildSafetySection (eventRows runId cs)).faultCount = (faultRows runId cs).length := by
  have hfilter : (eventRows runId cs).filter raisesFault = faultRows runId cs :=
    List.filter_flatMap ..
  exact (length_filterMap_faultEntry _ _).trans (congrArg List.length hfilter)

/-- The committed transactions that an export reading the main file of `name` does not see. -/
def StationFiles.unread (s : StationFiles) (name : List Char) : List TelemetryCommit :=
  s.telemetry.items.flatMap fun p ↦ if p.1 = name then p.2.wal else p.2.committed

section Split

variable {α : Type} {name : List Char} {file : WalFile TelemetryCommit}

/-- By induction on the files: those before and after `name` are unread as a whole. -/
theorem length_flatMap_committed (rows : TelemetryCommit → List α)
    {l : List (List Char × WalFile TelemetryCommit)} (hnodup : (l.map Prod.fst).Nodup)
    (hmem : (name, file) ∈ l) :
    ((l.flatMap fun p ↦ p.2.committed).flatMap rows).length =
      (file.main.flatMap rows).length +
        ((l.flatMap fun p ↦ if p.1 = name then p.2.wal else p.2.committed).flatMap
          rows).length := by
  induction l with
  | nil => exact absurd hmem List.not_mem_nil
  | cons p l ih =>
    obtain ⟨hp, hrest⟩ := List.nodup_cons.mp hnodup
    simp only [List.flatMap_cons, List.flatMap_append, List.length_append]
    rcases List.mem_cons.mp hmem with rfl | hl
    · have hothers : (l.flatMap fun p ↦ if p.1 = name then p.2.wal else p.2.committed) =
          l.flatMap fun p ↦ p.2.committed := by
        refine List.flatMap_congr fun p' hp' ↦ if_neg fun heq ↦ hp ?_
        have hkey : p'.1 ∈ l.map Prod.fst := List.mem_map_of_mem hp'
        rwa [heq] at hkey
      rw [hothers, if_pos rfl, WalFile.committed, List.flatMap_append, List.length_append]
      exact Nat.add_assoc ..
    · have hne : p.1 ≠ name := fun heq ↦ hp (heq ▸ List.mem_map_of_mem (f := Prod.fst) hl)
      rw [ih hrest hl, if_neg hne]
      omega

/-- **What an export misses.** The rows committed to all files are those in the main file it reads
and the unread ones. -/
theorem length_telemetryCommits (s : StationFiles) (rows : TelemetryCommit → List α)
    (hfile : s.telemetry.get? name = some file) :
    (s.telemetryCommits.flatMap rows).length =
      (file.main.flatMap rows).length + ((s.unread name).flatMap rows).length :=
  length_flatMap_committed rows s.telemetry.nodup_keys (Dict.mem_items_iff.mpr hfile)

end Split

/-! ## When an export reflects what was committed -/

/-- The summary of the run is in the main file of the index database, and can be read there. -/
def SummaryReadable (s : StationFiles) (q : ExportQueries) (runId : List Char) : Prop :=
  ∃ index, s.index = some index ∧ q.connectIndex = true ∧ q.runSummary = true ∧
    ∃ row ∈ index.main.flatten, row.runId = runId

/-- The export reads its counts from the main file of `name`. -/
structure ReadsTelemetry (s : StationFiles) (q : ExportQueries) (runId name : List Char)
    (file : WalFile TelemetryCommit) : Prop where
  summary : ∃ index run, s.index = some index ∧
    index.main.flatten.find? (fun row ↦ row.runId = runId) = some run ∧ run.telemetryDb = some name
  tables : file.main ≠ []
  exists_file : s.telemetry.get? name = some file
  queries : q.connectIndex = true ∧ q.runSummary = true ∧ q.connectTelemetry = true ∧
    q.events = true ∧ q.rawHardwareLog = true

/-- No row that the export counts is out of its reach. -/
structure NothingUnread (s : StationFiles) (q : ExportQueries) (runId name : List Char)
    (file : WalFile TelemetryCommit) : Prop where
  faults : faultRows runId (s.unread name) = []
  measurements : measurementRows runId (s.unread name) = []
  rawHardwareLog : rawHardwareRows runId (s.unread name) = []
  /-- A query that fails returns no rows, so there must be none. -/
  query : q.measurements = false → measurementRows runId file.main = []

variable {s : StationFiles} {q : ExportQueries} {runId : List Char}

/-- **Opening an export.** -/
theorem openForForensicExport_eq_found {run : RunSummaryRow}
    {file : Option (WalFile TelemetryCommit)} :
    openForForensicExport s q runId = .found run file ↔
      ∃ index, s.index = some index ∧ q.connectIndex = true ∧ q.runSummary = true ∧
        index.main.flatten.find? (fun row ↦ row.runId = runId) = some run ∧
        file = if q.connectTelemetry then run.telemetryDb.bind s.telemetry.get? else none := by
  constructor
  · intro h
    unfold openForForensicExport at h
    split at h
    · cases h
    · rename_i index hindex
      split at h
      · cases h
      · rename_i hconnect
        split at h
        · cases h
        · rename_i hread
          obtain ⟨-, hsummary⟩ := not_or.mp hread
          split at h
          · cases h
          · rename_i run' hfind
            refine ⟨index, hindex, by simpa using hconnect, by simpa using hsummary, ?_⟩
            split at h <;> rename_i htelemetry <;> cases h
            · exact ⟨hfind, (if_pos htelemetry).symm⟩
            · exact ⟨hfind, (if_neg htelemetry).symm⟩
  · rintro ⟨index, hindex, hconnect, hsummary, hfind, rfl⟩
    have htables : index.main ≠ [] := by
      intro hnil
      rw [hnil] at hfind
      cases hfind
    unfold openForForensicExport
    simp only [hindex, hconnect, hsummary, hfind]
    cases q.connectTelemetry <;> simp [htables]

theorem found_iff_summaryReadable :
    (∃ run file, openForForensicExport s q runId = .found run file) ↔
      SummaryReadable s q runId := by
  simp only [openForForensicExport_eq_found, SummaryReadable]
  constructor
  · rintro ⟨run, -, index, hindex, hconnect, hsummary, hfind, -⟩
    have hrun : run.runId = runId := by simpa using List.find?_some hfind
    exact ⟨index, hindex, hconnect, hsummary, run, List.mem_of_find?_eq_some hfind, hrun⟩
  · rintro ⟨index, hindex, hconnect, hsummary, row, hrow, hrun⟩
    have hsome : (index.main.flatten.find? fun row ↦ row.runId = runId).isSome = true :=
      List.find?_isSome.mpr ⟨row, hrow, by simpa using hrun⟩
    obtain ⟨run, hfind⟩ := Option.isSome_iff_exists.mp hsome
    exact ⟨run, _, index, hindex, hconnect, hsummary, hfind, rfl⟩

/-- The counts an export reads from the main file of `name`. -/
def readCounts (q : ExportQueries) (runId : List Char) (file : WalFile TelemetryCommit) :
    ExportCounts :=
  ⟨some (faultRows runId file.main).length,
    some (if q.measurements then measurementRows runId file.main else []).length,
    some (rawHardwareRows runId file.main).length⟩

theorem buildExport_eq_exported {e : ExportCounts} (h : buildExport s q runId = .exported e) :
    e = ⟨none, none, none⟩ ∨
      ∃ name file, ReadsTelemetry s q runId name file ∧ e = readCounts q runId file := by
  unfold buildExport at h
  split at h
  · cases h
  · cases h
  · cases h
    exact Or.inl rfl
  · rename_i run file hopen
    split at h
    · cases h
    · rename_i hqueries
      simp only [not_or] at hqueries
      cases h
      obtain ⟨index, hindex, hconnect, hsummary, hfind, hfile⟩ :=
        openForForensicExport_eq_found.mp hopen
      have htelemetry : q.connectTelemetry = true := by
        by_contra hnot
        rw [if_neg hnot] at hfile
        cases hfile
      rw [if_pos htelemetry] at hfile
      obtain ⟨name, hname, hget⟩ := Option.bind_eq_some_iff.mp hfile.symm
      refine Or.inr ⟨name, file, ⟨⟨index, run, hindex, hfind, hname⟩, hqueries.1, hget, hconnect,
        hsummary, htelemetry, by simpa using hqueries.2.1, by simpa using hqueries.2.2⟩, ?_⟩
      rw [faultCount_eventRows]
      rfl

theorem ReadsTelemetry.buildExport {name : List Char} {file : WalFile TelemetryCommit}
    (h : ReadsTelemetry s q runId name file) :
    buildExport s q runId = .exported (readCounts q runId file) := by
  obtain ⟨index, run, hindex, hfind, hname⟩ := h.summary
  obtain ⟨hconnect, hsummary, htelemetry, hevents, hraw⟩ := h.queries
  have hopen : openForForensicExport s q runId = .found run (some file) := by
    refine openForForensicExport_eq_found.mpr ⟨index, hindex, hconnect, hsummary, hfind, ?_⟩
    rw [if_pos htelemetry, hname]
    exact h.exists_file.symm
  unfold Nipxi.buildExport
  rw [hopen]
  dsimp only
  rw [if_neg (by simp [h.tables, hevents, hraw]), faultCount_eventRows]
  rfl

/-- **The counts of one file.** They are those of the rows committed to all files exactly if
nothing is unread. -/
theorem readCounts_iff {name : List Char} {file : WalFile TelemetryCommit}
    (hfile : s.telemetry.get? name = some file) :
    ((readCounts q runId file).faultCount = some (s.committedFaults runId) ∧
      (readCounts q runId file).measurementRowCount =
        some (measurementRows runId s.telemetryCommits).length ∧
      (readCounts q runId file).rawHardwareRowCount =
        some (rawHardwareRows runId s.telemetryCommits).length) ↔
      NothingUnread s q runId name file := by
  have hfaults : s.committedFaults runId =
      (faultRows runId file.main).length + (faultRows runId (s.unread name)).length := by
    rw [StationFiles.committedFaults, faultCount_eventRows]
    exact length_telemetryCommits s _ hfile
  have hmeasurements : (measurementRows runId s.telemetryCommits).length =
      (measurementRows runId file.main).length + (measurementRows runId (s.unread name)).length :=
    length_telemetryCommits s _ hfile
  have hraw : (rawHardwareRows runId s.telemetryCommits).length =
      (rawHardwareRows runId file.main).length + (rawHardwareRows runId (s.unread name)).length :=
    length_telemetryCommits s _ hfile
  rw [hfaults, hmeasurements, hraw]
  simp only [readCounts, Option.some.injEq]
  constructor
  · rintro ⟨hf, hm, hr⟩
    refine ⟨List.length_eq_zero_iff.mp (by omega), List.length_eq_zero_iff.mp ?_,
      List.length_eq_zero_iff.mp (by omega), fun hquery ↦ List.length_eq_zero_iff.mp ?_⟩
    · split at hm
      · omega
      · rw [List.length_nil] at hm
        omega
    · rw [hquery, if_neg (by decide), List.length_nil] at hm
      omega
  · intro h
    rw [h.faults, h.measurements, h.rawHardwareLog]
    refine ⟨rfl, ?_, rfl⟩
    split
    · rfl
    · rename_i hquery
      rw [h.query (by simpa using hquery)]
      rfl

theorem reflects_iff_state :
    Reflects s q runId ↔ (s.RunCommitted runId → SummaryReadable s q runId) ∧
      ∀ name file, ReadsTelemetry s q runId name file → NothingUnread s q runId name file := by
  constructor
  · intro h
    refine ⟨fun hrun ↦ found_iff_summaryReadable.mp (h.found hrun), fun name file hreads ↦ ?_⟩
    obtain ⟨hf, hm, hr⟩ := h.counts _ hreads.buildExport
    exact (readCounts_iff hreads.exists_file).mp
      ⟨hf.resolve_left nofun, hm.resolve_left nofun, hr.resolve_left nofun⟩
  · rintro ⟨hsummary, hcounts⟩
    refine ⟨fun hrun ↦ found_iff_summaryReadable.mpr (hsummary hrun), fun e he ↦ ?_⟩
    rcases buildExport_eq_exported he with rfl | ⟨name, file, hreads, rfl⟩
    · exact ⟨Or.inl rfl, Or.inl rfl, Or.inl rfl⟩
    · obtain ⟨hf, hm, hr⟩ :=
        (readCounts_iff hreads.exists_file).mpr (hcounts name file hreads)
      exact ⟨Or.inr hf, Or.inr hm, Or.inr hr⟩

/-! ## Histories -/

/-- **When an export reflects what was committed.** After every history, whichever of its queries
fail: the run's committed summary is in the main file of the index database, and, where the export
reads counts at all, no fault, measurement or audit row of the run is outside the main file it
reads and no measurements are hidden by a failed query. -/
theorem reflects_iff (history : List FileStep) (q : ExportQueries) (runId : List Char) :
    Reflects (historyState history) q runId ↔
      ((historyState history).RunCommitted runId →
        SummaryReadable (historyState history) q runId) ∧
      ∀ name file, ReadsTelemetry (historyState history) q runId name file →
        NothingUnread (historyState history) q runId name file :=
  reflects_iff_state

/-! ## Rows in the log of a station that did not checkpoint -/

/-- All connections and queries of the export succeed. -/
def allAnswered : ExportQueries := ⟨true, true, true, true, true, true⟩

/-- A station with run `R` in its main files. -/
def checkpointedRun : List FileStep :=
  [.commitIndex [⟨['R'], some ['t']⟩], .checkpointIndex 1, .commitTelemetry ['t'] ⟨[], [], []⟩,
    .checkpointTelemetry ['t'] 1]

/-- A measurement of run `R` that is committed and not checkpointed is not counted, and a run whose
summary is not checkpointed is not found. -/
theorem not_reflects_uncheckpointed :
    ¬(∀ history q runId, Reflects (historyState history) q runId) ∧
      ¬Reflects (historyState (checkpointedRun ++
        [.commitTelemetry ['t'] ⟨[], [[("run_id", some (.text ['R']))]], []⟩])) allAnswered ['R'] ∧
      ¬Reflects (historyState (checkpointedRun ++ [.commitIndex [⟨['Q'], some ['t']⟩]]))
        allAnswered ['Q'] := by
  have hcount : ¬Reflects (historyState (checkpointedRun ++
      [.commitTelemetry ['t'] ⟨[], [[("run_id", some (.text ['R']))]], []⟩])) allAnswered ['R'] := by
    intro h
    have hexport := h.counts ⟨some 0, some 0, some 0⟩ rfl
    exact absurd hexport.2.1 (by decide)
  refine ⟨fun h ↦ hcount (h _ _ _), hcount, fun h ↦ ?_⟩
  obtain ⟨run, file, hopen⟩ := h.found ⟨⟨['Q'], some ['t']⟩, by decide, rfl⟩
  cases hopen

end Nipxi
