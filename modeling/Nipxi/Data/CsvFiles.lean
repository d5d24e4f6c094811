import Nipxi.Collections.Dict
import Nipxi.Data.Storage
import Mathlib.Logic.Function.Basic

/-!
# CSV files

`record` appends a row to a CSV file of the run and the channel. The writer of a channel is opened
by its first sample and stays cached until the storage object is closed, while `begin_new_run_id`
and `open` change the run id underneath it. Opening a file empties it.

`filedThroughout_iff` says what that comes to: along a sequence of calls, every row is in the file
of its run and channel and every file has the samples of its own exactly if each call of `record`
meets `Fits`: a writer is used for the run it was opened for, and no file is opened that has rows.
-/

namespace Nipxi

open Collections

/-! ## The name of a file -/

/-- The format `02d`. -/
def twoDigits : ℤ → List Char
  | .ofNat n => List.replicate (2 - (Nat.toDigits 10 n).length) '0' ++ Nat.toDigits 10 n
  | .negSucc n => '-' :: Nat.toDigits 10 (n + 1)

/-- The file of a run and a channel. -/
def csvPath (run : List Char) (channel : ℤ) : List Char :=
  run ++ "_ch".toList ++ twoDigits channel ++ ".csv".toList

theorem isDigit_or_of_mem_twoDigits {n : ℤ} {c : Char} (h : c ∈ twoDigits n) :
    c.isDigit = true ∨ c = '-' := by
  cases n with
  | ofNat n =>
    rcases List.mem_append.mp h with h | h
    · rw [List.eq_of_mem_replicate h]
      exact .inl rfl
    · exact .inl (Nat.isDigit_of_mem_toDigits (by decide) (by decide) h)
  | negSucc n =>
    rcases List.mem_cons.mp h with h | h
    · exact .inr h
    · exact .inl (Nat.isDigit_of_mem_toDigits (by decide) (by decide) h)

theorem twoDigits_injective : Function.Injective twoDigits := by
  have hvalue (n : ℕ) : Nat.ofDigitChars 10 (twoDigits (.ofNat n)) 0 = n := by
    rw [twoDigits, ofDigitChars_replicate_zero, Nat.ofDigitChars_ten_toDigits]
  have hsign (m n : ℕ) : twoDigits (.ofNat m) ≠ twoDigits (.negSucc n) := by
    intro h
    have hmem : '-' ∈ twoDigits (.ofNat m) := h ▸ List.mem_cons_self
    rcases List.mem_append.mp hmem with hmem | hmem
    · exact absurd (List.eq_of_mem_replicate hmem) (by decide)
    · exact absurd (Nat.isDigit_of_mem_toDigits (by decide) (by decide) hmem) (by decide)
  intro a b h
  cases a with
  | ofNat m =>
    cases b with
    | ofNat n => rw [← hvalue m, h, hvalue n]
    | negSucc n => exact absurd h (hsign m n)
  | negSucc m =>
    cases b with
    | ofNat n => exact absurd h.symm (hsign n m)
    | negSucc n =>
      have hdigits := congrArg (Nat.ofDigitChars 10 · 0) (List.cons.inj h).2
      rw [Nat.ofDigitChars_ten_toDigits, Nat.ofDigitChars_ten_toDigits] at hdigits
      rw [Nat.succ.inj hdigits]

/-- A text is cut in one way at its last `x`. -/
theorem append_cons_inj_of_notMem {α : Type} {front front' tail tail' : List α} {x : α}
    (htail : x ∉ tail) (htail' : x ∉ tail') (h : front ++ x :: tail = front' ++ x :: tail') :
    front = front' ∧ tail = tail' := by
  rcases List.append_eq_append_iff.mp h with ⟨middle, hfront, hmiddle⟩ | ⟨middle, hfront, hmiddle⟩
  · cases middle with
    | nil =>
      rw [List.append_nil] at hfront
      exact ⟨hfront.symm, (List.cons.inj hmiddle).2⟩
    | cons y middle =>
      rw [(List.cons.inj hmiddle).2] at htail
      exact absurd (List.mem_append_right _ List.mem_cons_self) htail
  · cases middle with
    | nil =>
      rw [List.append_nil] at hfront
      exact ⟨hfront, (List.cons.inj hmiddle).2.symm⟩
    | cons y middle =>
      rw [(List.cons.inj hmiddle).2] at htail'
      exact absurd (List.mem_append_right _ List.mem_cons_self) htail'

/-- **Files are named apart.** -/
theorem csvPath_inj {run run' : List Char} {channel channel' : ℤ}
    (h : csvPath run channel = csvPath run' channel') : run = run' ∧ channel = channel' := by
  have hnot (n : ℤ) : 'h' ∉ twoDigits n ++ ".csv".toList := by
    intro hmem
    rcases List.mem_append.mp hmem with hmem | hmem
    · rcases isDigit_or_of_mem_twoDigits hmem with hdigit | hdigit
      · exact absurd hdigit (by decide)
      · exact absurd hdigit (by decide)
    · exact absurd hmem (by decide)
  have hsplit (run : List Char) (n : ℤ) :
      csvPath run n = (run ++ "_c".toList) ++ 'h' :: (twoDigits n ++ ".csv".toList) := by
    simp [csvPath]
  rw [hsplit, hsplit] at h
  obtain ⟨hrun, hchannel⟩ := append_cons_inj_of_notMem (hnot channel) (hnot channel') h
  exact ⟨List.append_cancel_right hrun, twoDigits_injective (List.append_cancel_right hchannel)⟩

/-! ## The storage object -/

/-- What `record` and the calls around it read and write. The number of the next run is kept in the
index database. -/
structure CsvStorage where
  stationId : List Char
  nextValue : ℕ
  runId : Option (List Char)
  connected : Bool
  /-- `_csv_writers`, with the files they write to. -/
  csvWriters : Dict ℤ (List Char)
  /-- The rows of the files, under their headers. -/
  files : List Char → List Row

/-- A call, and whether the databases do what it asks of them. -/
inductive CsvEvent
  | openStorage (succeeds : Bool)
  | record (channel : ℤ) (now : Value) (sample : Row) (stored : Bool)
  | beginNewRunId (succeeds : Bool)
  | close

/-- A sample that was recorded, as the row made of it, with the run and the channel. -/
structure Sampled where
  run : List Char
  channel : ℤ
  row : Row
  deriving DecidableEq

namespace CsvStorage

/-- The run id as it is written into a name. -/
def runText (s : CsvStorage) : List Char := s.runId.getD "None".toList

/-- The row of a sample, whose own columns come first. -/
def csvRow (s : CsvStorage) (channel : ℤ) (now : Value) (sample : Row) : Row :=
  basicColumns.map fun c ↦
    (c, (sample.lookup c).getD (Row.get [("run_id", s.runId.map .text),
      ("channel", some (.integer channel)), ("timestamp", some now)] c))

/-- `_new_run_id`, where a number can be allocated. -/
def newRunId (s : CsvStorage) : CsvStorage :=
  { s with nextValue := s.nextValue + 1, runId := some (runIdText s.stationId s.nextValue) }

/-- `_get_csv_writer`: the file the writer of a channel writes to. A file that is opened is
emptied. -/
def getCsvWriter (s : CsvStorage) (channel : ℤ) : List Char × CsvStorage :=
  match s.csvWriters.get? channel with
  | some path => (path, s)
  | none =>
    (csvPath s.runText channel,
      { s with
        csvWriters := s.csvWriters.insert channel (csvPath s.runText channel)
        files := Function.update s.files (csvPath s.runText channel) [] })

/-- `writerow`. -/
def writeRow (s : CsvStorage) (path : List Char) (row : Row) : CsvStorage :=
  { s with files := Function.update s.files path (s.files path ++ [row]) }

/-- `record`, once the database has the sample. -/
def recordCsv (s : CsvStorage) (channel : ℤ) (row : Row) : CsvStorage :=
  (s.getCsvWriter channel).2.writeRow (s.getCsvWriter channel).1 row

/-- The call of `record` raises: the database does not take the sample. -/
def refuses (s : CsvStorage) (stored : Bool) : Bool := s.connected && !stored

/-- One call. -/
def step (s : CsvStorage) : CsvEvent → CsvStorage
  | .openStorage succeeds =>
    if succeeds then { s.newRunId with connected := true } else { s with connected := false }
  | .record channel now sample stored =>
    if s.refuses stored then s else s.recordCsv channel (s.csvRow channel now sample)
  | .beginNewRunId succeeds => if s.connected && succeeds then s.newRunId else s
  | .close => { s with connected := false, csvWriters := Dict.empty }

/-- What a call records. -/
def sampled (s : CsvStorage) : CsvEvent → List Sampled
  | .record channel now sample stored =>
    if s.refuses stored then [] else [⟨s.runText, channel, s.csvRow channel now sample⟩]
  | _ => []

end CsvStorage

/-- A row carries a run id and a channel. -/
def carries (row : Row) (run : List Char) (channel : ℤ) : Prop :=
  row.get "run_id" = some (.text run) ∧ row.get "channel" = some (.integer channel)

/-- The samples of a run and a channel. -/
def samplesOf (recorded : List Sampled) (run : List Char) (channel : ℤ) : List Row :=
  (recorded.filter fun e ↦ e.run = run ∧ e.channel = channel).map Sampled.row

/-- Every row is in the file of the run and the channel it carries, and every file has the samples
of its own, in order. -/
structure Filed (files : List Char → List Row) (recorded : List Sampled) : Prop where
  named : ∀ path, ∀ row ∈ files path, ∀ run channel, carries row run channel →
    path = csvPath run channel
  complete : ∀ run channel, files (csvPath run channel) = samplesOf recorded run channel

namespace CsvStorage

/-- Rows are filed throughout a sequence of calls: at its beginning and after each of them. -/
def FiledThroughout : CsvStorage → List Sampled → List CsvEvent → Prop
  | s, recorded, [] => Filed s.files recorded
  | s, recorded, e :: events =>
    Filed s.files recorded ∧ FiledThroughout (s.step e) (recorded ++ s.sampled e) events

/-- A call of `record` that is not refused writes with a writer of the current run, or opens a file
without rows, and its sample names no other run or channel. -/
structure FitsRecord (s : CsvStorage) (channel : ℤ) (row : Row) : Prop where
  cached : ∀ path, s.csvWriters.get? channel = some path → path = csvPath s.runText channel
  fresh : s.csvWriters.get? channel = none → s.files (csvPath s.runText channel) = []
  own : ∀ run channel', carries row run channel' → run = s.runText ∧ channel' = channel

/-- What is asked of a call, before it is made. -/
def Fits (s : CsvStorage) : CsvEvent → Prop
  | .record channel now sample stored =>
    s.refuses stored = false → s.FitsRecord channel (s.csvRow channel now sample)
  | _ => True

/-- It is asked of each call of a sequence. -/
def FitThroughout : CsvStorage → List CsvEvent → Prop
  | _, [] => True
  | s, e :: events => s.Fits e ∧ FitThroughout (s.step e) events

/-- A new storage object at a station, and an empty directory. -/
def fresh (stationId : List Char) (nextValue : ℕ) : CsvStorage where
  stationId := stationId
  nextValue := nextValue
  runId := none
  connected := false
  csvWriters := Dict.empty
  files := fun _ ↦ []

end CsvStorage

/-! ## One sample -/

theorem samplesOf_append (recorded : List Sampled) (e : Sampled) (run : List Char) (channel : ℤ) :
    samplesOf (recorded ++ [e]) run channel =
      samplesOf recorded run channel ++
        if e.run = run ∧ e.channel = channel then [e.row] else [] := by
  rw [samplesOf, List.filter_append, List.map_append, ← samplesOf]
  congr 1
  by_cases h : e.run = run ∧ e.channel = channel
  · rw [if_pos h, List.filter_cons_of_pos (by simpa using h)]
    rfl
  · rw [if_neg h, List.filter_cons_of_neg (by simpa using h)]
    rfl

/-- **One row more** is filed if it goes where it belongs, after what is there, and carries nothing
else. -/
theorem Filed.update_iff {files : List Char → List Row} {recorded : List Sampled}
    (h : Filed files recorded) {path : List Char} {front : List Row} {e : Sampled} :
    Filed (Function.update files path (front ++ [e.row])) (recorded ++ [e]) ↔
      path = csvPath e.run e.channel ∧ front = files (csvPath e.run e.channel) ∧
        ∀ run channel, carries e.row run channel → run = e.run ∧ channel = e.channel := by
  constructor
  · intro hfiled
    have hown := hfiled.complete e.run e.channel
    rw [samplesOf_append, if_pos ⟨rfl, rfl⟩, ← h.complete] at hown
    -- were the row put elsewhere, its own file would lack it
    have hpath : path = csvPath e.run e.channel := by
      by_contra hne
      rw [Function.update_of_ne (Ne.symm hne)] at hown
      exact absurd (List.self_eq_append_right.mp hown) (List.cons_ne_nil _ _)
    rw [← hpath, Function.update_self] at hown
    refine ⟨hpath, ?_, fun run channel hcarries ↦ ?_⟩
    · rw [← hpath]
      exact List.append_cancel_right hown
    · have hmem : e.row ∈ Function.update files path (front ++ [e.row]) path := by
        rw [Function.update_self]
        exact List.mem_append_right _ List.mem_cons_self
      exact csvPath_inj ((hfiled.named path e.row hmem run channel hcarries).symm.trans hpath)
  · rintro ⟨rfl, rfl, hcarries⟩
    constructor
    · intro path row hrow run channel hrow'
      by_cases hpath : path = csvPath e.run e.channel
      · rw [hpath, Function.update_self] at hrow
        rcases List.mem_append.mp hrow with hrow | hrow
        · rw [hpath]
          exact h.named _ row hrow run channel hrow'
        · rw [List.mem_singleton.mp hrow] at hrow'
          obtain ⟨rfl, rfl⟩ := hcarries run channel hrow'
          exact hpath
      · rw [Function.update_of_ne hpath] at hrow
        exact h.named path row hrow run channel hrow'
    · intro run channel
      rw [samplesOf_append]
      by_cases hsame : e.run = run ∧ e.channel = channel
      · obtain ⟨rfl, rfl⟩ := hsame
        rw [if_pos ⟨rfl, rfl⟩, Function.update_self, h.complete]
      · have hne : csvPath run channel ≠ csvPath e.run e.channel := by
          intro heq
          obtain ⟨rfl, rfl⟩ := csvPath_inj heq
          exact hsame ⟨rfl, rfl⟩
        rw [if_neg hsame, Function.update_of_ne hne, h.complete, List.append_nil]

namespace CsvStorage

variable {s : CsvStorage} {recorded : List Sampled}

theorem filed_recordCsv_iff (h : Filed s.files recorded) {channel : ℤ} {row : Row} :
    Filed (s.recordCsv channel row).files (recorded ++ [⟨s.runText, channel, row⟩]) ↔
      s.FitsRecord channel row := by
  cases hwriter : s.csvWriters.get? channel with
  | some path =>
    have hfiles : (s.recordCsv channel row).files =
        Function.update s.files path (s.files path ++ [row]) := by
      simp only [recordCsv, getCsvWriter, hwriter, writeRow]
    rw [hfiles]
    refine (h.update_iff (e := ⟨s.runText, channel, row⟩)).trans ?_
    constructor
    · rintro ⟨hpath, -, hown⟩
      exact ⟨fun path' hget ↦ by rwa [← Option.some.inj (hwriter.symm.trans hget)],
        fun hnone ↦ (Option.some_ne_none _ (hwriter.symm.trans hnone)).elim, hown⟩
    · intro hfits
      have hpath := hfits.cached path hwriter
      exact ⟨hpath, congrArg s.files hpath, hfits.own⟩
  | none =>
    have hfiles : (s.recordCsv channel row).files =
        Function.update s.files (csvPath s.runText channel) ([] ++ [row]) := by
      simp only [recordCsv, getCsvWriter, hwriter, writeRow, Function.update_self,
        Function.update_idem]
    rw [hfiles]
    refine (h.update_iff (e := ⟨s.runText, channel, row⟩)).trans ?_
    constructor
    · rintro ⟨-, hempty, hown⟩
      exact ⟨fun path hget ↦ (Option.some_ne_none path (hget.symm.trans hwriter)).elim,
        fun _ ↦ hempty.symm, hown⟩
    · intro hfits
      exact ⟨rfl, (hfits.fresh hwriter).symm, hfits.own⟩

/-- **One call** keeps the rows filed exactly if it fits. -/
theorem filed_step_iff (h : Filed s.files recorded) (e : CsvEvent) :
    Filed (s.step e).files (recorded ++ s.sampled e) ↔ s.Fits e := by
  have hnothing : s.sampled e = [] → (s.step e).files = s.files → s.Fits e →
      (Filed (s.step e).files (recorded ++ s.sampled e) ↔ s.Fits e) := by
    intro hnone hsame hfits
    rw [hnone, hsame, List.append_nil]
    exact iff_of_true h hfits
  cases e with
  | openStorage succeeds =>
    refine hnothing rfl ?_ trivial
    rw [step]
    split <;> rfl
  | record channel now sample stored =>
    rw [step, sampled, Fits]
    by_cases hrefuses : s.refuses stored = true
    · rw [if_pos hrefuses, if_pos hrefuses, List.append_nil, hrefuses]
      exact iff_of_true h nofun
    · rw [if_neg hrefuses, if_neg hrefuses, filed_recordCsv_iff h]
      exact ⟨fun hfits _ ↦ hfits, fun hfits ↦ hfits (Bool.eq_false_of_not_eq_true hrefuses)⟩
  | beginNewRunId succeeds =>
    refine hnothing rfl ?_ trivial
    rw [step]
    split <;> rfl
  | close => exact hnothing rfl rfl trivial

/-- **A sequence of calls.** By induction on the calls, with the rows filed before the first. -/
theorem filedThroughout_of_filed (h : Filed s.files recorded) (events : List CsvEvent) :
    s.FiledThroughout recorded events ↔ s.FitThroughout events := by
  induction events generalizing s recorded with
  | nil => exact iff_of_true h trivial
  | cons e events ih =>
    rw [FiledThroughout, FitThroughout, and_iff_right h, ← filed_step_iff h e]
    constructor
    · intro hlater
      have hnext : Filed (s.step e).files (recorded ++ s.sampled e) := by
        cases events with
        | nil => exact hlater
        | cons _ _ => exact hlater.1
      exact ⟨hnext, (ih hnext).mp hlater⟩
    · rintro ⟨hnext, hfit⟩
      exact (ih hnext).mpr hfit

/-- **Rows go to their own run** along a sequence of calls exactly if each call of `record` fits. -/
theorem filedThroughout_iff (stationId : List Char) (nextValue : ℕ) (events : List CsvEvent) :
    (fresh stationId nextValue).FiledThroughout [] events ↔
      (fresh stationId nextValue).FitThroughout events :=
  filedThroughout_of_filed ⟨fun _ _ hrow ↦ absurd hrow List.not_mem_nil, fun _ _ ↦ rfl⟩ events

/-- The second run of a storage object records under the writer of the first. -/
theorem not_filedThroughout_secondRun :
    ¬∀ stationId nextValue events, (fresh stationId nextValue).FiledThroughout [] events := by
  intro hall
  have hthroughout := hall "ST".toList 1 [.openStorage true, .record 1 (.integer 0) [] true,
    .beginNewRunId true, .record 1 (.integer 1) [] true]
  have hfiled := hthroughout.2.2.2.2.complete (runIdText "ST".toList 2) 1
  revert hfiled
  decide +kernel

end CsvStorage

end Nipxi
