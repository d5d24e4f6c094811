import Mathlib.Data.List.Nodup
import Mathlib.Data.List.Sort
import Mathlib.Order.Basic

/-!
# The backfill of sequence numbers

`scripts/backfill_run_sequence.py` numbers the `run_summary` rows that have no `sequence_number`,
in the order of their ids from one past the largest number of the table, and then seeds
`run_sequence` with one past the largest number there is, or leaves it where it already is ahead.
Both parts commit, and between them `run_sequence` is created if it is missing.

## Main results

* `backfill_resumes`: from every state that an interruption leaves behind, the backfill ends where
  it would have ended, and what it does to rows and counter is `Backfilled`.
* `distinct_iff`: along a history of allocations and backfills, the numbers on rows and the ones
  handed out stay distinct exactly if no backfill begins while a number that the allocator has
  handed out, and that no row has yet, lies among those it assigns. The backfill reads the largest
  number of the table, while the allocator may already be ahead of it.
* `dryRunPredicts_iff`: a dry run announces the numbers a real run gives to the rows, but the value
  the counter gets only where no row is pending and the counter is not ahead.
-/

namespace Nipxi

/-! ## The index database -/

/-- What the backfill reads and writes of a `run_summary` row. -/
structure SummaryRow where
  id : ℕ
  sequenceNumber : Option ℤ
  deriving DecidableEq

/-- The column `sequence_number` is `NULL`. -/
def SummaryRow.pending (r : SummaryRow) : Bool := r.sequenceNumber.isNone

/-- The tables the backfill works on. The rows stand in the order of their ids; `run_sequence` may
be missing, or have no row yet. -/
@[ext]
structure IndexTables where
  rows : List SummaryRow
  sorted : rows.Pairwise (·.id < ·.id)
  runSequence : Option (Option ℤ)

/-- The numbers on the rows. -/
def rowNumbers (rows : List SummaryRow) : List ℤ := rows.filterMap (·.sequenceNumber)

/-- `SELECT id FROM run_summary WHERE sequence_number IS NULL ORDER BY id ASC`. -/
def pendingIds (rows : List SummaryRow) : List ℕ := (rows.filter (·.pending)).map (·.id)

/-- `(row[0] or 0) + 1` of `SELECT MAX(sequence_number) FROM run_summary`. -/
def nextValue (rows : List SummaryRow) : ℤ := (rowNumbers rows).max?.getD 0 + 1

/-! ## Numbering the rows -/

/-- `UPDATE run_summary SET sequence_number = ? WHERE id = ?`. -/
def updateNumber (value : ℤ) (id : ℕ) (rows : List SummaryRow) : List SummaryRow :=
  rows.map fun r ↦ if r.id = id then { r with sequenceNumber := some value } else r

/-- The loop over the pending ids. -/
def assignNumbers : List ℕ → ℤ → List SummaryRow → List SummaryRow
  | [], _, rows => rows
  | id :: ids, value, rows => assignNumbers ids (value + 1) (updateNumber value id rows)

theorem map_id_updateNumber (value : ℤ) (id : ℕ) (rows : List SummaryRow) :
    (updateNumber value id rows).map (·.id) = rows.map (·.id) := by
  rw [updateNumber, List.map_map]
  refine List.map_congr_left fun r _ ↦ ?_
  rw [Function.comp_apply]
  split <;> rfl

theorem map_id_assignNumbers (ids : List ℕ) (value : ℤ) (rows : List SummaryRow) :
    (assignNumbers ids value rows).map (·.id) = rows.map (·.id) := by
  induction ids generalizing value rows with
  | nil => rfl
  | cons id ids ih => rw [assignNumbers, ih, map_id_updateNumber]

theorem sorted_of_map_id_eq {rows rows' : List SummaryRow} (h : rows'.map (·.id) = rows.map (·.id))
    (hsorted : rows.Pairwise (·.id < ·.id)) : rows'.Pairwise (·.id < ·.id) := by
  have hids : (rows'.map (·.id)).Pairwise (· < ·) := by
    rw [h]
    exact List.pairwise_map.mpr hsorted
  exact List.pairwise_map.mp hids

/-- What `ON CONFLICT(id) DO UPDATE` makes of the counter: it is moved forward only. -/
def moveForward (value : ℤ) : Option ℤ → ℤ
  | none => value
  | some next => if value > next then value else next

namespace IndexTables

/-- The first part of `backfill`: every pending row is numbered, in one transaction. -/
def numberPending (t : IndexTables) : IndexTables :=
  if pendingIds t.rows = [] then t
  else
    { t with
      rows := assignNumbers (pendingIds t.rows) (nextValue t.rows) t.rows
      sorted := sorted_of_map_id_eq (map_id_assignNumbers _ _ _) t.sorted }

/-- `CREATE TABLE IF NOT EXISTS run_sequence`, which commits by itself. -/
def createSequence (t : IndexTables) : IndexTables :=
  { t with runSequence := some (t.runSequence.getD none) }

/-- The upsert of `run_sequence`. -/
def seed (value : ℤ) (t : IndexTables) : IndexTables :=
  { t with runSequence := some (some (moveForward value (t.runSequence.getD none))) }

/-- `backfill`. -/
def backfill (dryRun : Bool) (t : IndexTables) : IndexTables :=
  if dryRun then t
  else (t.numberPending.createSequence).seed (nextValue t.numberPending.rows)

/-- What the file holds at the moments of a run of `backfill` between which it changes: before the
first commit, after it, after the table is there, and after the second commit. -/
def states (t : IndexTables) : List IndexTables :=
  [t, t.numberPending, t.numberPending.createSequence, t.backfill false]

end IndexTables

/-! ## What the loop does -/

/-- The rows with numbers from `value` on for the pending ones. -/
def numberRows : ℤ → List SummaryRow → List SummaryRow
  | _, [] => []
  | value, r :: rows =>
    if r.pending then { r with sequenceNumber := some value } :: numberRows (value + 1) rows
    else r :: numberRows value rows

theorem updateNumber_of_forall_ne {value : ℤ} {id : ℕ} {rows : List SummaryRow}
    (h : ∀ r ∈ rows, r.id ≠ id) : updateNumber value id rows = rows := by
  rw [updateNumber]
  exact (List.map_congr_left fun r hr ↦ if_neg (h r hr)).trans (List.map_id' rows)

theorem assignNumbers_cons {r : SummaryRow} {ids : List ℕ} (h : r.id ∉ ids) (value : ℤ)
    (rows : List SummaryRow) :
    assignNumbers ids value (r :: rows) = r :: assignNumbers ids value rows := by
  induction ids generalizing value rows with
  | nil => rfl
  | cons id ids ih =>
    rw [List.mem_cons, not_or] at h
    rw [assignNumbers, assignNumbers, updateNumber, List.map_cons, if_neg h.1, ← updateNumber,
      ih h.2]

/-- **The loop numbers the pending rows**, one after the other. -/
theorem assignNumbers_pendingIds (value : ℤ) {rows : List SummaryRow}
    (hsorted : rows.Pairwise (·.id < ·.id)) :
    assignNumbers (pendingIds rows) value rows = numberRows value rows := by
  induction rows generalizing value with
  | nil => rfl
  | cons r rows ih =>
    obtain ⟨hfront, hrest⟩ := List.pairwise_cons.mp hsorted
    have hnot : r.id ∉ pendingIds rows := by
      rintro hmem
      obtain ⟨r', hr', heq⟩ := List.mem_map.mp hmem
      exact absurd heq (hfront r' (List.mem_of_mem_filter hr')).ne'
    rw [pendingIds, List.filter_cons, numberRows]
    split
    · rw [List.map_cons, assignNumbers, updateNumber, List.map_cons, if_pos rfl, ← updateNumber,
        updateNumber_of_forall_ne fun r' hr' ↦ (hfront r' hr').ne', ← pendingIds]
      have hnot' : (⟨r.id, some value⟩ : SummaryRow).id ∉ pendingIds rows := hnot
      rw [assignNumbers_cons hnot', ih _ hrest]
    · rw [← pendingIds, assignNumbers_cons hnot, ih _ hrest]

theorem mem_numberRows {rows : List SummaryRow} {r : SummaryRow} (h : r ∈ rows)
    (hr : r.pending = false) (value : ℤ) : r ∈ numberRows value rows := by
  induction rows generalizing value with
  | nil => exact absurd h List.not_mem_nil
  | cons r' rows ih =>
    rw [numberRows]
    rcases List.mem_cons.mp h with rfl | h
    · rw [if_neg (by rw [hr]; decide)]
      exact List.mem_cons_self
    · split <;> exact List.mem_cons_of_mem _ (ih h _)

theorem numberRows_append (value : ℤ) (before rest : List SummaryRow) :
    numberRows value (before ++ rest) = numberRows value before
      ++ numberRows (value + before.countP (·.pending)) rest := by
  induction before generalizing value with
  | nil => simp [numberRows]
  | cons r before ih =>
    rw [List.cons_append, numberRows, numberRows, List.countP_cons]
    split
    · rw [ih, List.cons_append]
      push_cast
      rw [Int.add_assoc, Int.add_comm 1]
    · rw [ih, List.cons_append]
      rfl

/-- A pending row gets the number of its place among them. -/
theorem mem_numberRows_append {before : List SummaryRow} {r : SummaryRow}
    (hr : r.pending = true) (value : ℤ) (after : List SummaryRow) :
    ⟨r.id, some (value + before.countP (·.pending))⟩ ∈ numberRows value (before ++ r :: after) := by
  rw [numberRows_append, numberRows, if_pos hr]
  exact List.mem_append_right _ List.mem_cons_self

theorem pending_of_mem_numberRows {rows : List SummaryRow} {r : SummaryRow} {value : ℤ}
    (h : r ∈ numberRows value rows) : r.pending = false := by
  induction rows generalizing value with
  | nil => exact absurd h List.not_mem_nil
  | cons r' rows ih =>
    rw [numberRows] at h
    split at h
    · rcases List.mem_cons.mp h with rfl | h
      exacts [rfl, ih h]
    · rename_i hpending
      rcases List.mem_cons.mp h with rfl | h
      exacts [Bool.eq_false_of_not_eq_true hpending, ih h]

theorem numberRows_of_forall {rows : List SummaryRow} (h : ∀ r ∈ rows, r.pending = false)
    (value : ℤ) : numberRows value rows = rows := by
  induction rows with
  | nil => rfl
  | cons r rows ih =>
    obtain ⟨hr, hrows⟩ := List.forall_mem_cons.mp h
    rw [numberRows, if_neg (by rw [hr]; decide), ih hrows]

/-- The numbers a backfill gives to so many rows. -/
def assigned (value : ℤ) : ℕ → List ℤ
  | 0 => []
  | n + 1 => value :: assigned (value + 1) n

theorem mem_assigned_iff {v value : ℤ} {n : ℕ} :
    v ∈ assigned value n ↔ value ≤ v ∧ v < value + n := by
  induction n generalizing value with
  | zero =>
    rw [assigned]
    simp
  | succ n ih =>
    rw [assigned, List.mem_cons, ih]
    push_cast
    omega

theorem nodup_assigned (value : ℤ) (n : ℕ) : (assigned value n).Nodup := by
  induction n generalizing value with
  | zero => exact List.nodup_nil
  | succ n ih =>
    refine List.nodup_cons.mpr ⟨fun h ↦ ?_, ih _⟩
    have := (mem_assigned_iff.mp h).1
    omega

theorem rowNumbers_numberRows (value : ℤ) (rows : List SummaryRow) :
    (rowNumbers (numberRows value rows)).Perm
      (rowNumbers rows ++ assigned value (rows.countP (·.pending))) := by
  induction rows generalizing value with
  | nil => exact .refl _
  | cons r rows ih =>
    obtain ⟨id, _ | number⟩ := r
    · have hstep : rowNumbers (numberRows value (⟨id, none⟩ :: rows))
          = value :: rowNumbers (numberRows (value + 1) rows) := rfl
      have hcount : (⟨id, none⟩ :: rows : List SummaryRow).countP (·.pending)
          = rows.countP (·.pending) + 1 := List.countP_cons_of_pos rfl
      rw [hstep, hcount, assigned]
      exact ((ih (value + 1)).cons value).trans List.perm_middle.symm
    · exact (ih value).cons number

theorem lt_nextValue {rows : List SummaryRow} {v : ℤ} (h : v ∈ rowNumbers rows) :
    v < nextValue rows := by
  rw [nextValue]
  cases hmax : (rowNumbers rows).max? with
  | none =>
    rw [List.max?_eq_none_iff.mp hmax] at h
    exact absurd h List.not_mem_nil
  | some m =>
    have hle := (List.max?_eq_some_iff.mp hmax).2 v h
    exact Int.lt_add_one_of_le hle

theorem le_moveForward (value : ℤ) (next : Option ℤ) : value ≤ moveForward value next := by
  cases next with
  | none => exact le_refl value
  | some next =>
    rw [moveForward]
    split <;> omega

theorem le_moveForward_some (value next : ℤ) : next ≤ moveForward value (some next) := by
  rw [moveForward]
  split <;> omega

theorem moveForward_moveForward (value : ℤ) (next : Option ℤ) :
    moveForward value (some (moveForward value next)) = moveForward value next := by
  rw [moveForward, if_neg (not_lt.mpr (le_moveForward value next))]

/-! ## What a backfill does -/

namespace IndexTables

theorem rows_numberPending (t : IndexTables) :
    t.numberPending.rows = numberRows (nextValue t.rows) t.rows := by
  rw [numberPending]
  split
  · rename_i hnone
    have hall : ∀ r ∈ t.rows, r.pending = false := by
      simpa [pendingIds] using hnone
    exact (numberRows_of_forall hall _).symm
  · exact assignNumbers_pendingIds _ t.sorted

theorem runSequence_numberPending (t : IndexTables) :
    t.numberPending.runSequence = t.runSequence := by
  rw [numberPending]
  split <;> rfl

theorem rows_backfill (t : IndexTables) :
    (t.backfill false).rows = numberRows (nextValue t.rows) t.rows :=
  t.rows_numberPending

theorem runSequence_backfill (t : IndexTables) :
    (t.backfill false).runSequence
      = some (some (moveForward (nextValue (t.backfill false).rows) t.runSequence.join)) := by
  have hcounter : t.numberPending.createSequence.runSequence.getD none = t.runSequence.join := by
    rw [createSequence, runSequence_numberPending]
    cases t.runSequence <;> rfl
  change some (some (moveForward _ _)) = _
  rw [hcounter]
  rfl

theorem numberRows_of_numbered {t u : IndexTables}
    (h : u.rows = numberRows (nextValue t.rows) t.rows) :
    numberRows (nextValue u.rows) u.rows = numberRows (nextValue t.rows) t.rows := by
  rw [h]
  exact numberRows_of_forall (fun r hr ↦ pending_of_mem_numberRows hr) _

theorem backfill_congr {t u : IndexTables}
    (hrows : (u.backfill false).rows = (t.backfill false).rows)
    (hnext : moveForward (nextValue (t.backfill false).rows) u.runSequence.join
      = moveForward (nextValue (t.backfill false).rows) t.runSequence.join) :
    u.backfill false = t.backfill false := by
  refine IndexTables.ext hrows ?_
  rw [runSequence_backfill, runSequence_backfill, hrows, hnext]

/-- What a backfill promises: no row is added or dropped, the numbered ones keep their number, the
pending ones get consecutive numbers above all others in the order of their ids, and the counter is
ahead of all of them and not behind where it was. -/
structure Backfilled (t u : IndexTables) : Prop where
  ids : u.rows.map (·.id) = t.rows.map (·.id)
  kept : ∀ r ∈ t.rows, r.sequenceNumber ≠ none → r ∈ u.rows
  numbered : ∃ first, (∀ r ∈ t.rows, ∀ v, r.sequenceNumber = some v → v < first) ∧
    ∀ before r after, t.rows = before ++ r :: after → r.sequenceNumber = none →
      ⟨r.id, some (first + before.countP (·.pending))⟩ ∈ u.rows
  ahead : ∃ next, u.runSequence = some (some next) ∧
    (∀ r ∈ u.rows, ∀ v, r.sequenceNumber = some v → v < next) ∧
      ∀ old, t.runSequence = some (some old) → old ≤ next

end IndexTables

theorem mem_rowNumbers {rows : List SummaryRow} {r : SummaryRow} (h : r ∈ rows) {v : ℤ}
    (hv : r.sequenceNumber = some v) : v ∈ rowNumbers rows :=
  List.mem_filterMap.mpr ⟨r, h, hv⟩

namespace IndexTables

theorem backfilled (t : IndexTables) : Backfilled t (t.backfill false) where
  ids := by
    change t.numberPending.rows.map (·.id) = _
    rw [numberPending]
    split
    exacts [rfl, map_id_assignNumbers _ _ _]
  kept := by
    intro r hr hnumber
    rw [rows_backfill]
    refine mem_numberRows hr ?_ _
    rw [SummaryRow.pending, Option.isNone_eq_false_iff, Option.isSome_iff_ne_none]
    exact hnumber
  numbered := by
    refine ⟨nextValue t.rows, fun r hr v hv ↦ lt_nextValue (mem_rowNumbers hr hv), ?_⟩
    intro before r after hsplit hnumber
    rw [rows_backfill, hsplit]
    exact mem_numberRows_append (Option.isNone_iff_eq_none.mpr hnumber) _ _
  ahead := by
    refine ⟨_, t.runSequence_backfill, fun r hr v hv ↦ ?_, fun old hold ↦ ?_⟩
    · exact (lt_nextValue (mem_rowNumbers hr hv)).trans_le (le_moveForward _ _)
    · rw [hold]
      exact le_moveForward_some _ _

/-- **A backfill resumes**, wherever it was interrupted, and does what it promises. The counter has
either not been seeded yet, or is where the seeding leaves it. -/
theorem backfill_resumes (t : IndexTables) :
    Backfilled t (t.backfill false) ∧ ∀ u ∈ t.states, u.backfill false = t.backfill false := by
  refine ⟨t.backfilled, fun u hu ↦ ?_⟩
  simp only [states, List.mem_cons, List.not_mem_nil, or_false] at hu
  have hrows : ∀ u : IndexTables, u.rows = t.numberPending.rows →
      (u.backfill false).rows = (t.backfill false).rows := by
    intro u hu
    rw [rows_numberPending] at hu
    rw [rows_backfill, rows_backfill, numberRows_of_numbered hu]
  rcases hu with rfl | rfl | rfl | rfl
  · rfl
  · refine backfill_congr (hrows _ rfl) ?_
    rw [runSequence_numberPending]
  · refine backfill_congr (hrows _ rfl) ?_
    rw [createSequence, runSequence_numberPending]
    cases t.runSequence <;> rfl
  · refine backfill_congr (hrows _ rfl) ?_
    rw [runSequence_backfill]
    exact moveForward_moveForward _ _

end IndexTables

/-! ## What a dry run announces -/

/-- The lines `backfill` prints about the database. -/
inductive BackfillLine where
  /-- `Rows needing a sequence_number` -/
  | pending (count : ℕ)
  /-- `Starting sequence_number` -/
  | starting (value : ℤ)
  /-- `Nothing to backfill.` -/
  | nothing
  /-- `[dry-run] Would assign sequence_number {first}..{last} to run_summary ids {from}..{to}` -/
  | wouldAssign (first last : ℤ) (fromId toId : ℕ)
  /-- `Backfilled {count} row(s).` -/
  | backfilled (count : ℕ)
  /-- `[dry-run] Would seed run_sequence.next_value` -/
  | wouldSeed (value : ℤ)
  /-- `run_sequence.next_value is now` -/
  | isNow (value : ℤ)
  deriving DecidableEq

namespace IndexTables

/-- `final_next_value`. A dry run takes the number it would have started with. -/
def finalNextValue (dryRun : Bool) (t : IndexTables) : ℤ :=
  if dryRun then nextValue t.rows else nextValue t.numberPending.rows

/-- What `backfill` prints about the pending rows. -/
def assignmentLine (dryRun : Bool) (value : ℤ) : List ℕ → BackfillLine
  | [] => .nothing
  | id :: ids =>
    if dryRun then
      .wouldAssign value (value + (id :: ids).length - 1) id ((id :: ids).getLast (by simp))
    else .backfilled (id :: ids).length

/-- What `backfill` prints. -/
def printed (dryRun : Bool) (t : IndexTables) : List BackfillLine :=
  [.pending (pendingIds t.rows).length, .starting (nextValue t.rows),
    assignmentLine dryRun (nextValue t.rows) (pendingIds t.rows),
    if dryRun then .wouldSeed (t.finalNextValue dryRun) else .isNow (t.finalNextValue dryRun)]

/-- The ids of the rows that had no number, with the numbers they have later. -/
def given (t u : IndexTables) : List (ℕ × Option ℤ) :=
  (t.rows.zip u.rows).filterMap fun p ↦
    if p.1.pending then some (p.2.id, p.2.sequenceNumber) else none

/-- A dry run changes nothing, and a real run after it does what was announced: it gives numbers
from the starting number on, the first and the last of them to the rows that were named, and seeds
the counter with the value that was named. -/
structure DryRunPredicts (t : IndexTables) : Prop where
  unchanged : t.backfill true = t
  starting : ∀ value, .starting value ∈ t.printed true →
    (given t (t.backfill false)).map Prod.snd =
      (assigned value (given t (t.backfill false)).length).map some
  range : ∀ first last fromId toId, .wouldAssign first last fromId toId ∈ t.printed true →
    (given t (t.backfill false)).head? = some (fromId, some first) ∧
      (given t (t.backfill false)).getLast? = some (toId, some last)
  seed : ∀ value, .wouldSeed value ∈ t.printed true →
    t.finalNextValue false = value ∧ (t.backfill false).runSequence = some (some value)

theorem zip_numberRows (value : ℤ) (rows : List SummaryRow) :
    ((rows.zip (numberRows value rows)).filterMap fun p ↦
      if p.1.pending then some (p.2.id, p.2.sequenceNumber) else none) =
      (pendingIds rows).zip ((assigned value (pendingIds rows).length).map some) := by
  induction rows generalizing value with
  | nil => rfl
  | cons r rows ih =>
    rw [numberRows, pendingIds, List.filter_cons]
    split
    · next hpending =>
      rw [List.zip_cons_cons, List.filterMap_cons]
      dsimp only
      rw [if_pos hpending, List.map_cons, List.length_cons, assigned, List.map_cons,
        List.zip_cons_cons, ← pendingIds, ← ih]
    · next hpending =>
      rw [List.zip_cons_cons, List.filterMap_cons]
      dsimp only
      rw [if_neg hpending, ← pendingIds, ← ih]

/-- **What a real run gives**: consecutive numbers to the pending rows. -/
theorem given_backfill (t : IndexTables) : given t (t.backfill false) =
    (pendingIds t.rows).zip
      ((assigned (nextValue t.rows) (pendingIds t.rows).length).map some) := by
  rw [given, rows_backfill, zip_numberRows]

theorem length_assigned (value : ℤ) (n : ℕ) : (assigned value n).length = n := by
  induction n generalizing value with
  | zero => rfl
  | succ n ih => rw [assigned, List.length_cons, ih]

theorem getLast?_assigned (value : ℤ) (n : ℕ) :
    (assigned value (n + 1)).getLast? = some (value + n) := by
  induction n generalizing value with
  | zero =>
    rw [assigned, assigned]
    simp
  | succ n ih =>
    rw [assigned, assigned, List.getLast?_cons_cons, ← assigned, ih]
    push_cast
    exact congrArg some (by omega)

/-- The numbers a dry run announces are the ones a real run gives. -/
theorem given_announced (t : IndexTables) :
    (∀ value, .starting value ∈ t.printed true →
      (given t (t.backfill false)).map Prod.snd =
        (assigned value (given t (t.backfill false)).length).map some) ∧
    ∀ first last fromId toId, .wouldAssign first last fromId toId ∈ t.printed true →
      (given t (t.backfill false)).head? = some (fromId, some first) ∧
        (given t (t.backfill false)).getLast? = some (toId, some last) := by
  have hlength : ((assigned (nextValue t.rows) (pendingIds t.rows).length).map some).length =
      (pendingIds t.rows).length := by
    rw [List.length_map, length_assigned]
  rw [given_backfill]
  simp only [printed, List.mem_cons, List.not_mem_nil, or_false, reduceCtorEq, false_or, if_true]
  constructor
  · intro value hvalue
    have hstart : value = nextValue t.rows := by
      rcases hvalue with hvalue | hvalue
      · exact BackfillLine.starting.inj hvalue
      · unfold assignmentLine at hvalue
        split at hvalue <;> cases hvalue
    rw [hstart, List.map_snd_zip hlength.le, List.length_zip, hlength, min_self]
  · intro first last fromId toId hrange
    cases hids : pendingIds t.rows with
    | nil =>
      rw [hids] at hrange
      cases hrange
    | cons id ids =>
      rw [hids] at hrange
      obtain ⟨rfl, rfl, rfl, rfl⟩ := BackfillLine.wouldAssign.inj hrange
      rw [hids] at hlength
      refine ⟨rfl, ?_⟩
      have hlast := getLast?_assigned (nextValue t.rows) ids.length
      rw [List.getLast?_eq_getElem?, List.length_zip, hlength, min_self,
        List.getElem?_zip_eq_some]
      constructor
      · rw [← List.getLast?_eq_getElem?, List.getLast?_eq_some_getLast]
      · have hmap : ((assigned (nextValue t.rows) (fromId :: ids).length).map some).getLast? =
            (assigned (nextValue t.rows) (fromId :: ids).length).getLast?.map some :=
          List.getLast?_map
        rw [List.getLast?_eq_getElem?, hlength] at hmap
        rw [hmap, List.length_cons, hlast, Option.map_some]
        push_cast
        exact congrArg (some ∘ some) (by omega)

/-- Where rows are pending, the next number moves past the ones they get. -/
theorem lt_nextValue_numberPending {t : IndexTables} (h : pendingIds t.rows ≠ []) :
    nextValue t.rows < nextValue t.numberPending.rows := by
  obtain ⟨id, ids, hids⟩ := List.exists_cons_of_ne_nil h
  have hperm := rowNumbers_numberRows (nextValue t.rows) t.rows
  have hcount : t.rows.countP (·.pending) = ids.length + 1 := by
    rw [List.countP_eq_length_filter, ← List.length_map (f := (·.id)), ← pendingIds, hids,
      List.length_cons]
  rw [rows_numberPending]
  refine lt_nextValue (hperm.mem_iff.mpr (List.mem_append_right _ ?_))
  rw [hcount, assigned]
  exact List.mem_cons_self

/-- **When a dry run predicts the seed**: no row is pending, and the counter is not ahead of the
numbers on the rows. With a row pending, the real run seeds past the numbers it has given, while the
dry run announces the first of them. -/
theorem dryRunPredicts_iff (t : IndexTables) : t.DryRunPredicts ↔
    pendingIds t.rows = [] ∧
      ∀ next, t.runSequence = some (some next) → next ≤ nextValue t.rows := by
  have hannounced : .wouldSeed (nextValue t.rows) ∈ t.printed true := by
    simp [printed, finalNextValue]
  constructor
  · intro h
    obtain ⟨hused, hstored⟩ := h.seed _ hannounced
    constructor
    · by_contra hpending
      exact (lt_nextValue_numberPending hpending).ne' hused
    · intro next hnext
      rw [runSequence_backfill, hnext] at hstored
      have hle := le_moveForward_some (nextValue (t.backfill false).rows) next
      exact hle.trans_eq (Option.some.inj (Option.some.inj hstored))
  · rintro ⟨hpending, hcounter⟩
    have hnumbered : t.numberPending = t := if_pos hpending
    refine ⟨rfl, (given_announced t).1, (given_announced t).2, fun value hvalue ↦ ?_⟩
    have hseed : value = nextValue t.rows := by
      simpa [printed, finalNextValue, hpending, assignmentLine] using hvalue
    have hrows : (t.backfill false).rows = t.rows := by
      change t.numberPending.rows = t.rows
      rw [hnumbered]
    rw [hseed, runSequence_backfill, hrows]
    refine ⟨congrArg (nextValue ∘ IndexTables.rows) hnumbered,
      congrArg (some ∘ some) ?_⟩
    cases hjoin : t.runSequence.join with
    | none => rfl
    | some next =>
      have hle := hcounter next (Option.join_eq_some_iff.mp hjoin)
      rw [moveForward]
      split
      · rfl
      · omega

end IndexTables

/-! ## Histories -/

/-- The id of the next row. -/
def nextId (rows : List SummaryRow) : ℕ := (rows.map (·.id)).foldr max 0 + 1

theorem id_lt_nextId {rows : List SummaryRow} {r : SummaryRow} (h : r ∈ rows) :
    r.id < nextId rows := by
  induction rows with
  | nil => exact absurd h List.not_mem_nil
  | cons r' rows ih =>
    rw [nextId, List.map_cons, List.foldr_cons]
    rcases List.mem_cons.mp h with rfl | h
    · omega
    · have hlt := ih h
      rw [nextId] at hlt
      omega

namespace IndexTables

/-- What `open` does to `run_sequence`: the table is there, with its row. -/
def openSequence (t : IndexTables) : IndexTables :=
  { t with runSequence := some (some (t.runSequence.join.getD 1)) }

/-- What `start_run_summary` inserts. -/
def insertRow (number : ℤ) (t : IndexTables) : IndexTables where
  rows := t.rows ++ [⟨nextId t.rows, some number⟩]
  sorted := List.pairwise_append.mpr ⟨t.sorted, List.pairwise_singleton _ _, fun r hr r' hr' ↦ by
    rw [List.mem_singleton.mp hr']
    exact id_lt_nextId hr⟩
  runSequence := t.runSequence

/-- The numbers on rows are distinct, and the counter is ahead of them. -/
structure InOrder (t : IndexTables) : Prop where
  nodup : (rowNumbers t.rows).Nodup
  below : ∀ v ∈ rowNumbers t.rows, ∃ next, t.runSequence = some (some next) ∧ v < next

end IndexTables

/-- The database, and the numbers handed out by `_allocate_sequence_number` whose row has not been
inserted. -/
structure NumberHistory where
  tables : IndexTables
  outstanding : List ℤ

/-- What happens to the database: a storage object is opened, a number is allocated, the row of an
allocated number is inserted, or a backfill runs from beginning to end. -/
inductive NumberEvent where
  | openStorage
  | allocate
  | startRunSummary (number : ℤ)
  | backfill (dryRun : Bool)
  deriving DecidableEq

namespace NumberHistory

/-- One event, if it can happen. -/
def step (h : NumberHistory) : NumberEvent → Option NumberHistory
  | .openStorage => some { h with tables := h.tables.openSequence }
  | .allocate => h.tables.runSequence.join.map fun value ↦
      ⟨{ h.tables with runSequence := some (some (value + 1)) }, value :: h.outstanding⟩
  | .startRunSummary number =>
    if number ∈ h.outstanding then
      some ⟨h.tables.insertRow number, h.outstanding.erase number⟩
    else none
  | .backfill dryRun => some { h with tables := h.tables.backfill dryRun }

/-- One event after the other. -/
def run : NumberHistory → List NumberEvent → Option NumberHistory
  | h, [] => some h
  | h, e :: events => (h.step e).bind fun h' ↦ h'.run events

/-- All numbers on rows or handed out. -/
def numbers (h : NumberHistory) : List ℤ := rowNumbers h.tables.rows ++ h.outstanding

/-- They are pairwise distinct. -/
def Distinct (h : NumberHistory) : Prop := h.numbers.Nodup

instance (h : NumberHistory) : Decidable h.Distinct := inferInstanceAs (Decidable (List.Nodup _))

/-- None of the numbers handed out that have no row is among those a backfill would assign now. -/
def Clear (h : NumberHistory) : Prop :=
  ∀ v ∈ h.outstanding, v < nextValue h.tables.rows ∨
    nextValue h.tables.rows + h.tables.rows.countP (·.pending) ≤ v

instance (h : NumberHistory) : Decidable h.Clear := inferInstanceAs (Decidable (∀ v ∈ _, _))

/-- Whenever a backfill begins that is not a dry run, the history is clear. -/
def BackfillsClear : NumberHistory → List NumberEvent → Prop
  | _, [] => True
  | h, e :: events =>
    (e = .backfill false → h.Clear) ∧ ∀ h', h.step e = some h' → h'.BackfillsClear events

/-- The counter is ahead of every number. -/
def Ahead (h : NumberHistory) : Prop :=
  ∀ v ∈ h.numbers, ∃ next, h.tables.runSequence = some (some next) ∧ v < next

theorem numbers_insertRow {h : NumberHistory} {number : ℤ} (hmem : number ∈ h.outstanding) :
    (rowNumbers (h.tables.insertRow number).rows ++ h.outstanding.erase number).Perm h.numbers := by
  have hrows : rowNumbers (h.tables.insertRow number).rows
      = rowNumbers h.tables.rows ++ [number] := List.filterMap_append
  rw [hrows, List.append_assoc, List.singleton_append, numbers]
  exact (List.perm_cons_erase hmem).symm.append_left _

theorem numbers_backfill (h : NumberHistory) :
    (rowNumbers (h.tables.backfill false).rows ++ h.outstanding).Perm
      (assigned (nextValue h.tables.rows) (h.tables.rows.countP (·.pending)) ++ h.numbers) := by
  rw [IndexTables.rows_backfill, numbers]
  refine ((rowNumbers_numberRows _ _).append_right _).trans ?_
  rw [List.append_assoc]
  exact List.perm_append_comm_assoc _ _ _

/-- What a backfill assigns is above the numbers of all rows, so that only numbers handed out can
be among it. -/
theorem nodup_assigned_append_iff (h : NumberHistory) :
    (assigned (nextValue h.tables.rows) (h.tables.rows.countP (·.pending)) ++ h.numbers).Nodup ↔
      h.Distinct ∧ h.Clear := by
  rw [List.nodup_append', and_iff_right (nodup_assigned _ _)]
  refine and_congr_right fun _ ↦ ⟨fun hdisjoint v hv ↦ ?_, fun hclear v hv hmem ↦ ?_⟩
  · by_contra! hbetween
    exact hdisjoint (mem_assigned_iff.mpr hbetween) (List.mem_append_right _ hv)
  · obtain ⟨hlow, hhigh⟩ := mem_assigned_iff.mp hv
    rcases List.mem_append.mp hmem with hrow | hout
    · exact absurd (lt_nextValue hrow) (not_lt.mpr hlow)
    · rcases hclear v hout with hv | hv <;> omega

/-- **One event**: the counter stays ahead, and the numbers stay distinct unless a backfill runs
that is not clear. -/
theorem step_distinct {h h' : NumberHistory} {e : NumberEvent} (hahead : h.Ahead)
    (hstep : h.step e = some h') :
    h'.Ahead ∧ (h'.Distinct ↔ h.Distinct ∧ (e = .backfill false → h.Clear)) := by
  cases e with
  | openStorage =>
    obtain rfl := Option.some.inj hstep
    refine ⟨fun v hv ↦ ?_, by simp [Distinct, numbers, IndexTables.openSequence]⟩
    obtain ⟨next, hnext, hlt⟩ := hahead v hv
    exact ⟨next, by rw [IndexTables.openSequence, hnext]; rfl, hlt⟩
  | allocate =>
    obtain ⟨value, hvalue, rfl⟩ := Option.map_eq_some_iff.mp hstep
    have hsequence : h.tables.runSequence = some (some value) := Option.join_eq_some_iff.mp hvalue
    have hperm : (NumberHistory.numbers ⟨{ h.tables with runSequence := some (some (value + 1)) },
        value :: h.outstanding⟩).Perm (value :: h.numbers) := List.perm_middle
    -- the counter is ahead of all numbers, so the one it gives out is new
    have hbelow : ∀ v ∈ h.numbers, v < value := by
      intro v hv
      obtain ⟨next, hnext, hlt⟩ := hahead v hv
      obtain rfl : value = next := by simpa [hsequence] using hnext
      exact hlt
    refine ⟨fun v hv ↦ ⟨value + 1, rfl, ?_⟩, ?_⟩
    · rcases List.mem_cons.mp (hperm.mem_iff.mp hv) with rfl | hv
      · omega
      · exact (hbelow v hv).trans (by omega)
    · rw [Distinct, hperm.nodup_iff, List.nodup_cons,
        and_iff_right fun hmem ↦ (hbelow value hmem).false]
      exact (and_iff_left nofun).symm
  | startRunSummary number =>
    rw [step] at hstep
    split at hstep
    · rename_i hmem
      obtain rfl := Option.some.inj hstep
      have hperm := numbers_insertRow hmem
      refine ⟨fun v hv ↦ hahead v (hperm.mem_iff.mp hv), ?_⟩
      rw [Distinct, numbers, hperm.nodup_iff]
      exact (and_iff_left nofun).symm
    · exact absurd hstep nofun
  | backfill dryRun =>
    obtain rfl := Option.some.inj hstep
    cases dryRun with
    | true => exact ⟨hahead, (and_iff_left nofun).symm⟩
    | false =>
      have hperm := h.numbers_backfill
      refine ⟨fun v hv ↦ ⟨_, h.tables.runSequence_backfill, ?_⟩, ?_⟩
      · rcases List.mem_append.mp hv with hrow | hout
        · exact (lt_nextValue hrow).trans_le (le_moveForward _ _)
        · obtain ⟨next, hnext, hlt⟩ := hahead v (List.mem_append_right _ hout)
          rw [hnext]
          exact hlt.trans_le (le_moveForward_some _ _)
      · rw [Distinct, numbers, hperm.nodup_iff, nodup_assigned_append_iff]
        exact and_congr_right fun _ ↦ ⟨fun hclear _ ↦ hclear, fun hclear ↦ hclear rfl⟩

/-- **A history.** By induction on the events, with the counter ahead of all numbers. -/
theorem run_distinct {h h' : NumberHistory} {events : List NumberEvent} (hahead : h.Ahead)
    (hrun : h.run events = some h') : h'.Distinct ↔ h.Distinct ∧ h.BackfillsClear events := by
  induction events generalizing h with
  | nil =>
    obtain rfl := Option.some.inj hrun
    exact (and_iff_left trivial).symm
  | cons e events ih =>
    obtain ⟨h₁, hstep, hrest⟩ := Option.bind_eq_some_iff.mp hrun
    obtain ⟨hahead₁, hdistinct⟩ := step_distinct hahead hstep
    rw [ih hahead₁ hrest, hdistinct, and_assoc, BackfillsClear]
    refine and_congr_right fun _ ↦ and_congr_right fun _ ↦
      ⟨fun hclear h₂ hstep₂ ↦ ?_, fun hall ↦ ?_⟩
    · rw [hstep] at hstep₂
      obtain rfl := Option.some.inj hstep₂
      exact hclear
    · exact hall h₁ hstep

/-- **Backfill and allocation.** From a database whose numbers are in order, a history leaves all
numbers distinct exactly if each of its backfills begins clear. -/
theorem distinct_iff {t : IndexTables} (ht : t.InOrder) {events : List NumberEvent}
    {h : NumberHistory} (hrun : run ⟨t, []⟩ events = some h) :
    h.Distinct ↔ BackfillsClear ⟨t, []⟩ events := by
  have hnumbers : numbers ⟨t, []⟩ = rowNumbers t.rows := List.append_nil _
  have hahead : Ahead ⟨t, []⟩ := fun v hv ↦ ht.below v (hnumbers ▸ hv)
  rw [run_distinct hahead hrun, and_iff_right]
  rw [Distinct, hnumbers]
  exact ht.nodup

/-- A database from before there were numbers, with one row. -/
def legacyTables : IndexTables where
  rows := [⟨1, none⟩]
  sorted := List.pairwise_singleton _ _
  runSequence := none

theorem legacyTables_inOrder : legacyTables.InOrder where
  nodup := List.nodup_nil
  below _ hv := absurd hv List.not_mem_nil

/-- For one row without a number, a dry run announces that the counter will be 1. The real run gives
the row that number, and sets the counter to 2. -/
theorem not_dryRunPredicts_legacyTables : ¬∀ t : IndexTables, t.DryRunPredicts := by
  intro hall
  have hstored := ((hall legacyTables).seed 1 (by decide)).2
  revert hstored
  decide

/-- A backfill before the first allocation, as the script asks for. -/
theorem distinct_backfill_first : ∃ h,
    run ⟨legacyTables, []⟩ [.backfill false, .openStorage, .allocate] = some h ∧
      (h.Distinct ↔ BackfillsClear ⟨legacyTables, []⟩ [.backfill false, .openStorage, .allocate]) :=
  ⟨_, rfl, distinct_iff legacyTables_inOrder rfl⟩

/-- A run has been given the number 1 and has not inserted its row when the backfill gives 1 to the
row from before. -/
theorem not_distinct_allocate_first : ¬∀ t : IndexTables, t.InOrder →
    ∀ events h, run ⟨t, []⟩ events = some h → h.Distinct := by
  intro hall
  have hduplicate := hall legacyTables legacyTables_inOrder
    [.openStorage, .allocate, .backfill false] _ rfl
  revert hduplicate
  decide

end NumberHistory

end Nipxi
