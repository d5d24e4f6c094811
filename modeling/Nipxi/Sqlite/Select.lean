import Mathlib.Data.List.DropRight
import Mathlib.Data.List.Nodup
import Mathlib.Data.List.Sort

/-!
# Queries in the order of the key

A table whose rows have an `INTEGER PRIMARY KEY AUTOINCREMENT`: every insertion takes a key above
all that were ever there, and no two rows share one. `select` is a query with a condition, ordered
by the key in one of the two directions, with or without a limit.

* `reverse_select_desc`: the rows of a limited query in descending order are, reversed, the last
  rows of the query in ascending order.
* `select_asc_one`: a query for one row finds the first one that the condition holds of.
* `select_insert`: an insertion appends to what a query in ascending order returns.
-/

namespace Sqlite

universe u

/-- A row with its key. -/
structure Keyed (ρ : Type u) where
  id : ℕ
  row : ρ
  deriving DecidableEq

/-- A table, its rows in whatever order they are stored, and the largest key that was ever used. -/
structure Table (ρ : Type u) where
  rows : List (Keyed ρ)
  sequence : ℕ
  bounded : ∀ r ∈ rows, r.id ≤ sequence
  nodup : (rows.map Keyed.id).Nodup

/-- `ORDER BY id ASC` or `DESC`. -/
inductive Direction
  | asc
  | desc
  deriving DecidableEq

/-- A row comes no later than another. -/
def Direction.le {ρ : Type u} (d : Direction) (a b : Keyed ρ) : Prop :=
  match d with
  | .asc => a.id ≤ b.id
  | .desc => b.id ≤ a.id

instance {ρ : Type u} (d : Direction) : DecidableRel (d.le (ρ := ρ)) := fun a b ↦
  match d with
  | .asc => inferInstanceAs (Decidable (a.id ≤ b.id))
  | .desc => inferInstanceAs (Decidable (b.id ≤ a.id))

instance {ρ : Type u} (d : Direction) : Std.Total (d.le (ρ := ρ)) where
  total a b := by
    cases d with
    | asc => exact Nat.le_total a.id b.id
    | desc => exact Nat.le_total b.id a.id

instance {ρ : Type u} (d : Direction) : IsTrans (Keyed ρ) d.le where
  trans a b c hab hbc := by
    cases d with
    | asc => exact Nat.le_trans hab hbc
    | desc => exact Nat.le_trans hbc hab

namespace Table

variable {ρ : Type u}

/-- No rows. -/
def empty : Table ρ := ⟨[], 0, nofun, List.nodup_nil⟩

/-- `INSERT`. -/
def insert (t : Table ρ) (row : ρ) : Table ρ where
  rows := t.rows ++ [⟨t.sequence + 1, row⟩]
  sequence := t.sequence + 1
  bounded r hr := by
    rcases List.mem_append.mp hr with hr | hr
    · exact (t.bounded r hr).trans (Nat.le_succ _)
    · rw [List.mem_singleton.mp hr]
  nodup := by
    rw [List.map_append, List.map_singleton, List.nodup_append']
    refine ⟨t.nodup, List.nodup_singleton _, fun i hi hmem ↦ ?_⟩
    obtain ⟨r, hr, rfl⟩ := List.mem_map.mp hi
    have hid : r.id = t.sequence + 1 := List.mem_singleton.mp hmem
    have hle := t.bounded r hr
    omega

/-- `SELECT … WHERE … ORDER BY id`. -/
def selectAll (t : Table ρ) (p : ρ → Bool) (d : Direction) : List (Keyed ρ) :=
  (t.rows.filter fun r ↦ p r.row).insertionSort d.le

/-- `SELECT … WHERE … ORDER BY id LIMIT …`. -/
def select (t : Table ρ) (p : ρ → Bool) (d : Direction) : Option ℕ → List (Keyed ρ)
  | none => t.selectAll p d
  | some k => (t.selectAll p d).take k

variable {t : Table ρ} {p q : ρ → Bool} {d : Direction}

theorem mem_selectAll {r : Keyed ρ} : r ∈ t.selectAll p d ↔ r ∈ t.rows ∧ p r.row = true := by
  rw [selectAll, List.mem_insertionSort, List.mem_filter]

/-- **One order only**: rows of the table with the condition, in the order of the query, are what
it returns. -/
theorem selectAll_eq {l : List (Keyed ρ)} (hperm : l.Perm (t.rows.filter fun r ↦ p r.row))
    (hsorted : l.Pairwise d.le) : t.selectAll p d = l := by
  refine List.Perm.eq_of_pairwise (fun a b ha hb hab hba ↦ ?_) (List.pairwise_insertionSort _ _)
    hsorted ((List.perm_insertionSort _ _).trans hperm.symm)
  refine List.inj_on_of_nodup_map t.nodup (mem_selectAll.mp ha).1
    (List.mem_of_mem_filter (hperm.mem_iff.mp hb)) ?_
  cases d with
  | asc => exact Nat.le_antisymm hab hba
  | desc => exact Nat.le_antisymm hba hab

theorem selectAll_desc : t.selectAll p .desc = (t.selectAll p .asc).reverse := by
  refine selectAll_eq ((List.reverse_perm _).trans (List.perm_insertionSort _ _)) ?_
  rw [List.pairwise_reverse]
  exact List.pairwise_insertionSort _ _

/-- **The last rows.** -/
theorem reverse_select_desc (k : ℕ) :
    (t.select p .desc (some k)).reverse = (t.select p .asc none).rtake k := by
  rw [select, select, selectAll_desc, List.rtake_eq_reverse_take_reverse]

theorem selectAll_and : t.selectAll (fun r ↦ p r && q r) d =
    (t.selectAll p d).filter fun r ↦ q r.row := by
  refine selectAll_eq ?_ ((List.pairwise_insertionSort _ _).filter _)
  have hfilter := (List.perm_insertionSort d.le (t.rows.filter fun r ↦ p r.row)).filter
    fun r ↦ q r.row
  rw [List.filter_filter] at hfilter
  exact hfilter.trans (List.Perm.of_eq (List.filter_congr fun r _ ↦ Bool.and_comm _ _))

/-- **The first row.** -/
theorem select_asc_one : (t.select (fun r ↦ p r && q r) .asc (some 1)).head? =
    (t.select p .asc none).find? fun r ↦ q r.row := by
  rw [select, select, selectAll_and, List.head?_take, if_neg Nat.one_ne_zero, List.head?_filter]

/-- **An insertion** comes last. -/
theorem select_insert (row : ρ) : (t.insert row).select p .asc none =
    t.select p .asc none ++ [⟨t.sequence + 1, row⟩].filter fun r ↦ p r.row := by
  refine selectAll_eq ?_ (List.pairwise_append.mpr
    ⟨List.pairwise_insertionSort _ _, (List.pairwise_singleton _ _).filter _,
      fun a ha b hb ↦ ?_⟩)
  · rw [insert, List.filter_append]
    exact (List.perm_insertionSort _ _).append_right _
  · rw [List.mem_singleton.mp (List.mem_of_mem_filter hb)]
    exact (t.bounded a (mem_selectAll.mp ha).1).trans (Nat.le_succ _)

end Table

end Sqlite
