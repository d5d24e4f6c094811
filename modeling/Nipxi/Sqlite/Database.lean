import Mathlib.Logic.Function.Basic
import Mathlib.Data.Nat.Notation

/-!
# A database with transactions

A database file has committed contents, which every connection sees, and one transaction state
for each connection. Only one connection holds the write lock at a time; `Exclusive` says so, and
`LockFree` is what the database checks before it grants the lock.

Statements that write open a transaction first where none is open, and a statement that fails
leaves that transaction open, unless the database itself rolled it back. A commit that fails
leaves the transaction as it was.

`Exclusive` and `Everywhere P`, that every contents in the database satisfy `P`, are kept by each
operation; the rules are stated for `setTxn` and `commit`, which the operations are made of.
-/

namespace Sqlite

universe u v

/-- The transaction of one connection. -/
inductive Txn (α : Type u)
  | none
  /-- Open, with nothing written and no lock held. -/
  | opened
  /-- Holding the write lock, with the contents a commit would publish. -/
  | writing (contents : α)
  deriving DecidableEq

/-- How the database answers a statement that writes. -/
inductive Answer
  | ok
  | failed
  /-- Failed, and the whole transaction with it. -/
  | rolledBack
  deriving DecidableEq

/-- A database file and the transactions of its connections `κ`. -/
structure Database (κ : Type v) (α : Type u) where
  committed : α
  txn : κ → Txn α

namespace Database

variable {κ : Type v} {α : Type u} {db : Database κ α} {c c' : κ} {x : α} {t : Txn α}

/-- What a connection reads: its own uncommitted contents if it has some. -/
def view (db : Database κ α) (c : κ) : α :=
  match db.txn c with
  | .writing x => x
  | _ => db.committed

theorem view_of_writing (h : db.txn c = .writing x) : db.view c = x := by
  rw [view, h]

theorem view_of_not_writing (h : ∀ x, db.txn c ≠ .writing x) : db.view c = db.committed := by
  unfold view
  split
  · exact absurd ‹_› (h _)
  · rfl

/-- `in_transaction`. -/
def inTransaction (db : Database κ α) (c : κ) : Bool :=
  match db.txn c with
  | .none => false
  | _ => true

/-- No connection but `c` holds the write lock. -/
def LockFree (db : Database κ α) (c : κ) : Prop := ∀ c' x, c' ≠ c → db.txn c' ≠ .writing x

/-- At most one connection holds the write lock. -/
def Exclusive (db : Database κ α) : Prop := ∀ c x, db.txn c = .writing x → db.LockFree c

/-- Whatever a connection may read satisfies `P`. -/
structure Everywhere (P : α → Prop) (db : Database κ α) : Prop where
  committed : P db.committed
  writing : ∀ c x, db.txn c = .writing x → P x

theorem Everywhere.view {P : α → Prop} (h : db.Everywhere P) (c : κ) : P (db.view c) := by
  unfold Database.view
  split
  · exact h.writing c _ ‹_›
  · exact h.committed

/-! ## Operations -/

variable [DecidableEq κ]

/-- Replacing the transaction of one connection. -/
def setTxn (db : Database κ α) (c : κ) (t : Txn α) : Database κ α :=
  { db with txn := Function.update db.txn c t }

/-- `BEGIN IMMEDIATE`: refused inside a transaction, and where the lock is not granted. -/
def beginImmediate (db : Database κ α) (c : κ) (granted : Bool) : Option (Database κ α) :=
  match db.txn c, granted with
  | .none, true => some (db.setTxn c (.writing db.committed))
  | _, _ => none

/-- A statement that writes, inside a transaction that it opens itself where none is open. -/
def execute (db : Database κ α) (c : κ) (f : α → α) : Answer → Database κ α
  | .ok => db.setTxn c (.writing (f (db.view c)))
  | .failed =>
    match db.txn c with
    | .none => db.setTxn c .opened
    | _ => db
  | .rolledBack => db.setTxn c .none

/-- `COMMIT`. -/
def commit (db : Database κ α) (c : κ) : Bool → Database κ α
  | true => { committed := db.view c, txn := Function.update db.txn c .none }
  | false => db

/-- `ROLLBACK`; closing a connection, or opening it anew, amounts to it as well. -/
def rollback (db : Database κ α) (c : κ) : Database κ α := db.setTxn c .none

@[simp] theorem committed_setTxn : (db.setTxn c t).committed = db.committed := rfl

@[simp] theorem txn_setTxn_self : (db.setTxn c t).txn c = t := Function.update_self ..

@[simp] theorem txn_setTxn_of_ne (h : c' ≠ c) : (db.setTxn c t).txn c' = db.txn c' :=
  Function.update_of_ne h ..

@[simp] theorem committed_commit : (db.commit c true).committed = db.view c := rfl

@[simp] theorem txn_commit_self : (db.commit c true).txn c = .none := Function.update_self ..

@[simp] theorem txn_commit_of_ne (h : c' ≠ c) : (db.commit c true).txn c' = db.txn c' :=
  Function.update_of_ne h ..

theorem beginImmediate_eq_some {db' : Database κ α} {granted : Bool} :
    db.beginImmediate c granted = some db' ↔
      db.txn c = .none ∧ granted = true ∧ db.setTxn c (.writing db.committed) = db' := by
  unfold beginImmediate
  split <;> simp_all

/-! ## The write lock -/

theorem LockFree.exclusive_setTxn (hfree : db.LockFree c) : (db.setTxn c t).Exclusive := by
  intro c₁ x hx c₂ y hne hy
  by_cases h₁ : c₁ = c
  · subst h₁
    rw [txn_setTxn_of_ne hne] at hy
    exact hfree c₂ y hne hy
  · rw [txn_setTxn_of_ne h₁] at hx
    exact hfree c₁ x h₁ hx

/-- Giving the lock up needs no permission. -/
theorem Exclusive.setTxn_of_not_writing (h : db.Exclusive) (ht : ∀ x, t ≠ .writing x) :
    (db.setTxn c t).Exclusive := by
  intro c₁ x hx c₂ y hne hy
  have h₁ : c₁ ≠ c := fun heq ↦ ht x (by rwa [heq, txn_setTxn_self] at hx)
  have h₂ : c₂ ≠ c := fun heq ↦ ht y (by rwa [heq, txn_setTxn_self] at hy)
  rw [txn_setTxn_of_ne h₁] at hx
  rw [txn_setTxn_of_ne h₂] at hy
  exact h c₁ x hx c₂ y hne hy

theorem Exclusive.rollback (h : db.Exclusive) : (db.rollback c).Exclusive :=
  h.setTxn_of_not_writing nofun

theorem Exclusive.commit (h : db.Exclusive) : (db.commit c true).Exclusive := by
  have hset : (db.setTxn c .none).Exclusive := h.rollback
  exact fun c₁ x hx ↦ hset c₁ x hx

/-! ## What holds of all contents -/

variable {P : α → Prop}

theorem Everywhere.setTxn (h : db.Everywhere P) (ht : ∀ x, t = .writing x → P x) :
    (db.setTxn c t).Everywhere P where
  committed := h.committed
  writing c₁ x hx := by
    by_cases h₁ : c₁ = c
    · exact ht x (by rwa [h₁, txn_setTxn_self] at hx)
    · exact h.writing c₁ x (by rwa [txn_setTxn_of_ne h₁] at hx)

theorem Everywhere.rollback (h : db.Everywhere P) : (db.rollback c).Everywhere P :=
  h.setTxn nofun

theorem Everywhere.commit (h : db.Everywhere P) : (db.commit c true).Everywhere P where
  committed := h.view c
  writing c₁ x hx := (h.rollback (c := c)).writing c₁ x hx

end Database

end Sqlite
