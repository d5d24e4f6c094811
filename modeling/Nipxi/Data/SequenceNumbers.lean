import Nipxi.Sqlite.Database
import Nipxi.Transition.System
import Mathlib.Data.List.Pairwise
import Mathlib.Data.List.Nodup

/-!
# Run sequence numbers

Every run of the station has a number from the one row of `run_sequence`, a table in the index
database that all processes share. `_allocate_sequence_number` takes the write lock with
`BEGIN IMMEDIATE`, reads the row, adds one to it and commits; `_new_run_id` writes the number to
the storage object and formats the run id from there.

The model has any number of storage objects and threads. A thread stands between two statements
of `open`, `begin_new_run_id` or the allocation that both use, a thread may call either on any
object, any statement may fail, and an object may be closed, or lost with its process, at any time.

## Main results

* `counterInv_run`: where no object is opened or closed while another thread uses it, a number
  allocated is smaller than everything the row may still come to hold.
* `uniqueNumbers_of_unshared`: there the numbers rise in the order of their commits, and, where
  no thread writes its number to an object that another is formatting from, no run id is given
  out twice.
-/

namespace Nipxi

open Sqlite Transition

/-! ## The text of a run id -/

/-- The format `08d`. -/
def eightDigits (n : ℕ) : List Char :=
  List.replicate (8 - (Nat.toDigits 10 n).length) '0' ++ Nat.toDigits 10 n

/-- The run id of a number at a station, with a hyphen between the two. -/
def runIdText (stationId : List Char) (n : ℕ) : List Char := stationId ++ '-' :: eightDigits n

theorem isDigit_of_mem_eightDigits {n : ℕ} {c : Char} (h : c ∈ eightDigits n) :
    c.isDigit = true := by
  rcases List.mem_append.mp h with h | h
  · rw [List.eq_of_mem_replicate h]
    rfl
  · exact Nat.isDigit_of_mem_toDigits (by decide) (by decide) h

theorem ofDigitChars_replicate_zero (k : ℕ) (l : List Char) :
    Nat.ofDigitChars 10 (List.replicate k '0' ++ l) 0 = Nat.ofDigitChars 10 l 0 := by
  induction k with
  | zero => rfl
  | succ k ih => exact ih

theorem eightDigits_injective : Function.Injective eightDigits := by
  intro m n h
  have hvalue (k : ℕ) : Nat.ofDigitChars 10 (eightDigits k) 0 = k := by
    rw [eightDigits, ofDigitChars_replicate_zero, Nat.ofDigitChars_ten_toDigits]
  rw [← hvalue m, h, hvalue n]

/-- Whatever the stations are called, equal run ids have equal numbers: the digits are what
follows the last hyphen. -/
theorem runIdText_injective {a b : List Char} {m n : ℕ} (h : runIdText a m = runIdText b n) :
    m = n := by
  have hlast (a : List Char) (k : ℕ) :
      (runIdText a k).reverse.takeWhile (· != '-') = (eightDigits k).reverse := by
    have hall : ∀ c ∈ (eightDigits k).reverse, (c != '-') = true := by
      intro c hc
      have hdigit := isDigit_of_mem_eightDigits (List.mem_reverse.mp hc)
      refine bne_iff_ne.mpr fun heq ↦ ?_
      rw [heq] at hdigit
      exact absurd hdigit (by decide)
    rw [runIdText, List.reverse_append, List.reverse_cons, List.append_assoc,
      List.takeWhile_append_of_pos hall]
    simp
  have hrev : (eightDigits m).reverse = (eightDigits n).reverse := by
    rw [← hlast a m, h, hlast b n]
  exact eightDigits_injective (List.reverse_injective hrev)

/-! ## Storage objects and threads -/

/-- What the allocation reads and writes of a `DataStorage`. Its index connection is the
connection of the same name in the database. -/
structure StorageObject (θ : Type) where
  dbIndex : Bool
  dbIndexLock : Option θ
  sequenceNumber : Option ℕ
  runId : Option (List Char)

/-- An object as `__init__` leaves it. -/
def StorageObject.new (θ : Type) : StorageObject θ := ⟨false, none, none, none⟩

/-- Who called `_new_run_id`: `begin_new_run_id`, or `_open_once` in an attempt of `open`. -/
inductive IdCaller
  | beginNewRunId
  | openOnce (attempt : ℕ)
  deriving DecidableEq

/-- The statement a thread has next, with the object it is working on. -/
inductive IdPhase (ι : Type)
  | idle
  | connecting (i : ι) (attempt : ℕ)
  | seeding (i : ι) (attempt : ℕ)
  | committingSeed (i : ι) (attempt : ℕ)
  | openingTelemetry (i : ι) (attempt : ℕ)
  | beginning (i : ι) (caller : IdCaller) (attempt : ℕ)
  | selecting (i : ι) (caller : IdCaller) (attempt : ℕ)
  | updating (i : ι) (caller : IdCaller) (attempt : ℕ) (value : ℕ)
  | committing (i : ι) (caller : IdCaller) (attempt : ℕ) (value : ℕ)
  | assigning (i : ι) (caller : IdCaller) (value : ℕ)
  | formatting (i : ι) (caller : IdCaller)
  | storing (i : ι) (caller : IdCaller) (runId : List Char)
  deriving DecidableEq

/-- The object a thread is working on, and whether it does so for `open`. -/
def IdPhase.user? {ι : Type} : IdPhase ι → Option (ι × IdCaller)
  | .idle => none
  | .connecting i n | .seeding i n | .committingSeed i n | .openingTelemetry i n =>
    some (i, .openOnce n)
  | .beginning i c _ | .selecting i c _ | .updating i c _ _ | .committing i c _ _
  | .assigning i c _ | .formatting i c | .storing i c _ => some (i, c)

def IdPhase.Uses {ι : Type} (p : IdPhase ι) (i : ι) : Prop := ∃ c, p.user? = some (i, c)

def IdPhase.Opens {ι : Type} (p : IdPhase ι) (i : ι) : Prop := ∃ n, p.user? = some (i, .openOnce n)

variable {ι : Type}

/-- The object whose lock a thread holds inside an allocation. -/
def IdPhase.locked? : IdPhase ι → Option ι
  | .selecting i _ _ | .updating i _ _ _ | .committing i _ _ _ => some i
  | _ => none

theorem IdPhase.uses_of_locked {p : IdPhase ι} {i : ι} (h : p.locked? = some i) : p.Uses i := by
  cases p <;> simp_all [IdPhase.locked?, IdPhase.Uses, IdPhase.user?]

theorem IdPhase.Opens.uses {p : IdPhase ι} {i : ι} (h : p.Opens i) : p.Uses i :=
  let ⟨_, hn⟩ := h
  ⟨_, hn⟩

/-- `db'` differs from `db` in the transaction of `i` at most, and in what is committed only if
`i` had the write lock. -/
structure TouchesOnly (i : ι) (db db' : Database ι (Option ℕ)) : Prop where
  txn : ∀ j, j ≠ i → db'.txn j = db.txn j
  committed : db'.committed = db.committed ∨ ∃ x, db.txn i = .writing x

theorem TouchesOnly.refl (i : ι) (db : Database ι (Option ℕ)) : TouchesOnly i db db :=
  ⟨fun _ _ ↦ rfl, Or.inl rfl⟩

/-- What a thread inside an allocation relies on: its object has the write lock, and holds the row
the thread read or wrote. -/
def HoldsRow (db : Database ι (Option ℕ)) : IdPhase ι → Prop
  | .selecting i _ _ => db.txn i = .writing db.committed
  | .updating i _ _ v => db.txn i = .writing (some v) ∧ db.committed = some v
  | .committing i _ _ v => db.txn i = .writing (some (v + 1)) ∧ db.committed = some v
  | _ => True

theorem holds_of_not_locked {db : Database ι (Option ℕ)} {p : IdPhase ι} (h : p.locked? = none) :
    HoldsRow db p := by
  cases p <;> trivial

/-- A statement on another object leaves the row as the thread knows it: that object could only
commit if it had the write lock. -/
theorem HoldsRow.of_touches {db db' : Database ι (Option ℕ)} {p : IdPhase ι} {i j : ι}
    (h : HoldsRow db p) (hp : p.locked? = some j) (hne : j ≠ i) (hex : db.Exclusive)
    (ht : TouchesOnly i db db') : HoldsRow db' p := by
  have hcommitted {x : Option ℕ} (hx : db.txn j = .writing x) : db'.committed = db.committed :=
    ht.committed.resolve_right fun ⟨y, hy⟩ ↦ hex j x hx i y hne.symm hy
  cases p with
  | selecting k c a =>
    obtain rfl : k = j := Option.some.inj hp
    change db'.txn k = .writing db'.committed
    rw [ht.txn k hne, hcommitted h]
    exact h
  | updating k c a v =>
    obtain rfl : k = j := Option.some.inj hp
    exact ⟨(ht.txn k hne).trans h.1, (hcommitted h.1).trans h.2⟩
  | committing k c a v =>
    obtain rfl : k = j := Option.some.inj hp
    exact ⟨(ht.txn k hne).trans h.1, (hcommitted h.1).trans h.2⟩
  | _ => cases hp

structure SequenceState (ι θ : Type) where
  db : Database ι (Option ℕ)
  storage : ι → StorageObject θ
  phase : θ → IdPhase ι
  /-- The numbers allocated, in the order of their commits, newest first. -/
  allocated : List ℕ
  /-- What the run ids were formatted from, newest first. -/
  formatted : List (ι × ℕ)

section System

variable {θ : Type} [DecidableEq ι] [DecidableEq θ]

namespace SequenceState

def setPhase (s : SequenceState ι θ) (t : θ) (p : IdPhase ι) : SequenceState ι θ :=
  { s with phase := Function.update s.phase t p }

def setStorage (s : SequenceState ι θ) (i : ι) (d : StorageObject θ) : SequenceState ι θ :=
  { s with storage := Function.update s.storage i d }

def setDb (s : SequenceState ι θ) (db : Database ι (Option ℕ)) : SequenceState ι θ :=
  { s with db := db }

def unlock (s : SequenceState ι θ) (i : ι) : SequenceState ι θ :=
  s.setStorage i { s.storage i with dbIndexLock := none }

/-- `_close_partial`, and the closing of the index connection in `close`. -/
def closeIndex (s : SequenceState ι θ) (i : ι) : SequenceState ι θ :=
  (s.setDb (s.db.rollback i)).setStorage i { s.storage i with dbIndex := false }

/-- An `sqlite3.Error` reaches `open`: it closes what it has, and tries again after an operational
error, five times in all. -/
def openFailed (s : SequenceState ι θ) (t : θ) (i : ι) (attempt : ℕ) (operational : Bool) :
    SequenceState ι θ :=
  (s.closeIndex i).setPhase t
    (if operational ∧ attempt + 1 < 5 then .connecting i (attempt + 1) else .idle)

/-- An `sqlite3.Error` leaves `_new_run_id`. -/
def newRunIdFailed (s : SequenceState ι θ) (t : θ) (i : ι) (operational : Bool) :
    IdCaller → SequenceState ι θ
  | .beginNewRunId => s.setPhase t .idle
  | .openOnce n => s.openFailed t i n operational

/-- An `sqlite3.Error` leaves the locked part of an allocation attempt: the allocation tries
again after an operational error, five times in all. -/
def attemptFailed (s : SequenceState ι θ) (t : θ) (i : ι) (caller : IdCaller) (attempt : ℕ)
    (operational : Bool) : SequenceState ι θ :=
  if operational ∧ attempt + 1 < 5 then s.setPhase t (.beginning i caller (attempt + 1))
  else s.newRunIdFailed t i operational caller

end SequenceState

/-- The statements, and how they go. -/
inductive SequenceAction
  | openStorage
  | connect
  | seed
  | commitSeed
  | openTelemetry
  | openFails (operational : Bool)
  | beginNewRunId
  | begin
  | beginFails (operational : Bool)
  | select
  | selectNothing
  | update
  | statementFails (operational : Bool)
  | commit
  | commitFails (operational : Bool)
  | assign
  | format
  | store
  | close
  | crash
  deriving DecidableEq

/-- The phase of a thread once the process of an object has ended. -/
def IdPhase.lose (p : IdPhase ι) (i : ι) : IdPhase ι :=
  if p.user?.map Prod.fst = some i then .idle else p

theorem IdPhase.lose_cases (p : IdPhase ι) (i : ι) :
    p.lose i = .idle ∨ (¬p.Uses i ∧ p.lose i = p) := by
  unfold lose
  split
  · exact Or.inl rfl
  · rename_i hnot
    exact Or.inr ⟨fun ⟨c, hc⟩ ↦ hnot (by rw [hc]; rfl), rfl⟩

open SequenceState in
/-- One statement of a thread on an object, where `stationId i` is the station identity of the
process of `i`. -/
inductive SequenceStep (stationId : ι → List Char) :
    SequenceState ι θ → θ × ι × SequenceAction → SequenceState ι θ → Prop
  | openStorage {s t i} : s.phase t = .idle →
      SequenceStep stationId s (t, i, .openStorage) (s.setPhase t (.connecting i 0))
  /-- A connection replaces the one the object had, with its transaction. -/
  | connect {s t i n} : s.phase t = .connecting i n →
      SequenceStep stationId s (t, i, .connect)
        (((s.setDb (s.db.rollback i)).setStorage i { s.storage i with dbIndex := true }).setPhase t
          (.seeding i n))
  /-- `INSERT OR IGNORE INTO run_sequence (id, next_value) VALUES (1, 1)`. -/
  | seed {s t i n} : s.phase t = .seeding i n → (s.storage i).dbIndex = true → s.db.LockFree i →
      SequenceStep stationId s (t, i, .seed)
        ((s.setDb (s.db.execute i (fun v ↦ some (v.getD 1)) .ok)).setPhase t (.committingSeed i n))
  | commitSeed {s t i n} : s.phase t = .committingSeed i n → (s.storage i).dbIndex = true →
      SequenceStep stationId s (t, i, .commitSeed)
        ((s.setDb (s.db.commit i true)).setPhase t (.openingTelemetry i n))
  | openTelemetry {s t i n} : s.phase t = .openingTelemetry i n →
      SequenceStep stationId s (t, i, .openTelemetry) (s.setPhase t (.beginning i (.openOnce n) 0))
  | openFails {s t i n p b} : s.phase t = p →
      p = .connecting i n ∨ p = .seeding i n ∨ p = .committingSeed i n ∨ p = .openingTelemetry i n →
      SequenceStep stationId s (t, i, .openFails b) (s.openFailed t i n b)
  | beginNewRunId {s t i} : s.phase t = .idle →
      SequenceStep stationId s (t, i, .beginNewRunId) (s.setPhase t (.beginning i .beginNewRunId 0))
  | begin {s t i c k db} : s.phase t = .beginning i c k → (s.storage i).dbIndex = true →
      (s.storage i).dbIndexLock = none → s.db.LockFree i → s.db.beginImmediate i true = some db →
      SequenceStep stationId s (t, i, .begin)
        (((s.setDb db).setStorage i { s.storage i with dbIndexLock := some t }).setPhase t
          (.selecting i c k))
  /-- The lock is not granted in time, the object is in a transaction already, or it is closed. -/
  | beginFails {s t i c k b} : s.phase t = .beginning i c k →
      SequenceStep stationId s (t, i, .beginFails b) (s.attemptFailed t i c k b)
  | select {s t i c k v} : s.phase t = .selecting i c k → (s.storage i).dbIndex = true →
      s.db.view i = some v →
      SequenceStep stationId s (t, i, .select) (s.setPhase t (.updating i c k v))
  /-- `fetchone()` is `None`, and the `TypeError` of reading it passes every handler. -/
  | selectNothing {s t i c k} : s.phase t = .selecting i c k → s.db.view i = none →
      SequenceStep stationId s (t, i, .selectNothing) ((s.unlock i).setPhase t .idle)
  | update {s t i c k v} : s.phase t = .updating i c k v → (s.storage i).dbIndex = true →
      s.db.LockFree i →
      SequenceStep stationId s (t, i, .update)
        ((s.setDb (s.db.execute i (Option.map (· + 1)) .ok)).setPhase t (.committing i c k v))
  /-- The handler of the two statements rolls back before it raises again. -/
  | statementFails {s t i c k p b} : s.phase t = p →
      p = .selecting i c k ∨ (∃ v, p = .updating i c k v) →
      SequenceStep stationId s (t, i, .statementFails b)
        (((s.setDb (s.db.rollback i)).unlock i).attemptFailed t i c k b)
  | commit {s t i c k v} : s.phase t = .committing i c k v → (s.storage i).dbIndex = true →
      SequenceStep stationId s (t, i, .commit)
        { (((s.setDb (s.db.commit i true)).unlock i).setPhase t (.assigning i c v)) with
          allocated := v :: s.allocated }
  /-- The commit stands outside the handler: the transaction stays open. -/
  | commitFails {s t i c k v b} : s.phase t = .committing i c k v →
      SequenceStep stationId s (t, i, .commitFails b) ((s.unlock i).attemptFailed t i c k b)
  | assign {s t i c v} : s.phase t = .assigning i c v →
      SequenceStep stationId s (t, i, .assign)
        ((s.setStorage i { s.storage i with sequenceNumber := some v }).setPhase t
          (.formatting i c))
  /-- The number is read back from the object. -/
  | format {s t i c n} : s.phase t = .formatting i c →
      (s.storage i).sequenceNumber = some n →
      SequenceStep stationId s (t, i, .format)
        { s.setPhase t (.storing i c (runIdText (stationId i) n)) with
          formatted := (i, n) :: s.formatted }
  | store {s t i c r} : s.phase t = .storing i c r →
      SequenceStep stationId s (t, i, .store)
        ((s.setStorage i { s.storage i with runId := some r }).setPhase t .idle)
  | close {s t i} : s.phase t = .idle → SequenceStep stationId s (t, i, .close) (s.closeIndex i)
  /-- The process of the object ends, and with it every thread that was using the object. -/
  | crash {s t i} :
      SequenceStep stationId s (t, i, .crash)
        { (s.setDb (s.db.rollback i)).setStorage i (StorageObject.new θ) with
          phase := fun t' ↦ (s.phase t').lose i }

/-- The objects are new and no thread is in a call; the row may be there or not. -/
def SequenceState.Initial (s : SequenceState ι θ) : Prop :=
  (∀ i, s.db.txn i = .none ∧ s.storage i = StorageObject.new θ) ∧ (∀ t, s.phase t = .idle) ∧
    s.allocated = [] ∧ s.formatted = []

/-- The storage objects and threads that share the index database. -/
def sequenceSystem (stationId : ι → List Char) :
    System (SequenceState ι θ) (θ × ι × SequenceAction) :=
  ⟨SequenceState.Initial, SequenceStep stationId⟩

/-- The run ids formatted so far. -/
def SequenceState.runIds (stationId : ι → List Char) (s : SequenceState ι θ) : List (List Char) :=
  s.formatted.map fun p ↦ runIdText (stationId p.1) p.2

/-- The numbers rise in the order of their commits, and no run id was formatted twice. -/
def UniqueNumbers (stationId : ι → List Char) (s : SequenceState ι θ) : Prop :=
  s.allocated.Pairwise (· > ·) ∧ (s.runIds stationId).Nodup

/-- What the object must have to itself: it is opened and closed while no other thread uses it,
no call begins on it while another thread opens it, and no number is written to it while another
thread is about to format a run id from it. -/
def Unshared (s : SequenceState ι θ) : θ × ι × SequenceAction → Prop
  | (t, i, .openStorage) | (t, i, .close) => ∀ t', t' ≠ t → ¬(s.phase t').Uses i
  | (t, i, .beginNewRunId) => ∀ t', t' ≠ t → ¬(s.phase t').Opens i
  | (t, i, .assign) => ∀ t' c, t' ≠ t → s.phase t' ≠ .formatting i c
  | _ => True

/-! ## What a statement leaves alone -/

theorem touches_setTxn (i : ι) (db : Database ι (Option ℕ)) (x : Txn (Option ℕ)) :
    TouchesOnly i db (db.setTxn i x) :=
  ⟨fun _ hj ↦ Database.txn_setTxn_of_ne hj, Or.inl rfl⟩

theorem touches_commit (i : ι) (db : Database ι (Option ℕ)) :
    TouchesOnly i db (db.commit i true) := by
  refine ⟨fun _ hj ↦ Database.txn_commit_of_ne hj, ?_⟩
  by_cases h : ∃ x, db.txn i = .writing x
  · exact Or.inr h
  · exact Or.inl (Database.view_of_not_writing (not_exists.mp h))

/-- A failed attempt puts the thread before its next attempt, or ends its call; only a failure
that leaves `open` touches the database. -/
theorem SequenceState.attemptFailed_eq (s : SequenceState ι θ) (t : θ) (i : ι) (c : IdCaller)
    (k : ℕ) (b : Bool) :
    ∃ q db d, s.attemptFailed t i c k b =
        ((s.setDb db).setStorage i { s.storage i with dbIndex := d }).setPhase t q ∧
      (q = .idle ∨ (∃ k', q = .beginning i c k') ∨ ∃ n m, c = .openOnce n ∧ q = .connecting i m) ∧
      (db = s.db ∨ (∃ n, c = .openOnce n) ∧ db = s.db.rollback i) := by
  have hsame (q : IdPhase ι) : s.setPhase t q =
      ((s.setDb s.db).setStorage i
        { s.storage i with dbIndex := (s.storage i).dbIndex }).setPhase t q := by
    simp [setDb, setStorage, Function.update_eq_self]
  unfold attemptFailed
  split
  · exact ⟨_, _, _, hsame _, Or.inr (Or.inl ⟨_, rfl⟩), Or.inl rfl⟩
  · cases c with
    | beginNewRunId => exact ⟨_, _, _, hsame _, Or.inl rfl, Or.inl rfl⟩
    | openOnce n =>
      refine ⟨_, _, _, rfl, ?_, Or.inr ⟨⟨n, rfl⟩, rfl⟩⟩
      split
      · exact Or.inr (Or.inr ⟨n, n + 1, rfl, rfl⟩)
      · exact Or.inl rfl

/-- What any statement but a crash does, as far as the other threads can tell. -/
structure IdMoves (s : SequenceState ι θ) (t : θ) (i : ι) (a : SequenceAction)
    (s' : SequenceState ι θ) : Prop where
  storage : ∀ j, j ≠ i → s'.storage j = s.storage j
  phase : ∀ t', t' ≠ t → s'.phase t' = s.phase t'
  touches : TouchesOnly i s.db s'.db
  exclusive : s.db.Exclusive → s'.db.Exclusive
  /-- Only the two calls give a thread an object, and only `open` is ever opening one. -/
  user : (s'.phase t).user? = none ∨ (s'.phase t).user? = (s.phase t).user? ∨
    (∃ n m, (s.phase t).user? = some (i, .openOnce n) ∧
      (s'.phase t).user? = some (i, .openOnce m)) ∨
    (a = .openStorage ∧ (s'.phase t).user? = some (i, .openOnce 0)) ∨
    (a = .beginNewRunId ∧ (s'.phase t).user? = some (i, .beginNewRunId))
  /-- The transaction and the lock of the object are changed by a thread that is entitled to. -/
  entitled : (s'.db = s.db ∧ (s'.storage i).dbIndexLock = (s.storage i).dbIndexLock) ∨
    (s.phase t).Opens i ∨ (s.phase t).locked? = some i ∨ (s.storage i).dbIndexLock = none ∨
    a = .close
  locks : ((s.phase t).locked? = some i → (s.storage i).dbIndexLock = some t) →
    ∀ j, (s'.phase t).locked? = some j → j = i ∧ (s'.storage i).dbIndexLock = some t
  holds : HoldsRow s.db (s.phase t) → HoldsRow s'.db (s'.phase t)

/-- `IdMoves` for a statement given by the new database, storage object and phase, where the thread
does not end inside an allocation. -/
theorem IdMoves.of_not_locked {s s' : SequenceState ι θ} {t : θ} {i : ι} {a : SequenceAction}
    {db : Database ι (Option ℕ)} {d : StorageObject θ} {q : IdPhase ι} (hdb : s'.db = db)
    (hstorage : s'.storage = Function.update s.storage i d)
    (hphase : s'.phase = Function.update s.phase t q) (htouches : TouchesOnly i s.db db)
    (hexclusive : s.db.Exclusive → db.Exclusive)
    (huser : q.user? = none ∨ q.user? = (s.phase t).user? ∨
      (∃ n m, (s.phase t).user? = some (i, .openOnce n) ∧ q.user? = some (i, .openOnce m)) ∨
      (a = .openStorage ∧ q.user? = some (i, .openOnce 0)) ∨
      (a = .beginNewRunId ∧ q.user? = some (i, .beginNewRunId)))
    (hentitled : (db = s.db ∧ d.dbIndexLock = (s.storage i).dbIndexLock) ∨
      (s.phase t).Opens i ∨ (s.phase t).locked? = some i ∨ (s.storage i).dbIndexLock = none ∨
      a = .close)
    (hq : q.locked? = none) : IdMoves s t i a s' := by
  have hself : s'.phase t = q := by rw [hphase, Function.update_self]
  have hobject : s'.storage i = d := by rw [hstorage, Function.update_self]
  refine ⟨fun j hj ↦ ?_, fun t' ht ↦ ?_, hdb ▸ htouches, hdb ▸ hexclusive, hself ▸ huser, ?_, ?_,
    ?_⟩
  · rw [hstorage, Function.update_of_ne hj]
  · rw [hphase, Function.update_of_ne ht]
  · rw [hdb, hobject]
    exact hentitled
  · rw [hself, hq]
    exact fun _ j hj ↦ absurd hj nofun
  · rw [hself]
    exact fun _ ↦ holds_of_not_locked hq

theorem moves_attemptFailed {s s₀ : SequenceState ι θ} {t : θ} {i : ι} {a : SequenceAction}
    {c : IdCaller} {d₀ : StorageObject θ} (k : ℕ) (b : Bool)
    (huser : (s.phase t).user? = some (i, c)) (hphase : s₀.phase = s.phase)
    (hstorage : s₀.storage = Function.update s.storage i d₀)
    (hdb : s₀.db = s.db ∨ s₀.db = s.db.rollback i)
    (hentitled : (s₀.db = s.db ∧ d₀.dbIndexLock = (s.storage i).dbIndexLock) ∨
      (s.phase t).locked? = some i) :
    IdMoves s t i a (s₀.attemptFailed t i c k b) := by
  obtain ⟨q, db, d, heq, hq, hdb'⟩ := s₀.attemptFailed_eq t i c k b
  have hopens {n : ℕ} (hc : c = .openOnce n) : (s.phase t).Opens i := ⟨n, hc ▸ huser⟩
  have hobject : s₀.storage i = d₀ := by rw [hstorage, Function.update_self]
  rw [heq]
  refine IdMoves.of_not_locked (q := q) (d := { d₀ with dbIndex := d }) rfl ?_ ?_ ?_ ?_ ?_ ?_ ?_
  · change Function.update s₀.storage i { s₀.storage i with dbIndex := d } = _
    rw [hobject, hstorage, Function.update_idem]
  · change Function.update s₀.phase t q = _
    rw [hphase]
  · have h₀ : TouchesOnly i s.db s₀.db := by
      rcases hdb with h | h <;> rw [h]
      · exact TouchesOnly.refl i s.db
      · exact touches_setTxn i s.db .none
    rcases hdb' with rfl | ⟨-, rfl⟩
    · exact h₀
    · refine ⟨fun j hj ↦ ?_, h₀.committed⟩
      exact (Database.txn_setTxn_of_ne hj).trans (h₀.txn j hj)
  · intro hex
    have h₀ : s₀.db.Exclusive := by
      rcases hdb with h | h <;> rw [h]
      · exact hex
      · exact hex.rollback
    rcases hdb' with rfl | ⟨-, rfl⟩
    · exact h₀
    · exact h₀.rollback
  · rcases hq with rfl | ⟨k', rfl⟩ | ⟨n, m, rfl, rfl⟩
    · exact Or.inl rfl
    · exact Or.inr (Or.inl huser.symm)
    · exact Or.inr (Or.inr (Or.inl ⟨n, m, huser, rfl⟩))
  · rcases hdb' with rfl | ⟨⟨n, hc⟩, rfl⟩
    · exact hentitled.imp_right fun h ↦ Or.inr (Or.inl h)
    · exact Or.inr (Or.inl (hopens hc))
  · rcases hq with rfl | ⟨k', rfl⟩ | ⟨n, m, rfl, rfl⟩ <;> rfl

section Moves

open SequenceState

/-- `BEGIN IMMEDIATE` takes the row lock and the object's lock. -/
theorem moves_begin {s : SequenceState ι θ} {t : θ} {i : ι} {c : IdCaller} {k : ℕ}
    {db : Database ι (Option ℕ)} (hp : s.phase t = .beginning i c k)
    (hlock : (s.storage i).dbIndexLock = none) (hfree : s.db.LockFree i)
    (hbegin : s.db.beginImmediate i true = some db) :
    IdMoves s t i .begin (((s.setDb db).setStorage i
      { s.storage i with dbIndexLock := some t }).setPhase t (.selecting i c k)) := by
  obtain ⟨-, -, rfl⟩ := Database.beginImmediate_eq_some.mp hbegin
  refine ⟨fun j hj ↦ Function.update_of_ne hj .., fun t' ht ↦ Function.update_of_ne ht ..,
    touches_setTxn i _ _, fun _ ↦ hfree.exclusive_setTxn, Or.inr (Or.inl ?_),
    Or.inr (Or.inr (Or.inr (Or.inl hlock))), ?_, ?_⟩
  · simp [setPhase, hp, IdPhase.user?]
  · intro _ j hj
    obtain rfl : i = j := by simpa [setPhase, IdPhase.locked?] using hj
    simp [setPhase, setStorage]
  · intro _
    simp [setPhase, setStorage, setDb, HoldsRow]

/-- The `SELECT` reads the row as it was committed. -/
theorem moves_select {s : SequenceState ι θ} {t : θ} {i : ι} {c : IdCaller} {k v : ℕ}
    (hp : s.phase t = .selecting i c k) (hview : s.db.view i = some v) :
    IdMoves s t i .select (s.setPhase t (.updating i c k v)) := by
  refine ⟨fun j hj ↦ rfl, fun t' ht ↦ Function.update_of_ne ht .., TouchesOnly.refl i _, id,
    Or.inr (Or.inl ?_), Or.inl ⟨rfl, rfl⟩, ?_, ?_⟩
  · simp [setPhase, hp, IdPhase.user?]
  · intro hlock j hj
    obtain rfl : i = j := by simpa [setPhase, IdPhase.locked?] using hj
    exact ⟨rfl, hlock (by rw [hp]; rfl)⟩
  · intro hholds
    -- the transaction began from the committed row, which is thus what is read
    have htxn : s.db.txn i = .writing s.db.committed := by
      rw [hp] at hholds
      exact hholds
    have hcommitted : s.db.committed = some v :=
      (Database.view_of_writing htxn).symm.trans hview
    rw [hcommitted] at htxn
    simpa [setPhase, HoldsRow] using ⟨htxn, hcommitted⟩

/-- The `UPDATE` counts the row up in the transaction. -/
theorem moves_update {s : SequenceState ι θ} {t : θ} {i : ι} {c : IdCaller} {k v : ℕ}
    (hp : s.phase t = .updating i c k v) (hfree : s.db.LockFree i) :
    IdMoves s t i .update ((s.setDb (s.db.execute i (Option.map (· + 1)) .ok)).setPhase t
      (.committing i c k v)) := by
  have hlocked : (s.phase t).locked? = some i := by
    rw [hp]
    rfl
  refine ⟨fun j hj ↦ rfl, fun t' ht ↦ Function.update_of_ne ht .., touches_setTxn i _ _,
    fun _ ↦ hfree.exclusive_setTxn, Or.inr (Or.inl ?_), Or.inr (Or.inr (Or.inl hlocked)), ?_, ?_⟩
  · simp [setPhase, hp, IdPhase.user?]
  · intro hlock j hj
    obtain rfl : i = j := by simpa [setPhase, IdPhase.locked?] using hj
    exact ⟨rfl, hlock hlocked⟩
  · intro hholds
    rw [hp] at hholds
    obtain ⟨htxn, hcommitted⟩ := hholds
    simpa [setPhase, setDb, HoldsRow, Database.execute, Database.view_of_writing htxn]
      using hcommitted

/-- **What a statement does.** Every statement but a crash is a move of its thread on its object. -/
theorem SequenceStep.moves {stationId : ι → List Char} {s s' : SequenceState ι θ} {t : θ} {i : ι}
    {a : SequenceAction} (hs : SequenceStep stationId s (t, i, a) s') (ha : a ≠ .crash) :
    IdMoves s t i a s' := by
  have hsame : s.storage = Function.update s.storage i (s.storage i) :=
    (Function.update_eq_self i s.storage).symm
  have hunlocked {p : IdPhase ι} (hp : s.phase t = p) (h : p.locked? = some i) :
      (s.phase t).locked? = some i := hp ▸ h
  have huser {p q : IdPhase ι} (hp : s.phase t = p) (h : q.user? = p.user?) :
      q.user? = (s.phase t).user? := hp ▸ h
  cases hs with
  | openStorage hp =>
    exact IdMoves.of_not_locked rfl hsame rfl (TouchesOnly.refl i _) id
      (Or.inr (Or.inr (Or.inr (Or.inl ⟨rfl, rfl⟩)))) (Or.inl ⟨rfl, rfl⟩) rfl
  | beginNewRunId hp =>
    exact IdMoves.of_not_locked rfl hsame rfl (TouchesOnly.refl i _) id
      (Or.inr (Or.inr (Or.inr (Or.inr ⟨rfl, rfl⟩)))) (Or.inl ⟨rfl, rfl⟩) rfl
  | connect hp =>
    exact IdMoves.of_not_locked rfl rfl rfl (touches_setTxn i _ _) Database.Exclusive.rollback
      (Or.inr (Or.inl (huser hp rfl))) (Or.inr (Or.inl ⟨_, congrArg _ hp⟩)) rfl
  | seed hp _ hfree =>
    exact IdMoves.of_not_locked rfl hsame rfl (touches_setTxn i _ _)
      (fun _ ↦ hfree.exclusive_setTxn)
      (Or.inr (Or.inl (huser hp rfl))) (Or.inr (Or.inl ⟨_, congrArg _ hp⟩)) rfl
  | commitSeed hp _ =>
    exact IdMoves.of_not_locked rfl hsame rfl (touches_commit i _) Database.Exclusive.commit
      (Or.inr (Or.inl (huser hp rfl))) (Or.inr (Or.inl ⟨_, congrArg _ hp⟩)) rfl
  | openTelemetry hp =>
    exact IdMoves.of_not_locked rfl hsame rfl (TouchesOnly.refl i _) id
      (Or.inr (Or.inl (huser hp rfl))) (Or.inl ⟨rfl, rfl⟩) rfl
  | @openFails _ _ n p b hp hcases =>
    have huser : (s.phase t).user? = some (i, .openOnce n) := by
      rw [hp]
      rcases hcases with rfl | rfl | rfl | rfl <;> rfl
    refine IdMoves.of_not_locked rfl rfl rfl (touches_setTxn i _ _) Database.Exclusive.rollback ?_
      (Or.inr (Or.inl ⟨_, huser⟩)) ?_
    · split
      · exact Or.inr (Or.inr (Or.inl ⟨_, _, huser, rfl⟩))
      · exact Or.inl rfl
    · split <;> rfl
  | begin hp _ hlock hfree hbegin => exact moves_begin hp hlock hfree hbegin
  | @beginFails _ _ c k b hp =>
    exact moves_attemptFailed k b (by rw [hp]; rfl) rfl hsame (Or.inl rfl) (Or.inl ⟨rfl, rfl⟩)
  | select hp _ hview => exact moves_select hp hview
  | selectNothing hp _ =>
    exact IdMoves.of_not_locked rfl rfl rfl (TouchesOnly.refl i _) id (Or.inl rfl)
      (Or.inr (Or.inr (Or.inl (hunlocked hp rfl)))) rfl
  | update hp _ hfree => exact moves_update hp hfree
  | @statementFails _ _ c k p b hp hcases =>
    have hlocked : (s.phase t).locked? = some i ∧ (s.phase t).user? = some (i, c) := by
      rw [hp]
      rcases hcases with rfl | ⟨v, rfl⟩ <;> exact ⟨rfl, rfl⟩
    exact moves_attemptFailed k b hlocked.2 rfl rfl (Or.inr rfl) (Or.inr hlocked.1)
  | commit hp _ =>
    exact IdMoves.of_not_locked rfl rfl rfl (touches_commit i _) Database.Exclusive.commit
      (Or.inr (Or.inl (huser hp rfl))) (Or.inr (Or.inr (Or.inl (hunlocked hp rfl)))) rfl
  | @commitFails _ _ c k v b hp =>
    exact moves_attemptFailed k b (by rw [hp]; rfl) rfl rfl (Or.inl rfl)
      (Or.inr (hunlocked hp rfl))
  | assign hp =>
    exact IdMoves.of_not_locked rfl rfl rfl (TouchesOnly.refl i _) id
      (Or.inr (Or.inl (huser hp rfl))) (Or.inl ⟨rfl, rfl⟩) rfl
  | format hp _ =>
    exact IdMoves.of_not_locked rfl hsame rfl (TouchesOnly.refl i _) id
      (Or.inr (Or.inl (huser hp rfl))) (Or.inl ⟨rfl, rfl⟩) rfl
  | store hp =>
    exact IdMoves.of_not_locked rfl rfl rfl (TouchesOnly.refl i _) id (Or.inl rfl)
      (Or.inl ⟨rfl, rfl⟩) rfl
  | close hp =>
    refine IdMoves.of_not_locked (q := s.phase t) rfl rfl (Function.update_eq_self t s.phase).symm
      (touches_setTxn i _ _) Database.Exclusive.rollback (Or.inr (Or.inl rfl))
      (Or.inr (Or.inr (Or.inr (Or.inr rfl)))) ?_
    rw [hp]
    rfl
  | crash => exact absurd rfl ha

end Moves

/-! ## The counter -/

/-- A number smaller than the row is not given out again. -/
def Used (v : ℕ) (row : Option ℕ) : Prop := ∃ m, row = some m ∧ v < m

/-- **The counter invariant.** -/
structure CounterInv (s : SequenceState ι θ) : Prop where
  exclusive : s.db.Exclusive
  /-- A thread that opens an object has it to itself. -/
  alone : ∀ t i, (s.phase t).Opens i → ∀ t', (s.phase t').Uses i → t' = t
  locked : ∀ t i, (s.phase t).locked? = some i → (s.storage i).dbIndexLock = some t
  holds : ∀ t, HoldsRow s.db (s.phase t)
  used : ∀ v ∈ s.allocated, s.db.Everywhere (Used v)
  ordered : s.allocated.Pairwise (· > ·)

omit [DecidableEq ι] [DecidableEq θ] in
theorem CounterInv.of_initial {s : SequenceState ι θ} (h : s.Initial) : CounterInv s := by
  obtain ⟨hobjects, hphase, hallocated, -⟩ := h
  refine ⟨fun i x hx ↦ ?_, fun t i hopens ↦ ?_, fun t i hlocked ↦ ?_, fun t ↦ ?_, ?_, ?_⟩
  · rw [(hobjects i).1] at hx
    cases hx
  · rw [hphase] at hopens
    obtain ⟨n, hn⟩ := hopens
    cases hn
  · rw [hphase] at hlocked
    cases hlocked
  · rw [hphase]
    trivial
  · rw [hallocated]
    exact fun v hv ↦ absurd hv List.not_mem_nil
  · rw [hallocated]
    exact List.Pairwise.nil

section Step

variable {stationId : ι → List Char} {s s' : SequenceState ι θ} {t : θ} {i : ι} {a : SequenceAction}

omit [DecidableEq ι] [DecidableEq θ] in
/-- Another thread inside an allocation on the object keeps the statement from touching it. -/
theorem CounterInv.untouched (hI : CounterInv s) (hm : IdMoves s t i a s')
    (hu : Unshared s (t, i, a)) {t' : θ} (hne : t' ≠ t)
    (hlocked : (s.phase t').locked? = some i) :
    s'.db = s.db ∧ (s'.storage i).dbIndexLock = (s.storage i).dbIndexLock := by
  have hlock := hI.locked t' i hlocked
  rcases hm.entitled with h | h | h | h | rfl
  · exact h
  · exact absurd (hI.alone t i h t' (IdPhase.uses_of_locked hlocked)) hne
  · rw [hI.locked t i h] at hlock
    exact absurd (Option.some.inj hlock).symm hne
  · rw [h] at hlock
    cases hlock
  · exact absurd (IdPhase.uses_of_locked hlocked) (hu t' hne)

omit [DecidableEq ι] in
theorem CounterInv.alone_move (hI : CounterInv s) (hm : IdMoves s t i a s')
    (hu : Unshared s (t, i, a)) :
    ∀ t₁ j, (s'.phase t₁).Opens j → ∀ t₂, (s'.phase t₂).Uses j → t₂ = t₁ := by
  -- what `t` opens or uses afterwards it opened or used before, unless it has just called
  have hopens {j : ι} (h : (s'.phase t).Opens j) :
      (s.phase t).Opens j ∨ (j = i ∧ a = .openStorage) := by
    obtain ⟨n, hn⟩ := h
    rcases hm.user with hq | hq | ⟨n', m, hp, hq⟩ | ⟨ha, hq⟩ | ⟨ha, hq⟩ <;> rw [hq] at hn
    · cases hn
    · exact Or.inl ⟨n, hn⟩
    · cases hn
      exact Or.inl ⟨n', hp⟩
    · cases hn
      exact Or.inr ⟨rfl, ha⟩
    · cases hn
  have huses {j : ι} (h : (s'.phase t).Uses j) :
      (s.phase t).Uses j ∨ (j = i ∧ (a = .openStorage ∨ a = .beginNewRunId)) := by
    obtain ⟨c, hc⟩ := h
    rcases hm.user with hq | hq | ⟨n', m, hp, hq⟩ | ⟨ha, hq⟩ | ⟨ha, hq⟩ <;> rw [hq] at hc
    · cases hc
    · exact Or.inl ⟨c, hc⟩
    · cases hc
      exact Or.inl ⟨_, hp⟩
    · cases hc
      exact Or.inr ⟨rfl, Or.inl ha⟩
    · cases hc
      exact Or.inr ⟨rfl, Or.inr ha⟩
  intro t₁ j h₁ t₂ h₂
  by_cases ht₁ : t₁ = t
  · by_cases ht₂ : t₂ = t
    · rw [ht₁, ht₂]
    · rw [hm.phase t₂ ht₂] at h₂
      rw [ht₁] at h₁ ⊢
      rcases hopens h₁ with h | ⟨rfl, rfl⟩
      · exact hI.alone t j h t₂ h₂
      · exact absurd h₂ (hu t₂ ht₂)
  · rw [hm.phase t₁ ht₁] at h₁
    by_cases ht₂ : t₂ = t
    · rw [ht₂] at h₂ ⊢
      rcases huses h₂ with h | ⟨rfl, rfl | rfl⟩
      · exact hI.alone t₁ j h₁ t h
      · exact absurd h₁.uses (hu t₁ ht₁)
      · exact absurd h₁ (hu t₁ ht₁)
    · rw [hm.phase t₂ ht₂] at h₂
      exact hI.alone t₁ j h₁ t₂ h₂

theorem CounterInv.locked_move (hI : CounterInv s) (hm : IdMoves s t i a s')
    (hu : Unshared s (t, i, a)) :
    ∀ t₁ j, (s'.phase t₁).locked? = some j → (s'.storage j).dbIndexLock = some t₁ := by
  intro t₁ j h
  by_cases ht₁ : t₁ = t
  · rw [ht₁] at h ⊢
    obtain ⟨rfl, hlock⟩ := hm.locks (hI.locked t i) j h
    exact hlock
  · rw [hm.phase t₁ ht₁] at h
    by_cases hj : j = i
    · subst hj
      rw [(hI.untouched hm hu ht₁ h).2, hI.locked t₁ j h]
    · rw [hm.storage j hj, hI.locked t₁ j h]

theorem CounterInv.holds_move (hI : CounterInv s) (hm : IdMoves s t i a s')
    (hu : Unshared s (t, i, a)) (t₁ : θ) : HoldsRow s'.db (s'.phase t₁) := by
  by_cases ht₁ : t₁ = t
  · rw [ht₁]
    exact hm.holds (hI.holds t)
  · rw [hm.phase t₁ ht₁]
    cases hlocked : (s.phase t₁).locked? with
    | none => exact holds_of_not_locked hlocked
    | some j =>
      by_cases hj : j = i
      · rw [(hI.untouched hm hu ht₁ (hj ▸ hlocked)).1]
        exact hI.holds t₁
      · exact (hI.holds t₁).of_touches hlocked hj hI.exclusive hm.touches

theorem Used.seed {v : ℕ} {row : Option ℕ} (h : Used v row) : Used v (some (row.getD 1)) := by
  obtain ⟨m, rfl, hlt⟩ := h
  exact ⟨m, rfl, hlt⟩

theorem Used.increment {v : ℕ} {row : Option ℕ} (h : Used v row) : Used v (row.map (· + 1)) := by
  obtain ⟨m, rfl, hlt⟩ := h
  exact ⟨m + 1, rfl, Nat.lt_succ_of_lt hlt⟩

theorem SequenceStep.used (hs : SequenceStep stationId s (t, i, a) s') {v : ℕ}
    (h : s.db.Everywhere (Used v)) : s'.db.Everywhere (Used v) := by
  have hfailed (s₀ : SequenceState ι θ) (h₀ : s₀.db.Everywhere (Used v)) (c : IdCaller) (k : ℕ)
      (b : Bool) : (s₀.attemptFailed t i c k b).db.Everywhere (Used v) := by
    obtain ⟨q, db, d, heq, -, hdb⟩ := s₀.attemptFailed_eq t i c k b
    rw [heq]
    rcases hdb with rfl | ⟨-, rfl⟩
    · exact h₀
    · exact h₀.rollback
  cases hs with
  | connect | openFails | close | crash => exact h.rollback
  | seed =>
    refine h.setTxn fun x hx ↦ ?_
    cases hx
    exact (h.view i).seed
  | update =>
    refine h.setTxn fun x hx ↦ ?_
    cases hx
    exact (h.view i).increment
  | commitSeed | commit => exact h.commit
  | begin _ _ _ _ hbegin =>
    obtain ⟨-, -, rfl⟩ := Database.beginImmediate_eq_some.mp hbegin
    refine h.setTxn fun x hx ↦ ?_
    cases hx
    exact h.committed
  | beginFails => exact hfailed s h _ _ _
  | statementFails => exact hfailed ((s.setDb (s.db.rollback i)).unlock i) h.rollback _ _ _
  | commitFails => exact hfailed (s.unlock i) h _ _ _
  | _ => exact h

/-- Only a commit allocates a number, and it is the one the row held until then. -/
theorem SequenceStep.allocated (hs : SequenceStep stationId s (t, i, a) s') :
    s'.allocated = s.allocated ∨
      ∃ c k v, s.phase t = .committing i c k v ∧ s'.allocated = v :: s.allocated ∧
        s'.phase t = .assigning i c v ∧ s'.db = s.db.commit i true := by
  have hfailed {s₀ : SequenceState ι θ} (c : IdCaller) (k : ℕ) (b : Bool) :
      (s₀.attemptFailed t i c k b).allocated = s₀.allocated := by
    obtain ⟨q, db, d, heq, -⟩ := s₀.attemptFailed_eq t i c k b
    rw [heq]
    rfl
  cases hs with
  | commit hp => exact Or.inr ⟨_, _, _, hp, rfl, Function.update_self .., rfl⟩
  | beginFails | statementFails | commitFails => exact Or.inl (hfailed _ _ _)
  | _ => exact Or.inl rfl

omit [DecidableEq θ] in
/-- The commit of an allocation leaves the row above the number. -/
theorem CounterInv.used_commit (hI : CounterInv s) {c : IdCaller} {k v : ℕ}
    (hp : s.phase t = .committing i c k v) : (s.db.commit i true).Everywhere (Used v) := by
  have hholds := hI.holds t
  rw [hp] at hholds
  have htxn : s.db.txn i = .writing (some (v + 1)) := hholds.1
  refine ⟨⟨v + 1, Database.view_of_writing htxn, Nat.lt_succ_self v⟩, fun j x hx ↦ ?_⟩
  by_cases hj : j = i
  · rw [hj, Database.txn_commit_self] at hx
    cases hx
  · rw [Database.txn_commit_of_ne hj] at hx
    exact absurd hx (hI.exclusive i _ htxn j x hj)

theorem CounterInv.used_step (hI : CounterInv s) (hs : SequenceStep stationId s (t, i, a) s') :
    ∀ v ∈ s'.allocated, s'.db.Everywhere (Used v) := by
  intro v hv
  rcases hs.allocated with heq | ⟨c, k, w, hp, heq, -, hdb⟩ <;> rw [heq] at hv
  · exact hs.used (hI.used v hv)
  · rcases List.mem_cons.mp hv with rfl | hv
    · rw [hdb]
      exact hI.used_commit hp
    · exact hs.used (hI.used v hv)

omit [DecidableEq ι] [DecidableEq θ] in
theorem CounterInv.lt_of_committing (hI : CounterInv s) {c : IdCaller} {k v : ℕ}
    (hp : s.phase t = .committing i c k v) : ∀ w ∈ s.allocated, w < v := by
  intro w hw
  have hholds := hI.holds t
  rw [hp] at hholds
  obtain ⟨m, hm, hlt⟩ := (hI.used w hw).committed
  rw [hholds.2] at hm
  exact (Option.some.inj hm).symm ▸ hlt

theorem CounterInv.ordered_step (hI : CounterInv s) (hs : SequenceStep stationId s (t, i, a) s') :
    s'.allocated.Pairwise (· > ·) := by
  rcases hs.allocated with heq | ⟨c, k, v, hp, heq, -⟩ <;> rw [heq]
  · exact hI.ordered
  · exact List.pairwise_cons.mpr ⟨hI.lt_of_committing hp, hI.ordered⟩

/-- A crash takes the object from every thread that uses it, and its transaction. -/
theorem CounterInv.crash (hI : CounterInv s)
    (hs : SequenceStep stationId s (t, i, .crash) s') : CounterInv s' := by
  have hused := hI.used_step hs
  have hordered := hI.ordered_step hs
  cases hs
  refine ⟨hI.exclusive.rollback, fun t₁ j h₁ t₂ h₂ ↦ ?_, fun t₁ j h ↦ ?_, fun t₁ ↦ ?_,
    hused, hordered⟩
  · change ((s.phase t₁).lose i).Opens j at h₁
    change ((s.phase t₂).lose i).Uses j at h₂
    obtain ⟨n, hn⟩ := h₁
    obtain ⟨c, hc⟩ := h₂
    rcases (s.phase t₁).lose_cases i with h | ⟨-, h⟩ <;> rw [h] at hn
    · cases hn
    · rcases (s.phase t₂).lose_cases i with h' | ⟨-, h'⟩ <;> rw [h'] at hc
      · cases hc
      · exact hI.alone t₁ j ⟨n, hn⟩ t₂ ⟨c, hc⟩
  · change ((s.phase t₁).lose i).locked? = some j at h
    rcases (s.phase t₁).lose_cases i with h' | ⟨hnot, h'⟩ <;> rw [h'] at h
    · cases h
    · have hj : j ≠ i := fun heq ↦ hnot (heq ▸ IdPhase.uses_of_locked h)
      change (Function.update s.storage i (StorageObject.new θ) j).dbIndexLock = _
      rw [Function.update_of_ne hj]
      exact hI.locked t₁ j h
  · change HoldsRow (s.db.rollback i) ((s.phase t₁).lose i)
    rcases (s.phase t₁).lose_cases i with h' | ⟨hnot, h'⟩ <;> rw [h']
    · trivial
    · cases hlocked : (s.phase t₁).locked? with
      | none => exact holds_of_not_locked hlocked
      | some j =>
        have hj : j ≠ i := fun heq ↦ hnot (heq ▸ IdPhase.uses_of_locked hlocked)
        exact (hI.holds t₁).of_touches hlocked hj hI.exclusive (touches_setTxn i _ _)

theorem CounterInv.step (hI : CounterInv s) (hs : SequenceStep stationId s (t, i, a) s')
    (hu : Unshared s (t, i, a)) : CounterInv s' := by
  by_cases ha : a = .crash
  · subst ha
    exact hI.crash hs
  · have hm := hs.moves ha
    exact ⟨hm.exclusive hI.exclusive, hI.alone_move hm hu, hI.locked_move hm hu,
      hI.holds_move hm hu, hI.used_step hs, hI.ordered_step hs⟩

end Step

theorem counterInv_run {stationId : ι → List Char} {evs : List (θ × ι × SequenceAction)}
    {s : SequenceState ι θ} (h : Run ((sequenceSystem stationId).restrict Unshared) evs s) :
    CounterInv s :=
  h.keeps (fun _ ↦ CounterInv.of_initial) fun _ _ _ hI hs ↦ hI.step hs.1 hs.2

/-! ## The run ids -/

/-- The number a thread is about to write to its object, or to format a run id from. -/
def SequenceState.held (s : SequenceState ι θ) (t : θ) : Option ℕ :=
  match s.phase t with
  | .assigning _ _ v => some v
  | .formatting i _ => (s.storage i).sequenceNumber
  | _ => none

/-- **The run id invariant.** Numbers are held by one thread each, and are formatted from once. -/
structure RunIdInv (s : SequenceState ι θ) : Prop where
  held : ∀ t v, s.held t = some v → v ∈ s.allocated ∧ v ∉ s.formatted.map Prod.snd
  injective : ∀ t t' v, s.held t = some v → s.held t' = some v → t = t'
  formatted : ∀ v ∈ s.formatted.map Prod.snd, v ∈ s.allocated
  nodup : (s.formatted.map Prod.snd).Nodup

section Step

variable {stationId : ι → List Char} {s s' : SequenceState ι θ} {t : θ} {i : ι} {a : SequenceAction}

theorem SequenceState.attemptFailed_sequenceNumber (t : θ) (i : ι) (c : IdCaller) (k : ℕ) (b : Bool)
    (j : ι) :
    ((s.attemptFailed t i c k b).storage j).sequenceNumber = (s.storage j).sequenceNumber := by
  obtain ⟨q, db, d, heq, -⟩ := s.attemptFailed_eq t i c k b
  rw [heq]
  change (Function.update s.storage i _ j).sequenceNumber = _
  by_cases hj : j = i
  · rw [hj, Function.update_self]
  · rw [Function.update_of_ne hj]

/-- Only the assignment writes a number to an object, and only a crash takes it away. -/
theorem SequenceStep.sequenceNumber (hs : SequenceStep stationId s (t, i, a) s')
    (hassign : a ≠ .assign) (hcrash : a ≠ .crash) (j : ι) :
    (s'.storage j).sequenceNumber = (s.storage j).sequenceNumber := by
  have hobject (d : StorageObject θ) (hd : d.sequenceNumber = (s.storage i).sequenceNumber) :
      (Function.update s.storage i d j).sequenceNumber = (s.storage j).sequenceNumber := by
    by_cases hj : j = i
    · rw [hj, Function.update_self, hd]
    · rw [Function.update_of_ne hj]
  cases hs with
  | assign => exact absurd rfl hassign
  | crash => exact absurd rfl hcrash
  | connect | openFails | begin | selectNothing | commit | store | close => exact hobject _ rfl
  | beginFails => exact s.attemptFailed_sequenceNumber _ _ _ _ _ j
  | statementFails | commitFails =>
    rw [SequenceState.attemptFailed_sequenceNumber]
    exact hobject _ rfl
  | _ => rfl

omit [DecidableEq ι] [DecidableEq θ] in
theorem SequenceState.held_of_idle (h : s.phase t = .idle) : s.held t = none := by
  rw [held, h]

/-- A thread that survives a crash works on another object, which the crash leaves alone. -/
theorem SequenceStep.held_crash (hs : SequenceStep stationId s (t, i, .crash) s') {t' : θ} {v : ℕ}
    (h : s'.held t' = some v) : s.held t' = some v := by
  cases hs
  rcases (s.phase t').lose_cases i with hp | ⟨hnot, hp⟩
  · rw [SequenceState.held_of_idle hp] at h
    cases h
  · unfold SequenceState.held at h ⊢
    simp only [hp] at h
    split at h
    · exact h
    · rename_i j c hformat
      have hj : j ≠ i := fun heq ↦ hnot ⟨c, by rw [hformat, heq]; rfl⟩
      exact (congrArg StorageObject.sequenceNumber (Function.update_of_ne hj ..)).symm.trans h
    · cases h

/-- What another thread holds it held before: nothing is written to the object that it is about to
format from. -/
theorem SequenceStep.held_other (hs : SequenceStep stationId s (t, i, a) s')
    (hu : Unshared s (t, i, a)) {t' : θ} (hne : t' ≠ t) {v : ℕ} (h : s'.held t' = some v) :
    s.held t' = some v := by
  by_cases ha : a = .crash
  · subst ha
    exact hs.held_crash h
  · unfold SequenceState.held at h ⊢
    rw [(hs.moves ha).phase t' hne] at h
    split at h
    · exact h
    · rename_i j c hp
      by_cases hassign : a = .assign
      · subst hassign
        have hj : j ≠ i := by
          rintro rfl
          exact hu t' c hne hp
        exact (hs.moves ha).storage j hj ▸ h
      · exact (hs.sequenceNumber hassign ha j).symm.trans h
    · cases h

theorem SequenceState.held_openFailed (n : ℕ) (b : Bool) :
    (s.openFailed t i n b).held t = none := by
  unfold openFailed held
  by_cases h : b = true ∧ n + 1 < 5 <;> simp [setPhase, h]

/-- A thread comes to hold a number by the commit that allocates it. -/
theorem SequenceStep.held_self (hs : SequenceStep stationId s (t, i, a) s') {v : ℕ}
    (h : s'.held t = some v) :
    s.held t = some v ∨ (s'.allocated = v :: s.allocated ∧
      ∃ c k, s.phase t = .committing i c k v) := by
  have hfailed (s₀ : SequenceState ι θ) (c : IdCaller) (k : ℕ) (b : Bool) :
      (s₀.attemptFailed t i c k b).held t = none := by
    obtain ⟨q, db, d, heq, hq, -⟩ := s₀.attemptFailed_eq t i c k b
    rw [heq]
    rcases hq with rfl | ⟨k', rfl⟩ | ⟨n, m, -, rfl⟩ <;>
      simp [SequenceState.held, SequenceState.setPhase]
  by_cases ha : a = .crash
  · subst ha
    exact Or.inl (hs.held_crash h)
  cases hs with
  | commit hp =>
    obtain rfl : _ = v := by simpa [SequenceState.held, SequenceState.setPhase] using h
    exact Or.inr ⟨rfl, _, _, hp⟩
  | assign hp =>
    refine Or.inl ?_
    rw [SequenceState.held, hp]
    simpa [SequenceState.held, SequenceState.setPhase, SequenceState.setStorage] using h
  | beginFails | statementFails | commitFails =>
    rw [hfailed] at h
    cases h
  | openFails =>
    rw [SequenceState.held_openFailed] at h
    cases h
  | close hp =>
    rw [SequenceState.held_of_idle (s := s.closeIndex i) hp] at h
    cases h
  | crash => exact absurd rfl ha
  | _ => simp [SequenceState.held, SequenceState.setPhase] at h

/-- A run id is formatted from the number its thread held, which the thread then gives up. -/
theorem SequenceStep.formatted (hs : SequenceStep stationId s (t, i, a) s') :
    s'.formatted = s.formatted ∨
      ∃ n, s.held t = some n ∧ s'.formatted = (i, n) :: s.formatted ∧ s'.held t = none ∧
        s'.allocated = s.allocated := by
  have hfailed {s₀ : SequenceState ι θ} (c : IdCaller) (k : ℕ) (b : Bool) :
      (s₀.attemptFailed t i c k b).formatted = s₀.formatted := by
    obtain ⟨q, db, d, heq, -⟩ := s₀.attemptFailed_eq t i c k b
    rw [heq]
    rfl
  cases hs with
  | format hp hn =>
    refine Or.inr ⟨_, ?_, rfl, ?_, rfl⟩
    · rw [SequenceState.held, hp]
      exact hn
    · simp [SequenceState.held, SequenceState.setPhase]
  | beginFails | statementFails | commitFails => exact Or.inl (hfailed _ _ _)
  | _ => exact Or.inl rfl

theorem RunIdInv.step (hI : RunIdInv s) (hc : CounterInv s)
    (hs : SequenceStep stationId s (t, i, a) s') (hu : Unshared s (t, i, a)) : RunIdInv s' := by
  have hgrows : ∀ v ∈ s.allocated, v ∈ s'.allocated := by
    intro v hv
    rcases hs.allocated with heq | ⟨_, _, _, -, heq, -⟩ <;> rw [heq]
    · exact hv
    · exact List.mem_cons_of_mem _ hv
  have hnew {c : IdCaller} {k v : ℕ} (hp : s.phase t = .committing i c k v) : v ∉ s.allocated :=
    fun hv ↦ Nat.lt_irrefl v (hc.lt_of_committing hp v hv)
  -- what a thread holds afterwards it held before, or the row has just given it out
  have hheld (t' : θ) (v : ℕ) (h : s'.held t' = some v) :
      s.held t' = some v ∨ (t' = t ∧ v ∉ s.allocated ∧ v ∈ s'.allocated) := by
    by_cases ht : t' = t
    · subst ht
      refine (hs.held_self h).imp_right fun ⟨heq, c, k, hp⟩ ↦ ⟨rfl, hnew hp, ?_⟩
      rw [heq]
      exact List.mem_cons_self
    · exact Or.inl (hs.held_other hu ht h)
  have hformatted (v : ℕ) (h : v ∈ s'.formatted.map Prod.snd) :
      v ∈ s.formatted.map Prod.snd ∨ (s.held t = some v ∧ s'.held t = none) := by
    rcases hs.formatted with heq | ⟨n, hn, heq, hnone, -⟩ <;> rw [heq] at h
    · exact Or.inl h
    · rcases List.mem_cons.mp h with rfl | h
      · exact Or.inr ⟨hn, hnone⟩
      · exact Or.inl h
  refine ⟨fun t' v h ↦ ?_, fun t₁ t₂ v h₁ h₂ ↦ ?_, fun v hv ↦ ?_, ?_⟩
  · rcases hheld t' v h with hold | ⟨rfl, hnot, hin⟩
    · refine ⟨hgrows v (hI.held t' v hold).1, fun hv ↦ ?_⟩
      rcases hformatted v hv with hv | ⟨ht, hnone⟩
      · exact (hI.held t' v hold).2 hv
      · rw [hI.injective t' t v hold ht, hnone] at h
        cases h
    · refine ⟨hin, fun hv ↦ hnot ?_⟩
      rcases hformatted v hv with hv | ⟨ht, -⟩
      · exact hI.formatted v hv
      · exact (hI.held t' v ht).1
  · rcases hheld t₁ v h₁ with hold₁ | ⟨rfl, hnot, -⟩
    · rcases hheld t₂ v h₂ with hold₂ | ⟨-, hnot, -⟩
      · exact hI.injective t₁ t₂ v hold₁ hold₂
      · exact absurd (hI.held t₁ v hold₁).1 hnot
    · rcases hheld t₂ v h₂ with hold₂ | ⟨rfl, -, -⟩
      · exact absurd (hI.held t₂ v hold₂).1 hnot
      · rfl
  · rcases hformatted v hv with hv | ⟨ht, -⟩
    · exact hgrows v (hI.formatted v hv)
    · exact hgrows v (hI.held t v ht).1
  · rcases hs.formatted with heq | ⟨n, hn, heq, -⟩ <;> rw [heq]
    · exact hI.nodup
    · exact List.nodup_cons.mpr ⟨(hI.held t n hn).2, hI.nodup⟩

end Step

omit [DecidableEq ι] [DecidableEq θ] in
theorem RunIdInv.of_initial {s : SequenceState ι θ} (h : s.Initial) : RunIdInv s := by
  have hheld (t : θ) : s.held t = none := SequenceState.held_of_idle (h.2.1 t)
  refine ⟨fun t v hv ↦ ?_, fun t t' v hv ↦ ?_, ?_, ?_⟩
  · rw [hheld] at hv
    cases hv
  · rw [hheld] at hv
    cases hv
  · rw [h.2.2.2]
    exact fun v hv ↦ absurd hv List.not_mem_nil
  · rw [h.2.2.2]
    exact List.nodup_nil

theorem runIdInv_run {stationId : ι → List Char} {evs : List (θ × ι × SequenceAction)}
    {s : SequenceState ι θ} (h : Run ((sequenceSystem stationId).restrict Unshared) evs s) :
    RunIdInv s :=
  h.induction (I := fun _ s ↦ RunIdInv s) (fun _ ↦ RunIdInv.of_initial)
    fun _ _ _ _ hrun hI hs ↦ hI.step (counterInv_run hrun) hs.1 hs.2

/-- **Numbers and run ids are unique.** In every run in which storage objects are not opened,
closed or written to under the hands of another thread, the numbers allocated rise in the order of
their commits and no two run ids are equal, whatever fails, closes or crashes, and whatever the
stations are called. -/
theorem uniqueNumbers_of_unshared {stationId : ι → List Char}
    {evs : List (θ × ι × SequenceAction)} {s : SequenceState ι θ}
    (h : Run ((sequenceSystem stationId).restrict Unshared) evs s) :
    UniqueNumbers stationId s := by
  refine ⟨(counterInv_run h).ordered, ?_⟩
  have hnodup : s.formatted.Pairwise fun p q ↦ p.2 ≠ q.2 :=
    List.pairwise_map.mp (runIdInv_run h).nodup
  exact List.pairwise_map.mpr (hnodup.imp fun hne heq ↦ hne (runIdText_injective heq))

end System

/-! ## Two threads on one storage object -/

/-- A new database and one new storage object. -/
def newStation : SequenceState Unit Bool :=
  ⟨⟨none, fun _ ↦ .none⟩, fun _ ↦ StorageObject.new Bool, fun _ ↦ .idle, [], []⟩

theorem newStation_initial : newStation.Initial :=
  ⟨fun _ ↦ ⟨rfl, rfl⟩, fun _ ↦ rfl, rfl, rfl⟩

theorem lockFree_of_unit (db : Database Unit (Option ℕ)) : db.LockFree () :=
  fun _ _ hne ↦ absurd rfl hne

/-- The station `ST`. -/
def stationST : Unit → List Char := fun _ ↦ ['S', 'T']

/-- One thread opens the object. Then two threads begin a new run id each, and each has formatted
its own before the other writes its number to the object. -/
theorem uniqueNumbers_afterOpen :
    ∃ (evs : List (Bool × Unit × SequenceAction)) (s : SequenceState Unit Bool),
      Run ((sequenceSystem stationST).restrict Unshared) evs s ∧ s.allocated = [3, 2, 1] ∧
        s.formatted = [((), 3), ((), 2), ((), 1)] ∧ UniqueNumbers stationST s := by
  have hrun := Run.init (S := (sequenceSystem stationST).restrict Unshared) newStation_initial
    |>.step ⟨.openStorage (t := true) (i := ()) rfl, fun _ _ h ↦ by cases h.choose_spec⟩
    |>.step ⟨.connect (t := true) (i := ()) rfl, trivial⟩
    |>.step ⟨.seed (t := true) (i := ()) rfl rfl (lockFree_of_unit _), trivial⟩
    |>.step ⟨.commitSeed (t := true) (i := ()) rfl rfl, trivial⟩
    |>.step ⟨.openTelemetry (t := true) (i := ()) rfl, trivial⟩
    |>.step ⟨.begin (t := true) (i := ()) rfl rfl rfl (lockFree_of_unit _) rfl, trivial⟩
    |>.step ⟨.select (t := true) (i := ()) rfl rfl rfl, trivial⟩
    |>.step ⟨.update (t := true) (i := ()) rfl rfl (lockFree_of_unit _), trivial⟩
    |>.step ⟨.commit (t := true) (i := ()) rfl rfl, trivial⟩
    |>.step ⟨.assign (t := true) (i := ()) rfl, Bool.forall_bool.mpr ⟨fun _ _ h ↦ (by cases h),
      fun _ hne ↦ absurd rfl hne⟩⟩
    |>.step ⟨.format (t := true) (i := ()) rfl rfl, trivial⟩
    |>.step ⟨.store (t := true) (i := ()) rfl, trivial⟩
    |>.step ⟨.beginNewRunId (t := true) (i := ()) rfl,
      Bool.forall_bool.mpr ⟨fun _ h ↦ (by cases h.choose_spec), fun hne ↦ absurd rfl hne⟩⟩
    |>.step ⟨.begin (t := true) (i := ()) rfl rfl rfl (lockFree_of_unit _) rfl, trivial⟩
    |>.step ⟨.select (t := true) (i := ()) rfl rfl rfl, trivial⟩
    |>.step ⟨.update (t := true) (i := ()) rfl rfl (lockFree_of_unit _), trivial⟩
    |>.step ⟨.commit (t := true) (i := ()) rfl rfl, trivial⟩
    |>.step ⟨.beginNewRunId (t := false) (i := ()) rfl,
      Bool.forall_bool.mpr ⟨fun hne ↦ absurd rfl hne, fun _ h ↦ (by cases h.choose_spec)⟩⟩
    |>.step ⟨.begin (t := false) (i := ()) rfl rfl rfl (lockFree_of_unit _) rfl, trivial⟩
    |>.step ⟨.select (t := false) (i := ()) rfl rfl rfl, trivial⟩
    |>.step ⟨.update (t := false) (i := ()) rfl rfl (lockFree_of_unit _), trivial⟩
    |>.step ⟨.commit (t := false) (i := ()) rfl rfl, trivial⟩
    |>.step ⟨.assign (t := true) (i := ()) rfl, Bool.forall_bool.mpr ⟨fun _ _ h ↦ (by cases h),
      fun _ hne ↦ absurd rfl hne⟩⟩
    |>.step ⟨.format (t := true) (i := ()) rfl rfl, trivial⟩
    |>.step ⟨.assign (t := false) (i := ()) rfl, Bool.forall_bool.mpr ⟨fun _ hne ↦ absurd rfl hne,
      fun _ _ h ↦ (by cases h)⟩⟩
    |>.step ⟨.format (t := false) (i := ()) rfl rfl, trivial⟩
  exact ⟨_, _, hrun, rfl, rfl, uniqueNumbers_of_unshared hrun⟩

/-- Two threads call `begin_new_run_id` on the object they share. The second writes its number to
the object before the first has formatted its run id, and both runs get the same one. -/
theorem not_uniqueNumbers_sharedStorage :
    ¬∀ (evs : List (Bool × Unit × SequenceAction)) (s : SequenceState Unit Bool),
      Run (sequenceSystem stationST) evs s → UniqueNumbers stationST s := by
  intro h
  have hunique := h _ _
    (Run.init (S := sequenceSystem stationST) newStation_initial
    |>.step (.openStorage (t := true) (i := ()) rfl)
    |>.step (.connect (t := true) (i := ()) rfl)
    |>.step (.seed (t := true) (i := ()) rfl rfl (lockFree_of_unit _))
    |>.step (.commitSeed (t := true) (i := ()) rfl rfl)
    |>.step (.openTelemetry (t := true) (i := ()) rfl)
    |>.step (.begin (t := true) (i := ()) rfl rfl rfl (lockFree_of_unit _) rfl)
    |>.step (.select (t := true) (i := ()) rfl rfl rfl)
    |>.step (.update (t := true) (i := ()) rfl rfl (lockFree_of_unit _))
    |>.step (.commit (t := true) (i := ()) rfl rfl)
    |>.step (.assign (t := true) (i := ()) rfl)
    |>.step (.format (t := true) (i := ()) rfl rfl)
    |>.step (.store (t := true) (i := ()) rfl)
    |>.step (.beginNewRunId (t := true) (i := ()) rfl)
    |>.step (.begin (t := true) (i := ()) rfl rfl rfl (lockFree_of_unit _) rfl)
    |>.step (.select (t := true) (i := ()) rfl rfl rfl)
    |>.step (.update (t := true) (i := ()) rfl rfl (lockFree_of_unit _))
    |>.step (.commit (t := true) (i := ()) rfl rfl)
    |>.step (.beginNewRunId (t := false) (i := ()) rfl)
    |>.step (.begin (t := false) (i := ()) rfl rfl rfl (lockFree_of_unit _) rfl)
    |>.step (.select (t := false) (i := ()) rfl rfl rfl)
    |>.step (.update (t := false) (i := ()) rfl rfl (lockFree_of_unit _))
    |>.step (.commit (t := false) (i := ()) rfl rfl)
    |>.step (.assign (t := true) (i := ()) rfl)
    |>.step (.assign (t := false) (i := ()) rfl)
    |>.step (.format (t := true) (i := ()) rfl rfl)
    |>.step (.format (t := false) (i := ()) rfl rfl))
  have hids := hunique.2
  change [runIdText ['S', 'T'] 3, runIdText ['S', 'T'] 3, runIdText ['S', 'T'] 1].Nodup at hids
  exact (List.nodup_cons.mp hids).1 List.mem_cons_self

end Nipxi
