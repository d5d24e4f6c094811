import Mathlib.Data.List.Basic

/-!
# A write-ahead log

A database in WAL mode is a main file and a log. A transaction is in the log when it is committed
and every ordinary connection sees it from then on; a checkpoint moves the oldest transactions of
the log to the main file. A connection that takes the file to be immutable reads the main file
alone.
-/

namespace Sqlite

universe u

/-- A database file with its write-ahead log: the transactions in the main file and those in the
log, oldest first. -/
structure WalFile (τ : Type u) where
  main : List τ
  wal : List τ

namespace WalFile

variable {τ : Type u} (f : WalFile τ)

/-- What ordinary connections see. -/
def committed : List τ := f.main ++ f.wal

/-- A commit appends to the log. -/
def commit (t : τ) : WalFile τ := { f with wal := f.wal ++ [t] }

/-- A checkpoint of the `n` oldest transactions of the log. -/
def checkpoint (n : ℕ) : WalFile τ := { main := f.main ++ f.wal.take n, wal := f.wal.drop n }

end WalFile

end Sqlite
