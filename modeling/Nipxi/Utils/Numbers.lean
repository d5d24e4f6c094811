import Mathlib.Algebra.Order.Ring.Unbundled.Rat
import Nipxi.TestControl.Station

/-!
# The numbers of a configuration

An `int` or a `float` of a configuration is compared with a limit and written into a message. Where
only real values matter it is a rational number; where `nan` and the infinities matter as well it
is a `PyNumber`. Every comparison with a `nan` is false.
-/

namespace Nipxi

/-- What a validation does with a number. -/
class ConfigNumber (N : Type) where
  ofRat : ℚ → N
  /-- `x < y`. -/
  lt : N → N → Bool
  /-- `x <= y`. -/
  le : N → N → Bool
  /-- `f"{x:.nf}"` for `n` digits. -/
  format : ℕ → N → String

instance : ConfigNumber ℚ where
  ofRat := id
  lt x y := x < y
  le x y := x ≤ y
  format := formatFixed

/-- An `int` or a `float`. -/
inductive PyNumber where
  | nan
  | negInf
  | finite (value : ℚ)
  | posInf
  deriving DecidableEq

namespace PyNumber

/-- `x < y`. -/
def lt : PyNumber → PyNumber → Bool
  | finite x, finite y => x < y
  | negInf, finite _ | negInf, posInf | finite _, posInf => true
  | _, _ => false

/-- `x <= y`. -/
def le : PyNumber → PyNumber → Bool
  | nan, _ | _, nan => false
  | x, y => !(y.lt x)

/-- `f"{x:.nf}"` for `n = digits`. -/
def formatFixed (digits : ℕ) : PyNumber → String
  | nan => "nan"
  | negInf => "-inf"
  | finite x => Nipxi.formatFixed digits x
  | posInf => "inf"

instance : ConfigNumber PyNumber where
  ofRat := finite
  lt := lt
  le := le
  format := formatFixed

end PyNumber

end Nipxi
