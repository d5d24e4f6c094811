import Mathlib.Data.Int.Notation
import Nipxi.Effect.Journal
import Nipxi.Effect.Laws
import Nipxi.Utils.Errors

/-!
# The loop of `BatteryTestSequence`

`BatteryTestSequence.run`, whatever its steps are. It is looked at from two sides: `BatteryTest`
keeps its calls and leaves the cycles open; `TestExecutor` goes into the cycles and keeps what they
return. Both are this loop, by `BatteryTest.run_eq_sequence` and `batteryTestSequence_eq_sequence`.
-/

open Effect

namespace Nipxi

/-- The steps of a round. -/
structure BatteryTestSteps (σ : Type) where
  /-- `is_safe_to_switch_relay(_read_current(channel))`. -/
  isSafeToSwitchRelay : ℤ → Prog Exc σ Bool
  checkCancellation : Prog Exc σ PUnit
  relayClose : ℤ → Prog Exc σ PUnit
  relayOpen : ℤ → Prog Exc σ PUnit
  charge : ℤ → Prog Exc σ PUnit
  discharge : ℤ → Prog Exc σ PUnit
  /-- `safe_cancel_shutdown` or `emergency_stop`, by the exception. -/
  shutDown : Exc → Prog Exc σ PUnit

namespace BatteryTestSteps

variable {σ : Type} (steps : BatteryTestSteps σ)

/-- The body of the `try`, and whether it came to its end. -/
def tryChannel (channel : ℤ) : Prog Exc σ Bool := do
  steps.checkCancellation
  steps.relayClose channel
  steps.charge channel
  if ← steps.isSafeToSwitchRelay channel then do
    steps.discharge channel
    pure true
  else pure false

/-- A round of the loop: the `except` clauses raise again, and the `else` opens the relay. -/
def runChannel (channel : ℤ) : Prog Exc σ PUnit := do
  if ← steps.isSafeToSwitchRelay channel then do
    let completed ← (steps.tryChannel channel).handle fun e ↦ do
      steps.shutDown e
      Prog.raise e
    if completed then steps.relayOpen channel else pure ⟨⟩
  else pure ⟨⟩

/-- `BatteryTestSequence.run`. -/
def run (channels : List ℤ) : Prog Exc σ PUnit := Prog.forEach steps.runChannel channels

end BatteryTestSteps

end Nipxi
