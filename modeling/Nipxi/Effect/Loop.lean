import Mathlib.Data.Nat.Notation
import Nipxi.Effect.Prog

/-!
# Loops

`while True`, whose body goes on or ends the loop with a result. A loop is given a number of rounds
and does not end if they are not enough, so that what is proved for every number of rounds is
proved of the loop.
-/

namespace Effect

universe u

variable {ε σ α : Type u}

/-- The body again and again, for at most so many rounds, until it has a result. -/
def Prog.repeatWithin (body : Prog ε σ (Option α)) : ℕ → Prog ε σ α
  | 0 => fun _ ↦ .diverged
  | rounds + 1 => do
    match ← body with
    | some a => pure a
    | none => repeatWithin body rounds

/-- **The rule of the loop.** An invariant the body keeps while it goes on holds when it ends the
loop. -/
theorem post_repeatWithin {body : Prog ε σ (Option α)} {I : σ → Prop} {Q : α → σ → Prop}
    {E : ε → σ → Prop}
    (hbody : ∀ s, I s → Post body (fun r t ↦ r.elim (I t) fun a ↦ Q a t) E s) (rounds : ℕ)
    {s : σ} (hs : I s) : Post (body.repeatWithin rounds) Q E s := by
  induction rounds generalizing s with
  | zero => trivial
  | succ rounds ih =>
    refine (hbody s hs).bind fun r t ht ↦ ?_
    cases r with
    | some a => exact ht
    | none => exact ih ht

end Effect
