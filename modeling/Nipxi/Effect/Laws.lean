import Nipxi.Effect.Prog

/-!
# Programs as a monad

The laws of sequencing, by which two program texts are compared. Nothing else is asked of two
programs to be equal than to end the same way from every state.
-/

namespace Effect

universe u

variable {ε σ α β γ : Type u}

theorem Prog.bind_pure_self (x : Prog ε σ α) : x >>= pure = x := by
  funext s
  change Prog.bind x Prog.pure s = x s
  unfold Prog.bind
  cases x s <;> rfl

theorem Prog.pure_bind_self (a : α) (f : α → Prog ε σ β) : pure a >>= f = f a := rfl

theorem Prog.bind_bind (x : Prog ε σ α) (f : α → Prog ε σ β) (g : β → Prog ε σ γ) :
    x >>= f >>= g = x >>= fun a ↦ f a >>= g := by
  funext s
  change Prog.bind (Prog.bind x f) g s = Prog.bind x (fun a ↦ Prog.bind (f a) g) s
  unfold Prog.bind
  cases x s <;> rfl

instance : LawfulMonad (Prog ε σ) :=
  LawfulMonad.mk' (Prog ε σ) Prog.bind_pure_self Prog.pure_bind_self Prog.bind_bind

/-- An attempt whose result is not looked at. -/
theorem Prog.attempt_discard (x : Prog ε σ α) (b : β) (k : Prog ε σ γ) :
    ((x >>= fun _ ↦ pure b).attempt >>= fun _ ↦ k) = x.attempt >>= fun _ ↦ k := by
  funext s
  change Prog.bind (Prog.attempt (Prog.bind x fun _ ↦ Prog.pure b)) (fun _ ↦ k) s
    = Prog.bind (Prog.attempt x) (fun _ ↦ k) s
  simp only [Prog.bind, Prog.attempt]
  cases x s <;> rfl

/-! ## Handling an exception, or going on -/

/-- What is done with how a program ended. -/
def Prog.resume (h : ε → Prog ε σ β) (k : α → Prog ε σ β) : Except ε α → Prog ε σ β
  | .ok a => k a
  | .error e => h e

/-- `try`, with what is done with an exception, and what follows the `try`. -/
def Prog.catching (x : Prog ε σ α) (h : ε → Prog ε σ β) (k : α → Prog ε σ β) : Prog ε σ β :=
  x.attempt >>= Prog.resume h k

/-- The result that a `try` goes on with. -/
theorem Prog.catching_bind_pure (x : Prog ε σ α) (g : α → β) (h : ε → Prog ε σ γ)
    (k : β → Prog ε σ γ) :
    (x >>= fun a ↦ pure (g a)).catching h k = x.catching h fun a ↦ k (g a) := by
  funext s
  change Prog.bind (Prog.attempt (Prog.bind x fun a ↦ Prog.pure (g a))) _ s
    = Prog.bind (Prog.attempt x) _ s
  simp only [Prog.bind, Prog.attempt]
  cases x s <;> rfl

/-- Ending as a program ended. -/
def Prog.ofExcept : Except ε α → Prog ε σ α
  | .ok a => pure a
  | .error e => .raise e

theorem Prog.ensuring_eq (x : Prog ε σ α) (fin : Prog ε σ PUnit) :
    x.ensuring fin = x.attempt >>= fun r ↦ fin >>= fun _ ↦ .ofExcept r := by
  funext s
  change _ = Prog.bind (Prog.attempt x) _ s
  unfold Prog.ensuring Prog.bind Prog.attempt
  cases x s <;> rfl

end Effect
