import Nipxi.Effect.Laws
import Nipxi.Effect.Lens

/-!
# Objects whose methods call one another

The code of a method works on a world, and calls methods of its own object. A call is a node of the
code, not the code of the method that is called: which code that is, is decided when the call is
made. So one and the same code can be run with other methods behind its calls.

`Code.run` runs code as a program, given what answers the calls. `Agree R` says that two programs
end the same way from related states, in related states; `agree_run` is the congruence: if the
answers agree, so do the runs.
-/

namespace Effect

universe u

variable {ε ε' ω μ ν α β σ τ : Type u}

/-! ## Programs on a part of the state -/

theorem Prog.zoom_of_ok {l : Lens σ τ} {x : Prog ε τ α} {s : σ} {a : α} {t : τ}
    (h : x (l.get s) = .ok a t) : x.zoom l s = .ok a (l.set t s) := by
  rw [Prog.zoom, h]

/-! ## Code -/

/-- Code over a world `ω` that makes calls `μ` answered by `ν`. -/
inductive Code (ε ω μ ν α : Type u) : Type u
  | ret (a : α)
  | raise (e : ε)
  | diverge
  /-- Replaces the world by a function of it, and goes on by what the world was. -/
  | act (next : ω → ω) (k : ω → Code ε ω μ ν α)
  /-- Makes a call, and goes on by how it ended. -/
  | call (m : μ) (k : Except ε ν → Code ε ω μ ν α)

/-- The program with its exceptions embedded in others. -/
def Prog.mapError (f : ε' → ε) (x : Prog ε' σ α) : Prog ε σ α := fun s ↦
  match x s with
  | .ok a t => .ok a t
  | .error e t => .error (f e) t
  | .diverged => .diverged

/-- The state at the end of a run, if it ends. -/
def Outcome.stateOr (s : σ) : Outcome ε σ α → σ
  | .ok _ t => t
  | .error _ t => t
  | .diverged => s

namespace Code

/-- Sequencing; an exception skips the rest. -/
protected def bind : Code ε ω μ ν α → (α → Code ε ω μ ν β) → Code ε ω μ ν β
  | ret a, f => f a
  | raise e, _ => raise e
  | diverge, _ => diverge
  | act next k, f => act next fun w ↦ (k w).bind f
  | call m k, f => call m fun r ↦ (k r).bind f

instance : Monad (Code ε ω μ ν) where
  pure := ret
  bind := Code.bind

/-- Going on with an end. -/
def ofExcept : Except ε α → Code ε ω μ ν α
  | .ok a => ret a
  | .error e => raise e

/-- A call whose exception is passed on. -/
def send (m : μ) : Code ε ω μ ν ν := call m ofExcept

/-- Running code and returning how it ended, so that the caller decides. -/
def attempt : Code ε ω μ ν α → Code ε ω μ ν (Except ε α)
  | ret a => ret (.ok a)
  | raise e => ret (.error e)
  | diverge => diverge
  | act next k => act next fun w ↦ (k w).attempt
  | call m k => call m fun r ↦ (k r).attempt

/-- Going on with the end of a program. -/
def ofOutcome (f : ε' → ε) : Outcome ε' ω α → Code ε ω μ ν α
  | .ok a _ => ret a
  | .error e _ => raise (f e)
  | .diverged => diverge

/-- A program on the world, as code that makes no call. -/
def embed (f : ε' → ε) (x : Prog ε' ω α) : Code ε ω μ ν α :=
  act (fun w ↦ (x w).stateOr w) fun w ↦ ofOutcome f (x w)

/-- Running code on states with a world in them. -/
def run (l : Lens σ ω) (answer : μ → Prog ε σ ν) : Code ε ω μ ν α → Prog ε σ α
  | ret a => Pure.pure a
  | raise e => Prog.raise e
  | diverge => fun _ ↦ .diverged
  | act next k => fun s ↦ (k (l.get s)).run l answer (l.set (next (l.get s)) s)
  | call m k => (answer m).attempt >>= fun r ↦ (k r).run l answer

theorem bind_bind {γ : Type u} (x : Code ε ω μ ν α) (f : α → Code ε ω μ ν β)
    (g : β → Code ε ω μ ν γ) : (x >>= f) >>= g = x >>= fun a ↦ f a >>= g := by
  change (x.bind f).bind g = x.bind fun a ↦ (f a).bind g
  induction x with
  | ret a | raise e | diverge => rfl
  | act next k ih => exact congrArg (act next) (funext ih)
  | call m k ih => exact congrArg (call m) (funext ih)

section Run

variable (l : Lens σ ω) (answer : μ → Prog ε σ ν)

theorem run_bind (x : Code ε ω μ ν α) (f : α → Code ε ω μ ν β) :
    (x >>= f).run l answer = x.run l answer >>= fun a ↦ (f a).run l answer := by
  change (x.bind f).run l answer = _
  induction x with
  | ret a => rfl
  | raise e => rfl
  | diverge => rfl
  | act next k ih =>
    funext s
    exact congrFun (ih (l.get s)) _
  | call m k ih =>
    rw [Code.bind, run, run, Prog.bind_bind]
    exact congrArg _ (funext ih)

theorem run_attempt (x : Code ε ω μ ν α) :
    x.attempt.run l answer = (x.run l answer).attempt := by
  induction x with
  | ret a => rfl
  | raise e => rfl
  | diverge => rfl
  | act next k ih =>
    funext s
    exact congrFun (ih (l.get s)) _
  | call m k ih =>
    rw [attempt, run, run]
    funext s
    change Prog.bind _ _ s = Prog.attempt (Prog.bind _ _) s
    simp only [Prog.bind, Prog.attempt, ih]
    cases answer m s <;> rfl

/-- A call that passes its exception on runs as what answers it. -/
theorem run_send (m : μ) : (send m : Code ε ω μ ν ν).run l answer = answer m := by
  funext s
  change Prog.bind (answer m).attempt _ s = _
  unfold Prog.bind Prog.attempt
  cases answer m s with
  | ok a t => rfl
  | error e t => rfl
  | diverged => rfl

theorem run_embed (f : ε' → ε) (x : Prog ε' ω α) (s : σ) :
    (embed f x : Code ε ω μ ν α).run l answer s =
      match x (l.get s) with
      | .ok a w => .ok a (l.set w s)
      | .error e w => .error (f e) (l.set w s)
      | .diverged => .diverged := by
  change (ofOutcome f (x (l.get s))).run l answer (l.set ((x (l.get s)).stateOr _) s) = _
  cases x (l.get s) <;> rfl

end Run

/-- The code runs as a program without calls, whose exceptions are embedded. -/
def RunsAs (l : Lens σ ω) (answer : μ → Prog ε σ ν) (f : ε' → ε) (x : Code ε ω μ ν α)
    (y : Prog ε' ω α) : Prop :=
  x.run l answer = (embed f y : Code ε ω μ ν α).run l answer

section RunsAs

variable {l : Lens σ ω} {answer : μ → Prog ε σ ν} {f : ε' → ε}

theorem RunsAs.embed (y : Prog ε' ω α) : RunsAs l answer f (.embed f y) y := rfl

theorem RunsAs.pure (a : α) :
    RunsAs l answer f (Pure.pure a : Code ε ω μ ν α) (Pure.pure a) := by
  funext s
  rw [run_embed]
  exact congrArg (Outcome.ok a) (l.set_get s).symm

theorem RunsAs.raise (e : ε') :
    RunsAs l answer f (Code.raise (f e) : Code ε ω μ ν α) (Prog.raise e) := by
  funext s
  rw [run_embed]
  exact congrArg (Outcome.error (f e)) (l.set_get s).symm

theorem RunsAs.bind {x : Code ε ω μ ν α} {y : Prog ε' ω α} {g : α → Code ε ω μ ν β}
    {k : α → Prog ε' ω β} (hx : RunsAs l answer f x y) (hg : ∀ a, RunsAs l answer f (g a) (k a)) :
    RunsAs l answer f (x >>= g) (y >>= k) := by
  funext s
  rw [run_bind, hx, run_embed]
  change Prog.bind _ _ s = match Prog.bind y k (l.get s) with
    | .ok a w => .ok a (l.set w s)
    | .error e w => .error (f e) (l.set w s)
    | .diverged => .diverged
  unfold Prog.bind
  rw [run_embed]
  cases y (l.get s) with
  | ok a w =>
    dsimp only
    rw [hg a, run_embed, l.get_set]
    cases k a w <;> simp only [l.set_set]
  | error e w => rfl
  | diverged => rfl

/-- Going on from an answer that stands for a result. -/
theorem RunsAs.map_bind {γ : Type u} {x : Code ε ω μ ν β} {y : Prog ε' ω α} {h : α → β}
    {g : β → Code ε ω μ ν γ} {k : α → Prog ε' ω γ}
    (hx : RunsAs l answer f x (y >>= fun a ↦ Pure.pure (h a)))
    (hg : ∀ a, RunsAs l answer f (g (h a)) (k a)) : RunsAs l answer f (x >>= g) (y >>= k) := by
  funext s
  have hmid : RunsAs l answer f (Code.embed f y >>= fun a ↦ Pure.pure (h a))
      (y >>= fun a ↦ Pure.pure (h a)) := .bind rfl fun a ↦ .pure (h a)
  have hrun : RunsAs l answer f (Code.embed f y >>= fun a ↦ g (h a)) (y >>= k) := .bind rfl hg
  rw [← hrun, run_bind, hx, ← hmid, ← run_bind, bind_bind]
  rfl

theorem RunsAs.attempt_bind {x : Code ε ω μ ν α} {y : Prog ε' ω α}
    {g : Except ε α → Code ε ω μ ν β} {k : Except ε' α → Prog ε' ω β}
    (hx : RunsAs l answer f x y)
    (hg : ∀ r, RunsAs l answer f (g (r.mapError f)) (k r)) :
    RunsAs l answer f (x.attempt >>= g) (y.attempt >>= k) := by
  funext s
  rw [run_bind, run_attempt, hx, run_embed]
  change Prog.bind _ _ s = match Prog.bind (Prog.attempt y) k (l.get s) with
    | .ok a w => .ok a (l.set w s)
    | .error e w => .error (f e) (l.set w s)
    | .diverged => .diverged
  unfold Prog.bind Prog.attempt
  rw [run_embed]
  cases y (l.get s) with
  | ok a w =>
    have hrun := congrFun (hg (.ok a)) (l.set w s)
    rw [run_embed, l.get_set] at hrun
    refine hrun.trans ?_
    dsimp only
    cases k (.ok a) w <;> simp only [l.set_set]
  | error e w =>
    have hrun := congrFun (hg (.error e)) (l.set w s)
    rw [run_embed, l.get_set] at hrun
    refine hrun.trans ?_
    dsimp only
    cases k (.error e) w <;> simp only [l.set_set]
  | diverged => rfl

theorem RunsAs.ite {c : Prop} [Decidable c] {x x' : Code ε ω μ ν α} {y y' : Prog ε' ω α}
    (h : RunsAs l answer f x y) (h' : RunsAs l answer f x' y') :
    RunsAs l answer f (if c then x else x') (if c then y else y') := by
  split
  · exact h
  · exact h'

theorem RunsAs.send {m : μ} {y : Prog ε' ω ν}
    (h : answer m = (Code.embed f y : Code ε ω μ ν ν).run l answer) :
    RunsAs l answer f (.send m) y := by
  rw [RunsAs, run_send, h]

theorem RunsAs.run_whole {answer : μ → Prog ε ω ν} {x : Code ε ω μ ν α} {y : Prog ε' ω α}
    (h : RunsAs .whole answer f x y) : x.run .whole answer = y.mapError f := by
  rw [h]
  funext w
  rw [run_embed]
  unfold Prog.mapError
  have hget : Lens.whole.get w = w := rfl
  rw [hget]
  cases y w <;> rfl

end RunsAs

end Code

/-! ## Agreement -/

/-- Two runs that end the same way, in related states. -/
def Outcome.Agree (R : σ → τ → Prop) : Outcome ε σ α → Outcome ε τ α → Prop
  | .ok a s, .ok b t => a = b ∧ R s t
  | .error e s, .error f t => e = f ∧ R s t
  | .diverged, .diverged => True
  | _, _ => False

/-- Programs that agree from related states. -/
def Agree (R : σ → τ → Prop) (x : Prog ε σ α) (y : Prog ε τ α) : Prop :=
  ∀ s t, R s t → (x s).Agree R (y t)

section Rules

variable {R : σ → τ → Prop}

theorem Agree.pure (a : α) : Agree R (Pure.pure a : Prog ε σ α) (Pure.pure a) := fun _ _ h ↦
  ⟨rfl, h⟩

theorem Agree.raise (e : ε) : Agree R (Prog.raise e : Prog ε σ α) (Prog.raise e) := fun _ _ h ↦
  ⟨rfl, h⟩

theorem Agree.bind {x : Prog ε σ α} {y : Prog ε τ α} {f : α → Prog ε σ β} {g : α → Prog ε τ β}
    (hx : Agree R x y) (hf : ∀ a, Agree R (f a) (g a)) : Agree R (x >>= f) (y >>= g) := by
  intro s t hst
  have h := hx s t hst
  change Outcome.Agree R (Prog.bind x f s) (Prog.bind y g t)
  unfold Prog.bind
  revert h
  cases x s with
  | ok a s' =>
    cases y t with
    | ok b t' =>
      rintro ⟨rfl, h⟩
      exact hf a s' t' h
    | error | diverged => exact False.elim
  | error e s' =>
    cases y t with
    | error f t' => exact id
    | ok | diverged => exact False.elim
  | diverged =>
    cases y t with
    | diverged => exact id
    | ok | error => exact False.elim

theorem Agree.attempt {x : Prog ε σ α} {y : Prog ε τ α} (hx : Agree R x y) :
    Agree R x.attempt y.attempt := by
  intro s t hst
  have h := hx s t hst
  unfold Prog.attempt
  revert h
  cases x s with
  | ok a s' =>
    cases y t with
    | ok b t' =>
      rintro ⟨rfl, h⟩
      exact ⟨rfl, h⟩
    | error | diverged => exact False.elim
  | error e s' =>
    cases y t with
    | error f t' =>
      rintro ⟨rfl, h⟩
      exact ⟨rfl, h⟩
    | ok | diverged => exact False.elim
  | diverged =>
    cases y t with
    | diverged => exact id
    | ok | error => exact False.elim

/-- What is related at the end of the runs. -/
theorem Outcome.Agree.mono {S : σ → τ → Prop} (hRS : ∀ s t, R s t → S s t) {x : Outcome ε σ α}
    {y : Outcome ε τ α} (h : x.Agree R y) : x.Agree S y := by
  revert h
  cases x with
  | ok a s =>
    cases y with
    | ok b t => exact fun h ↦ ⟨h.1, hRS s t h.2⟩
    | error | diverged => exact False.elim
  | error e s =>
    cases y with
    | error f t => exact fun h ↦ ⟨h.1, hRS s t h.2⟩
    | ok | diverged => exact False.elim
  | diverged =>
    cases y with
    | diverged => exact id
    | ok | error => exact False.elim

theorem Outcome.Agree.comp {ρ : Type u} {S : τ → ρ → Prop} {x : Outcome ε σ α} {y : Outcome ε τ α}
    {z : Outcome ε ρ α} (h : x.Agree R y) (h' : y.Agree S z) :
    x.Agree (fun s r ↦ ∃ t, R s t ∧ S t r) z := by
  revert h h'
  cases x with
  | ok a s =>
    cases y with
    | ok b t =>
      rintro ⟨rfl, h⟩
      cases z with
      | ok c r => exact fun h' ↦ ⟨h'.1, t, h, h'.2⟩
      | error | diverged => exact False.elim
    | error | diverged => exact False.elim
  | error e s =>
    cases y with
    | error f t =>
      rintro ⟨rfl, h⟩
      cases z with
      | error g r => exact fun h' ↦ ⟨h'.1, t, h, h'.2⟩
      | ok | diverged => exact False.elim
    | ok | diverged => exact False.elim
  | diverged =>
    cases y with
    | diverged =>
      cases z with
      | diverged => exact fun _ ↦ id
      | ok | error => exact fun _ ↦ id
    | ok | error => exact False.elim

/-- What holds at the end of the second run. -/
theorem Outcome.Agree.post_right {s : σ} {t : τ} {x : Prog ε σ α} {y : Prog ε τ α}
    (h : (x s).Agree R (y t)) : Post y (fun _ u ↦ ∃ v, R v u) (fun _ u ↦ ∃ v, R v u) t := by
  unfold Post
  revert h
  cases x s with
  | ok a v =>
    cases y t with
    | ok b u => exact fun h ↦ ⟨v, h.2⟩
    | error | diverged => exact False.elim
  | error e v =>
    cases y t with
    | error f u => exact fun h ↦ ⟨v, h.2⟩
    | ok | diverged => exact False.elim
  | diverged =>
    cases y t with
    | diverged => exact id
    | ok | error => exact False.elim

/-- **The congruence.** Code runs alike where its calls are answered alike, if related states have
the same world and stay related when it is replaced. -/
theorem agree_run {l : Lens σ ω} {l' : Lens τ ω} (hget : ∀ s t, R s t → l.get s = l'.get t)
    (hset : ∀ s t w, R s t → R (l.set w s) (l'.set w t)) {answer : μ → Prog ε σ ν}
    {answer' : μ → Prog ε τ ν} (hanswer : ∀ m, Agree R (answer m) (answer' m))
    (x : Code ε ω μ ν α) : Agree R (x.run l answer) (x.run l' answer') := by
  induction x with
  | ret a => exact .pure a
  | raise e => exact .raise e
  | diverge => exact fun _ _ _ ↦ trivial
  | act next k ih =>
    intro s t hst
    change Outcome.Agree R ((k (l.get s)).run l answer _) ((k (l'.get t)).run l' answer' _)
    rw [← hget s t hst]
    exact ih _ _ _ (hset s t _ hst)
  | call m k ih => exact (hanswer m).attempt.bind ih

end Rules

end Effect
