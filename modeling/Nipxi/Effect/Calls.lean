import Mathlib.Data.Nat.Notation
import Nipxi.Effect.Object

/-!
# Whether code makes a call

Up to its first call, what code does depends on nothing but the world it is started on:
`Code.calls x w` says whether `x` makes a call when it is started on `w`. `Code.Obeys M C` is about
all calls, whatever they are answered: each is one of `M`, and what is raised is one of `C` as long
as the answers raise nothing else.

`post_run` counts: if every answer to a call of `M` raises a count that the world has no part in, a
run that makes a call raises it. `post_run_of_not_calls` is the other half: without a call, only the
world changes.
-/

namespace Effect

universe u

variable {ε ε' ω μ ν α β σ : Type u}

namespace Code

/-- Whether code makes a call, started on a world. -/
def calls : Code ε ω μ ν α → ω → Bool
  | ret _, _ | raise _, _ | diverge, _ => false
  | act next k, w => (k w).calls (next w)
  | call _ _, _ => true

/-- Every call is one of `M`, and what is raised is one of `C`. -/
def Obeys (M : μ → Prop) (C : ε → Prop) : Code ε ω μ ν α → Prop
  | ret _ | diverge => True
  | raise e => C e
  | act _ k => ∀ w, (k w).Obeys M C
  | call m k => M m ∧ ∀ r, (∀ e, r = .error e → C e) → (k r).Obeys M C

section Calls

variable (f : ε' → ε) {x : Prog ε' ω α} {g : α → Code ε ω μ ν β} {w v : ω}

theorem calls_embed (x : Prog ε' ω α) (w : ω) : (embed f x : Code ε ω μ ν α).calls w = false := by
  change (ofOutcome f (x w)).calls _ = _
  cases x w <;> rfl

theorem calls_embed_bind (x : Prog ε' ω α) (g : α → Code ε ω μ ν β) (w : ω) :
    (embed f x >>= g).calls w = (ofOutcome f (x w) >>= g).calls ((x w).stateOr w) := rfl

theorem calls_embed_bind_of_ok {a : α} (h : x w = .ok a v) :
    (embed f x >>= g).calls w = (g a).calls v := by
  rw [calls_embed_bind, h]
  rfl

theorem calls_embed_bind_of_error {e : ε'} (h : x w = .error e v) :
    (embed f x >>= g).calls w = false := by
  rw [calls_embed_bind, h]
  rfl

theorem calls_embed_bind_of_diverged (h : x w = .diverged) :
    (embed f x >>= g).calls w = false := by
  rw [calls_embed_bind, h]
  rfl

/-- Code whose continuations make no call. -/
theorem calls_bind_eq (y : Code ε ω μ ν α) (h : ∀ a v, (g a).calls v = false) (w : ω) :
    (y >>= g).calls w = y.calls w := by
  change (Code.bind y g).calls w = _
  induction y generalizing w with
  | ret a => exact h a w
  | raise e | diverge => rfl
  | act next k ih => exact ih w _
  | call m k => rfl

/-- Code that goes on with a call. -/
theorem calls_embed_bind_eq_false_iff (h : ∀ a v, (g a).calls v = true) :
    (embed f x >>= g).calls w = false ↔ ∀ a v, x w ≠ .ok a v := by
  cases hx : x w with
  | ok a v =>
    rw [calls_embed_bind_of_ok f hx, h]
    exact iff_of_false Bool.true_eq_false.mp fun hne ↦ hne a v rfl
  | error e v =>
    rw [calls_embed_bind_of_error f hx]
    exact iff_of_true rfl fun _ _ ↦ nofun
  | diverged =>
    rw [calls_embed_bind_of_diverged f hx]
    exact iff_of_true rfl fun _ _ ↦ nofun

end Calls

section Obeys

variable {M : μ → Prop} {C : ε → Prop}

theorem Obeys.mono {M' : μ → Prop} (hM : ∀ m, M m → M' m) {x : Code ε ω μ ν α} (h : x.Obeys M C) :
    x.Obeys M' C := by
  induction x with
  | ret a | diverge => exact trivial
  | raise e => exact h
  | act next k ih => exact fun w ↦ ih w (h w)
  | call m k ih => exact ⟨hM m h.1, fun r hr ↦ ih r (h.2 r hr)⟩

theorem Obeys.ret (a : α) : (Pure.pure a : Code ε ω μ ν α).Obeys M C := trivial

theorem Obeys.raise {e : ε} (h : C e) : (Code.raise e : Code ε ω μ ν α).Obeys M C := h

theorem Obeys.send {m : μ} (h : M m) : (send m : Code ε ω μ ν ν).Obeys M C := by
  refine ⟨h, fun r hr ↦ ?_⟩
  cases r with
  | ok a => exact trivial
  | error e => exact hr e rfl

theorem Obeys.embed {f : ε' → ε} (h : ∀ e, C (f e)) (x : Prog ε' ω α) :
    (embed f x : Code ε ω μ ν α).Obeys M C := by
  intro w
  change (ofOutcome f (x w)).Obeys M C
  cases x w with
  | ok a v => exact trivial
  | error e v => exact h e
  | diverged => exact trivial

theorem Obeys.bind {x : Code ε ω μ ν α} {g : α → Code ε ω μ ν β} (hx : x.Obeys M C)
    (hg : ∀ a, (g a).Obeys M C) : (x >>= g).Obeys M C := by
  change (Code.bind x g).Obeys M C
  induction x with
  | ret a => exact hg a
  | raise e => exact hx
  | diverge => exact trivial
  | act next k ih => exact fun w ↦ ih w (hx w)
  | call m k ih => exact ⟨hx.1, fun r hr ↦ ih r (hx.2 r hr)⟩

/-- What is done with how code ended. -/
theorem Obeys.attempt_bind {x : Code ε ω μ ν α} {g : Except ε α → Code ε ω μ ν β}
    (hx : x.Obeys M C) (hg : ∀ r, (∀ e, r = .error e → C e) → (g r).Obeys M C) :
    (x.attempt >>= g).Obeys M C := by
  change (Code.bind x.attempt g).Obeys M C
  induction x with
  | ret a => exact hg (.ok a) nofun
  | raise e =>
    refine hg (.error e) fun e' h ↦ ?_
    rw [← Except.error.inj h]
    exact hx
  | diverge => exact trivial
  | act next k ih => exact fun w ↦ ih w (hx w)
  | call m k ih => exact ⟨hx.1, fun r hr ↦ ih r (hx.2 r hr)⟩

theorem Obeys.ite {c : Prop} [Decidable c] {x y : Code ε ω μ ν α} (hx : x.Obeys M C)
    (hy : y.Obeys M C) : (if c then x else y).Obeys M C := by
  split
  · exact hx
  · exact hy

end Obeys

end Code

/-! ## Counting -/

section Counting

variable {l : Lens σ ω} {answer : μ → Prog ε σ ν} {n : σ → ℕ} {M : μ → Prop} {C : ε → Prop}

/-- **A call is counted**, if every answer is. -/
theorem post_run (hn : ∀ w s, n (l.set w s) = n s)
    (hanswer : ∀ m, M m → ∀ s,
      Post (answer m) (fun _ t ↦ n s < n t) (fun e t ↦ C e ∧ n s < n t) s)
    (x : Code ε ω μ ν α) (hx : x.Obeys M C) (s : σ) :
    Post (x.run l answer) (fun _ t ↦ n s + (x.calls (l.get s)).toNat ≤ n t)
      (fun e t ↦ C e ∧ n s + (x.calls (l.get s)).toNat ≤ n t) s := by
  induction x generalizing s with
  | ret a => exact Nat.le_refl (n s)
  | raise e => exact ⟨hx, Nat.le_refl (n s)⟩
  | diverge => exact trivial
  | act next k ih =>
    have h := ih (l.get s) (hx _) (l.set (next (l.get s)) s)
    rw [hn, l.get_set] at h
    exact h
  | call m k ih =>
    have hcount : ∀ {t u : σ} {more : ℕ}, n s < n t → n t + more ≤ n u → n s + 1 ≤ n u :=
      fun hst htu ↦ Nat.le_trans (Nat.succ_le_of_lt hst) (Nat.le_trans (Nat.le_add_right _ _) htu)
    refine (post_bind _).mpr (post_attempt.mpr ((hanswer m hx.1 s).mono ?_ ?_))
    · intro a t hst
      exact (ih (.ok a) (hx.2 _ nofun) t).mono (fun _ u hu ↦ hcount hst hu)
        fun e u hu ↦ ⟨hu.1, hcount hst hu.2⟩
    · rintro e t ⟨he, hst⟩
      have hall : ∀ e', (Except.error e : Except ε ν) = .error e' → C e' := by
        intro e' heq
        rw [← Except.error.inj heq]
        exact he
      exact (ih (.error e) (hx.2 _ hall) t).mono (fun _ u hu ↦ hcount hst hu)
        fun e u hu ↦ ⟨hu.1, hcount hst hu.2⟩

/-- Without a call, only the world changes. -/
theorem post_run_of_not_calls (l : Lens σ ω) (answer : μ → Prog ε σ ν) (x : Code ε ω μ ν α) (s : σ)
    (h : x.calls (l.get s) = false) :
    Post (x.run l answer) (fun _ t ↦ ∃ w, t = l.set w s) (fun _ t ↦ ∃ w, t = l.set w s) s := by
  induction x generalizing s with
  | ret a => exact ⟨_, (l.set_get s).symm⟩
  | raise e => exact ⟨_, (l.set_get s).symm⟩
  | diverge => exact trivial
  | act next k ih =>
    have hset (t : σ) (ht : ∃ w, t = l.set w (l.set (next (l.get s)) s)) : ∃ w, t = l.set w s := by
      obtain ⟨w, rfl⟩ := ht
      exact ⟨w, l.set_set _ _ _⟩
    refine (ih (l.get s) (l.set (next (l.get s)) s) ?_).mono (fun _ t ↦ hset t) fun _ t ↦ hset t
    rw [l.get_set]
    exact h
  | call m k => cases h

end Counting

end Effect
