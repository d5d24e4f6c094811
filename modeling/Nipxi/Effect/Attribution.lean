import Nipxi.Effect.Prog

/-!
# Exceptions and the calls that raised them

A program over states with a trace, newest entry first. Some entries are faults: a call ended in
an exception that nothing around it catches. `Attributed trace K Fault x` says that every entry
`x` adds satisfies `K`, and that `x` raises exactly if one of them is a fault. It composes along
the text of a program, so that a program of many calls is read off its calls, and a call that is
guarded against composes as soon as it adds no fault (`Quiet`).

`Tells trace P E x` is the general form: what `x` adds to the trace has `P` of its result, or `E`
of its exception. In its rules what a part has added stands to the right of what follows it.
-/

namespace Effect

universe u

variable {ε σ α β κ : Type u} (trace : σ → List κ) (K Fault : κ → Prop)

/-- From the first state to the second, entries with `P` were added. -/
def Added (P : List κ → Prop) (s t : σ) : Prop := ∃ new, trace t = new ++ trace s ∧ P new

/-- Only entries with `K` that are no faults. -/
def Faultless (new : List κ) : Prop := ∀ c ∈ new, K c ∧ ¬Fault c

/-- Only entries with `K`, and a fault among them. -/
def Faulty (new : List κ) : Prop := (∀ c ∈ new, K c) ∧ ∃ c ∈ new, Fault c

/-- `x` adds entries with `K`, and raises exactly if it adds a fault. -/
def Attributed (x : Prog ε σ α) : Prop := ∀ s,
  Post x (fun _ t ↦ Added trace (Faultless K Fault) s t)
    (fun _ t ↦ Added trace (Faulty K Fault) s t) s

/-- However `x` ends, it adds entries with `K` that are no faults. -/
def Quiet (x : Prog ε σ α) : Prop := Within (Added trace (Faultless K Fault)) x

variable {trace K Fault}

theorem Added.mono {P Q : List κ → Prop} {s t : σ} (h : Added trace P s t)
    (hPQ : ∀ new, P new → Q new) : Added trace Q s t := by
  obtain ⟨new, heq, hnew⟩ := h
  exact ⟨new, heq, hPQ new hnew⟩

theorem Added.and {P Q : List κ → Prop} {s t : σ} (h : Added trace P s t)
    (h' : Added trace Q s t) : Added trace (fun new ↦ P new ∧ Q new) s t := by
  obtain ⟨new, hnew, hP⟩ := h
  obtain ⟨new', hnew', hQ⟩ := h'
  obtain rfl := List.append_cancel_right (hnew.symm.trans hnew')
  exact ⟨new, hnew, hP, hQ⟩

/-- What was added in two parts. -/
theorem Added.append {P Q R : List κ → Prop} {s t u : σ} (h : Added trace P s t)
    (h' : Added trace Q t u) (hPQ : ∀ old new, P old → Q new → R (new ++ old)) :
    Added trace R s u := by
  obtain ⟨old, hold, hP⟩ := h
  obtain ⟨new, hnew, hQ⟩ := h'
  exact ⟨new ++ old, by rw [hnew, hold, List.append_assoc], hPQ old new hP hQ⟩

theorem Faultless.append {new old : List κ} (hnew : Faultless K Fault new)
    (hold : Faultless K Fault old) : Faultless K Fault (new ++ old) := by
  intro c hc
  exact (List.mem_append.mp hc).elim (hnew c) (hold c)

/-- A fault after a part without one. -/
theorem Faulty.after {new old : List κ} (hnew : Faulty K Fault new)
    (hold : Faultless K Fault old) : Faulty K Fault (new ++ old) := by
  obtain ⟨hall, c, hc, hfault⟩ := hnew
  refine ⟨fun d hd ↦ ?_, c, List.mem_append_left old hc, hfault⟩
  exact (List.mem_append.mp hd).elim (hall d) fun hd ↦ (hold d hd).1

/-- A fault before a part with any entries of the kind. -/
theorem Faulty.before {new old : List κ} (hold : Faulty K Fault old)
    (hnew : ∀ c ∈ new, K c) : Faulty K Fault (new ++ old) := by
  obtain ⟨hall, c, hc, hfault⟩ := hold
  refine ⟨fun d hd ↦ ?_, c, List.mem_append_right new hc, hfault⟩
  exact (List.mem_append.mp hd).elim (hnew d) (hall d)

theorem faultless_nil : Faultless K Fault [] := nofun

theorem faultless_singleton {c : κ} (h : K c ∧ ¬Fault c) : Faultless K Fault [c] :=
  List.forall_mem_singleton.mpr h

instance : IsPreorder σ (Added trace (Faultless K Fault)) where
  refl _ := ⟨[], rfl, faultless_nil⟩
  trans _ _ _ h h' := h.append h' fun _ _ hold hnew ↦ hnew.append hold

/-! ## Attribution along a program -/

theorem Attributed.pure (a : α) : Attributed trace K Fault (Pure.pure a : Prog ε σ α) := fun _ ↦
  (post_pure a).mpr ⟨[], rfl, faultless_nil⟩

/-- After a part without a fault, what follows decides. -/
theorem Attributed.after {x : Prog ε σ α} (hx : Attributed trace K Fault x) {s t : σ}
    (h : Added trace (Faultless K Fault) s t) :
    Post x (fun _ u ↦ Added trace (Faultless K Fault) s u)
      (fun _ u ↦ Added trace (Faulty K Fault) s u) t :=
  (hx t).mono (fun _ _ h' ↦ h.append h' fun _ _ hold hnew ↦ hnew.append hold)
    fun _ _ h' ↦ h.append h' fun _ _ hold hnew ↦ hnew.after hold

theorem Attributed.bind {x : Prog ε σ α} {f : α → Prog ε σ β} (hx : Attributed trace K Fault x)
    (hf : ∀ a, Attributed trace K Fault (f a)) : Attributed trace K Fault (x >>= f) := fun s ↦
  (post_bind f).mpr ((hx s).mono (fun a _ h ↦ (hf a).after h) fun _ _ h ↦ h)

/-- `finally` with an attributed finalizer: a fault of either part makes the whole raise. -/
theorem Attributed.ensuring {x : Prog ε σ α} {fin : Prog ε σ PUnit}
    (hx : Attributed trace K Fault x) (hfin : Attributed trace K Fault fin) :
    Attributed trace K Fault (x.ensuring fin) := by
  intro s
  rw [post_ensuring]
  refine (hx s).mono (fun _ _ h ↦ hfin.after h) fun _ t h ↦ ?_
  refine (hfin t).mono (fun _ _ h' ↦ ?_) fun _ _ h' ↦ ?_
  · exact h.append h' fun _ _ hold hnew ↦ hold.before fun c hc ↦ (hnew c hc).1
  · exact h.append h' fun _ _ hold hnew ↦ hold.before hnew.1

theorem Attributed.ite {c : Prop} [Decidable c] {x y : Prog ε σ α}
    (hx : Attributed trace K Fault x) (hy : Attributed trace K Fault y) :
    Attributed trace K Fault (if c then x else y) := by
  split
  · exact hx
  · exact hy

theorem Quiet.handle {x : Prog ε σ α} {h : ε → Prog ε σ α} (hx : Quiet trace K Fault x)
    (hh : ∀ e, Attributed trace K Fault (h e)) : Attributed trace K Fault (x.handle h) := fun s ↦
  (post_handle h).mpr ((hx s).mono (fun _ _ h' ↦ h') fun e _ h' ↦ (hh e).after h')

/-- Looking at how a part ended that adds no fault. -/
theorem Quiet.attempt {x : Prog ε σ α} (hx : Quiet trace K Fault x) :
    Attributed trace K Fault x.attempt := fun s ↦
  post_attempt.mpr ((hx s).mono (fun _ _ h ↦ h) fun _ _ h ↦ h)

/-! ## Programs that never raise -/

variable (trace K Fault) in
/-- `x` never raises, and adds entries with `K` that are no faults. -/
def Silent (x : Prog ε σ α) : Prop := ∀ s,
  Post x (fun _ t ↦ Added trace (Faultless K Fault) s t) (fun _ _ ↦ False) s

theorem Silent.attributed {x : Prog ε σ α} (hx : Silent trace K Fault x) :
    Attributed trace K Fault x := fun s ↦ (hx s).mono (fun _ _ h ↦ h) fun _ _ h ↦ h.elim

theorem Silent.pure (a : α) : Silent trace K Fault (Pure.pure a : Prog ε σ α) := fun _ ↦
  (post_pure a).mpr ⟨[], rfl, faultless_nil⟩

theorem Silent.bind {x : Prog ε σ α} {f : α → Prog ε σ β} (hx : Silent trace K Fault x)
    (hf : ∀ a, Silent trace K Fault (f a)) : Silent trace K Fault (x >>= f) := fun s ↦
  (post_bind f).mpr ((hx s).mono (fun a t h ↦ (hf a t).mono
    (fun _ _ h' ↦ h.append h' fun _ _ hold hnew ↦ hnew.append hold) fun _ _ h' ↦ h') fun _ _ h ↦ h)

/-- Whatever is raised is caught. -/
theorem Quiet.silenced {x : Prog ε σ α} {h : ε → Prog ε σ α} (hx : Quiet trace K Fault x)
    (hh : ∀ e, Silent trace K Fault (h e)) : Silent trace K Fault (x.handle h) := fun s ↦
  (post_handle h).mpr ((hx s).mono (fun _ _ h' ↦ h') fun e t h' ↦ (hh e t).mono
    (fun _ _ h'' ↦ h'.append h'' fun _ _ hold hnew ↦ hnew.append hold) fun _ _ h'' ↦ h'')

/-! ## What a program adds -/

variable (trace) in
/-- What `x` adds has `P` of its result if it returns, and `E` of its exception if it raises. -/
def Tells (P : α → List κ → Prop) (E : ε → List κ → Prop) (x : Prog ε σ α) : Prop := ∀ s,
  Post x (fun a t ↦ Added trace (P a) s t) (fun e t ↦ Added trace (E e) s t) s

namespace Tells

variable {x : Prog ε σ α} {P P' : α → List κ → Prop} {E E' : ε → List κ → Prop}

theorem mono (hx : Tells trace P E x) (hP : ∀ a new, P a new → P' a new)
    (hE : ∀ e new, E e new → E' e new) : Tells trace P' E' x := fun s ↦
  (hx s).mono (fun a _ h ↦ h.mono (hP a)) fun e _ h ↦ h.mono (hE e)

theorem pure {a : α} (h : P a []) : Tells trace P E (Pure.pure a : Prog ε σ α) := fun _ ↦
  ⟨[], rfl, h⟩

theorem raise {e : ε} (h : E e []) : Tells trace P E (Prog.raise e : Prog ε σ α) := fun _ ↦
  ⟨[], rfl, h⟩

theorem after (hx : Tells trace (fun a new ↦ P a (new ++ old)) (fun e new ↦ E e (new ++ old)) x)
    {s t : σ} (h : trace t = old ++ trace s) :
    Post x (fun a u ↦ Added trace (P a) s u) (fun e u ↦ Added trace (E e) s u) t := by
  have hold : Added trace (fun new ↦ new = old) s t := ⟨old, h, rfl⟩
  refine (hx t).mono (fun a _ hnew ↦ ?_) fun e _ hnew ↦ ?_
  · exact hold.append hnew fun _ _ heq hP ↦ by rwa [heq]
  · exact hold.append hnew fun _ _ heq hE ↦ by rwa [heq]

theorem bind {R : β → List κ → Prop} {f : α → Prog ε σ β} (hx : Tells trace P E x)
    (hf : ∀ a old, P a old →
      Tells trace (fun b new ↦ R b (new ++ old)) (fun e new ↦ E' e (new ++ old)) (f a))
    (hE : ∀ e new, E e new → E' e new) : Tells trace R E' (x >>= f) := by
  intro s
  refine (post_bind f).mpr ((hx s).mono (fun a t h ↦ ?_) fun e _ h ↦ h.mono (hE e))
  obtain ⟨old, hold, hP⟩ := h
  exact (hf a old hP).after hold

/-- `finally`: the finalizer follows either end. -/
theorem ensuring {fin : Prog ε σ PUnit} (hx : Tells trace P E x)
    (hreturn : ∀ a old, P a old →
      Tells trace (fun _ new ↦ P' a (new ++ old)) (fun e new ↦ E' e (new ++ old)) fin)
    (hraise : ∀ e old, E e old →
      Tells trace (fun _ new ↦ E' e (new ++ old)) (fun e' new ↦ E' e' (new ++ old)) fin) :
    Tells trace P' E' (x.ensuring fin) := by
  intro s
  refine (post_ensuring fin).mpr ((hx s).mono (fun a t h ↦ ?_) fun e t h ↦ ?_)
  · obtain ⟨old, hold, hP⟩ := h
    exact (hreturn a old hP).after hold
  · obtain ⟨old, hold, hE⟩ := h
    exact (hraise e old hE).after (P := fun _ new ↦ E' e new) hold

/-- Looking at how a part ended. -/
theorem attempt_bind {R : β → List κ → Prop} {f : Except ε α → Prog ε σ β}
    (hx : Tells trace P E x)
    (hok : ∀ a old, P a old →
      Tells trace (fun b new ↦ R b (new ++ old)) (fun e new ↦ E' e (new ++ old)) (f (.ok a)))
    (herror : ∀ e old, E e old →
      Tells trace (fun b new ↦ R b (new ++ old)) (fun e' new ↦ E' e' (new ++ old)) (f (.error e))) :
    Tells trace R E' (x.attempt >>= f) := by
  intro s
  refine (post_bind f).mpr (post_attempt.mpr ((hx s).mono (fun a t h ↦ ?_) fun e t h ↦ ?_))
  · obtain ⟨old, hold, hP⟩ := h
    exact (hok a old hP).after hold
  · obtain ⟨old, hold, hE⟩ := h
    exact (herror e old hE).after hold

theorem ite {c : Prop} [Decidable c] {y : Prog ε σ α} (hx : c → Tells trace P E x)
    (hy : ¬c → Tells trace P E y) : Tells trace P E (if c then x else y) := by
  split
  · exact hx ‹_›
  · exact hy ‹_›

end Tells

end Effect
