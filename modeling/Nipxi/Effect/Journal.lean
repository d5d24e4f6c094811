import Nipxi.Effect.Attribution

/-!
# Programs whose calls are recorded

A program over a world it calls, and the calls it made so far, newest first. The body of a loop over
a list runs once for each element. Where the calls that may end a program are known, its trace says
how it ended: `Halts trace K Fault x` says that no fault is added by a run of `x` that returns, and
that a run that raises adds exactly one, as its newest entry.
-/

namespace Effect

universe u

/-- A world, and the calls made so far, newest first. -/
structure Journal (X κ : Type u) where
  world : X
  entries : List κ

variable {ε σ α β X κ : Type u}

namespace Journal

/-- A call with a result, or an exception. -/
def ask (f : X → Except ε α × X) (entry : Except ε α → κ) : Prog ε (Journal X κ) α := fun s ↦
  let s' : Journal X κ := ⟨(f s.world).2, entry (f s.world).1 :: s.entries⟩
  match (f s.world).1 with
  | .ok a => .ok a s'
  | .error e => .error e s'

/-- A call without a result that may raise. -/
def call (f : X → Option ε × X) (entry : Option ε → κ) : Prog ε (Journal X κ) PUnit := fun s ↦
  let s' : Journal X κ := ⟨(f s.world).2, entry (f s.world).1 :: s.entries⟩
  match (f s.world).1 with
  | none => .ok ⟨⟩ s'
  | some e => .error e s'

theorem post_ask (f : X → Except ε α × X) (entry : Except ε α → κ) (s : Journal X κ) :
    Post (ask f entry) (fun a t ↦ t.entries = entry (.ok a) :: s.entries)
      (fun e t ↦ t.entries = entry (.error e) :: s.entries) s := by
  unfold Post ask
  cases h : (f s.world).1 with
  | ok a => rfl
  | error e => rfl

theorem post_call (f : X → Option ε × X) (entry : Option ε → κ) (s : Journal X κ) :
    Post (call f entry) (fun _ t ↦ t.entries = entry none :: s.entries)
      (fun e t ↦ t.entries = entry (some e) :: s.entries) s := by
  unfold Post call
  cases h : (f s.world).1 with
  | none => rfl
  | some e => rfl

end Journal

/-! ## Loops over a list -/

/-- `for a in l: body a`. -/
def Prog.forEach (body : β → Prog ε σ PUnit) : List β → Prog ε σ PUnit
  | [] => pure ⟨⟩
  | a :: l => do
    body a
    forEach body l

/-- An invariant each round keeps is one of the loop. -/
theorem post_forEach {body : β → Prog ε σ PUnit} {I : σ → Prop} {E : ε → σ → Prop}
    (hbody : ∀ a s, I s → Post (body a) (fun _ t ↦ I t) E s) (l : List β) {s : σ} (hs : I s) :
    Post (Prog.forEach body l) (fun _ t ↦ I t) E s := by
  induction l generalizing s with
  | nil => exact hs
  | cons a l ih => exact (hbody a s hs).bind fun _ t ht ↦ ih ht

/-! ## Each entry and what is older -/

/-- `P` holds of each entry and the entries before it. -/
def AtEach (P : κ → List κ → Prop) : List κ → Prop
  | [] => True
  | c :: older => P c older ∧ AtEach P older

theorem AtEach.of_append {P : κ → List κ → Prop} {new old : List κ} (h : AtEach P (new ++ old)) :
    AtEach P old := by
  induction new with
  | nil => exact h
  | cons c new ih => exact ih h.2

/-- Entries with `P` after any others. -/
theorem AtEach.append {P : κ → List κ → Prop} {new old : List κ} (hold : AtEach P old)
    (hnew : ∀ c ∈ new, ∀ older, P c older) : AtEach P (new ++ old) := by
  induction new with
  | nil => exact hold
  | cons c new ih =>
    exact ⟨hnew c List.mem_cons_self _, ih fun d hd ↦ hnew d (List.mem_cons_of_mem c hd)⟩

/-! ## The entry that ended a run -/

section Halts

variable (trace : σ → List κ) (K Fault : κ → Prop)

/-- The newest entry is a fault, and the only one. -/
def HaltedBy (new : List κ) : Prop :=
  ∃ c old, new = c :: old ∧ K c ∧ Fault c ∧ Faultless K Fault old

/-- `x` adds entries with `K`, and no fault but the one it ends with, if it raises. -/
def Halts (x : Prog ε σ α) : Prop := ∀ s,
  Post x (fun _ t ↦ Added trace (Faultless K Fault) s t)
    (fun _ t ↦ Added trace (HaltedBy K Fault) s t) s

variable {trace K Fault}

theorem HaltedBy.append {new old : List κ} (hnew : HaltedBy K Fault new)
    (hold : Faultless K Fault old) : HaltedBy K Fault (new ++ old) := by
  obtain ⟨c, older, rfl, hK, hfault, holder⟩ := hnew
  exact ⟨c, older ++ old, rfl, hK, hfault, holder.append hold⟩

theorem Halts.pure (a : α) : Halts trace K Fault (Pure.pure a : Prog ε σ α) := fun _ ↦
  (post_pure a).mpr ⟨[], rfl, faultless_nil⟩

theorem Halts.bind {x : Prog ε σ α} {f : α → Prog ε σ β} (hx : Halts trace K Fault x)
    (hf : ∀ a, Halts trace K Fault (f a)) : Halts trace K Fault (x >>= f) := fun s ↦
  (hx s).bind fun a t ht ↦ (hf a t).mono
    (fun _ _ hu ↦ ht.append hu fun _ _ hold hnew ↦ hnew.append hold)
    fun _ _ hu ↦ ht.append hu fun _ _ hold hnew ↦ hnew.append hold

theorem Halts.ite {c : Prop} [Decidable c] {x y : Prog ε σ α} (hx : Halts trace K Fault x)
    (hy : Halts trace K Fault y) : Halts trace K Fault (if c then x else y) := by
  split
  · exact hx
  · exact hy

/-- A handler that ends as it may, around a body without faults. -/
theorem Halts.handle {x : Prog ε σ α} {h : ε → Prog ε σ α} (hx : Quiet trace K Fault x)
    (hh : ∀ e, Halts trace K Fault (h e)) : Halts trace K Fault (x.handle h) := fun s ↦
  (post_handle h).mpr ((hx s).mono (fun _ _ ht ↦ ht) fun e t ht ↦ (hh e t).mono
    (fun _ _ hu ↦ ht.append hu fun _ _ hold hnew ↦ hnew.append hold)
    fun _ _ hu ↦ ht.append hu fun _ _ hold hnew ↦ hnew.append hold)

theorem Halts.forEach {body : β → Prog ε σ PUnit} (h : ∀ a, Halts trace K Fault (body a))
    (l : List β) : Halts trace K Fault (Prog.forEach body l) := by
  induction l with
  | nil => exact .pure _
  | cons a l ih => exact .bind (h a) fun _ ↦ ih

end Halts

section Calls

variable {K Fault : κ → Prop} {f : X → Option ε × X} {entry : Option ε → κ}

theorem Halts.call (hnone : K (entry none) ∧ ¬Fault (entry none))
    (hsome : ∀ e, K (entry (some e)) ∧ Fault (entry (some e))) :
    Halts Journal.entries K Fault (Journal.call f entry) := fun s ↦
  (Journal.post_call f entry s).mono
    (fun _ _ ht ↦ ⟨[_], ht, faultless_singleton hnone⟩)
    fun e _ ht ↦ ⟨[_], ht, _, [], rfl, (hsome e).1, (hsome e).2, faultless_nil⟩

theorem Halts.ask {f : X → Except ε α × X} {entry : Except ε α → κ}
    (hok : ∀ a, K (entry (.ok a)) ∧ ¬Fault (entry (.ok a)))
    (herror : ∀ e, K (entry (.error e)) ∧ Fault (entry (.error e))) :
    Halts Journal.entries K Fault (Journal.ask f entry) := fun s ↦
  (Journal.post_ask f entry s).mono
    (fun a _ ht ↦ ⟨[_], ht, faultless_singleton (hok a)⟩)
    fun e _ ht ↦ ⟨[_], ht, _, [], rfl, (herror e).1, (herror e).2, faultless_nil⟩

theorem Quiet.call (h : ∀ raised, K (entry raised) ∧ ¬Fault (entry raised)) :
    Quiet Journal.entries K Fault (Journal.call f entry) := fun s ↦
  (Journal.post_call f entry s).mono
    (fun _ _ ht ↦ ⟨[_], ht, faultless_singleton (h none)⟩)
    fun e _ ht ↦ ⟨[_], ht, faultless_singleton (h (some e))⟩

theorem Quiet.ask {f : X → Except ε α × X} {entry : Except ε α → κ}
    (h : ∀ result, K (entry result) ∧ ¬Fault (entry result)) :
    Quiet Journal.entries K Fault (Journal.ask f entry) := fun s ↦
  (Journal.post_ask f entry s).mono
    (fun a _ ht ↦ ⟨[_], ht, faultless_singleton (h (.ok a))⟩)
    fun e _ ht ↦ ⟨[_], ht, faultless_singleton (h (.error e))⟩

end Calls

end Effect
