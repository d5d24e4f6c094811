import Nipxi.Effect.Journal

/-!
# Watching a program through an automaton

An observer reads the trace of a program, oldest entry first, and keeps a view of it: its state. An
entry is allowed or not by the view of the entries before it; `Seen` says that all entries so far
were allowed. `Shows R v x Q E` says of a program started on the view `v` what the view is when it
returns, and what holds when it raises. The rules push a view through a program text, so that a law
of whole traces is proved call by call. Where a program has variables that the trace does not show,
the view carries them too (`SeenWith`).
-/

namespace Effect

universe u

variable {ε σ α β κ V : Type u}

/-- An automaton over traces. -/
structure Observer (κ V : Type u) where
  /-- The view of the empty trace. -/
  start : V
  /-- The view after an entry. -/
  step : V → κ → V
  /-- Which entries a view allows. -/
  allows : V → κ → Prop

namespace Observer

variable (O : Observer κ V)

/-- The view of a trace, given newest entry first. -/
def view : List κ → V
  | [] => O.start
  | c :: older => O.step (view older) c

/-- Every entry was allowed by the view of those before it. -/
def Accepts (l : List κ) : Prop := AtEach (fun c older ↦ O.allows (O.view older) c) l

/-- Entries every view allows may follow anything. -/
theorem accepts_append {new old : List κ} (hold : O.Accepts old)
    (hnew : ∀ c ∈ new, ∀ v, O.allows v c) : O.Accepts (new ++ old) :=
  AtEach.append hold fun c hc _ ↦ hnew c hc _

theorem view_append_of_keeps {P : V → Prop} {new old : List κ} (hold : P (O.view old))
    (hnew : ∀ c ∈ new, ∀ v, P v → P (O.step v c)) : P (O.view (new ++ old)) := by
  induction new with
  | nil => exact hold
  | cons c new ih =>
    exact hnew c List.mem_cons_self _ (ih fun d hd ↦ hnew d (List.mem_cons_of_mem c hd))

end Observer

/-- All entries so far were allowed, and this is the view of them. -/
def Seen (O : Observer κ V) (trace : σ → List κ) (v : V) (s : σ) : Prop :=
  O.Accepts (trace s) ∧ O.view (trace s) = v

/-- The same, beside a part of the state. -/
def SeenWith {τ : Type u} (O : Observer κ V) (trace : σ → List κ) (part : σ → τ) (p : V × τ)
    (s : σ) : Prop :=
  Seen O trace p.1 s ∧ part s = p.2

theorem Seen.cons {O : Observer κ V} {trace : σ → List κ} {v : V} {s t : σ} {c : κ}
    (hs : Seen O trace v s) (ht : trace t = c :: trace s) (hc : O.allows v c) :
    Seen O trace (O.step v c) t := by
  obtain ⟨haccepts, hview⟩ := hs
  unfold Seen
  rw [ht, Observer.view, hview]
  refine ⟨⟨?_, haccepts⟩, rfl⟩
  change O.allows (O.view (trace s)) c
  rwa [hview]

/-- The state has some view with `D`. -/
def Views (R : V → σ → Prop) (D : V → Prop) (s : σ) : Prop := ∃ v, R v s ∧ D v

/-- Started on the view `v`, `x` ends in a view with `Q` of its result, or it raises in a state with
`E`. Where the views are those of an observer, `x` adds allowed entries only. -/
def Shows (R : V → σ → Prop) (v : V) (x : Prog ε σ α) (Q : α → V → Prop) (E : σ → Prop) : Prop :=
  ∀ s, R v s → Post x (fun a t ↦ Views R (Q a) t) (fun _ t ↦ E t) s

namespace Shows

variable {R : V → σ → Prop} {v : V} {Q Q' : α → V → Prop} {E E' : σ → Prop}

theorem pure {a : α} (h : Q a v) : Shows R v (Pure.pure a : Prog ε σ α) Q E := fun _ hs ↦
  ⟨v, hs, h⟩

theorem raise {e : ε} (h : ∀ s, R v s → E s) : Shows R v (Prog.raise e : Prog ε σ α) Q E := h

theorem mono {x : Prog ε σ α} (hx : Shows R v x Q E) (hQ : ∀ a w, Q a w → Q' a w)
    (hE : ∀ s, E s → E' s) : Shows R v x Q' E' := by
  intro s hs
  refine (hx s hs).mono (fun a t ht ↦ ?_) fun _ t ht ↦ hE t ht
  obtain ⟨w, hw, h⟩ := ht
  exact ⟨w, hw, hQ a w h⟩

theorem bind {x : Prog ε σ α} {f : α → Prog ε σ β} {Q' : β → V → Prop}
    (hx : Shows R v x Q E) (hf : ∀ a w, Q a w → Shows R w (f a) Q' E) :
    Shows R v (x >>= f) Q' E := by
  intro s hs
  refine (post_bind f).mpr ((hx s hs).mono (fun a t ht ↦ ?_) fun _ _ h ↦ h)
  obtain ⟨w, hw, ha⟩ := ht
  exact hf a w ha t hw

/-- Looking at how a part ended. -/
theorem attempt_bind {x : Prog ε σ α} {f : Except ε α → Prog ε σ β} {Q' : β → V → Prop}
    {D : V → Prop} (hx : Shows R v x Q (Views R D))
    (hok : ∀ a w, Q a w → Shows R w (f (.ok a)) Q' E)
    (herror : ∀ e w, D w → Shows R w (f (.error e)) Q' E) :
    Shows R v (x.attempt >>= f) Q' E := by
  intro s hs
  refine (post_bind f).mpr (post_attempt.mpr ((hx s hs).mono (fun a t ht ↦ ?_) fun e t ht ↦ ?_))
  · obtain ⟨w, hw, ha⟩ := ht
    exact hok a w ha t hw
  · obtain ⟨w, hw, hd⟩ := ht
    exact herror e w hd t hw

/-- A handler sees the view in which the part raised. -/
theorem handle {x : Prog ε σ α} {h : ε → Prog ε σ α} {D : V → Prop}
    (hx : Shows R v x Q (Views R D)) (hh : ∀ e w, D w → Shows R w (h e) Q E) :
    Shows R v (x.handle h) Q E := by
  intro s hs
  refine (post_handle h).mpr ((hx s hs).mono (fun _ _ ht ↦ ht) fun e t ht ↦ ?_)
  obtain ⟨w, hw, hd⟩ := ht
  exact hh e w hd t hw

/-- What is done at the end sees the view of a return or of an exception. -/
theorem ensuring {x : Prog ε σ α} {fin : Prog ε σ PUnit} {D D' : V → Prop}
    (hx : Shows R v x Q (Views R D)) (hok : ∀ a w, Q a w → Shows R w fin (fun _ w' ↦ Q' a w') E)
    (herror : ∀ w, D w → Shows R w fin (fun _ w' ↦ D' w') E) (hE : ∀ s, Views R D' s → E s) :
    Shows R v (x.ensuring fin) Q' E := by
  intro s hs
  refine (post_ensuring fin).mpr ((hx s hs).mono (fun a t ht ↦ ?_) fun _ t ht ↦ ?_)
  · obtain ⟨w, hw, ha⟩ := ht
    exact hok a w ha t hw
  · obtain ⟨w, hw, hd⟩ := ht
    exact (herror w hd t hw).mono (fun _ u hu ↦ hE u hu) fun _ _ h ↦ h

theorem ite {c : Prop} [Decidable c] {x y : Prog ε σ α} (hx : c → Shows R v x Q E)
    (hy : ¬c → Shows R v y Q E) : Shows R v (if c then x else y) Q E := by
  split
  · exact hx ‹_›
  · exact hy ‹_›

/-- One call: it must be allowed however it ends. -/
theorem entry {O : Observer κ V} {trace : σ → List κ} {x : Prog ε σ α} {ok : α → κ} {error : ε → κ}
    (hx : ∀ s, Post x (fun a t ↦ trace t = ok a :: trace s) (fun e t ↦ trace t = error e :: trace s)
      s)
    (hok : ∀ a, O.allows v (ok a)) (herror : ∀ e, O.allows v (error e))
    (hE : ∀ e s, Seen O trace (O.step v (error e)) s → E s) :
    Shows (Seen O trace) v x (fun a w ↦ w = O.step v (ok a)) E := by
  intro s hs
  exact (hx s).mono (fun a _ ht ↦ ⟨_, hs.cons ht (hok a), rfl⟩)
    fun e t ht ↦ hE e t (hs.cons ht (herror e))

/-- One call, which leaves the part of the state beside the view as it is. -/
theorem entryWith {τ : Type u} {O : Observer κ V} {trace : σ → List κ} {part : σ → τ} {l : τ}
    {x : Prog ε σ α} {ok : α → κ} {error : ε → κ}
    (hx : ∀ s, Post x (fun a t ↦ trace t = ok a :: trace s ∧ part t = part s)
      (fun e t ↦ trace t = error e :: trace s ∧ part t = part s) s)
    (hok : ∀ a, O.allows v (ok a)) (herror : ∀ e, O.allows v (error e))
    (hE : ∀ e s, SeenWith O trace part (O.step v (error e), l) s → E s) :
    Shows (SeenWith O trace part) (v, l) x (fun a p ↦ p = (O.step v (ok a), l)) E := by
  rintro s ⟨hs, rfl⟩
  exact (hx s).mono (fun a _ ht ↦ ⟨_, ⟨hs.cons ht.1 (hok a), ht.2⟩, rfl⟩)
    fun e t ht ↦ hE e t ⟨hs.cons ht.1 (herror e), ht.2⟩

/-- What precedes and leaves the view as it is. -/
theorem andThen {x : Prog ε σ α} {f : α → Prog ε σ β} {Q' : β → V → Prop}
    (hx : Shows R v x (fun _ w ↦ w = v) E) (hf : ∀ a, Shows R v (f a) Q' E) :
    Shows R v (x >>= f) Q' E :=
  hx.bind fun a w hw ↦ by
    rw [hw]
    exact hf a

end Shows

end Effect
