import Nipxi.Effect.Journal
import Nipxi.Effect.Laws
import Nipxi.TestControl.GroupShutdown

/-!
# No two batteries of a group

A battery counts as connected from the moment its relay is asked to close until it is asked to open,
alone or with all relays, whether or not the relay obeys. Each part of a position releases what it
closes: the pre-check asks for the relay to be opened before it reads a sensor, a phase that returns
has opened its relay, and where a phase raises, the guard asks for all relays to be opened. The
guard does not come to that where a row of the failure cannot be written, but then the loop stops,
unless it takes the exception of the row for a fault of the battery. Apart from such a row, no relay
is asked to close before every other was asked to open: `closesApart_runGroupAllPositions`.
-/

open Collections Effect

namespace Nipxi

/-! ## The relay that was asked to close -/

/-- The relay that was asked to close, and not to open since, after an entry. -/
def StationCall.closeAsked (relay : Option ℕ) : StationCall → Option ℕ
  | .call (.relayClose address) _ => some address
  | .call (.relayOpen address) _ => if relay = some address then none else relay
  | .call .relayOpenAll _ => none
  | _ => relay

/-- The relay that was asked to close, and not to open since. -/
def askedToClose : List StationCall → Option ℕ
  | [] => none
  | c :: older => c.closeAsked (askedToClose older)

/-- An entry that enables the output. -/
def StationCall.isOutputEnable : StationCall → Bool
  | .call .outputEnable _ => true
  | _ => false

/-- An entry that neither asks a relay to close nor enables the output. -/
def StationCall.IsPassive (c : StationCall) : Prop :=
  c.isRelayClose = false ∧ c.isOutputEnable = false

/-- A row of a failure could not be written, for what the loop takes for a fault of the battery. -/
def RowLost (l : List StationCall) : Prop := ∃ c ∈ l, c.Misleads

/-- A relay is asked to close only where no other is asked to, or a row was lost before. -/
def ClosesApart : List StationCall → Prop :=
  AtEach fun c older ↦ c.isRelayClose = true → askedToClose older = none ∨ RowLost older

/-- And none is at the end, under a condition. -/
structure ApartIf (P : Prop) (new : List StationCall) : Prop where
  closes : ClosesApart new
  released : P → askedToClose new = none ∨ RowLost new

/-- Nor is one without a condition. -/
abbrev KeptApart : List StationCall → Prop := ApartIf True

/-- No relay is asked to close. -/
abbrev Unclosed (new : List StationCall) : Prop :=
  Faultless (fun c ↦ c.isRelayClose = false) (fun _ ↦ False) new

section Entries

variable {P Q : Prop} {new old : List StationCall}

theorem ApartIf.mono (h : ApartIf P new) (hQ : Q → P) : ApartIf Q new :=
  ⟨h.closes, fun hq ↦ h.released (hQ hq)⟩

theorem RowLost.left (h : RowLost new) : RowLost (new ++ old) := by
  obtain ⟨c, hc, hmisleads⟩ := h
  exact ⟨c, List.mem_append_left old hc, hmisleads⟩

theorem RowLost.right (h : RowLost old) : RowLost (new ++ old) := by
  obtain ⟨c, hc, hmisleads⟩ := h
  exact ⟨c, List.mem_append_right new hc, hmisleads⟩

theorem askedToClose_append (h : askedToClose old = none) :
    askedToClose (new ++ old) = askedToClose new := by
  induction new with
  | nil => exact h
  | cons c rest ih => exact congrArg (fun relay ↦ c.closeAsked relay) ih

theorem ClosesApart.append (hnew : ClosesApart new) (hold : KeptApart old) :
    ClosesApart (new ++ old) := by
  induction new with
  | nil => exact hold.closes
  | cons c rest ih =>
    refine ⟨fun hclose ↦ ?_, ih hnew.2⟩
    change askedToClose (rest ++ old) = none ∨ RowLost (rest ++ old)
    rcases hold.released trivial with hnone | hlost
    · rw [askedToClose_append hnone]
      exact (hnew.1 hclose).imp_right RowLost.left
    · exact .inr hlost.right

theorem ApartIf.append (hnew : ApartIf P new) (hold : KeptApart old) : ApartIf P (new ++ old) where
  closes := hnew.closes.append hold
  released hp := by
    rcases hold.released trivial with hnone | hlost
    · rw [askedToClose_append hnone]
      exact (hnew.released hp).imp_right RowLost.left
    · exact .inr hlost.right

theorem StationCall.closeAsked_of_unclosed {c : StationCall} {relay : Option ℕ}
    (hc : c.isRelayClose = false) : c.closeAsked relay = none ∨ c.closeAsked relay = relay := by
  cases c with
  | call op raised =>
    cases op with
    | relayClose address => cases hc
    | relayOpen address => exact ite_eq_or_eq _ _ _
    | relayOpenAll => exact .inl rfl
    | _ => exact .inr rfl
  | _ => exact .inr rfl

theorem Unclosed.askedToClose_append (h : Unclosed new) :
    askedToClose (new ++ old) = none ∨ askedToClose (new ++ old) = askedToClose old := by
  induction new with
  | nil => exact .inr rfl
  | cons c rest ih =>
    change c.closeAsked (askedToClose (rest ++ old)) = none ∨
      c.closeAsked (askedToClose (rest ++ old)) = askedToClose old
    have hc (relay : Option ℕ) : c.closeAsked relay = none ∨ c.closeAsked relay = relay :=
      StationCall.closeAsked_of_unclosed (h c List.mem_cons_self).1
    rcases hc (askedToClose (rest ++ old)) with hnone | hsame
    · exact .inl hnone
    · rw [hsame]
      exact ih fun d hd ↦ h d (List.mem_cons_of_mem c hd)

theorem Unclosed.closesApart_append (h : Unclosed new) (hold : ClosesApart old) :
    ClosesApart (new ++ old) := by
  refine AtEach.append hold fun c hc _ hclose ↦ ?_
  rw [(h c hc).1] at hclose
  cases hclose

theorem Unclosed.apartIf_append (h : Unclosed new) (hold : ApartIf P old) :
    ApartIf P (new ++ old) where
  closes := h.closesApart_append hold.closes
  released hp := by
    refine (hold.released hp).imp (fun hnone ↦ ?_) RowLost.right
    exact h.askedToClose_append.elim id fun hsame ↦ hsame.trans hnone

theorem Unclosed.keptApart (h : Unclosed new) : KeptApart new := by
  have hnil : KeptApart [] := ⟨trivial, fun _ ↦ .inl rfl⟩
  have happend := h.apartIf_append hnil
  rwa [List.append_nil] at happend

theorem Unclosed.askedToClose_of_openAll (h : Unclosed new)
    (hopen : ∃ raised, .call .relayOpenAll raised ∈ new) : askedToClose (new ++ old) = none := by
  obtain ⟨raised, hmem⟩ := hopen
  induction new with
  | nil => cases hmem
  | cons c rest ih =>
    rcases List.mem_cons.mp hmem with rfl | hmem
    · rfl
    · change c.closeAsked (askedToClose (rest ++ old)) = none
      rw [ih (fun d hd ↦ h d (List.mem_cons_of_mem c hd)) hmem]
      exact (StationCall.closeAsked_of_unclosed (h c List.mem_cons_self).1).elim id id

/-- Entries that release one relay. -/
structure Releases (address : ℕ) (new : List StationCall) : Prop where
  unclosed : Unclosed new
  released : ∀ old, askedToClose old = none ∨ askedToClose old = some address →
    askedToClose (new ++ old) = none

theorem Releases.after {address : ℕ} (hnew : Releases address new) (hold : Unclosed old) :
    Releases address (new ++ old) where
  unclosed := hnew.unclosed.append hold
  released older holder := by
    rw [List.append_assoc]
    refine hnew.released _ ?_
    have hbefore : askedToClose (old ++ older) = none ∨
        askedToClose (old ++ older) = askedToClose older :=
      hold.askedToClose_append
    rcases hbefore with hnone | hsame
    · exact .inl hnone
    · rwa [hsame]

theorem Releases.before {address : ℕ} (hold : Releases address old) (hnew : Unclosed new) :
    Releases address (new ++ old) where
  unclosed := hnew.append hold.unclosed
  released older holder := by
    rw [List.append_assoc]
    exact hnew.askedToClose_append.elim id fun hsame ↦ hsame.trans (hold.released older holder)

end Entries

/-! ## Programs -/

section Programs

variable {X α β : Type} {address : ℕ}

/-- `x` asks no relay to close, however it ends. -/
abbrev Unclosing (x : StationProg X α) : Prop :=
  Quiet StationSession.trace (fun c ↦ c.isRelayClose = false) (fun _ ↦ False) x

/-- Nor does it enable the output. -/
abbrev Passive (x : StationProg X α) : Prop :=
  Quiet StationSession.trace StationCall.IsPassive (fun _ ↦ False) x

theorem Passive.unclosing {x : StationProg X α} (hx : Passive x) : Unclosing x :=
  Within.mono hx fun _ _ h ↦ h.mono fun _ hnew c hc ↦ ⟨(hnew c hc).1.1, id⟩

/-- `x` asks no relay to close, and releases one if it returns. -/
def Frees (address : ℕ) (x : StationProg X α) : Prop := ∀ s,
  Post x (fun _ t ↦ Adds (Releases address) s t) (fun _ t ↦ Adds Unclosed s t) s

/-- `x` closes relays apart, and releases what it closed if it returns. -/
def Separates (x : StationProg X α) : Prop := ∀ s,
  Post x (fun _ t ↦ Adds KeptApart s t) (fun _ t ↦ Adds ClosesApart s t) s

/-- So it does where it raises a fault of the battery. -/
def FailsApart (x : StationProg X α) : Prop := ∀ s,
  Post x (fun _ t ↦ Adds KeptApart s t)
    (fun e t ↦ Adds (ApartIf (classifyPositionException e = .fail)) s t) s

theorem Unclosing.frees_bind {x : StationProg X α} {f : α → StationProg X β} (hx : Unclosing x)
    (hf : ∀ a, Frees address (f a)) : Frees address (x >>= f) := fun s ↦
  (post_bind f).mpr ((hx s).mono (fun a t ht ↦ (hf a t).mono
    (fun _ _ hu ↦ ht.append hu fun _ _ hold hnew ↦ hnew.after hold)
    fun _ _ hu ↦ ht.append hu fun _ _ hold hnew ↦ hnew.append hold) fun _ _ ht ↦ ht)

theorem Passive.frees_bind {x : StationProg X α} {f : α → StationProg X β} (hx : Passive x)
    (hf : ∀ a, Frees address (f a)) : Frees address (x >>= f) :=
  hx.unclosing.frees_bind hf

theorem Frees.bind_passive {x : StationProg X α} {f : α → StationProg X β}
    (hx : Frees address x) (hf : ∀ a, Passive (f a)) : Frees address (x >>= f) := fun s ↦
  (post_bind f).mpr ((hx s).mono (fun a t ht ↦ ((hf a).unclosing t).mono
    (fun _ _ hu ↦ ht.append hu fun _ _ hold hnew ↦ hold.before hnew)
    fun _ _ hu ↦ ht.append hu fun _ _ hold hnew ↦ hnew.append hold.unclosed) fun _ _ ht ↦ ht)

/-- What never returns has nothing to release. -/
theorem Unclosing.frees_of_not_returns {x : StationProg X α} (hx : Unclosing x)
    (hreturns : ∀ s, Post x (fun _ _ ↦ False) (fun _ _ ↦ True) s) : Frees address x := fun s ↦
  ((hx s).and (hreturns s)).mono (fun _ _ h ↦ h.2.elim) fun _ _ h ↦ h.1

theorem Frees.raise (e : Exc) : Frees address (Prog.raise e : StationProg X α) := fun _ ↦
  (post_raise e).mpr ⟨[], rfl, faultless_nil⟩

theorem Frees.ite {c : Prop} [Decidable c] {x y : StationProg X α} (hx : Frees address x)
    (hy : Frees address y) : Frees address (if c then x else y) := by
  split
  · exact hx
  · exact hy

/-- A `finally` after what releases. -/
theorem Frees.ensuring {x : StationProg X α} {fin : StationProg X PUnit} (hx : Frees address x)
    (hfin : Passive fin) : Frees address (x.ensuring fin) := fun s ↦
  (post_ensuring fin).mpr ((hx s).mono
    (fun _ t ht ↦ (hfin.unclosing t).mono
      (fun _ _ hu ↦ ht.append hu fun _ _ hold hnew ↦ hold.before hnew)
      fun _ _ hu ↦ ht.append hu fun _ _ hold hnew ↦ hnew.append hold.unclosed)
    fun _ t ht ↦ (hfin.unclosing t).mono
      (fun _ _ hu ↦ ht.append hu fun _ _ hold hnew ↦ hnew.append hold)
      fun _ _ hu ↦ ht.append hu fun _ _ hold hnew ↦ hnew.append hold)

/-- A `finally` that releases. -/
theorem Passive.frees_ensuring {x : StationProg X α} {fin : StationProg X PUnit}
    (hx : Passive x) (hfin : Frees address fin) : Frees address (x.ensuring fin) := fun s ↦
  (post_ensuring fin).mpr ((hx.unclosing s).mono
    (fun _ t ht ↦ (hfin t).mono
      (fun _ _ hu ↦ ht.append hu fun _ _ hold hnew ↦ hnew.after hold)
      fun _ _ hu ↦ ht.append hu fun _ _ hold hnew ↦ hnew.append hold)
    fun _ t ht ↦ (hfin t).mono
      (fun _ _ hu ↦ ht.append hu fun _ _ hold hnew ↦ hnew.unclosed.append hold)
      fun _ _ hu ↦ ht.append hu fun _ _ hold hnew ↦ hnew.append hold)

theorem Adds.apartIf {P : Prop} {s t u : StationSession X} (h : Adds KeptApart s t)
    (h' : Adds (ApartIf P) t u) : Adds (ApartIf P) s u :=
  h.append h' fun _ _ hold hnew ↦ hnew.append hold

theorem Adds.closesApart {s t u : StationSession X} (h : Adds KeptApart s t)
    (h' : Adds ClosesApart t u) : Adds ClosesApart s u :=
  h.append h' fun _ _ hold hnew ↦ hnew.append hold

theorem Unclosing.separates {x : StationProg X α} (hx : Unclosing x) : Separates x := fun s ↦
  (hx s).mono (fun _ _ h ↦ h.mono fun _ hnew ↦ Unclosed.keptApart hnew)
    fun _ _ h ↦ h.mono fun _ hnew ↦ (Unclosed.keptApart hnew).closes

theorem Unclosing.failsApart {x : StationProg X α} (hx : Unclosing x) : FailsApart x := fun s ↦
  (hx s).mono (fun _ _ h ↦ h.mono fun _ hnew ↦ Unclosed.keptApart hnew)
    fun _ _ h ↦ h.mono fun _ hnew ↦ (Unclosed.keptApart hnew).mono fun _ ↦ trivial

theorem Passive.separates {x : StationProg X α} (hx : Passive x) : Separates x :=
  hx.unclosing.separates

theorem Passive.failsApart {x : StationProg X α} (hx : Passive x) : FailsApart x :=
  hx.unclosing.failsApart

theorem FailsApart.separates {x : StationProg X α} (hx : FailsApart x) : Separates x := fun s ↦
  (hx s).mono (fun _ _ h ↦ h) fun _ _ h ↦ h.mono fun _ hnew ↦ hnew.closes

theorem Separates.pure (a : α) : Separates (Pure.pure a : StationProg X α) := fun _ ↦
  ⟨[], rfl, trivial, fun _ ↦ .inl rfl⟩

theorem Separates.bind {x : StationProg X α} {f : α → StationProg X β} (hx : Separates x)
    (hf : ∀ a, Separates (f a)) : Separates (x >>= f) := fun s ↦
  (post_bind f).mpr ((hx s).mono (fun a t ht ↦ (hf a t).mono (fun _ _ hu ↦ ht.apartIf hu)
    fun _ _ hu ↦ ht.closesApart hu) fun _ _ ht ↦ ht)

theorem FailsApart.bind {x : StationProg X α} {f : α → StationProg X β} (hx : FailsApart x)
    (hf : ∀ a, FailsApart (f a)) : FailsApart (x >>= f) := fun s ↦
  (post_bind f).mpr ((hx s).mono (fun a t ht ↦ (hf a t).mono (fun _ _ hu ↦ ht.apartIf hu)
    fun _ _ hu ↦ ht.apartIf hu) fun _ _ ht ↦ ht)

/-- What follows without closing a relay, whatever came before. -/
theorem Separates.ensuring {x : StationProg X α} {fin : StationProg X PUnit} (hx : Separates x)
    (hfin : Passive fin) : Separates (x.ensuring fin) := fun s ↦
  (post_ensuring fin).mpr ((hx s).mono
    (fun _ t ht ↦ (hfin.separates t).mono (fun _ _ hu ↦ ht.apartIf hu)
      fun _ _ hu ↦ ht.closesApart hu)
    fun _ t ht ↦ (hfin.unclosing t).mono
      (fun _ _ hu ↦ ht.append hu fun _ _ hold hnew ↦ Unclosed.closesApart_append hnew hold)
      fun _ _ hu ↦ ht.append hu fun _ _ hold hnew ↦ Unclosed.closesApart_append hnew hold)

/-- A handler that closes no relay, and raises. -/
theorem Separates.handle {x : StationProg X α} {h : Exc → StationProg X α} (hx : Separates x)
    (hh : ∀ e s, Post (h e) (fun _ _ ↦ False) (fun _ t ↦ Adds Unclosed s t) s) :
    Separates (x.handle h) := fun s ↦
  (post_handle h).mpr ((hx s).mono (fun _ _ ht ↦ ht) fun e t ht ↦
    (hh e t).mono (fun _ _ hu ↦ hu.elim) fun _ _ hu ↦
      ht.append hu fun _ _ hold hnew ↦ Unclosed.closesApart_append hnew hold)

/-- What raises after it closed no relay. -/
theorem Passive.then_raise {x : StationProg X α} (hx : Passive x) (e : Exc)
    (s : StationSession X) :
    Post (x >>= fun _ ↦ (Prog.raise e : StationProg X β)) (fun _ _ ↦ False)
      (fun _ t ↦ Adds Unclosed s t) s :=
  (post_bind _).mpr ((hx.unclosing s).mono (fun _ _ ht ↦ ht) fun _ _ ht ↦ ht)

variable {st : Station X}

theorem passive_call {op : Operation}
    (hop : ∀ raised, (StationCall.call op raised).IsPassive) :
    Passive (StationProg.call st op) :=
  StationProg.quiet_call fun raised ↦ ⟨hop raised, id⟩

theorem passive_read (reading : Reading) : Passive (StationProg.read st reading) :=
  StationProg.quiet_read fun _ ↦ ⟨⟨rfl, rfl⟩, id⟩

theorem passive_logEvent (entry : EventEntry) : Passive (StationProg.logEvent st entry) :=
  passive_call fun _ ↦ ⟨rfl, rfl⟩

theorem passive_logEvents (entries : List EventEntry) : Passive (logEvents st entries) := by
  induction entries with
  | nil => exact .pure _
  | cons entry rest ih => exact .bind (passive_logEvent entry) fun _ ↦ ih

theorem frees_relayOpen : Frees address (StationProg.call st (.relayOpen address)) := by
  have hopen (raised : Option Exc) : Releases address [.call (.relayOpen address) raised] := by
    refine ⟨faultless_singleton ⟨rfl, id⟩, fun old hold ↦ ?_⟩
    change (if askedToClose old = some address then none else askedToClose old) = none
    split
    · rfl
    · next hne => exact hold.resolve_right hne
  exact fun s ↦ (StationProg.post_call st _ s).mono (fun _ _ ht ↦ ⟨_, ht, hopen none⟩)
    fun e _ ht ↦ ⟨_, ht, (hopen (some e)).unclosed⟩

/-- A relay is closed, and released before anything returns. -/
theorem Frees.separates {f : PUnit → StationProg X α} (hf : ∀ u, Frees address (f u)) :
    Separates (StationProg.call st (.relayClose address) >>= f) := by
  have hclose (raised : Option Exc) : ClosesApart [.call (.relayClose address) raised] :=
    ⟨fun _ ↦ .inl rfl, trivial⟩
  intro s
  refine (post_bind f).mpr ((StationProg.post_call st _ s).mono (fun u t ht ↦ ?_)
    fun e t ht ↦ ⟨_, ht, hclose (some e)⟩)
  have hclosed : Adds (fun new ↦ new = [.call (.relayClose address) none]) s t := ⟨_, ht, rfl⟩
  refine (hf u t).mono (fun _ _ hv ↦ ?_) fun _ _ hv ↦ ?_
  · refine hclosed.append hv fun old new hold hnew ↦ ?_
    subst hold
    exact ⟨hnew.unclosed.closesApart_append (hclose none),
      fun _ ↦ .inl (hnew.released _ (.inr rfl))⟩
  · refine hclosed.append hv fun old new hold hnew ↦ ?_
    subst hold
    exact hnew.closesApart_append (hclose none)

end Programs

/-! ## The guard -/

section Guard

variable {X : Type} {st : Station X} {g : GuardedRun X}

theorem passive_onEvent (message : String) : Passive (onEvent st g message) :=
  Within.handle (passive_call fun _ ↦ ⟨rfl, rfl⟩) fun _ ↦ .pure _

theorem passive_extraRunSummaryFields : Passive (extraRunSummaryFields g) := by
  intro s
  unfold Post extraRunSummaryFields
  rcases g.extraFields s.world with ⟨e | fields, world⟩
  · exact ⟨[.extraFields (some e)], rfl, faultless_singleton ⟨⟨rfl, rfl⟩, id⟩⟩
  · exact ⟨[.extraFields none], rfl, faultless_singleton ⟨⟨rfl, rfl⟩, id⟩⟩

theorem passive_recordFailure (clause : ExceptClause) :
    Passive (recordFailure st g clause) := by
  have hfinal : Passive (safeFinalVoltageReading st g) := by
    refine .ite (.bind (.attempt (passive_read _)) fun ended ↦ ?_) (.pure _)
    cases ended with
    | ok voltage => exact .pure _
    | error e => exact .pure _
  refine .bind (passive_onEvent _) fun _ ↦ .bind (passive_logEvents _) fun _ ↦ ?_
  refine .bind (passive_call fun _ ↦ ⟨rfl, rfl⟩) fun _ ↦ ?_
  refine .bind passive_extraRunSummaryFields fun _ ↦ ?_
  exact .bind hfinal fun _ ↦ passive_call fun _ ↦ ⟨rfl, rfl⟩

theorem passive_shutDown (clause : ExceptClause) (e : Exc) :
    Passive (shutDown st g clause e) := by
  have hoff (reason : String) : Passive (StationProg.emergencyOutputOff st reason) := fun _ ↦
    ⟨[_], rfl, faultless_singleton ⟨⟨rfl, rfl⟩, id⟩⟩
  have hopen : Passive (openRelays st g) := by
    refine Within.handle ?_ fun _ ↦ passive_onEvent _
    refine .bind (passive_call fun _ ↦ ⟨rfl, rfl⟩) fun _ ↦ ?_
    exact .bind (passive_onEvent _) fun _ ↦ passive_onEvent _
  have hzero (reason : String) :
      Passive ((StationProg.call st (.zeroOutputSetpoint reason)).handle fun _ ↦ pure ⟨⟩) :=
    Within.handle (passive_call fun _ ↦ ⟨rfl, rfl⟩) fun _ ↦ .pure _
  have hhardware (reason : String) : Passive (shutDownHardware st g reason) := by
    refine .bind (passive_onEvent _) fun _ ↦ .bind (hoff _) fun _ ↦ .bind hopen fun _ ↦ ?_
    exact .bind (hzero _) fun _ ↦ .bind (passive_onEvent _) fun _ ↦ passive_onEvent _
  have hnote (c : StationCall) (hc : c.IsPassive) :
      Passive (StationProg.note c : StationProg X PUnit) := fun _ ↦
    ⟨[c], rfl, faultless_singleton ⟨hc, id⟩⟩
  refine .ite (.bind (hnote _ ⟨rfl, rfl⟩) fun _ ↦ hhardware _) ?_
  exact .bind (hnote _ ⟨rfl, rfl⟩) fun _ ↦ hhardware _

/-- **The guard releases every relay** where it raises a fault of the battery, unless a row is
lost. -/
theorem Separates.failsApart_runGuarded {α : Type} {fn : StationProg X α} (hfn : Separates fn) :
    FailsApart (runGuarded st g fn) := by
  intro s
  rw [runGuarded, post_handle]
  refine (hfn s).mono (fun _ _ h ↦ h) fun e t ht ↦ ?_
  have hrecord : Post (recordFailure st g (exceptClause g e)) _ _ t :=
    .and ((passive_recordFailure (exceptClause g e)).unclosing t)
       (reveals_recordFailure (exceptClause g e) t)
  refine (post_bind _).mpr (hrecord.mono (fun _ u hu ↦ ?_) fun e' u hu ↦ ?_)
  · have hshut : Post (shutDown st g (exceptClause g e) e) _ _ u :=
      .and ((passive_shutDown (exceptClause g e) e).unclosing u)
        (post_shutDown (exceptClause g e) e u)
    refine (post_bind _).mpr (hshut.mono (fun _ v hv ↦ ?_) fun _ _ hv ↦ hv.2.elim)
    obtain ⟨shut, hshut, hunclosed⟩ := hv.1
    obtain ⟨shut', hshut', ⟨-, hopen⟩, -⟩ := hv.2
    obtain rfl := List.append_cancel_right (hshut.symm.trans hshut')
    have hrows : Adds ClosesApart s u := ht.append hu.1 fun _ _ hold hnew ↦
      Unclosed.closesApart_append hnew hold
    have hnew : Adds (fun new ↦ new = shut) u v := ⟨_, hshut, rfl⟩
    refine (post_raise e).mpr (hrows.append hnew fun old new hold hnew ↦ ?_)
    subst hnew
    exact ⟨Unclosed.closesApart_append hunclosed hold,
      fun _ ↦ .inl (Unclosed.askedToClose_of_openAll hunclosed hopen)⟩
  · -- a row could not be written, so the shutdown is not reached
    obtain ⟨rows, hrows, hunclosed⟩ := hu.1
    obtain ⟨rows', hrows', hmisled⟩ := hu.2
    obtain rfl := List.append_cancel_right (hrows.symm.trans hrows')
    have hnew : Adds (fun new ↦ new = rows) t u := ⟨_, hrows, rfl⟩
    refine ht.append hnew fun old new hold hnew ↦ ?_
    subst hnew
    refine ⟨Unclosed.closesApart_append hunclosed hold, fun hfail ↦ .inr ?_⟩
    exact RowLost.left (hmisled.misleads hfail)

theorem passive_complete (message : String) : Passive (complete st g message) := by
  refine .bind passive_extraRunSummaryFields fun _ ↦ ?_
  refine .bind (passive_call fun _ ↦ ⟨rfl, rfl⟩) fun _ ↦ ?_
  exact .bind (passive_call fun _ ↦ ⟨rfl, rfl⟩) fun _ ↦ passive_logEvent _

end Guard

/-! ## The sequences -/

section Sequences

variable {X : Type} {st : Station X} {r : SequenceRun X} {ph : Phase X} {address : ℕ}

theorem passive_connectSense : Passive (connectSense st r ph) := by
  unfold connectSense
  split
  · exact .pure _
  · exact .bind (passive_call fun _ ↦ ⟨rfl, rfl⟩) fun _ ↦ passive_logEvent _

theorem passive_disconnectSense : Passive (disconnectSense st r ph) := by
  unfold disconnectSense
  split
  · exact .pure _
  · refine Within.handle ?_ fun _ ↦ .pure _
    exact .bind (passive_call fun _ ↦ ⟨rfl, rfl⟩) fun _ ↦ passive_logEvent _

theorem passive_sampleUntilEnd : Passive (sampleUntilEnd st r ph) := by
  have hoff (reason : String) : Passive (StationProg.emergencyOutputOff st reason) := fun _ ↦
    ⟨[_], rfl, faultless_singleton ⟨⟨rfl, rfl⟩, id⟩⟩
  refine .bind (.attempt (passive_call fun _ ↦ ⟨rfl, rfl⟩)) fun ended ↦ ?_
  refine .bind (hoff _) fun verified ↦ .bind (passive_logEvent _) fun _ ↦ ?_
  cases ended with
  | ok _ => exact .pure _
  | error e => exact .raise e

theorem passive_zeroOutputSetpoint (reason : String) :
    Passive ((StationProg.call st (.zeroOutputSetpoint reason)).handle fun _ ↦ pure ⟨⟩) :=
  Within.handle (passive_call fun _ ↦ ⟨rfl, rfl⟩) fun _ ↦ .pure _

theorem passive_checkBatteryPolarity (voltage : ℚ) :
    Passive (checkBatteryPolarity st r ph voltage) :=
  .ite (.bind (passive_logEvent _) fun _ ↦ .raise _) (.pure _)

theorem passive_relayOpenAll :
    Passive ((StationProg.call st .relayOpenAll).handle fun _ ↦ pure ⟨⟩) :=
  Within.handle (passive_call fun _ ↦ ⟨rfl, rfl⟩) fun _ ↦ .pure _

theorem passive_escalate : Passive (escalate st r ph) := by
  refine .bind passive_relayOpenAll fun _ ↦ .bind .get fun _ ↦ ?_
  refine .bind (passive_call fun _ ↦ ⟨rfl, rfl⟩) fun _ ↦ ?_
  exact .bind (passive_call fun _ ↦ ⟨rfl, rfl⟩) fun _ ↦ .raise _

/-- An output that is not verified off ends the run. -/
theorem frees_escalate : Frees address (escalate st r ph) := by
  have hget : Passive (Prog.get : StationProg X (StationSession X)) := .get
  refine passive_relayOpenAll.frees_bind fun _ ↦ hget.frees_bind fun _ ↦ ?_
  refine (passive_call fun _ ↦ ⟨rfl, rfl⟩).frees_bind fun _ ↦ ?_
  exact (passive_call fun _ ↦ ⟨rfl, rfl⟩).frees_bind fun _ ↦ .raise _

/-- The relay is opened where the output is verified off, and where it is not, nothing returns. -/
theorem frees_energize : Frees r.relayAddress (energize st r ph) := by
  have hisolate : Frees r.relayAddress (isolate st r ph) := by
    refine frees_relayOpen.bind_passive fun _ ↦ .bind (passive_logEvent _) fun _ ↦ ?_
    exact .bind (passive_logEvent _) fun _ ↦ passive_zeroOutputSetpoint _
  have henable : Unclosing (StationProg.call st .outputEnable) :=
    StationProg.quiet_call fun _ ↦ ⟨rfl, id⟩
  refine (passive_read _).frees_bind fun voltage ↦ ?_
  refine (passive_checkBatteryPolarity voltage).frees_bind fun _ ↦ ?_
  refine (passive_call fun _ ↦ ⟨rfl, rfl⟩).frees_bind fun _ ↦ henable.frees_bind fun _ ↦ ?_
  refine (passive_logEvent _).frees_bind fun _ ↦ ?_
  exact passive_sampleUntilEnd.frees_bind fun _ ↦ .ite hisolate frees_escalate

theorem separates_phaseBody : Separates (phaseBody st r ph) := by
  have hcancel : Passive (StationProg.call st .checkCancellation) := passive_call fun _ ↦ ⟨rfl, rfl⟩
  refine hcancel.separates.bind fun _ ↦ Frees.separates fun _ ↦ ?_
  refine (passive_logEvent _).frees_bind fun _ ↦ (passive_logEvent _).frees_bind fun _ ↦ ?_
  refine (passive_call fun _ ↦ ⟨rfl, rfl⟩).frees_bind fun _ ↦ ?_
  exact passive_connectSense.frees_bind fun _ ↦ frees_energize.ensuring passive_disconnectSense

theorem failsApart_runPhase : FailsApart (runPhase st r ph) := by
  have hnumber : Passive (StationProg.call st .runNumber) := passive_call fun _ ↦ ⟨rfl, rfl⟩
  refine hnumber.failsApart.bind fun _ ↦ separates_phaseBody.failsApart_runGuarded.bind fun _ ↦ ?_
  exact (passive_complete _).failsApart

theorem separates_cyclePhase : Separates (cyclePhase st r ph) := by
  have hmake (testType : String) : Passive (StationProg.call st (.makePhaseStorage testType)) :=
    passive_call fun _ ↦ ⟨rfl, rfl⟩
  have hreclassify : Passive (reclassifyPhaseAsStationFault st r) :=
    .bind (passive_call fun _ ↦ ⟨rfl, rfl⟩) fun _ ↦ passive_call fun _ ↦ ⟨rfl, rfl⟩
  have hraise (e : Exc) (s : StationSession X) : Adds Unclosed s s := ⟨[], rfl, faultless_nil⟩
  refine (hmake _).separates.bind fun _ ↦ .ensuring ?_ (passive_call fun _ ↦ ⟨rfl, rfl⟩)
  refine failsApart_runPhase.separates.handle fun e s ↦ ?_
  split
  · exact hreclassify.then_raise e s
  · exact (post_raise e).mpr (hraise e s)

/-- By induction on the repetitions. -/
theorem separates_runRepetitions (repetitions : List ℕ) :
    Separates (runRepetitions st r repetitions) := by
  have hcancel : Separates (StationProg.call st .checkCancellation) :=
    Passive.separates (passive_call fun _ ↦ ⟨rfl, rfl⟩)
  have hrest : Separates (StationProg.call st .rest) :=
    Passive.separates (passive_call fun _ ↦ ⟨rfl, rfl⟩)
  have hlog (entry : EventEntry) : Separates (StationProg.logEvent st entry) :=
    (passive_logEvent entry).separates
  induction repetitions with
  | nil => exact .pure _
  | cons repetition rest ih =>
    refine .bind ?_ fun _ ↦ ih
    refine .bind hcancel fun _ ↦ .bind (hlog _) fun _ ↦ .bind separates_cyclePhase fun _ ↦ ?_
    refine .bind hcancel fun _ ↦ .bind (hlog _) fun _ ↦ .bind hrest fun _ ↦ ?_
    exact .bind (hlog _) fun _ ↦ .bind separates_cyclePhase fun _ ↦ hlog _

theorem failsApart_run (c : SequenceClass) : FailsApart (c.run st r) := by
  cases c with
  | charge => exact failsApart_runPhase
  | discharge => exact failsApart_runPhase
  | cycle =>
    refine (separates_runRepetitions _).failsApart_runGuarded.bind fun _ ↦ ?_
    exact (passive_complete _).failsApart

end Sequences

/-! ## One position -/

section Position

variable {X α : Type} {st : Station X}

section Precheck

variable {p : PrecheckRun}

theorem passive_ntcPositions (positions : List ℕ) : Passive (ntcPositions st p positions) := by
  have hreading (position : ℕ) : Passive (ntcReading st p position) := by
    unfold ntcReading
    cases p.ntcChannel position with
    | none => exact .bind (passive_logEvent _) fun _ ↦ .pure _
    | some channel =>
      refine .bind (.attempt (passive_read _)) fun result ↦ ?_
      cases result with
      | ok voltage => exact .pure _
      | error e => exact .ite (.bind (passive_logEvent _) fun _ ↦ .pure _) (.raise e)
  induction positions with
  | nil => exact .pure _
  | cons position rest ih =>
    refine .bind ?_ fun _ ↦ .bind ih fun _ ↦ .pure _
    refine .bind (hreading position) fun _ ↦ .bind (passive_call fun _ ↦ ⟨rfl, rfl⟩) fun _ ↦ ?_
    exact .bind (passive_logEvent _) fun _ ↦ .pure _

theorem passive_readBattery : Passive (readBattery st p) := by
  refine .bind (.attempt (passive_read _)) fun result ↦ ?_
  cases result with
  | ok voltage => exact .pure _
  | error e => exact .bind (passive_logEvent _) fun _ ↦ .pure _

theorem passive_ntcGroupSnapshot : Passive (ntcGroupSnapshot st p) :=
  .ite (passive_ntcPositions _) (.pure _)

theorem passive_warnReversed (voltage : Option ℚ) : Passive (warnReversed st p voltage) := by
  cases voltage with
  | none => exact .pure _
  | some v => exact .ite (passive_logEvent _) (.pure _)

theorem passive_logPrecheck (voltage : Option ℚ) (target : Option NtcResult)
    (reasons : List String) : Passive (logPrecheck st p voltage target reasons) :=
  .bind (passive_logEvent _) fun _ ↦ .ite (.pure _) (passive_logEvent _)

/-- **The pre-check asks its relay to open**, unless it raises. -/
theorem separates_precheck : Separates (precheck st p) := by
  refine Frees.separates fun _ ↦ ?_
  refine (passive_readBattery.frees_ensuring frees_relayOpen).bind_passive ?_
  refine fun voltage ↦ .bind (passive_call fun _ ↦ ⟨rfl, rfl⟩) fun _ ↦ ?_
  refine .bind passive_ntcGroupSnapshot fun snapshot ↦ ?_
  refine .bind (passive_warnReversed voltage) fun _ ↦ ?_
  exact .bind (passive_logPrecheck _ _ _) fun _ ↦ .pure _

end Precheck

/-- `x` closes relays apart, and has asked all to open where the loop goes on after it. -/
def LeavesApart (x : StationProg X PositionResult) : Prop := ∀ s,
  Post x (fun result t ↦ Adds (ApartIf (¬result.StopsRun)) s t) (fun _ t ↦ Adds ClosesApart s t) s

theorem Separates.leavesApart {x : StationProg X PositionResult} (hx : Separates x) :
    LeavesApart x := fun s ↦
  (hx s).mono (fun _ _ h ↦ h.mono fun _ hnew ↦ hnew.mono fun _ ↦ trivial) fun _ _ h ↦ h

theorem Separates.then_leavesApart {x : StationProg X α} {f : α → StationProg X PositionResult}
    (hx : Separates x) (hf : ∀ a, LeavesApart (f a)) : LeavesApart (x >>= f) := fun s ↦
  (post_bind f).mpr ((hx s).mono (fun a t ht ↦ (hf a t).mono (fun _ _ hu ↦ ht.apartIf hu)
    fun _ _ hu ↦ ht.closesApart hu) fun _ _ ht ↦ ht)

theorem LeavesApart.ite {c : Prop} [Decidable c] {x y : StationProg X PositionResult}
    (hx : LeavesApart x) (hy : LeavesApart y) : LeavesApart (if c then x else y) := by
  split
  · exact hx
  · exact hy

theorem LeavesApart.before {x : StationProg X PositionResult}
    {y : PositionResult → StationProg X PUnit} (hx : LeavesApart x)
    (hy : ∀ result, Passive (y result)) :
    LeavesApart (x >>= fun result ↦ y result >>= fun _ ↦ pure result) := fun s ↦
  (post_bind _).mpr ((hx s).mono (fun result t ht ↦ (post_bind _).mpr
    (((hy result).unclosing t).mono
      (fun _ _ hu ↦ ht.append hu fun _ _ hold hnew ↦ Unclosed.apartIf_append hnew hold)
      fun _ _ hu ↦ ht.append hu fun _ _ hold hnew ↦ Unclosed.closesApart_append hnew hold.closes))
    fun _ _ h ↦ h)

variable {run : StationProg X SequenceEnd} {p : PositionRun}

/-- `run` never raises, and where the loop moves on after it, all relays are asked to open. -/
def ConcludesApart (run : StationProg X SequenceEnd) : Prop := ∀ s,
  Post run (fun ended t ↦ Adds (ApartIf ended.MovesOn) s t) (fun _ _ ↦ False) s

theorem FailsApart.concludesApart {x : StationProg X PUnit} (hx : FailsApart x) :
    ConcludesApart (sequenceEnd x) := by
  intro s
  refine (post_bind _).mpr (post_attempt.mpr ((hx s).mono (fun _ _ h ↦ ?_) fun _ _ h ↦ h))
  exact h.mono fun _ hnew ↦ hnew.mono fun _ ↦ trivial

theorem passive_startRunSummaryGuarded : Passive (startRunSummaryGuarded st p) := by
  refine Within.handle (.bind (passive_call fun _ ↦ ⟨rfl, rfl⟩) fun _ ↦ .pure _) fun e ↦ ?_
  exact .ite (.pure _) (.raise e)

theorem passive_recordStationFault (exception message : String) :
    Passive (recordStationFault st p exception message) :=
  .bind (passive_call fun _ ↦ ⟨rfl, rfl⟩) fun _ ↦
    .bind (passive_call fun _ ↦ ⟨rfl, rfl⟩) fun _ ↦ passive_logEvent _

theorem passive_classifyEnd (ended : SequenceEnd) : Passive (classifyEnd st p ended) := by
  cases ended with
  | completed => exact .pure _
  | interrupted => exact .pure _
  | raised e =>
    refine .ite (.pure _) (.ite ?_ (.pure _))
    exact .bind (passive_recordStationFault _ _) fun _ ↦ .pure _

theorem ConcludesApart.leavesApart (hrun : ConcludesApart run) :
    LeavesApart (run >>= classifyEnd st p) := by
  intro s
  refine (post_bind _).mpr ((hrun s).mono (fun ended t ht ↦ ?_) fun _ _ h ↦ h.elim)
  have hend : Post (classifyEnd st p ended) _ _ t :=
    .and ((passive_classifyEnd ended).unclosing t) (post_classifyEnd_neutral ended t)
  refine hend.mono (fun result u hu ↦ ?_) fun _ u hu ↦ ?_
  · exact ht.append hu.1 fun old new hold hnew ↦
      (Unclosed.apartIf_append hnew hold).mono hu.2.2
  · exact ht.append hu.1 fun old new hold hnew ↦ Unclosed.closesApart_append hnew hold.closes

/-- **A position after which the loop moves on has asked all its relays to open.** -/
theorem ConcludesApart.leavesApart_runOnePosition (hrun : ConcludesApart run) :
    LeavesApart (runOnePosition st run p) := by
  have hcall {op : Operation} (hop : ∀ raised, (StationCall.call op raised).IsPassive) :
      Separates (StationProg.call st op) := (passive_call hop).separates
  have hpure (result : PositionResult) :
      LeavesApart (pure result : StationProg X PositionResult) := (Separates.pure _).leavesApart
  refine passive_startRunSummaryGuarded.separates.then_leavesApart fun started ↦ .ite ?_ (hpure _)
  refine (passive_logEvents _).separates.then_leavesApart fun _ ↦ ?_
  refine separates_precheck.then_leavesApart fun found ↦ .ite ?_ (.ite ?_ ?_)
  · exact (passive_recordStationFault _ _).separates.then_leavesApart fun _ ↦ hpure _
  · have hprint : Passive (StationProg.call st .printPostRunSummary) :=
      passive_call fun _ ↦ ⟨rfl, rfl⟩
    rw [← bind_assoc]
    exact hrun.leavesApart.before fun _ ↦ hprint
  · refine (hcall fun _ ↦ ⟨rfl, rfl⟩).then_leavesApart fun _ ↦ ?_
    exact (hcall fun _ ↦ ⟨rfl, rfl⟩).then_leavesApart fun _ ↦ hpure _

end Position

/-! ## The group -/

section Loop

variable {X : Type} {st : Station X} {run : PositionRun → StationProg X SequenceEnd}

/-- By induction on the positions. -/
theorem apartIf_runPositions (hrun : ∀ p, ConcludesApart (run p)) (g : GroupRun)
    (positions : List ℕ) (s : StationSession X) :
    Post (runPositions st run g positions)
      (fun results t ↦ Adds (ApartIf (∀ r ∈ results, ¬r.2.StopsRun)) s t)
      (fun _ t ↦ Adds ClosesApart s t) s := by
  have hbegin : Separates (StationProg.call st .beginNewRunId) :=
    Passive.separates (passive_call fun _ ↦ ⟨rfl, rfl⟩)
  have hlog (entry : EventEntry) : Passive (StationProg.logEvent st entry) :=
    passive_logEvent entry
  induction positions generalizing s with
  | nil => exact ⟨[], rfl, trivial, fun _ ↦ .inl rfl⟩
  | cons position rest ih =>
    unfold runPositions
    cases g.config position with
    | none => exact ih s
    | some p =>
      have hposition : LeavesApart (runOnePosition st (run p) p) :=
        (hrun p).leavesApart_runOnePosition
      refine (post_bind _).mpr ((hbegin s).mono (fun _ t ht ↦ ?_) fun _ _ ht ↦ ht)
      refine (post_bind _).mpr (((hlog _).separates t).mono (fun _ u hu ↦ ?_)
        fun _ _ hu ↦ ht.closesApart hu)
      have hstarted := ht.apartIf hu
      refine (post_bind _).mpr ((hposition u).mono (fun result v hv ↦ ?_)
        fun _ _ hv ↦ hstarted.closesApart hv)
      have hran := hstarted.apartIf hv
      refine (post_bind _).mpr (((hlog _).unclosing v).mono (fun _ w hw ↦ ?_) fun _ w hw ↦ ?_)
      · have hdone : Adds (ApartIf (¬result.StopsRun)) s w :=
          hran.append hw fun _ _ hold hnew ↦ Unclosed.apartIf_append hnew hold
        rw [post_ite]
        split
        · next hstops =>
          exact hdone.mono fun _ hnew ↦ hnew.mono fun hall ↦
            absurd hstops (hall _ (List.mem_singleton_self _))
        · -- the loop goes on with all relays asked to open
          next hmoves =>
          have hapart : Adds KeptApart s w := hdone.mono fun _ hnew ↦ hnew.mono fun _ ↦ hmoves
          refine (post_bind _).mpr ((ih w).mono (fun results z hz ↦ ?_)
            fun _ _ hz ↦ hapart.closesApart hz)
          exact (hapart.apartIf hz).mono fun _ hnew ↦ hnew.mono fun hall r hr ↦
            hall r (List.mem_cons_of_mem _ hr)
      · exact hran.append hw fun _ _ hold hnew ↦ Unclosed.closesApart_append hnew hold.closes

/-- **No two batteries of a group.** Whatever the station does, and however a charge, a discharge or
a cycle of a group ends, a relay is asked to close only where every relay that was asked to close
before has been asked to open since, and so it is with all of them at the end of a run that returns
without a cancellation or a fault of the station; unless a row about a failure raised what the loop
takes for a fault of the battery. -/
theorem closesApart_runGroupAllPositions (st : Station X) (c : SequenceClass)
    (r : PositionRun → SequenceRun X) (g : GroupRun) (world : X) :
    Post (runGroupAllPositions st (fun p ↦ sequenceEnd (c.run st (r p))) g)
      (fun results t ↦ ClosesApart t.trace ∧
        ((∀ r ∈ results, ¬r.2.StopsRun) → askedToClose t.trace = none ∨ RowLost t.trace))
      (fun _ t ↦ ClosesApart t.trace) ⟨world, []⟩ := by
  have hrun (p : PositionRun) : ConcludesApart (sequenceEnd (c.run st (r p))) :=
    (failsApart_run c).concludesApart
  have hinstrument : Separates (startSenseRouter st g) :=
    Passive.separates (.ite (passive_call fun _ ↦ ⟨rfl, rfl⟩) (.pure _))
  have hshutdown : Passive (stopSenseRouter st g) :=
    .ite (Within.handle (passive_call fun _ ↦ ⟨rfl, rfl⟩) fun _ ↦ .pure _) (.pure _)
  have hlog (entry : EventEntry) : Passive (StationProg.logEvent st entry) :=
    passive_logEvent entry
  have hbody : Post (runGroupBody st (fun p ↦ sequenceEnd (c.run st (r p))) g)
      (fun results t ↦ Adds (ApartIf (∀ r ∈ results, ¬r.2.StopsRun)) ⟨world, []⟩ t)
      (fun _ t ↦ Adds ClosesApart ⟨world, []⟩ t) ⟨world, []⟩ := by
    refine (post_bind _).mpr ((hinstrument _).mono (fun _ t ht ↦ ?_) fun _ _ ht ↦ ht)
    refine (post_bind _).mpr (((hlog _).separates t).mono (fun _ u hu ↦ ?_)
      fun _ _ hu ↦ ht.closesApart hu)
    have hstarted := ht.apartIf hu
    refine (post_bind _).mpr ((apartIf_runPositions hrun g _ u).mono (fun results v hv ↦ ?_)
      fun _ _ hv ↦ hstarted.closesApart hv)
    have hran := hstarted.apartIf hv
    refine (post_bind _).mpr (((hlog _).unclosing v).mono (fun _ w hw ↦ ?_) fun _ w hw ↦ ?_)
    · exact hran.append hw fun _ _ hold hnew ↦ Unclosed.apartIf_append hnew hold
    · exact hran.append hw fun _ _ hold hnew ↦ Unclosed.closesApart_append hnew hold.closes
  have htrace {P : List StationCall → Prop} {t : StationSession X}
      (h : Adds P ⟨world, []⟩ t) : P t.trace := by
    obtain ⟨new, hnew, hP⟩ := h
    rwa [hnew.trans (List.append_nil new)]
  have hcloses {t u : StationSession X} (ht : Adds ClosesApart ⟨world, []⟩ t)
      (hu : Adds Unclosed t u) : ClosesApart u.trace :=
    htrace (ht.append hu fun _ _ hold hnew ↦ Unclosed.closesApart_append hnew hold)
  rw [runGroupAllPositions, post_ensuring]
  refine hbody.mono (fun results t ht ↦ ?_) fun _ t ht ↦ ?_
  · refine (hshutdown.unclosing t).mono (fun _ u hu ↦ ?_) fun _ _ hu ↦
      hcloses (ht.mono fun _ hnew ↦ hnew.closes) hu
    have hend := htrace (ht.append hu fun _ _ hold hnew ↦ Unclosed.apartIf_append hnew hold)
    exact ⟨hend.closes, hend.released⟩
  · exact (hshutdown.unclosing t).mono (fun _ _ hu ↦ hcloses ht hu) fun _ _ hu ↦ hcloses ht hu

end Loop

end Nipxi
