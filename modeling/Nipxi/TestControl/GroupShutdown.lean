import Nipxi.TestControl.ChargeSequence
import Nipxi.TestControl.GroupPositions

/-!
# Moving on within a group

A Group → ALL run may close a relay for a later position only if the last attempt to turn the
output off was verified and the last opening of relays returned. A sequence that returns has seen
both. One that raises has gone through `run_guarded`, which throws the verdict of `emergency_stop`
away; the loop then stops if the exception is a fault of the station, and moves on if it is a fault
of the battery under test. So a run moves on safely where every `emergency_stop` for a fault of the
battery turns the output off and opens the relays: `movesOnSafely_of_stopsAreVerified`.
-/

open Collections Effect

namespace Nipxi

/-! ## Verdicts -/

/-- What an entry says about the output. -/
def StationCall.outputVerdict : StationCall → Option Bool
  | .outputOff _ verified => some verified
  | _ => none

/-- What an entry says about the relays. -/
def StationCall.openingVerdict : StationCall → Option Bool
  | .call (.relayOpen _) raised | .call .relayOpenAll raised => some raised.isNone
  | _ => none

/-- Whether an entry begins the slot of a position. -/
def StationCall.isSlot : StationCall → Bool
  | .call .beginNewRunId _ => true
  | _ => false

/-- Whether an entry closes a relay. -/
def StationCall.isRelayClose : StationCall → Bool
  | .call (.relayClose _) _ => true
  | _ => false

/-- The verdicts on the output, newest first. -/
def outputVerdicts (evs : List StationCall) : List Bool := evs.filterMap StationCall.outputVerdict

/-- The verdicts on the relays, newest first. -/
def openingVerdicts (evs : List StationCall) : List Bool :=
  evs.filterMap StationCall.openingVerdict

/-- The last `emergency_output_off` returned `True`, and the last opening of relays returned. -/
structure SafeEnd (evs : List StationCall) : Prop where
  output : (outputVerdicts evs).head? ≠ some false
  relays : (openingVerdicts evs).head? ≠ some false

instance (evs : List StationCall) : Decidable (SafeEnd evs) :=
  decidable_of_iff ((outputVerdicts evs).head? ≠ some false ∧
    (openingVerdicts evs).head? ≠ some false) ⟨fun h ↦ ⟨h.1, h.2⟩, fun h ↦ ⟨h.1, h.2⟩⟩

/-- What came before the slot of the current position. -/
def beforeSlot : List StationCall → List StationCall
  | [] => []
  | c :: older => if c.isSlot then older else beforeSlot older

/-- Every relay was closed after a safe end of what came before the slot of its position. -/
def MovesOnSafely : List StationCall → Prop
  | [] => True
  | c :: older => (c.isRelayClose = true → SafeEnd (beforeSlot older)) ∧ MovesOnSafely older

instance : DecidablePred MovesOnSafely
  | [] => isTrue trivial
  | c :: older =>
    have : Decidable (MovesOnSafely older) := instDecidablePredListStationCallMovesOnSafely older
    inferInstanceAs (Decidable ((c.isRelayClose = true → SafeEnd (beforeSlot older)) ∧ _))

/-- A row of a failure could not be written, for an exception the loop takes for a fault of the
battery. -/
def StationCall.Misleads : StationCall → Prop
  | .call (.logEvent _) (some e) | .call (.recordExecutionState _ _ _) (some e)
  | .call (.finishRunSummary _ _ _) (some e) | .extraFields (some e) =>
    classifyPositionException e = .fail
  | _ => False

/-- After an `emergency_stop`: its `emergency_output_off` returned `True` and its `open_all`
returned, as far as they were called. -/
structure StopVerified (newer : List StationCall) : Prop where
  output : (outputVerdicts newer).getLast? ≠ some false
  relays : (openingVerdicts newer).getLast? ≠ some false

/-- Writing a row raises no fault of the battery, and every `emergency_stop` for a fault of the
battery turns the output off and opens the relays. -/
structure StopsAreVerified (evs : List StationCall) : Prop where
  recorded : ∀ c ∈ evs, ¬c.Misleads
  stopped : ∀ newer e older, evs = newer ++ .emergencyStop e :: older →
    classifyPositionException e = .fail → StopVerified newer

section Verdicts

variable {new old : List StationCall}

theorem outputVerdicts_append :
    outputVerdicts (new ++ old) = outputVerdicts new ++ outputVerdicts old :=
  List.filterMap_append

theorem openingVerdicts_append :
    openingVerdicts (new ++ old) = openingVerdicts new ++ openingVerdicts old :=
  List.filterMap_append

theorem head?_append_ne {a b : List Bool} {v : Bool} (ha : a.head? ≠ some v)
    (hb : b.head? ≠ some v) : (a ++ b).head? ≠ some v := by
  cases a with
  | nil => exact hb
  | cons x rest => exact ha

theorem getLast?_ne_of_append {a b : List Bool} {v : Bool} (h : (a ++ b).getLast? ≠ some v) :
    b.getLast? ≠ some v := by
  rw [List.getLast?_append] at h
  cases hb : b.getLast? with
  | none => exact Option.some_ne_none v |>.symm
  | some x => rwa [hb, Option.some_or] at h

theorem SafeEnd.append (hnew : SafeEnd new) (hold : SafeEnd old) : SafeEnd (new ++ old) where
  output := by
    rw [outputVerdicts_append]
    exact head?_append_ne hnew.output hold.output
  relays := by
    rw [openingVerdicts_append]
    exact head?_append_ne hnew.relays hold.relays

theorem StopsAreVerified.left (h : StopsAreVerified (new ++ old)) : StopsAreVerified new where
  recorded c hc := h.recorded c (List.mem_append_left old hc)
  stopped newer e older hnew :=
    h.stopped newer e (older ++ old) (by rw [hnew, List.append_assoc, List.cons_append])

theorem StopsAreVerified.right (h : StopsAreVerified (new ++ old)) : StopsAreVerified old where
  recorded c hc := h.recorded c (List.mem_append_right new hc)
  stopped newer e older hold hfail := by
    have hstop := h.stopped (new ++ newer) e older (by rw [hold, List.append_assoc]) hfail
    constructor
    · exact getLast?_ne_of_append (outputVerdicts_append ▸ hstop.output)
    · exact getLast?_ne_of_append (openingVerdicts_append ▸ hstop.relays)

/-- Nothing of a slot's begin in it. -/
def WithinSlot (new : List StationCall) : Prop := ∀ c ∈ new, c.isSlot = false

theorem WithinSlot.append (hnew : WithinSlot new) (hold : WithinSlot old) :
    WithinSlot (new ++ old) := fun c hc ↦ (List.mem_append.mp hc).elim (hnew c) (hold c)

theorem beforeSlot_append (h : WithinSlot new) : beforeSlot (new ++ old) = beforeSlot old := by
  induction new with
  | nil => rfl
  | cons c rest ih =>
    have hc : ¬c.isSlot = true := by simp [h c List.mem_cons_self]
    rw [List.cons_append, beforeSlot, if_neg hc]
    exact ih fun d hd ↦ h d (List.mem_cons_of_mem c hd)

/-- Within a slot, relays may be closed where the slot began safely. -/
theorem MovesOnSafely.append (h : MovesOnSafely old) (hbefore : SafeEnd (beforeSlot old))
    (hnew : WithinSlot new) : MovesOnSafely (new ++ old) := by
  induction new with
  | nil => exact h
  | cons c rest ih =>
    have hrest : WithinSlot rest := fun d hd ↦ hnew d (List.mem_cons_of_mem c hd)
    refine ⟨fun _ ↦ ?_, ih hrest⟩
    change SafeEnd (beforeSlot (rest ++ old))
    rwa [beforeSlot_append hrest]

end Verdicts

/-! ## Programs within a slot -/

/-- An entry without a verdict, within a slot. -/
def StationCall.IsNeutral (c : StationCall) : Prop :=
  c.isSlot = false ∧ c.outputVerdict = none ∧ c.openingVerdict = none

/-- Entries of a slot, with a safe end if its emergency stops were verified. -/
structure Secured (new : List StationCall) : Prop where
  within : WithinSlot new
  safe : StopsAreVerified new → SafeEnd new

/-- Secured under a condition. -/
structure SecuredIf (P : Prop) (new : List StationCall) : Prop where
  within : WithinSlot new
  safe : P → StopsAreVerified new → SafeEnd new

theorem Secured.securedIf {P : Prop} {new : List StationCall} (h : Secured new) :
    SecuredIf P new := ⟨h.within, fun _ ↦ h.safe⟩

theorem SecuredIf.append {P : Prop} {new old : List StationCall} (hnew : SecuredIf P new)
    (hold : SecuredIf P old) : SecuredIf P (new ++ old) where
  within := hnew.within.append hold.within
  safe hP h := (hnew.safe hP h.left).append (hold.safe hP h.right)

/-- Only neutral entries. -/
abbrev Neutral (new : List StationCall) : Prop :=
  Faultless StationCall.IsNeutral (fun _ ↦ False) new

theorem Neutral.outputVerdicts_eq {new : List StationCall} (h : Neutral new) :
    outputVerdicts new = [] :=
  List.filterMap_eq_nil_iff.mpr fun c hc ↦ (h c hc).1.2.1

theorem Neutral.openingVerdicts_eq {new : List StationCall} (h : Neutral new) :
    openingVerdicts new = [] :=
  List.filterMap_eq_nil_iff.mpr fun c hc ↦ (h c hc).1.2.2

theorem Neutral.within {new : List StationCall} (h : Neutral new) : WithinSlot new :=
  fun c hc ↦ (h c hc).1.1

theorem Neutral.safeEnd {new : List StationCall} (h : Neutral new) : SafeEnd new := by
  constructor
  · rw [h.outputVerdicts_eq]
    exact nofun
  · rw [h.openingVerdicts_eq]
    exact nofun

theorem Neutral.secured {new : List StationCall} (h : Neutral new) : Secured new :=
  ⟨h.within, fun _ ↦ h.safeEnd⟩

theorem Secured.append {new old : List StationCall} (hnew : Secured new) (hold : Secured old) :
    Secured (new ++ old) where
  within := hnew.within.append hold.within
  safe h := (hnew.safe h.left).append (hold.safe h.right)

section Programs

variable {X α β : Type}

/-- Only neutral entries, however `x` ends. -/
abbrev Calm (x : StationProg X α) : Prop :=
  Quiet StationSession.trace StationCall.IsNeutral (fun _ ↦ False) x

/-- From the first state to the second, entries with a property were added. -/
abbrev Adds (P : List StationCall → Prop) (s t : StationSession X) : Prop :=
  Added StationSession.trace P s t

/-- `x` returns only after a safe end. -/
def Isolates (x : StationProg X α) : Prop := ∀ s,
  Post x (fun _ t ↦ Adds Secured s t) (fun _ t ↦ Adds WithinSlot s t) s

/-- `x` ends only after a safe end, unless it raises a fault of the station. -/
def Honest (x : StationProg X α) : Prop := ∀ s,
  Post x (fun _ t ↦ Adds Secured s t)
    (fun e t ↦ Adds (SecuredIf (classifyPositionException e = .fail)) s t) s

theorem Adds.secured {s t u : StationSession X} (h : Adds Secured s t) (h' : Adds Secured t u) :
    Adds Secured s u := h.append h' fun _ _ hold hnew ↦ hnew.append hold

theorem Adds.securedIf {P : Prop} {s t u : StationSession X} (h : Adds Secured s t)
    (h' : Adds (SecuredIf P) t u) : Adds (SecuredIf P) s u :=
  h.append h' fun _ _ hold hnew ↦ hnew.append hold.securedIf

theorem Adds.within {s t u : StationSession X} (h : Adds WithinSlot s t)
    (h' : Adds WithinSlot t u) : Adds WithinSlot s u :=
  h.append h' fun _ _ hold hnew ↦ hnew.append hold

theorem Adds.of_secured {s t : StationSession X} (h : Adds Secured s t) : Adds WithinSlot s t :=
  h.mono fun _ hnew ↦ hnew.within

theorem Calm.isolates {x : StationProg X α} (hx : Calm x) : Isolates x := fun s ↦
  (hx s).mono (fun _ _ h ↦ h.mono fun _ hnew ↦ Neutral.secured hnew)
    fun _ _ h ↦ h.mono fun _ hnew ↦ Neutral.within hnew

theorem Calm.honest {x : StationProg X α} (hx : Calm x) : Honest x := fun s ↦
  (hx s).mono (fun _ _ h ↦ h.mono fun _ hnew ↦ Neutral.secured hnew)
    fun _ _ h ↦ h.mono fun _ hnew ↦ (Neutral.secured hnew).securedIf

theorem Honest.isolates {x : StationProg X α} (hx : Honest x) : Isolates x := fun s ↦
  (hx s).mono (fun _ _ h ↦ h) fun _ _ h ↦ h.mono fun _ hnew ↦ hnew.within

theorem Isolates.raise (e : Exc) : Isolates (Prog.raise e : StationProg X α) := fun _ ↦
  (post_raise e).mpr ⟨[], rfl, List.forall_mem_nil _⟩

theorem Isolates.bind {x : StationProg X α} {f : α → StationProg X β} (hx : Isolates x)
    (hf : ∀ a, Isolates (f a)) : Isolates (x >>= f) := by
  intro s
  refine (post_bind f).mpr ((hx s).mono (fun a t ht ↦ ?_) fun _ _ h ↦ h)
  exact (hf a t).mono (fun _ _ hu ↦ ht.secured hu) fun _ _ hu ↦ ht.of_secured.within hu

theorem Honest.bind {x : StationProg X α} {f : α → StationProg X β} (hx : Honest x)
    (hf : ∀ a, Honest (f a)) : Honest (x >>= f) := by
  intro s
  refine (post_bind f).mpr ((hx s).mono (fun a t ht ↦ ?_) fun _ _ h ↦ h)
  exact (hf a t).mono (fun _ _ hu ↦ ht.secured hu) fun _ _ hu ↦ ht.securedIf hu

theorem Isolates.ite {c : Prop} [Decidable c] {x y : StationProg X α} (hx : Isolates x)
    (hy : Isolates y) : Isolates (if c then x else y) := by
  split
  · exact hx
  · exact hy

/-- `finally` with a finalizer that isolates. -/
theorem Isolates.ensuring {x : StationProg X α} {fin : StationProg X PUnit} (hx : Isolates x)
    (hfin : Isolates fin) : Isolates (x.ensuring fin) := by
  intro s
  rw [post_ensuring]
  refine (hx s).mono (fun _ t ht ↦ ?_) fun _ t ht ↦ ?_
  · exact (hfin t).mono (fun _ _ hu ↦ ht.secured hu) fun _ _ hu ↦ ht.of_secured.within hu
  · exact (hfin t).mono (fun _ _ hu ↦ ht.within hu.of_secured) fun _ _ hu ↦ ht.within hu

/-- `x` stays within its slot, however it ends. -/
def Stays (x : StationProg X α) : Prop := Within (Adds WithinSlot) x

/-- `x` raises, within its slot. -/
def Aborts (x : StationProg X α) : Prop := ∀ s,
  Post x (fun _ _ ↦ False) (fun _ t ↦ Adds WithinSlot s t) s

theorem Isolates.stays {x : StationProg X α} (hx : Isolates x) : Stays x := fun s ↦
  (hx s).mono (fun _ _ h ↦ h.of_secured) fun _ _ h ↦ h

theorem Aborts.raise (e : Exc) : Aborts (Prog.raise e : StationProg X α) := fun _ ↦
  (post_raise e).mpr ⟨[], rfl, List.forall_mem_nil _⟩

theorem Stays.aborts {x : StationProg X α} {f : α → StationProg X β} (hx : Stays x)
    (hf : ∀ a, Aborts (f a)) : Aborts (x >>= f) := by
  intro s
  refine (post_bind f).mpr ((hx s).mono (fun a t ht ↦ ?_) fun _ _ h ↦ h)
  exact (hf a t).mono (fun _ _ h ↦ h) fun _ _ hu ↦ ht.within hu

/-- A handler that raises again. -/
theorem Isolates.handle {x : StationProg X α} {h : Exc → StationProg X α} (hx : Isolates x)
    (hh : ∀ e, Aborts (h e)) : Isolates (x.handle h) := fun s ↦
  (post_handle h).mpr ((hx s).mono (fun _ _ ht ↦ ht) fun e t ht ↦
    (hh e t).mono (fun _ _ hfalse ↦ hfalse.elim) fun _ _ hu ↦ ht.within hu)

variable {st : Station X}

/-- A call that neither begins a slot nor opens a relay. -/
theorem calm_call {op : Operation} (hslot : ∀ raised, (StationCall.call op raised).isSlot = false)
    (hopening : ∀ raised, (StationCall.call op raised).openingVerdict = none) :
    Calm (StationProg.call st op) :=
  StationProg.quiet_call fun raised ↦ ⟨⟨hslot raised, rfl, hopening raised⟩, id⟩

theorem calm_read (reading : Reading) : Calm (StationProg.read st reading) :=
  StationProg.quiet_read fun _ ↦ ⟨⟨rfl, rfl, rfl⟩, id⟩

theorem calm_logEvent (entry : EventEntry) : Calm (StationProg.logEvent st entry) :=
  calm_call (fun _ ↦ rfl) fun _ ↦ rfl

theorem calm_logEvents (entries : List EventEntry) : Calm (logEvents st entries) := by
  induction entries with
  | nil => exact .pure _
  | cons entry rest ih => exact .bind (calm_logEvent entry) fun _ ↦ ih

theorem isolates_relayOpen (address : ℕ) :
    Isolates (StationProg.call st (.relayOpen address)) := by
  intro s
  refine (StationProg.post_call st _ s).mono (fun _ t ht ↦ ?_) fun e t ht ↦ ?_
  · exact ⟨[_], ht, List.forall_mem_singleton.mpr rfl, fun _ ↦ ⟨nofun, nofun⟩⟩
  · exact ⟨[_], ht, List.forall_mem_singleton.mpr rfl⟩

end Programs

/-! ## The sequences -/

section Sequences

variable {X : Type} {st : Station X} {r : SequenceRun X} {ph : Phase X}

theorem calm_connectSense : Calm (connectSense st r ph) := by
  unfold connectSense
  split
  · exact .pure _
  · exact .bind (calm_call (fun _ ↦ rfl) fun _ ↦ rfl) fun _ ↦ calm_logEvent _

theorem calm_disconnectSense : Calm (disconnectSense st r ph) := by
  unfold disconnectSense
  split
  · exact .pure _
  · refine Within.handle ?_ fun _ ↦ .pure _
    exact .bind (calm_call (fun _ ↦ rfl) fun _ ↦ rfl) fun _ ↦ calm_logEvent _

theorem calm_zeroOutputSetpoint (reason : String) :
    Calm ((StationProg.call st (.zeroOutputSetpoint reason)).handle fun _ ↦ pure ⟨⟩) := by
  refine Within.handle ?_ fun _ ↦ .pure _
  exact calm_call (fun _ ↦ rfl) fun _ ↦ rfl

/-- Entries of a slot that end safely if the output was verified off. -/
structure Disabled (verified : Bool) (new : List StationCall) : Prop where
  within : WithinSlot new
  safe : verified = true → SafeEnd new

theorem disabled_outputOff {new old : List StationCall} (hnew : Neutral new) (hold : Neutral old)
    (reason : String) (verified : Bool) :
    Disabled verified (new ++ .outputOff reason verified :: old) where
  within := hnew.within.append (List.forall_mem_cons.mpr ⟨rfl, hold.within⟩)
  safe hverified := by
    subst hverified
    have hlast : SafeEnd [.outputOff reason true] := ⟨nofun, nofun⟩
    exact hnew.safeEnd.append (hlast.append hold.safeEnd)

/-- The sampling may end in any way; where it returns, its verdict is that of the output. -/
theorem post_sampleUntilEnd (s : StationSession X) :
    Post (sampleUntilEnd st r ph) (fun verified t ↦ Adds (Disabled verified) s t)
      (fun _ t ↦ Adds WithinSlot s t) s := by
  have hsample : Calm (StationProg.call st (.sample ph.name)).attempt := by
    refine Within.attempt ?_
    exact calm_call (fun _ ↦ rfl) fun _ ↦ rfl
  refine (post_bind _).mpr ((hsample s).mono (fun ended t ht ↦ ?_)
    fun _ _ h ↦ h.mono fun _ ↦ Neutral.within)
  -- the output is turned off, and the line on it is written
  set reason := s!"end of {ph.name} sequence on channel {r.channel}"
  have hoff : Post (StationProg.emergencyOutputOff st reason)
      (fun verified u ↦ u.trace = .outputOff reason verified :: t.trace) (fun _ _ ↦ False) t := rfl
  refine (post_bind _).mpr (hoff.mono (fun verified u hu ↦ ?_) fun _ _ h ↦ h.elim)
  have hdisabled {v : StationSession X} (hv : Adds Neutral u v) : Adds (Disabled verified) s v := by
    obtain ⟨old, hold, hneutral⟩ := ht
    obtain ⟨new, hnew, hneutral'⟩ := hv
    refine ⟨new ++ .outputOff reason verified :: old, ?_, ?_⟩
    · rw [hnew, hu, hold, List.append_assoc, List.cons_append]
    · exact disabled_outputOff hneutral' hneutral reason verified
  refine (post_bind _).mpr ((calm_logEvent _ u).mono (fun _ v hv ↦ ?_) fun _ v hv ↦ ?_)
  · cases ended with
    | ok _ => exact hdisabled hv
    | error e => exact (hdisabled hv).mono fun _ hnew ↦ hnew.within
  · exact (hdisabled hv).mono fun _ hnew ↦ hnew.within

/-- The escalation always raises. -/
theorem aborts_escalate : Aborts (escalate st r ph) := by
  have hopen : Stays ((StationProg.call st .relayOpenAll).handle fun _ ↦ pure ⟨⟩) := by
    have hsingle (raised : Option Exc) : WithinSlot [.call .relayOpenAll raised] :=
      List.forall_mem_singleton.mpr rfl
    intro s
    refine (post_handle _).mpr ((StationProg.post_call st _ s).mono (fun _ t ht ↦ ?_)
      fun e t ht ↦ ?_)
    · exact ⟨[_], ht, hsingle none⟩
    · exact ⟨[_], ht, hsingle (some e)⟩
  have hget : Calm (Prog.get : StationProg X (StationSession X)) := .get
  have hreport (reason : String) : Calm (StationProg.call st (.reportSafetyFault reason)) :=
    calm_call (fun _ ↦ rfl) fun _ ↦ rfl
  have hacknowledge : Calm (StationProg.call st .acknowledgeSafetyFault) :=
    calm_call (fun _ ↦ rfl) fun _ ↦ rfl
  refine hopen.aborts fun _ ↦ hget.isolates.stays.aborts fun _ ↦ ?_
  refine (hreport _).isolates.stays.aborts fun _ ↦ hacknowledge.isolates.stays.aborts fun _ ↦ ?_
  exact .raise _

theorem isolates_isolate : Isolates (isolate st r ph) := by
  refine .bind (isolates_relayOpen _) fun _ ↦ ?_
  refine Calm.isolates (.bind (calm_logEvent _) fun _ ↦ .bind (calm_logEvent _) fun _ ↦ ?_)
  exact calm_zeroOutputSetpoint _

theorem isolates_checkBatteryPolarity (voltage : ℚ) :
    Isolates (checkBatteryPolarity st r ph voltage) := by
  refine .ite ?_ (Calm.isolates (.pure _))
  exact .bind (calm_logEvent _).isolates fun _ ↦ .raise _

theorem isolates_energize : Isolates (energize st r ph) := by
  have hmode (mode : String) (current voltageLimit : ℚ) :
      Calm (StationProg.call st (.setMode mode current voltageLimit)) :=
    calm_call (fun _ ↦ rfl) fun _ ↦ rfl
  have henable : Calm (StationProg.call st .outputEnable) := calm_call (fun _ ↦ rfl) fun _ ↦ rfl
  refine .bind (calm_read _).isolates fun voltage ↦ ?_
  refine .bind (isolates_checkBatteryPolarity voltage) fun _ ↦ ?_
  refine .bind (hmode _ _ _).isolates fun _ ↦ .bind henable.isolates fun _ ↦ ?_
  refine .bind (calm_logEvent _).isolates fun _ s ↦ ?_
  refine (post_sampleUntilEnd s).bind fun verified t ht ↦ ?_
  cases verified with
  | true =>
    have hsecured : Adds Secured s t := ht.mono fun _ hnew ↦ ⟨hnew.within, fun _ ↦ hnew.safe rfl⟩
    refine (isolates_isolate t).mono (fun _ _ hu ↦ hsecured.secured hu) fun _ _ hu ↦ ?_
    exact hsecured.of_secured.within hu
  | false =>
    -- an output that is not verified off raises
    refine (aborts_escalate t).mono (fun _ _ h ↦ h.elim) fun _ _ hu ↦ ?_
    exact Adds.within (ht.mono fun _ hnew ↦ hnew.within) hu

/-- **A phase that returns has turned its output off and opened its relay.** -/
theorem isolates_phaseBody : Isolates (phaseBody st r ph) := by
  have hcancel : Calm (StationProg.call st .checkCancellation) :=
    calm_call (fun _ ↦ rfl) fun _ ↦ rfl
  have hclose (address : ℕ) : Calm (StationProg.call st (.relayClose address)) :=
    calm_call (fun _ ↦ rfl) fun _ ↦ rfl
  have hstate (channel relay : ℕ) (state : String) :
      Calm (StationProg.call st (.recordExecutionState channel relay state)) :=
    calm_call (fun _ ↦ rfl) fun _ ↦ rfl
  refine .bind hcancel.isolates fun _ ↦ .bind (hclose _).isolates fun _ ↦ ?_
  refine .bind (calm_logEvent _).isolates fun _ ↦ .bind (calm_logEvent _).isolates fun _ ↦ ?_
  refine .bind (hstate _ _ _).isolates fun _ ↦ .bind calm_connectSense.isolates fun _ ↦ ?_
  exact isolates_energize.ensuring calm_disconnectSense.isolates

/-! ### Under the guard -/

/-- A row of a failure that cannot be written for a fault of the battery misleads. -/
structure Misled (e : Exc) (new : List StationCall) : Prop where
  within : WithinSlot new
  misleads : classifyPositionException e = .fail → ∃ c ∈ new, c.Misleads

/-- `x` adds neutral entries, and misleads where it raises a fault of the battery. -/
def Reveals {α : Type} (x : StationProg X α) : Prop := ∀ s,
  Post x (fun _ t ↦ Adds Neutral s t) (fun e t ↦ Adds (Misled e) s t) s

theorem Reveals.bind {α β : Type} {x : StationProg X α} {f : α → StationProg X β}
    (hx : Reveals x) (hf : ∀ a, Reveals (f a)) : Reveals (x >>= f) := by
  intro s
  refine (post_bind f).mpr ((hx s).mono (fun a t ht ↦ ?_) fun _ _ h ↦ h)
  refine (hf a t).mono (fun _ _ hu ↦ ?_) fun e _ hu ↦ ?_
  · exact ht.append hu fun _ _ hold hnew ↦ hnew.append hold
  · refine ht.append hu fun old new hold hnew ↦ ⟨hnew.within.append hold.within, fun hfail ↦ ?_⟩
    obtain ⟨c, hc, hmisleads⟩ := hnew.misleads hfail
    exact ⟨c, List.mem_append_left old hc, hmisleads⟩

theorem Reveals.pure {α : Type} (a : α) : Reveals (Pure.pure a : StationProg X α) := fun _ ↦
  (post_pure a).mpr ⟨[], rfl, faultless_nil⟩

/-- Writing a row. -/
theorem reveals_call {op : Operation}
    (hneutral : ∀ raised, (StationCall.call op raised).IsNeutral)
    (hmisleads : ∀ e, classifyPositionException e = .fail →
      (StationCall.call op (some e)).Misleads) :
    Reveals (StationProg.call st op) := by
  intro s
  refine (StationProg.post_call st op s).mono (fun _ t ht ↦ ?_) fun e t ht ↦ ?_
  · exact ⟨[_], ht, List.forall_mem_singleton.mpr ⟨hneutral none, id⟩⟩
  · exact ⟨[_], ht, List.forall_mem_singleton.mpr (hneutral (some e)).1,
      fun hfail ↦ ⟨_, List.mem_singleton_self _, hmisleads e hfail⟩⟩

theorem reveals_logEvents (entries : List EventEntry) : Reveals (logEvents st entries) := by
  induction entries with
  | nil => exact .pure _
  | cons entry rest ih =>
    exact .bind (reveals_call (fun _ ↦ ⟨rfl, rfl, rfl⟩) fun _ h ↦ h) fun _ ↦ ih

variable {g : GuardedRun X}

theorem reveals_extraRunSummaryFields : Reveals (extraRunSummaryFields g) := by
  intro s
  unfold Post extraRunSummaryFields
  rcases g.extraFields s.world with ⟨e | fields, world⟩
  · refine ⟨[.extraFields (some e)], rfl, fun c hc ↦ ?_, fun hfail ↦ ?_⟩
    · rw [List.mem_singleton.mp hc]
      rfl
    · exact ⟨_, List.mem_singleton_self _, hfail⟩
  · exact ⟨[.extraFields none], rfl, List.forall_mem_singleton.mpr ⟨⟨rfl, rfl, rfl⟩, id⟩⟩

/-- `x` never raises, and adds neutral entries. -/
abbrev Mute {α : Type} (x : StationProg X α) : Prop :=
  Silent StationSession.trace StationCall.IsNeutral (fun _ ↦ False) x

theorem reveals_of_mute {α : Type} {x : StationProg X α} (hx : Mute x) : Reveals x := fun s ↦
  (hx s).mono (fun _ _ h ↦ h) fun _ _ h ↦ h.elim

theorem mute_onEvent (message : String) : Mute (onEvent st g message) :=
  (StationProg.quiet_call fun _ ↦ ⟨⟨rfl, rfl, rfl⟩, id⟩).silenced fun _ ↦ .pure _

theorem reveals_safeFinalVoltageReading : Reveals (safeFinalVoltageReading st g) := by
  unfold safeFinalVoltageReading
  split
  · intro s
    rw [post_bind, post_attempt]
    have hread : Calm (StationProg.read st .finalVoltage) := calm_read _
    exact (hread s).mono (fun _ _ h ↦ h) fun _ _ h ↦ h
  · exact .pure _

theorem reveals_recordFailure (clause : ExceptClause) : Reveals (recordFailure st g clause) := by
  have hrow {op : Operation} (hneutral : ∀ raised, (StationCall.call op raised).IsNeutral)
      (hmisleads : ∀ e, classifyPositionException e = .fail →
        (StationCall.call op (some e)).Misleads) : Reveals (StationProg.call st op) :=
    reveals_call hneutral hmisleads
  refine .bind (reveals_of_mute (mute_onEvent _)) fun _ ↦ .bind (reveals_logEvents _) fun _ ↦ ?_
  refine .bind (hrow (fun _ ↦ ⟨rfl, rfl, rfl⟩) fun _ h ↦ h) fun _ ↦ ?_
  refine .bind reveals_extraRunSummaryFields fun _ ↦ ?_
  refine .bind reveals_safeFinalVoltageReading fun _ ↦ ?_
  exact hrow (fun _ ↦ ⟨rfl, rfl, rfl⟩) fun _ h ↦ h

/-- One verdict on the relays, and none on the output. -/
structure OpensOnce (new : List StationCall) : Prop where
  within : WithinSlot new
  output : outputVerdicts new = []
  relays : ∃ opened, openingVerdicts new = [opened]

theorem opensOnce_openRelays (s : StationSession X) :
    Post (openRelays st g) (fun _ t ↦ Adds OpensOnce s t) (fun _ _ ↦ False) s := by
  have hopens {raised : Option Exc} {t u : StationSession X}
      (ht : t.trace = .call .relayOpenAll raised :: s.trace) (hu : Adds Neutral t u) :
      Adds OpensOnce s u := by
    obtain ⟨new, hnew, hneutral⟩ := hu
    refine ⟨new ++ [.call .relayOpenAll raised], ?_, ?_, ?_, raised.isNone, ?_⟩
    · rw [hnew, ht, List.append_assoc, List.singleton_append]
    · exact (Neutral.within hneutral).append (List.forall_mem_singleton.mpr rfl)
    · rw [outputVerdicts_append, Neutral.outputVerdicts_eq hneutral]
      rfl
    · rw [openingVerdicts_append, Neutral.openingVerdicts_eq hneutral]
      rfl
  rw [openRelays, post_handle, post_bind]
  refine (StationProg.post_call st .relayOpenAll s).mono (fun _ t ht ↦ ?_) fun e t ht ↦ ?_
  · have hevents : Mute (do
        onEvent st g "relay_matrix.open_all executed"
        onEvent st g
          (eventMessage "RELAY_OPEN_ALL" [("relay_matrix_name", g.relayMatrixName)])) :=
      .bind (mute_onEvent _) fun _ ↦ mute_onEvent _
    exact (hevents t).mono (fun _ _ hu ↦ hopens ht hu) fun _ _ h ↦ h.elim
  · exact (mute_onEvent _ t).mono (fun _ _ hu ↦ hopens ht hu) fun _ _ h ↦ h

/-- One verdict on the output, and one on the relays. -/
structure StopsOnce (new : List StationCall) : Prop where
  within : WithinSlot new
  output : ∃ verified, outputVerdicts new = [verified]
  relays : ∃ opened, openingVerdicts new = [opened]

/-- **A shutdown asks once for the output and once for the relays**, and never raises. -/
theorem stopsOnce_shutDownHardware (reason : String) (s : StationSession X) :
    Post (shutDownHardware st g reason) (fun _ t ↦ Adds StopsOnce s t) (fun _ _ ↦ False) s := by
  refine (mute_onEvent _ s).bind fun _ t ht ↦ ?_
  have hoff : Post (StationProg.emergencyOutputOff st reason)
      (fun verified u ↦ u.trace = .outputOff reason verified :: t.trace) (fun _ _ ↦ False) t := rfl
  refine hoff.bind fun verified u hu ↦ ?_
  refine (opensOnce_openRelays u).bind fun _ v hv ↦ ?_
  have hzero : Mute ((StationProg.call st (.zeroOutputSetpoint reason)).handle fun _ ↦ pure ⟨⟩) :=
    (StationProg.quiet_call fun _ ↦ ⟨⟨rfl, rfl, rfl⟩, id⟩).silenced fun _ ↦ .pure _
  have hevent (message : String) : Mute (onEvent st g message) := mute_onEvent message
  have hrest := hzero.bind fun _ ↦ (hevent "shutdown completed").bind fun _ ↦
    hevent (eventMessage "EMERGENCY_STOP_COMPLETED" [("reason", reason)])
  refine (hrest v).mono (fun _ w hw ↦ ?_) fun _ _ h ↦ h
  obtain ⟨first, hfirst, hneutral⟩ := ht
  obtain ⟨opens, hopens, hwithin, houtput, opened, hopened⟩ := hv
  obtain ⟨last, hlast, hneutral'⟩ := hw
  refine ⟨last ++ (opens ++ .outputOff reason verified :: first), ?_, ?_, ⟨verified, ?_⟩,
    opened, ?_⟩
  · rw [hlast, hopens, hu, hfirst, List.append_assoc, List.append_assoc, List.cons_append]
  · refine (Neutral.within hneutral').append (hwithin.append ?_)
    exact List.forall_mem_cons.mpr ⟨rfl, Neutral.within hneutral⟩
  · rw [outputVerdicts_append, outputVerdicts_append, Neutral.outputVerdicts_eq hneutral', houtput]
    change verified :: outputVerdicts first = [verified]
    rw [Neutral.outputVerdicts_eq hneutral]
  · rw [openingVerdicts_append, openingVerdicts_append, Neutral.openingVerdicts_eq hneutral',
      hopened]
    change opened :: openingVerdicts first = [opened]
    rw [Neutral.openingVerdicts_eq hneutral]

/-- Whatever was before, the output is off and the relays are open. -/
structure ShutsOff (new : List StationCall) : Prop where
  output : (outputVerdicts new).head? = some true
  relays : (openingVerdicts new).head? = some true

theorem ShutsOff.safeEnd {new : List StationCall} (h : ShutsOff new) (old : List StationCall) :
    SafeEnd (new ++ old) := by
  constructor
  · rw [outputVerdicts_append, List.head?_append, h.output]
    exact nofun
  · rw [openingVerdicts_append, List.head?_append, h.relays]
    exact nofun

theorem StopsOnce.shutsOff {newer : List StationCall} {e : Exc} (h : StopsOnce newer)
    (hfail : classifyPositionException e = .fail)
    (hverified : StopsAreVerified (newer ++ [.emergencyStop e])) :
    ShutsOff (newer ++ [.emergencyStop e]) := by
  obtain ⟨-, ⟨verified, houtput⟩, opened, hopened⟩ := h
  have hstop := hverified.stopped newer e [] rfl hfail
  have hoff : verified = true := by
    simpa [houtput] using hstop.output
  have hopen : opened = true := by
    simpa [hopened] using hstop.relays
  constructor
  · rw [outputVerdicts_append, houtput, hoff]
    rfl
  · rw [openingVerdicts_append, hopened, hopen]
    rfl

/-- No cancellation is taken for a fault of the battery. -/
theorem not_cancels_of_fail {e : Exc} (h : classifyPositionException e = .fail) :
    (exceptClause g e).cancels = false := by
  have hcls := (classifyPositionException_eq_fail_iff e).mp h
  obtain ⟨cls, message⟩ := e
  rcases hcls with rfl | rfl | rfl | rfl <;> rfl

theorem post_shutDown_admitted (e : Exc) (s : StationSession X) :
    Post (shutDown st g (exceptClause g e) e)
      (fun _ t ↦ Adds (fun new ↦ WithinSlot new ∧ (classifyPositionException e = .fail →
        StopsAreVerified new → ShutsOff new)) s t) (fun _ _ ↦ False) s := by
  have hnoted {c : StationCall} (hslot : c.isSlot = false) {t : StationSession X}
      (ht : Adds StopsOnce (s.after c s.world) t) :
      ∃ newer, t.trace = (newer ++ [c]) ++ s.trace ∧ StopsOnce newer ∧
        WithinSlot (newer ++ [c]) := by
    obtain ⟨newer, hnewer, hstops⟩ := ht
    refine ⟨newer, ?_, hstops, hstops.within.append fun d hd ↦ ?_⟩
    · rw [hnewer, List.append_assoc]
      rfl
    · rw [List.mem_singleton.mp hd]
      exact hslot
  rw [shutDown, post_ite]
  split
  · next hcancels =>
    refine (post_bind _).mpr ((stopsOnce_shutDownHardware e.message _).mono (fun _ t ht ↦ ?_)
      fun _ _ h ↦ h)
    obtain ⟨newer, hnewer, -, hwithin⟩ := hnoted rfl ht
    refine ⟨_, hnewer, hwithin, fun hfail ↦ ?_⟩
    rw [not_cancels_of_fail hfail] at hcancels
    exact absurd hcancels Bool.false_ne_true
  · refine (post_bind _).mpr ((stopsOnce_shutDownHardware e.message _).mono (fun _ t ht ↦ ?_)
      fun _ _ h ↦ h)
    obtain ⟨newer, hnewer, hstops, hwithin⟩ := hnoted rfl ht
    exact ⟨_, hnewer, hwithin, fun hfail hverified ↦ hstops.shutsOff hfail hverified⟩

/-- **The guard is honest.** A guarded operation that returns only after a safe end also ends safely
where it raises a fault of the battery, if the stop for it was verified. -/
theorem Isolates.honest_runGuarded {α : Type} {fn : StationProg X α} (hfn : Isolates fn) :
    Honest (runGuarded st g fn) := by
  intro s
  rw [runGuarded, post_handle]
  refine (hfn s).mono (fun _ _ h ↦ h) fun e t ht ↦ ?_
  refine (post_bind _).mpr ((reveals_recordFailure _ t).mono (fun _ u hu ↦ ?_) fun e' u hu ↦ ?_)
  · refine (post_bind _).mpr ((post_shutDown_admitted e u).mono (fun _ v hv ↦ ?_)
      fun _ _ h ↦ h.elim)
    have hbefore : Adds WithinSlot s u := ht.within (hu.mono fun _ ↦ Neutral.within)
    refine (post_raise e).mpr (hbefore.append hv fun old new hold hnew ↦ ?_)
    exact ⟨hnew.1.append hold, fun hfail h ↦ (hnew.2 hfail h.left).safeEnd old⟩
  · -- the rows of the failure cannot be written, and the shutdown is not reached
    refine ht.append hu fun old new hold hnew ↦ ⟨hnew.within.append hold, fun hfail h ↦ ?_⟩
    obtain ⟨c, hc, hmisleads⟩ := hnew.misleads hfail
    exact absurd hmisleads (h.left.recorded c hc)

theorem calm_complete (message : String) : Calm (complete st g message) := by
  have hstate (channel relay : ℕ) (state : String) :
      Calm (StationProg.call st (.recordExecutionState channel relay state)) :=
    calm_call (fun _ ↦ rfl) fun _ ↦ rfl
  have hfinish (stopReason result : String) (fields : List (String × FieldValue)) :
      Calm (StationProg.call st (.finishRunSummary stopReason result fields)) :=
    calm_call (fun _ ↦ rfl) fun _ ↦ rfl
  have hfields : Calm (extraRunSummaryFields g) := by
    intro s
    unfold Post extraRunSummaryFields
    rcases g.extraFields s.world with ⟨e | fields, world⟩
    · exact ⟨[.extraFields (some e)], rfl, List.forall_mem_singleton.mpr ⟨⟨rfl, rfl, rfl⟩, id⟩⟩
    · exact ⟨[.extraFields none], rfl, List.forall_mem_singleton.mpr ⟨⟨rfl, rfl, rfl⟩, id⟩⟩
  refine .bind hfields fun _ ↦ .bind (hstate _ _ _) fun _ ↦ .bind (hfinish _ _ _) fun _ ↦ ?_
  exact calm_logEvent _

theorem honest_runPhase : Honest (runPhase st r ph) := by
  have hnumber : Calm (StationProg.call st .runNumber) := calm_call (fun _ ↦ rfl) fun _ ↦ rfl
  refine .bind hnumber.honest fun _ ↦ .bind isolates_phaseBody.honest_runGuarded fun _ ↦ ?_
  exact (calm_complete _).honest

theorem isolates_cyclePhase : Isolates (cyclePhase st r ph) := by
  have hmake (testType : String) : Calm (StationProg.call st (.makePhaseStorage testType)) :=
    calm_call (fun _ ↦ rfl) fun _ ↦ rfl
  have hclose (testType : String) : Calm (StationProg.call st (.closePhaseStorage testType)) :=
    calm_call (fun _ ↦ rfl) fun _ ↦ rfl
  have hreclassify : Calm (reclassifyPhaseAsStationFault st r) :=
    .bind (calm_call (fun _ ↦ rfl) fun _ ↦ rfl) fun _ ↦ calm_call (fun _ ↦ rfl) fun _ ↦ rfl
  refine .bind (hmake _).isolates fun _ ↦ .ensuring ?_ (hclose _).isolates
  refine honest_runPhase.isolates.handle fun e ↦ ?_
  split
  · exact hreclassify.isolates.stays.aborts fun _ ↦ .raise e
  · exact .raise e

theorem isolates_runRepetitions (repetitions : List ℕ) :
    Isolates (runRepetitions st r repetitions) := by
  have hcancel : Calm (StationProg.call st .checkCancellation) :=
    calm_call (fun _ ↦ rfl) fun _ ↦ rfl
  have hrest : Calm (StationProg.call st .rest) := calm_call (fun _ ↦ rfl) fun _ ↦ rfl
  have hlog (entry : EventEntry) : Isolates (StationProg.logEvent st entry) :=
    (calm_logEvent entry).isolates
  induction repetitions with
  | nil => exact Calm.isolates (.pure _)
  | cons repetition rest ih =>
    refine .bind ?_ fun _ ↦ ih
    refine .bind hcancel.isolates fun _ ↦ .bind (hlog _) fun _ ↦ ?_
    refine .bind isolates_cyclePhase fun _ ↦ .bind hcancel.isolates fun _ ↦ ?_
    refine .bind (hlog _) fun _ ↦ .bind hrest.isolates fun _ ↦ .bind (hlog _) fun _ ↦ ?_
    exact .bind isolates_cyclePhase fun _ ↦ hlog _

/-- **Every sequence is honest.** -/
theorem honest_run (c : SequenceClass) : Honest (c.run st r) := by
  cases c with
  | charge => exact honest_runPhase
  | discharge => exact honest_runPhase
  | cycle =>
    refine .bind (isolates_runRepetitions _).honest_runGuarded fun _ ↦ ?_
    exact (calm_complete _).honest

end Sequences

/-! ## One position -/

section Position

variable {X : Type} {st : Station X} {p : PrecheckRun}

theorem calm_recordMeasurement (entry : MeasurementEntry) :
    Calm (StationProg.call st (.recordMeasurement entry)) :=
  calm_call (fun _ ↦ rfl) fun _ ↦ rfl

theorem calm_ntcReading (position : ℕ) : Calm (ntcReading st p position) := by
  unfold ntcReading
  cases p.ntcChannel position with
  | none => exact .bind (calm_logEvent _) fun _ ↦ .pure _
  | some channel =>
    refine .bind (Within.attempt (calm_read _)) fun result ↦ ?_
    cases result with
    | ok voltage => exact .pure _
    | error e => exact .ite (.bind (calm_logEvent _) fun _ ↦ .pure _) (.raise e)

theorem calm_ntcPositions (positions : List ℕ) : Calm (ntcPositions st p positions) := by
  induction positions with
  | nil => exact .pure _
  | cons position rest ih =>
    refine .bind ?_ fun _ ↦ .bind ih fun _ ↦ .pure _
    refine .bind (calm_ntcReading position) fun _ ↦ ?_
    exact .bind (calm_recordMeasurement _) fun _ ↦ .bind (calm_logEvent _) fun _ ↦ .pure _

theorem calm_readBattery : Calm (readBattery st p) := by
  refine .bind (Within.attempt (calm_read _)) fun result ↦ ?_
  cases result with
  | ok voltage => exact .pure _
  | error e => exact .bind (calm_logEvent _) fun _ ↦ .pure _

theorem calm_warnReversed (voltage : Option ℚ) : Calm (warnReversed st p voltage) := by
  cases voltage with
  | none => exact .pure _
  | some v => exact .ite (calm_logEvent _) (.pure _)

/-- The pre-check returns only after it has opened the relay again. -/
theorem isolates_precheck : Isolates (precheck st p) := by
  have hclose : Calm (StationProg.call st (.relayClose p.relayAddress)) :=
    calm_call (fun _ ↦ rfl) fun _ ↦ rfl
  have hsnapshot : Calm (ntcGroupSnapshot st p) := .ite (calm_ntcPositions _) (.pure _)
  have hread : Isolates ((readBattery st p).ensuring
      (StationProg.call st (.relayOpen p.relayAddress))) :=
    calm_readBattery.isolates.ensuring (isolates_relayOpen _)
  refine .bind hclose.isolates fun _ ↦ .bind hread fun voltage ↦ Calm.isolates ?_
  refine .bind (calm_recordMeasurement _) fun _ ↦ .bind hsnapshot fun snapshot ↦ ?_
  refine .bind (calm_warnReversed voltage) fun _ ↦ .bind ?_ fun _ ↦ .pure _
  exact .bind (calm_logEvent _) fun _ ↦ .ite (.pure _) (calm_logEvent _)

/-- `x` ends in a result that stops the run, or after a safe end. -/
def Leaves (x : StationProg X PositionResult) : Prop := ∀ s,
  Post x (fun result t ↦ Adds (SecuredIf (¬result.StopsRun)) s t)
    (fun _ t ↦ Adds WithinSlot s t) s

theorem Isolates.leaves {x : StationProg X PositionResult} (hx : Isolates x) : Leaves x := fun s ↦
  (hx s).mono (fun _ _ h ↦ h.mono fun _ hnew ↦ hnew.securedIf) fun _ _ h ↦ h

theorem Isolates.then_leaves {α : Type} {x : StationProg X α} {f : α → StationProg X PositionResult}
    (hx : Isolates x) (hf : ∀ a, Leaves (f a)) : Leaves (x >>= f) := by
  intro s
  refine (post_bind f).mpr ((hx s).mono (fun a t ht ↦ ?_) fun _ _ h ↦ h)
  exact (hf a t).mono (fun _ _ hu ↦ ht.securedIf hu) fun _ _ hu ↦ ht.of_secured.within hu

theorem Leaves.ite {c : Prop} [Decidable c] {x y : StationProg X PositionResult} (hx : Leaves x)
    (hy : Leaves y) : Leaves (if c then x else y) := by
  split
  · exact hx
  · exact hy

/-- The ends of a sequence after which the loop moves on. -/
def SequenceEnd.MovesOn : SequenceEnd → Prop
  | .completed => True
  | .raised e => classifyPositionException e = .fail
  | .interrupted => False

/-- `run` never raises, and where the loop moves on after it, it has ended safely. -/
def Concludes (run : StationProg X SequenceEnd) : Prop := ∀ s,
  Post run (fun ended t ↦ Adds (SecuredIf ended.MovesOn) s t) (fun _ _ ↦ False) s

theorem Honest.concludes {x : StationProg X PUnit} (hx : Honest x) : Concludes (sequenceEnd x) := by
  intro s
  refine (post_bind _).mpr (post_attempt.mpr ((hx s).mono (fun _ _ h ↦ ?_) fun _ _ h ↦ h))
  exact h.mono fun _ hnew ↦ hnew.securedIf

variable {p : PositionRun}

theorem calm_recordStationFault (exception message : String) :
    Calm (recordStationFault st p exception message) :=
  .bind (calm_call (fun _ ↦ rfl) fun _ ↦ rfl) fun _ ↦
    .bind (calm_call (fun _ ↦ rfl) fun _ ↦ rfl) fun _ ↦ calm_logEvent _

theorem post_classifyEnd_neutral (ended : SequenceEnd) (s : StationSession X) :
    Post (classifyEnd st p ended)
      (fun result t ↦ Adds Neutral s t ∧ (¬result.StopsRun → ended.MovesOn))
      (fun _ t ↦ Adds Neutral s t) s := by
  have hnothing : Adds Neutral s s := ⟨[], rfl, faultless_nil⟩
  cases ended with
  | completed => exact ⟨hnothing, fun _ ↦ trivial⟩
  | interrupted => exact ⟨hnothing, fun h ↦ h (Or.inl rfl)⟩
  | raised e =>
    rw [classifyEnd, post_ite]
    split
    · exact ⟨hnothing, fun h ↦ absurd (Or.inl rfl) h⟩
    · rw [post_ite]
      split
      · refine (calm_recordStationFault _ _ s).bind fun _ t ht ↦ ?_
        exact ⟨ht, fun h ↦ absurd (Or.inr rfl) h⟩
      · next hstation =>
        refine ⟨hnothing, fun _ ↦ ?_⟩
        rcases classifyPositionException_cases e with h | h
        · exact h
        · exact absurd h hstation

/-- **A position after which the loop moves on has ended safely.** -/
theorem Concludes.leaves {run : StationProg X SequenceEnd} (hrun : Concludes run) :
    Leaves (runOnePosition st run p) := by
  have hcall {op : Operation} (hslot : ∀ raised, (StationCall.call op raised).isSlot = false)
      (hopening : ∀ raised, (StationCall.call op raised).openingVerdict = none) :
      Isolates (StationProg.call st op) := (calm_call hslot hopening).isolates
  have hstart : Calm (startRunSummaryGuarded st p) := by
    refine Within.handle (.bind (calm_call (fun _ ↦ rfl) fun _ ↦ rfl) fun _ ↦ .pure _) fun e ↦ ?_
    exact .ite (.pure _) (.raise e)
  refine hstart.isolates.then_leaves fun started ↦ .ite ?_ (Calm.isolates (.pure _)).leaves
  refine (calm_logEvents _).isolates.then_leaves fun _ ↦ ?_
  refine isolates_precheck.then_leaves fun found ↦ .ite ?_ (.ite ?_ ?_)
  · exact (Calm.isolates (.bind (calm_recordStationFault _ _) fun _ ↦ .pure _)).leaves
  · intro s
    refine (post_bind _).mpr ((hrun s).mono (fun ended t ht ↦ ?_) fun _ _ h ↦ h.elim)
    refine (post_bind _).mpr ((post_classifyEnd_neutral ended t).mono (fun result u hu ↦ ?_)
      fun _ u hu ↦ ?_)
    · have hdone : Adds (SecuredIf (¬result.StopsRun)) s u := by
        refine ht.append hu.1 fun old new hold hnew ↦ .append (Neutral.secured hnew).securedIf ?_
        exact ⟨hold.within, fun hmoves ↦ hold.safe (hu.2 hmoves)⟩
      have hprint : Calm (StationProg.call st .printPostRunSummary) :=
        calm_call (fun _ ↦ rfl) fun _ ↦ rfl
      refine (post_bind _).mpr ((hprint u).mono (fun _ v hv ↦ ?_) fun _ v hv ↦ ?_)
      · exact hdone.append hv fun _ _ hold hnew ↦ .append (Neutral.secured hnew).securedIf hold
      · exact hdone.append hv fun _ _ hold hnew ↦ (Neutral.within hnew).append hold.within
    · exact ht.append hu fun _ _ hold hnew ↦ (Neutral.within hnew).append hold.within
  · refine (hcall (fun _ ↦ rfl) fun _ ↦ rfl).then_leaves fun _ ↦ ?_
    exact (hcall (fun _ ↦ rfl) fun _ ↦ rfl).then_leaves fun _ ↦ (Calm.isolates (.pure _)).leaves

end Position

/-! ## The loop -/

section Loop

variable {X : Type} {st : Station X} {run : PositionRun → StationProg X SequenceEnd}

/-- Relays were closed safely so far, and may be closed in the slot that is open. -/
structure InSlot (trace : List StationCall) : Prop where
  moves : MovesOnSafely trace
  before : SafeEnd (beforeSlot trace)

/-- Between two slots the next one may begin, too. -/
structure BetweenSlots (trace : List StationCall) : Prop extends InSlot trace where
  safe : SafeEnd trace

theorem InSlot.append {new old : List StationCall} (h : InSlot old) (hnew : WithinSlot new) :
    InSlot (new ++ old) where
  moves := h.moves.append h.before hnew
  before := by
    rw [beforeSlot_append hnew]
    exact h.before

theorem BetweenSlots.begin {older : List StationCall} (h : BetweenSlots older)
    (raised : Option Exc) : BetweenSlots (.call .beginNewRunId raised :: older) where
  moves := ⟨nofun, h.moves⟩
  before := h.safe
  safe := ⟨h.safe.output, h.safe.relays⟩

/-- If the stops were verified, a property of the trace. -/
abbrev OnceVerified (I : List StationCall → Prop) (s : StationSession X) : Prop :=
  StopsAreVerified s.trace → I s.trace

theorem OnceVerified.within {s t : StationSession X} (h : OnceVerified InSlot s)
    (hst : Adds WithinSlot s t) : OnceVerified InSlot t := by
  obtain ⟨new, hnew, hwithin⟩ := hst
  intro hverified
  rw [hnew] at hverified ⊢
  exact (h hverified.right).append hwithin

theorem OnceVerified.secured {s t : StationSession X} (h : OnceVerified BetweenSlots s)
    (hst : Adds Secured s t) : OnceVerified BetweenSlots t := by
  obtain ⟨new, hnew, hsecured⟩ := hst
  intro hverified
  rw [hnew] at hverified ⊢
  have hold := h hverified.right
  exact ⟨hold.toInSlot.append hsecured.within, (hsecured.safe hverified.left).append hold.safe⟩

/-- **The loop, by induction on the positions.** Every slot begins after a safe end. -/
theorem post_runPositions (hrun : ∀ p, Concludes (run p)) (g : GroupRun) (positions : List ℕ)
    (s : StationSession X) (h : OnceVerified BetweenSlots s) :
    Post (runPositions st run g positions) (fun _ t ↦ OnceVerified InSlot t)
      (fun _ t ↦ OnceVerified InSlot t) s := by
  induction positions generalizing s with
  | nil => exact fun hverified ↦ (h hverified).toInSlot
  | cons position rest ih =>
    unfold runPositions
    cases g.config position with
    | none => exact ih s h
    | some p =>
      have hbegin {raised : Option Exc} {t : StationSession X}
          (ht : t.trace = .call .beginNewRunId raised :: s.trace) :
          OnceVerified BetweenSlots t := by
        intro hverified
        rw [ht, ← List.singleton_append] at hverified
        rw [ht]
        exact (h hverified.right).begin raised
      refine (post_bind _).mpr ((StationProg.post_call st _ s).mono (fun _ t ht ↦ ?_)
        fun _ t ht hverified ↦ (hbegin ht hverified).toInSlot)
      have hlog (entry : EventEntry) : Isolates (StationProg.logEvent st entry) :=
        (calm_logEvent entry).isolates
      refine (post_bind _).mpr ((hlog _ t).mono (fun _ u hu ↦ ?_) fun _ u hu ↦ ?_)
      · have hstarted := (hbegin ht).secured hu
        have hinslot : OnceVerified InSlot u := fun hverified ↦ (hstarted hverified).toInSlot
        refine (post_bind _).mpr (((hrun p).leaves u).mono (fun result v hv ↦ ?_)
          fun _ v hv ↦ hinslot.within hv)
        have hafter : OnceVerified InSlot v := hinslot.within (hv.mono fun _ hnew ↦ hnew.within)
        refine (post_bind _).mpr ((hlog _ v).mono (fun _ w hw ↦ ?_)
          fun _ w hw ↦ hafter.within hw)
        rw [post_ite]
        split
        · exact hafter.within hw.of_secured
        · -- the loop moves on
          next hmoves =>
          have hsecured : Adds Secured u v := hv.mono fun _ hnew ↦ ⟨hnew.within, hnew.safe hmoves⟩
          have hnext := (hstarted.secured hsecured).secured hw
          exact (post_bind _).mpr ((ih w hnext).mono (fun _ _ hx ↦ hx) fun _ _ hx ↦ hx)
      · have hinslot : OnceVerified InSlot t := fun hverified ↦ (hbegin ht hverified).toInSlot
        exact hinslot.within hu

/-- **When a group run moves on safely.** In every run, whatever the station does, a relay is
closed for a position only after the last attempt to turn the output off was verified and the last
opening of relays returned, if every `emergency_stop` for a fault of the battery under test turned
the output off and opened the relays, and no row of a failure raised such a fault. -/
theorem movesOnSafely_of_stopsAreVerified (st : Station X) (c : SequenceClass)
    (r : PositionRun → SequenceRun X) (g : GroupRun) (world : X) :
    Post (runGroupAllPositions st (fun p ↦ sequenceEnd (c.run st (r p))) g)
      (fun _ t ↦ StopsAreVerified t.trace → MovesOnSafely t.trace)
      (fun _ t ↦ StopsAreVerified t.trace → MovesOnSafely t.trace) ⟨world, []⟩ := by
  have hinstrument : Calm (startSenseRouter st g) := by
    refine Within.ite ?_ (.pure _)
    exact calm_call (fun _ ↦ rfl) fun _ ↦ rfl
  have hshutdown : Isolates (stopSenseRouter st g) := by
    refine Calm.isolates (Within.ite (Within.handle ?_ fun _ ↦ .pure _) (.pure _))
    exact calm_call (fun _ ↦ rfl) fun _ ↦ rfl
  have hlog (entry : EventEntry) : Isolates (StationProg.logEvent st entry) :=
    (calm_logEvent entry).isolates
  have hrun (p : PositionRun) : Concludes (sequenceEnd (c.run st (r p))) := (honest_run c).concludes
  have hnil : OnceVerified BetweenSlots (⟨world, []⟩ : StationSession X) := fun _ ↦
    ⟨⟨trivial, nofun, nofun⟩, nofun, nofun⟩
  have hin {s : StationSession X} (h : OnceVerified BetweenSlots s) : OnceVerified InSlot s :=
    fun hverified ↦ (h hverified).toInSlot
  have hbody : Post (runGroupBody st (fun p ↦ sequenceEnd (c.run st (r p))) g)
      (fun _ t ↦ OnceVerified InSlot t) (fun _ t ↦ OnceVerified InSlot t) ⟨world, []⟩ := by
    refine (post_bind _).mpr ((hinstrument.isolates _).mono (fun _ t ht ↦ ?_)
      fun _ _ ht ↦ (hin hnil).within ht)
    have hstarted := hnil.secured ht
    refine (post_bind _).mpr ((hlog _ t).mono (fun _ u hu ↦ ?_)
      fun _ _ hu ↦ (hin hstarted).within hu)
    refine (post_runPositions hrun g _ u (hstarted.secured hu)).bind fun results v hv ↦ ?_
    refine (post_bind _).mpr ((hlog _ v).mono (fun _ w hw ↦ ?_) fun _ _ hw ↦ hv.within hw)
    exact hv.within hw.of_secured
  rw [runGroupAllPositions, post_ensuring]
  have hend {t u : StationSession X} (ht : OnceVerified InSlot t) (hu : Adds WithinSlot t u) :
      StopsAreVerified u.trace → MovesOnSafely u.trace := fun hverified ↦
    (ht.within hu hverified).moves
  refine hbody.mono (fun _ t ht ↦ ?_) fun _ t ht ↦ ?_
  · exact (hshutdown t).mono (fun _ _ hu ↦ hend ht hu.of_secured) fun _ _ hu ↦ hend ht hu
  · exact (hshutdown t).mono (fun _ _ hu ↦ hend ht hu.of_secured) fun _ _ hu ↦ hend ht hu

end Loop

/-! ## A timeout with an output that stays on -/

/-- A station whose sampling times out, and whose output cannot be verified off. -/
def stuckOutputStation : Station Unit where
  perform op x :=
    match op with
    | .sample _ => (some ⟨.nipxiTimeoutError, "charge timeout"⟩, x)
    | _ => (none, x)
  read _ x := (.ok 3, x)
  emergencyOutputOff _ x := (false, x)
  sequence _ x := ((.completed, true), x)
  ntcVoltageToCelsius _ := none

/-- A charge at a position. -/
def chargeAt (p : PositionRun) : SequenceRun Unit where
  channel := p.position
  relayAddress := p.relayAddress
  relayMatrixName := p.relayMatrixName
  smuModel := "2400"
  smuResource := "COM3"
  sense := none
  chargeCurrentA := 1
  chargeVoltageV := 21 / 5
  dischargeCurrentA := 1
  dischargeCutoffV := 3
  voltageMinV := 5 / 2
  voltageMaxV := 21 / 5
  chargeFields x := (.ok Dict.empty, x)
  dischargeFields x := (.ok Dict.empty, x)
  verificationResult _ := "UNVERIFIED"
  cycleCount := 1
  cycleRestS := 0

/-- Two positions of one group. -/
def twoPositions : GroupRun where
  group := "A"
  positions := [1, 2]
  config position := some { onePosition with position := position, relayAddress := position }
  hasSenseChannel := false

/-- The relay of the second position is closed with the output still on. -/
theorem not_movesOnSafely_stuckOutput :
    ¬∀ (X : Type) (st : Station X) (c : SequenceClass) (r : PositionRun → SequenceRun X)
      (g : GroupRun) (world : X),
      Post (runGroupAllPositions st (fun p ↦ sequenceEnd (c.run st (r p))) g)
        (fun _ t ↦ MovesOnSafely t.trace) (fun _ t ↦ MovesOnSafely t.trace) ⟨world, []⟩ := by
  have hrun : ((runGroupAllPositions stuckOutputStation
      (fun p ↦ sequenceEnd (SequenceClass.charge.run stuckOutputStation (chargeAt p))) twoPositions
      ⟨(), []⟩).final.map fun t ↦ decide (MovesOnSafely t.trace)) = some false := by decide +kernel
  simp only [not_forall]
  exact ⟨Unit, stuckOutputStation, .charge, chargeAt, twoPositions, (), not_post_of_final hrun⟩

end Nipxi
