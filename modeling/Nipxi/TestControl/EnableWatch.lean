import Nipxi.TestControl.GroupCancellation
import Nipxi.TestControl.SamplingLoop
import Nipxi.Utils.InterruptibleSleep

/-!
# Outputs enabled after Ctrl+C

`output_enable` under a request that comes at any instant of a Group → ALL run. Between the first
checkpoint of a phase and its `output_enable` there is none, so one output may still be enabled
after the request. The next thing the phase does is the stabilization wait, whose first act is a
checkpoint: it raises before anything is measured, `emergency_output_off` is called on the way out,
and the exception ends the loop. So does every exception that can replace it, since neither the
storage nor `output_enable` raises a fault of the battery under test.
-/

open Collections Effect

namespace Nipxi

/-! ## What has to be watched -/

/-- What happened since the request, as far as it matters for the output. -/
inductive EnableWatch where
  /-- Nobody asked. -/
  | idle
  | requested
  /-- An output was enabled after the request; whether `emergency_output_off` was called since. -/
  | enabled (off : Bool)
  /-- After that, another output was enabled, a measurement was recorded, or a relay was closed
  before `emergency_output_off` was called. -/
  | broken
  deriving DecidableEq

/-- An operation that does not enable the output. -/
def Operation.SparesOutput : Operation → Prop
  | .outputEnable => False
  | _ => True

/-- An operation that does not matter after an output was enabled either. -/
def Operation.IsUnseen : Operation → Prop
  | .outputEnable | .recordMeasurement _ | .sample _ | .relayClose _ => False
  | _ => True

namespace EnableWatch

/-- An operation is commanded. A sampling that gets past its first checkpoint records. -/
def see : Operation → EnableWatch → EnableWatch
  | .outputEnable, .requested => .enabled false
  | .outputEnable, .enabled _ => .broken
  | .recordMeasurement _, .enabled _ => .broken
  | .sample _, .enabled _ => .broken
  | .relayClose _, .enabled false => .broken
  | _, w => w

/-- The operator may ask. -/
def ask (asked : Bool) : EnableWatch → EnableWatch
  | .idle => if asked then .requested else .idle
  | w => w

/-- `emergency_output_off` is called. -/
def turnOff : EnableWatch → EnableWatch
  | .enabled _ => .enabled true
  | w => w

/-- No output was enabled after the request. -/
def Unspent : EnableWatch → Prop
  | .idle | .requested => True
  | _ => False

/-- One was, and nothing was wrong since. -/
def Spent : EnableWatch → Prop
  | .enabled _ => True
  | _ => False

theorem Unspent.ne_broken {w : EnableWatch} (h : w.Unspent) : w ≠ .broken := by
  rintro rfl
  exact h

theorem Spent.ne_broken {w : EnableWatch} (h : w.Spent) : w ≠ .broken := by
  rintro rfl
  exact h

theorem Unspent.ask {w : EnableWatch} (h : w.Unspent) (asked : Bool) : (w.ask asked).Unspent := by
  cases w <;> cases asked <;> trivial

theorem Spent.ask {w : EnableWatch} (h : w.Spent) (asked : Bool) : (w.ask asked).Spent := by
  cases w <;> first | exact h | exact h.elim

theorem Unspent.turnOff {w : EnableWatch} (h : w.Unspent) : w.turnOff.Unspent := by
  cases w <;> exact h

theorem Spent.turnOff {w : EnableWatch} (h : w.Spent) : w.turnOff.Spent := by
  cases w <;> exact h

theorem Unspent.see {w : EnableWatch} (h : w.Unspent) {op : Operation} (hop : op.SparesOutput) :
    (w.see op).Unspent := by
  cases w with
  | idle => cases op <;> trivial
  | requested => cases op <;> trivial
  | enabled off => exact h.elim
  | broken => exact h.elim

theorem see_of_isUnseen {op : Operation} (hop : op.IsUnseen) (w : EnableWatch) : w.see op = w := by
  cases op <;> first | exact hop.elim | (cases w <;> rfl)

theorem Unspent.see_outputEnable {w : EnableWatch} (h : w.Unspent) :
    (w.see .outputEnable).Unspent ∨ (w.see .outputEnable).Spent := by
  cases w with
  | idle => exact Or.inl trivial
  | requested => exact Or.inr trivial
  | enabled off => exact h.elim
  | broken => exact h.elim

end EnableWatch

/-- The world of a station whose operator may press Ctrl+C, and what happened since. -/
structure WatchWorld (X : Type) where
  inner : X
  watch : EnableWatch

namespace WatchWorld

variable {X α : Type}

/-- Before a run, with the token as it is then. -/
def start (inner : X) (requested : Bool) : WatchWorld X :=
  ⟨inner, if requested then .requested else .idle⟩

/-- What is seen happens in the inner world, and the operator may ask meanwhile. -/
def lift (asks : X → Bool) (seen : EnableWatch → EnableWatch) (f : X → α × X) (w : WatchWorld X) :
    α × WatchWorld X :=
  ((f w.inner).1, ⟨(f w.inner).2, (seen w.watch).ask (asks (f w.inner).2)⟩)

/-- `CancellationToken.check`. -/
def check (w : WatchWorld X) : Option Exc :=
  if w.watch = .idle then none else some ⟨.operationCancelledError, "Ctrl+C"⟩

end WatchWorld

/-- A station whose operator presses Ctrl+C in some worlds, watched. The stabilization wait and the
sampling loop begin with a checkpoint. -/
def Station.watched {X : Type} (asks : X → Bool) (st : Station X) : Station (WatchWorld X) where
  perform
    | .checkCancellation => fun w ↦ (w.check, ⟨w.inner, w.watch.ask (asks w.inner)⟩)
    | .sample phase => fun w ↦
      if w.watch = .idle then
        WatchWorld.lift asks (.see (.sample phase)) (st.perform (.sample phase)) w
      else (w.check, w)
    | op => WatchWorld.lift asks (.see op) (st.perform op)
  read reading := WatchWorld.lift asks id (st.read reading)
  emergencyOutputOff reason := WatchWorld.lift asks .turnOff (st.emergencyOutputOff reason)
  sequence n := WatchWorld.lift asks id (st.sequence n)
  ntcVoltageToCelsius := st.ntcVoltageToCelsius

/-- **The checkpoint of a sampling.** Asked to cancel before, the watched station raises and does
nothing. So does the sampling it stands for: the stabilization wait raises before its first slice,
and where nothing is waited for, the loop ends in its first iteration, which records nothing. -/
theorem Station.watched_sample {X K : Type} [AddCommGroup K] [LinearOrder K] [IsOrderedAddMonoid K]
    (asks : X → Bool) (st : Station X) (phase : String) {w : WatchWorld X} (hw : w.watch ≠ .idle)
    (clock : Clock K) {requests : List (K × String)} {now : K} (hnow : RequestedBy requests now)
    (poll : K) (fuel : ℕ) (loop : SamplingLoop) {s : ℕ → Iteration}
    (hs : (s 0).cancelled = true) :
    (st.watched asks).perform (.sample phase) w
        = (some ⟨.operationCancelledError, "Ctrl+C"⟩, w) ∧
      (∀ duration, 0 < duration → ∃ message checked,
        interruptibleSleep clock (some requests) duration poll (fuel + 1) now =
          some ⟨.cancelled message, [], some checked, checked⟩) ∧
      loop.after s 1 = (⟨none, 0, []⟩, some .cancelled) := by
  refine ⟨?_, fun duration hduration ↦ interruptibleSleep_of_requestedBy hduration hnow fuel, ?_⟩
  · change (if w.watch = .idle then _ else (w.check, w) : Option Exc × WatchWorld X) = _
    rw [if_neg hw, WatchWorld.check, if_neg hw]
  · change loop.iterate _ (s 0) = _
    rw [SamplingLoop.iterate, if_pos hs]

/-- The settings of a sequence at such a station. -/
def SequenceRun.watched {X : Type} (asks : X → Bool) (r : SequenceRun X) :
    SequenceRun (WatchWorld X) where
  channel := r.channel
  relayAddress := r.relayAddress
  relayMatrixName := r.relayMatrixName
  smuModel := r.smuModel
  smuResource := r.smuResource
  sense := r.sense
  chargeCurrentA := r.chargeCurrentA
  chargeVoltageV := r.chargeVoltageV
  dischargeCurrentA := r.dischargeCurrentA
  dischargeCutoffV := r.dischargeCutoffV
  voltageMinV := r.voltageMinV
  voltageMaxV := r.voltageMaxV
  chargeFields := WatchWorld.lift asks id r.chargeFields
  dischargeFields := WatchWorld.lift asks id r.dischargeFields
  verificationResult w := r.verificationResult w.inner
  cycleCount := r.cycleCount
  cycleRestS := r.cycleRestS

/-! ## What the storage and the SMU raise -/

/-- An exception the loop takes for a fault of the station, and not of the battery under test. -/
def Fatal (e : Exc) : Prop := classifyPositionException e = .stationFault

/-- A row that is written while an output may be on, and enabling it. -/
def Operation.IsOfRun : Operation → Prop
  | .logEvent _ | .recordExecutionState _ _ _ | .finishRunSummary _ _ _ | .closePhaseStorage _
  | .outputEnable => True
  | _ => False

/-- A station with the storage of `data/storage.py`, which raises `RuntimeError` and what `sqlite3`
raises, and the SMU of `hardware/smu.py`, whose `output_enable` raises `SMUError` and what its
session raises. None of these is a fault of the battery. -/
structure Rig (X : Type) extends Station X where
  fatal : ∀ op : Operation, op.IsOfRun → ∀ x e, (perform op x).1 = some e → Fatal e

/-- The settings of a sequence, whose diagnostic fields are computed from samples. -/
structure RigRun (X : Type) extends SequenceRun X where
  chargeFields_fatal : ∀ x e, (chargeFields x).1 = .error e → Fatal e
  dischargeFields_fatal : ∀ x e, (dischargeFields x).1 = .error e → Fatal e

theorem fatal_of_cancelled {e : Exc} (h : e.cls = .operationCancelledError) : Fatal e := by
  rcases classifyPositionException_cases e with hfail | hstation
  · rw [classifyPositionException_eq_fail_iff, h] at hfail
    exact absurd hfail (by decide)
  · exact hstation

/-! ## Programs that keep watch -/

section Rules

variable {X α β : Type}

/-- What was enabled after the request stays so. -/
structure Keeps (s t : StationSession (WatchWorld X)) : Prop where
  unspent : s.world.watch.Unspent → t.world.watch.Unspent
  spent : s.world.watch.Spent → t.world.watch.Spent

instance : IsPreorder (StationSession (WatchWorld X)) Keeps where
  refl _ := ⟨id, id⟩
  trans _ _ _ h h' := ⟨h'.unspent ∘ h.unspent, h'.spent ∘ h.spent⟩

/-- `x` keeps watch, and raises only faults of the station. -/
def Blames (x : StationProg (WatchWorld X) α) : Prop := ∀ s,
  Post x (fun _ t ↦ Keeps s t) (fun e t ↦ Keeps s t ∧ Fatal e) s

/-- `x` raises `e` or a fault of the station, and keeps watch. -/
def Rethrows (e : Exc) (x : StationProg (WatchWorld X) α) : Prop := ∀ s,
  Post x (fun _ _ ↦ False) (fun e' t ↦ Keeps s t ∧ (e' = e ∨ Fatal e')) s

/-- No output has been enabled after the request. -/
abbrev IsUnspent (s : StationSession (WatchWorld X)) : Prop := s.world.watch.Unspent

/-- However `x` ends, no output is enabled after the request if none was before. -/
abbrev Spares (x : StationProg (WatchWorld X) α) : Prop := Within (Kept IsUnspent) x

/-- `x` enables at most one output after the request, and if one, raises a fault of the station. -/
def Tame (x : StationProg (WatchWorld X) α) : Prop := ∀ s, IsUnspent s →
  Post x (fun _ t ↦ IsUnspent t)
    (fun e t ↦ IsUnspent t ∨ (t.world.watch.Spent ∧ Fatal e)) s

theorem Blames.pure (a : α) : Blames (Pure.pure a : StationProg (WatchWorld X) α) := fun s ↦
  refl_of Keeps s

theorem Blames.bind {x : StationProg (WatchWorld X) α} {f : α → StationProg (WatchWorld X) β}
    (hx : Blames x) (hf : ∀ a, Blames (f a)) : Blames (x >>= f) := by
  intro s
  refine (post_bind f).mpr ((hx s).mono (fun a t ht ↦ ?_) fun _ _ h ↦ h)
  exact (hf a t).mono (fun _ _ hu ↦ trans_of Keeps ht hu)
    fun _ _ hu ↦ ⟨trans_of Keeps ht hu.1, hu.2⟩

theorem Blames.ite {c : Prop} [Decidable c] {x y : StationProg (WatchWorld X) α} (hx : Blames x)
    (hy : Blames y) : Blames (if c then x else y) := by
  split
  · exact hx
  · exact hy

/-- What is raised is looked at. -/
theorem blames_attempt {x : StationProg (WatchWorld X) α} (hx : Within Keeps x) :
    Blames x.attempt := fun s ↦ post_attempt.mpr (hx s)

/-- What is raised is swallowed. -/
theorem blames_handle {x : StationProg (WatchWorld X) α} {h : Exc → StationProg (WatchWorld X) α}
    (hx : Within Keeps x) (hh : ∀ e, Blames (h e)) : Blames (x.handle h) := by
  intro s
  refine (post_handle h).mpr ((hx s).mono (fun _ _ ht ↦ ht) fun e t ht ↦ ?_)
  exact (hh e t).mono (fun _ _ hu ↦ trans_of Keeps ht hu)
    fun _ _ hu ↦ ⟨trans_of Keeps ht hu.1, hu.2⟩

theorem Blames.within {x : StationProg (WatchWorld X) α} (hx : Blames x) : Within Keeps x :=
  fun s ↦ (hx s).mono (fun _ _ h ↦ h) fun _ _ h ↦ h.1

theorem spares_of_keeps {x : StationProg (WatchWorld X) α} (hx : Within Keeps x) : Spares x :=
  hx.mono fun _ _ h ↦ h.unspent

theorem Rethrows.raise (e : Exc) : Rethrows e (Prog.raise e : StationProg (WatchWorld X) α) :=
  fun s ↦ ⟨refl_of Keeps s, Or.inl rfl⟩

theorem Blames.rethrows {e : Exc} {x : StationProg (WatchWorld X) α}
    {f : α → StationProg (WatchWorld X) β} (hx : Blames x) (hf : ∀ a, Rethrows e (f a)) :
    Rethrows e (x >>= f) := by
  intro s
  refine (post_bind f).mpr ((hx s).mono (fun a t ht ↦ ?_) fun _ _ h ↦ ⟨h.1, Or.inr h.2⟩)
  exact (hf a t).mono (fun _ _ h ↦ h) fun _ _ hu ↦ ⟨trans_of Keeps ht hu.1, hu.2⟩

theorem Rethrows.ite {e : Exc} {c : Prop} [Decidable c] {x y : StationProg (WatchWorld X) α}
    (hx : Rethrows e x) (hy : Rethrows e y) : Rethrows e (if c then x else y) := by
  split
  · exact hx
  · exact hy

theorem tame_of_spares {x : StationProg (WatchWorld X) α} (hx : Spares x) : Tame x := fun s hs ↦
  (within_kept_iff.mp hx s hs).mono (fun _ _ h ↦ h) fun _ _ h ↦ Or.inl h

theorem Tame.bind {x : StationProg (WatchWorld X) α} {f : α → StationProg (WatchWorld X) β}
    (hx : Tame x) (hf : ∀ a, Tame (f a)) : Tame (x >>= f) := fun s hs ↦
  (post_bind f).mpr ((hx s hs).mono (fun a t ht ↦ hf a t ht) fun _ _ h ↦ h)

theorem Tame.handle {x : StationProg (WatchWorld X) α} {h : Exc → StationProg (WatchWorld X) α}
    (hx : Tame x) (hh : ∀ e, Rethrows e (h e)) : Tame (x.handle h) := by
  intro s hs
  refine (post_handle h).mpr ((hx s hs).mono (fun _ _ ht ↦ ht) fun e t ht ↦ ?_)
  refine (hh e t).mono (fun _ _ hfalse ↦ hfalse.elim) fun e' u hu ↦ ?_
  refine ht.imp hu.1.unspent fun hspent ↦ ⟨hu.1.spent hspent.1, ?_⟩
  rcases hu.2 with rfl | hfatal
  · exact hspent.2
  · exact hfatal

theorem Tame.ensuring {x : StationProg (WatchWorld X) α} {fin : StationProg (WatchWorld X) PUnit}
    (hx : Tame x) (hfin : Blames fin) : Tame (x.ensuring fin) := by
  intro s hs
  rw [post_ensuring]
  refine (hx s hs).mono (fun _ t ht ↦ ?_) fun e t ht ↦ ?_
  · exact (hfin t).mono (fun _ _ hu ↦ hu.unspent ht) fun _ _ hu ↦ Or.inl (hu.1.unspent ht)
  · refine (hfin t).mono (fun _ _ hu ↦ ?_) fun _ _ hu ↦ ?_
    · exact ht.imp hu.unspent fun hspent ↦ ⟨hu.spent hspent.1, hspent.2⟩
    · exact ht.imp hu.1.unspent fun hspent ↦ ⟨hu.1.spent hspent.1, hu.2⟩

end Rules

/-! ## What the station does -/

section Calls

variable {X : Type} {asks : X → Bool} {st : Station X}

theorem post_call_world {Y : Type} (st : Station Y) (op : Operation) (s : StationSession Y) :
    Post (StationProg.call st op) (fun _ t ↦ t.world = (st.perform op s.world).2)
      (fun e t ↦ t.world = (st.perform op s.world).2 ∧ (st.perform op s.world).1 = some e) s := by
  refine post_call_of_perform (fun world hperform ↦ ?_) fun e world hperform ↦ ?_
  · rw [hperform]
    rfl
  · rw [hperform]
    exact ⟨rfl, rfl⟩

theorem spares_call {op : Operation} (hop : op.SparesOutput) :
    Spares (StationProg.call (st.watched asks) op) := by
  have hwatch (w : WatchWorld X) (hw : w.watch.Unspent) :
      ((st.watched asks).perform op w).2.watch.Unspent := by
    cases op with
    | checkCancellation => exact hw.ask _
    | sample phase =>
      change (if w.watch = .idle then _ else _ : Option Exc × WatchWorld X).2.watch.Unspent
      split
      · exact (hw.see hop).ask _
      · exact hw
    | _ => exact (hw.see hop).ask _
  refine within_kept_iff.mpr fun s hs ↦ (post_call_world _ op s).mono (fun _ t ht ↦ ?_)
    fun e t ht ↦ ?_
  · rw [IsUnspent, ht]
    exact hwatch s.world hs
  · rw [IsUnspent, ht.1]
    exact hwatch s.world hs

theorem keeps_of_ask {s t : StationSession (WatchWorld X)}
    (h : ∃ asked, t.world.watch = s.world.watch.ask asked) : Keeps s t := by
  obtain ⟨asked, hasked⟩ := h
  exact ⟨fun hs ↦ hasked ▸ hs.ask asked, fun hs ↦ hasked ▸ hs.ask asked⟩

theorem keeps_call {op : Operation} (hop : op.IsUnseen) :
    Within Keeps (StationProg.call (st.watched asks) op) := by
  have hwatch (w : WatchWorld X) : ∃ asked, ((st.watched asks).perform op w).2.watch =
      w.watch.ask asked := by
    cases op with
    | checkCancellation => exact ⟨_, rfl⟩
    | sample phase => exact hop.elim
    | _ => exact ⟨_, congrArg (EnableWatch.ask _) (EnableWatch.see_of_isUnseen hop w.watch)⟩
  intro s
  refine (post_call_world _ op s).mono (fun _ t ht ↦ keeps_of_ask ?_) fun e t ht ↦ keeps_of_ask ?_
  · rw [ht]
    exact hwatch s.world
  · rw [ht.1]
    exact hwatch s.world

theorem keeps_read (reading : Reading) :
    Within Keeps (StationProg.read (st.watched asks) reading) := by
  intro s
  unfold Post StationProg.read
  have hkeeps (c : StationCall) :
      Keeps s (s.after c ((st.watched asks).read reading s.world).2) := keeps_of_ask ⟨_, rfl⟩
  cases ((st.watched asks).read reading s.world).1 with
  | ok v => exact hkeeps _
  | error e => exact hkeeps _

theorem blames_emergencyOutputOff (reason : String) :
    Blames (StationProg.emergencyOutputOff (st.watched asks) reason) := fun _ ↦
  ⟨fun h ↦ h.turnOff.ask _, fun h ↦ h.turnOff.ask _⟩

theorem blames_note (c : StationCall) :
    Blames (StationProg.note c : StationProg (WatchWorld X) _) := fun _ ↦ ⟨id, id⟩

variable {rig : Rig X} {g : GuardedRun (WatchWorld X)}

theorem blames_call {op : Operation} (hop : op.IsUnseen) (hrun : op.IsOfRun) :
    Blames (StationProg.call (rig.watched asks) op) := by
  intro s
  refine Post.mono (Post.and (keeps_call hop s) (post_call_world (rig.watched asks) op s))
    (fun _ _ h ↦ h.1) fun e _ h ↦ ⟨h.1, rig.fatal op hrun s.world.inner e ?_⟩
  have hraised := h.2.2
  cases op <;> first | exact hraised | exact hrun.elim

theorem blames_logEvent (entry : EventEntry) :
    Blames (StationProg.logEvent (rig.watched asks) entry) := blames_call trivial trivial

theorem blames_logEvents (entries : List EventEntry) :
    Blames (logEvents (rig.watched asks) entries) := by
  induction entries with
  | nil => exact .pure _
  | cons entry rest ih => exact .bind (blames_logEvent entry) fun _ ↦ ih

theorem blames_swallowed {op : Operation} (hop : op.IsUnseen) :
    Blames ((StationProg.call (st.watched asks) op).handle fun _ ↦ pure ⟨⟩) :=
  blames_handle (keeps_call hop) fun _ ↦ .pure _

theorem spares_swallowed {op : Operation} (hop : op.IsUnseen) :
    Spares ((StationProg.call (st.watched asks) op).handle fun _ ↦ pure ⟨⟩) :=
  spares_of_keeps (blames_swallowed hop).within

theorem blames_onEvent (message : String) : Blames (onEvent (st.watched asks) g message) :=
  blames_swallowed trivial

theorem blames_safeFinalVoltageReading :
    Blames (safeFinalVoltageReading (st.watched asks) g) := by
  refine .ite (.bind (blames_attempt (keeps_read _)) fun ended ↦ ?_) (.pure _)
  cases ended with
  | ok voltage => exact .pure _
  | error e => exact .pure _

theorem blames_recordFailure (hfields : Blames (extraRunSummaryFields g)) (clause : ExceptClause) :
    Blames (recordFailure (rig.watched asks) g clause) := by
  refine .bind (blames_onEvent _) fun _ ↦ .bind (blames_logEvents _) fun _ ↦ ?_
  refine .bind (blames_call trivial trivial) fun _ ↦ .bind hfields fun _ ↦ ?_
  exact .bind blames_safeFinalVoltageReading fun _ ↦ blames_call trivial trivial

theorem blames_openRelays : Blames (openRelays (st.watched asks) g) := by
  refine blames_handle ?_ fun _ ↦ blames_onEvent _
  exact .bind (keeps_call trivial) fun _ ↦
    .bind (blames_onEvent _).within fun _ ↦ (blames_onEvent _).within

theorem blames_shutDown (clause : ExceptClause) (e : Exc) :
    Blames (shutDown (st.watched asks) g clause e) := by
  have hhardware (reason : String) : Blames (shutDownHardware (st.watched asks) g reason) := by
    refine .bind (blames_onEvent _) fun _ ↦ .bind (blames_emergencyOutputOff _) fun _ ↦ ?_
    refine .bind blames_openRelays fun _ ↦ .bind (blames_swallowed trivial) fun _ ↦ ?_
    exact .bind (blames_onEvent _) fun _ ↦ blames_onEvent _
  exact .ite (.bind (blames_note _) fun _ ↦ hhardware _) (.bind (blames_note _) fun _ ↦ hhardware _)

/-- **The guard rethrows**, or raises what a row of the failure does. -/
theorem tame_runGuarded (hfields : Blames (extraRunSummaryFields g)) {α : Type}
    {fn : StationProg (WatchWorld X) α} (hfn : Tame fn) :
    Tame (runGuarded (rig.watched asks) g fn) :=
  hfn.handle fun _ ↦ (blames_recordFailure hfields _).rethrows fun _ ↦
    (blames_shutDown _ _).rethrows fun _ ↦ .raise _

theorem spares_complete (hfields : Blames (extraRunSummaryFields g)) (message : String) :
    Spares (complete (st.watched asks) g message) := by
  refine .bind (spares_of_keeps hfields.within) fun _ ↦ .bind (spares_call trivial) fun _ ↦ ?_
  exact .bind (spares_call trivial) fun _ ↦ spares_call trivial

end Calls

/-! ## A phase -/

section Phases

variable {X : Type} {asks : X → Bool} {rig : Rig X} {r : SequenceRun (WatchWorld X)}
  {ph : Phase (WatchWorld X)}

theorem blames_disconnectSense : Blames (disconnectSense (rig.watched asks) r ph) := by
  unfold disconnectSense
  split
  · exact .pure _
  · refine blames_handle (.bind (keeps_call trivial) fun _ ↦ ?_) fun _ ↦ .pure _
    exact (blames_logEvent _).within

theorem spares_sampleUntilEnd : Spares (sampleUntilEnd (rig.watched asks) r ph) := by
  refine .bind (.attempt (spares_call trivial)) fun ended ↦ ?_
  refine .bind (spares_of_keeps (blames_emergencyOutputOff _).within) fun verified ↦ ?_
  refine .bind (spares_call trivial) fun _ ↦ ?_
  cases ended with
  | ok _ => exact .pure _
  | error e => exact .raise _

theorem spares_isolate : Spares (isolate (rig.watched asks) r ph) := by
  refine .bind (spares_call trivial) fun _ ↦ .bind (spares_call trivial) fun _ ↦ ?_
  exact .bind (spares_call trivial) fun _ ↦ spares_swallowed trivial

theorem spares_escalate : Spares (escalate (rig.watched asks) r ph) := by
  refine .bind (spares_swallowed trivial) fun _ ↦ .bind .get fun _ ↦ ?_
  exact .bind (spares_call trivial) fun _ ↦ .bind (spares_call trivial) fun _ ↦ .raise _

/-- After a request the sampling stops at its first checkpoint. -/
theorem post_sample_spent {phase : String} {s : StationSession (WatchWorld X)}
    (hs : s.world.watch.Spent) :
    Post (StationProg.call (rig.watched asks) (.sample phase)) (fun _ _ ↦ False)
      (fun e t ↦ t.world = s.world ∧ Fatal e) s := by
  have hidle : s.world.watch ≠ .idle := fun h ↦ by
    rw [h] at hs
    exact hs
  have hperform : (rig.watched asks).perform (.sample phase) s.world =
      (some ⟨.operationCancelledError, "Ctrl+C"⟩, s.world) := by
    have hcheck : s.world.check = some ⟨.operationCancelledError, "Ctrl+C"⟩ := if_neg hidle
    rw [← hcheck]
    exact if_neg hidle
  refine post_call_of_perform (fun world hreturned ↦ ?_) fun e world hraised ↦ ?_
  · rw [hperform] at hreturned
    exact absurd (Prod.mk.inj hreturned).1 (Option.some_ne_none _)
  · rw [hperform] at hraised
    obtain ⟨hexc, hworld⟩ := Prod.mk.inj hraised
    exact ⟨hworld.symm, fatal_of_cancelled (by rw [← Option.some.inj hexc])⟩

/-- **After an output was enabled late, the sampling does not begin**, and whatever is raised on the
way out is a fault of the station. -/
theorem post_sampleUntilEnd_spent {s : StationSession (WatchWorld X)} (hs : s.world.watch.Spent) :
    Post (sampleUntilEnd (rig.watched asks) r ph) (fun _ _ ↦ False)
      (fun e t ↦ t.world.watch.Spent ∧ Fatal e) s := by
  refine (post_bind _).mpr (post_attempt.mpr ((post_sample_spent hs).mono (fun _ _ h ↦ h.elim)
    fun e t ht ↦ ?_))
  have hspent : t.world.watch.Spent := ht.1 ▸ hs
  have hout : Rethrows e (do
      let verified ← StationProg.emergencyOutputOff (rig.watched asks)
        s!"end of {ph.name} sequence on channel {r.channel}"
      StationProg.logEvent (rig.watched asks)
        (ph.guarded.entry (if verified then "INFO" else "CRITICAL")
          (eventMessage "SMU_OUTPUT_DISABLED"
            [("device", r.smuModel), ("resource", r.smuResource), ("channel", toString r.channel),
              ("verified", if verified then "True" else "False")]))
      (Prog.raise e : StationProg (WatchWorld X) Bool)) :=
    (blames_emergencyOutputOff _).rethrows fun _ ↦ (blames_logEvent _).rethrows fun _ ↦ .raise e
  refine (hout t).mono (fun _ _ h ↦ h) fun e' u hu ↦ ⟨hu.1.spent hspent, ?_⟩
  rcases hu.2 with rfl | hfatal
  · exact ht.2
  · exact hfatal

/-- **At most one output is enabled after the request**, and if one is, the phase raises. -/
theorem tame_outputEnable : Tame (do
    StationProg.call (rig.watched asks) .outputEnable
    logInfo (rig.watched asks) ph (eventMessage "SMU_OUTPUT_ENABLED"
      [("device", r.smuModel), ("resource", r.smuResource), ("channel", toString r.channel)])
    let verified ← sampleUntilEnd (rig.watched asks) r ph
    if verified then isolate (rig.watched asks) r ph
    else escalate (rig.watched asks) r ph) := by
  intro s hs
  have henabled {t : StationSession (WatchWorld X)}
      (ht : t.world = ((rig.watched asks).perform .outputEnable s.world).2) :
      IsUnspent t ∨ t.world.watch.Spent := by
    rw [IsUnspent, ht]
    exact (EnableWatch.Unspent.see_outputEnable hs).imp (·.ask _) (·.ask _)
  refine (post_bind _).mpr ((post_call_world _ _ s).mono (fun _ t ht ↦ ?_) fun e t ht ↦ ?_)
  · rcases henabled ht with hunspent | hspent
    · refine tame_of_spares ?_ t hunspent
      refine .bind (spares_call trivial) fun _ ↦ .bind spares_sampleUntilEnd fun _ ↦ ?_
      exact .ite spares_isolate spares_escalate
    · refine (post_bind _).mpr ((blames_logEvent _ t).mono (fun _ u hu ↦ ?_) fun e u hu ↦ ?_)
      · refine (post_bind _).mpr ((post_sampleUntilEnd_spent (hu.spent hspent)).mono
          (fun _ _ h ↦ h.elim) fun _ _ h ↦ Or.inr h)
      · exact Or.inr ⟨hu.1.spent hspent, hu.2⟩
  · refine (henabled ht.1).imp_right fun hspent ↦ ⟨hspent, ?_⟩
    exact rig.fatal .outputEnable trivial s.world.inner e ht.2

theorem tame_energize : Tame (energize (rig.watched asks) r ph) := by
  have hpolarity (voltage : ℚ) : Spares (checkBatteryPolarity (rig.watched asks) r ph voltage) :=
    .ite (.bind (spares_call trivial) fun _ ↦ .raise _) (.pure _)
  refine .bind (tame_of_spares (spares_of_keeps (keeps_read _))) fun voltage ↦ ?_
  refine .bind (tame_of_spares (hpolarity voltage)) fun _ ↦ ?_
  exact .bind (tame_of_spares (spares_call trivial)) fun _ ↦ tame_outputEnable

theorem spares_connectSense : Spares (connectSense (rig.watched asks) r ph) := by
  unfold connectSense
  split
  · exact .pure _
  · exact .bind (spares_call trivial) fun _ ↦ spares_call trivial

theorem tame_phaseBody : Tame (phaseBody (rig.watched asks) r ph) := by
  have hcall {op : Operation} (hop : op.SparesOutput) :
      Tame (StationProg.call (rig.watched asks) op) := tame_of_spares (spares_call hop)
  refine .bind (hcall trivial) fun _ ↦ .bind (hcall trivial) fun _ ↦ ?_
  refine .bind (hcall trivial) fun _ ↦ .bind (hcall trivial) fun _ ↦ ?_
  refine .bind (hcall trivial) fun _ ↦ .bind (tame_of_spares spares_connectSense) fun _ ↦ ?_
  exact tame_energize.ensuring blames_disconnectSense

theorem tame_runPhase (hfields : Blames (extraRunSummaryFields ph.guarded)) :
    Tame (runPhase (rig.watched asks) r ph) := by
  refine .bind (tame_of_spares (spares_call trivial)) fun _ ↦ ?_
  refine .bind (tame_runGuarded hfields tame_phaseBody) fun _ ↦ ?_
  exact tame_of_spares (spares_complete hfields _)

theorem tame_cyclePhase (hfields : Blames (extraRunSummaryFields ph.guarded)) :
    Tame (cyclePhase (rig.watched asks) r ph) := by
  have hreclassify : Blames (reclassifyPhaseAsStationFault (rig.watched asks) r) :=
    .bind (blames_call trivial trivial) fun _ ↦ blames_call trivial trivial
  refine .bind (tame_of_spares (spares_call trivial)) fun _ ↦ ?_
  refine Tame.ensuring (.handle (tame_runPhase hfields) fun e ↦ ?_) (blames_call trivial trivial)
  exact .ite (hreclassify.rethrows fun _ ↦ .raise e) (.raise e)

end Phases

section Sequences

variable {X : Type} {asks : X → Bool} {rig : Rig X} {r : RigRun X}

theorem blames_fields {g : GuardedRun (WatchWorld X)}
    {fields : X → Except Exc (Dict String FieldValue) × X}
    (hg : g.extraFields = WatchWorld.lift asks id fields)
    (hfatal : ∀ x e, (fields x).1 = .error e → Fatal e) : Blames (extraRunSummaryFields g) := by
  intro s
  unfold Post extraRunSummaryFields
  rcases hended : g.extraFields s.world with ⟨e | v, world⟩
  · rw [hg] at hended
    obtain ⟨hraised, hworld⟩ := Prod.mk.inj hended
    exact ⟨keeps_of_ask ⟨_, (congrArg WatchWorld.watch hworld).symm⟩,
      hfatal s.world.inner e hraised⟩
  · rw [hg] at hended
    exact keeps_of_ask ⟨_, (congrArg WatchWorld.watch (Prod.mk.inj hended).2).symm⟩

theorem blames_cycleFields : Blames (extraRunSummaryFields (cycleGuarded (r.watched asks))) :=
  fun _ ↦ ⟨id, id⟩

theorem tame_runRepetition (repetition : ℕ) :
    Tame (runRepetition (rig.watched asks) (r.watched asks) repetition) := by
  have hcall {op : Operation} (hop : op.SparesOutput) :
      Tame (StationProg.call (rig.watched asks) op) := tame_of_spares (spares_call hop)
  refine .bind (hcall trivial) fun _ ↦ .bind (hcall trivial) fun _ ↦ ?_
  refine .bind (tame_cyclePhase (blames_fields rfl r.chargeFields_fatal)) fun _ ↦ ?_
  refine .bind (hcall trivial) fun _ ↦ .bind (hcall trivial) fun _ ↦ ?_
  refine .bind (hcall trivial) fun _ ↦ .bind (hcall trivial) fun _ ↦ ?_
  exact .bind (tame_cyclePhase (blames_fields rfl r.dischargeFields_fatal)) fun _ ↦ hcall trivial

/-- By induction on the repetitions: one that enables late raises, and is the last. -/
theorem tame_runRepetitions (repetitions : List ℕ) :
    Tame (runRepetitions (rig.watched asks) (r.watched asks) repetitions) := by
  induction repetitions with
  | nil => exact tame_of_spares (.pure _)
  | cons repetition rest ih => exact .bind (tame_runRepetition repetition) fun _ ↦ ih

/-- **Every sequence is tame.** -/
theorem tame_run (c : SequenceClass) : Tame (c.run (rig.watched asks) (r.watched asks)) := by
  cases c with
  | charge => exact tame_runPhase (blames_fields rfl r.chargeFields_fatal)
  | discharge => exact tame_runPhase (blames_fields rfl r.dischargeFields_fatal)
  | cycle =>
    refine .bind (tame_runGuarded blames_cycleFields (tame_runRepetitions _)) fun _ ↦ ?_
    exact tame_of_spares (spares_complete blames_cycleFields _)

/-- The loop does not move on after a sequence that enabled late. -/
theorem post_sequenceEnd_watched (c : SequenceClass) {s : StationSession (WatchWorld X)}
    (hs : IsUnspent s) :
    Post (sequenceEnd (c.run (rig.watched asks) (r.watched asks)))
      (fun ended t ↦ IsUnspent t ∨ (t.world.watch.Spent ∧ ¬ended.MovesOn)) (fun _ _ ↦ False) s := by
  refine (post_bind _).mpr (post_attempt.mpr ((tame_run c s hs).mono (fun _ _ h ↦ Or.inl h)
    fun e t ht ↦ ht.imp_right fun hspent ↦ ⟨hspent.1, fun hmoves ↦ ?_⟩))
  change classifyPositionException e = .fail at hmoves
  rw [hspent.2] at hmoves
  exact absurd hmoves (by decide)

end Sequences

/-! ## A position -/

section Position

variable {X : Type} {asks : X → Bool} {st : Station X} {rig : Rig X} {p : PrecheckRun}

theorem spares_ntcReading (position : ℕ) : Spares (ntcReading (st.watched asks) p position) := by
  unfold ntcReading
  cases p.ntcChannel position with
  | none => exact .bind (spares_call trivial) fun _ ↦ .pure _
  | some channel =>
    refine .bind (.attempt (spares_of_keeps (keeps_read _))) fun ended ↦ ?_
    cases ended with
    | ok voltage => exact .pure _
    | error e => exact .ite (.bind (spares_call trivial) fun _ ↦ .pure _) (.raise _)

theorem spares_ntcPositions (positions : List ℕ) :
    Spares (ntcPositions (st.watched asks) p positions) := by
  induction positions with
  | nil => exact .pure _
  | cons position rest ih =>
    refine .bind (.bind (spares_ntcReading position) fun _ ↦ ?_) fun _ ↦ .bind ih fun _ ↦ .pure _
    exact .bind (spares_call trivial) fun _ ↦ .bind (spares_call trivial) fun _ ↦ .pure _

theorem spares_precheck : Spares (precheck (st.watched asks) p) := by
  have hread : Spares (readBattery (st.watched asks) p) := by
    refine .bind (.attempt (spares_of_keeps (keeps_read _))) fun ended ↦ ?_
    cases ended with
    | ok voltage => exact .pure _
    | error e => exact .bind (spares_call trivial) fun _ ↦ .pure _
  have hwarn (voltage : Option ℚ) : Spares (warnReversed (st.watched asks) p voltage) := by
    cases voltage with
    | none => exact .pure _
    | some v => exact .ite (spares_call trivial) (.pure _)
  refine .bind (spares_call trivial) fun _ ↦ ?_
  refine .bind (.ensuring hread (spares_call trivial)) fun v ↦ ?_
  refine .bind (spares_call trivial) fun _ ↦ ?_
  refine .bind (.ite (spares_ntcPositions _) (.pure _)) fun _ ↦ ?_
  refine .bind (hwarn v) fun _ ↦ .bind ?_ fun _ ↦ .pure _
  exact .bind (spares_call trivial) fun _ ↦ .ite (.pure _) (spares_call trivial)

variable {p : PositionRun}

theorem blames_recordStationFault (exception message : String) :
    Blames (recordStationFault (rig.watched asks) p exception message) :=
  .bind (blames_call trivial trivial) fun _ ↦
    .bind (blames_call trivial trivial) fun _ ↦ blames_logEvent _

theorem blames_classifyEnd (ended : SequenceEnd) :
    Blames (classifyEnd (rig.watched asks) p ended) := by
  cases ended with
  | completed => exact .pure _
  | interrupted => exact .pure _
  | raised e =>
    exact .ite (.pure _) (.ite (.bind (blames_recordStationFault _ _) fun _ ↦ .pure _) (.pure _))

/-- No output was enabled after the request, or one was and the result stops the loop. -/
def Settles (result : PositionResult) (t : StationSession (WatchWorld X)) : Prop :=
  IsUnspent t ∨ (t.world.watch.Spent ∧ result.StopsRun)

/-- The watch is not broken. -/
def Unbroken (t : StationSession (WatchWorld X)) : Prop := IsUnspent t ∨ t.world.watch.Spent

theorem Unbroken.keeps {s t : StationSession (WatchWorld X)} (hs : Unbroken s) (h : Keeps s t) :
    Unbroken t := hs.imp h.unspent h.spent

theorem Settles.unbroken {result : PositionResult} {t : StationSession (WatchWorld X)}
    (h : Settles result t) : Unbroken t := h.imp_right And.left

theorem Settles.keeps {result : PositionResult} {s t : StationSession (WatchWorld X)}
    (hs : Settles result s) (h : Keeps s t) : Settles result t :=
  hs.imp h.unspent fun hspent ↦ ⟨h.spent hspent.1, hspent.2⟩

/-- **A position that enables late stops the loop.** -/
theorem settles_runOnePosition {run : StationProg (WatchWorld X) SequenceEnd}
    (hrun : ∀ s, IsUnspent s → Post run
      (fun ended t ↦ IsUnspent t ∨ (t.world.watch.Spent ∧ ¬ended.MovesOn)) (fun _ _ ↦ False) s)
    {s : StationSession (WatchWorld X)} (hs : IsUnspent s) :
    Post (runOnePosition (rig.watched asks) run p) (fun result t ↦ Settles result t)
      (fun _ t ↦ Unbroken t) s := by
  have hspares {α : Type} {x : StationProg (WatchWorld X) α} (hx : Spares x)
      {t : StationSession (WatchWorld X)} (ht : IsUnspent t) :
      Post x (fun _ u ↦ IsUnspent u) (fun _ u ↦ Unbroken u) t :=
    (within_kept_iff.mp hx t ht).mono (fun _ _ h ↦ h) fun _ _ h ↦ Or.inl h
  have hstart : Spares (startRunSummaryGuarded (rig.watched asks) p) :=
    .handle (.bind (spares_call trivial) fun _ ↦ .pure _) fun _ ↦ .ite (.pure _) (.raise _)
  refine (hspares hstart hs).bind fun started t ht ↦ ?_
  rw [post_ite]
  split
  · refine (hspares (spares_of_keeps (blames_logEvents _).within) ht).bind fun _ u hu ↦ ?_
    refine (hspares spares_precheck hu).bind fun found v hv ↦ ?_
    rw [post_ite, post_ite]
    split
    · have hrecord : Spares (recordStationFault (rig.watched asks) p "DAQError"
          "DAQ communication failure during NTC pre-check") :=
        spares_of_keeps (blames_recordStationFault _ _).within
      exact (post_bind _).mpr ((hspares hrecord hv).mono (fun _ _ h ↦ Or.inl h) fun _ _ h ↦ h)
    · split
      · refine (post_bind _).mpr ((hrun v hv).mono (fun ended w hw ↦ ?_) fun _ _ h ↦ h.elim)
        have hclassified : Post (classifyEnd (rig.watched asks) p ended)
            (fun result x ↦ Keeps w x ∧ Adds Neutral w x ∧ (¬result.StopsRun → ended.MovesOn))
            (fun _ x ↦ Keeps w x ∧ Adds Neutral w x) w :=
          ((blames_classifyEnd ended).within w).and (post_classifyEnd_neutral ended w)
        refine (post_bind _).mpr (hclassified.mono (fun result x hx ↦ ?_) fun _ x hx ↦ ?_)
        -- a spent run does not move on, and its result says so
        · have hsettles : Settles result x := by
            refine hw.imp hx.1.unspent fun hspent ↦ ⟨hx.1.spent hspent.1, ?_⟩
            exact not_not.mp fun hmoves ↦ hspent.2 (hx.2.2 hmoves)
          have hprint : Within Keeps
              (StationProg.call (rig.watched asks) .printPostRunSummary) := keeps_call trivial
          refine (post_bind _).mpr ((hprint x).mono (fun _ _ hy ↦ ?_) fun _ _ hy ↦ ?_)
          · exact hsettles.keeps hy
          · exact hsettles.unbroken.keeps hy
        · exact Unbroken.keeps (hw.imp_right And.left) hx.1
      · have hcall {op : Operation} (hop : op.SparesOutput) :
            Spares (StationProg.call (rig.watched asks) op) := spares_call hop
        have hrows : Spares (do
            StationProg.call (rig.watched asks)
              (.recordExecutionState p.position p.relayAddress "SAFETY_VIOLATION")
            StationProg.call (rig.watched asks) (.finishRunSummary "SAFETY_VIOLATION" "FAIL" [])
            (pure .skipped : StationProg (WatchWorld X) PositionResult)) :=
          .bind (hcall trivial) fun _ ↦ .bind (hcall trivial) fun _ ↦ .pure _
        exact (hspares hrows hv).mono (fun _ _ h ↦ Or.inl h) fun _ _ h ↦ h
  · exact Or.inl ht

end Position

/-! ## The loop -/

section Loop

variable {X : Type} {asks : X → Bool} {rig : Rig X}
  {run : PositionRun → StationProg (WatchWorld X) SequenceEnd}

/-- **By induction on the positions.** A relay is closed for another one only if no output was
enabled after the request. -/
theorem unbroken_runPositions
    (hrun : ∀ p s, IsUnspent s → Post (run p)
      (fun ended t ↦ IsUnspent t ∨ (t.world.watch.Spent ∧ ¬ended.MovesOn)) (fun _ _ ↦ False) s)
    (g : GroupRun) (positions : List ℕ) {s : StationSession (WatchWorld X)} (hs : IsUnspent s) :
    Post (runPositions (rig.watched asks) run g positions) (fun _ t ↦ Unbroken t)
      (fun _ t ↦ Unbroken t) s := by
  induction positions generalizing s with
  | nil => exact Or.inl hs
  | cons position rest ih =>
    unfold runPositions
    cases g.config position with
    | none => exact ih hs
    | some p =>
      have hbegin : Spares (StationProg.call (rig.watched asks) .beginNewRunId) :=
        spares_call trivial
      refine (post_bind _).mpr ((within_kept_iff.mp hbegin s hs).mono (fun _ t ht ↦ ?_)
        fun _ _ h ↦ Or.inl h)
      refine (post_bind _).mpr ((blames_logEvent _ t).mono (fun _ u hu ↦ ?_)
        fun _ _ h ↦ Or.inl (h.1.unspent ht))
      refine (settles_runOnePosition (hrun p) (hu.unspent ht)).bind fun result v hv ↦ ?_
      refine (post_bind _).mpr ((blames_logEvent _ v).mono (fun _ w hw ↦ ?_)
        fun _ _ h ↦ hv.unbroken.keeps h.1)
      have hsettles := hv.keeps hw
      rw [post_ite]
      split
      · exact hsettles.unbroken
      · next hmoves =>
        have hunspent : IsUnspent w := hsettles.resolve_right fun hspent ↦ hmoves hspent.2
        exact (post_bind _).mpr ((ih hunspent).mono (fun _ _ h ↦ h) fun _ _ h ↦ h)

/-- **At most one output is enabled after the request.** Whatever the station does and whenever the
operator asks, at most one `output_enable` is commanded after that; then no measurement is recorded,
and no relay is closed before `emergency_output_off` is called. -/
theorem watch_ne_broken (asks : X → Bool) (rig : Rig X) (c : SequenceClass)
    (r : PositionRun → RigRun X) (g : GroupRun) (inner : X) (requested : Bool) :
    Post (runGroupAllPositions (rig.watched asks)
        (fun p ↦ sequenceEnd (c.run (rig.watched asks) ((r p).watched asks))) g)
      (fun _ t ↦ t.world.watch ≠ .broken) (fun _ t ↦ t.world.watch ≠ .broken)
      ⟨.start inner requested, []⟩ := by
  have hstart : IsUnspent (⟨.start inner requested, []⟩ : StationSession (WatchWorld X)) := by
    cases requested <;> trivial
  have hinstrument : Spares (startSenseRouter (rig.watched asks) g) :=
    .ite (spares_call trivial) (.pure _)
  have hswallowed : Blames ((StationProg.call (rig.watched asks) .senseRouterShutdown).handle
      fun _ ↦ pure ⟨⟩) := blames_swallowed trivial
  have hshutdown : Within Keeps (stopSenseRouter (rig.watched asks) g) :=
    .ite hswallowed.within (.pure _)
  have hbody : Post (runGroupBody (rig.watched asks)
      (fun p ↦ sequenceEnd (c.run (rig.watched asks) ((r p).watched asks))) g)
      (fun _ t ↦ Unbroken t) (fun _ t ↦ Unbroken t) ⟨.start inner requested, []⟩ := by
    refine (post_bind _).mpr ((within_kept_iff.mp hinstrument _ hstart).mono (fun _ t ht ↦ ?_)
      fun _ _ h ↦ Or.inl h)
    refine (post_bind _).mpr ((blames_logEvent _ t).mono (fun _ u hu ↦ ?_)
      fun _ _ h ↦ Or.inl (h.1.unspent ht))
    refine Post.bind (unbroken_runPositions (fun p s hs ↦ post_sequenceEnd_watched c hs) g
      g.positions (hu.unspent ht)) fun results v hv ↦ ?_
    exact (post_bind _).mpr ((blames_logEvent _ v).mono (fun _ _ hw ↦ hv.keeps hw)
      fun _ _ hw ↦ hv.keeps hw.1)
  have hend {t u : StationSession (WatchWorld X)} (ht : Unbroken t) (hu : Keeps t u) :
      u.world.watch ≠ .broken :=
    (ht.keeps hu).elim (·.ne_broken) (·.ne_broken)
  rw [runGroupAllPositions, post_ensuring]
  refine hbody.mono (fun _ t ht ↦ ?_) fun _ t ht ↦ ?_
  · exact (hshutdown t).mono (fun _ _ hu ↦ hend ht hu) fun _ _ hu ↦ hend ht hu
  · exact (hshutdown t).mono (fun _ _ hu ↦ hend ht hu) fun _ _ hu ↦ hend ht hu

end Loop

/-- A rig on which everything succeeds. The world counts the settings of the SMU. -/
def healthyRig : Rig ℕ where
  perform op settings :=
    match op with
    | .setMode _ _ _ => (none, settings + 1)
    | _ => (none, settings)
  read _ settings := (.ok 4, settings)
  emergencyOutputOff _ settings := (true, settings)
  sequence _ settings := ((.completed, true), settings)
  ntcVoltageToCelsius _ := none
  fatal op hop settings e h := by
    cases op <;> first | exact hop.elim | exact absurd h (Option.some_ne_none e).symm

/-- A charge of the first position. -/
def firstCharge : RigRun ℕ where
  toSequenceRun := firstPosition
  chargeFields_fatal _ _ h := by cases h
  dischargeFields_fatal _ _ h := by cases h

-- The operator asks while the SMU is being configured: one output is enabled, and turned off.
example : ((runGroupAllPositions (healthyRig.watched (1 ≤ ·))
    (fun _ ↦ sequenceEnd (SequenceClass.charge.run (healthyRig.watched (1 ≤ ·))
      (firstCharge.watched (1 ≤ ·)))) threePositions
    ⟨.start 0 false, []⟩).final.map (·.world.watch)) = some (.enabled true) := by decide +kernel

end Nipxi
