import Nipxi.TestControl.GroupShutdown
import Nipxi.TestControl.SensePath

/-!
# A position that starts after Ctrl+C

`utils/cancellation.py` under `_run_one_charge_or_discharge_position`. A request raises at the first
checkpoint of the sequence of a position, `run_guarded` records it, and the position is reported as
cancelled. A position does not get there where the database refuses its row, its pre-check fails or
its run number cannot be had, and is not reported so where a row of its cancellation cannot be
written: `post_runOnePosition_late`.
-/

open Collections Effect

namespace Nipxi

/-! ## The token -/

/-- The world of a station whose operator may press Ctrl+C, and the token. -/
structure TokenWorld (X : Type) where
  inner : X
  /-- `token.is_cancelled`. -/
  requested : Bool
  /-- How many positions were started after the request. -/
  startedLate : ℕ
  requested_of_startedLate : 0 < startedLate → requested = true

namespace TokenWorld

variable {X α : Type}

/-- Before a run, with the token as it is then. -/
def start (inner : X) (requested : Bool) : TokenWorld X where
  inner := inner
  requested := requested
  startedLate := 0
  requested_of_startedLate h := absurd h (Nat.lt_irrefl 0)

/-- The world changed, and the operator may have asked by now. -/
def step (asks : X → Bool) (w : TokenWorld X) (inner : X) : TokenWorld X where
  inner := inner
  requested := w.requested || asks inner
  startedLate := w.startedLate
  requested_of_startedLate h := by rw [w.requested_of_startedLate h, Bool.true_or]

/-- A position was started. -/
def started (w : TokenWorld X) : TokenWorld X where
  inner := w.inner
  requested := w.requested
  startedLate := if w.requested then w.startedLate + 1 else w.startedLate
  requested_of_startedLate h := by
    cases hrequested : w.requested with
    | true => rfl
    | false =>
      rw [hrequested] at h
      exact hrequested ▸ w.requested_of_startedLate h

/-- What looks at the inner world only. -/
def lift (asks : X → Bool) (f : X → α × X) (w : TokenWorld X) : α × TokenWorld X :=
  ((f w.inner).1, w.step asks (f w.inner).2)

/-- `CancellationToken.check`. -/
def check (w : TokenWorld X) : Option Exc :=
  if w.requested then some ⟨.operationCancelledError, "Ctrl+C"⟩ else none

end TokenWorld

/-- A station whose operator presses Ctrl+C in some worlds. -/
def Station.withToken {X : Type} (asks : X → Bool) (st : Station X) : Station (TokenWorld X) where
  perform
    | .checkCancellation => fun w ↦ (w.check, w.step asks w.inner)
    | .beginNewRunId => fun w ↦ TokenWorld.lift asks (st.perform .beginNewRunId) w.started
    | op => TokenWorld.lift asks (st.perform op)
  read reading := TokenWorld.lift asks (st.read reading)
  emergencyOutputOff reason := TokenWorld.lift asks (st.emergencyOutputOff reason)
  sequence n := TokenWorld.lift asks (st.sequence n)
  ntcVoltageToCelsius := st.ntcVoltageToCelsius

/-- The settings of a sequence at such a station. -/
def SequenceRun.withToken {X : Type} (asks : X → Bool) (r : SequenceRun X) :
    SequenceRun (TokenWorld X) where
  channel := r.channel
  relayAddress := r.relayAddress
  relayMatrixName := r.relayMatrixName
  smuModel := r.smuModel
  smuResource := r.smuResource
  sense := r.sense
  chargeCurrentA := r.chargeCurrentA
  chargeVoltageV := r.chargeVoltageV
  dischargeCurrentA := r.dischargeCurrentA
  dischargeCutoffV := r.dischargeCutoffV
  voltageMinV := r.voltageMinV
  voltageMaxV := r.voltageMaxV
  chargeFields := TokenWorld.lift asks r.chargeFields
  dischargeFields := TokenWorld.lift asks r.dischargeFields
  verificationResult w := r.verificationResult w.inner
  cycleCount := r.cycleCount
  cycleRestS := r.cycleRestS

/-! ## What is late -/

/-- The entries of the newest slots. -/
def newestSlots : ℕ → List StationCall → List StationCall
  | 0, _ | _ + 1, [] => []
  | n + 1, c :: older => c :: newestSlots (if c.isSlot then n else n + 1) older

/-- What was asked of the station since the first position that was started after the request. -/
def lateCalls {X : Type} (s : StationSession (TokenWorld X)) : List StationCall :=
  newestSlots s.world.startedLate s.trace

/-- The row of a run at a position was asked for. -/
def StartedAt (position : ℕ) (evs : List StationCall) : Prop :=
  ∃ source batteryType group raised,
    .call (.startRunSummary source batteryType group position) raised ∈ evs

/-- An entry through which a position ends before its first checkpoint, or unlike a cancelled one,
in a result the loop moves on after: its row is refused by the database, its pre-check fails, its
run number cannot be had for a fault of the battery, or the rows of its cancellation cannot. -/
def StationCall.Evades (toCelsius : ℚ → Option ℚ) (evs : List StationCall) : StationCall → Prop
  | .call (.startRunSummary _ _ _ _) (some e) => e.isInstance [.sqliteError] = true
  | .call .runNumber (some e) => classifyPositionException e = .fail
  | .read .battery (.ok voltage) => classifyBatteryPresence voltage = .absent
  | .read (.ntc position _) (.ok voltage) =>
    classifyNtcPresence toCelsius voltage ≠ .present ∧ StartedAt position evs
  | c => c.Misleads

/-- Some entry evades. -/
def Evaded (toCelsius : ℚ → Option ℚ) (evs : List StationCall) : Prop :=
  ∃ c ∈ evs, c.Evades toCelsius evs

section Slots

variable {new old : List StationCall} {n : ℕ}

theorem newestSlots_append (hnew : WithinSlot new) (hn : 0 < n) :
    newestSlots n (new ++ old) = new ++ newestSlots n old := by
  obtain ⟨n, rfl⟩ := Nat.exists_eq_add_one.mpr hn
  induction new with
  | nil => rfl
  | cons c rest ih =>
    have hc : ¬c.isSlot = true := by simp [hnew c List.mem_cons_self]
    rw [List.cons_append, newestSlots, if_neg hc, ih fun d hd ↦ hnew d (List.mem_cons_of_mem c hd)]
    rfl

theorem StartedAt.mono {position : ℕ} (h : StartedAt position old) (hsub : old ⊆ new) :
    StartedAt position new := by
  obtain ⟨source, batteryType, group, raised, hc⟩ := h
  exact ⟨source, batteryType, group, raised, hsub hc⟩

theorem StationCall.Evades.mono {toCelsius : ℚ → Option ℚ} {c : StationCall}
    (h : c.Evades toCelsius old) (hsub : old ⊆ new) : c.Evades toCelsius new := by
  unfold Evades at h ⊢
  split at h
  · exact h
  · exact h
  · exact h
  · exact ⟨h.1, h.2.mono hsub⟩
  · exact h

theorem Evaded.mono {toCelsius : ℚ → Option ℚ} (h : Evaded toCelsius old) (hsub : old ⊆ new) :
    Evaded toCelsius new := by
  obtain ⟨c, hc, hevades⟩ := h
  exact ⟨c, hsub hc, hevades.mono hsub⟩

theorem StationCall.Misleads.evades {toCelsius : ℚ → Option ℚ} {c : StationCall}
    (h : c.Misleads) : c.Evades toCelsius new := by
  unfold Misleads at h
  split at h
  · exact h
  · exact h
  · exact h
  · exact h
  · exact h.elim

end Slots

/-! ## What stays after a request -/

section Token

variable {X : Type} {asks : X → Bool} {st : Station X}

/-- A request is not taken back, and what was late stays late. -/
structure Later (s t : StationSession (TokenWorld X)) : Prop where
  requested : s.world.requested = true → t.world.requested = true
  added : ∃ new, t.trace = new ++ s.trace ∧
    (WithinSlot new → t.world.startedLate = s.world.startedLate) ∧
    (0 < s.world.startedLate → 0 < t.world.startedLate ∧ lateCalls t = new ++ lateCalls s)

instance : IsPreorder (StationSession (TokenWorld X)) Later where
  refl _ := ⟨id, [], rfl, fun _ ↦ rfl, fun hlate ↦ ⟨hlate, rfl⟩⟩
  trans _ _ _ h h' := by
    obtain ⟨old, hold, hstarted, hlate⟩ := h.added
    obtain ⟨new, hnew, hstarted', hlate'⟩ := h'.added
    refine ⟨h'.requested ∘ h.requested, new ++ old, ?_, fun hwithin ↦ ?_, fun hpos ↦ ?_⟩
    · rw [hnew, hold, List.append_assoc]
    · have hparts := List.forall_mem_append.mp hwithin
      rw [hstarted' hparts.1, hstarted hparts.2]
    · obtain ⟨hpos', hcalls⟩ := hlate hpos
      obtain ⟨hpos'', hcalls'⟩ := hlate' hpos'
      exact ⟨hpos'', by rw [hcalls', hcalls, List.append_assoc]⟩

/-- What is late after a part within the slot. -/
theorem Later.lateCalls_subset {s t : StationSession (TokenWorld X)} (h : Later s t)
    (hlate : 0 < s.world.startedLate) : lateCalls s ⊆ lateCalls t := by
  obtain ⟨new, -, -, hnew⟩ := h.added
  rw [(hnew hlate).2]
  exact List.subset_append_right new _

theorem Later.new_subset {s t : StationSession (TokenWorld X)} (h : Later s t)
    (hlate : 0 < s.world.startedLate) {new : List StationCall} (ht : t.trace = new ++ s.trace) :
    new ⊆ lateCalls t := by
  obtain ⟨new', ht', -, hnew⟩ := h.added
  rw [ht] at ht'
  rw [(hnew hlate).2, ← List.append_cancel_right ht']
  exact List.subset_append_left new _

theorem Later.mem_lateCalls {s t : StationSession (TokenWorld X)} (h : Later s t)
    (hlate : 0 < s.world.startedLate) {c : StationCall} (ht : t.trace = c :: s.trace) :
    c ∈ lateCalls t := by
  rw [← List.singleton_append] at ht
  exact h.new_subset hlate ht (List.mem_singleton_self c)

theorem Later.startedLate_pos {s t : StationSession (TokenWorld X)} (h : Later s t)
    (hlate : 0 < s.world.startedLate) : 0 < t.world.startedLate := by
  obtain ⟨new, -, -, hnew⟩ := h.added
  exact (hnew hlate).1

theorem Later.startedLate_eq {s t : StationSession (TokenWorld X)} (h : Later s t)
    (hwithin : Adds WithinSlot s t) : t.world.startedLate = s.world.startedLate := by
  obtain ⟨new, ht, hstarted, -⟩ := h.added
  obtain ⟨new', ht', hnew'⟩ := hwithin
  rw [ht] at ht'
  exact hstarted (List.append_cancel_right ht' ▸ hnew')

theorem later_after {c : StationCall} (hc : c.isSlot = false)
    (s : StationSession (TokenWorld X)) {w : TokenWorld X}
    (hrequested : s.world.requested = true → w.requested = true)
    (hstarted : w.startedLate = s.world.startedLate) : Later s (s.after c w) := by
  have hwithin : WithinSlot [c] := List.forall_mem_singleton.mpr hc
  refine ⟨hrequested, [c], rfl, fun _ ↦ hstarted, fun hlate ↦ ⟨hstarted ▸ hlate, ?_⟩⟩
  change newestSlots w.startedLate ([c] ++ s.trace) = _
  rw [hstarted, newestSlots_append hwithin hlate]
  rfl

theorem later_step {c : StationCall} (hc : c.isSlot = false)
    (s : StationSession (TokenWorld X)) (inner : X) :
    Later s (s.after c (s.world.step asks inner)) := by
  refine later_after hc s (fun h ↦ ?_) rfl
  change (s.world.requested || asks inner) = true
  rw [h, Bool.true_or]

theorem later_beginNewRunId (s : StationSession (TokenWorld X)) (raised : Option Exc) (inner : X) :
    Later s (s.after (.call .beginNewRunId raised) (s.world.started.step asks inner)) := by
  refine ⟨fun h ↦ ?_, [.call .beginNewRunId raised], rfl, fun hwithin ↦ ?_, fun hlate ↦ ?_⟩
  · change (s.world.requested || asks inner) = true
    rw [h, Bool.true_or]
  · exact absurd (hwithin _ (List.mem_singleton_self _)) nofun
  · have hstarted : (s.world.started.step asks inner).startedLate = s.world.startedLate + 1 :=
      if_pos (s.world.requested_of_startedLate hlate)
    refine ⟨?_, ?_⟩
    · change 0 < (s.world.started.step asks inner).startedLate
      rw [hstarted]
      exact Nat.succ_pos _
    · change newestSlots (s.world.started.step asks inner).startedLate _ = _
      rw [hstarted]
      rfl

theorem traverses_withToken (asks : X → Bool) (st : Station X) :
    Traverses (st.withToken asks) Later where
  toIsPreorder := inferInstance
  call op _ := ends_call fun s ↦ by
    cases op with
    | beginNewRunId => exact later_beginNewRunId s _ _
    | _ => exact later_step rfl s _
  read reading _ := ends_read fun s ↦ later_step rfl s _
  emergencyOutputOff _ s := ⟨_, rfl, later_step rfl s _⟩
  note c hc s := by
    refine ⟨_, rfl, later_after ?_ s id rfl⟩
    cases c <;> first | rfl | exact absurd hc nofun

theorem spans_withToken (asks : X → Bool) (st : Station X) (r : SequenceRun X) :
    Spans (st.withToken asks) (r.withToken asks) Later where
  toTraverses := traverses_withToken asks st
  finalVoltage := ends_read fun s ↦ later_step rfl s _
  charge := ends_call fun s ↦ later_step rfl s _
  discharge := ends_call fun s ↦ later_step rfl s _
  chargeFields := ends_extraRunSummaryFields fun s _ ↦ later_step rfl s _
  dischargeFields := ends_extraRunSummaryFields fun s _ ↦ later_step rfl s _
  cycleFields := ends_extraRunSummaryFields fun s _ ↦ later_after rfl s id rfl
  senseConnect _ _ := ends_call fun s ↦ later_step rfl s _
  senseDisconnect _ _ := ends_call fun s ↦ later_step rfl s _

end Token

/-! ## One position -/

/-- A preorder that the calls of the position runner respect: it acknowledges no fault. -/
structure Walks {X : Type} (st : Station X) (R : StationSession X → StationSession X → Prop) : Prop
    extends IsPreorder (StationSession X) R where
  call : ∀ op : Operation, op.IsPlain → op ≠ .acknowledgeSafetyFault →
    Ends R (StationProg.call st op)
  read : ∀ reading, reading ≠ .finalVoltage → Ends R (StationProg.read st reading)

theorem Traverses.walks {X : Type} {st : Station X} {R : StationSession X → StationSession X → Prop}
    (hR : Traverses st R) : Walks st R where
  toIsPreorder := hR.toIsPreorder
  call op hop _ := hR.call op hop
  read := hR.read

namespace Walks

variable {X : Type} {st : Station X} {R : StationSession X → StationSession X → Prop}
  {p : PrecheckRun}

theorem logEvent (hR : Walks st R) (entry : EventEntry) :
    Ends R (StationProg.logEvent st entry) := hR.call _ trivial nofun

theorem logEvents (hR : Walks st R) (entries : List EventEntry) :
    Ends R (Nipxi.logEvents st entries) := by
  have := hR.toIsPreorder
  induction entries with
  | nil => exact .pure _
  | cons entry rest ih => exact .bind (hR.logEvent entry) fun _ ↦ ih

theorem readBattery (hR : Walks st R) : Ends R (Nipxi.readBattery st p) := by
  have := hR.toIsPreorder
  refine .bind (.attempt (hR.read _ nofun)) fun ended ↦ ?_
  cases ended with
  | ok voltage => exact .pure _
  | error e => exact .bind (hR.logEvent _) fun _ ↦ .pure _

theorem ntcReading (hR : Walks st R) (position : ℕ) :
    Ends R (Nipxi.ntcReading st p position) := by
  have := hR.toIsPreorder
  unfold Nipxi.ntcReading
  cases p.ntcChannel position with
  | none => exact .bind (hR.logEvent _) fun _ ↦ .pure _
  | some channel =>
    refine .bind (.attempt (hR.read _ nofun)) fun ended ↦ ?_
    cases ended with
    | ok voltage => exact .pure _
    | error e => exact .ite (.bind (hR.logEvent _) fun _ ↦ .pure _) (.raise _)

theorem ntcPositions (hR : Walks st R) (positions : List ℕ) :
    Ends R (Nipxi.ntcPositions st p positions) := by
  have := hR.toIsPreorder
  induction positions with
  | nil => exact .pure _
  | cons position rest ih =>
    refine .bind (.bind (hR.ntcReading position) fun read ↦ ?_) fun _ ↦ .bind ih fun _ ↦ .pure _
    exact .bind (hR.call _ trivial nofun) fun _ ↦ .bind (hR.logEvent _) fun _ ↦ .pure _

theorem warnReversed (hR : Walks st R) (voltage : Option ℚ) :
    Ends R (Nipxi.warnReversed st p voltage) := by
  have := hR.toIsPreorder
  cases voltage with
  | none => exact .pure _
  | some v => exact .ite (hR.logEvent _) (.pure _)

theorem precheck (hR : Walks st R) : Ends R (Nipxi.precheck st p) := by
  have := hR.toIsPreorder
  refine .bind (hR.call _ trivial nofun) fun _ ↦ ?_
  refine .bind (.ensuring hR.readBattery (hR.call _ trivial nofun)) fun voltage ↦ ?_
  refine .bind (hR.call _ trivial nofun) fun _ ↦ ?_
  refine .bind (.ite (hR.ntcPositions _) (.pure _)) fun snapshot ↦ ?_
  refine .bind (hR.warnReversed voltage) fun _ ↦ .bind ?_ fun _ ↦ .pure _
  exact .bind (hR.logEvent _) fun _ ↦ .ite (.pure _) (hR.logEvent _)

theorem startRunSummaryGuarded (hR : Walks st R) {p : PositionRun} :
    Ends R (Nipxi.startRunSummaryGuarded st p) := by
  have := hR.toIsPreorder
  refine .handle (.bind (hR.call _ trivial nofun) fun _ ↦ .pure _) fun e ↦ ?_
  exact .ite (.pure _) (.raise _)

theorem recordStationFault (hR : Walks st R) {p : PositionRun} (exception message : String) :
    Ends R (Nipxi.recordStationFault st p exception message) := by
  have := hR.toIsPreorder
  exact .bind (hR.call _ trivial nofun) fun _ ↦
    .bind (hR.call _ trivial nofun) fun _ ↦ hR.logEvent _

theorem classifyEnd (hR : Walks st R) {p : PositionRun} (ended : SequenceEnd) :
    Ends R (Nipxi.classifyEnd st p ended) := by
  have := hR.toIsPreorder
  cases ended with
  | completed => exact .pure _
  | interrupted => exact .pure _
  | raised e =>
    refine .ite (.pure _) (.ite ?_ (.pure _))
    exact .bind (hR.recordStationFault _ _) fun _ ↦ .pure _

theorem runOnePosition (hR : Walks st R) {p : PositionRun} {run : StationProg X SequenceEnd}
    (hrun : Ends R run) : Ends R (Nipxi.runOnePosition st run p) := by
  have := hR.toIsPreorder
  refine .bind hR.startRunSummaryGuarded fun started ↦ .ite ?_ (.pure _)
  refine .bind (hR.logEvents _) fun _ ↦ .bind hR.precheck fun found ↦ .ite ?_ (.ite ?_ ?_)
  · exact .bind (hR.recordStationFault _ _) fun _ ↦ .pure _
  · refine .bind hrun fun ended ↦ .bind (hR.classifyEnd ended) fun result ↦ ?_
    exact .bind (hR.call _ trivial nofun) fun _ ↦ .pure _
  · exact .bind (hR.call _ trivial nofun) fun _ ↦ .bind (hR.call _ trivial nofun) fun _ ↦ .pure _

end Walks

section Precheck

variable {X : Type} {asks : X → Bool} {st : Station X} {p : PrecheckRun}
  {s : StationSession (TokenWorld X)}

theorem post_later {α : Type} {x : StationProg (TokenWorld X) α} (hx : Ends Later x)
    {Q : α → StationSession (TokenWorld X) → Prop} {E : Exc → StationSession (TokenWorld X) → Prop}
    (h : Post x Q E s) :
    Post x (fun a t ↦ Later s t ∧ Q a t) (fun e t ↦ Later s t ∧ E e t) s := (hx.within s).and h

/-- A readable result of the snapshot rests on a reading. -/
def NtcResult.RestsOn (toCelsius : ℚ → Option ℚ) (evs : List StationCall) (result : NtcResult) :
    Prop :=
  result.readable = true → ∃ channel voltage,
    .read (.ntc result.position channel) (.ok voltage) ∈ evs ∧
      result.presence = classifyNtcPresence toCelsius voltage

theorem NtcResult.RestsOn.mono {toCelsius : ℚ → Option ℚ} {old new : List StationCall}
    {result : NtcResult} (h : result.RestsOn toCelsius old) (hsub : old ⊆ new) :
    result.RestsOn toCelsius new := fun hreadable ↦
  (h hreadable).imp fun _ hch ↦ hch.imp fun _ hread ↦ ⟨hsub hread.1, hread.2⟩

/-- A part of which only what was late matters. -/
theorem post_bind_later {α β : Type} {x : StationProg (TokenWorld X) α}
    {f : α → StationProg (TokenWorld X) β} {Q : β → StationSession (TokenWorld X) → Prop}
    (hx : Ends Later x) (h : ∀ a t, Later s t → Post (f a) Q (fun _ _ ↦ True) t) :
    Post (x >>= f) Q (fun _ _ ↦ True) s :=
  (post_bind f).mpr ((hx.within s).mono h fun _ _ _ ↦ trivial)

theorem post_readBattery_late (hlate : 0 < s.world.startedLate) :
    Post (readBattery (st.withToken asks) p)
      (fun voltage t ↦ Later s t ∧ ∀ v, voltage = some v → .read .battery (.ok v) ∈ lateCalls t)
      (fun _ _ ↦ True) s := by
  have hR := traverses_withToken asks st
  refine (post_bind _).mpr (post_attempt.mpr ?_)
  refine (post_later (hR.read .battery nofun) (StationProg.post_read _ _ s)).mono
    (fun v t ht ↦ ⟨ht.1, ?_⟩) fun e t ht ↦ ?_
  · rintro _ ⟨⟩
    exact ht.1.mem_lateCalls hlate ht.2
  · exact post_bind_later (hR.dwells.logEvent _) fun _ _ hu ↦ ⟨trans_of Later ht.1 hu, nofun⟩

theorem post_ntcReading_late (hlate : 0 < s.world.startedLate) (position : ℕ) :
    Post (ntcReading (st.withToken asks) p position)
      (fun read t ↦ Later s t ∧ read.2.RestsOn st.ntcVoltageToCelsius (lateCalls t))
      (fun _ _ ↦ True) s := by
  have hR := traverses_withToken asks st
  unfold ntcReading
  cases p.ntcChannel position with
  | none => exact post_bind_later (hR.dwells.logEvent _) fun _ _ ht ↦ ⟨ht, nofun⟩
  | some channel =>
    refine (post_bind _).mpr (post_attempt.mpr ?_)
    refine (post_later (hR.read (.ntc position channel) nofun) (StationProg.post_read _ _ s)).mono
      (fun v t ht ↦ ⟨ht.1, fun _ ↦ ⟨channel, v, ?_, rfl⟩⟩) fun e t ht ↦ ?_
    · exact ht.1.mem_lateCalls hlate ht.2
    · refine post_ite.mpr ?_
      split
      · exact post_bind_later (hR.dwells.logEvent _) fun _ _ hu ↦ ⟨trans_of Later ht.1 hu, nofun⟩
      · trivial

/-- By induction on the positions of the group. -/
theorem post_ntcPositions_late (positions : List ℕ) (hlate : 0 < s.world.startedLate) :
    Post (ntcPositions (st.withToken asks) p positions)
      (fun results t ↦ Later s t ∧
        ∀ result ∈ results, result.RestsOn st.ntcVoltageToCelsius (lateCalls t))
      (fun _ _ ↦ True) s := by
  have hR := traverses_withToken asks st
  induction positions generalizing s with
  | nil => exact ⟨refl_of Later s, List.forall_mem_nil _⟩
  | cons position rest ih =>
    -- the rows of the position, and then the others
    refine (post_bind _).mpr ((post_bind _).mpr ((post_ntcReading_late hlate position).mono
      (fun read t ht ↦ ?_) fun _ _ h ↦ h))
    refine post_bind_later (hR.call _ trivial) fun _ u hu ↦ ?_
    refine post_bind_later (hR.dwells.logEvent _) fun _ v hv ↦ ?_
    have htv : Later t v := trans_of Later hu hv
    have hsv : Later s v := trans_of Later ht.1 htv
    refine (ih (hsv.startedLate_pos hlate)).bind fun results w hw ↦ ?_
    refine ⟨trans_of Later hsv hw.1, List.forall_mem_cons.mpr ⟨ht.2.mono ?_, hw.2⟩⟩
    exact (trans_of Later htv hw.1).lateCalls_subset (ht.1.startedLate_pos hlate)

/-- A reason against a test rests on the battery or on the sensor. -/
theorem cases_of_precheckReasons {battery : Option BatteryPresence} {target : Option NtcResult}
    (h : precheckReasons battery target ≠ []) :
    battery = some .absent ∨ ∃ result, target = some result ∧ result.readable = true ∧
      result.presence ≠ .present := by
  unfold precheckReasons at h
  by_cases hbattery : battery = some .absent
  · exact Or.inl hbattery
  · refine Or.inr ?_
    rw [if_neg hbattery, List.nil_append] at h
    cases target with
    | none => exact absurd rfl h
    | some result =>
      by_cases hresult : result.readable = true ∧ result.presence ≠ .present
      · exact ⟨result, rfl, hresult⟩
      · exact absurd (if_neg hresult) h

/-- **A pre-check that fails evades.** -/
theorem post_precheck_late (hlate : 0 < s.world.startedLate)
    (hstarted : StartedAt p.position (lateCalls s)) :
    Post (precheck (st.withToken asks) p)
      (fun found t ↦ Later s t ∧
        (found.ok = false → Evaded st.ntcVoltageToCelsius (lateCalls t)))
      (fun _ _ ↦ True) s := by
  have hR := traverses_withToken asks st
  refine post_bind_later (hR.call _ trivial) fun _ t ht ↦ ?_
  have hlatet := ht.startedLate_pos hlate
  -- the relay is opened again, whatever the reading
  have hbattery : Post ((readBattery (st.withToken asks) p).ensuring
      (StationProg.call (st.withToken asks) (.relayOpen p.relayAddress)))
      (fun voltage u ↦ Later t u ∧ ∀ v, voltage = some v → .read .battery (.ok v) ∈ lateCalls u)
      (fun _ _ ↦ True) t := by
    rw [post_ensuring]
    refine (post_readBattery_late hlatet).mono (fun voltage u hu ↦ ?_) fun _ u _ ↦ ?_
    · refine ((hR.call (.relayOpen p.relayAddress) trivial).within u).mono (fun _ v hv ↦ ?_)
        fun _ _ _ ↦ trivial
      refine ⟨trans_of Later hu.1 hv, fun x hx ↦ ?_⟩
      exact hv.lateCalls_subset (hu.1.startedLate_pos hlatet) (hu.2 x hx)
    · exact .of_forall (fun _ _ ↦ trivial) fun _ _ ↦ trivial
  refine hbattery.bind fun voltage u hu ↦ ?_
  have hsu : Later s u := trans_of Later ht hu.1
  refine post_bind_later (hR.call _ trivial) fun _ v hv ↦ ?_
  have hsv : Later s v := trans_of Later hsu hv
  have hsnapshot : Post (ntcGroupSnapshot (st.withToken asks) p)
      (fun results w ↦ Later v w ∧
        ∀ result ∈ results, result.RestsOn st.ntcVoltageToCelsius (lateCalls w))
      (fun _ _ ↦ True) v := by
    rw [ntcGroupSnapshot, post_ite]
    split
    · exact post_ntcPositions_late _ (hsv.startedLate_pos hlate)
    · exact ⟨refl_of Later v, List.forall_mem_nil _⟩
  refine hsnapshot.bind fun snapshot w hw ↦ ?_
  have hsw : Later s w := trans_of Later hsv hw.1
  refine post_bind_later (hR.walks.warnReversed voltage) fun _ x hx ↦ ?_
  refine post_bind_later
    (.bind (hR.dwells.logEvent _) fun _ ↦ .ite (.pure _) (hR.dwells.logEvent _)) fun _ y hy ↦ ?_
  have hwy : Later w y := trans_of Later hx hy
  have hsub : lateCalls w ⊆ lateCalls y := hwy.lateCalls_subset (hsw.startedLate_pos hlate)
  refine ⟨trans_of Later hsw hwy, fun hfailed ↦ ?_⟩
  have hreasons := List.isEmpty_eq_false_iff.mp hfailed
  rcases cases_of_precheckReasons hreasons with habsent | ⟨result, htarget, hreadable, hpresence⟩
  · obtain ⟨v', hvoltage, habsent⟩ := Option.map_eq_some_iff.mp habsent
    have huy : Later u y := trans_of Later hv (trans_of Later hw.1 hwy)
    refine ⟨_, huy.lateCalls_subset (hsu.startedLate_pos hlate) (hu.2 v' hvoltage), habsent⟩
  · have hposition : result.position = p.position := by
      have hfound := List.find?_some htarget
      exact beq_iff_eq.mp hfound
    obtain ⟨channel, v', hread, hclassified⟩ :=
      hw.2 result (List.mem_of_find?_eq_some htarget) hreadable
    refine ⟨_, hsub hread, hclassified ▸ hpresence, ?_⟩
    rw [hposition]
    exact hstarted.mono ((trans_of Later hsw hwy).lateCalls_subset hlate)

end Precheck

/-! ### The sequence -/

section Sequences

variable {X : Type} {asks : X → Bool} {st : Station X} {r : SequenceRun X}
  {s : StationSession (TokenWorld X)}

/-- `x` raises, and where it raises a fault of the battery an entry evades. -/
def Yields (toCelsius : ℚ → Option ℚ) (x : StationProg (TokenWorld X) PUnit)
    (s : StationSession (TokenWorld X)) : Prop :=
  Post x (fun _ _ ↦ False)
    (fun e t ↦ Later s t ∧
      (classifyPositionException e = .fail → Evaded toCelsius (lateCalls t))) s

theorem post_checkpoint {f : PUnit → StationProg (TokenWorld X) PUnit}
    (hrequested : s.world.requested = true) :
    Post (StationProg.call (st.withToken asks) .checkCancellation >>= f) (fun _ _ ↦ False)
      (fun e t ↦ Later s t ∧ e.cls = .operationCancelledError) s := by
  have hraises : StationProg.call (st.withToken asks) .checkCancellation s =
      .error ⟨.operationCancelledError, "Ctrl+C"⟩ (s.after
        (.call .checkCancellation (some ⟨.operationCancelledError, "Ctrl+C"⟩))
        (s.world.step asks s.world.inner)) := by
    have hcheck : s.world.check = some ⟨.operationCancelledError, "Ctrl+C"⟩ := if_pos hrequested
    have hperform : (st.withToken asks).perform .checkCancellation s.world =
        (some ⟨.operationCancelledError, "Ctrl+C"⟩, s.world.step asks s.world.inner) := by
      rw [← hcheck]
      rfl
    unfold StationProg.call
    rw [hperform]
  rw [post_bind, post_of_error hraises]
  exact ⟨later_step rfl s _, rfl⟩

/-- **The guard of a cancelled operation.** -/
theorem yields_runGuarded {g : GuardedRun (TokenWorld X)} {fn : StationProg (TokenWorld X) PUnit}
    (hfields : Ends Later (extraRunSummaryFields g)) (hlate : 0 < s.world.startedLate)
    (hfn : Post fn (fun _ _ ↦ False)
      (fun e t ↦ Later s t ∧ e.cls = .operationCancelledError) s) :
    Yields st.ntcVoltageToCelsius (runGuarded (st.withToken asks) g fn) s := by
  have hR := traverses_withToken asks st
  have hfinal : Ends Later (StationProg.read (st.withToken asks) .finalVoltage) :=
    ends_read fun s ↦ later_step rfl s _
  refine (post_handle _).mpr (hfn.mono (fun _ _ h ↦ h) fun e t ht ↦ ?_)
  have hlatet := ht.1.startedLate_pos hlate
  have hreveals : Reveals (recordFailure (st.withToken asks) g (exceptClause g e)) :=
    reveals_recordFailure _
  have hrows := post_later (hR.dwells.recordFailure hfields hfinal e) (hreveals t)
  refine (post_bind _).mpr (hrows.mono (fun _ u hu ↦ ?_) fun e' u hu ↦ ?_)
  · have hshut : Post (shutDown (st.withToken asks) g (exceptClause g e) e)
        (fun _ v ↦ Later u v ∧ Added StationSession.trace ShutsDown u v)
        (fun _ v ↦ Later u v ∧ False) u :=
      post_later (hR.dwells.shutDown _ _) (post_shutDown _ _ u)
    refine (post_bind _).mpr (hshut.mono (fun _ v hv ↦ ?_) fun _ _ h ↦ h.2.elim)
    refine ⟨trans_of Later ht.1 (trans_of Later hu.1 hv.1), fun hfail ↦ ?_⟩
    rw [classifyPositionException_eq_fail_iff, ht.2] at hfail
    exact absurd hfail (by decide)
  · -- the rows of the cancellation cannot be written
    refine ⟨trans_of Later ht.1 hu.1, fun hfail ↦ ?_⟩
    obtain ⟨new, hnew, hmisled⟩ := hu.2
    obtain ⟨c, hc, hmisleads⟩ := hmisled.misleads hfail
    exact ⟨c, hu.1.new_subset hlatet hnew hc, hmisleads.evades⟩

/-- What follows an operation that raises is not reached. -/
theorem Yields.bind {toCelsius : ℚ → Option ℚ} {x : StationProg (TokenWorld X) PUnit}
    {f : PUnit → StationProg (TokenWorld X) PUnit} (hx : Yields toCelsius x s) :
    Yields toCelsius (x >>= f) s :=
  (post_bind f).mpr (hx.mono (fun _ _ h ↦ h.elim) fun _ _ h ↦ h)

theorem yields_runPhase {ph : Phase (TokenWorld X)}
    (hfields : Ends Later (extraRunSummaryFields ph.guarded))
    (hlate : 0 < s.world.startedLate) :
    Yields st.ntcVoltageToCelsius (runPhase (st.withToken asks) (r.withToken asks) ph) s := by
  have hR := spans_withToken asks st r
  have hnumber := post_later (hR.call .runNumber trivial)
    (StationProg.post_call (st.withToken asks) .runNumber s)
  refine (post_bind _).mpr (hnumber.mono (fun _ t ht ↦ ?_) fun e t ht ↦ ?_)
  · have hlatet := ht.1.startedLate_pos hlate
    have hguarded : Yields st.ntcVoltageToCelsius (runGuarded (st.withToken asks) ph.guarded
        (phaseBody (st.withToken asks) (r.withToken asks) ph)) t :=
      yields_runGuarded hfields hlatet
        (post_checkpoint (t.world.requested_of_startedLate hlatet))
    exact hguarded.bind.mono (fun _ _ h ↦ h) fun _ _ h ↦ ⟨trans_of Later ht.1 h.1, h.2⟩
  · have hentry : .call .runNumber (some e) ∈ lateCalls t :=
      ht.1.mem_lateCalls hlate ht.2
    exact ⟨ht.1, fun hfail ↦ ⟨_, hentry, hfail⟩⟩

/-- **A sequence that begins after the request is cancelled**, if a cycle has a repetition. -/
theorem yields_run (c : SequenceClass) (hcycle : c = .cycle → 0 < r.cycleCount)
    (hlate : 0 < s.world.startedLate) :
    Yields st.ntcVoltageToCelsius (c.run (st.withToken asks) (r.withToken asks)) s := by
  have hR := spans_withToken asks st r
  cases c with
  | charge => exact yields_runPhase hR.chargeFields hlate
  | discharge => exact yields_runPhase hR.dischargeFields hlate
  | cycle =>
    have hrequested := s.world.requested_of_startedLate hlate
    obtain ⟨n, hn⟩ := Nat.exists_eq_add_one.mpr (hcycle rfl)
    have hcount : List.range' 1 (r.withToken asks).cycleCount = 1 :: List.range' 2 n := by
      rw [show (r.withToken asks).cycleCount = n + 1 from hn, List.range'_succ]
    -- the checkpoint of the first repetition
    have hfirst : Post (runRepetitions (st.withToken asks) (r.withToken asks)
        (List.range' 1 (r.withToken asks).cycleCount)) (fun _ _ ↦ False)
        (fun e t ↦ Later s t ∧ e.cls = .operationCancelledError) s := by
      rw [hcount]
      refine (post_bind _).mpr (Post.mono (post_checkpoint hrequested) (fun _ _ h ↦ h.elim)
        fun _ _ h ↦ h)
    exact (yields_runGuarded hR.cycleFields hlate hfirst).bind

theorem post_sequenceEnd_late (c : SequenceClass) (hcycle : c = .cycle → 0 < r.cycleCount)
    (hlate : 0 < s.world.startedLate) :
    Post (sequenceEnd (c.run (st.withToken asks) (r.withToken asks)))
      (fun ended t ↦ Later s t ∧
        (ended.MovesOn → Evaded st.ntcVoltageToCelsius (lateCalls t)))
      (fun _ _ ↦ True) s := by
  refine (post_bind _).mpr (post_attempt.mpr ((yields_run c hcycle hlate).mono
    (fun _ _ h ↦ h.elim) fun e t ht ↦ ?_))
  exact ht

end Sequences

/-! ### The position -/

section Position

variable {X : Type} {asks : X → Bool} {st : Station X} {r : SequenceRun X} {p : PositionRun}
  {s : StationSession (TokenWorld X)}

theorem post_startRunSummaryGuarded_late (hlate : 0 < s.world.startedLate) :
    Post (startRunSummaryGuarded (st.withToken asks) p)
      (fun started t ↦ Later s t ∧ StartedAt p.position (lateCalls t) ∧
        (started = false → Evaded st.ntcVoltageToCelsius (lateCalls t)))
      (fun _ _ ↦ True) s := by
  have hR := traverses_withToken asks st
  have hrow := post_later
    (hR.call (.startRunSummary p.source p.batteryType p.group p.position) trivial)
    (StationProg.post_call (st.withToken asks) _ s)
  rw [startRunSummaryGuarded, post_handle, post_bind]
  refine hrow.mono (fun _ t ht ↦ ?_) fun e t ht ↦ ?_
  · have hentry := ht.1.mem_lateCalls hlate ht.2
    exact ⟨ht.1, ⟨_, _, _, _, hentry⟩, fun h ↦ absurd h.symm Bool.false_ne_true⟩
  · have hentry := ht.1.mem_lateCalls hlate ht.2
    rw [post_ite]
    split
    · next he => exact ⟨ht.1, ⟨_, _, _, _, hentry⟩, fun _ ↦ ⟨_, hentry, he⟩⟩
    · trivial

/-- **A late position ends in a result that stops the loop, or an entry evades.** -/
theorem post_runOnePosition_late (c : SequenceClass) (hcycle : c = .cycle → 0 < r.cycleCount)
    (hlate : 0 < s.world.startedLate) :
    Post (runOnePosition (st.withToken asks)
      (sequenceEnd (c.run (st.withToken asks) (r.withToken asks))) p)
      (fun result t ↦ Later s t ∧
        (¬result.StopsRun → Evaded st.ntcVoltageToCelsius (lateCalls t)))
      (fun _ _ ↦ True) s := by
  have hR := traverses_withToken asks st
  refine (post_startRunSummaryGuarded_late hlate).bind fun started t ht ↦ ?_
  obtain ⟨hst, hstarted, hrefused⟩ := ht
  cases started with
  | false => exact ⟨hst, fun _ ↦ hrefused rfl⟩
  | true =>
    refine post_bind_later (hR.dwells.logEvents _) fun _ u hu ↦ ?_
    have hsu : Later s u := trans_of Later hst hu
    have hprecheck : Post (precheck (st.withToken asks) p.toPrecheckRun)
        (fun found v ↦ Later u v ∧
          (found.ok = false → Evaded st.ntcVoltageToCelsius (lateCalls v)))
        (fun _ _ ↦ True) u :=
      post_precheck_late (hsu.startedLate_pos hlate)
        (hstarted.mono (hu.lateCalls_subset (hst.startedLate_pos hlate)))
    refine hprecheck.bind fun found v hv ↦ ?_
    have hsv : Later s v := trans_of Later hsu hv.1
    have hlatev := hsv.startedLate_pos hlate
    rw [post_ite, post_ite]
    split
    · refine post_bind_later (hR.walks.recordStationFault _ _) fun _ w hw ↦ ?_
      exact ⟨trans_of Later hsv hw, fun h ↦ absurd (Or.inr rfl) h⟩
    · split
      · refine (post_sequenceEnd_late c hcycle hlatev).bind fun ended w hw ↦ ?_
        have hclassified : Post (classifyEnd (st.withToken asks) p ended)
            (fun result x ↦ Later w x ∧ Adds Neutral w x ∧ (¬result.StopsRun → ended.MovesOn))
            (fun _ x ↦ Later w x ∧ Adds Neutral w x) w :=
          post_later (hR.walks.classifyEnd ended) (post_classifyEnd_neutral ended w)
        refine (post_bind _).mpr (hclassified.mono (fun result x hx ↦ ?_) fun _ _ _ ↦ trivial)
        refine post_bind_later (hR.call _ trivial) fun _ y hy ↦ ?_
        have hwy : Later w y := trans_of Later hx.1 hy
        refine ⟨trans_of Later hsv (trans_of Later hw.1 hwy), fun hmoves ↦ ?_⟩
        have hevaded := hw.2 (hx.2.2 hmoves)
        exact hevaded.mono (hwy.lateCalls_subset (hw.1.startedLate_pos hlatev))
      · next hok =>
        have hevaded := hv.2 (Bool.eq_false_iff.mpr hok)
        refine post_bind_later (hR.call _ trivial) fun _ w hw ↦ ?_
        refine post_bind_later (hR.call _ trivial) fun _ x hx ↦ ?_
        have hvx : Later v x := trans_of Later hw hx
        exact ⟨trans_of Later hsv hvx, fun _ ↦ hevaded.mono (hvx.lateCalls_subset hlatev)⟩

end Position

end Nipxi
