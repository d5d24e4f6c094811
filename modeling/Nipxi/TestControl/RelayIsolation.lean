import Nipxi.TestControl.Setpoints

/-!
# The output is off before the relay is opened

A phase that returns has opened its relay after an `emergency_output_off` that returned True. One
whose output could not be verified off raises; whether all relays were opened by then is another
matter. Where the sampling ended well, the phase escalates, and opens them first. Otherwise this is
left to the shutdown of `run_guarded`, which writes its rows before: so it is skipped if one of them
cannot be written (`keepsIsolation_iff`).
-/

open Collections Effect

namespace Nipxi

variable {X : Type}

/-! ## Entries -/

namespace StationCall

/-- The sampling of a phase. -/
def IsSample : StationCall → Prop
  | .call (.sample _) _ => True
  | _ => False

/-- An entry a phase may make before it samples. -/
def IsEarly : StationCall → Prop
  | .call .runNumber _ | .call .checkCancellation _ | .call (.relayClose _) _
  | .call (.logEvent _) _ | .call (.recordExecutionState _ _ _) _ | .call (.senseConnect _) _
  | .read _ _ | .call (.setMode _ _ _) _ | .call .outputEnable _ => True
  | _ => False

/-- An entry of a phase other than its sampling: not one of the trace of a shutdown. -/
def IsWork : StationCall → Prop
  | .call (.sample _) _ | .call (.traceEvent _) _ => False
  | _ => True

/-- An entry that leaves the output and the relays of the batteries alone. -/
def LeavesAlone : StationCall → Prop
  | .call (.logEvent _) _ | .call (.zeroOutputSetpoint _) _ | .call (.senseDisconnect _) _
  | .extraFields _ | .call (.recordExecutionState _ _ _) _
  | .call (.finishRunSummary _ _ _) _ => True
  | _ => False

/-- `relay.open` was called. -/
def OpensRelay : StationCall → Prop
  | .call (.relayOpen _) _ => True
  | _ => False

/-- A row, or a fault, could not be recorded. -/
def FailsStorage : StationCall → Prop
  | .call (.logEvent _) (some _) | .call (.recordExecutionState _ _ _) (some _)
  | .call (.finishRunSummary _ _ _) (some _) | .extraFields (some _)
  | .call (.reportSafetyFault _) (some _) | .call .acknowledgeSafetyFault (some _) => True
  | _ => False

theorem FailsRecord.failsStorage {c : StationCall} (h : c.FailsRecord) : c.FailsStorage := by
  cases c with
  | call op raised =>
    cases op <;> cases raised <;> first | exact h.elim | trivial
  | extraFields raised =>
    cases raised
    · exact h.elim
    · trivial
  | _ => exact h.elim

theorem IsEarly.isWork {c : StationCall} (h : c.IsEarly) : c.IsWork := by
  cases c with
  | call op raised => cases op <;> first | exact h.elim | trivial
  | _ => trivial

theorem LeavesAlone.isWork {c : StationCall} (h : c.LeavesAlone) : c.IsWork := by
  cases c with
  | call op raised => cases op <;> first | exact h.elim | trivial
  | _ => trivial

theorem IsWork.not_isSample {c : StationCall} (h : c.IsWork) : ¬c.IsSample := by
  cases c with
  | call op raised => cases op <;> first | exact h.elim | exact id
  | _ => exact id

theorem IsEarly.not_opensRelay {c : StationCall} (h : c.IsEarly) : ¬c.OpensRelay := by
  cases c with
  | call op raised => cases op <;> first | exact h.elim | exact id
  | _ => exact id

theorem LeavesAlone.ne_relayOpenAll {c : StationCall} (h : c.LeavesAlone) (raised : Option Exc) :
    c ≠ .call .relayOpenAll raised := by
  rintro rfl
  exact h

theorem IsEarly.ne_relayOpenAll {c : StationCall} (h : c.IsEarly) (raised : Option Exc) :
    c ≠ .call .relayOpenAll raised := by
  rintro rfl
  exact h

end StationCall

/-! ## The law -/

section Law

variable (r : SequenceRun X) (ph : Phase X)

/-- The relay was opened after the output had been verified off, and nothing was switched since. -/
def OpenedVerified (new : List StationCall) : Prop :=
  ∃ after mid before reason,
    new = after ++ .call (.relayOpen r.relayAddress) none ::
      (mid ++ .outputOff reason true :: before) ∧
    (∀ c ∈ after, c.LeavesAlone) ∧ (∀ c ∈ mid, c.LeavesAlone) ∧ ∀ c ∈ before, ¬c.OpensRelay

/-- The sampling ended so, and the output could not be verified off after it. -/
def OffUnverified (raised : Option Exc) (new : List StationCall) : Prop :=
  ∃ after before reason,
    new = after ++ .outputOff reason false :: .call (.sample ph.name) raised :: before

/-- Opening all relays was attempted. -/
def OpenAllRelaysAttempted (new : List StationCall) : Prop :=
  ∃ raised, .call .relayOpenAll raised ∈ new

/-- A safety fault was reported. -/
def FaultReported (new : List StationCall) : Prop :=
  ∃ reason, .call (.reportSafetyFault reason) none ∈ new

/-- What is asked of a run that returned, or raised an exception: a relay is opened only on an
output that is verified off, and a run that could not verify it raises, with all relays opened and,
where the sampling ended well and the storage holds, with the fault reported. -/
def KeepsIsolation : Option Exc → List StationCall → Prop
  | none, new => OpenedVerified r new ∧ ∀ raised, ¬OffUnverified ph raised new
  | some e, new => ∀ raised, OffUnverified ph raised new → OpenAllRelaysAttempted new ∧
    (raised = none → (∀ c ∈ new, ¬c.FailsStorage) →
      FaultReported new ∧ e.cls = .smuStateVerificationError)

/-- The sampling ended well, and the row about the output that is not verified off was written: the
escalation is next. -/
def EscalationReached (new : List StationCall) : Prop :=
  ∃ after before reason entry,
    new = after ++ .call (.logEvent entry) none :: .outputOff reason false ::
      .call (.sample ph.name) none :: before

/-- From the first entry of the trace of a shutdown on, every row was written. -/
def ShutdownRowsWritten (new : List StationCall) : Prop :=
  ∀ newer c older, new = newer ++ c :: older → c.FailsRecord →
    ∀ entry raised, .call (.traceEvent entry) raised ∉ older

/-- If the output could not be verified off, the escalation was reached, or the shutdown could
write its rows. -/
def CanIsolate (new : List StationCall) : Prop :=
  ∀ raised, OffUnverified ph raised new →
    EscalationReached ph new ∨ ShutdownRowsWritten new

end Law

/-! ## The sampling in a trace -/

theorem split_unique {α : Type} {P : α → Prop} {a b a' b' : List α} {x x' : α}
    (h : a ++ x :: b = a' ++ x' :: b') (ha : ∀ c ∈ a, ¬P c) (hb : ∀ c ∈ b, ¬P c) (hx' : P x') :
    a' = a ∧ x' = x ∧ b' = b := by
  rcases List.append_eq_append_iff.mp h with ⟨l, rfl, hl⟩ | ⟨l, rfl, hl⟩
  · cases l with
    | nil =>
      obtain ⟨rfl, rfl⟩ := List.cons.inj hl
      exact ⟨List.append_nil a, rfl, rfl⟩
    | cons y l =>
      obtain ⟨-, rfl⟩ := List.cons.inj hl
      exact absurd hx' (hb x' (List.mem_append_right _ List.mem_cons_self))
  · cases l with
    | nil =>
      obtain ⟨rfl, rfl⟩ := List.cons.inj hl
      exact ⟨(List.append_nil a').symm, rfl, rfl⟩
    | cons y l =>
      obtain ⟨rfl, -⟩ := List.cons.inj hl
      exact absurd hx' (ha x' (List.mem_append_right _ List.mem_cons_self))

section Sampled

variable {ph : Phase X} {newer before : List StationCall} {entry : EventEntry}
  {row raised : Option Exc} {reason : String} {verified : Bool}

/-- A trace with one sampling, and the verdict on the output after it. -/
def sampledTrace (ph : Phase X) (newer before : List StationCall) (entry : EventEntry)
    (row raised : Option Exc) (reason : String) (verified : Bool) : List StationCall :=
  newer ++ .call (.logEvent entry) row :: .outputOff reason verified ::
    .call (.sample ph.name) raised :: before

theorem sampledTrace_eq :
    sampledTrace ph newer before entry row raised reason verified
      = (newer ++ [.call (.logEvent entry) row] ++ [.outputOff reason verified]) ++
        .call (.sample ph.name) raised :: before := by
  rw [sampledTrace, List.append_assoc, List.append_assoc]
  rfl

theorem sampledTrace_nil_append (old : List StationCall) :
    sampledTrace ph newer [] entry row raised reason verified ++ old
      = newer ++ .call (.logEvent entry) row :: .outputOff reason verified ::
        .call (.sample ph.name) raised :: old := by
  rw [sampledTrace, List.append_assoc]
  rfl

theorem not_isSample_tail (hnewer : ∀ c ∈ newer, ¬c.IsSample) :
    ∀ c ∈ newer ++ [.call (.logEvent entry) row] ++ [.outputOff reason verified],
      ¬c.IsSample := by
  refine List.forall_mem_append.mpr ⟨List.forall_mem_append.mpr ⟨hnewer, ?_⟩, ?_⟩
  · exact List.forall_mem_singleton.mpr id
  · exact List.forall_mem_singleton.mpr id

theorem offUnverified_sampledTrace_iff (hnewer : ∀ c ∈ newer, ¬c.IsSample)
    (hbefore : ∀ c ∈ before, ¬c.IsSample) {raised' : Option Exc} :
    OffUnverified ph raised' (sampledTrace ph newer before entry row raised reason verified) ↔
      verified = false ∧ raised' = raised := by
  constructor
  · rintro ⟨after, before', reason', h⟩
    rw [sampledTrace_eq, ← List.singleton_append (l := _ :: before'), ← List.append_assoc] at h
    obtain ⟨hleft, hsample, -⟩ := split_unique (P := StationCall.IsSample) h
      (not_isSample_tail hnewer) hbefore trivial
    have hoff := (List.append_inj' hleft rfl).2
    cases hoff
    cases hsample
    exact ⟨rfl, rfl⟩
  · rintro ⟨rfl, rfl⟩
    exact ⟨newer ++ [.call (.logEvent entry) row], before, reason, by
      rw [sampledTrace_eq, List.append_assoc, List.singleton_append]⟩

theorem escalationReached_sampledTrace_iff (hnewer : ∀ c ∈ newer, ¬c.IsSample)
    (hbefore : ∀ c ∈ before, ¬c.IsSample) :
    EscalationReached ph (sampledTrace ph newer before entry row raised reason verified) ↔
      verified = false ∧ raised = none ∧ row = none := by
  constructor
  · rintro ⟨after, before', reason', entry', h⟩
    have h' : sampledTrace ph newer before entry row raised reason verified
        = sampledTrace ph after before' entry' none none reason' false := h
    rw [sampledTrace_eq, sampledTrace_eq] at h'
    obtain ⟨hleft, hsample, -⟩ := split_unique (P := StationCall.IsSample) h'
      (not_isSample_tail hnewer) hbefore trivial
    obtain ⟨hrow, hoff⟩ := List.append_inj' hleft rfl
    have hrow := (List.append_inj' hrow rfl).2
    cases hoff
    cases hsample
    cases hrow
    exact ⟨rfl, rfl, rfl⟩
  · rintro ⟨rfl, rfl, rfl⟩
    exact ⟨newer, before, reason, entry, rfl⟩

theorem append_sampledTrace (handler : List StationCall) :
    handler ++ sampledTrace ph newer before entry row raised reason verified
      = sampledTrace ph (handler ++ newer) before entry row raised reason verified := by
  rw [sampledTrace, sampledTrace, List.append_assoc]

theorem traceEvent_notMem_sampledTrace (hnewer : ∀ c ∈ newer, c.IsWork)
    (hbefore : ∀ c ∈ before, c.IsEarly) (event : EventEntry) (opened : Option Exc) :
    .call (.traceEvent event) opened
      ∉ sampledTrace ph newer before entry row raised reason verified := by
  intro hmem
  rcases List.mem_append.mp hmem with hmem | hmem
  · exact hnewer _ hmem
  · simp only [List.mem_cons, reduceCtorEq, StationCall.call.injEq, false_and, false_or] at hmem
    exact (hbefore _ hmem).isWork

theorem openAllRelaysAttempted_sampledTrace_iff (hbefore : ∀ c ∈ before, c.IsEarly) :
    OpenAllRelaysAttempted (sampledTrace ph newer before entry row raised reason verified) ↔
      OpenAllRelaysAttempted newer := by
  constructor
  · rintro ⟨opened, hmem⟩
    rcases List.mem_append.mp hmem with hmem | hmem
    · exact ⟨opened, hmem⟩
    simp only [List.mem_cons, reduceCtorEq, StationCall.call.injEq, false_and, false_or] at hmem
    exact absurd rfl ((hbefore _ hmem).ne_relayOpenAll opened)
  · rintro ⟨opened, hmem⟩
    exact ⟨opened, List.mem_append_left _ hmem⟩

end Sampled

theorem openAllRelaysAttempted_append_iff {new old : List StationCall} :
    OpenAllRelaysAttempted (new ++ old) ↔
      OpenAllRelaysAttempted new ∨ OpenAllRelaysAttempted old := by
  constructor
  · rintro ⟨opened, hmem⟩
    exact (List.mem_append.mp hmem).imp (fun hmem ↦ ⟨opened, hmem⟩) fun hmem ↦ ⟨opened, hmem⟩
  · rintro (⟨opened, hmem⟩ | ⟨opened, hmem⟩)
    · exact ⟨opened, List.mem_append_left _ hmem⟩
    · exact ⟨opened, List.mem_append_right _ hmem⟩

/-! ## The operation of a phase -/

/-- How the operation of a phase ends, with the trace it adds. -/
inductive BodyCourse (r : SequenceRun X) (ph : Phase X) : Option Exc → List StationCall → Prop
  | unsampled {e : Exc} {new : List StationCall} (hnew : ∀ c ∈ new, c.IsWork) :
    BodyCourse r ph (some e) new
  | opened {after before : List StationCall} {entry : EventEntry} {reason : String}
    (hafter : ∀ c ∈ after, c.LeavesAlone) (hbefore : ∀ c ∈ before, c.IsEarly) :
    BodyCourse r ph none (sampledTrace ph (after ++ [.call (.relayOpen r.relayAddress) none])
      before entry none none reason true)
  | failed {e : Exc} {newer before : List StationCall} {entry : EventEntry}
    {row raised : Option Exc} {reason : String} {verified : Bool}
    (hnewer : ∀ c ∈ newer, c.IsWork) (hbefore : ∀ c ∈ before, c.IsEarly)
    (hescalates : verified = false → raised = none → row = none →
      OpenAllRelaysAttempted newer ∧ ((∀ c ∈ newer, ¬c.FailsStorage) →
        FaultReported newer ∧ e.cls = .smuStateVerificationError))
    (hskips : verified = false → ¬(raised = none ∧ row = none) →
      ¬OpenAllRelaysAttempted newer) :
    BodyCourse r ph (some e) (sampledTrace ph newer before entry row raised reason verified)

section Body

variable {st : Station X} {r : SequenceRun X} {ph : Phase X}

theorem OpenAllRelaysAttempted.after {new old : List StationCall}
    (h : OpenAllRelaysAttempted old) : OpenAllRelaysAttempted (new ++ old) := by
  obtain ⟨raised, hmem⟩ := h
  exact ⟨raised, List.mem_append_right new hmem⟩

theorem FaultReported.after {new old : List StationCall} (h : FaultReported old) :
    FaultReported (new ++ old) := by
  obtain ⟨reason, hmem⟩ := h
  exact ⟨reason, List.mem_append_right new hmem⟩

/-- What was done before. -/
theorem BodyCourse.append {o : Option Exc} {new old : List StationCall} (h : BodyCourse r ph o new)
    (hold : ∀ c ∈ old, c.IsEarly) : BodyCourse r ph o (new ++ old) := by
  have hall : ∀ before : List StationCall, (∀ c ∈ before, c.IsEarly) →
      ∀ c ∈ before ++ old, c.IsEarly := fun before hbefore c hc ↦
    (List.mem_append.mp hc).elim (hbefore c) (hold c)
  cases h with
  | unsampled hnew =>
    exact .unsampled fun c hc ↦ (List.mem_append.mp hc).elim (hnew c) fun hc ↦ (hold c hc).isWork
  | opened hafter hbefore =>
    rw [sampledTrace, List.append_assoc]
    exact .opened hafter (hall _ hbefore)
  | failed hnewer hbefore hescalates hskips =>
    rw [sampledTrace, List.append_assoc]
    exact .failed hnewer (hall _ hbefore) hescalates hskips

/-- What is done after, with the output and the relays left alone. -/
theorem BodyCourse.then {o : Option Exc} {new old : List StationCall} (h : BodyCourse r ph o old)
    (hnew : ∀ c ∈ new, c.LeavesAlone) : BodyCourse r ph o (new ++ old) := by
  cases h with
  | unsampled hold =>
    exact .unsampled fun c hc ↦ (List.mem_append.mp hc).elim (fun hc ↦ (hnew c hc).isWork) (hold c)
  | opened hafter hbefore =>
    rw [sampledTrace, ← List.append_assoc, ← List.append_assoc]
    exact .opened (fun c hc ↦ (List.mem_append.mp hc).elim (hnew c) (hafter c)) hbefore
  | failed hnewer hbefore hescalates hskips =>
    rw [sampledTrace, ← List.append_assoc]
    refine .failed (fun c hc ↦ (List.mem_append.mp hc).elim (fun hc ↦ (hnew c hc).isWork)
      (hnewer c)) hbefore (fun hv hr hrow ↦ ?_) fun hv hended hattempted ↦ ?_
    · obtain ⟨hopen, hreport⟩ := hescalates hv hr hrow
      refine ⟨hopen.after, fun hstorage ↦ ?_⟩
      obtain ⟨hfault, hcls⟩ := hreport fun c hc ↦ hstorage c (List.mem_append_right _ hc)
      exact ⟨hfault.after, hcls⟩
    · obtain ⟨raised, hmem⟩ := hattempted
      rcases List.mem_append.mp hmem with hmem | hmem
      · exact (hnew _ hmem).ne_relayOpenAll raised rfl
      · exact hskips hv hended ⟨raised, hmem⟩

variable (r ph) in
/-- A program takes the courses of the operation. -/
def TakesCourse (x : StationProg X PUnit) : Prop := ∀ s,
  Post x (fun _ t ↦ Added StationSession.trace (BodyCourse r ph none) s t)
    (fun e t ↦ Added StationSession.trace (BodyCourse r ph (some e)) s t) s

theorem only_call {K : StationCall → Prop} {op : Operation} (h : ∀ raised, K (.call op raised)) :
    Ends (Only K) (StationProg.call st op) :=
  ends_call fun s ↦ only_after (h _) s _

/-- Something before the sampling. -/
theorem takesCourse_bind {α : Type} {x : StationProg X α} {f : α → StationProg X PUnit}
    (hx : Ends (Only StationCall.IsEarly) x) (hf : ∀ a, TakesCourse r ph (f a)) :
    TakesCourse r ph (x >>= f) := by
  intro s
  refine (post_bind _).mpr ((hx.within s).mono (fun a t ht ↦ ?_) fun e t ht ↦ ?_)
  · exact (hf a t).mono (fun _ u hu ↦ ht.append hu fun _ _ hold hnew ↦ hnew.append hold)
      fun _ u hu ↦ ht.append hu fun _ _ hold hnew ↦ hnew.append hold
  · exact ht.mono fun new hnew ↦ .unsampled fun c hc ↦ (hnew c hc).isWork

theorem post_sampleUntilEnd_trace (s : StationSession X) :
    Post (sampleUntilEnd st r ph)
      (fun verified t ↦ ∃ entry reason, t.trace = .call (.logEvent entry) none ::
        .outputOff reason verified :: .call (.sample ph.name) none :: s.trace)
      (fun _ t ↦ ∃ entry row raised reason verified, ¬(raised = none ∧ row = none) ∧
        t.trace = .call (.logEvent entry) row :: .outputOff reason verified ::
          .call (.sample ph.name) raised :: s.trace) s := by
  have hsample : Post (StationProg.call st (.sample ph.name)).attempt
      (fun ended t ↦ ∃ raised, t.trace = .call (.sample ph.name) raised :: s.trace ∧
        (raised = none ↔ ∃ a, ended = .ok a)) (fun _ _ ↦ False) s := by
    refine post_attempt.mpr ((StationProg.post_call st _ s).mono (fun a t ht ↦ ?_) fun e t ht ↦ ?_)
    · exact ⟨none, ht, iff_of_true rfl ⟨a, rfl⟩⟩
    · refine ⟨some e, ht, iff_of_false (Option.some_ne_none e) ?_⟩
      rintro ⟨a, ha⟩
      cases ha
  refine (post_bind _).mpr (hsample.mono (fun ended t ht ↦ ?_) fun _ _ h ↦ h.elim)
  obtain ⟨raised, ht, hended⟩ := ht
  -- The verdict is taken in the `finally`, however the sampling ended; its row is the last part.
  set reason := s!"end of {ph.name} sequence on channel {r.channel}"
  have hoff : Post (StationProg.emergencyOutputOff st reason)
      (fun verified u ↦ u.trace = .outputOff reason verified :: t.trace) (fun _ _ ↦ False) t := rfl
  refine (post_bind _).mpr (hoff.mono (fun verified u hu ↦ ?_) fun _ _ h ↦ h.elim)
  refine (post_bind _).mpr ((StationProg.post_call st _ u).mono (fun _ v hv ↦ ?_) fun e v hv ↦ ?_)
  · rw [hu, ht] at hv
    cases ended with
    | ok a =>
      obtain rfl := hended.mpr ⟨a, rfl⟩
      exact ⟨_, reason, hv⟩
    | error e =>
      refine ⟨_, none, raised, reason, verified, fun hnone ↦ ?_, hv⟩
      obtain ⟨a, ha⟩ := hended.mp hnone.1
      cases ha
  · rw [hu, ht] at hv
    exact ⟨_, some e, raised, reason, verified, fun hnone ↦ Option.some_ne_none e hnone.2, hv⟩

theorem post_escalate_trace (s : StationSession X) :
    Post (escalate st r ph) (fun _ _ ↦ False)
      (fun e t ↦ Added StationSession.trace (fun new ↦ (∀ c ∈ new, c.IsWork) ∧
        OpenAllRelaysAttempted new ∧ ((∀ c ∈ new, ¬c.FailsStorage) →
          FaultReported new ∧ e.cls = .smuStateVerificationError)) s t) s := by
  -- The first step of the escalation is attempted whatever it raises.
  have hopen : Post ((StationProg.call st .relayOpenAll).handle fun _ ↦ pure ⟨⟩)
      (fun _ t ↦ ∃ raised, t.trace = .call .relayOpenAll raised :: s.trace) (fun _ _ ↦ False) s :=
    (post_handle _).mpr ((StationProg.post_call st _ s).mono (fun _ _ ht ↦ ⟨none, ht⟩)
      fun e _ ht ↦ ⟨some e, ht⟩)
  refine (post_bind _).mpr (hopen.mono (fun _ t ht ↦ ?_) fun _ _ h ↦ h.elim)
  obtain ⟨raised, ht⟩ := ht
  refine (post_bind _).mpr (post_get.mpr ?_)
  refine (post_bind _).mpr ((StationProg.post_call st _ t).mono (fun _ u hu ↦ ?_) fun e u hu ↦ ?_)
  · refine (post_bind _).mpr ((StationProg.post_call st _ u).mono (fun _ v hv ↦ ?_)
      fun e v hv ↦ ?_)
    · rw [hu, ht] at hv
      refine (post_raise _).mpr ⟨[_, _, _], hv, ?_, ⟨raised, by simp⟩,
        fun _ ↦ ⟨⟨_, List.mem_cons_of_mem _ List.mem_cons_self⟩, rfl⟩⟩
      intro c hc
      simp only [List.mem_cons, List.not_mem_nil, or_false] at hc
      rcases hc with rfl | rfl | rfl <;> trivial
    · rw [hu, ht] at hv
      refine ⟨[_, _, _], hv, ?_, ⟨raised, by simp⟩, fun hstorage ↦ ?_⟩
      · intro c hc
        simp only [List.mem_cons, List.not_mem_nil, or_false] at hc
        rcases hc with rfl | rfl | rfl <;> trivial
      · exact absurd trivial (hstorage _ List.mem_cons_self)
  · rw [ht] at hu
    refine ⟨[_, _], hu, ?_, ⟨raised, by simp⟩, fun hstorage ↦ ?_⟩
    · intro c hc
      simp only [List.mem_cons, List.not_mem_nil, or_false] at hc
      rcases hc with rfl | rfl <;> trivial
    · exact absurd trivial (hstorage _ List.mem_cons_self)

theorem ends_leavesAlone_logEvent (entry : EventEntry) :
    Ends (Only StationCall.LeavesAlone) (StationProg.logEvent st entry) :=
  only_call fun _ ↦ trivial

theorem ends_leavesAlone_zero (reason : String) : Ends (Only StationCall.LeavesAlone)
    ((StationProg.call st (.zeroOutputSetpoint reason)).handle fun _ ↦ pure ⟨⟩) :=
  .handle (only_call fun _ ↦ trivial) fun _ ↦ .pure _

theorem post_isolate_trace (s : StationSession X) :
    Post (isolate st r ph)
      (fun _ t ↦ ∃ after, t.trace = (after ++ [.call (.relayOpen r.relayAddress) none]) ++ s.trace ∧
        ∀ c ∈ after, c.LeavesAlone)
      (fun _ t ↦ Added StationSession.trace
        (fun new ↦ (∀ c ∈ new, c.IsWork) ∧ ¬OpenAllRelaysAttempted new) s t) s := by
  refine (post_bind _).mpr ((StationProg.post_call st _ s).mono (fun _ t ht ↦ ?_) fun e t ht ↦ ?_)
  · have hrest : Ends (Only StationCall.LeavesAlone) (do
        logInfo st ph s!"Relay {r.relayAddress} deactivated -- {ph.name} complete"
        logInfo st ph (eventMessage "RELAY_OPEN"
          [("relay_matrix_name", r.relayMatrixName), ("relay_address", toString r.relayAddress)])
        (StationProg.call st (.zeroOutputSetpoint
          s!"end of {ph.name} sequence on channel {r.channel}")).handle fun _ ↦ pure ⟨⟩) :=
      .bind (ends_leavesAlone_logEvent _) fun _ ↦ .bind (ends_leavesAlone_logEvent _) fun _ ↦
        ends_leavesAlone_zero _
    refine (hrest.within t).mono (fun _ u hu ↦ ?_) fun _ u hu ↦ ?_
    · obtain ⟨after, hafter, hall⟩ := hu
      exact ⟨after, by rw [hafter, ht, List.append_assoc, List.singleton_append], hall⟩
    · obtain ⟨after, hafter, hall⟩ := hu
      refine ⟨after ++ [.call (.relayOpen r.relayAddress) none],
        by rw [hafter, ht, List.append_assoc, List.singleton_append], ?_, ?_⟩
      · exact List.forall_mem_append.mpr ⟨fun c hc ↦ (hall c hc).isWork,
          List.forall_mem_singleton.mpr trivial⟩
      · rintro ⟨raised, hmem⟩
        rcases List.mem_append.mp hmem with hmem | hmem
        · exact (hall _ hmem).ne_relayOpenAll raised rfl
        · cases List.mem_singleton.mp hmem
  · refine ⟨[_], ht, fun c hc ↦ ?_, ?_⟩
    · rw [List.mem_singleton.mp hc]
      trivial
    · rintro ⟨raised, hmem⟩
      cases List.mem_singleton.mp hmem

theorem takesCourse_settle : TakesCourse r ph (do
    let verified ← sampleUntilEnd st r ph
    if verified then isolate st r ph else escalate st r ph) := by
  intro s
  have hnil : ∀ c ∈ ([] : List StationCall), c.IsEarly := fun c hc ↦ absurd hc List.not_mem_nil
  refine (post_bind _).mpr ((post_sampleUntilEnd_trace s).mono (fun verified t ht ↦ ?_)
    fun e t ht ↦ ?_)
  · obtain ⟨entry, reason, ht⟩ := ht
    cases verified with
    | true =>
      refine (post_isolate_trace t).mono (fun _ u hu ↦ ?_) fun e u hu ↦ ?_
      · obtain ⟨after, hu, hafter⟩ := hu
        have hcourse : BodyCourse r ph none (sampledTrace ph
            (after ++ [.call (.relayOpen r.relayAddress) none]) [] entry none none reason true) :=
          .opened hafter hnil
        exact ⟨_, by rw [hu, ht, sampledTrace_nil_append], hcourse⟩
      · obtain ⟨newer, hu, hnewer, -⟩ := hu
        have hcourse : BodyCourse r ph (some e)
            (sampledTrace ph newer [] entry none none reason true) :=
          .failed hnewer hnil (fun h ↦ by cases h) fun h ↦ by cases h
        exact ⟨_, by rw [hu, ht, sampledTrace_nil_append], hcourse⟩
    -- Only a sampling that ended well gets here: its exception would have left before.
    | false =>
      refine (post_escalate_trace t).mono (fun _ _ h ↦ h.elim) fun e u hu ↦ ?_
      obtain ⟨newer, hu, hnewer, hopen, hreport⟩ := hu
      have hcourse : BodyCourse r ph (some e)
          (sampledTrace ph newer [] entry none none reason false) :=
        .failed hnewer hnil (fun _ _ _ ↦ ⟨hopen, hreport⟩) fun _ h ↦ absurd ⟨rfl, rfl⟩ h
      exact ⟨_, by rw [hu, ht, sampledTrace_nil_append], hcourse⟩
  · obtain ⟨entry, row, raised, reason, verified, hended, ht⟩ := ht
    have hcourse : BodyCourse r ph (some e)
        (sampledTrace ph [] [] entry row raised reason verified) := by
      refine .failed (fun c hc ↦ absurd hc List.not_mem_nil) hnil
        (fun _ hr hrow ↦ absurd ⟨hr, hrow⟩ hended) fun _ _ h ↦ ?_
      obtain ⟨_, hmem⟩ := h
      exact absurd hmem List.not_mem_nil
    exact ⟨_, by rw [ht, sampledTrace_nil_append]; rfl, hcourse⟩

theorem ends_early_logInfo (message : String) :
    Ends (Only StationCall.IsEarly) (logInfo st ph message) :=
  only_call fun _ ↦ trivial

theorem ends_early_connectSense : Ends (Only StationCall.IsEarly) (connectSense st r ph) := by
  unfold connectSense
  split
  · exact .pure _
  · exact .bind (only_call fun _ ↦ trivial) fun _ ↦ ends_early_logInfo _

theorem ends_early_checkBatteryPolarity (voltage : ℚ) :
    Ends (Only StationCall.IsEarly) (checkBatteryPolarity st r ph voltage) :=
  .ite (.bind (only_call fun _ ↦ trivial) fun _ ↦ .raise _) (.pure _)

theorem ends_early_read (reading : Reading) :
    Ends (Only StationCall.IsEarly) (StationProg.read st reading) :=
  ends_read fun s ↦ only_after trivial s _

theorem takesCourse_energize : TakesCourse r ph (energize st r ph) := by
  refine takesCourse_bind (ends_early_read _) fun voltage ↦ ?_
  refine takesCourse_bind (ends_early_checkBatteryPolarity voltage) fun _ ↦ ?_
  refine takesCourse_bind (only_call fun _ ↦ trivial) fun _ ↦ ?_
  refine takesCourse_bind (only_call fun _ ↦ trivial) fun _ ↦ ?_
  exact takesCourse_bind (ends_early_logInfo _) fun _ ↦ takesCourse_settle

/-- The sense channel is disconnected, or the failure to is swallowed. -/
theorem post_disconnectSense_trace (s : StationSession X) :
    Post (disconnectSense st r ph) (fun _ t ↦ Only StationCall.LeavesAlone s t) (fun _ _ ↦ False)
      s := by
  unfold disconnectSense
  split
  · exact Only.refl _ s
  · next route _ =>
    have hbody : Ends (Only StationCall.LeavesAlone) (do
        StationProg.call st (.senseDisconnect route.channel)
        logInfo st ph (routeMessage "MATRIX_ROUTE_CLEARED" route)) :=
      .bind (only_call fun _ ↦ trivial) fun _ ↦ ends_leavesAlone_logEvent _
    exact (post_handle _).mpr ((hbody.within s).mono (fun _ _ h ↦ h) fun _ _ h ↦ h)

/-- **The courses of the operation.** -/
theorem takesCourse_phaseBody : TakesCourse r ph (phaseBody st r ph) := by
  refine takesCourse_bind (only_call fun _ ↦ trivial) fun _ ↦ ?_
  refine takesCourse_bind (only_call fun _ ↦ trivial) fun _ ↦ ?_
  refine takesCourse_bind (ends_early_logInfo _) fun _ ↦ ?_
  refine takesCourse_bind (ends_early_logInfo _) fun _ ↦ ?_
  refine takesCourse_bind (only_call fun _ ↦ trivial) fun _ ↦ ?_
  refine takesCourse_bind ends_early_connectSense fun _ s ↦ (post_ensuring _).mpr ?_
  refine (takesCourse_energize s).mono (fun _ t ht ↦ ?_) fun e t ht ↦ ?_
  · exact (post_disconnectSense_trace t).mono
      (fun _ u hu ↦ ht.append hu fun _ _ hold hnew ↦ hold.then hnew) fun _ _ h ↦ h.elim
  · exact (post_disconnectSense_trace t).mono
      (fun _ u hu ↦ ht.append hu fun _ _ hold hnew ↦ hold.then hnew) fun _ _ h ↦ h.elim

end Body

/-! ## The handler -/

/-- What the handler of `run_guarded` adds: it opens all relays exactly if it writes its rows. -/
structure HandlerCourse (e e' : Exc) (new : List StationCall) : Prop where
  begins : ∃ newer entry raised, new = newer ++ [.call (.traceEvent entry) raised]
  samples : ∀ c ∈ new, ¬c.IsSample
  opens : OpenAllRelaysAttempted new ↔ Recorded new
  rethrows : Recorded new → e' = e

section Handler

variable {st : Station X} {g : GuardedRun X}

/-- An entry of the rows of a failure. -/
def StationCall.IsFailureRow : StationCall → Prop
  | .call (.traceEvent _) _ | .call (.logEvent _) _ | .call (.recordExecutionState _ _ _) _
  | .extraFields _ | .read _ _ | .call (.finishRunSummary _ _ _) _ => True
  | _ => False

/-- An entry of a shutdown. -/
def StationCall.IsShutdownStep : StationCall → Prop
  | .emergencyStop _ | .safeCancelShutdown _ | .call (.traceEvent _) _ | .outputOff _ _
  | .call .relayOpenAll _ | .call (.zeroOutputSetpoint _) _ => True
  | _ => False

theorem not_isSample_of_isFailureRow {c : StationCall} (h : c.IsFailureRow) : ¬c.IsSample := by
  cases c with
  | call op raised => cases op <;> first | exact h.elim | exact id
  | _ => exact id

theorem not_isSample_of_isShutdownStep {c : StationCall} (h : c.IsShutdownStep) :
    ¬c.IsSample := by
  cases c with
  | call op raised => cases op <;> first | exact h.elim | exact id
  | _ => exact id

theorem ends_failureRow_logEvents (entries : List EventEntry) :
    Ends (Only StationCall.IsFailureRow) (logEvents st entries) := by
  induction entries with
  | nil => exact .pure _
  | cons entry rest ih => exact .bind (only_call fun _ ↦ trivial) fun _ ↦ ih

theorem ends_failureRow_safeFinalVoltageReading :
    Ends (Only StationCall.IsFailureRow) (safeFinalVoltageReading st g) := by
  refine .ite (.bind (.attempt (ends_read fun s ↦ only_after trivial s _)) fun ended ↦ ?_)
    (.pure _)
  cases ended with
  | ok voltage => exact .pure _
  | error e => exact .pure _

theorem ends_shutdownStep_onEvent (message : String) :
    Ends (Only StationCall.IsShutdownStep) (onEvent st g message) :=
  .handle (only_call fun _ ↦ trivial) fun _ ↦ .pure _

theorem ends_shutdownStep_hardware (reason : String) :
    Ends (Only StationCall.IsShutdownStep) (shutDownHardware st g reason) := by
  have hoff : Ends (Only StationCall.IsShutdownStep) (StationProg.emergencyOutputOff st reason) :=
    fun s ↦ ⟨_, rfl, only_after trivial s _⟩
  have hopen : Ends (Only StationCall.IsShutdownStep) (openRelays st g) :=
    .handle (.bind (only_call fun _ ↦ trivial) fun _ ↦ .bind (ends_shutdownStep_onEvent _) fun _ ↦
      ends_shutdownStep_onEvent _) fun _ ↦ ends_shutdownStep_onEvent _
  have hzero : Ends (Only StationCall.IsShutdownStep)
      ((StationProg.call st (.zeroOutputSetpoint reason)).handle fun _ ↦ pure ⟨⟩) :=
    .handle (only_call fun _ ↦ trivial) fun _ ↦ .pure _
  refine .bind (ends_shutdownStep_onEvent _) fun _ ↦ .bind hoff fun _ ↦ .bind hopen fun _ ↦ ?_
  exact .bind hzero fun _ ↦ .bind (ends_shutdownStep_onEvent _) fun _ ↦ ends_shutdownStep_onEvent _

theorem ends_shutdownStep_shutDown (clause : ExceptClause) (e : Exc) :
    Ends (Only StationCall.IsShutdownStep) (shutDown st g clause e) := by
  refine .ite ?_ ?_
  · exact .bind (fun s ↦ ⟨_, rfl, only_after trivial s s.world⟩) fun _ ↦
      ends_shutdownStep_hardware _
  · exact .bind (fun s ↦ ⟨_, rfl, only_after trivial s s.world⟩) fun _ ↦
      ends_shutdownStep_hardware _

/-- The rows of a failure after the first entry of the trace. -/
def failureRows (st : Station X) (g : GuardedRun X) (clause : ExceptClause) :
    StationProg X PUnit := do
  logEvents st clause.entries
  StationProg.call st (.recordExecutionState g.channel g.relayAddress clause.stopReason.text)
  let fields ← extraRunSummaryFields g
  let voltage ← safeFinalVoltageReading st g
  StationProg.call st
    (.finishRunSummary clause.stopReason.text clause.result (withEndVoltage fields voltage).items)

theorem records_failureRows (clause : ExceptClause) : Records (failureRows st g clause) := by
  refine .bind (records_logEvents _) fun _ ↦ ?_
  refine .bind (StationProg.attributed_call (fun _ ↦ rfl) id fun _ ↦ trivial) fun _ ↦ ?_
  refine .bind records_extraRunSummaryFields fun _ ↦ ?_
  refine .bind records_safeFinalVoltageReading fun _ ↦ ?_
  exact StationProg.attributed_call (fun _ ↦ rfl) id fun _ ↦ trivial

theorem ends_failureRows (clause : ExceptClause) :
    Ends (Only StationCall.IsFailureRow) (failureRows st g clause) := by
  refine .bind (ends_failureRow_logEvents _) fun _ ↦ .bind (only_call fun _ ↦ trivial) fun _ ↦ ?_
  refine .bind (ends_extraRunSummaryFields fun s raised ↦ only_after trivial s _) fun _ ↦ ?_
  exact .bind ends_failureRow_safeFinalVoltageReading fun _ ↦ only_call fun _ ↦ trivial

theorem post_onEvent_trace (message : String) (s : StationSession X) :
    Post (onEvent st g message)
      (fun _ t ↦ ∃ entry raised, t.trace = .call (.traceEvent entry) raised :: s.trace)
      (fun _ _ ↦ False) s :=
  (post_handle _).mpr ((StationProg.post_call st _ s).mono (fun _ _ ht ↦ ⟨_, none, ht⟩)
    fun e _ ht ↦ ⟨_, some e, ht⟩)

/-- **The course of the handler.** -/
theorem post_handler {α : Type} (clause : ExceptClause) (e : Exc) (s : StationSession X) :
    Post (do
        recordFailure st g clause
        shutDown st g clause e
        (Prog.raise e : StationProg X α)) (fun _ _ ↦ False)
      (fun e' t ↦ Added StationSession.trace (HandlerCourse e e') s t) s := by
  refine (post_bind _).mpr ((post_bind _).mpr ((post_onEvent_trace _ s).mono (fun _ t ht ↦ ?_)
    fun _ _ h ↦ h.elim))
  obtain ⟨entry, raised, ht⟩ := ht
  have hrows : Post (failureRows st g clause)
      (fun _ u ↦ Added StationSession.trace (fun new ↦
        Faultless StationCall.IsStep StationCall.FailsRecord new ∧
          ∀ c ∈ new, c.IsFailureRow) t u)
      (fun _ u ↦ Added StationSession.trace (fun new ↦
        Faulty StationCall.IsStep StationCall.FailsRecord new ∧
          ∀ c ∈ new, c.IsFailureRow) t u) t :=
    ((records_failureRows clause t).and ((ends_failureRows clause).within t)).mono
      (fun _ _ h ↦ h.1.and h.2) fun _ _ h ↦ h.1.and h.2
  -- Rows first, then the shutdown: a row that cannot be written is raised past it.
  refine Post.mono hrows (fun _ u hu ↦ ?_) fun e' u hu ↦ ?_
  · obtain ⟨rows, hu, hall, hrow⟩ := hu
    refine (post_bind _).mpr (((post_shutDown clause e u).and
      ((ends_shutdownStep_shutDown clause e).within u)).mono (fun _ v hv ↦ ?_) fun _ _ h ↦ h.1.elim)
    obtain ⟨new, hv, ⟨⟨-, opened, hopen⟩, hrecorded⟩, hstep⟩ := hv.1.and hv.2
    have hrecorded' : Recorded (new ++ rows ++ [.call (.traceEvent entry) raised]) :=
      List.forall_mem_append.mpr ⟨List.forall_mem_append.mpr ⟨hrecorded, fun c hc ↦ (hall c hc).2⟩,
        List.forall_mem_singleton.mpr id⟩
    refine (post_raise _).mpr ⟨new ++ rows ++ [.call (.traceEvent entry) raised], ?_, ?_⟩
    · rw [hv, hu, ht, List.append_assoc, List.append_assoc, List.singleton_append]
    · refine ⟨⟨_, entry, raised, rfl⟩, ?_, iff_of_true ⟨opened, ?_⟩ hrecorded', fun _ ↦ rfl⟩
      · exact List.forall_mem_append.mpr ⟨List.forall_mem_append.mpr
          ⟨fun c hc ↦ not_isSample_of_isShutdownStep (hstep c hc),
            fun c hc ↦ not_isSample_of_isFailureRow (hrow c hc)⟩, List.forall_mem_singleton.mpr id⟩
      · exact List.mem_append_left _ (List.mem_append_left _ hopen)
  · obtain ⟨rows, hu, ⟨-, c, hc, hfails⟩, hrow⟩ := hu
    have hnot : ¬Recorded (rows ++ [.call (.traceEvent entry) raised]) := fun h ↦
      h c (List.mem_append_left _ hc) hfails
    refine ⟨rows ++ [.call (.traceEvent entry) raised], ?_, ⟨_, entry, raised, rfl⟩, ?_,
      iff_of_false ?_ hnot, fun h ↦ absurd h hnot⟩
    · rw [hu, ht, List.append_assoc, List.singleton_append]
    · exact List.forall_mem_append.mpr ⟨fun d hd ↦ not_isSample_of_isFailureRow (hrow d hd),
        List.forall_mem_singleton.mpr id⟩
    · rintro ⟨opened, hopen⟩
      rcases List.mem_append.mp hopen with hopen | hopen
      · exact hrow _ hopen
      · cases List.mem_singleton.mp hopen

end Handler

/-! ## The run -/

section Run

variable {r : SequenceRun X} {ph : Phase X}

theorem not_offUnverified_of_forall {new : List StationCall} (h : ∀ c ∈ new, ¬c.IsSample)
    (raised : Option Exc) : ¬OffUnverified ph raised new := by
  rintro ⟨after, before, reason, rfl⟩
  exact h (.call (.sample ph.name) raised)
    (List.mem_append_right _ (List.mem_cons_of_mem _ List.mem_cons_self)) trivial

/-- A run that does not find its output unverified has nothing to answer for. -/
theorem keepsIsolation_of_not {e : Exc} {new : List StationCall}
    (h : ∀ raised, ¬OffUnverified ph raised new) :
    KeepsIsolation r ph (some e) new ↔ CanIsolate ph new :=
  iff_of_true (fun raised hoff ↦ absurd hoff (h raised)) fun raised hoff ↦ absurd hoff (h raised)

theorem openedVerified_sampledTrace {after before : List StationCall} {entry : EventEntry}
    {reason : String} (hafter : ∀ c ∈ after, c.LeavesAlone) (hbefore : ∀ c ∈ before, c.IsEarly) :
    OpenedVerified r (sampledTrace ph (after ++ [.call (.relayOpen r.relayAddress) none]) before
      entry none none reason true) := by
  refine ⟨after, [.call (.logEvent entry) none], .call (.sample ph.name) none :: before, reason, ?_,
    hafter, fun c hc ↦ ?_, fun c hc ↦ ?_⟩
  · rw [sampledTrace, List.append_assoc]
    rfl
  · rw [List.mem_singleton.mp hc]
    trivial
  · rcases List.mem_cons.mp hc with rfl | hc
    · exact id
    · exact (hbefore c hc).not_opensRelay

theorem keepsIsolation_of_returned {new : List StationCall} (h : BodyCourse r ph none new) :
    OpenedVerified r new ∧ ∀ raised, ¬OffUnverified ph raised new := by
  cases h with
  | @opened after before entry reason hafter hbefore =>
    refine ⟨openedVerified_sampledTrace hafter hbefore, fun raised hoff ↦ ?_⟩
    have hnewer : ∀ c ∈ after ++ [.call (.relayOpen r.relayAddress) none], ¬c.IsSample :=
      List.forall_mem_append.mpr ⟨fun c hc ↦ (hafter c hc).isWork.not_isSample,
        List.forall_mem_singleton.mpr id⟩
    obtain ⟨hverified, -⟩ := (offUnverified_sampledTrace_iff hnewer
      fun c hc ↦ (hbefore c hc).isWork.not_isSample).mp hoff
    cases hverified

theorem shutdownRowsWritten_iff {e e' : Exc} {handler body : List StationCall}
    (hhandler : HandlerCourse e e' handler)
    (hbody : ∀ entry raised, .call (.traceEvent entry) raised ∉ body) :
    ShutdownRowsWritten (handler ++ body) ↔ Recorded handler := by
  constructor
  · intro h c hc hfails
    obtain ⟨rows, entry, raised, rfl⟩ := hhandler.begins
    rcases List.mem_append.mp hc with hc | hc
    · obtain ⟨newer, older, rfl⟩ := List.append_of_mem hc
      refine h newer c (older ++ [.call (.traceEvent entry) raised] ++ body) ?_ hfails entry raised
        (List.mem_append_left _ (List.mem_append_right _ (List.mem_singleton_self _)))
      simp only [List.append_assoc, List.cons_append]
    · rw [List.mem_singleton.mp hc] at hfails
      exact hfails
  · intro h newer c older hsplit hfails entry raised hmem
    rcases List.append_eq_append_iff.mp hsplit with ⟨l, rfl, hl⟩ | ⟨l, hl, hl'⟩
    · exact hbody entry raised (hl ▸ List.mem_append_right _ (List.mem_cons_of_mem _ hmem))
    · cases l with
      | nil =>
        rw [List.nil_append] at hl'
        exact hbody entry raised (hl' ▸ List.mem_cons_of_mem _ hmem)
      | cons d l =>
        obtain ⟨rfl, -⟩ := List.cons.inj hl'
        exact h c (hl ▸ List.mem_append_right _ List.mem_cons_self) hfails

theorem keepsIsolation_of_failed {e e' : Exc} {handler newer before : List StationCall}
    {entry : EventEntry} {row raised : Option Exc} {reason : String} {verified : Bool}
    (hhandler : HandlerCourse e e' handler) (hnewer : ∀ c ∈ newer, c.IsWork)
    (hbefore : ∀ c ∈ before, c.IsEarly)
    (hescalates : verified = false → raised = none → row = none →
      OpenAllRelaysAttempted newer ∧ ((∀ c ∈ newer, ¬c.FailsStorage) →
        FaultReported newer ∧ e.cls = .smuStateVerificationError))
    (hskips : verified = false → ¬(raised = none ∧ row = none) →
      ¬OpenAllRelaysAttempted newer) :
    KeepsIsolation r ph (some e')
        (handler ++ sampledTrace ph newer before entry row raised reason verified) ↔
      CanIsolate ph (handler ++ sampledTrace ph newer before entry row raised reason verified) := by
  have hnewer' : ∀ c ∈ handler ++ newer, ¬c.IsSample :=
    List.forall_mem_append.mpr ⟨hhandler.samples, fun c hc ↦ (hnewer c hc).not_isSample⟩
  have hbefore' : ∀ c ∈ before, ¬c.IsSample := fun c hc ↦ (hbefore c hc).isWork.not_isSample
  have hoff : ∀ raised', OffUnverified ph raised'
      (handler ++ sampledTrace ph newer before entry row raised reason verified) ↔
        verified = false ∧ raised' = raised := fun raised' ↦ by
    rw [append_sampledTrace]
    exact offUnverified_sampledTrace_iff hnewer' hbefore'
  cases verified with
  | true =>
    refine keepsIsolation_of_not fun raised' h ↦ ?_
    cases ((hoff raised').mp h).1
  | false =>
    have hescalation : EscalationReached ph
        (handler ++ sampledTrace ph newer before entry row raised reason false) ↔
          raised = none ∧ row = none := by
      rw [append_sampledTrace, escalationReached_sampledTrace_iff hnewer' hbefore']
      exact and_iff_right rfl
    -- The relays are opened by the escalation, or else by the shutdown of the handler.
    have hisolated : OpenAllRelaysAttempted
        (handler ++ sampledTrace ph newer before entry row raised reason false) ↔
          EscalationReached ph
            (handler ++ sampledTrace ph newer before entry row raised reason false) ∨
          ShutdownRowsWritten
            (handler ++ sampledTrace ph newer before entry row raised reason false) := by
      rw [openAllRelaysAttempted_append_iff, openAllRelaysAttempted_sampledTrace_iff hbefore,
        hescalation, hhandler.opens,
        shutdownRowsWritten_iff hhandler (traceEvent_notMem_sampledTrace hnewer hbefore)]
      by_cases hended : raised = none ∧ row = none
      · exact iff_of_true (.inr (hescalates rfl hended.1 hended.2).1) (.inl hended)
      · rw [or_iff_left (hskips rfl hended), or_iff_right hended]
    constructor
    · intro h raised' hraised
      exact hisolated.mp (h raised' hraised).1
    · intro h raised' hraised
      refine ⟨hisolated.mpr (h raised' hraised), fun hnone hstorage ↦ ?_⟩
      obtain ⟨-, rfl⟩ := (hoff raised').mp hraised
      have hrow : row = none := by
        cases row with
        | none => rfl
        | some e'' =>
          exact absurd trivial (hstorage (.call (.logEvent entry) (some e''))
            (List.mem_append_right _ (List.mem_append_right _ List.mem_cons_self)))
      have hrecorded : Recorded handler := fun c hc hfails ↦
        hstorage c (List.mem_append_left _ hc) hfails.failsStorage
      obtain ⟨hfault, hcls⟩ := (hescalates rfl hnone hrow).2 fun c hc ↦
        hstorage c (List.mem_append_right _ (List.mem_append_left _ hc))
      -- With its rows written, the handler raises what it was given.
      rw [hhandler.rethrows hrecorded]
      obtain ⟨report, hreport⟩ := hfault
      exact ⟨⟨report, List.mem_append_right _ (List.mem_append_left _ hreport)⟩, hcls⟩

theorem keepsIsolation_of_raised {e e' : Exc} {handler body : List StationCall}
    (hbody : BodyCourse r ph (some e) body) (hhandler : HandlerCourse e e' handler) :
    KeepsIsolation r ph (some e') (handler ++ body) ↔ CanIsolate ph (handler ++ body) := by
  cases hbody with
  | unsampled hnew =>
    refine keepsIsolation_of_not (not_offUnverified_of_forall ?_)
    exact List.forall_mem_append.mpr ⟨hhandler.samples, fun c hc ↦ (hnew c hc).not_isSample⟩
  | failed hnewer hbefore hescalates hskips =>
    exact keepsIsolation_of_failed hhandler hnewer hbefore hescalates hskips

theorem ends_leavesAlone_complete {st : Station X} {g : GuardedRun X} (message : String) :
    Ends (Only StationCall.LeavesAlone) (complete st g message) := by
  refine .bind (ends_extraRunSummaryFields fun s raised ↦ only_after trivial s _) fun _ ↦ ?_
  refine .bind (only_call fun _ ↦ trivial) fun _ ↦ .bind (only_call fun _ ↦ trivial) fun _ ↦ ?_
  exact ends_leavesAlone_logEvent _

/-- **When a phase keeps its relay from an unverified output.** A run that returns has opened its
relay on an output verified off; one that could not verify it raises, and has attempted to open all
relays by then exactly if the escalation was reached or the shutdown could write its rows. -/
theorem keepsIsolation_iff (st : Station X) (r : SequenceRun X) (ph : Phase X)
    (s : StationSession X) :
    Post (runPhase st r ph)
      (fun _ t ↦ Added StationSession.trace
        (fun new ↦ KeepsIsolation r ph none new ↔ CanIsolate ph new) s t)
      (fun e t ↦ Added StationSession.trace
        (fun new ↦ KeepsIsolation r ph (some e) new ↔ CanIsolate ph new) s t) s := by
  refine (post_bind _).mpr ((StationProg.post_call st _ s).mono (fun _ t ht ↦ ?_) fun e t ht ↦ ?_)
  · have hearly : ∀ c ∈ [StationCall.call .runNumber none], c.IsEarly := fun c hc ↦ by
      rw [List.mem_singleton.mp hc]
      trivial
    refine (post_bind _).mpr ((post_handle _).mpr
      ((takesCourse_phaseBody t).mono (fun _ u hu ↦ ?_) fun e u hu ↦ ?_))
    · obtain ⟨body, hbody, hcourse⟩ := hu
      rw [ht] at hbody
      have hreturned : ∀ {v : StationSession X}, Only StationCall.LeavesAlone u v →
          Added StationSession.trace (BodyCourse r ph none) s v := by
        rintro v ⟨done, hdone, hall⟩
        refine ⟨done ++ (body ++ [.call .runNumber none]), ?_, (hcourse.append hearly).then hall⟩
        rw [hdone, hbody, List.append_assoc, List.append_assoc, List.singleton_append]
      refine ((ends_leavesAlone_complete ph.completed).within u).mono (fun _ v hv ↦ ?_)
        fun e v hv ↦ ?_
      · refine (hreturned hv).mono fun new hnew ↦ ?_
        obtain ⟨hopened, hoff⟩ := keepsIsolation_of_returned hnew
        exact iff_of_true ⟨hopened, hoff⟩ fun raised h ↦ absurd h (hoff raised)
      · exact (hreturned hv).mono fun new hnew ↦
          keepsIsolation_of_not (keepsIsolation_of_returned hnew).2
    · obtain ⟨body, hbody, hcourse⟩ := hu
      rw [ht] at hbody
      refine (post_handler _ e u).mono (fun _ _ h ↦ h.elim) fun e' v hv ↦ ?_
      obtain ⟨handler, hhandler, hcourse'⟩ := hv
      refine ⟨handler ++ (body ++ [.call .runNumber none]), ?_,
        keepsIsolation_of_raised (hcourse.append hearly) hcourse'⟩
      rw [hhandler, hbody, List.append_assoc, List.append_assoc, List.singleton_append]
  · refine ⟨[_], ht, keepsIsolation_of_not (not_offUnverified_of_forall fun c hc ↦ ?_)⟩
    rw [List.mem_singleton.mp hc]
    exact id

end Run

/-! ## A storage that is lost -/

/-- A station whose sampling meets an overvoltage, whose output cannot be verified off, and whose
storage takes no further state of the run. -/
def lostStation : Station Unit where
  perform op x :=
    match op with
    | .sample _ => (some ⟨.safetyViolationError, "Overvoltage"⟩, x)
    | .recordExecutionState _ _ "ACTIVE" => (none, x)
    | .recordExecutionState _ _ _ => (some ⟨.sqliteOperationalError, "disk I/O error"⟩, x)
    | _ => (none, x)
  read _ x := (.ok 4, x)
  emergencyOutputOff _ x := (false, x)
  sequence _ x := ((.completed, true), x)
  ntcVoltageToCelsius _ := none

/-- A charge at 1 A. -/
def chargeAt1A : SequenceRun Unit := recipeRun ⟨2, 21 / 5, 2, 11 / 4⟩ ⟨1, 21 / 5, 1, 3⟩

/-- The trace begins with a verdict on the output that it is not off, after the sampling. -/
def beginsUnverified (name : String) : List StationCall → Bool
  | .outputOff _ false :: .call (.sample n) _ :: _ => n == name
  | _ => false

theorem offUnverified_of_beginsUnverified (ph : Phase X) {new : List StationCall} {k : ℕ}
    (h : beginsUnverified ph.name (new.drop k) = true) : ∃ raised, OffUnverified ph raised new := by
  unfold beginsUnverified at h
  split at h
  · next reason n raised rest hdrop =>
    obtain rfl := beq_iff_eq.mp h
    exact ⟨raised, new.take k, rest, reason, by rw [← hdrop, List.take_append_drop]⟩
  · cases h

/-- An entry of the trace with which all relays are opened. -/
def StationCall.isRelayOpenAll : StationCall → Bool
  | .call .relayOpenAll _ => true
  | _ => false

/-- A charge that meets an overvoltage, and whose output stays unverified, leaves its relay closed
where the storage is lost. -/
theorem not_keepsIsolation_lostStation :
    ¬∀ (st : Station Unit) (r : SequenceRun Unit) (ph : Phase Unit) (s : StationSession Unit),
      Post (runPhase st r ph)
        (fun _ t ↦ Added StationSession.trace (KeepsIsolation r ph none) s t)
        (fun e t ↦ Added StationSession.trace (KeepsIsolation r ph (some e)) s t) s := by
  intro h
  have hrun : (runPhase lostStation chargeAt1A (chargePhase chargeAt1A) ⟨(), []⟩).thrown.map
      (fun t ↦ (beginsUnverified "charge" (t.trace.drop 5),
        t.trace.countP StationCall.isRelayOpenAll)) = some (true, 0) := by
    decide +kernel
  obtain ⟨e, t, ht, htrace⟩ := Outcome.exists_of_thrown hrun
  obtain ⟨hbegins, hcount⟩ := Prod.mk.inj htrace
  obtain ⟨new, hnew, hkeeps⟩ := (post_of_error ht).mp
    (h lostStation chargeAt1A (chargePhase chargeAt1A) ⟨(), []⟩)
  rw [show (⟨(), []⟩ : StationSession Unit).trace = [] from rfl, List.append_nil] at hnew
  rw [hnew] at hbegins hcount
  obtain ⟨raised, hoff⟩ := offUnverified_of_beginsUnverified
    (chargePhase chargeAt1A) hbegins
  obtain ⟨⟨opened, hmem⟩, -⟩ := hkeeps raised hoff
  exact List.countP_eq_zero.mp hcount _ hmem rfl

end Nipxi
