import Nipxi.TestControl.RelayApart

/-!
# What the output is enabled onto

A phase closes the relay of its position, reads the battery, refuses one that is reversed,
configures the SMU and only then enables the output. Each call leaves the path from the SMU to the
battery as it is, breaks it, or takes it one step further, so that the path is a function of the
calls. Nothing else enables the output: in every run, `output_enable` comes onto a relay that was
closed, with the battery measured since and not reversed, and the SMU configured after that.
-/

open Collections Effect

namespace Nipxi

/-! ## The path -/

/-- How far the path from the SMU to a battery is made. -/
inductive SourcePath where
  | broken
  | closed (address : ℕ)
  | measured (address : ℕ) (voltage : ℚ)
  | configured (address : ℕ) (voltage : ℚ)

/-- The battery is measured. -/
def SourcePath.measure (voltage : ℚ) : SourcePath → SourcePath
  | broken => broken
  | closed address | measured address _ | configured address _ => measured address voltage

/-- The SMU is configured. -/
def SourcePath.configure : SourcePath → SourcePath
  | measured address voltage => configured address voltage
  | path => path

/-- The path after an entry: a relay that is opened, or that may not have closed, breaks it. -/
def StationCall.leads (path : SourcePath) : StationCall → SourcePath
  | .call (.relayClose address) none => .closed address
  | .call (.relayClose _) (some _) | .call (.relayOpen _) _ | .call .relayOpenAll _ => .broken
  | .call (.setMode _ _ _) none => path.configure
  | .read .battery (.ok voltage) => path.measure voltage
  | _ => path

/-- The path after entries. -/
def sourcePath : List StationCall → SourcePath
  | [] => .broken
  | c :: older => c.leads (sourcePath older)

/-- The output is enabled only onto a path that is made, with a battery that is not reversed. -/
def EnabledSafely : List StationCall → Prop :=
  AtEach fun c older ↦ c.isOutputEnable = true →
    ∃ address voltage, sourcePath older = .configured address voltage ∧
      REVERSE_POLARITY_VOLTAGE_THRESHOLD_V < voltage

/-- An entry that leaves the path as it is, and enables nothing. -/
structure StationCall.LeavesPath (c : StationCall) : Prop where
  isOutputEnable : c.isOutputEnable = false
  leads : ∀ path, c.leads path = path

section Entries

variable {new old : List StationCall}

theorem EnabledSafely.append (hold : EnabledSafely old)
    (hnew : ∀ c ∈ new, c.isOutputEnable = false) : EnabledSafely (new ++ old) := by
  refine AtEach.append hold fun c hc _ henable ↦ ?_
  rw [hnew c hc] at henable
  cases henable

theorem sourcePath_append (hnew : ∀ c ∈ new, c.LeavesPath) :
    sourcePath (new ++ old) = sourcePath old := by
  induction new with
  | nil => rfl
  | cons c rest ih =>
    change c.leads (sourcePath (rest ++ old)) = sourcePath old
    rw [(hnew c List.mem_cons_self).leads]
    exact ih fun d hd ↦ hnew d (List.mem_cons_of_mem c hd)

end Entries

/-! ## Programs -/

section Programs

variable {X α β : Type} {path : SourcePath} {st : Station X}

/-- The output was enabled safely, if it was so before. -/
def KeepsSafe (s t : StationSession X) : Prop := EnabledSafely s.trace → EnabledSafely t.trace

instance : IsPreorder (StationSession X) KeepsSafe where
  refl _ := id
  trans _ _ _ hst htu hs := htu (hst hs)

/-- `x` enables the output safely. -/
abbrev Wary (x : StationProg X α) : Prop := Within KeepsSafe x

/-- So it does from a path. -/
def WaryFrom (path : SourcePath) (x : StationProg X α) : Prop := ∀ s,
  sourcePath s.trace = path → EnabledSafely s.trace →
    Post x (fun _ t ↦ EnabledSafely t.trace) (fun _ t ↦ EnabledSafely t.trace) s

theorem wary_of_quiet {x : StationProg X α}
    (hx : Quiet StationSession.trace (fun c ↦ c.isOutputEnable = false) (fun _ ↦ False) x) :
    Wary x := by
  refine Within.mono hx fun s t h hs ↦ ?_
  obtain ⟨new, hnew, hfaultless⟩ := h
  rw [hnew]
  exact hs.append fun c hc ↦ (hfaultless c hc).1

theorem Passive.wary {x : StationProg X α} (hx : Passive x) : Wary x :=
  wary_of_quiet (Within.mono hx fun _ _ h ↦ h.mono fun _ hnew c hc ↦ ⟨(hnew c hc).1.2, id⟩)

theorem wary_relayClose (address : ℕ) : Wary (StationProg.call st (.relayClose address)) :=
  wary_of_quiet (StationProg.quiet_call fun _ ↦ ⟨rfl, id⟩)

theorem WaryFrom.wary {x : StationProg X α} (hx : ∀ path, WaryFrom path x) : Wary x := by
  intro s
  by_cases hs : EnabledSafely s.trace
  · exact (hx _ s rfl hs).mono (fun _ _ ht _ ↦ ht) fun _ _ ht _ ↦ ht
  · exact (within_true x s).mono (fun _ _ _ h ↦ absurd h hs) fun _ _ _ h ↦ absurd h hs

theorem WaryFrom.after {x : StationProg X α} {f : α → StationProg X β}
    (hx : Quiet StationSession.trace StationCall.LeavesPath (fun _ ↦ False) x)
    (hf : ∀ a, WaryFrom path (f a)) : WaryFrom path (x >>= f) := by
  intro s hpath hs
  have hadded {t : StationSession X}
      (h : Adds (Faultless StationCall.LeavesPath fun _ ↦ False) s t) :
      sourcePath t.trace = path ∧ EnabledSafely t.trace := by
    obtain ⟨new, hnew, hleaves⟩ := h
    rw [hnew, sourcePath_append fun c hc ↦ (hleaves c hc).1]
    exact ⟨hpath, hs.append fun c hc ↦ (hleaves c hc).1.isOutputEnable⟩
  exact (post_bind f).mpr ((hx s).mono (fun a t ht ↦ hf a t (hadded ht).1 (hadded ht).2)
    fun _ _ ht ↦ (hadded ht).2)

theorem WaryFrom.ensuring {x : StationProg X α} {fin : StationProg X PUnit}
    (hx : WaryFrom path x) (hfin : Wary fin) : WaryFrom path (x.ensuring fin) := fun s hpath hs ↦
  (post_ensuring fin).mpr ((hx s hpath hs).mono
    (fun _ t ht ↦ (hfin t).mono (fun _ _ h ↦ h ht) fun _ _ h ↦ h ht)
    fun _ t ht ↦ (hfin t).mono (fun _ _ h ↦ h ht) fun _ _ h ↦ h ht)

theorem WaryFrom.step {op : Operation} {next : SourcePath} {f : PUnit → StationProg X β}
    (hop : ∀ raised, (StationCall.call op raised).isOutputEnable = false)
    (hnext : (StationCall.call op none).leads path = next) (hf : ∀ u, WaryFrom next (f u)) :
    WaryFrom path (StationProg.call st op >>= f) := by
  intro s hpath hs
  have hsafe {raised : Option Exc} {t : StationSession X}
      (ht : t.trace = .call op raised :: s.trace) : EnabledSafely t.trace := by
    have happend : EnabledSafely ([.call op raised] ++ s.trace) :=
      hs.append (List.forall_mem_singleton.mpr (hop raised))
    rwa [ht]
  refine (post_bind f).mpr ((StationProg.post_call st op s).mono (fun u t ht ↦ ?_)
    fun _ t ht ↦ hsafe ht)
  refine hf u t ?_ (hsafe ht)
  rw [ht]
  exact (congrArg (fun p ↦ (StationCall.call op none).leads p) hpath).trans hnext

theorem WaryFrom.read {f : ℚ → StationProg X β}
    (hf : ∀ voltage, WaryFrom (path.measure voltage) (f voltage)) :
    WaryFrom path (StationProg.read st .battery >>= f) := by
  intro s hpath hs
  have hsafe {result : Except Exc ℚ} {t : StationSession X}
      (ht : t.trace = .read .battery result :: s.trace) : EnabledSafely t.trace := by
    have happend : EnabledSafely ([.read .battery result] ++ s.trace) :=
      hs.append (List.forall_mem_singleton.mpr rfl)
    rwa [ht]
  refine (post_bind f).mpr ((StationProg.post_read st .battery s).mono (fun voltage t ht ↦ ?_)
    fun _ t ht ↦ hsafe ht)
  refine hf voltage t ?_ (hsafe ht)
  rw [ht, ← hpath]
  rfl

/-- **The output is enabled** onto a path that is made. -/
theorem WaryFrom.enable {address : ℕ} {voltage : ℚ} {f : PUnit → StationProg X β}
    (hvoltage : REVERSE_POLARITY_VOLTAGE_THRESHOLD_V < voltage) (hf : ∀ u, Wary (f u)) :
    WaryFrom (.configured address voltage) (StationProg.call st .outputEnable >>= f) := by
  intro s hpath hs
  have hsafe {raised : Option Exc} {t : StationSession X}
      (ht : t.trace = .call .outputEnable raised :: s.trace) : EnabledSafely t.trace := by
    rw [ht]
    exact ⟨fun _ ↦ ⟨address, voltage, hpath, hvoltage⟩, hs⟩
  exact (post_bind f).mpr ((StationProg.post_call st _ s).mono
    (fun u t ht ↦ (hf u t).mono (fun _ _ h ↦ h (hsafe ht)) fun _ _ h ↦ h (hsafe ht))
    fun _ t ht ↦ hsafe ht)

theorem leavesPath_logEvent (entry : EventEntry) :
    Quiet StationSession.trace StationCall.LeavesPath (fun _ ↦ False)
      (StationProg.logEvent st entry) :=
  StationProg.quiet_call fun _ ↦ ⟨⟨rfl, fun _ ↦ rfl⟩, id⟩

end Programs

/-! ## The sequences -/

section Sequences

variable {X : Type} {st : Station X} {r : SequenceRun X} {ph : Phase X} {g : GuardedRun X}

theorem WaryFrom.checked {path : SourcePath} {voltage : ℚ} {f : PUnit → StationProg X PUnit}
    (hf : REVERSE_POLARITY_VOLTAGE_THRESHOLD_V < voltage → ∀ u, WaryFrom path (f u)) :
    WaryFrom path (checkBatteryPolarity st r ph voltage >>= f) := by
  intro s hpath hs
  unfold checkBatteryPolarity
  by_cases hv : voltage ≤ REVERSE_POLARITY_VOLTAGE_THRESHOLD_V
  · -- what follows is not reached
    rw [if_pos hv]
    exact (post_bind _).mpr ((post_bind _).mpr (((passive_logEvent _).wary s).mono
      (fun _ t ht ↦ (post_raise _).mpr (ht hs)) fun _ _ ht ↦ ht hs))
  · rw [if_neg hv]
    exact hf (not_le.mp hv) _ s hpath hs

theorem leavesPath_connectSense :
    Quiet StationSession.trace StationCall.LeavesPath (fun _ ↦ False) (connectSense st r ph) := by
  unfold connectSense
  split
  · exact .pure _
  · refine .bind (StationProg.quiet_call fun _ ↦ ?_) fun _ ↦ leavesPath_logEvent _
    exact ⟨⟨rfl, fun _ ↦ rfl⟩, id⟩

/-- The battery is read, checked and sourced, in this order. -/
theorem waryFrom_energize (address : ℕ) : WaryFrom (.closed address) (energize st r ph) := by
  have hisolate : Passive (isolate st r ph) := by
    refine .bind (passive_call fun _ ↦ ⟨rfl, rfl⟩) fun _ ↦ .bind (passive_logEvent _) fun _ ↦ ?_
    exact .bind (passive_logEvent _) fun _ ↦ passive_zeroOutputSetpoint _
  refine .read fun voltage ↦ .checked fun hvoltage _ ↦ ?_
  refine .step (fun _ ↦ rfl) rfl fun _ ↦ .enable hvoltage fun _ ↦ ?_
  refine .bind (passive_logEvent _).wary fun _ ↦ .bind passive_sampleUntilEnd.wary fun _ ↦ ?_
  exact .ite hisolate.wary passive_escalate.wary

theorem wary_phaseBody : Wary (phaseBody st r ph) := by
  refine .bind (passive_call fun _ ↦ ⟨rfl, rfl⟩).wary fun _ ↦ WaryFrom.wary fun path ↦ ?_
  refine .step (fun _ ↦ rfl) rfl fun _ ↦ ?_
  refine .after (leavesPath_logEvent _) fun _ ↦ .after (leavesPath_logEvent _) fun _ ↦ ?_
  refine .after (StationProg.quiet_call fun _ ↦ ⟨⟨rfl, fun _ ↦ rfl⟩, id⟩) fun _ ↦ ?_
  refine .after leavesPath_connectSense fun _ ↦ ?_
  exact (waryFrom_energize _).ensuring passive_disconnectSense.wary

theorem Wary.runGuarded {α : Type} {fn : StationProg X α} (hfn : Wary fn) :
    Wary (runGuarded st g fn) :=
  hfn.handle fun _ ↦ .bind (passive_recordFailure _).wary fun _ ↦
    .bind (passive_shutDown _ _).wary fun _ ↦ .raise _

theorem wary_runPhase : Wary (runPhase st r ph) :=
  .bind (passive_call fun _ ↦ ⟨rfl, rfl⟩).wary fun _ ↦ .bind wary_phaseBody.runGuarded fun _ ↦
    (passive_complete _).wary

theorem wary_cyclePhase : Wary (cyclePhase st r ph) := by
  have hreclassify : Passive (reclassifyPhaseAsStationFault st r) :=
    .bind (passive_call fun _ ↦ ⟨rfl, rfl⟩) fun _ ↦ passive_call fun _ ↦ ⟨rfl, rfl⟩
  refine .bind (passive_call fun _ ↦ ⟨rfl, rfl⟩).wary fun _ ↦ .ensuring ?_ ?_
  · exact wary_runPhase.handle fun e ↦ .ite (.bind hreclassify.wary fun _ ↦ .raise e) (.raise e)
  · exact (passive_call fun _ ↦ ⟨rfl, rfl⟩).wary

/-- By induction on the repetitions. -/
theorem wary_runRepetitions (repetitions : List ℕ) : Wary (runRepetitions st r repetitions) := by
  have hcancel : Wary (StationProg.call st .checkCancellation) :=
    (passive_call fun _ ↦ ⟨rfl, rfl⟩).wary
  have hrest : Wary (StationProg.call st .rest) := (passive_call fun _ ↦ ⟨rfl, rfl⟩).wary
  have hlog (entry : EventEntry) : Wary (StationProg.logEvent st entry) :=
    (passive_logEvent entry).wary
  induction repetitions with
  | nil => exact .pure _
  | cons repetition rest ih =>
    refine .bind ?_ fun _ ↦ ih
    refine .bind hcancel fun _ ↦ .bind (hlog _) fun _ ↦ .bind wary_cyclePhase fun _ ↦ ?_
    refine .bind hcancel fun _ ↦ .bind (hlog _) fun _ ↦ .bind hrest fun _ ↦ ?_
    exact .bind (hlog _) fun _ ↦ .bind wary_cyclePhase fun _ ↦ hlog _

theorem wary_run (c : SequenceClass) : Wary (c.run st r) := by
  cases c with
  | charge => exact wary_runPhase
  | discharge => exact wary_runPhase
  | cycle =>
    exact .bind (wary_runRepetitions _).runGuarded fun _ ↦ (passive_complete _).wary

end Sequences

/-! ## The group -/

section Group

variable {X : Type} {st : Station X} {run : StationProg X SequenceEnd} {p : PositionRun}

theorem wary_precheck {p : PrecheckRun} : Wary (precheck st p) := by
  refine .bind (wary_relayClose _) fun _ ↦ ?_
  refine .bind (passive_readBattery.wary.ensuring (passive_call fun _ ↦ ⟨rfl, rfl⟩).wary) ?_
  refine fun voltage ↦ .bind (passive_call fun _ ↦ ⟨rfl, rfl⟩).wary fun _ ↦ ?_
  refine .bind passive_ntcGroupSnapshot.wary fun _ ↦ .bind (passive_warnReversed _).wary fun _ ↦ ?_
  exact .bind (passive_logPrecheck _ _ _).wary fun _ ↦ .pure _

theorem Wary.runOnePosition (hrun : Wary run) : Wary (runOnePosition st run p) := by
  have hcall {op : Operation} (hop : ∀ raised, (StationCall.call op raised).IsPassive) :
      Wary (StationProg.call st op) := (passive_call hop).wary
  refine .bind passive_startRunSummaryGuarded.wary fun _ ↦ .ite ?_ (.pure _)
  refine .bind (passive_logEvents _).wary fun _ ↦ .bind wary_precheck fun _ ↦ .ite ?_ (.ite ?_ ?_)
  · exact .bind (passive_recordStationFault _ _).wary fun _ ↦ .pure _
  · refine .bind hrun fun ended ↦ .bind (passive_classifyEnd ended).wary fun _ ↦ ?_
    exact .bind (hcall fun _ ↦ ⟨rfl, rfl⟩) fun _ ↦ .pure _
  · exact .bind (hcall fun _ ↦ ⟨rfl, rfl⟩) fun _ ↦ .bind (hcall fun _ ↦ ⟨rfl, rfl⟩) fun _ ↦ .pure _

/-- By induction on the positions. -/
theorem wary_runPositions {run : PositionRun → StationProg X SequenceEnd}
    (hrun : ∀ p, Wary (run p)) (g : GroupRun) (positions : List ℕ) :
    Wary (runPositions st run g positions) := by
  have hbegin : Wary (StationProg.call st .beginNewRunId) := (passive_call fun _ ↦ ⟨rfl, rfl⟩).wary
  have hlog (entry : EventEntry) : Wary (StationProg.logEvent st entry) :=
    (passive_logEvent entry).wary
  induction positions with
  | nil => exact .pure _
  | cons position rest ih =>
    unfold runPositions
    cases g.config position with
    | none => exact ih
    | some p =>
      refine .bind hbegin fun _ ↦ .bind (hlog _) fun _ ↦ .bind (hrun p).runOnePosition ?_
      refine fun result ↦ .bind (hlog _) fun _ ↦ .ite (.pure _) ?_
      exact .bind ih fun _ ↦ .pure _

/-- **The output is enabled onto a battery that was just found the right way round.** Whatever the
station does, and however a charge, a discharge or a cycle of a group ends, each `output_enable`
comes after a relay was closed and no other since, none opened, after the battery was measured on
it, above the reverse-polarity threshold, and after the SMU was configured since that
measurement. -/
theorem enabledSafely_runGroupAllPositions (st : Station X) (c : SequenceClass)
    (r : PositionRun → SequenceRun X) (g : GroupRun) (world : X) :
    Post (runGroupAllPositions st (fun p ↦ sequenceEnd (c.run st (r p))) g)
      (fun _ t ↦ EnabledSafely t.trace) (fun _ t ↦ EnabledSafely t.trace) ⟨world, []⟩ := by
  have hrun (p : PositionRun) : Wary (sequenceEnd (c.run st (r p))) := by
    refine .bind (wary_run c).attempt fun ended ↦ ?_
    cases ended with
    | ok _ => exact .pure _
    | error e => exact .pure _
  have hinstrument : Wary (startSenseRouter st g) :=
    Passive.wary (.ite (passive_call fun _ ↦ ⟨rfl, rfl⟩) (.pure _))
  have hshutdown : Passive (stopSenseRouter st g) :=
    .ite (Within.handle (passive_call fun _ ↦ ⟨rfl, rfl⟩) fun _ ↦ .pure _) (.pure _)
  have hbody : Wary (runGroupBody st (fun p ↦ sequenceEnd (c.run st (r p))) g) := by
    refine .bind hinstrument fun _ ↦ .bind (passive_logEvent _).wary fun _ ↦ ?_
    refine .bind (wary_runPositions hrun g _) fun _ ↦ ?_
    exact .bind (passive_logEvent _).wary fun _ ↦ .pure _
  have hgroup : Wary (runGroupAllPositions st (fun p ↦ sequenceEnd (c.run st (r p))) g) :=
    hbody.ensuring hshutdown.wary
  exact (hgroup ⟨world, []⟩).mono (fun _ _ h ↦ h trivial) fun _ _ h ↦ h trivial

end Group

end Nipxi
