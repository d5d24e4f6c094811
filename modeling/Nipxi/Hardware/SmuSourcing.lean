import Mathlib.Algebra.Order.Ring.Unbundled.Rat
import Nipxi.Hardware.SmuShutdown
import Nipxi.Transition.Trace

/-!
# Sourcing one voltage point

`SMU.source_dc_voltage_point`: from an output that is verified off, the session is configured and
its output enabled (`configure`), and then verified, initiated, measured and held (`sourcing`), with
the output disabled in the `finally` of this second part.

## What the `finally` does not cover

The write `output_enabled = True` is followed by the commit in the first part, whose `except` only
wraps. A commit that raises leaves the output enabled (`disabledAgain_iff`). And the `finally` of
the second part begins with `output_disable`, which may itself raise; then its exception replaces
the one in flight (`masking_iff`), an operator's cancellation included.
-/

open Effect Transition

namespace Nipxi

/-- A session that can be made to source. -/
structure SourcingSession (V : Type) extends Nidcpower V where
  /-- `session.output_enabled = True`. -/
  enableOutput : V → Option String × V
  setDcVoltage : V → Option String × V
  setSinglePoint : V → Option String × V
  setVoltageLevelRange : ℚ → V → Option String × V
  setCurrentLimit : ℚ → V → Option String × V
  readCurrentLimit : V → Except String ℚ × V
  initiate : V → Option String × V
  /-- Leaving `with session.initiate()`. -/
  leave : V → Option String × V
  queryInCompliance : V → Except String Bool × V
  measureVoltage : V → Except String ℚ × V
  measureCurrent : V → Except String ℚ × V

/-- What `source_dc_voltage_point` is called with. -/
structure SourcePoint (V R : Type) where
  voltageV : ℚ
  currentLimitA : ℚ
  voltageRangeV : ℚ
  /-- `interruptible_sleep(hold_s, token)`: the reason it was cancelled for, if it was. -/
  hold : V → Option String × V
  duringHold : Option (V → Except Exc R × V)
  /-- `repr` of a number. -/
  repr : ℚ → String

/-- What it returns. -/
structure SourceReading (R : Type) where
  commandedV : ℚ
  readbackV : ℚ
  commandedCurrentLimitA : ℚ
  readbackCurrentLimitA : ℚ
  outputEnabledReadback : Bool
  inCompliance : Bool
  measuredV : ℚ
  measuredI : ℚ
  duringHoldResult : Option R

variable {V R : Type}

/-- The session, with every call on it recorded. -/
def SourcingSession.taped (ni : SourcingSession V) : SourcingSession (Taped V) where
  toNidcpower := ni.toNidcpower.taped
  enableOutput :=
    Taped.along (fun raised ↦ .session (.setOutputEnabled true raised)) ni.enableOutput
  setDcVoltage := Taped.along (fun raised ↦ .session (.setDcVoltage raised)) ni.setDcVoltage
  setSinglePoint := Taped.along (fun raised ↦ .session (.setSinglePoint raised)) ni.setSinglePoint
  setVoltageLevelRange value :=
    Taped.along (fun raised ↦ .session (.setVoltageLevelRange value raised))
      (ni.setVoltageLevelRange value)
  setCurrentLimit value := Taped.along (fun raised ↦ .session (.setCurrentLimit value raised))
    (ni.setCurrentLimit value)
  readCurrentLimit := Taped.along (fun answer ↦ .session (.getCurrentLimit answer))
    ni.readCurrentLimit
  initiate := Taped.along (fun raised ↦ .session (.initiate raised)) ni.initiate
  leave := Taped.along (fun raised ↦ .session (.leave raised)) ni.leave
  queryInCompliance := Taped.along (fun answer ↦ .session (.queryInCompliance answer))
    ni.queryInCompliance
  measureVoltage := Taped.along (fun answer ↦ .session (.measureVoltage answer)) ni.measureVoltage
  measureCurrent := Taped.along (fun answer ↦ .session (.measureCurrent answer)) ni.measureCurrent

/-- The exception an answer stands for. -/
def raisedOf {α : Type} : Except Exc α → Option Exc
  | .ok _ => none
  | .error e => some e

/-- The arguments, with the hold recorded. -/
def SourcePoint.taped (p : SourcePoint V R) : SourcePoint (Taped V) R where
  voltageV := p.voltageV
  currentLimitA := p.currentLimitA
  voltageRangeV := p.voltageRangeV
  hold := Taped.along .hold p.hold
  duringHold := p.duringHold.map fun f ↦ Taped.along (fun answer ↦ .duringHold (raisedOf answer)) f
  repr := p.repr

/-- `f"{value:+.nf}"`. -/
def formatSigned (digits : ℕ) (value : ℚ) : String :=
  (if value.num < 0 then "" else "+") ++ formatFixed digits value

namespace Smu

/-! ## The method -/

section

variable (cfg : SmuConfig) (ni : SourcingSession V) (p : SourcePoint V R)

/-- `f"SMU {self.resource} channel {self._channel}"`. -/
def smuChannel : String := s!"SMU {cfg.resource} channel {cfg.channel}"

/-- `verify_output_disabled`. -/
def verifyOutputDisabled : SmuProg V Bool := do
  let m ← .get
  if m.session then
    match ← niCall ni.outputEnabled with
    | .ok enabled => pure (!enabled)
    | .error _ => pure false
  else pure true

/-- `query_output_state`, whose result is only logged here. -/
def queryOutputState : SmuProg V Unit := do
  let m ← .get
  if m.session then
    let _ ← niCall ni.outputEnabled
    pure ()
  else pure ()

/-- `force_output_off_and_verify`. -/
def forceOutputOffAndVerify : SmuProg V Bool := do
  queryOutputState ni
  match ← (outputDisable cfg ni.toNidcpower).attempt with
  | .error _ => pure false
  | .ok _ => verifyOutputDisabled ni

/-- `_verify_config_readback`, for a readback that matches or not. -/
def verifyConfigReadback (label expected actual : String) (mismatch : Bool) : SmuProg V Unit :=
  if mismatch then
    .raise ⟨.smuStateVerificationError, s!"{smuChannel cfg}: {label} verification FAILED -- " ++
      s!"expected {expected}, readback {actual}. Execution stopped."⟩
  else pure ()

/-- `Settings.SMU_VOLTAGE_READBACK_TOLERANCE_V`. -/
def SMU_VOLTAGE_READBACK_TOLERANCE_V : ℚ := 1 / 10000

/-- `Settings.SMU_CURRENT_READBACK_TOLERANCE_A`. -/
def SMU_CURRENT_READBACK_TOLERANCE_A : ℚ := 1 / 10000

/-- The first `try`: the session is configured and its output enabled. -/
def configure : SmuProg V Unit :=
  (do niDoing ni.setDcVoltage
      niDoing ni.setSinglePoint
      niDoing (ni.setVoltageLevelRange p.voltageRangeV)
      niDoing (ni.setCurrentLimit p.currentLimitA)
      niDoing (ni.write .voltageLevel p.voltageV)
      niDoing ni.enableOutput
      niDoing ni.commit).handle fun e ↦
    .raise ⟨.smuError, s!"{smuChannel cfg} failed to configure {formatSigned 3 p.voltageV} V: " ++
      e.message⟩

/-- `during_hold()`, where it is given. -/
def callDuringHold : SmuProg V (Option R) :=
  match p.duringHold with
  | none => pure none
  | some f => do
    match ← niCall f with
    | .ok r => pure (some r)
    | .error e => .raise e

/-- `interruptible_sleep(hold_s, token=token)`. -/
def holdOutput : SmuProg V Unit := do
  match ← niCall p.hold with
  | none => pure ()
  | some reason => .raise ⟨.operationCancelledError, reason⟩

/-- The readback of the configuration, verified. -/
def verifyConfiguration : SmuProg V (ℚ × ℚ × Bool) := do
  let readbackV ← niRaising (ni.read .voltageLevel)
  let readbackCurrentLimitA ← niRaising ni.readCurrentLimit
  let readbackOutputEnabled ← niRaising ni.outputEnabled
  verifyConfigReadback cfg "voltage_level" (p.repr p.voltageV) (p.repr readbackV)
    (SMU_VOLTAGE_READBACK_TOLERANCE_V < |readbackV - p.voltageV|)
  verifyConfigReadback cfg "current_limit" (p.repr p.currentLimitA) (p.repr readbackCurrentLimitA)
    (SMU_CURRENT_READBACK_TOLERANCE_A < |readbackCurrentLimitA - p.currentLimitA|)
  verifyConfigReadback cfg "output_enabled" "True" "False" (!readbackOutputEnabled)
  pure (readbackV, readbackCurrentLimitA, readbackOutputEnabled)

/-- The measurements in the `with` block. -/
def measurePoint : SmuProg V (Bool × ℚ × ℚ) := do
  let inCompliance ← niRaising ni.queryInCompliance
  let measuredV ← niRaising ni.measureVoltage
  let measuredI ← niRaising ni.measureCurrent
  pure (inCompliance, measuredV, measuredI)

/-- The body of the `with` block. -/
def holdPoint : SmuProg V ((Bool × ℚ × ℚ) × Option R) := do
  let measured ← measurePoint ni
  let duringHoldResult ← callDuringHold p
  holdOutput p
  pure (measured, duringHoldResult)

/-- The configuration is verified and the session initiated. -/
def initiateSourcing : SmuProg V (ℚ × ℚ × Bool) := do
  let readback ← verifyConfiguration cfg ni p
  niDoing ni.initiate
  pure readback

/-- The second `try`: the output is verified, measured and held. -/
def sourcing : SmuProg V (SourceReading R) := do
  let readback ← initiateSourcing cfg ni p
  let (measured, duringHoldResult) ← (holdPoint ni p).ensuring (niDoing ni.leave)
  pure
    { commandedV := p.voltageV
      readbackV := readback.1
      commandedCurrentLimitA := p.currentLimitA
      readbackCurrentLimitA := readback.2.1
      outputEnabledReadback := readback.2.2
      inCompliance := measured.1
      measuredV := measured.2.1
      measuredI := measured.2.2
      duringHoldResult := duringHoldResult }

/-- The `except` clauses of the second `try`. -/
def wrapSourcing (e : Exc) : Exc :=
  if e.isInstance [.smuStateVerificationError] then e
  else if e.isInstance [.operationCancelledError] then e
  else ⟨.smuError, s!"{smuChannel cfg} failed while sourcing {formatSigned 3 p.voltageV} V: " ++
    e.message⟩

/-- The `finally`: the output is disabled, and a failed verification is only logged. -/
def teardown : SmuProg V Unit := do
  outputDisable cfg ni.toNidcpower
  let _ ← verifyOutputDisabled ni
  pure ()

/-- The second `try` with its clauses. -/
def guardedSourcing : SmuProg V (SourceReading R) :=
  ((sourcing cfg ni p).handle fun e ↦ .raise (wrapSourcing cfg p e)).ensuring (teardown cfg ni)

/-- What comes before the second `try`. -/
def prepareSourcing : SmuProg V Unit := do
  let m ← .get
  if m.session then
    if ← forceOutputOffAndVerify cfg ni then configure cfg ni p
    else .raise ⟨.smuError, s!"{smuChannel cfg}: could not verify a safe (output-off) baseline " ++
      s!"before sourcing {formatSigned 3 p.voltageV} V -- aborting before any configuration was " ++
      "attempted."⟩
  else .raise ⟨.smuError, s!"{smuChannel cfg} is not connected"⟩

/-- `source_dc_voltage_point`. -/
def sourceDcVoltagePoint : SmuProg V (SourceReading R) := do
  prepareSourcing cfg ni p
  let reading ← guardedSourcing cfg ni p
  if reading.inCompliance then
    .raise ⟨.smuError, s!"SMU {cfg.resource} entered current-limit compliance while sourcing " ++
      s!"{formatSigned 3 p.voltageV} V (limit {formatFixed 3 p.currentLimitA} A) -- possible " ++
      "short or unexpected load."⟩
  else pure reading

end

/-! ## The output is disabled again -/

/-- `output_enabled = True` was written. -/
def Enabled : SmuCall → Prop
  | .session (.setOutputEnabled true none) => True
  | _ => False

/-- A write of `output_enabled = False` was attempted. -/
def Disabling : SmuCall → Prop
  | .session (.setOutputEnabled false _) => True
  | _ => False

/-- After every write of `output_enabled = True`, a write of `False` is attempted. -/
def DisabledAgain (new : List SmuCall) : Prop := Settled Enabled Disabling new

/-- The commit right after the write of `output_enabled = True` raised. -/
def CommitRefused (new : List SmuCall) : Prop :=
  ∃ e l r, new = l ++ .session (.commit (some e)) :: .session (.setOutputEnabled true none) :: r

/-- Nothing was enabled. -/
abbrev Unenabled : List SmuCall → Prop := AllCalls fun c ↦ ¬Enabled c

/-- Where nothing was enabled. -/
theorem Unenabled.disabledAgain_iff {new : List SmuCall} (h : Unenabled new) :
    DisabledAgain new ↔ ¬CommitRefused new := by
  refine iff_of_true (settled_of_forall_not h) ?_
  rintro ⟨e, l, r, rfl⟩
  exact h _ (List.mem_append_right l (List.mem_cons_of_mem _ List.mem_cons_self)) trivial

theorem disabledAgain_iff_of_refused (e : String) (old : List SmuCall) :
    DisabledAgain (.session (.commit (some e)) :: .session (.setOutputEnabled true none) :: old)
      ↔ ¬CommitRefused
        (.session (.commit (some e)) :: .session (.setOutputEnabled true none) :: old) := by
  refine iff_of_false ?_ (not_not_intro ⟨e, [], old, rfl⟩)
  rintro (hq | ⟨-, hq | ⟨hp, -⟩⟩)
  · exact hq
  · exact hq
  · exact hp trivial

/-- Where the commit went through and the output was disabled later. -/
theorem disabledAgain_iff_of_committed {after old : List SmuCall} (hafter : Unenabled after)
    (hold : Unenabled old) (hdisabled : ∃ c ∈ after, Disabling c) :
    DisabledAgain (after ++
        (.session (.commit none) :: .session (.setOutputEnabled true none) :: old))
      ↔ ¬CommitRefused (after ++
        (.session (.commit none) :: .session (.setOutputEnabled true none) :: old)) := by
  refine iff_of_true (.of_mem hdisabled hafter) ?_
  rintro ⟨e, l, r, heq⟩
  have hsplit : (l ++ [.session (.commit (some e))]) ++
      SmuCall.session (.setOutputEnabled true none) :: r
        = (after ++ [.session (.commit none)]) ++
          SmuCall.session (.setOutputEnabled true none) :: old := by
    rw [List.append_assoc, List.append_assoc]
    exact heq.symm
  have hnot : SmuCall.session (.setOutputEnabled true none) ∉
      after ++ [SmuCall.session (.commit none)] := by
    intro hmem
    rcases List.mem_append.mp hmem with hmem | hmem
    · exact hafter _ hmem trivial
    · cases List.mem_singleton.mp hmem
  obtain ⟨hlast, -, -⟩ := (List.append_cons_inj_of_notMem hnot fun hmem ↦
    hold _ hmem trivial).mp hsplit.symm
  cases (List.cons.inj (List.append_inj_right' hlast rfl)).1

section

variable (cfg : SmuConfig) (ni : SourcingSession V) (p : SourcePoint V R)

theorem unenabled_verifyOutputDisabled :
    Ends (Calling Unenabled) (verifyOutputDisabled ni.taped) := by
  refine .bind .get fun m ↦ .ite (.bind (calling_niCall _ _ fun _ ↦ id) fun r ↦ ?_) (.pure _)
  cases r with
  | ok enabled => exact .pure _
  | error e => exact .pure _

theorem unenabled_outputDisable :
    Ends (Calling Unenabled) (outputDisable cfg ni.taped.toNidcpower) := by
  refine .bind .get fun m ↦ .ite ?_ (.pure _)
  refine .bind (calling_niCall _ _ fun _ ↦ id) fun _ ↦ ?_
  refine .bind (calling_niCall _ _ fun _ ↦ id) fun r ↦ ?_
  cases r with
  | none => exact .pure _
  | some e => exact .raise _

theorem unenabled_forceOutputOffAndVerify :
    Ends (Calling Unenabled) (forceOutputOffAndVerify cfg ni.taped) := by
  have hquery : Ends (Calling Unenabled) (queryOutputState ni.taped) :=
    .bind .get fun _ ↦ .ite (.bind (calling_niCall _ _ fun _ ↦ id) fun _ ↦ .pure _) (.pure _)
  refine .bind hquery fun _ ↦ .bind (.attempt (unenabled_outputDisable cfg ni)) fun r ↦ ?_
  cases r with
  | ok _ => exact unenabled_verifyOutputDisabled ni
  | error e => exact .pure _

/-- The second part enables nothing. -/
theorem unenabled_sourcing : Ends (Calling Unenabled) (sourcing cfg ni.taped p.taped) := by
  have hverify : ∀ label expected actual mismatch, Ends (Calling Unenabled)
      (verifyConfigReadback cfg label expected actual mismatch : SmuProg (Taped V) Unit) :=
    fun _ _ _ _ ↦ .ite (.raise _) (.pure _)
  have hconfiguration : Ends (Calling Unenabled) (verifyConfiguration cfg ni.taped p.taped) := by
    refine .bind (calling_niRaising _ _ fun _ ↦ id) fun _ ↦ ?_
    refine .bind (calling_niRaising _ _ fun _ ↦ id) fun _ ↦ ?_
    refine .bind (calling_niRaising _ _ fun _ ↦ id) fun _ ↦ ?_
    exact .bind (hverify _ _ _ _) fun _ ↦ .bind (hverify _ _ _ _) fun _ ↦
      .bind (hverify _ _ _ _) fun _ ↦ .pure _
  have hmeasure : Ends (Calling Unenabled) (measurePoint ni.taped) := by
    refine .bind (calling_niRaising _ _ fun _ ↦ id) fun _ ↦ ?_
    refine .bind (calling_niRaising _ _ fun _ ↦ id) fun _ ↦ ?_
    exact .bind (calling_niRaising _ _ fun _ ↦ id) fun _ ↦ .pure _
  have hduring : Ends (Calling Unenabled) (callDuringHold p.taped) := by
    unfold callDuringHold SourcePoint.taped
    cases p.duringHold with
    | none => exact .pure _
    | some f =>
      refine .bind (calling_niCall _ _ fun _ ↦ id) fun r ↦ ?_
      cases r with
      | ok r => exact .pure _
      | error e => exact .raise _
  have hhold : Ends (Calling Unenabled) (holdOutput p.taped) := by
    refine .bind (calling_niCall _ _ fun _ ↦ id) fun r ↦ ?_
    cases r with
    | none => exact .pure _
    | some reason => exact .raise _
  refine .bind (.bind hconfiguration fun _ ↦ .bind (calling_niDoing _ _ fun _ ↦ id) fun _ ↦
    .pure _) fun _ ↦ ?_
  refine .bind (.ensuring ?_ (calling_niDoing _ _ fun _ ↦ id)) fun _ ↦ .pure _
  exact .bind hmeasure fun _ ↦ .bind hduring fun _ ↦ .bind hhold fun _ ↦ .pure _

theorem post_of_calling {α : Type} {x : SmuProg (Taped V) α} {K : SmuCall → Prop}
    (hx : Ends (Calling (AllCalls K)) x) (s : Smu (Taped V)) :
    Post x (fun _ t ↦ ∃ new, Adds new s t ∧ AllCalls K new)
      (fun _ t ↦ ∃ new, Adds new s t ∧ AllCalls K new) s := by
  refine (hx.within s).mono ?_ ?_
  · rintro _ t ⟨hobject, new, hadds, hnew⟩
    exact ⟨new, ⟨hobject, new, hadds, rfl⟩, hnew⟩
  · rintro _ t ⟨hobject, new, hadds, hnew⟩
    exact ⟨new, ⟨hobject, new, hadds, rfl⟩, hnew⟩

/-- A call of the library that may raise. -/
theorem post_niDoing_taped (call : Option String → SmuCall) (f : V → Option String × V)
    (s : Smu (Taped V)) :
    Post (niDoing (Taped.along call f)) (fun _ t ↦ Adds [call none] s t)
      (fun _ t ↦ ∃ e, Adds [call (some e)] s t) s := by
  refine (post_bind _).mpr ((adds_niCall call f s).mono (fun raised t hst ↦ ?_) fun _ _ h ↦ h.elim)
  cases raised with
  | none => exact hst
  | some e => exact ⟨e, hst⟩

/-- **How the configuration ends**: enabled and committed, or without having enabled, or with the
commit refused after it had. -/
theorem post_configure (s : Smu (Taped V)) :
    Post (configure cfg ni.taped p.taped)
      (fun _ t ↦ ∃ old, Unenabled old ∧ Adds
        (.session (.commit none) :: .session (.setOutputEnabled true none) :: old) s t)
      (fun _ t ↦ (∃ old, Unenabled old ∧ Adds old s t) ∨ ∃ e old, Unenabled old ∧ Adds
        (.session (.commit (some e)) :: .session (.setOutputEnabled true none) :: old) s t) s := by
  have hsettings : Ends (Calling Unenabled) (do
      niDoing ni.taped.setDcVoltage
      niDoing ni.taped.setSinglePoint
      niDoing (ni.taped.setVoltageLevelRange p.taped.voltageRangeV)
      niDoing (ni.taped.setCurrentLimit p.taped.currentLimitA)
      niDoing (ni.taped.write .voltageLevel p.taped.voltageV)) := by
    refine .bind (calling_niDoing _ _ fun _ ↦ id) fun _ ↦ ?_
    refine .bind (calling_niDoing _ _ fun _ ↦ id) fun _ ↦ ?_
    refine .bind (calling_niDoing _ _ fun _ ↦ id) fun _ ↦ ?_
    exact .bind (calling_niDoing _ _ fun _ ↦ id) fun _ ↦ calling_niDoing _ _ fun _ ↦ id
  have hsplit : configure cfg ni.taped p.taped =
      ((do niDoing ni.taped.setDcVoltage
           niDoing ni.taped.setSinglePoint
           niDoing (ni.taped.setVoltageLevelRange p.taped.voltageRangeV)
           niDoing (ni.taped.setCurrentLimit p.taped.currentLimitA)
           niDoing (ni.taped.write .voltageLevel p.taped.voltageV)) >>= fun _ ↦ do
        niDoing ni.taped.enableOutput
        niDoing ni.taped.commit).handle fun e ↦ .raise ⟨.smuError,
          s!"{smuChannel cfg} failed to configure {formatSigned 3 p.voltageV} V: " ++
            e.message⟩ := by
    unfold configure
    simp only [bind_assoc]
    rfl
  rw [hsplit]
  refine (post_handle _).mpr ((post_bind _).mpr ((post_of_calling hsettings s).mono ?_ ?_))
  · rintro _ t ⟨old, hst, hold⟩
    refine (post_bind _).mpr ((post_niDoing_taped _ _ t).mono (fun _ u htu ↦ ?_) ?_)
    · refine (post_niDoing_taped _ _ u).mono (fun _ v huv ↦ ?_) ?_
      · exact ⟨old, hold, (hst.append htu).append huv⟩
      · rintro _ v ⟨e, huv⟩
        exact Or.inr ⟨e, old, hold, (hst.append htu).append huv⟩
    · rintro _ u ⟨e, htu⟩
      refine Or.inl ⟨_, fun c hc ↦ ?_, hst.append htu⟩
      rcases List.mem_cons.mp hc with rfl | hc
      · exact id
      · exact hold c hc
  · rintro _ t ⟨old, hst, hold⟩
    exact Or.inl ⟨old, hold, hst⟩

/-- **The `finally`** attempts the write, however it ends. -/
theorem post_teardown {s : Smu (Taped V)} (hs : s.session = true) :
    Post (teardown cfg ni.taped)
      (fun _ t ↦ ∃ new, Adds new s t ∧ Unenabled new ∧ ∃ c ∈ new, Disabling c)
      (fun _ t ↦ ∃ new, Adds new s t ∧ Unenabled new ∧ ∃ c ∈ new, Disabling c) s := by
  refine (post_bind _).mpr ((post_outputDisable cfg ni.toNidcpower hs).mono ?_ ?_)
  · rintro _ t ⟨aborted, hst⟩
    have hverify := post_of_calling (unenabled_verifyOutputDisabled ni) t
    have hadd : ∀ u new, Adds new t u → Unenabled new → ∃ all, Adds all s u ∧ Unenabled all ∧
        ∃ c ∈ all, Disabling c := by
      intro u new htu hnew
      refine ⟨_, hst.append htu, fun c hc ↦ ?_, _, List.mem_append_right new List.mem_cons_self,
        trivial⟩
      rcases List.mem_append.mp hc with hc | hc
      · exact hnew c hc
      · rcases List.mem_cons.mp hc with rfl | hc
        · exact id
        · rw [List.mem_singleton.mp hc]
          exact id
    refine (post_bind _).mpr (hverify.mono ?_ ?_)
    · rintro _ u ⟨new, htu, hnew⟩
      exact hadd u new htu hnew
    · rintro _ u ⟨new, htu, hnew⟩
      exact hadd u new htu hnew
  · rintro _ t ⟨aborted, e, hst⟩
    refine ⟨_, hst, fun c hc ↦ ?_, _, List.mem_cons_self, trivial⟩
    rcases List.mem_cons.mp hc with rfl | hc
    · exact id
    · rw [List.mem_singleton.mp hc]
      exact id

/-- The second part disables the output, however it ends. -/
theorem post_guardedSourcing {s : Smu (Taped V)} (hs : s.session = true) :
    Post (guardedSourcing cfg ni.taped p.taped)
      (fun _ t ↦ ∃ new, Adds new s t ∧ Unenabled new ∧ ∃ c ∈ new, Disabling c)
      (fun _ t ↦ ∃ new, Adds new s t ∧ Unenabled new ∧ ∃ c ∈ new, Disabling c) s := by
  have hteardown : ∀ {t : Smu (Taped V)} {old : List SmuCall}, Adds old s t → Unenabled old →
      Post (teardown cfg ni.taped)
        (fun _ u ↦ ∃ new, Adds new s u ∧ Unenabled new ∧ ∃ c ∈ new, Disabling c)
        (fun _ u ↦ ∃ new, Adds new s u ∧ Unenabled new ∧ ∃ c ∈ new, Disabling c) t := by
    intro t old hst hold
    have hcombine : ∀ u, (∃ new, Adds new t u ∧ Unenabled new ∧ ∃ c ∈ new, Disabling c) →
        ∃ new, Adds new s u ∧ Unenabled new ∧ ∃ c ∈ new, Disabling c := by
      rintro u ⟨new, htu, hnew, c, hc, hdisabling⟩
      exact ⟨new ++ old, hst.append htu, fun d hd ↦
        (List.mem_append.mp hd).elim (hnew d) (hold d), c, List.mem_append_left old hc, hdisabling⟩
    exact (post_teardown cfg ni (hst.1.1.trans hs)).mono (fun _ u ↦ hcombine u)
      fun _ u ↦ hcombine u
  refine (post_ensuring _).mpr ((post_handle _).mpr ?_)
  refine (post_of_calling (unenabled_sourcing cfg ni p) s).mono ?_ ?_
  · rintro _ t ⟨old, hst, hold⟩
    exact hteardown hst hold
  · rintro _ t ⟨old, hst, hold⟩
    exact hteardown hst hold

/-- **When the output is disabled again.** However `source_dc_voltage_point` ends: exactly if the
commit does not raise after the output was enabled. -/
theorem sourceDcVoltagePoint_disabledAgain_iff (s : Smu (Taped V)) :
    Post (sourceDcVoltagePoint cfg ni.taped p.taped)
      (fun _ t ↦ ∃ new, taped t = new ++ taped s ∧ (DisabledAgain new ↔ ¬CommitRefused new))
      (fun _ t ↦ ∃ new, taped t = new ++ taped s ∧ (DisabledAgain new ↔ ¬CommitRefused new)) s := by
  have hnone : ∀ {t : Smu (Taped V)} {new : List SmuCall}, Adds new s t → Unenabled new →
      ∃ all, taped t = all ++ taped s ∧ (DisabledAgain all ↔ ¬CommitRefused all) := by
    rintro t new ⟨-, all, htaped, rfl⟩ hnew
    exact ⟨all, htaped, hnew.disabledAgain_iff⟩
  refine (post_bind _).mpr ((post_bind _).mpr (post_get.mpr (post_ite.mpr ?_)))
  split
  · next hs =>
    refine (post_bind _).mpr ((post_of_calling (unenabled_forceOutputOffAndVerify cfg ni) s).mono
      ?_ ?_)
    · rintro safe t ⟨base, hst, hbase⟩
      refine post_ite.mpr ?_
      split
      · refine (post_configure cfg ni p t).mono ?_ ?_
        · rintro _ u ⟨old, hold, htu⟩
          have hu : u.session = true := htu.1.1.trans (hst.1.1.trans hs)
          -- what the second part leaves, whatever comes of its result
          have hrest : ∀ v, (∃ new, Adds new u v ∧ Unenabled new ∧ ∃ c ∈ new, Disabling c) →
              ∃ all, taped v = all ++ taped s ∧ (DisabledAgain all ↔ ¬CommitRefused all) := by
            rintro v ⟨after, huv, hafter, hdisabling⟩
            obtain ⟨-, all, htaped, rfl⟩ := (hst.append htu).append huv
            have hbefore : Unenabled (old ++ base) := fun c hc ↦
              (List.mem_append.mp hc).elim (hold c) (hbase c)
            exact ⟨_, htaped, disabledAgain_iff_of_committed hafter hbefore hdisabling⟩
          refine (post_bind _).mpr ((post_guardedSourcing cfg ni p hu).mono ?_ fun _ v ↦ hrest v)
          intro reading v hv
          refine post_ite.mpr ?_
          split
          · exact hrest v hv
          · exact hrest v hv
        · rintro _ u (⟨old, hold, htu⟩ | ⟨e, old, hold, htu⟩)
          · exact hnone (hst.append htu) fun c hc ↦
              (List.mem_append.mp hc).elim (hold c) (hbase c)
          · obtain ⟨-, all, htaped, rfl⟩ := hst.append htu
            exact ⟨_, htaped, disabledAgain_iff_of_refused e (old ++ base)⟩
      · exact hnone hst hbase
    · rintro _ t ⟨base, hst, hbase⟩
      exact hnone hst hbase
  · exact hnone ⟨⟨rfl, rfl, rfl⟩, [], rfl, rfl⟩ fun c hc ↦ absurd hc List.not_mem_nil

end

/-! ## A commit that is refused -/

instance : DecidablePred Enabled := fun c ↦
  match c with
  | .session (.setOutputEnabled true none) => isTrue trivial
  | .session (.setOutputEnabled true (some _)) | .session (.setOutputEnabled false _)
  | .session .open | .session .close | .session (.abort _) | .session (.getOutputEnabled _)
  | .session (.getSourcesCurrent _) | .session (.get _ _) | .session (.set _ _ _)
  | .session (.commit _) | .session (.setDcVoltage _) | .session (.setSinglePoint _)
  | .session (.setVoltageLevelRange _ _) | .session (.setCurrentLimit _ _)
  | .session (.getCurrentLimit _) | .session (.initiate _) | .session (.leave _)
  | .session (.queryInCompliance _) | .session (.measureVoltage _) | .session (.measureCurrent _)
  | .event _ _ | .openAll _ | .duringHold _ | .hold _ => isFalse id

instance : DecidablePred Disabling := fun c ↦
  match c with
  | .session (.setOutputEnabled false _) => isTrue trivial
  | .session (.setOutputEnabled true _)
  | .session .open | .session .close | .session (.abort _) | .session (.getOutputEnabled _)
  | .session (.getSourcesCurrent _) | .session (.get _ _) | .session (.set _ _ _)
  | .session (.commit _) | .session (.setDcVoltage _) | .session (.setSinglePoint _)
  | .session (.setVoltageLevelRange _ _) | .session (.setCurrentLimit _ _)
  | .session (.getCurrentLimit _) | .session (.initiate _) | .session (.leave _)
  | .session (.queryInCompliance _) | .session (.measureVoltage _) | .session (.measureCurrent _)
  | .event _ _ | .openAll _ | .duringHold _ | .hold _ => isFalse id

instance (new : List SmuCall) : Decidable (DisabledAgain new) :=
  inferInstanceAs (Decidable (Settled Enabled Disabling new))

/-- A session that is off, answers to everything, and refuses what it is told to. -/
def refusingSession (commit disableOutput : Option String) : SourcingSession ℕ where
  session calls := (.opened, calls)
  close calls := (none, calls)
  abort calls := (none, calls)
  disableOutput calls := (if calls = 0 then none else disableOutput, calls)
  outputEnabled calls := (.ok (0 < calls), calls)
  sourcesCurrent calls := (.ok false, calls)
  read _ calls := (.ok 4, calls)
  write _ _ calls := (none, calls)
  commit calls := (commit, calls)
  enableOutput calls := (none, calls + 1)
  setDcVoltage calls := (none, calls)
  setSinglePoint calls := (none, calls)
  setVoltageLevelRange _ calls := (none, calls)
  setCurrentLimit _ calls := (none, calls)
  readCurrentLimit calls := (.ok 1, calls)
  initiate calls := (none, calls)
  leave calls := (none, calls)
  queryInCompliance calls := (.ok false, calls)
  measureVoltage calls := (.ok 4, calls)
  measureCurrent calls := (.ok 0, calls)

/-- Sourcing 4 V at 1 A, with a hold that is cancelled or not. -/
def fourVolts (cancelled : Option String) : SourcePoint ℕ Unit where
  voltageV := 4
  currentLimitA := 1
  voltageRangeV := 6
  hold calls := (cancelled, calls)
  duringHold := none
  repr := formatFixed 1

/-- The commit is refused after the output was enabled, and nothing disables the output. -/
theorem not_disabledAgain_refusedCommit :
    ∃ e t, sourceDcVoltagePoint ⟨"PXI1Slot2", "0"⟩ (refusingSession (some "timeout") none).taped
        (fourVolts none).taped ⟨true, true, ⟨0, []⟩, []⟩ = .error e t ∧
      ¬DisabledAgain (taped t) := by
  obtain ⟨e, t, hrun, htest⟩ := Outcome.exists_of_thrown
    (o := sourceDcVoltagePoint ⟨"PXI1Slot2", "0"⟩ (refusingSession (some "timeout") none).taped
      (fourVolts none).taped ⟨true, true, ⟨0, []⟩, []⟩)
    (f := fun t ↦ decide (DisabledAgain (taped t))) (c := false) (by decide +kernel)
  exact ⟨e, t, hrun, of_decide_eq_false htest⟩

end Smu

end Nipxi
