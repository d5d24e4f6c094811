import Nipxi.Hardware.SmuRows

/-!
# The models of the drivers and the audited objects

Running the code of a method with its calls answered by the methods themselves gives the programs
that the models of the drivers are about: `emergency_output_off` and `source_dc_voltage_point` are
traced here from their calls to their parts. An object that has been instrumented does the same to
the world.
-/

open Effect

namespace Nipxi.Audit

variable {R W P V : Type}

/-- A call of a method of an object that is not audited, at most so many calls deep. -/
def Driver.call (d : Driver W V) : ℕ → MethodCall V → Prog Raised W V
  | 0, _ => fun _ ↦ .diverged
  | depth + 1, call =>
    match d.methods call.name with
    | none => .raise (.exception ⟨.other "AttributeError",
        s!"'{d.className}' object has no attribute '{call.name}'"⟩)
    | some m => (m.code call.arguments).run .whole (d.call depth)

/-- Putting calls down changes nothing else. -/
theorem agree_recorded_right {call : MethodCall V} {x : Prog Raised W V}
    {y : Prog Raised (Bench W P V) V} (h : Agree (fun w s ↦ s.world = w) x y) :
    Agree (fun w s ↦ s.world = w) x (recorded call y) := by
  intro w s hws
  have hout := h w s hws
  revert hout
  cases hy : y s with
  | ok v t =>
    rw [recorded_of_ok call hy]
    cases x w with
    | ok v' w' => exact id
    | error | diverged => exact False.elim
  | error e t =>
    rw [recorded_of_error call hy]
    cases x w with
    | error e' w' => exact id
    | ok | diverged => exact False.elim
  | diverged =>
    rw [recorded_of_diverged call hy]
    exact id

theorem agree_call (a : Auditor P V) (d : Driver W V) (depth : ℕ) (call : MethodCall V) :
    Agree (fun w s ↦ s.world = w) (d.call depth call) (d.plain.invoke a depth call) := by
  induction depth generalizing call with
  | zero => exact fun _ _ _ ↦ trivial
  | succ depth ih =>
    cases hm : d.methods call.name with
    | none =>
      have hplain : d.plain.attributes call.name = none := by
        change (d.methods call.name).map Attribute.method = _
        rw [hm, Option.map_none]
      rw [invoke_of_none depth a hplain, Driver.call, hm]
      exact .raise _
    | some m =>
      have hplain : d.plain.attributes call.name = some (.method m) := by
        change (d.methods call.name).map Attribute.method = _
        rw [hm, Option.map_some]
      rw [invoke_of_method depth a hplain, Driver.call, hm]
      exact agree_recorded_right (agree_run (fun _ _ h ↦ h.symm) (fun _ _ _ _ ↦ rfl) ih _)

/-- After any calls of an audited object that has just been built, a call of it ends as `y` does on
the world it finds, and does the same to the world. -/
def DoesAs (a : Auditor P V) (d : Driver W V) (depth : ℕ) (call : MethodCall V)
    (y : Prog Raised W V) : Prop :=
  ∀ earlier deep world db connectFailed surroundings,
    Post ((instrumentHardwareInstance a.settings d.plain).session a deep earlier)
      (fun _ u ↦ (y u.world).Agree (fun w t ↦ w = t.world)
        ((instrumentHardwareInstance a.settings d.plain).invoke a depth call u))
      (fun _ _ ↦ False) (Bench.start world db connectFailed surroundings)

/-- **The audited object** does to the world what the driver does. -/
theorem doesAs_call (a : Auditor P V) (d : Driver W V) (depth : ℕ) (call : MethodCall V) :
    DoesAs a d depth call (d.call depth call) := by
  intro earlier deep world db connectFailed surroundings
  have hkept := (agree_session (a := a) (d := d) deep earlier _ _
    (kept_start world db connectFailed surroundings)).post_right
  have hraises := raises_session a (instrumentHardwareInstance a.settings d.plain) deep earlier
    (Bench.start world db connectFailed surroundings)
  refine (hkept.and hraises).mono ?_ fun _ _ h ↦ h.2
  rintro _ u ⟨⟨s, hs⟩, -⟩
  have hplain := agree_call a d depth call u.world s hs.world
  refine (hplain.comp (agree_invoke depth call s u hs)).mono ?_
  rintro w t ⟨v, hv, hkept⟩
  exact hv.symm.trans hkept.world

namespace Interface

variable {I : Interface R W V} {depth : ℕ} {c : MethodCall V} {r : R}

theorem call_of_asks (hc : I.Asks c r) :
    I.driver.call (depth + 1) c = (I.code r).run .whole (I.driver.call depth) := by
  obtain ⟨hname, d, hd, hargs⟩ := hc
  obtain ⟨d', hm, hd', hask⟩ := exists_method (I := I) r
  rw [← hname] at hm hd'
  obtain rfl := Option.some.inj (hd.symm.trans hd')
  rw [Driver.call, hm]
  dsimp only
  rw [method]
  dsimp only
  rw [hargs, Option.bind_some, hask]

theorem runsAs_send (hc : I.Asks c r) {y : Prog Exc W V}
    (h : Code.RunsAs .whole (I.driver.call depth) .exception (I.code r) y) :
    Code.RunsAs .whole (I.driver.call (depth + 1)) .exception (.send c) y := by
  refine .send ((call_of_asks hc).trans (h.trans ?_))
  funext s
  rw [Code.run_embed, Code.run_embed]

end Interface

end Nipxi.Audit

namespace Nipxi.Smu

open Audit

variable {V : Type} {cfg : SmuConfig} {lib : SmuLibrary V} {maxAttempts : ℕ} {depth : ℕ}

/-- Code of the SMU that runs as a program, on calls so many deep. -/
def SmuRunsAs {α : Type} (cfg : SmuConfig) (lib : SmuLibrary V) (maxAttempts depth : ℕ)
    (x : SmuCode V α) (y : SmuProg V α) : Prop :=
  Code.RunsAs .whole ((smuInterface cfg lib maxAttempts).driver.call depth) .exception x y

theorem smuRunsAs_send {c : MethodCall (SmuValue V)} {r : SmuRequest V}
    {y : SmuProg V (SmuValue V)} (hc : (smuInterface cfg lib maxAttempts).Asks c r)
    (h : SmuRunsAs cfg lib maxAttempts depth (r.code cfg lib maxAttempts) y) :
    SmuRunsAs cfg lib maxAttempts (depth + 1) (.send c) y :=
  Interface.runsAs_send hc h

theorem asks_self (r : SmuRequest V) :
    (smuInterface cfg lib maxAttempts).Asks ⟨r.name, ⟨r.args, []⟩⟩ r := by
  cases r with
  | _ => exact ⟨rfl, _, rfl, rfl⟩

/-- A method that only acts by itself. -/
theorem smuRunsAs_own {α β : Type} (x : SmuProg V α) (g : α → β) :
    SmuRunsAs cfg lib maxAttempts depth (own x >>= fun a ↦ pure (g a))
      (x >>= fun a ↦ pure (g a)) :=
  .bind (.embed x) fun a ↦ .pure (g a)

theorem smuRunsAs_outputDisable :
    SmuRunsAs cfg lib maxAttempts (depth + 1) (self .outputDisable)
      (Smu.outputDisable cfg lib.toNidcpower >>= fun _ ↦ pure .none) :=
  smuRunsAs_send (asks_self .outputDisable) (smuRunsAs_own _ _)

theorem smuRunsAs_verifyOutputDisabled :
    SmuRunsAs cfg lib maxAttempts (depth + 1) (self .verifyOutputDisabled)
      (Smu.verifyOutputDisabled lib.toSourcingSession >>= fun ok ↦ pure (.bool ok)) :=
  smuRunsAs_send (asks_self .verifyOutputDisabled) (smuRunsAs_own _ _)

theorem smuRunsAs_queryOutputState :
    SmuRunsAs cfg lib maxAttempts (depth + 1) (self .queryOutputState)
      (queryOutputStateResult lib >>= fun state ↦ pure (optional .bool state)) :=
  smuRunsAs_send (asks_self .queryOutputState) (smuRunsAs_own _ _)

theorem smuRunsAs_checkCurrentOutputState (context : String) :
    SmuRunsAs cfg lib maxAttempts (depth + 2) (selfNamed (.checkCurrentOutputState context) context)
      (queryOutputStateResult lib >>= fun state ↦ pure (optional .bool state)) :=
  smuRunsAs_send (r := .checkCurrentOutputState context) ⟨rfl, _, rfl, rfl⟩
    smuRunsAs_queryOutputState

/-! ## The emergency shutdown -/

/-- What an attempt does after its write went through. -/
def verifyAttempt (ni : Nidcpower V)
    (next : OutputVerificationResult → SmuProg V (Bool × OutputVerificationResult)) :
    SmuProg V (Bool × OutputVerificationResult) := do
  match ← checkOutputDisabledDetailed ni with
  | .disabled => pure (true, .disabled)
  | .stillEnabled => next .stillEnabled
  | .verificationCommFailure => next .verificationCommFailure

theorem outputOffAttempts_succ (ni : Nidcpower V) (attempts : ℕ)
    (lastResult : OutputVerificationResult) :
    outputOffAttempts cfg ni (attempts + 1) lastResult =
      (Smu.outputDisable cfg ni).catching
        (fun _ ↦ outputOffAttempts cfg ni attempts .verificationCommFailure)
        fun _ ↦ verifyAttempt ni (outputOffAttempts cfg ni attempts) := by
  unfold Prog.catching
  rw [outputOffAttempts]
  refine congrArg _ (funext fun r ↦ ?_)
  cases r <;> rfl

theorem smuRunsAs_outputOffAttemptsCode (attempts : ℕ) (lastResult : OutputVerificationResult) :
    SmuRunsAs cfg lib maxAttempts (depth + 1) (outputOffAttemptsCode lib attempts lastResult)
      (outputOffAttempts cfg lib.toNidcpower attempts lastResult) := by
  induction attempts generalizing lastResult with
  | zero => exact .pure _
  | succ attempts ih =>
    rw [outputOffAttempts_succ]
    refine runsAs_catching_discard smuRunsAs_outputDisable (fun _ ↦ ih _) (.bind (.embed _) ?_)
    intro result
    cases result with
    | disabled => exact .pure _
    | stillEnabled | verificationCommFailure => exact ih _

/-- **The emergency shutdown**, called, does what its model does. -/
theorem smuRunsAs_emergencyOutputOff (reason : String) (onEvent : OnEvent V) :
    SmuRunsAs cfg lib maxAttempts (depth + 2) (self (.emergencyOutputOff reason onEvent))
      (emergencyOutputOffReporting cfg lib.toNidcpower onEvent maxAttempts reason >>= fun verified ↦
        pure (.bool verified)) := by
  refine smuRunsAs_send (asks_self _) ?_
  have hmodel : (emergencyOutputOffReporting cfg lib.toNidcpower onEvent maxAttempts reason >>=
      fun verified ↦ pure (.bool verified)) =
      beginEmergency lib reason onEvent >>= fun _ ↦
        outputOffAttempts cfg lib.toNidcpower maxAttempts .verificationCommFailure >>= fun r ↦
          emit onEvent (verificationMessage maxAttempts r.1 r.2) >>= fun _ ↦
            (pure (.bool r.1) : SmuProg V (SmuValue V)) := by
    simp only [emergencyOutputOffReporting, beginEmergency, bind_assoc, pure_bind]
  rw [hmodel]
  refine .bind (.embed _) fun _ ↦ .bind (smuRunsAs_outputOffAttemptsCode _ _) fun r ↦ ?_
  exact .bind (.embed _) fun _ ↦ .pure _

/-! ## Sourcing a point -/

theorem queryOutputStateResult_bind {α : Type} (k : SmuProg V α) :
    (queryOutputStateResult lib >>= fun _ ↦ k) =
      queryOutputState lib.toSourcingSession >>= fun _ ↦ k := by
  unfold queryOutputStateResult queryOutputState
  rw [bind_assoc, bind_assoc]
  refine congrArg _ (funext fun m ↦ ?_)
  cases m.session with
  | false => rfl
  | true =>
    change (niCall lib.outputEnabled >>= _) >>= _ = (niCall lib.outputEnabled >>= _) >>= _
    rw [bind_assoc, bind_assoc]
    refine congrArg _ (funext fun r ↦ ?_)
    cases r <;> rfl

theorem forceOutputOffAndVerify_bind (ni : SourcingSession V) :
    (forceOutputOffAndVerify cfg ni >>= fun ok ↦ (pure (.bool ok) : SmuProg V (SmuValue V))) =
      queryOutputState ni >>= fun _ ↦
        (Smu.outputDisable cfg ni.toNidcpower).catching (fun _ ↦ pure (.bool false)) fun _ ↦
          Smu.verifyOutputDisabled ni >>= fun ok ↦ pure (.bool ok) := by
  unfold forceOutputOffAndVerify Prog.catching
  rw [bind_assoc]
  refine congrArg _ (funext fun _ ↦ ?_)
  rw [bind_assoc]
  refine congrArg _ (funext fun r ↦ ?_)
  cases r <;> rfl

theorem smuRunsAs_forceOutputOffAndVerifyCode (context : String) :
    SmuRunsAs cfg lib maxAttempts (depth + 2) (forceOutputOffAndVerifyCode context)
      (forceOutputOffAndVerify cfg lib.toSourcingSession >>= fun ok ↦ pure (.bool ok)) := by
  rw [forceOutputOffAndVerify_bind, ← queryOutputStateResult_bind]
  have hquery : ∀ k : SmuProg V (SmuValue V), (queryOutputStateResult lib >>= fun _ ↦ k) =
      (queryOutputStateResult lib >>= fun state ↦
        (pure (optional .bool state) : SmuProg V (SmuValue V))) >>= fun _ ↦ k := by
    intro k
    simp only [bind_assoc, pure_bind]
  rw [hquery]
  refine .bind (smuRunsAs_checkCurrentOutputState _) fun _ ↦ ?_
  exact runsAs_catching_discard smuRunsAs_outputDisable (fun _ ↦ .pure _)
    smuRunsAs_verifyOutputDisabled

theorem smuRunsAs_forceOutputOffAndVerify (context : String) :
    SmuRunsAs cfg lib maxAttempts (depth + 3)
      (selfNamed (.forceOutputOffAndVerify context) context)
      (forceOutputOffAndVerify cfg lib.toSourcingSession >>= fun ok ↦ pure (.bool ok)) :=
  smuRunsAs_send (r := .forceOutputOffAndVerify context) ⟨rfl, _, rfl, rfl⟩
    (smuRunsAs_forceOutputOffAndVerifyCode context)

/-- The second `try`, whose `finally` calls two methods. -/
theorem smuRunsAs_guardedSourcingCode (p : SourcePoint V String) :
    SmuRunsAs cfg lib maxAttempts (depth + 1) (guardedSourcingCode cfg lib p)
      (guardedSourcing cfg lib.toSourcingSession p) := by
  have hmodel : guardedSourcing cfg lib.toSourcingSession p =
      ((sourcing cfg lib.toSourcingSession p).handle fun e ↦
        .raise (wrapSourcing cfg p e)).attempt >>= fun r ↦
          (Smu.outputDisable cfg lib.toNidcpower >>= fun _ ↦ pure (.none : SmuValue V)) >>= fun _ ↦
            (Smu.verifyOutputDisabled lib.toSourcingSession >>= fun ok ↦
              pure (.bool ok : SmuValue V)) >>= fun _ ↦ .ofExcept r := by
    rw [guardedSourcing, Prog.ensuring_eq]
    simp only [teardown, bind_assoc, pure_bind]
  rw [hmodel]
  refine .attempt_bind (.embed _) fun r ↦ ?_
  refine .bind smuRunsAs_outputDisable fun _ ↦ .bind smuRunsAs_verifyOutputDisabled fun _ ↦ ?_
  cases r with
  | ok reading => exact .pure reading
  | error e => exact .raise e

/-- **Sourcing a point**, called, does what its model does. -/
theorem smuRunsAs_sourceDcVoltagePoint (voltageV currentLimitA voltageRangeV holdS : ℚ)
    (duringHold : Option (V → Except Exc String × V)) (token : Option ℕ) :
    SmuRunsAs cfg lib maxAttempts (depth + 4)
      (self (.sourceDcVoltagePoint voltageV currentLimitA voltageRangeV holdS duringHold token))
      (sourceDcVoltagePoint cfg lib.toSourcingSession
          (sourcePoint lib voltageV currentLimitA voltageRangeV holdS duringHold token) >>=
        fun reading ↦ pure (readingValue reading)) := by
  refine smuRunsAs_send (asks_self _) ?_
  generalize hp : sourcePoint lib voltageV currentLimitA voltageRangeV holdS duringHold token = p
  change SmuRunsAs _ _ _ _ (sourceDcVoltagePointCode cfg lib _) _
  rw [hp]
  unfold sourceDcVoltagePoint prepareSourcing
  rw [bind_assoc, bind_assoc]
  refine .bind (.embed _) fun m ↦ ?_
  cases m.session with
  | false => exact .raise (notConnected cfg)
  | true =>
    change SmuRunsAs cfg lib maxAttempts (depth + 3)
      (selfNamed (.forceOutputOffAndVerify "source_dc_voltage_point pre-check")
        "source_dc_voltage_point pre-check" >>= _)
      ((forceOutputOffAndVerify cfg lib.toSourcingSession >>= _) >>= _)
    rw [bind_assoc]
    refine .map_bind (smuRunsAs_forceOutputOffAndVerify _) fun ok ↦ ?_
    cases ok with
    | false => exact .raise _
    | true =>
      refine .bind (.embed _) fun _ ↦ ?_
      rw [bind_assoc]
      refine .bind (smuRunsAs_guardedSourcingCode p) fun reading ↦ ?_
      cases reading.inCompliance with
      | false => exact .pure _
      | true => exact .raise _

/-! ## The audited object -/

theorem doesAs_of_smuRunsAs {P : Type} (a : Auditor P (SmuValue V)) {r : SmuRequest V}
    {y : SmuProg V (SmuValue V)} (h : SmuRunsAs cfg lib maxAttempts depth (self r) y) :
    DoesAs a (smuInterface cfg lib maxAttempts).driver depth ⟨r.name, ⟨r.args, []⟩⟩
      (y.mapError .exception) := by
  have hcall : y.mapError .exception =
      (smuInterface cfg lib maxAttempts).driver.call depth ⟨r.name, ⟨r.args, []⟩⟩ := by
    rw [← Code.RunsAs.run_whole h, self, Code.run_send]
  rw [hcall]
  exact doesAs_call a _ depth _

/-- `emergency_output_off` and `source_dc_voltage_point`, called on the audited object, do what
their models do: the first needs calls two deep, the second four. -/
theorem agree_calls {P : Type} (a : Auditor P (SmuValue V)) :
    (∀ reason onEvent, DoesAs a (smuInterface cfg lib maxAttempts).driver (depth + 2)
      ⟨"emergency_output_off", ⟨[.text reason, optional .callback onEvent], []⟩⟩
      ((emergencyOutputOffReporting cfg lib.toNidcpower onEvent maxAttempts reason >>= fun ok ↦
        (pure (.bool ok) : SmuProg V (SmuValue V))).mapError .exception)) ∧
    ∀ voltageV currentLimitA voltageRangeV holdS duringHold token,
      DoesAs a (smuInterface cfg lib maxAttempts).driver (depth + 4)
        ⟨"source_dc_voltage_point", ⟨[.number voltageV, .number currentLimitA,
          .number voltageRangeV, .number holdS, optional .duringHold duringHold,
          optional .token token], []⟩⟩
        ((sourceDcVoltagePoint cfg lib.toSourcingSession
            (sourcePoint lib voltageV currentLimitA voltageRangeV holdS duringHold token) >>=
          fun reading ↦ (pure (readingValue reading) : SmuProg V (SmuValue V))).mapError
            .exception) :=
  ⟨fun reason onEvent ↦ doesAs_of_smuRunsAs a (smuRunsAs_emergencyOutputOff reason onEvent),
    fun _ _ _ _ _ _ ↦ doesAs_of_smuRunsAs a (smuRunsAs_sourceDcVoltagePoint _ _ _ _ _ _)⟩

end Nipxi.Smu
