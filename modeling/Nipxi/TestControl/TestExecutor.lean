import Mathlib.Algebra.Order.Ring.Unbundled.Rat
import Nipxi.Collections.Dict
import Nipxi.Effect.Attribution
import Nipxi.Effect.Ending
import Nipxi.Effect.Loop
import Nipxi.TestControl.BatteryTestSequence
import Nipxi.TestControl.Station
import Nipxi.Utils.Errors

/-!
# The run of `main.py`

`TestExecutor.run` with the sequence and the two cycles below it. The devices, the storage, the
clock and the token are functions over a world: each call returns or raises as it likes. The
executor passes no battery configuration, so the limits are those of the settings. What is only
logged is left out.

A skipped channel and a timed-out cycle are no exceptions: the sequence goes on to the next channel,
and the executor calls every channel of a sequence that returned completed.
`testExecutorRun_truthful_iff` says when it is right.
-/

open Effect

namespace Nipxi

/-! ## The station -/

/-- A limit, and how messages print it. -/
structure Limit where
  value : ℚ
  text : String

/-- The entries of `Settings` the run reads. -/
structure CyclerSettings where
  activeChannels : List ℤ
  zeroCurrentThresholdA : ℚ
  batVoltageMin : Limit
  batVoltageMax : Limit
  batCurrentMax : Limit
  chargeCurrentA : ℚ
  chargeVoltageV : ℚ
  chargeCutoffA : ℚ
  chargeTimeoutS : ℚ
  dischargeCurrentA : ℚ
  dischargeCutoffV : ℚ
  dischargeTimeoutS : ℚ
  stabilizationS : ℚ
  /-- `SAMPLE_RATE_HZ`, which is validated to be positive. -/
  sampleRateHz : ℚ

/-- The entry of a channel in `daq.read_all_batteries()`. -/
structure BatterySample where
  voltageV : Option ℚ
  currentA : Option ℚ

/-- A charge or a discharge. -/
inductive CyclerMode where
  | charge
  | discharge
  deriving DecidableEq

/-- `phase` of a recorded sample, and `mode` of a check. -/
def CyclerMode.text : CyclerMode → String
  | charge => "charge"
  | discharge => "discharge"

/-- What `data_collector.record` is given; `temp_c` is `None`. -/
structure CyclerRow where
  elapsedS : ℚ
  voltageV : ℚ
  currentA : ℚ
  phase : String

/-- The devices and what else the run calls. -/
structure CyclerStation (X : Type) where
  settings : CyclerSettings
  /-- `storage.run_id`, or `"unknown"`. -/
  runId : String
  /-- `daq.read_all_batteries`. -/
  readAllBatteries : X → Except Exc (Collections.Dict ℤ BatterySample) × X
  /-- The reason a checkpoint finds, if there is a token and a cancellation is requested. -/
  cancellation : X → Option String × X
  /-- `interruptible_sleep`, with the reason if a cancellation ends it. -/
  sleep : ℚ → X → Option String × X
  /-- `time.monotonic`. -/
  monotonic : X → ℚ × X
  /-- `smu.set_charge_mode` and `smu.set_discharge_mode`. -/
  setMode : CyclerMode → ℚ → ℚ → X → Option Exc × X
  outputEnable : X → Option Exc × X
  emergencyOutputOff : String → X → Except Exc Bool × X
  record : ℤ → CyclerRow → X → Option Exc × X
  /-- `_log_diagnostic`, which guards itself: the samples, the current commanded, the reference
  voltage, and the duration. -/
  logDiagnostic : CyclerMode → ℤ → List (ℚ × ℚ) → ℚ → ℚ → ℚ → X → X
  relayClose : ℤ → X → Option Exc × X
  relayOpen : ℤ → X → Option Exc × X
  emergencyStop : String → X → Option Exc × X
  safeCancelShutdown : String → X → Option Exc × X

/-- What is kept of a run. No control flow reads it. -/
inductive CyclerEvent where
  /-- The current that was asked to be zero before a relay is switched. -/
  | switchChecked (channel : ℤ) (currentA : ℚ)
  /-- The time that was compared with the timeout of a cycle. -/
  | elapsed (mode : CyclerMode) (seconds : ℚ)
  /-- `ChargeCycle.run` or `DischargeCycle.run` returned. -/
  | returned (mode : CyclerMode) (channel : ℤ) (reached : Bool)

/-- A world, the statistics of the cycle that is running, and what is kept, newest first. -/
structure Cycler (X : Type) where
  world : X
  stats : List (ℚ × ℚ)
  trace : List CyclerEvent

/-- Code of the run. -/
abbrev CyclerProg (X α : Type) := Prog Exc (Cycler X) α

variable {X : Type}

/-- Keeps an entry. -/
def keep (ev : CyclerEvent) : CyclerProg X Unit :=
  .modify fun s ↦ { s with trace := ev :: s.trace }

/-- A call without an exception. -/
def ask {α : Type} (f : X → α × X) : CyclerProg X α :=
  .query fun s ↦ ((f s.world).1, { s with world := (f s.world).2 })

/-- A call with a result. -/
def askOrRaise {α : Type} (f : X → Except Exc α × X) : CyclerProg X α := do
  match ← ask f with
  | .ok a => pure a
  | .error e => .raise e

/-- A call without a result. -/
def command (f : X → Option Exc × X) : CyclerProg X Unit := do
  match ← ask f with
  | none => pure ()
  | some e => .raise e

/-- A checkpoint or a wait. -/
def checkpoint (f : X → Option String × X) : CyclerProg X Unit := do
  match ← ask f with
  | none => pure ()
  | some reason =>
    .raise ⟨.operationCancelledError, if reason = "" then "cancellation requested" else reason⟩

namespace CyclerSettings

variable (cfg : CyclerSettings)

/-- `is_safe_to_switch_relay`. -/
def isSafeToSwitchRelay (currentA : ℚ) : Bool := decide (|currentA| ≤ cfg.zeroCurrentThresholdA)

/-- `SafetyMonitor.check` without a battery configuration and without a temperature: nothing, or the
reason. -/
def check (v i : ℚ) : Option String :=
  if cfg.batVoltageMax.value < v then
    some ("Overvoltage: " ++ formatFixed 3 v ++ " V > " ++ cfg.batVoltageMax.text ++ " V")
  else if v < cfg.batVoltageMin.value then
    some ("Undervoltage: " ++ formatFixed 3 v ++ " V < " ++ cfg.batVoltageMin.text ++ " V")
  else if cfg.batCurrentMax.value < |i| then
    some ("Overcurrent: " ++ formatFixed 3 |i| ++ " A > " ++ cfg.batCurrentMax.text ++ " A")
  else none

/-- The timeout of a cycle. -/
def timeoutS : CyclerMode → ℚ
  | .charge => cfg.chargeTimeoutS
  | .discharge => cfg.dischargeTimeoutS

/-- `channels or ACTIVE_CHANNELS`. -/
def orActive : Option (List ℤ) → List ℤ
  | none | some [] => cfg.activeChannels
  | some channels => channels

end CyclerSettings

/-! ## The two cycles -/

/-- What a charge and a discharge do differently. -/
structure CyclePlan where
  mode : CyclerMode
  currentA : ℚ
  voltageLimitV : ℚ
  /-- The end of charge, or of discharge. -/
  ended : ℚ → ℚ → Bool
  /-- The voltage `_log_diagnostic` compares with. -/
  referenceV : ℚ

section Cycles

variable (st : CyclerStation X)

/-- `_read_current`, and the reading of a sample: voltage and current. -/
def readSample (channel : ℤ) : CyclerProg X (ℚ × ℚ) := do
  let batteries ← askOrRaise st.readAllBatteries
  let sample := (batteries.get? channel).getD ⟨none, none⟩
  pure (sample.voltageV.getD 0, sample.currentA.getD 0)

namespace CyclePlan

variable (plan : CyclePlan) (channel : ℤ)

/-- The end of a round: the sample is checked and recorded, and may end the cycle. -/
def judgeSample (elapsedS v i : ℚ) : CyclerProg X (Option Bool) :=
  match st.settings.check v i with
  | some reason => .raise ⟨.safetyViolationError, "Channel " ++ toString channel ++ ": " ++ reason⟩
  | none => do
    command (st.record channel ⟨elapsedS, v, i, plan.mode.text⟩)
    if plan.ended v i then pure (some true)
    else do
      checkpoint (st.sleep (1 / st.settings.sampleRateHz))
      pure none

/-- One round of the sampling loop: the result of the cycle, if it ends here. -/
def sampleOnce (tStart : ℚ) : CyclerProg X (Option Bool) := do
  checkpoint st.cancellation
  let now ← ask st.monotonic
  keep (.elapsed plan.mode (now - tStart))
  if st.settings.timeoutS plan.mode < now - tStart then pure (some false)
  else do
    let (v, i) ← readSample st channel
    .modify fun s ↦ { s with stats := s.stats ++ [(v, i)] }
    plan.judgeSample st channel (now - tStart) v i

/-- The `finally` of a cycle. -/
def finish (startTime : ℚ) : CyclerProg X Unit := do
  let _ ← askOrRaise (st.emergencyOutputOff
    ("end of " ++ plan.mode.text ++ " cycle on channel " ++ toString channel))
  let now ← ask st.monotonic
  let s ← .get
  ask fun x ↦ ((), st.logDiagnostic plan.mode channel s.stats plan.currentA plan.referenceV
    (now - startTime) x)

/-- `ChargeCycle.run` and `DischargeCycle.run`. -/
def run (rounds : ℕ) : CyclerProg X Bool := do
  checkpoint st.cancellation
  command (st.setMode plan.mode plan.currentA plan.voltageLimitV)
  command st.outputEnable
  .modify fun s ↦ { s with stats := [] }
  let startTime ← ask st.monotonic
  Prog.ensuring (do
      checkpoint (st.sleep st.settings.stabilizationS)
      let tStart ← ask st.monotonic
      (plan.sampleOnce st channel tStart).repeatWithin rounds)
    (plan.finish st channel startTime)

end CyclePlan

/-- `ChargeCycle`: the end of charge is the taper of the current at the limit voltage. -/
def chargeCycle : CyclePlan where
  mode := .charge
  currentA := st.settings.chargeCurrentA
  voltageLimitV := st.settings.chargeVoltageV
  ended v i := decide (st.settings.chargeVoltageV ≤ v ∧ |i| ≤ st.settings.chargeCutoffA)
  referenceV := st.settings.chargeVoltageV

/-- `cutoff_v`: the target, but not below the floor. -/
def cutoffV : ℚ := max st.settings.dischargeCutoffV st.settings.batVoltageMin.value

/-- `DischargeCycle`. -/
def dischargeCycle : CyclePlan where
  mode := .discharge
  currentA := st.settings.dischargeCurrentA
  voltageLimitV := cutoffV st
  ended v _ := decide (v ≤ cutoffV st)
  referenceV := st.settings.batVoltageMin.value

/-! ## The sequence -/

/-- One of the cycles of a channel. -/
def cycle (rounds : ℕ) (plan : CyclePlan) (channel : ℤ) : CyclerProg X Unit := do
  let reached ← plan.run st channel rounds
  keep (.returned plan.mode channel reached)

/-- `is_safe_to_switch_relay(_read_current(channel))`. -/
def checkSwitch (channel : ℤ) : CyclerProg X Bool := do
  let sample ← readSample st channel
  keep (.switchChecked channel sample.2)
  pure (st.settings.isSafeToSwitchRelay sample.2)

/-- The `try` block of a channel, and whether its end is reached: a `continue` skips the `else`. -/
def testCycles (rounds : ℕ) (channel : ℤ) : CyclerProg X Bool := do
  checkpoint st.cancellation
  command (st.relayClose channel)
  cycle st rounds (chargeCycle st) channel
  if ← checkSwitch st channel then do
    cycle st rounds (dischargeCycle st) channel
    pure true
  else pure false

/-- The `except` clauses, which raise what they caught. -/
def stopAfter (e : Exc) : CyclerProg X Unit := do
  command (if e.isInstance [.operationCancelledError] then st.safeCancelShutdown e.message
    else st.emergencyStop e.message)
  .raise e

/-- One channel. -/
def testChannel (rounds : ℕ) (channel : ℤ) : CyclerProg X Unit := do
  if ← checkSwitch st channel then do
    match ← (testCycles st rounds channel).attempt with
    | .ok true => command (st.relayOpen channel)
    | .ok false => pure ()
    | .error e => stopAfter st e
  else pure ()

/-- The loop of `BatteryTestSequence.run`. -/
def testChannels (rounds : ℕ) : List ℤ → CyclerProg X Unit
  | [] => pure ()
  | channel :: channels => do
    testChannel st rounds channel
    testChannels rounds channels

/-- `BatteryTestSequence.run`. -/
def batteryTestSequence (rounds : ℕ) (channels : Option (List ℤ)) : CyclerProg X Unit :=
  testChannels st rounds (st.settings.orActive channels)

/-- The steps of the sequence at a station. -/
def sequenceSteps (rounds : ℕ) : BatteryTestSteps (Cycler X) where
  isSafeToSwitchRelay := checkSwitch st
  checkCancellation := checkpoint st.cancellation
  relayClose channel := command (st.relayClose channel)
  relayOpen channel := command (st.relayOpen channel)
  charge := cycle st rounds (chargeCycle st)
  discharge := cycle st rounds (dischargeCycle st)
  shutDown e := command (if e.isInstance [.operationCancelledError] then
    st.safeCancelShutdown e.message else st.emergencyStop e.message)

theorem testChannel_eq (rounds : ℕ) (channel : ℤ) :
    testChannel st rounds channel = (sequenceSteps st rounds).runChannel channel := by
  refine bind_congr fun safe ↦ ?_
  cases safe with
  | false => rfl
  | true =>
    -- the `except` clauses never return, so what follows them is not reached
    funext s
    have htry : (sequenceSteps st rounds).tryChannel channel = testCycles st rounds channel := rfl
    simp only [if_true, htry, stopAfter]
    change Prog.bind _ _ s = Prog.bind _ _ s
    unfold Prog.bind Prog.attempt Prog.handle
    cases testCycles st rounds channel s with
    | ok completed t => cases completed <;> rfl
    | error e t =>
      change Prog.bind ((sequenceSteps st rounds).shutDown e) _ t
        = Prog.bind (Prog.bind ((sequenceSteps st rounds).shutDown e) _) _ t
      unfold Prog.bind
      cases (sequenceSteps st rounds).shutDown e t <;> rfl
    | diverged => rfl

/-- The sequence at a station is the loop over its steps. -/
theorem batteryTestSequence_eq_sequence (rounds : ℕ) (channels : Option (List ℤ)) :
    batteryTestSequence st rounds channels
      = (sequenceSteps st rounds).run (st.settings.orActive channels) := by
  unfold batteryTestSequence BatteryTestSteps.run
  induction st.settings.orActive channels with
  | nil => rfl
  | cons channel channels ih =>
    rw [testChannels, testChannel_eq, ih]
    rfl

end Cycles

/-! ## The executor -/

/-- `ChannelResult`. -/
structure ChannelResult where
  channel : ℤ
  chargeCompleted : Bool
  dischargeCompleted : Bool
  aborted : Bool
  error : String

/-- `ChannelResult.success`. -/
def ChannelResult.success (r : ChannelResult) : Bool :=
  r.chargeCompleted && r.dischargeCompleted && !r.aborted

/-- `TestRunResult`. -/
structure TestRunResult where
  runId : String
  channelsTested : List ℤ
  channelResults : List ChannelResult
  aborted : Bool
  error : String
  stopReason : StopReason

/-- `TestRunResult.success`. -/
def TestRunResult.success (r : TestRunResult) : Bool :=
  if r.aborted || r.error != "" then false else r.channelResults.all ChannelResult.success

/-- The stop reason of the `except` clauses, of which the last three agree. -/
def abortReason (e : Exc) : StopReason :=
  if e.isInstance [.operationCancelledError] then .cancelled
  else if e.isInstance [.safetyViolationError] then .safetyViolation
  else .failed

section Executor

variable (st : CyclerStation X) (rounds : ℕ)

/-- `_run_sequence`. -/
def runSequenceOn (channels : List ℤ) : CyclerProg X (List ChannelResult) := do
  batteryTestSequence st rounds (some channels)
  pure (channels.map fun channel ↦ ⟨channel, true, true, false, ""⟩)

/-- `TestExecutor.run`. -/
def testExecutorRun (channels : Option (List ℤ)) : CyclerProg X TestRunResult := do
  match ← (runSequenceOn st rounds (st.settings.orActive channels)).attempt with
  | .ok results =>
    pure ⟨st.runId, st.settings.orActive channels, results, false, "", .completed⟩
  | .error e =>
    pure ⟨st.runId, st.settings.orActive channels, [], true, e.message, abortReason e⟩

end Executor

/-! ## What the executor does not know -/

/-- A cycle that returned, with its result. -/
def CyclerEvent.returned? : CyclerEvent → Option (CyclerMode × ℤ × Bool)
  | .returned mode channel reached => some (mode, channel, reached)
  | .switchChecked _ _ | .elapsed _ _ => none

/-- The cycles that returned, in order. -/
def returnedCycles (new : List CyclerEvent) : List (CyclerMode × ℤ × Bool) :=
  (new.filterMap CyclerEvent.returned?).reverse

/-- For every channel a charge that reached its end, and then a discharge that did. -/
def testedCycles (channels : List ℤ) : List (CyclerMode × ℤ × Bool) :=
  channels.flatMap fun channel ↦ [(.charge, channel, true), (.discharge, channel, true)]

/-- A current that is zero before a relay is switched, and a time before the timeout. -/
def CyclerEvent.Cooperates (cfg : CyclerSettings) : CyclerEvent → Prop
  | .switchChecked _ currentA => cfg.isSafeToSwitchRelay currentA = true
  | .elapsed mode seconds => ¬cfg.timeoutS mode < seconds
  | .returned _ _ _ => True

theorem returnedCycles_append (new old : List CyclerEvent) :
    returnedCycles (new ++ old) = returnedCycles old ++ returnedCycles new := by
  unfold returnedCycles
  rw [List.filterMap_append, List.reverse_append]

/-- The expected cycles returned exactly if everything cooperated, and never more of them. -/
def Matches (cfg : CyclerSettings) (expected : List (CyclerMode × ℤ × Bool))
    (new : List CyclerEvent) : Prop :=
  (returnedCycles new).length ≤ expected.length ∧
    ((∀ ev ∈ new, ev.Cooperates cfg) ↔ returnedCycles new = expected)

section Matches

variable {cfg : CyclerSettings}

theorem matches_nil : Matches cfg [] [] := ⟨le_refl _, iff_of_true (List.forall_mem_nil _) rfl⟩

/-- One part after the other. Neither can make up for the other, since it returns no more cycles
than expected. -/
theorem Matches.append {expected expected' : List (CyclerMode × ℤ × Bool)}
    {old new : List CyclerEvent} (hold : Matches cfg expected old)
    (hnew : Matches cfg expected' new) : Matches cfg (expected ++ expected') (new ++ old) := by
  have hlength := Nat.add_le_add hold.1 hnew.1
  unfold Matches
  rw [returnedCycles_append, List.length_append, List.length_append]
  refine ⟨hlength, ?_⟩
  rw [List.forall_mem_append]
  constructor
  · rintro ⟨hall, hall'⟩
    rw [hold.2.mp hall', hnew.2.mp hall]
  · intro heq
    have hsum := congrArg List.length heq
    rw [List.length_append, List.length_append] at hsum
    have hsame : (returnedCycles old).length = expected.length := by
      have := hold.1
      have := hnew.1
      omega
    obtain ⟨heq₁, heq₂⟩ := List.append_inj heq hsame
    exact ⟨hnew.2.mpr heq₂, hold.2.mpr heq₁⟩

/-- A part that ends early, since something did not cooperate. -/
theorem matches_of_short {expected : List (CyclerMode × ℤ × Bool)} {new : List CyclerEvent}
    (hshort : (returnedCycles new).length < expected.length)
    (hnot : ∃ ev ∈ new, ¬ev.Cooperates cfg) : Matches cfg expected new := by
  refine ⟨hshort.le, iff_of_false (fun hall ↦ ?_) fun heq ↦ ?_⟩
  · obtain ⟨ev, hev, hno⟩ := hnot
    exact hno (hall ev hev)
  · rw [heq] at hshort
    exact lt_irrefl _ hshort

theorem matches_switchChecked {channel : ℤ} {currentA : ℚ}
    (h : cfg.isSafeToSwitchRelay currentA = true) :
    Matches cfg [] [.switchChecked channel currentA] :=
  ⟨le_refl _, iff_of_true (List.forall_mem_singleton.mpr h) rfl⟩

end Matches

/-! ## Code that keeps nothing -/

/-- `x` keeps nothing when it returns. -/
def Plain {α : Type} (x : CyclerProg X α) : Prop :=
  ∀ s, Post x (fun _ t ↦ t.trace = s.trace) (fun _ _ ↦ True) s

namespace Plain

theorem pure {α : Type} (a : α) : Plain (Pure.pure a : CyclerProg X α) := fun _ ↦ rfl

theorem raise {α : Type} (e : Exc) : Plain (.raise e : CyclerProg X α) := fun _ ↦ trivial

theorem bind {α β : Type} {x : CyclerProg X α} {f : α → CyclerProg X β} (hx : Plain x)
    (hf : ∀ a, Plain (f a)) : Plain (x >>= f) := fun s ↦
  (post_bind f).mpr ((hx s).mono
    (fun a t ht ↦ (hf a t).mono (fun _ _ hu ↦ hu.trans ht) fun _ _ h ↦ h) fun _ _ h ↦ h)

theorem ask {α : Type} (f : X → α × X) : Plain (ask f) := fun _ ↦ rfl

theorem askOrRaise {α : Type} (f : X → Except Exc α × X) : Plain (askOrRaise f) :=
  .bind (.ask f) fun r ↦ by
    cases r with
    | ok a => exact .pure a
    | error e => exact .raise e

theorem command (f : X → Option Exc × X) : Plain (command f) :=
  .bind (.ask f) fun r ↦ by
    cases r with
    | none => exact .pure ()
    | some e => exact .raise e

theorem checkpoint (f : X → Option String × X) : Plain (checkpoint f) :=
  .bind (.ask f) fun r ↦ by
    cases r with
    | none => exact .pure ()
    | some reason => exact .raise _

theorem setStats (f : Cycler X → List (ℚ × ℚ)) :
    Plain (.modify fun s ↦ { s with stats := f s } : CyclerProg X Unit) := fun _ ↦ rfl

theorem then_added {α β : Type} {x : CyclerProg X α} {f : α → CyclerProg X β}
    {P : β → List CyclerEvent → Prop} (hx : Plain x)
    (hf : ∀ a s, Post (f a) (fun b t ↦ Added Cycler.trace (P b) s t) (fun _ _ ↦ True) s)
    (s : Cycler X) :
    Post (x >>= f) (fun b t ↦ Added Cycler.trace (P b) s t) (fun _ _ ↦ True) s := by
  refine (post_bind f).mpr ((hx s).mono (fun a t ht ↦ ?_) fun _ _ h ↦ h)
  refine (hf a t).mono (fun b u hu ↦ ?_) fun _ _ h ↦ h
  obtain ⟨new, hnew, hP⟩ := hu
  exact ⟨new, by rw [hnew, ht], hP⟩

end Plain

section Returning

variable (st : CyclerStation X)

theorem plain_readSample (channel : ℤ) : Plain (readSample st channel) :=
  .bind (.askOrRaise _) fun _ ↦ .pure _

/-! ## One cycle -/

namespace CyclePlan

variable (plan : CyclePlan) (channel : ℤ)

theorem post_judgeSample (elapsedS v i : ℚ) (s : Cycler X) :
    Post (plan.judgeSample st channel elapsedS v i)
      (fun r t ↦ t.trace = s.trace ∧ r ≠ some false) (fun _ _ ↦ True) s := by
  unfold judgeSample
  split
  · trivial
  · refine (post_bind _).mpr ((Plain.command _ s).mono (fun _ t ht ↦ post_ite.mpr ?_)
      fun _ _ h ↦ h)
    split
    · exact ⟨ht, fun h ↦ Bool.noConfusion (Option.some.inj h)⟩
    · refine (Plain.checkpoint _ t).bind fun _ u hu ↦ ?_
      exact ⟨hu.trans ht, (Option.some_ne_none false).symm⟩

/-- A round compares one time with the timeout, and ends the cycle without a result exactly if it
is later. -/
theorem post_sampleOnce (tStart : ℚ) (s : Cycler X) :
    Post (plan.sampleOnce st channel tStart)
      (fun r t ↦ ∃ seconds, t.trace = .elapsed plan.mode seconds :: s.trace ∧
        (r = some false ↔ st.settings.timeoutS plan.mode < seconds)) (fun _ _ ↦ True) s := by
  refine (Plain.checkpoint _ s).bind fun _ t ht ↦ ?_
  refine (Plain.ask _ t).bind fun now u hu ↦ ?_
  refine (post_bind _).mpr ((post_modify _).mpr (post_ite.mpr ?_))
  have htrace : u.trace = s.trace := hu.trans ht
  split
  · next hlate => exact ⟨now - tStart, congrArg _ htrace, iff_of_true rfl hlate⟩
  · next hearly =>
    refine (plain_readSample st channel _).bind fun sample v hv ↦ ?_
    refine (post_bind _).mpr ((post_modify _).mpr ?_)
    refine (plan.post_judgeSample st channel _ _ _ _).mono (fun r w hw ↦ ?_) fun _ _ h ↦ h
    refine ⟨now - tStart, ?_, iff_of_false hw.2 hearly⟩
    rw [hw.1, ← htrace]
    exact hv

theorem plain_finish (startTime : ℚ) : Plain (plan.finish st channel startTime) := by
  refine .bind (.askOrRaise _) fun _ ↦ .bind (.ask _) fun _ ↦ .bind (fun _ ↦ ?_) fun _ ↦ .ask _
  exact rfl

/-- No cycle returned, and the result is whether everything cooperated. -/
def Reached (cfg : CyclerSettings) (reached : Bool) (new : List CyclerEvent) : Prop :=
  returnedCycles new = [] ∧ (reached = true ↔ ∀ ev ∈ new, ev.Cooperates cfg)

/-- The sampling loop. The invariant is that no time was late so far. -/
theorem post_sampling (tStart : ℚ) (rounds : ℕ) (s : Cycler X) :
    Post ((plan.sampleOnce st channel tStart).repeatWithin rounds)
      (fun reached t ↦ Added Cycler.trace (Reached st.settings reached) s t)
      (fun _ _ ↦ True) s := by
  refine post_repeatWithin (I := Added Cycler.trace (Reached st.settings true) s) ?_ rounds
    ⟨[], rfl, rfl, iff_of_true rfl (List.forall_mem_nil _)⟩
  rintro t ⟨new, ht, hnone, hall⟩
  refine (plan.post_sampleOnce st channel tStart t).mono (fun r u hu ↦ ?_) fun _ _ h ↦ h
  obtain ⟨seconds, hu, hlate⟩ := hu
  have hgrown : ∀ reached : Bool,
      (reached = false ↔ st.settings.timeoutS plan.mode < seconds) →
      Added Cycler.trace (Reached st.settings reached) s u := by
    intro reached hreached
    refine ⟨.elapsed plan.mode seconds :: new, by rw [hu, ht]; rfl, hnone, ?_⟩
    rw [List.forall_mem_cons, and_iff_left (hall.mp rfl)]
    change _ ↔ ¬st.settings.timeoutS plan.mode < seconds
    rw [← hreached, Bool.not_eq_false]
  cases r with
  | none =>
    refine hgrown true (iff_of_false Bool.noConfusion fun h ↦ ?_)
    exact Option.some_ne_none false (hlate.mpr h).symm
  | some reached =>
    refine hgrown reached ?_
    rw [← hlate, Option.some_inj]

theorem post_run_of_plain (rounds : ℕ) (s : Cycler X) :
    Post (plan.run st channel rounds)
      (fun reached t ↦ Added Cycler.trace (Reached st.settings reached) s t)
      (fun _ _ ↦ True) s := by
  refine (Plain.checkpoint _).then_added (fun _ ↦ ?_) s
  refine (Plain.command _).then_added fun _ ↦ ?_
  refine (Plain.command _).then_added fun _ ↦ ?_
  refine (Plain.setStats _).then_added fun _ ↦ ?_
  refine (Plain.ask _).then_added fun startTime t ↦ ?_
  have hsampling : Post (do
        checkpoint (st.sleep st.settings.stabilizationS)
        let tStart ← ask st.monotonic
        (plan.sampleOnce st channel tStart).repeatWithin rounds)
      (fun reached u ↦ Added Cycler.trace (Reached st.settings reached) t u)
      (fun _ _ ↦ True) t := by
    refine (Plain.checkpoint _).then_added (fun _ ↦ ?_) t
    exact (Plain.ask _).then_added fun tStart u ↦ plan.post_sampling st channel tStart rounds u
  refine (post_ensuring _).mpr (hsampling.mono (fun reached u hu ↦ ?_) fun e u _ ↦ ?_)
  · refine (plan.plain_finish st channel startTime u).mono (fun _ v hv ↦ ?_) fun _ _ h ↦ h
    obtain ⟨new, hnew, hP⟩ := hu
    exact ⟨new, by rw [hv, hnew], hP⟩
  · exact .of_forall (fun _ _ ↦ trivial) fun _ _ ↦ trivial

end CyclePlan

/-! ## The channels -/

/-- When `x` returns, what it kept is as expected. -/
def Returns (expected : List (CyclerMode × ℤ × Bool)) {α : Type} (x : CyclerProg X α) : Prop :=
  ∀ s, Post x (fun _ t ↦ Added Cycler.trace (Matches st.settings expected) s t) (fun _ _ ↦ True) s

variable {st}

theorem Plain.returns {α : Type} {x : CyclerProg X α} (hx : Plain x) : Returns st [] x := fun s ↦
  (hx s).mono (fun _ _ ht ↦ ⟨[], ht, matches_nil⟩) fun _ _ h ↦ h

theorem Returns.bind {α β : Type} {expected expected' : List (CyclerMode × ℤ × Bool)}
    {x : CyclerProg X α} {f : α → CyclerProg X β} (hx : Returns st expected x)
    (hf : ∀ a, Returns st expected' (f a)) : Returns st (expected ++ expected') (x >>= f) := by
  intro s
  refine (post_bind f).mpr ((hx s).mono (fun a t ht ↦ ?_) fun _ _ h ↦ h)
  refine (hf a t).mono (fun _ u hu ↦ ?_) fun _ _ h ↦ h
  exact ht.append hu fun _ _ ↦ Matches.append

variable (st)

theorem returns_cycle (rounds : ℕ) (plan : CyclePlan) (channel : ℤ) :
    Returns st [(plan.mode, channel, true)] (cycle st rounds plan channel) := by
  intro s
  refine (post_bind _).mpr ((plan.post_run_of_plain st channel rounds s).mono ?_ fun _ _ h ↦ h)
  rintro reached t ⟨new, hnew, hnone, hreached⟩
  have hreturned : returnedCycles (.returned plan.mode channel reached :: new)
      = [(plan.mode, channel, reached)] := by
    rw [← List.singleton_append, returnedCycles_append, hnone]
    rfl
  refine ⟨.returned plan.mode channel reached :: new, congrArg _ hnew, ?_⟩
  unfold Matches
  rw [hreturned]
  refine ⟨le_refl 1, ?_⟩
  rw [List.forall_mem_cons, ← hreached, List.singleton_inj, Prod.mk.injEq, Prod.mk.injEq]
  exact ⟨fun h ↦ ⟨rfl, rfl, h.2⟩, fun h ↦ ⟨trivial, h.2.2⟩⟩

theorem post_checkSwitch (channel : ℤ) (s : Cycler X) :
    Post (checkSwitch st channel)
      (fun safe t ↦ ∃ currentA, t.trace = .switchChecked channel currentA :: s.trace ∧
        safe = st.settings.isSafeToSwitchRelay currentA) (fun _ _ ↦ True) s := by
  refine (plain_readSample st channel s).bind fun sample t ht ↦ ?_
  exact ⟨sample.2, congrArg _ ht, rfl⟩

/-- A check that decides whether the rest of a channel is run. -/
theorem returns_checkSwitch_then {α : Type} {expected : List (CyclerMode × ℤ × Bool)}
    (hexpected : expected ≠ []) (channel : ℤ) {x y : CyclerProg X α} (hx : Returns st expected x)
    (hy : Plain y) :
    Returns st expected (do if ← checkSwitch st channel then x else y) := by
  intro s
  refine (post_bind _).mpr ((post_checkSwitch st channel s).mono ?_ fun _ _ h ↦ h)
  rintro safe t ⟨currentA, ht, rfl⟩
  refine post_ite.mpr ?_
  split
  · next hsafe =>
    refine (hx t).mono (fun _ u hu ↦ ?_) fun _ _ h ↦ h
    have hchecked : Added Cycler.trace (Matches st.settings []) s t :=
      ⟨[.switchChecked channel currentA], ht, matches_switchChecked hsafe⟩
    exact hchecked.append hu fun _ _ ↦ Matches.append
  · next hunsafe =>
    refine (hy t).mono (fun _ u hu ↦ ?_) fun _ _ h ↦ h
    refine ⟨[.switchChecked channel currentA], hu.trans ht, matches_of_short ?_ ?_⟩
    · exact List.length_pos_iff.mpr hexpected
    · exact ⟨_, List.mem_cons_self, hunsafe⟩

theorem returns_testCycles (rounds : ℕ) (channel : ℤ) :
    Returns st [(.charge, channel, true), (.discharge, channel, true)]
      (testCycles st rounds channel) := by
  refine (Plain.checkpoint _).returns.bind fun _ ↦ (Plain.command _).returns.bind fun _ ↦ ?_
  refine (returns_cycle st rounds (chargeCycle st) channel).bind fun _ ↦ ?_
  refine returns_checkSwitch_then st (List.cons_ne_nil _ _) channel ?_ (.pure false)
  exact (returns_cycle st rounds (dischargeCycle st) channel).bind fun _ ↦ (Plain.pure true).returns

theorem returns_testChannel (rounds : ℕ) (channel : ℤ) :
    Returns st [(.charge, channel, true), (.discharge, channel, true)]
      (testChannel st rounds channel) := by
  refine returns_checkSwitch_then st (List.cons_ne_nil _ _) channel ?_ (.pure ())
  intro s
  refine (post_bind _).mpr (post_attempt.mpr ((returns_testCycles st rounds channel s).mono
    (fun done t ht ↦ ?_) fun e t _ ↦ ?_))
  · have hplain : ∀ {x : CyclerProg X Unit}, Plain x → Post x
        (fun _ u ↦ Added Cycler.trace (Matches st.settings
          [(.charge, channel, true), (.discharge, channel, true)]) s u) (fun _ _ ↦ True) t := by
      intro x hx
      refine (hx t).mono (fun _ u hu ↦ ?_) fun _ _ h ↦ h
      obtain ⟨new, hnew, hmatches⟩ := ht
      exact ⟨new, by rw [hu, hnew], hmatches⟩
    cases done with
    | true => exact hplain (.command _)
    | false => exact hplain (.pure ())
  · exact (post_bind _).mpr (.of_forall (fun _ _ ↦ trivial) fun _ _ ↦ trivial)

/-- **The sequence.** By induction on the channels. -/
theorem returns_testChannels (rounds : ℕ) (channels : List ℤ) :
    Returns st (testedCycles channels) (testChannels st rounds channels) := by
  induction channels with
  | nil => exact (Plain.pure ()).returns
  | cons channel channels ih => exact (returns_testChannel st rounds channel).bind fun _ ↦ ih

end Returning

/-! ## Whether a success was one -/

/-- What was kept between two states. -/
def Cycler.keptSince (s t : Cycler X) : List CyclerEvent :=
  t.trace.take (t.trace.length - s.trace.length)

theorem keptSince_of_append {s t : Cycler X} {new : List CyclerEvent}
    (h : t.trace = new ++ s.trace) : s.keptSince t = new := by
  rw [Cycler.keptSince, h, List.length_append, Nat.add_sub_cancel, List.take_left']
  rfl

/-- `success` and `COMPLETED` say that every channel was charged and then discharged to the end. -/
def Truthful (channels : List ℤ) (result : TestRunResult) (new : List CyclerEvent) : Prop :=
  (result.success = true → returnedCycles new = testedCycles channels) ∧
    (result.stopReason = .completed → returnedCycles new = testedCycles channels)

theorem abortReason_ne_completed (e : Exc) : abortReason e ≠ .completed := by
  unfold abortReason
  split
  · exact StopReason.noConfusion
  · split
    · exact StopReason.noConfusion
    · exact StopReason.noConfusion

/-- A sequence that returned is a success, whatever it did. -/
theorem success_of_returned (runId : String) (channels : List ℤ) :
    TestRunResult.success ⟨runId, channels,
      channels.map fun channel ↦ ⟨channel, true, true, false, ""⟩, false, "", .completed⟩
        = true := by
  change (channels.map _).all ChannelResult.success = true
  rw [List.all_map, List.all_eq_true]
  exact fun _ _ ↦ rfl

theorem orActive_orActive (cfg : CyclerSettings) (channels : Option (List ℤ)) :
    cfg.orActive (some (cfg.orActive channels)) = cfg.orActive channels := by
  have hsome : ∀ l, cfg.orActive (some l) = if l = [] then cfg.activeChannels else l := by
    intro l
    cases l <;> rfl
  rw [hsome]
  split
  · next hnil =>
    rcases channels with _ | _ | ⟨channel, channels⟩
    · rfl
    · rfl
    · exact absurd hnil (List.cons_ne_nil _ _)
  · rfl

/-- **When a successful run is one.** `TestExecutor.run` never raises. What it says of its channels
is true exactly if an exception ended the sequence, or every current was zero before a switch and no
cycle's time passed its timeout. -/
theorem testExecutorRun_truthful_iff (st : CyclerStation X) (rounds : ℕ)
    (channels : Option (List ℤ)) (s : Cycler X) :
    Post (testExecutorRun st rounds channels)
      (fun result t ↦ Truthful (st.settings.orActive channels) result (s.keptSince t) ↔
        (∃ e u, batteryTestSequence st rounds (some (st.settings.orActive channels)) s
          = .error e u) ∨
        ∀ ev ∈ s.keptSince t, ev.Cooperates st.settings)
      (fun _ _ ↦ False) s := by
  have hreturns : Returns st (testedCycles (st.settings.orActive channels))
      (batteryTestSequence st rounds (some (st.settings.orActive channels))) := by
    unfold batteryTestSequence
    rw [orActive_orActive]
    exact returns_testChannels st rounds _
  have hsequence := hreturns s
  refine (post_bind _).mpr (post_attempt.mpr ((post_bind _).mpr ?_))
  cases hrun : batteryTestSequence st rounds (some (st.settings.orActive channels)) s with
  | ok a t =>
    rw [post_of_ok hrun] at hsequence ⊢
    obtain ⟨new, hnew, -, hmatches⟩ := hsequence
    have hkept : s.keptSince t = new := keptSince_of_append hnew
    have hnot : ¬∃ (e : Exc) (u : Cycler X),
        (.ok a t : Outcome Exc (Cycler X) Unit) = .error e u := by
      rintro ⟨e, u, h⟩
      cases h
    change Truthful _ _ (s.keptSince t) ↔ _
    rw [hkept, or_iff_right hnot, hmatches]
    exact ⟨fun h ↦ h.1 (success_of_returned _ _), fun h ↦ ⟨fun _ ↦ h, fun _ ↦ h⟩⟩
  | error e t =>
    rw [post_of_error hrun]
    refine iff_of_true ⟨fun hsuccess ↦ ?_, fun hcompleted ↦ ?_⟩ (Or.inl ⟨e, t, rfl⟩)
    · exact absurd hsuccess Bool.false_ne_true
    · exact absurd hcompleted (abortReason_ne_completed e)
  | diverged =>
    unfold Post
    rw [hrun]
    trivial

/-! ## A channel that is skipped -/

/-- The settings of the run. -/
def cyclerSettings : CyclerSettings where
  activeChannels := [1, 2, 3, 4, 5, 6, 7, 8]
  zeroCurrentThresholdA := 1 / 100
  batVoltageMin := ⟨7 / 2, "3.5"⟩
  batVoltageMax := ⟨47 / 10, "4.7"⟩
  batCurrentMax := ⟨1, "1.0"⟩
  chargeCurrentA := 1 / 2
  chargeVoltageV := 21 / 5
  chargeCutoffA := 3 / 20
  chargeTimeoutS := 7200
  dischargeCurrentA := 1 / 2
  dischargeCutoffV := 3
  dischargeTimeoutS := 7200
  stabilizationS := 5
  sampleRateHz := 1

/-- A station where every call returns, and a current of 0.02 A is read on channel 1. -/
def leakyStation : CyclerStation Unit where
  settings := cyclerSettings
  runId := "run-1"
  readAllBatteries _ :=
    (.ok ⟨[(1, ⟨some (39 / 10), some (1 / 50)⟩)], List.nodup_singleton 1⟩, ())
  cancellation _ := (none, ())
  sleep _ _ := (none, ())
  monotonic _ := (0, ())
  setMode _ _ _ _ := (none, ())
  outputEnable _ := (none, ())
  emergencyOutputOff _ _ := (.ok true, ())
  record _ _ _ := (none, ())
  logDiagnostic _ _ _ _ _ _ _ := ()
  relayClose _ _ := (none, ())
  relayOpen _ _ := (none, ())
  emergencyStop _ _ := (none, ())
  safeCancelShutdown _ _ := (none, ())

/-- Channel 1 is not tested, and the run is a success. -/
theorem not_truthful_leakyStation :
    ¬∀ (st : CyclerStation Unit) (rounds : ℕ) (channels : Option (List ℤ)) (s : Cycler Unit),
      Post (testExecutorRun st rounds channels)
        (fun result t ↦ Truthful (st.settings.orActive channels) result (s.keptSince t))
        (fun _ _ ↦ False) s := by
  intro h
  have hrun := h leakyStation 0 (some [1]) ⟨(), [], []⟩
  have htest : (testExecutorRun leakyStation 0 (some [1]) ⟨(), [], []⟩).passes
      (fun result t ↦ result.success && (returnedCycles t.trace).isEmpty) = true := by
    decide +kernel
  obtain ⟨result, t, heq, htest⟩ := Outcome.exists_of_passes htest
  rw [post_of_ok heq] at hrun
  rw [Bool.and_eq_true, List.isEmpty_iff] at htest
  have hkept : (⟨(), [], []⟩ : Cycler Unit).keptSince t = t.trace :=
    keptSince_of_append (List.append_nil _).symm
  have htested := hrun.1 htest.1
  rw [hkept, htest.2] at htested
  exact absurd htested (by decide)

end Nipxi
