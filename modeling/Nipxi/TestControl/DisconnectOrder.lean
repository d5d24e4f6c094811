import Nipxi.Effect.Attribution
import Nipxi.Effect.Ending
import Nipxi.Effect.Laws
import Nipxi.TestControl.HardwareManager
import Nipxi.Transition.Trace

/-!
# The order of `disconnect_all`

`HardwareManager.disconnect_all` step by step, with what its SMU step calls in other modules: the
provider of the run id, the record of the fault, the screen that waits for the operator, and the
acknowledgement. Each of these may raise, and none is guarded.

The steps are a parameter (`TeardownSteps`). The manager is one instance, where reporting a fault
never raises (`disconnectAll_eq`); the other is a hall in which every step may end as it likes and
leaves an entry behind. There `isolatesFirst_iff` says when the relays are opened before anyone is
waited for: only if the SMU step has no fault to report.
-/

open Effect Transition

namespace Nipxi

/-! ## The steps -/

/-- What `disconnect_all` calls. -/
structure TeardownSteps (σ : Type) where
  connected : Device → σ → Bool
  /-- The devices of the last step, without the SMU or with it. -/
  devices : Bool → List Device
  smuName : String
  relayName : String
  /-- `_smu.emergency_output_off("normal shutdown")`. -/
  smuOutputOff : Prog Exc σ Bool
  /-- `_run_id_provider()`. -/
  runId : Prog Exc σ (Option String)
  /-- `report_safety_fault`, which returns the id of the fault. -/
  report : SafetyFault → Option String → Prog Exc σ String
  /-- `display_safety_fault_screen`, which waits for the operator. -/
  display : String → String → String → Prog Exc σ Unit
  /-- `acknowledge_safety_fault`. -/
  acknowledge : String → Option String → Prog Exc σ Unit
  relayOpenAll : Prog Exc σ Unit
  /-- `_smu.zero_output_setpoint_best_effort("normal shutdown")`. -/
  zeroSetpoint : Prog Exc σ Unit
  disconnect : Device → Prog Exc σ Unit

namespace TeardownSteps

variable {σ : Type} (steps : TeardownSteps σ)

/-- The escalation of a fault. -/
def escalate (fault : SafetyFault) (smuState relayState : String) : Prog Exc σ Unit := do
  let runId ← steps.runId
  let faultId ← steps.report fault runId
  steps.display smuState relayState fault.reason
  let runId ← steps.runId
  steps.acknowledge faultId runId

/-- The fault of an output that is not verified off. -/
def smuFault : SafetyFault where
  reason := "SMU output could not be verified OFF during post-workflow shutdown after "
    ++ "retries."
  sourceMethod := "emergency_output_off"
  context := "post_workflow_sweep"
  deviceName := steps.smuName
  deviceType := .SMU

/-- The fault of relays that do not open. -/
def relayFault (e : Exc) : SafetyFault where
  reason := "Relay " ++ steps.relayName ++ ": open_all() failed during post-workflow " ++
    "shutdown -- " ++ e.message
  sourceMethod := "open_all"
  context := "post_workflow_sweep"
  deviceName := steps.relayName
  deviceType := .RELAY

/-- Step 1: `smu_output_verified_safe`. -/
def shutdownSmu : Prog Exc σ Bool := do
  let s ← .get
  if steps.connected .smu s then
    if ← steps.smuOutputOff then pure true
    else do
      steps.escalate steps.smuFault "UNKNOWN" "UNKNOWN"
      pure false
  else pure true

/-- Step 2. -/
def shutdownRelay : Prog Exc σ Unit := do
  let s ← .get
  if steps.connected .relay s then
    steps.relayOpenAll.handle fun e ↦ steps.escalate (steps.relayFault e) "UNKNOWN" "UNVERIFIED"
  else pure ()

/-- Step 2b. -/
def zeroSmuSetpoint : Prog Exc σ Unit := do
  let s ← .get
  if steps.connected .smu s then
    let _ ← steps.zeroSetpoint.attempt
  else pure ()

/-- Step 3: an exception of one device does not keep the others connected. -/
def disconnectEach : List Device → Prog Exc σ Unit
  | [] => pure ()
  | dev :: rest => do
    let _ ← Prog.attempt (do
      let s ← .get
      if steps.connected dev s then steps.disconnect dev else pure ())
    disconnectEach rest

/-- What follows step 1. -/
def finish (smuOutputVerifiedSafe : Bool) : Prog Exc σ Unit := do
  steps.shutdownRelay
  steps.zeroSmuSetpoint
  steps.disconnectEach (steps.devices smuOutputVerifiedSafe)

/-- `disconnect_all`. -/
def disconnectAll : Prog Exc σ Unit := do
  let smuOutputVerifiedSafe ← steps.shutdownSmu
  steps.finish smuOutputVerifiedSafe

end TeardownSteps

/-! ## The manager -/

section

variable {V W D : Type} (rack : Rack V W D)

/-- Adds to the faults of a manager. -/
def Manager.addFault (event : SafetyEvent) : ManagerProg V W D Unit :=
  .modify fun m ↦ { m with faults := event :: m.faults }

/-- The steps of a manager, whose reports never raise. -/
def Rack.teardownSteps : TeardownSteps (Manager V W D) where
  connected dev m := m.isConnected dev
  devices smuOutputVerifiedSafe := List.filter (Manager.hasDevice rack)
    ([.relay, .dmm] ++ (if smuOutputVerifiedSafe then [.smu] else []) ++ [.daq, .ntcDaq])
  smuName := Smu.name rack.smu
  relayName := rack.relay.name
  smuOutputOff := Manager.smuOutputOff rack "normal shutdown"
  runId := pure none
  report fault _ := do
    Manager.addFault (.raised fault)
    pure ""
  display smuState relayState reason := Manager.addFault (.shown smuState relayState reason)
  acknowledge _ _ := Manager.addFault .acknowledged
  relayOpenAll := Manager.relayOpenAll rack
  zeroSetpoint := do
    let _ ← (Smu.applyZeroSetpoint rack.nidcpower).zoom Manager.smuLens
    pure ()
  disconnect := Manager.disconnectDevice rack

theorem disconnectEach_eq (devices : List Device) :
    Manager.disconnectConnected rack devices = (rack.teardownSteps).disconnectEach devices := by
  induction devices with
  | nil => rfl
  | cons dev devices ih =>
    refine congrArg (_ >>= ·) (funext fun _ ↦ ?_)
    exact ih

theorem shutdownSmu_eq : Manager.shutdownSmu rack = (rack.teardownSteps).shutdownSmu := by
  refine congrArg (Prog.get >>= ·) (funext fun m ↦ ?_)
  refine congrArg (ite _ · _) (congrArg (Manager.smuOutputOff rack _ >>= ·) (funext fun safe ↦ ?_))
  cases safe with
  | true => rfl
  | false => rfl

theorem zeroSmuSetpoint_eq :
    Manager.zeroSmuSetpoint rack = (rack.teardownSteps).zeroSmuSetpoint := by
  refine congrArg (Prog.get >>= ·) (funext fun m ↦ congrArg (ite _ · _) ?_)
  exact (Prog.attempt_discard _ () _).symm

/-- **The manager's teardown is one of these.** -/
theorem disconnectAll_eq : Manager.disconnectAll rack = (rack.teardownSteps).disconnectAll := by
  unfold Manager.disconnectAll TeardownSteps.disconnectAll
  rw [shutdownSmu_eq]
  refine congrArg (_ >>= ·) (funext fun safe ↦ ?_)
  rw [zeroSmuSetpoint_eq, disconnectEach_eq]
  rfl

end

/-! ## A hall in which everything may raise -/

/-- An entry of the trace. -/
inductive TeardownEvent where
  | outputOff (verified : Bool)
  | runId (raised : Option Exc)
  | reported (fault : SafetyFault) (raised : Option Exc)
  /-- The operator was waited for. -/
  | waited (raised : Option Exc)
  | acknowledged (raised : Option Exc)
  | openAll (raised : Option Exc)
  | zeroed (raised : Option Exc)
  | disconnected (dev : Device) (raised : Option Exc)

/-- The devices and what is called about them. -/
structure Hall (X : Type) where
  devices : Bool → List Device
  smuName : String
  relayName : String
  emergencyOutputOff : X → Bool × X
  runId : X → Except Exc (Option String) × X
  report : SafetyFault → Option String → X → Except Exc String × X
  display : String → String → String → X → Option Exc × X
  acknowledge : String → Option String → X → Option Exc × X
  /-- `open_all`, and whether the relay counts as connected after it. -/
  openAll : X → (Option Exc × Bool) × X
  zeroSetpoint : X → Option Exc × X
  disconnect : Device → X → Option Exc × X

/-- A hall, the devices that are connected, and what was done, newest first. -/
structure HallState (X : Type) where
  world : X
  connected : Device → Bool
  trace : List TeardownEvent

section Hall

variable {X : Type}

/-- A call that returns or raises, and is kept. -/
def hallCall {α : Type} (f : X → Except Exc α × X) (event : Option Exc → TeardownEvent) :
    Prog Exc (HallState X) α := fun s ↦
  match (f s.world).1 with
  | .ok a => .ok a ⟨(f s.world).2, s.connected, event none :: s.trace⟩
  | .error e => .error e ⟨(f s.world).2, s.connected, event (some e) :: s.trace⟩

/-- The answer of a call without a result. -/
def hallAnswer (f : X → Option Exc × X) (x : X) : Except Exc Unit × X :=
  (match (f x).1 with
    | none => .ok ()
    | some e => .error e, (f x).2)

/-- Sets whether a device counts as connected. -/
def markConnected (dev : Device) (value : Bool) : Prog Exc (HallState X) Unit :=
  .modify fun s ↦ { s with connected := Function.update s.connected dev value }

/-- The steps in a hall. -/
def Hall.teardownSteps (hall : Hall X) : TeardownSteps (HallState X) where
  connected dev s := s.connected dev
  devices := hall.devices
  smuName := hall.smuName
  relayName := hall.relayName
  smuOutputOff := fun s ↦ .ok (hall.emergencyOutputOff s.world).1
    ⟨(hall.emergencyOutputOff s.world).2, s.connected,
      .outputOff (hall.emergencyOutputOff s.world).1 :: s.trace⟩
  runId := hallCall hall.runId .runId
  report fault runId := hallCall (hall.report fault runId) (.reported fault)
  display smuState relayState reason :=
    hallCall (hallAnswer (hall.display smuState relayState reason)) .waited
  acknowledge faultId runId :=
    hallCall (hallAnswer (hall.acknowledge faultId runId)) .acknowledged
  relayOpenAll := do
    let s ← .get
    markConnected .relay (hall.openAll s.world).1.2
    hallCall (hallAnswer fun x ↦ ((hall.openAll x).1.1, (hall.openAll x).2)) .openAll
  zeroSetpoint := hallCall (hallAnswer hall.zeroSetpoint) .zeroed
  disconnect dev := do
    hallCall (hallAnswer (hall.disconnect dev)) (.disconnected dev)
    markConnected dev false

/-! ## Isolation before waiting -/

/-- The operator was waited for. -/
def TeardownEvent.IsWait : TeardownEvent → Prop
  | waited _ => True
  | _ => False

/-- The relays were asked to open. -/
def TeardownEvent.IsOpenAll : TeardownEvent → Prop
  | openAll _ => True
  | _ => False

/-- The relays were asked to open, and nobody was waited for before. -/
def IsolatesFirst (new : List TeardownEvent) : Prop :=
  (∃ ev ∈ new, ev.IsOpenAll) ∧ Preceded TeardownEvent.IsWait TeardownEvent.IsOpenAll new

/-- Entries with `P` are added. -/
abbrev AddsEvents (P : List TeardownEvent → Prop) : HallState X → HallState X → Prop :=
  Added HallState.trace P

instance : IsPreorder (HallState X) (AddsEvents fun _ ↦ True) where
  refl _ := ⟨[], rfl, trivial⟩
  trans _ _ _ h h' := h.append h' fun _ _ _ _ ↦ trivial

theorem ends_hallCall {α : Type} (f : X → Except Exc α × X) (event : Option Exc → TeardownEvent) :
    Ends (AddsEvents fun _ ↦ True) (hallCall f event) := by
  intro s
  unfold hallCall
  cases (f s.world).1 with
  | ok a => exact ⟨_, rfl, [event none], rfl, trivial⟩
  | error e => exact ⟨_, rfl, [event (some e)], rfl, trivial⟩

theorem ends_markConnected (dev : Device) (value : Bool) :
    Ends (AddsEvents fun _ ↦ True) (markConnected dev value : Prog Exc (HallState X) Unit) :=
  fun _ ↦ ⟨_, rfl, [], rfl, trivial⟩

variable (hall : Hall X)

theorem ends_escalate (fault : SafetyFault) (smuState relayState : String) :
    Ends (AddsEvents fun _ ↦ True)
      (hall.teardownSteps.escalate fault smuState relayState) :=
  .bind (ends_hallCall _ _) fun _ ↦ .bind (ends_hallCall _ _) fun _ ↦
    .bind (ends_hallCall _ _) fun _ ↦ .bind (ends_hallCall _ _) fun _ ↦ ends_hallCall _ _

theorem ends_relayOpenAll : Ends (AddsEvents fun _ ↦ True) hall.teardownSteps.relayOpenAll :=
  .bind .get fun _ ↦ .bind (ends_markConnected _ _) fun _ ↦ ends_hallCall _ _

theorem ends_afterRelay (safe : Bool) :
    Ends (AddsEvents fun _ ↦ True) (do
      hall.teardownSteps.zeroSmuSetpoint
      hall.teardownSteps.disconnectEach (hall.teardownSteps.devices safe)) := by
  have hdevices : ∀ devices,
      Ends (AddsEvents fun _ ↦ True) (hall.teardownSteps.disconnectEach devices) := by
    intro devices
    induction devices with
    | nil => exact .pure _
    | cons dev devices ih =>
      refine .bind (.attempt (.bind .get fun _ ↦ .ite ?_ (.pure _))) fun _ ↦ ih
      exact .bind (ends_hallCall _ _) fun _ ↦ ends_markConnected _ _
  refine .bind (.bind .get fun _ ↦ .ite ?_ (.pure _)) fun _ ↦ hdevices _
  exact .bind (.attempt (ends_hallCall _ _)) fun _ ↦ .pure _

theorem ends_finish (safe : Bool) :
    Ends (AddsEvents fun _ ↦ True) (hall.teardownSteps.finish safe) := by
  refine .bind (.bind .get fun _ ↦ .ite ?_ (.pure _)) fun _ ↦ ends_afterRelay hall safe
  exact .handle (ends_relayOpenAll hall) fun _ ↦ ends_escalate hall _ _ _

/-- Step 1 where there is nothing to report. -/
theorem post_shutdownSmu_of_verified {s : HallState X}
    (h : s.connected .smu = false ∨ (hall.emergencyOutputOff s.world).1 = true) :
    Post hall.teardownSteps.shutdownSmu
      (fun _ t ↦ t.connected = s.connected ∧ AddsEvents (fun new ↦ ∀ ev ∈ new, ¬ev.IsWait) s t)
      (fun _ _ ↦ False) s := by
  refine (post_bind _).mpr (post_get.mpr (post_ite.mpr ?_))
  split
  · next hconnected =>
    have hverified : (hall.emergencyOutputOff s.world).1 = true :=
      h.resolve_left fun hno ↦ Bool.false_ne_true (hno.symm.trans hconnected)
    refine (post_bind _).mpr ((post_of_ok (x := hall.teardownSteps.smuOutputOff) rfl).mpr ?_)
    rw [hverified]
    refine ⟨rfl, [.outputOff true], rfl, fun ev hev ↦ ?_⟩
    rw [List.mem_singleton.mp hev]
    exact id
  · exact ⟨rfl, [], rfl, fun ev hev ↦ absurd hev List.not_mem_nil⟩

/-- Where nothing went before, step 2 isolates first. -/
theorem post_finish_of_connected {s : HallState X} (hconnected : s.connected .relay = true)
    (safe : Bool) :
    Post (hall.teardownSteps.finish safe)
      (fun _ t ↦ AddsEvents (fun new ↦ ∃ after raised, new = after ++ [.openAll raised]) s t)
      (fun _ t ↦ AddsEvents (fun new ↦ ∃ after raised, new = after ++ [.openAll raised]) s t)
      s := by
  have hafter : ∀ {t u : HallState X} {raised : Option Exc},
      t.trace = .openAll raised :: s.trace → AddsEvents (fun _ ↦ True) t u →
      AddsEvents (fun new ↦ ∃ after raised, new = after ++ [.openAll raised]) s u := by
    rintro t u raised ht ⟨after, hu, -⟩
    refine ⟨after ++ [.openAll raised], ?_, after, raised, rfl⟩
    rw [hu, ht, List.append_assoc]
    rfl
  -- what follows the relays, however it goes
  have hrest : ∀ {t : HallState X} {raised : Option Exc}, t.trace = .openAll raised :: s.trace →
      Post (do hall.teardownSteps.zeroSmuSetpoint
               hall.teardownSteps.disconnectEach (hall.teardownSteps.devices safe))
        (fun _ u ↦ AddsEvents (fun new ↦ ∃ after raised, new = after ++ [.openAll raised]) s u)
        (fun _ u ↦ AddsEvents (fun new ↦ ∃ after raised, new = after ++ [.openAll raised]) s u)
        t := by
    intro t raised ht
    exact ((ends_afterRelay hall safe).within t).mono (fun _ _ h ↦ hafter ht h)
      fun _ _ h ↦ hafter ht h
  have hopen : Post hall.teardownSteps.relayOpenAll
      (fun _ t ↦ t.trace = .openAll none :: s.trace)
      (fun e t ↦ t.trace = .openAll (some e) :: s.trace) s := by
    refine (post_bind _).mpr (post_get.mpr ((post_bind _).mpr ((post_modify _).mpr ?_)))
    unfold Post hallCall hallAnswer
    cases h : (hall.openAll s.world).1.1 with
    | none => rfl
    | some e => rfl
  refine (post_bind _).mpr ((post_bind _).mpr (post_get.mpr (post_ite.mpr ?_)))
  rw [if_pos (show hall.teardownSteps.connected .relay s = true from hconnected)]
  refine (post_handle _).mpr (hopen.mono (fun _ t ht ↦ hrest ht) fun e t ht ↦ ?_)
  refine ((ends_escalate hall _ _ _).within t).mono (fun _ u hu ↦ ?_) fun _ u hu ↦ hafter ht hu
  obtain ⟨after, hu, -⟩ := hu
  refine ((ends_afterRelay hall safe).within u).mono (fun _ v hv ↦ ?_) fun _ v hv ↦ ?_
  · exact hafter ht (trans_of (AddsEvents fun _ ↦ True) ⟨after, hu, trivial⟩ hv)
  · exact hafter ht (trans_of (AddsEvents fun _ ↦ True) ⟨after, hu, trivial⟩ hv)

theorem post_hallCall {α : Type} (f : X → Except Exc α × X) (event : Option Exc → TeardownEvent)
    (s : HallState X) :
    Post (hallCall f event) (fun _ t ↦ t.trace = event none :: s.trace)
      (fun e t ↦ t.trace = event (some e) :: s.trace) s := by
  unfold Post hallCall
  cases (f s.world).1 with
  | ok a => rfl
  | error e => rfl

/-- The trace cannot become that of an isolation before waiting. -/
def Spoiled (new : List TeardownEvent) : Prop :=
  ¬Preceded TeardownEvent.IsWait TeardownEvent.IsOpenAll new

/-- Step 1 where a fault is reported: an exception before the operator is waited for leaves the
relays unasked, and the waiting comes before them. -/
theorem post_shutdownSmu_of_failed {s : HallState X} (hconnected : s.connected .smu = true)
    (hfailed : (hall.emergencyOutputOff s.world).1 = false) :
    Post hall.teardownSteps.shutdownSmu (fun _ t ↦ AddsEvents Spoiled s t)
      (fun _ t ↦ AddsEvents (fun new ↦ (∀ ev ∈ new, ¬ev.IsOpenAll) ∨ Spoiled new) s t) s := by
  refine (post_bind _).mpr (post_get.mpr (post_ite.mpr ?_))
  rw [if_pos (show hall.teardownSteps.connected .smu s = true from hconnected)]
  refine (post_bind _).mpr ((post_of_ok (x := hall.teardownSteps.smuOutputOff) rfl).mpr ?_)
  rw [hfailed]
  refine (post_bind _).mpr ((post_bind _).mpr ((post_hallCall _ _ _).mono ?_ ?_))
  · intro runId t ht
    refine (post_bind _).mpr ((post_hallCall _ _ t).mono ?_ ?_)
    · intro faultId u hu
      -- the operator is waited for, whether the screen returns or raises
      have hwaited : ∀ {v w : HallState X} {raised : Option Exc},
          v.trace = .waited raised :: u.trace → AddsEvents (fun _ ↦ True) v w →
          AddsEvents Spoiled s w := by
        rintro v w raised hv ⟨after, hw, -⟩
        refine ⟨after ++ [.waited raised, .reported hall.teardownSteps.smuFault none, .runId none,
          .outputOff false], ?_, ?_⟩
        · rw [hw, hv, hu, ht, List.append_assoc]
          rfl
        · intro hpreceded
          obtain ⟨ev, hev, hopen⟩ := hpreceded.of_append.1 trivial
          simp only [List.mem_cons, List.not_mem_nil, or_false] at hev
          rcases hev with rfl | rfl | rfl <;> exact hopen
      refine (post_bind _).mpr ((post_hallCall _ _ u).mono ?_ ?_)
      · intro _ v hv
        have hends : Ends (AddsEvents fun _ ↦ True) (do
            let runId ← hall.teardownSteps.runId
            hall.teardownSteps.acknowledge faultId runId) :=
          .bind (ends_hallCall _ _) fun _ ↦ ends_hallCall _ _
        refine (hends.within v).mono (fun _ w hw ↦ ?_) fun _ w hw ↦ ?_
        · exact hwaited hv hw
        · exact Added.mono (hwaited hv hw) fun _ h ↦ Or.inr h
      · intro e v hv
        exact Added.mono (hwaited hv (refl_of (AddsEvents fun _ ↦ True) v)) fun _ h ↦ Or.inr h
    · intro e u hu
      refine ⟨[.reported hall.teardownSteps.smuFault (some e), .runId none, .outputOff false], ?_,
        Or.inl fun ev hev ↦ ?_⟩
      · rw [hu, ht]
        rfl
      · simp only [List.mem_cons, List.not_mem_nil, or_false] at hev
        rcases hev with rfl | rfl | rfl <;> exact id
  · intro e t ht
    refine ⟨[.runId (some e), .outputOff false], ht, Or.inl fun ev hev ↦ ?_⟩
    simp only [List.mem_cons, List.not_mem_nil, or_false] at hev
    rcases hev with rfl | rfl <;> exact id

theorem ends_disconnectAll :
    Ends (AddsEvents fun _ ↦ True) hall.teardownSteps.disconnectAll := by
  refine .bind (.bind .get fun _ ↦ .ite (.bind (fun s ↦ ?_) fun _ ↦ .ite (.pure _) ?_) (.pure _))
    fun safe ↦ ends_finish hall safe
  · exact ⟨_, rfl, [_], rfl, trivial⟩
  · exact .bind (ends_escalate hall _ _ _) fun _ ↦ .pure _

theorem isolatesFirst_of_openAll {after before : List TeardownEvent} {raised : Option Exc}
    (h : ∀ ev ∈ before, ¬ev.IsWait) : IsolatesFirst (after ++ (.openAll raised :: before)) := by
  have hmem : ∃ ev ∈ TeardownEvent.openAll raised :: before, ev.IsOpenAll :=
    ⟨_, List.mem_cons_self, trivial⟩
  refine ⟨?_, Preceded.append ⟨fun h ↦ h.elim, preceded_of_forall_not h⟩ hmem⟩
  obtain ⟨ev, hev, hopen⟩ := hmem
  exact ⟨ev, List.mem_append_right after hev, hopen⟩

/-- **When the relays are opened first.** With the relay matrix connected, `disconnect_all` asks it
to open before it waits for anyone exactly if there is no SMU connected or its output is verified
off: where it is not, the fault is reported and shown first. -/
theorem isolatesFirst_iff (s : HallState X) (hrelay : s.connected .relay = true) :
    ∃ t new, (hall.teardownSteps.disconnectAll s).last = some t ∧ t.trace = new ++ s.trace ∧
      (IsolatesFirst new ↔
        s.connected .smu = false ∨ (hall.emergencyOutputOff s.world).1 = true) := by
  obtain ⟨t, hlast, -⟩ := ends_disconnectAll hall s
  refine ⟨t, ?_⟩
  suffices h : AddsEvents (fun new ↦ IsolatesFirst new ↔
      s.connected .smu = false ∨ (hall.emergencyOutputOff s.world).1 = true) s t by
    obtain ⟨new, hnew, hiff⟩ := h
    exact ⟨new, hlast, hnew, hiff⟩
  refine of_post_of_last ?_ hlast
  -- a quiet SMU asks for no wait, so none comes before `open_all`
  by_cases hquiet : s.connected .smu = false ∨ (hall.emergencyOutputOff s.world).1 = true
  · have hgood : ∀ {u v : HallState X},
        AddsEvents (fun new ↦ ∀ ev ∈ new, ¬ev.IsWait) s u →
        AddsEvents (fun new ↦ ∃ after raised, new = after ++ [.openAll raised]) u v →
        AddsEvents (fun new ↦ IsolatesFirst new ↔
          s.connected .smu = false ∨ (hall.emergencyOutputOff s.world).1 = true) s v := by
      intro u v hsu huv
      refine hsu.append huv ?_
      rintro before _ hbefore ⟨after, raised, rfl⟩
      rw [List.append_assoc]
      exact iff_of_true (isolatesFirst_of_openAll hbefore) hquiet
    refine (post_bind _).mpr ((post_shutdownSmu_of_verified hall hquiet).mono ?_
      fun _ _ h ↦ h.elim)
    rintro safe u ⟨hsame, hsu⟩
    have hu : u.connected .relay = true := by rw [hsame, hrelay]
    exact (post_finish_of_connected hall hu safe).mono (fun _ v huv ↦ hgood hsu huv)
      fun _ v huv ↦ hgood hsu huv
  · have hbad : ∀ {new : List TeardownEvent}, (∀ ev ∈ new, ¬ev.IsOpenAll) ∨ Spoiled new →
        (IsolatesFirst new ↔
          s.connected .smu = false ∨ (hall.emergencyOutputOff s.world).1 = true) := by
      rintro new hnew
      refine iff_of_false (fun hfirst ↦ ?_) hquiet
      rcases hnew with hnone | hspoiled
      · obtain ⟨ev, hev, hopen⟩ := hfirst.1
        exact hnone ev hev hopen
      · exact hspoiled hfirst.2
    rw [not_or, Bool.not_eq_false, Bool.not_eq_true] at hquiet
    refine (post_bind _).mpr ((post_shutdownSmu_of_failed hall hquiet.1 hquiet.2).mono ?_ ?_)
    · intro safe u hsu
      have hlater : ∀ {v : HallState X}, AddsEvents (fun _ ↦ True) u v →
          AddsEvents (fun new ↦ IsolatesFirst new ↔
            s.connected .smu = false ∨ (hall.emergencyOutputOff s.world).1 = true) s v := by
        intro v huv
        refine hsu.append huv fun old new hspoiled _ ↦ hbad (Or.inr fun hpreceded ↦ ?_)
        exact hspoiled hpreceded.of_append
      exact ((ends_finish hall safe).within u).mono (fun _ v ↦ hlater) fun _ v ↦ hlater
    · intro e u hsu
      exact hsu.mono fun _ ↦ hbad

/-- A hall whose SMU cannot be verified off, and where nothing else goes wrong. -/
def stuckHall : Hall Unit where
  devices _ := []
  smuName := "SMU"
  relayName := "Relay"
  emergencyOutputOff _ := (false, ())
  runId _ := (.ok none, ())
  report _ _ _ := (.ok "fault-1", ())
  display _ _ _ _ := (none, ())
  acknowledge _ _ _ := (none, ())
  openAll _ := ((none, true), ())
  zeroSetpoint _ := (none, ())
  disconnect _ _ := (none, ())

/-- Everything connected, nothing done yet. -/
def hallState : HallState Unit := ⟨(), fun _ ↦ true, []⟩

theorem isolatesFirst_iff_stuckHall : hallState.connected .relay = true ∧
    ∃ t new, (stuckHall.teardownSteps.disconnectAll hallState).last = some t ∧
      t.trace = new ++ hallState.trace ∧ (IsolatesFirst new ↔
        hallState.connected .smu = false ∨
          (stuckHall.emergencyOutputOff hallState.world).1 = true) :=
  ⟨rfl, isolatesFirst_iff stuckHall hallState rfl⟩

/-- The operator is waited for while the batteries are still connected. -/
theorem not_isolatesFirst_stuckHall : ¬∀ (hall : Hall Unit) (s : HallState Unit),
    s.connected .relay = true →
    ∃ t new, (hall.teardownSteps.disconnectAll s).last = some t ∧ t.trace = new ++ s.trace ∧
      IsolatesFirst new := by
  intro h
  obtain ⟨t, new, hlast, htrace, -, hpreceded⟩ := h stuckHall hallState rfl
  have hrun : (stuckHall.teardownSteps.disconnectAll hallState).last.map HallState.trace =
      some [.zeroed none, .openAll none, .acknowledged none, .runId none, .waited none,
        .reported stuckHall.teardownSteps.smuFault none, .runId none, .outputOff false] := rfl
  have ht : hallState.trace = [] := rfl
  rw [hlast, Option.map_some, htrace, ht, List.append_nil] at hrun
  rw [Option.some.inj hrun] at hpreceded
  -- nothing before the waiting opens the relays
  obtain ⟨ev, hev, hopen⟩ := hpreceded.2.2.2.2.1 trivial
  simp only [List.mem_cons, List.not_mem_nil, or_false] at hev
  rcases hev with rfl | rfl | rfl <;> exact hopen

end Hall

end Nipxi
