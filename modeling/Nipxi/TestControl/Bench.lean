import Nipxi.Hardware.Relay.Interlock
import Nipxi.TestControl.HardwareManager
import Nipxi.TestControl.SafetySweep
import Nipxi.Transition.System

/-!
# The bench over whole runs

One process: the startup sweep, the manager's `connect_all` and `disconnect_all` in any mode, its
exit nets, and everything the workflows do to its relay in between, in any order and with any
outcomes. A run of `benchCalls` keeps every call with the states around it.
-/

open Effect Transition

namespace Nipxi

/-- The devices of the process: those of the manager and those of the sweep. -/
structure Bench (V W D : Type) where
  manager : Manager V W D
  sweep : Sweep V W

/-- What can be called. -/
inductive BenchCall where
  | connectAll (mode : SystemMode)
  | disconnectAll
  | atexitRelayShutdown
  | atexitSmuShutdown
  | relay (call : RelayCall)
  | runStartupSafetySweep

variable {V W D : Type}

namespace Bench

/-- The manager's part. -/
def managerLens : Lens (Bench V W D) (Manager V W D) where
  get b := b.manager
  set manager b := { b with manager := manager }
  get_set _ _ := rfl
  set_get _ := rfl
  set_set _ _ _ := rfl

/-- The sweep's part. -/
def sweepLens : Lens (Bench V W D) (Sweep V W) where
  get b := b.sweep
  set sweep b := { b with sweep := sweep }
  get_set _ _ := rfl
  set_get _ := rfl
  set_set _ _ _ := rfl

end Bench

section

variable (rack : Rack V W D) (cfg : SweepConfig V W)

/-- A call on the manager's devices, or `none` for the sweep. -/
def BenchCall.onManager : BenchCall → Option (ManagerProg V W D Unit)
  | .connectAll mode => some (Manager.connectAll rack mode)
  | .disconnectAll => some (Manager.disconnectAll rack)
  | .atexitRelayShutdown => some (Manager.atexitRelayShutdown rack)
  | .atexitSmuShutdown => some (Manager.atexitSmuShutdown rack)
  | .relay call => some ((call.run rack.relay rack.net).zoom Manager.relayLens)
  | .runStartupSafetySweep => none

/-- Running a call. -/
def BenchCall.run (call : BenchCall) : Prog Exc (Bench V W D) Unit :=
  match call.onManager rack with
  | some x => x.zoom Bench.managerLens
  | none => (Sweep.runStartupSafetySweep cfg).zoom Bench.sweepLens

/-- A call, whether it returned, and the states around it. -/
structure BenchStep (V W D : Type) where
  call : BenchCall
  returned : Bool
  before : Bench V W D
  after : Bench V W D

/-- The call ends as the step says. -/
def BenchStep.Ends (step : BenchStep V W D) : Prop :=
  if step.returned then step.call.run rack cfg step.before = .ok () step.after
  else ∃ e, step.call.run rack cfg step.before = .error e step.after

/-- A new process: nothing has happened on any device. -/
def NewBench (b : Bench V W D) : Prop :=
  b.manager.smu.trace = [] ∧ b.manager.smu.connected = false ∧ b.manager.relay.trace = [] ∧
    b.manager.relay.connected = false ∧ b.manager.faults = [] ∧
    (∀ name, (b.sweep.smus name).trace = []) ∧ ∀ name, (b.sweep.relays name).trace = []

/-- The bench, call after call. -/
def benchCalls : System (Bench V W D) (BenchStep V W D) where
  init := NewBench
  step s step t := step.before = s ∧ step.after = t ∧ step.Ends rack cfg

variable {rack cfg}

theorem ends_of_run {steps : List (BenchStep V W D)} {s : Bench V W D}
    (h : Run (benchCalls rack cfg) steps s) : ∀ step ∈ steps, step.Ends rack cfg := by
  refine h.induction (I := fun steps _ ↦ ∀ step ∈ steps, step.Ends rack cfg) ?_ ?_
  · exact fun _ _ ↦ List.forall_mem_nil _
  · rintro steps s step t - ih ⟨-, -, hends⟩
    exact List.forall_mem_cons.mpr ⟨hends, ih⟩

/-- What every call keeps, holds at the end of every run. -/
theorem kept_of_run {I : Bench V W D → Prop} (hinit : ∀ b, NewBench b → I b)
    (hcall : ∀ call : BenchCall, Within (Kept I) (call.run rack cfg))
    {steps : List (BenchStep V W D)} {s : Bench V W D} (h : Run (benchCalls rack cfg) steps s) :
    I s := by
  refine h.keeps hinit fun s step t hs hstep ↦ ?_
  obtain ⟨rfl, rfl, hends⟩ := hstep
  have hpost := within_kept_iff.mp (hcall step.call) step.before hs
  unfold BenchStep.Ends at hends
  split at hends
  · exact (post_of_ok hends).mp hpost
  · obtain ⟨e, hrun⟩ := hends
    exact (post_of_error hrun).mp hpost

end

/-! ## A bench to run -/

/-- A PMU that takes every command, and reads its output as `enabled`. -/
def scriptedNi (enabled : Bool) : Nidcpower Unit where
  session _ := (.opened, ())
  close _ := (none, ())
  abort _ := (none, ())
  disableOutput _ := (none, ())
  outputEnabled _ := (.ok enabled, ())
  sourcesCurrent _ := (.ok true, ())
  read _ _ := (.ok 0, ())
  write _ _ _ := (none, ())
  commit _ := (none, ())

/-- Such a PMU, a relay module as in `Bank`, and a DAQ that connects. -/
def scriptedRack (enabled : Bool) : Rack Unit BankWorld Unit where
  smu := ⟨"PXI1Slot2", "0"⟩
  nidcpower := scriptedNi enabled
  relay := numatoConfig
  net := bankNet
  daq := ⟨fun _ ↦ (none, ()), fun _ ↦ ()⟩
  dmm := none
  ntcDaq := .none

/-- A sweep without devices. -/
def emptySweep : SweepConfig Unit BankWorld where
  smuAssignments := .empty
  relayMatrixConfigs := .empty
  nidcpower _ := scriptedNi false
  net _ := bankNet

/-- A new process whose relay is the given module. -/
def newBench (relay : Matrix BankWorld) : Bench Unit BankWorld Unit where
  manager := {
    smu := ⟨false, false, (), []⟩
    relay := relay
    daq := ⟨false, ()⟩
    dmm := ⟨false, ()⟩
    ntcDaq := ⟨false, ()⟩
    hardwareStatus := .empty
    faults := [] }
  sweep := ⟨fun _ ↦ ⟨false, false, (), []⟩, fun _ ↦ relay, []⟩

theorem newBench_newBench {relay : Matrix BankWorld} (htrace : relay.trace = [])
    (hconnected : relay.connected = false) : NewBench (newBench relay) :=
  ⟨rfl, rfl, htrace, hconnected, rfl, fun _ ↦ rfl, fun _ ↦ htrace⟩

end Nipxi
