import Nipxi.Collections.Dict
import Nipxi.Effect.Lens
import Nipxi.Hardware.Relay.Driver
import Nipxi.Hardware.Smu
import Nipxi.Utils.SafetyFault

/-!
# The startup safety sweep

`test_control/safety_sweep.py`: every configured SMU and every configured relay matrix is
connected, forced off, verified and disconnected, through driver objects made for the sweep. A
device that does not connect is passed over; one that connects and cannot be verified stops the
sweep with `SafetyFaultBlocked`.
-/

open Collections Effect

namespace Nipxi

/-- The devices the sweep goes through, and the libraries behind them. -/
structure SweepConfig (V W : Type) where
  /-- `smu_assignments`. -/
  smuAssignments : Dict String SmuConfig
  /-- `relay_matrix_configs`. -/
  relayMatrixConfigs : Dict String RelayConfig
  nidcpower : String → Nidcpower V
  net : String → Net W

/-- The driver objects of the sweep, by the name of the device. -/
structure Sweep (V W : Type) where
  smus : String → Smu V
  relays : String → Matrix W
  /-- The faults reported, newest first. -/
  faults : List SafetyEvent

variable {V W : Type}

/-- A new `SMU` object for a device: its trace goes on. -/
def Smu.renewed (smu : Smu V) : Smu V := { smu with session := false, connected := false }

/-- A new `NumatoRelayMatrix` object for a device: its trace goes on. -/
def Matrix.renewed (relay : Matrix W) : Matrix W :=
  { relay with sock := false, connected := false, lastKnownMask := none }

/-- Code of the sweep. -/
abbrev SweepProg (V W α : Type) := Prog Exc (Sweep V W) α

namespace Sweep

/-- The SMU object of a device. -/
def smuLens (name : String) : Lens (Sweep V W) (Smu V) where
  get s := s.smus name
  set smu s := { s with smus := Function.update s.smus name smu }
  get_set smu s := Function.update_self name smu s.smus
  set_get s := by rw [Function.update_eq_self]
  set_set smu smu' s := by
    dsimp only
    rw [Function.update_idem]

/-- The relay object of a device. -/
def relayLens (name : String) : Lens (Sweep V W) (Matrix W) where
  get s := s.relays name
  set relay s := { s with relays := Function.update s.relays name relay }
  get_set relay s := Function.update_self name relay s.relays
  set_get s := by rw [Function.update_eq_self]
  set_set relay relay' s := by
    dsimp only
    rw [Function.update_idem]

/-- Reports a fault, shows it, waits for the operator and gives up. -/
def block (fault : SafetyFault) (smuState relayState : String) : SweepProg V W Unit := do
  .modify fun s ↦ { s with faults := escalation fault smuState relayState ++ s.faults }
  .raise ⟨.other "SafetyFaultBlocked", fault.reason⟩

section

variable (cfg : SweepConfig V W)

/-- The body of the loop over the SMUs. -/
def sweepSmu (name : String) (smu : SmuConfig) : SweepProg V W Unit := do
  Prog.zoom (smuLens name) (.modify Smu.renewed)
  match ← ((Smu.connect smu (cfg.nidcpower name)).zoom (smuLens name)).attempt with
  | .error _ => pure ()
  | .ok _ =>
    Prog.ensuring
      (do
        if ← (Smu.emergencyOutputOff smu (cfg.nidcpower name) "startup safety sweep").zoom
            (smuLens name) then pure ()
        else
          block
            { reason := "startup_sweep: SMU " ++ name ++ ": output could not be verified OFF."
              sourceMethod := "emergency_output_off"
              context := "startup_sweep"
              deviceName := name
              deviceType := .SMU } "UNKNOWN" "UNKNOWN")
      (do
        let _ ← ((Smu.disconnect (cfg.nidcpower name)).zoom (smuLens name)).attempt)

/-- The body of the loop over the relay matrices. -/
def sweepRelay (name : String) (relay : RelayConfig) : SweepProg V W Unit := do
  Prog.zoom (relayLens name) (.modify Matrix.renewed)
  match ← ((connect relay (cfg.net name)).zoom (relayLens name)).attempt with
  | .error _ => pure ()
  | .ok _ =>
    Prog.ensuring
      (((openAll relay (cfg.net name)).zoom (relayLens name)).handle fun e ↦ block
        { reason := "startup_sweep: Relay " ++ name ++ ": open_all()/verify failed -- "
            ++ e.message
          sourceMethod := "open_all"
          context := "startup_sweep"
          deviceName := name
          deviceType := .RELAY } "UNKNOWN" "UNVERIFIED")
      (do
        let _ ← ((disconnect (cfg.net name)).zoom (relayLens name)).attempt)

/-- The loop over the SMUs. -/
def sweepSmus : List (String × SmuConfig) → SweepProg V W Unit
  | [] => pure ()
  | (name, smu) :: rest => do
    sweepSmu cfg name smu
    sweepSmus rest

/-- The loop over the relay matrices. -/
def sweepRelays : List (String × RelayConfig) → SweepProg V W Unit
  | [] => pure ()
  | (name, relay) :: rest => do
    sweepRelay cfg name relay
    sweepRelays rest

/-- `run_startup_safety_sweep`. -/
def runStartupSafetySweep : SweepProg V W Unit := do
  sweepSmus cfg cfg.smuAssignments.items
  sweepRelays cfg cfg.relayMatrixConfigs.items

end

end Sweep

end Nipxi
