import Nipxi.Collections.Dict
import Nipxi.Config.SystemMode
import Nipxi.Effect.Lens
import Nipxi.Hardware.Relay.Driver
import Nipxi.Hardware.Smu
import Nipxi.Utils.SafetyFault

/-!
# The hardware manager

`test_control/hardware_manager.py`: what connecting and disconnecting all devices does, in the
strict and in the lenient mode, and the two nets registered for the exit of the process. Every
driver keeps its own part of the state, which `connect_all` reaches through a lens; of the DAQs
and the DMM only the connection is modelled.

The proofs about the manager look at one device at a time. What runs on another device leaves it
alone (`SameSmu`, `SameRelay`), so that the only steps left are those of the device itself.
-/

open Collections Effect

namespace Nipxi

/-! ## Instruments -/

/-- The library behind a DAQ or a DMM: connecting, with the exception it raises, and closing,
which lets none through. -/
structure InstrumentLibrary (D : Type) where
  connect : D → Option Exc × D
  close : D → D

/-- A `DAQ` or `DMM` object. -/
structure Instrument (D : Type) where
  connected : Bool
  world : D

variable {V W D : Type}

/-- `_ntc_daq`: absent, the same object as `_daq`, or a DAQ of its own. -/
inductive NtcDaq (D : Type) where
  | none
  | shared
  | own (library : InstrumentLibrary D)

/-- Its library, where it is a DAQ of its own. -/
def NtcDaq.ownLibrary : NtcDaq D → Option (InstrumentLibrary D)
  | .own library => some library
  | .none | .shared => Option.none

/-- What a manager is constructed with, and the libraries behind its devices. -/
structure Rack (V W D : Type) where
  smu : SmuConfig
  nidcpower : Nidcpower V
  relay : RelayConfig
  net : Net W
  daq : InstrumentLibrary D
  /-- `none` where there is no DMM. -/
  dmm : Option (InstrumentLibrary D)
  ntcDaq : NtcDaq D

/-- An entry of `hardware_status`. -/
structure DeviceStatus where
  connected : Bool
  error : Option String

/-- A `HardwareManager` with its devices. -/
structure Manager (V W D : Type) where
  smu : Smu V
  relay : Matrix W
  daq : Instrument D
  dmm : Instrument D
  ntcDaq : Instrument D
  hardwareStatus : Dict String DeviceStatus
  /-- The faults reported, newest first. -/
  faults : List SafetyEvent

/-- The devices of a manager. -/
inductive Device where
  | daq
  | ntcDaq
  | smu
  | dmm
  | relay
  deriving DecidableEq

/-- Code of the manager. -/
abbrev ManagerProg (V W D α : Type) := Prog Exc (Manager V W D) α

namespace Instrument

/-- `connect` of a DAQ or a DMM. -/
def connect (library : InstrumentLibrary D) : Prog Exc (Instrument D) Unit := do
  let failure ← Prog.query fun i ↦
    ((library.connect i.world).1, { i with world := (library.connect i.world).2 })
  match failure with
  | some e => .raise e
  | none => .modify fun i ↦ { i with connected := true }

/-- `disconnect` of a DAQ or a DMM. -/
def disconnect (library : InstrumentLibrary D) : Prog Exc (Instrument D) Unit :=
  .modify fun i ↦ ⟨false, library.close i.world⟩

end Instrument

namespace Manager

/-! ## The devices as parts of the state -/

/-- `_smu`. -/
def smuLens : Lens (Manager V W D) (Smu V) where
  get m := m.smu
  set smu m := { m with smu := smu }
  get_set _ _ := rfl
  set_get _ := rfl
  set_set _ _ _ := rfl

/-- `_relay`. -/
def relayLens : Lens (Manager V W D) (Matrix W) where
  get m := m.relay
  set relay m := { m with relay := relay }
  get_set _ _ := rfl
  set_get _ := rfl
  set_set _ _ _ := rfl

/-- `_daq`. -/
def daqLens : Lens (Manager V W D) (Instrument D) where
  get m := m.daq
  set daq m := { m with daq := daq }
  get_set _ _ := rfl
  set_get _ := rfl
  set_set _ _ _ := rfl

/-- `_dmm`. -/
def dmmLens : Lens (Manager V W D) (Instrument D) where
  get m := m.dmm
  set dmm m := { m with dmm := dmm }
  get_set _ _ := rfl
  set_get _ := rfl
  set_set _ _ _ := rfl

/-- `_ntc_daq`, where it is a device of its own. -/
def ntcDaqLens : Lens (Manager V W D) (Instrument D) where
  get m := m.ntcDaq
  set ntcDaq m := { m with ntcDaq := ntcDaq }
  get_set _ _ := rfl
  set_get _ := rfl
  set_set _ _ _ := rfl

/-- Runs on an instrument, where there is one. -/
def onInstrument (l : Lens (Manager V W D) (Instrument D)) (library : Option (InstrumentLibrary D))
    (x : InstrumentLibrary D → Prog Exc (Instrument D) Unit) : ManagerProg V W D Unit :=
  match library with
  | some library => (x library).zoom l
  | none => pure ()

section

variable (rack : Rack V W D)

/-- `connect` of a device, nothing where the manager does not have it. -/
def connectDevice : Device → ManagerProg V W D Unit
  | .daq => (Instrument.connect rack.daq).zoom daqLens
  | .ntcDaq => onInstrument ntcDaqLens rack.ntcDaq.ownLibrary Instrument.connect
  | .smu => (Smu.connect rack.smu rack.nidcpower).zoom smuLens
  | .dmm => onInstrument dmmLens rack.dmm Instrument.connect
  | .relay => (Nipxi.connect rack.relay rack.net).zoom relayLens

/-- `disconnect` of a device. -/
def disconnectDevice : Device → ManagerProg V W D Unit
  | .daq => (Instrument.disconnect rack.daq).zoom daqLens
  | .ntcDaq => onInstrument ntcDaqLens rack.ntcDaq.ownLibrary Instrument.disconnect
  | .smu => (Smu.disconnect rack.nidcpower).zoom smuLens
  | .dmm => onInstrument dmmLens rack.dmm Instrument.disconnect
  | .relay => (Nipxi.disconnect rack.net).zoom relayLens

/-- Whether the manager has the device as an object of its own. -/
def hasDevice : Device → Bool
  | .ntcDaq => rack.ntcDaq.ownLibrary.isSome
  | .dmm => rack.dmm.isSome
  | .daq | .smu | .relay => true

/-- `connected` of a device. -/
def isConnected (m : Manager V W D) : Device → Bool
  | .daq => m.daq.connected
  | .ntcDaq => m.ntcDaq.connected
  | .smu => m.smu.connected
  | .dmm => m.dmm.connected
  | .relay => m.relay.connected

/-- `try: ... except Exception: ...` for one device after the other. -/
def bestEffort (x : Device → ManagerProg V W D Unit) : List Device → ManagerProg V W D Unit
  | [] => pure ()
  | dev :: rest => do
    let _ ← (x dev).attempt
    bestEffort x rest

/-- Each of the devices is disconnected. -/
def disconnectEach (devices : List Device) : ManagerProg V W D Unit :=
  bestEffort (disconnectDevice rack) devices

/-- Each of the devices that is connected is disconnected. -/
def disconnectConnected (devices : List Device) : ManagerProg V W D Unit :=
  bestEffort (fun dev ↦ do
    let m ← .get
    if m.isConnected dev then disconnectDevice rack dev else pure ()) devices

/-- `_smu.emergency_output_off`. -/
def smuOutputOff (reason : String) : ManagerProg V W D Bool :=
  (Smu.emergencyOutputOff rack.smu rack.nidcpower reason).zoom smuLens

/-- `_relay.open_all`. -/
def relayOpenAll : ManagerProg V W D Unit := (openAll rack.relay rack.net).zoom relayLens

/-- Reports a fault, shows it and waits for the operator. -/
def escalate (fault : SafetyFault) (smuState relayState : String) : ManagerProg V W D Unit :=
  .modify fun m ↦ { m with faults := escalation fault smuState relayState ++ m.faults }

/-! ## Connecting -/

/-- The `except` clause of `_connect_all_strict`, with the devices connected so far. -/
def guarded (connected : List Device) (x : ManagerProg V W D Unit) : ManagerProg V W D Unit :=
  x.handle fun e ↦ do
    disconnectEach rack connected.reverse
    .raise ⟨.hardwareInitError, "Hardware initialization failed: " ++ e.message⟩

/-- The PMU startup check of `_connect_all_strict`. -/
def strictSmuCheck : ManagerProg V W D Unit := do
  if ← smuOutputOff rack "startup safety check" then pure ()
  else .raise ⟨.hardwareInitError,
    "PMU startup safety check failed: output could not be verified OFF."⟩

/-- `_connect_all_strict`. -/
def connectAllStrict : ManagerProg V W D Unit := do
  let present := List.filter (hasDevice rack)
  guarded rack [] (connectDevice rack .daq)
  guarded rack [.daq] (connectDevice rack .ntcDaq)
  guarded rack (present [.daq, .ntcDaq]) (connectDevice rack .smu)
  guarded rack (present [.daq, .ntcDaq, .smu]) (strictSmuCheck rack)
  guarded rack (present [.daq, .ntcDaq, .smu]) (connectDevice rack .dmm)
  guarded rack (present [.daq, .ntcDaq, .smu, .dmm]) (connectDevice rack .relay)
  guarded rack (present [.daq, .ntcDaq, .smu, .dmm, .relay]) (relayOpenAll rack)

/-- Sets an entry of `hardware_status`. -/
def setStatus (label : String) (status : DeviceStatus) : ManagerProg V W D Unit :=
  .modify fun m ↦ { m with hardwareStatus := m.hardwareStatus.insert label status }

/-- `_try_connect`. -/
def tryConnect (dev : Device) (label : String) : ManagerProg V W D Unit :=
  if hasDevice rack dev then do
    match ← (connectDevice rack dev).attempt with
    | .ok _ => setStatus label ⟨true, none⟩
    | .error e => setStatus label ⟨false, some e.message⟩
  else pure ()

/-- The devices a failed lenient startup goes through. A shared DAQ comes twice, and is no longer
connected the second time. -/
def lenientDevices : List Device :=
  match rack.ntcDaq with
  | .none => List.filter (hasDevice rack) [.daq, .smu, .dmm, .relay]
  | .shared => List.filter (hasDevice rack) [.daq, .daq, .smu, .dmm, .relay]
  | .own _ => List.filter (hasDevice rack) [.daq, .ntcDaq, .smu, .dmm, .relay]

/-- The PMU startup check of `_connect_all_lenient`. -/
def lenientSmuCheck : ManagerProg V W D Unit := do
  let m ← .get
  if m.smu.connected then
    if ← smuOutputOff rack "startup safety check" then pure ()
    else
      disconnectConnected rack (lenientDevices rack)
      setStatus "SMU" ⟨false, some "connected but startup output-off/verify failed"⟩
      .raise ⟨.hardwareInitError, "PMU startup safety check failed."⟩
  else pure ()

/-- The relay startup check of `_connect_all_lenient`. -/
def lenientRelayCheck : ManagerProg V W D Unit := do
  let m ← .get
  if m.relay.connected then
    (relayOpenAll rack).handle fun e ↦ do
      disconnectConnected rack (lenientDevices rack)
      setStatus "Relay"
        ⟨false, some ("connected but startup force-off/verify failed: " ++ e.message)⟩
      .raise ⟨.hardwareInitError, "Startup safety check failed: " ++ e.message⟩
  else pure ()

/-- `_connect_all_lenient`. -/
def connectAllLenient : ManagerProg V W D Unit := do
  .modify fun m ↦ { m with hardwareStatus := .empty }
  tryConnect rack .daq "DAQ"
  tryConnect rack .ntcDaq "NTC_DAQ"
  tryConnect rack .smu "SMU"
  tryConnect rack .dmm "DMM"
  tryConnect rack .relay "Relay"
  lenientSmuCheck rack
  lenientRelayCheck rack

/-- `connect_all`. -/
def connectAll (mode : SystemMode) : ManagerProg V W D Unit :=
  if mode.strictHardware then connectAllStrict rack else connectAllLenient rack

/-! ## Disconnecting -/

/-- Step 1 of `disconnect_all`: `smu_output_verified_safe`. -/
def shutdownSmu : ManagerProg V W D Bool := do
  let m ← .get
  if m.smu.connected then
    if ← smuOutputOff rack "normal shutdown" then pure true
    else
      escalate
        { reason := "SMU output could not be verified OFF during post-workflow shutdown after "
            ++ "retries."
          sourceMethod := "emergency_output_off"
          context := "post_workflow_sweep"
          deviceName := Smu.name rack.smu
          deviceType := .SMU } "UNKNOWN" "UNKNOWN"
      pure false
  else pure true

/-- Step 2 of `disconnect_all`. -/
def shutdownRelay : ManagerProg V W D Unit := do
  let m ← .get
  if m.relay.connected then
    (relayOpenAll rack).handle fun e ↦ escalate
      { reason := "Relay " ++ rack.relay.name ++ ": open_all() failed during post-workflow "
          ++ "shutdown -- " ++ e.message
        sourceMethod := "open_all"
        context := "post_workflow_sweep"
        deviceName := rack.relay.name
        deviceType := .RELAY } "UNKNOWN" "UNVERIFIED"
  else pure ()

/-- Step 2b of `disconnect_all`. -/
def zeroSmuSetpoint : ManagerProg V W D Unit := do
  let m ← .get
  if m.smu.connected then
    let _ ← ((Smu.applyZeroSetpoint rack.nidcpower).zoom smuLens).attempt
  else pure ()

/-- `disconnect_all`. -/
def disconnectAll : ManagerProg V W D Unit := do
  let smuOutputVerifiedSafe ← shutdownSmu rack
  shutdownRelay rack
  zeroSmuSetpoint rack
  disconnectConnected rack (List.filter (hasDevice rack)
    ([.relay, .dmm] ++ (if smuOutputVerifiedSafe then [.smu] else []) ++ [.daq, .ntcDaq]))

/-- `_atexit_relay_shutdown`. -/
def atexitRelayShutdown : ManagerProg V W D Unit := do
  let m ← .get
  if m.relay.connected then (relayOpenAll rack).handle fun _ ↦ pure () else pure ()

/-- `_atexit_smu_shutdown`. -/
def atexitSmuShutdown : ManagerProg V W D Unit := do
  let m ← .get
  if m.smu.connected then
    let _ ← (smuOutputOff rack "atexit safety net").attempt
  else pure ()

end

/-! ## One device at a time -/

/-- The SMU object is as it was. -/
def SameSmu (s t : Manager V W D) : Prop := t.smu = s.smu

instance : IsPreorder (Manager V W D) SameSmu where
  refl _ := rfl
  trans _ _ _ h h' := h'.trans h

/-- The relay object is as it was, and no fault of a relay was reported. -/
def SameRelay (s t : Manager V W D) : Prop :=
  t.relay = s.relay ∧ ∃ new, t.faults = new ++ s.faults ∧ ¬RelayFaulted new

theorem not_relayFaulted_nil : ¬RelayFaulted [] := fun ⟨_, hmem, _⟩ ↦ List.not_mem_nil hmem

theorem not_relayFaulted_append {new old : List SafetyEvent} (hnew : ¬RelayFaulted new)
    (hold : ¬RelayFaulted old) : ¬RelayFaulted (new ++ old) := by
  rintro ⟨fault, hmem, htype⟩
  rcases List.mem_append.mp hmem with h | h
  · exact hnew ⟨fault, h, htype⟩
  · exact hold ⟨fault, h, htype⟩

/-- Whatever leaves the faults alone leaves no fault of a relay. -/
theorem no_relayFault_of_eq {s t : Manager V W D} (h : t.faults = s.faults) :
    ∃ new, t.faults = new ++ s.faults ∧ ¬RelayFaulted new := ⟨[], h, not_relayFaulted_nil⟩

instance : IsPreorder (Manager V W D) SameRelay where
  refl _ := ⟨rfl, no_relayFault_of_eq rfl⟩
  trans := by
    rintro r s t ⟨hs, new, hnew, hno⟩ ⟨ht, new', hnew', hno'⟩
    refine ⟨ht.trans hs, new' ++ new, ?_, not_relayFaulted_append hno' hno⟩
    rw [hnew', hnew, List.append_assoc]

/-- The frame rule, for an instrument that may be missing. -/
theorem within_onInstrument_of_frame {R : Manager V W D → Manager V W D → Prop}
    [IsPreorder (Manager V W D) R] {l : Lens (Manager V W D) (Instrument D)}
    {library : Option (InstrumentLibrary D)}
    {x : InstrumentLibrary D → Prog Exc (Instrument D) Unit} (h : ∀ t s, R s (l.set t s)) :
    Within R (onInstrument l library x) := by
  cases library with
  | none => exact .pure _
  | some library => exact within_zoom_of_frame h

section

variable (rack : Rack V W D)

theorem sameSmu_connectDevice {dev : Device} (h : dev ≠ .smu) :
    Within SameSmu (connectDevice rack dev) := by
  cases dev with
  | smu => exact absurd rfl h
  | daq | relay => exact within_zoom_of_frame fun _ _ ↦ rfl
  | ntcDaq | dmm => exact within_onInstrument_of_frame fun _ _ ↦ rfl

theorem sameSmu_disconnectDevice {dev : Device} (h : dev ≠ .smu) :
    Within SameSmu (disconnectDevice rack dev) := by
  cases dev with
  | smu => exact absurd rfl h
  | daq =>
    change Within SameSmu ((Instrument.disconnect rack.daq).zoom daqLens)
    exact within_zoom_of_frame fun _ _ ↦ rfl
  | relay => exact within_zoom_of_frame (R := SameSmu) (l := relayLens) fun _ _ ↦ rfl
  | ntcDaq | dmm => exact within_onInstrument_of_frame fun _ _ ↦ rfl

theorem sameSmu_relayOpenAll : Within SameSmu (relayOpenAll rack) :=
  within_zoom_of_frame fun _ _ ↦ rfl

theorem sameRelay_connectDevice {dev : Device} (h : dev ≠ .relay) :
    Within SameRelay (connectDevice rack dev) := by
  cases dev with
  | relay => exact absurd rfl h
  | daq | smu => exact within_zoom_of_frame fun _ _ ↦ ⟨rfl, no_relayFault_of_eq rfl⟩
  | ntcDaq | dmm =>
    exact within_onInstrument_of_frame fun _ _ ↦ ⟨rfl, no_relayFault_of_eq rfl⟩

theorem sameRelay_smuOutputOff (reason : String) : Within SameRelay (smuOutputOff rack reason) :=
  within_zoom_of_frame fun _ _ ↦ ⟨rfl, no_relayFault_of_eq rfl⟩

end

theorem within_bestEffort {R : Manager V W D → Manager V W D → Prop}
    [IsPreorder (Manager V W D) R] {x : Device → ManagerProg V W D Unit}
    (hx : ∀ dev, Within R (x dev)) (devices : List Device) : Within R (bestEffort x devices) := by
  induction devices with
  | nil => exact .pure _
  | cons dev rest ih => exact .bind (.attempt (hx dev)) fun _ ↦ ih

end Manager

end Nipxi
