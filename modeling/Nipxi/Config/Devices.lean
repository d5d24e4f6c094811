import Mathlib.Data.Rat.Defs
import Nipxi.Orchestration.Ownership

/-!
# The devices of a group

The tables of `config/devices.py` that name the devices of the station, and `hardware_for_group`,
by which every workflow resolves the devices of a group.
-/

open Collections

namespace Nipxi

/-- What the constructors of the drivers and the validators check of a device's configuration. -/
structure DeviceCfg where
  /-- `cfg.get("type", "serial")`, of a relay. -/
  type : String
  /-- `cfg.get("name", "NUMATO_RELAY_MATRIX")`, of an Ethernet relay. -/
  name : String
  /-- `cfg.get("resource", "")`, of an instrument. -/
  resource : String
  /-- `cfg.get("ip", "")`, of an Ethernet relay. -/
  ip : String
  /-- `cfg.get("port")`, of a serial relay. -/
  port : Option String
  /-- `cfg.get("terminal_config", "RSE")`, of a DAQ. -/
  terminalConfig : String
  /-- `cfg.get("max_current_a")`, of an SMU. -/
  maxCurrentA : Option ℚ
  deriving DecidableEq

/-- The tables of `config/devices.py`. -/
structure DeviceTables where
  ethernetDevices : Dict String DeviceCfg
  smuAssignments : Dict String DeviceCfg
  dmmConfigs : Dict String DeviceCfg
  daqConfigs : Dict String DeviceCfg
  /-- `_ALL_DAQ_CONFIGS`: the rack DAQs and the USB ones. -/
  allDaqConfigs : Dict String DeviceCfg
  /-- `DAQ_CONFIG`. -/
  daqConfig : DeviceCfg
  /-- `BATTERY_GROUPS`. -/
  batteryGroups : Dict String BatteryGroup

/-- What `hardware_for_group` returns. -/
structure GroupHardware where
  relayMatrixName : Option String
  relayMatrixCfg : Option DeviceCfg
  smuName : Option String
  smuCfg : Option DeviceCfg
  dmmName : Option String
  dmmCfg : Option DeviceCfg
  daqName : Option String
  daqCfg : Option DeviceCfg
  ntcDaqName : Option String
  ntcDaqCfg : Option DeviceCfg
  senseChannel : Option ℤ

/-- `hardware_for_group`. -/
def hardwareForGroup (tables : DeviceTables) (group : String) : Except KeyError GroupHardware :=
  match tables.batteryGroups.get? group with
  | none => .error ⟨group⟩
  | some grp =>
    let ntcDaqKey := nameOr grp.ntcDaq grp.daq
    .ok {
      relayMatrixName := grp.relayMatrix
      relayMatrixCfg := grp.relayMatrix.bind tables.ethernetDevices.get?
      smuName := grp.smu
      smuCfg := grp.smu.bind tables.smuAssignments.get?
      dmmName := grp.dmm
      dmmCfg := grp.dmm.bind tables.dmmConfigs.get?
      daqName := grp.daq
      daqCfg := grp.daq.bind tables.daqConfigs.get?
      ntcDaqName := ntcDaqKey
      ntcDaqCfg := ntcDaqKey.bind tables.allDaqConfigs.get?
      senseChannel := grp.senseChannel }

end Nipxi
