import Mathlib.Data.List.Basic

/-!
# Safety faults

`utils/safety_fault.py` as its callers see it: a fault is recorded, shown, and acknowledged by the
operator, and none of the three raises. The identifier that correlates the two records, and the
tables they are written to, are left out.
-/

namespace Nipxi

/-- `device_type` of a fault. -/
inductive DeviceType where
  | SMU
  | RELAY
  deriving DecidableEq

/-- What `report_safety_fault` records. -/
structure SafetyFault where
  reason : String
  sourceMethod : String
  context : String
  deviceName : String
  deviceType : DeviceType
  deriving DecidableEq

/-- One step of the life of a fault. -/
inductive SafetyEvent where
  | raised (fault : SafetyFault)
  | shown (smuState relayState reason : String)
  | acknowledged
  deriving DecidableEq

/-- `report_safety_fault`, `display_safety_fault_screen` and `acknowledge_safety_fault` one after
the other, newest first. -/
def escalation (fault : SafetyFault) (smuState relayState : String) : List SafetyEvent :=
  [.acknowledged, .shown smuState relayState fault.reason, .raised fault]

/-- A fault of a relay was reported. -/
def RelayFaulted (log : List SafetyEvent) : Prop :=
  ∃ fault, .raised fault ∈ log ∧ fault.deviceType = .RELAY

end Nipxi
