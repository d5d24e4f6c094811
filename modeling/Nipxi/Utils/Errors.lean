import Mathlib.Data.List.Basic

/-!
# Exceptions and their classification

`utils/errors.py`: the exception classes with their inheritance, the two tuples behind the
Group → ALL fault policy, and `_classify_position_exception` of `test.py`, which reads them in
that order. An exception is its class and its text; only subclasses of `Exception` occur, so
that `except Exception` catches everything modelled here.
-/

namespace Nipxi

/-- The exception classes the modelled code raises or catches. -/
inductive ExcClass where
  | exception
  | nipxiError
  | hardwareInitError
  | relayError
  | daqError
  | smuError
  | dmmError
  | safetyViolationError
  | reversePolarityError
  | batteryRemovedDuringChargeError
  | dmmMeasurementLostError
  | operationCancelledError
  | nipxiTimeoutError
  | validationError
  | relayStateVerificationError
  | smuStateVerificationError
  | deviceConfigError
  | groupConfigurationError
  | configurationError
  | hardwareConfigurationError
  /-- Python's `OSError`, which every socket error is. -/
  | osError
  /-- `sqlite3.Error`. -/
  | sqliteError
  /-- `sqlite3.OperationalError`, two classes below `sqlite3.Error`. -/
  | sqliteOperationalError
  /-- Any other subclass of `Exception`, by name. -/
  | other (name : String)
  deriving DecidableEq, Repr

namespace ExcClass

/-- The class a class is declared to extend. -/
def parent : ExcClass → ExcClass
  | relayStateVerificationError => relayError
  | smuStateVerificationError => smuError
  | reversePolarityError | batteryRemovedDuringChargeError
  | dmmMeasurementLostError => safetyViolationError
  | deviceConfigError | groupConfigurationError | configurationError
  | hardwareConfigurationError => validationError
  | sqliteOperationalError => sqliteError
  | hardwareInitError | relayError | daqError | smuError | dmmError | safetyViolationError
  | operationCancelledError | nipxiTimeoutError | validationError => nipxiError
  | exception | nipxiError | osError | sqliteError | other _ => exception

/-- The class with its ancestors; no class here is more than three steps below `Exception`. -/
def mro (c : ExcClass) : List ExcClass :=
  [c, c.parent, c.parent.parent, c.parent.parent.parent]

/-- `type(e).__name__`. -/
def pyName : ExcClass → String
  | .exception => "Exception"
  | .nipxiError => "NIPXIError"
  | .hardwareInitError => "HardwareInitError"
  | .relayError => "RelayError"
  | .daqError => "DAQError"
  | .smuError => "SMUError"
  | .dmmError => "DMMError"
  | .safetyViolationError => "SafetyViolationError"
  | .reversePolarityError => "ReversePolarityError"
  | .batteryRemovedDuringChargeError => "BatteryRemovedDuringChargeError"
  | .dmmMeasurementLostError => "DMMMeasurementLostError"
  | .operationCancelledError => "OperationCancelledError"
  | .nipxiTimeoutError => "NIPXITimeoutError"
  | .validationError => "ValidationError"
  | .relayStateVerificationError => "RelayStateVerificationError"
  | .smuStateVerificationError => "SMUStateVerificationError"
  | .deviceConfigError => "DeviceConfigError"
  | .groupConfigurationError => "GroupConfigurationError"
  | .configurationError => "ConfigurationError"
  | .hardwareConfigurationError => "HardwareConfigurationError"
  | .osError => "OSError"
  | .sqliteError => "Error"
  | .sqliteOperationalError => "OperationalError"
  | .other name => name

end ExcClass

/-- An exception: its class and the text `str(e)` gives. -/
structure Exc where
  /-- The class it is an instance of. -/
  cls : ExcClass
  /-- Its message. -/
  message : String
  deriving DecidableEq, Repr

/-- `isinstance(e, classes)`. -/
def Exc.isInstance (e : Exc) (classes : List ExcClass) : Bool := classes.any (· ∈ e.cls.mro)

theorem Exc.isInstance_relayError_iff {e : Exc} :
    e.isInstance [.relayError] = true
      ↔ e.cls = .relayError ∨ e.cls = .relayStateVerificationError := by
  obtain ⟨cls, message⟩ := e
  cases cls <;> simp [Exc.isInstance, ExcClass.mro, ExcClass.parent]

/-- `STATION_HARDWARE_EXCEPTIONS`. -/
def STATION_HARDWARE_EXCEPTIONS : List ExcClass :=
  [.relayError, .smuError, .dmmError, .daqError, .dmmMeasurementLostError]

/-- `BATTERY_UNDER_TEST_EXCEPTIONS`. -/
def BATTERY_UNDER_TEST_EXCEPTIONS : List ExcClass :=
  [.batteryRemovedDuringChargeError, .reversePolarityError, .safetyViolationError,
    .nipxiTimeoutError]

/-- How one position of a Group → ALL run can end. -/
inductive PositionResult where
  | pass
  | fail
  | skipped
  | cancelled
  | stationFault
  deriving DecidableEq, Repr

/-- `_classify_position_exception`: station first, battery second, and unknown as station. -/
def classifyPositionException (e : Exc) : PositionResult :=
  if e.isInstance STATION_HARDWARE_EXCEPTIONS then .stationFault
  else if e.isInstance BATTERY_UNDER_TEST_EXCEPTIONS then .fail
  else .stationFault

theorem classifyPositionException_cases (e : Exc) :
    classifyPositionException e = .fail ∨ classifyPositionException e = .stationFault := by
  unfold classifyPositionException
  split
  · exact Or.inr rfl
  · split
    · exact Or.inl rfl
    · exact Or.inr rfl

/-- **Which exceptions fail only the position.** The safety violations other than a lost DMM,
and timeouts. -/
theorem classifyPositionException_eq_fail_iff (e : Exc) :
    classifyPositionException e = .fail
      ↔ e.cls = .safetyViolationError ∨ e.cls = .reversePolarityError ∨
        e.cls = .batteryRemovedDuringChargeError ∨ e.cls = .nipxiTimeoutError := by
  obtain ⟨cls, message⟩ := e
  cases cls <;>
    simp [classifyPositionException, Exc.isInstance, ExcClass.mro, ExcClass.parent,
      STATION_HARDWARE_EXCEPTIONS, BATTERY_UNDER_TEST_EXCEPTIONS]

theorem classifyPositionException_of_relayError {e : Exc}
    (h : e.isInstance [.relayError] = true) : classifyPositionException e = .stationFault := by
  have hstation : e.isInstance STATION_HARDWARE_EXCEPTIONS = true :=
    List.any_eq_true.mpr ⟨.relayError, List.mem_cons_self, by simpa [Exc.isInstance] using h⟩
  rw [classifyPositionException, if_pos hstation]

end Nipxi
