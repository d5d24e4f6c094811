import Mathlib.Algebra.Group.Nat.Defs
import Mathlib.Data.Rat.Defs
import Nipxi.Collections.Dict
import Nipxi.Effect.Attribution
import Nipxi.Utils.Errors
import Nipxi.Utils.EventFormat

/-!
# A test station and what was asked of it

The workflows of `test.py` and `test_control` ask a station for one thing after another: the
storage for a row, the relay matrix, the instruments. What a station does is left open: every
call may return or raise, and changes a world `X` as it likes. The trace of a session keeps each
call with the way it ended.
-/

open Collections Effect

namespace Nipxi

/-! ## Texts -/

/-- `f"{value:.nf}"` for `n = digits`: the nearest decimal, the even one where two are near. -/
def formatFixed (digits : ℕ) (value : ℚ) : String :=
  let scaled := value.num.natAbs * 10 ^ digits
  let floor := scaled / value.den
  let twice := 2 * (scaled % value.den)
  let n := if twice < value.den ∨ (twice = value.den ∧ floor % 2 = 0) then floor else floor + 1
  let sign := if value.num < 0 then "-" else ""
  let fraction := toString (n % 10 ^ digits)
  if digits = 0 then sign ++ toString n
  else sign ++ toString (n / 10 ^ digits) ++ "." ++ "".pushn '0' (digits - fraction.length)
    ++ fraction

/-- `format_event` on texts. A field without a text is left out. -/
def eventMessage (eventType : String) (fields : List (String × Option String)) : String :=
  String.ofList (formatEvent eventType.toList
    (fields.map fun field ↦ (field.1.toList, field.2.map String.toList)))

/-- `StopReason`. -/
inductive StopReason where
  | completed
  | failed
  | safetyViolation
  | timeout
  | cancelled
  | stationFault
  deriving DecidableEq

/-- The text of a stop reason. -/
def StopReason.text : StopReason → String
  | .completed => "COMPLETED"
  | .failed => "FAILED"
  | .safetyViolation => "SAFETY_VIOLATION"
  | .timeout => "TIMEOUT"
  | .cancelled => "CANCELLED"
  | .stationFault => "STATION_FAULT"

/-- What `log_event` is given. -/
structure EventEntry where
  level : String
  channel : Option ℕ := none
  relay : Option ℕ := none
  message : String
  deriving DecidableEq

/-- What `record_measurement` is given. -/
structure MeasurementEntry where
  testType : String
  channel : ℕ
  relay : Option ℕ := none
  phaseDetail : String
  voltageV : Option ℚ
  tempC : Option ℚ := none
  group : String
  deriving DecidableEq

/-- A value of a `run_summary` column. -/
inductive FieldValue where
  | text (value : String)
  | number (value : Option ℚ)
  deriving DecidableEq

/-! ## What can be asked -/

/-- A call without a result. -/
inductive Operation where
  | beginNewRunId
  | startRunSummary (testType batteryType group : String) (position : ℕ)
  | logEvent (entry : EventEntry)
  /-- `log_event` out of the callback of `_shutdown_trace_logger`. -/
  | traceEvent (entry : EventEntry)
  | recordExecutionState (channel relay : ℕ) (state : String)
  | recordMeasurement (entry : MeasurementEntry)
  | finishRunSummary (stopReason result : String) (fields : List (String × FieldValue))
  /-- `_print_post_run_summary`, which reads the storage. -/
  | printPostRunSummary
  | relayClose (address : ℕ)
  | relayOpen (address : ℕ)
  | relayOpenAll
  | zeroOutputSetpoint (reason : String)
  /-- `hw_mgr.instrument_external_device(sense_router, ..)`. -/
  | instrumentSenseRouter
  | senseRouterShutdown
  | senseConnect (channel : ℕ)
  | senseDisconnect (channel : ℕ)
  /-- `check_cancellation(token)`. -/
  | checkCancellation
  /-- `_run_number`, which reads the storage. -/
  | runNumber
  /-- `smu.set_charge_mode` or `smu.set_discharge_mode`. -/
  | setMode (mode : String) (currentA voltageLimitV : ℚ)
  | outputEnable
  /-- The stabilization wait and the sampling loop, which measure, write rows and wait, until the
  end of the phase or an exception. -/
  | sample (phase : String)
  | reportSafetyFault (reason : String)
  | acknowledgeSafetyFault
  /-- `_make_phase_storage`. -/
  | makePhaseStorage (testType : String)
  /-- `close` of the storage of a phase. -/
  | closePhaseStorage (testType : String)
  /-- The wait between the phases of a cycle. -/
  | rest
  deriving DecidableEq

/-- A call that reads a voltage. -/
inductive Reading where
  /-- `dmm.measure_dc_voltage`. -/
  | battery
  /-- `daq.read_channel` for the temperature sensor of a position. -/
  | ntc (position : ℕ) (channel : String)
  /-- `read_battery_voltage_via_sense`. -/
  | finalVoltage
  deriving DecidableEq

/-- How `sequence.run` ended. -/
inductive SequenceEnd where
  | completed
  | raised (e : Exc)
  /-- `KeyboardInterrupt`, which is no `Exception`. -/
  | interrupted
  deriving DecidableEq

/-- An entry of the trace. -/
inductive StationCall where
  /-- An operation returned, or raised an exception. -/
  | call (op : Operation) (raised : Option Exc)
  | read (reading : Reading) (result : Except Exc ℚ)
  /-- `emergency_output_off(reason)` returned. -/
  | outputOff (reason : String) (verified : Bool)
  /-- `extra_run_summary_fields_fn()` ended. -/
  | extraFields (raised : Option Exc)
  /-- `safety.emergency_stop` was called, after an exception. -/
  | emergencyStop (after : Exc)
  /-- `safety.safe_cancel_shutdown` was called, after an exception. -/
  | safeCancelShutdown (after : Exc)
  /-- `sequence.run` ended, and left the row of the run finished or not. -/
  | sequence (ended : SequenceEnd) (finished : Bool)

/-- A station over worlds `X`. -/
structure Station (X : Type) where
  perform : Operation → X → Option Exc × X
  read : Reading → X → Except Exc ℚ × X
  /-- `smu.emergency_output_off`, which never raises. -/
  emergencyOutputOff : String → X → Bool × X
  /-- `sequence.run`, and whether the row of the run is finished after it. -/
  sequence : ℕ → X → (SequenceEnd × Bool) × X
  /-- `ntc_voltage_to_celsius`. -/
  ntcVoltageToCelsius : ℚ → Option ℚ

/-- The world of a station, and what was asked of it, newest first. -/
structure StationSession (X : Type) where
  world : X
  trace : List StationCall

variable {X : Type}

/-- Programs that use a station. -/
abbrev StationProg (X α : Type) := Prog Exc (StationSession X) α

/-- The session after a call. -/
def StationSession.after (s : StationSession X) (c : StationCall) (world : X) : StationSession X :=
  ⟨world, c :: s.trace⟩

/-- Calling an operation. -/
def StationProg.call (st : Station X) (op : Operation) : StationProg X PUnit := fun s ↦
  let s' := s.after (.call op (st.perform op s.world).1) (st.perform op s.world).2
  match (st.perform op s.world).1 with
  | none => .ok ⟨⟩ s'
  | some e => .error e s'

/-- Reading a voltage. -/
def StationProg.read (st : Station X) (reading : Reading) : StationProg X ℚ := fun s ↦
  let s' := s.after (.read reading (st.read reading s.world).1) (st.read reading s.world).2
  match (st.read reading s.world).1 with
  | .ok v => .ok v s'
  | .error e => .error e s'

/-- `smu.emergency_output_off(reason)`, and whether it verified the output off. -/
def StationProg.emergencyOutputOff (st : Station X) (reason : String) : StationProg X Bool :=
  fun s ↦
    let (verified, world) := st.emergencyOutputOff reason s.world
    .ok verified (s.after (.outputOff reason verified) world)

/-- Adds an entry to the trace. -/
def StationProg.note (c : StationCall) : StationProg X PUnit :=
  Prog.modify fun s ↦ s.after c s.world

/-- `storage.log_event(..)`. -/
def StationProg.logEvent (st : Station X) (entry : EventEntry) : StationProg X PUnit :=
  StationProg.call st (.logEvent entry)

/-- `storage.log_event` for one entry after the other. -/
def logEvents (st : Station X) : List EventEntry → StationProg X PUnit
  | [] => pure ⟨⟩
  | entry :: rest => do
    StationProg.logEvent st entry
    logEvents st rest

section Calls

variable (st : Station X)

theorem StationProg.post_call (op : Operation) (s : StationSession X) :
    Post (StationProg.call st op) (fun _ t ↦ t.trace = .call op none :: s.trace)
      (fun e t ↦ t.trace = .call op (some e) :: s.trace) s := by
  unfold Post StationProg.call
  cases h : (st.perform op s.world).1 with
  | none => rfl
  | some e => rfl

theorem StationProg.post_read (reading : Reading) (s : StationSession X) :
    Post (StationProg.read st reading) (fun v t ↦ t.trace = .read reading (.ok v) :: s.trace)
      (fun e t ↦ t.trace = .read reading (.error e) :: s.trace) s := by
  unfold Post StationProg.read
  cases h : (st.read reading s.world).1 with
  | ok v => rfl
  | error e => rfl

variable {st} {K Fault : StationCall → Prop}

/-- A call whose exception is not caught. -/
theorem StationProg.attributed_call {op : Operation} (hK : ∀ raised, K (.call op raised))
    (hnone : ¬Fault (.call op none)) (hsome : ∀ e, Fault (.call op (some e))) :
    Attributed StationSession.trace K Fault (StationProg.call st op) := by
  intro s
  refine (StationProg.post_call st op s).mono (fun _ t ht ↦ ?_) fun e t ht ↦ ?_
  · exact ⟨[.call op none], ht, faultless_singleton ⟨hK none, hnone⟩⟩
  · refine ⟨[.call op (some e)], ht, fun c hc ↦ ?_, _, List.mem_singleton_self _, hsome e⟩
    rw [List.mem_singleton.mp hc]
    exact hK (some e)

/-- A call whose exception is caught. -/
theorem StationProg.quiet_call {op : Operation}
    (h : ∀ raised, K (.call op raised) ∧ ¬Fault (.call op raised)) :
    Quiet StationSession.trace K Fault (StationProg.call st op) := by
  have hadded : ∀ raised (s t : StationSession X), t.trace = .call op raised :: s.trace →
      Added StationSession.trace (Faultless K Fault) s t := fun raised s t ht ↦
    ⟨[.call op raised], ht, faultless_singleton (h raised)⟩
  intro s
  exact (StationProg.post_call st op s).mono (fun _ t ↦ hadded none s t)
    fun e t ↦ hadded (some e) s t

/-- A reading whose exception is caught. -/
theorem StationProg.quiet_read {reading : Reading}
    (h : ∀ result, K (.read reading result) ∧ ¬Fault (.read reading result)) :
    Quiet StationSession.trace K Fault (StationProg.read st reading) := by
  have hadded : ∀ result (s t : StationSession X), t.trace = .read reading result :: s.trace →
      Added StationSession.trace (Faultless K Fault) s t := fun result s t ht ↦
    ⟨[.read reading result], ht, faultless_singleton (h result)⟩
  intro s
  exact (StationProg.post_read st reading s).mono (fun v t ↦ hadded (.ok v) s t)
    fun e t ↦ hadded (.error e) s t

end Calls

end Nipxi
