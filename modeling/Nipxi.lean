import Nipxi.Orchestration.Ownership
import Nipxi.Orchestration.ConcurrentSupervisor
import Nipxi.Orchestration.Supervisor
import Nipxi.Orchestration.Coverage
import Nipxi.Orchestration.GroupWorker
import Nipxi.Orchestration.PlannerAgreement
import Nipxi.Orchestration.GroupRuntime
import Nipxi.Orchestration.GlobalEmergencyStop
import Nipxi.Sqlite.Database
import Nipxi.Data.SequenceNumbers
import Nipxi.Data.Storage
import Nipxi.Data.Rotation
import Nipxi.Utils.EventFormat
import Nipxi.Sqlite.Wal
import Nipxi.Scripts.SafetyExport
import Nipxi.Scripts.FaultPairing
import Nipxi.Scripts.Timeline
import Nipxi.Scripts.ForensicExport
import Nipxi.Transition.System
import Nipxi.Transition.Trace
import Nipxi.Effect.Prog
import Nipxi.Effect.Lens
import Nipxi.Effect.Laws
import Nipxi.Effect.Logging
import Nipxi.Effect.Loop
import Nipxi.Effect.Journal
import Nipxi.Utils.Errors
import Nipxi.Utils.SafetyFault
import Nipxi.Hardware.Relay.Comms
import Nipxi.Hardware.Relay.Rules
import Nipxi.Hardware.Relay.Device
import Nipxi.Hardware.Relay.Interlock
import Nipxi.Hardware.Relay.Delays
import Nipxi.Hardware.Relay.Session
import Nipxi.Hardware.Relay.Settling
import Nipxi.Hardware.Relay.FailSafe
import Nipxi.Hardware.Smu
import Nipxi.TestControl.HardwareManager
import Nipxi.TestControl.SafetySweep
import Nipxi.TestControl.Bench
import Nipxi.TestControl.SmuClosing
import Nipxi.TestControl.RelayTeardown
import Nipxi.TestControl.Startup
import Nipxi.TestControl.SweepCoverage
import Nipxi.TestControl.Station
import Nipxi.TestControl.PresencePrecheck
import Nipxi.TestControl.GroupPositions
import Nipxi.TestControl.GroupShutdown
import Nipxi.TestControl.GroupCancellation
import Nipxi.TestControl.EnableWatch
import Nipxi.TestControl.BatteryOperationSequence
import Nipxi.TestControl.ChargeSequence
import Nipxi.TestControl.Traversal
import Nipxi.TestControl.Setpoints
import Nipxi.TestControl.SensePath
import Nipxi.Hardware.SmuShutdown
import Nipxi.Hardware.SmuSourcing
import Nipxi.TestControl.FailureMode
import Nipxi.TestControl.EmergencyStop
import Nipxi.TestControl.DisconnectOrder
import Nipxi.TestControl.ProtoTest
import Nipxi.TestControl.TestExecutor
import Nipxi.TestControl.CycleSequence
import Nipxi.TestControl.SafetyMonitor
import Nipxi.TestControl.SamplingLoop
import Nipxi.TestControl.ChargeSampling
import Nipxi.TestControl.ChargeTaper
import Nipxi.TestControl.RelayIsolation
import Nipxi.TestControl.DischargeSampling
import Nipxi.TestControl.BatteryTest
import Nipxi.TestControl.ProtoTestSequence
import Nipxi.TestControl.TimeoutCeiling
import Nipxi.Orchestration.SingleThread
import Nipxi.TestControl.PhaseRecords
import Nipxi.Hardware.Relay.Telnet
import Nipxi.Hardware.Relay.Login
import Nipxi.Scripts.Backfill
import Nipxi.TestControl.PrecheckLaw
import Nipxi.Scripts.IncidentSummary
import Nipxi.Orchestration.OwnershipReport
import Nipxi.Scripts.TerminalFault
import Nipxi.Utils.DeviceValidator
import Nipxi.Sqlite.Select
import Nipxi.Data.TelemetryReads
import Nipxi.Data.CsvFiles
import Nipxi.Utils.InterruptibleSleep
import Nipxi.Hardware.Relay.MaskCodec
import Nipxi.Effect.Object
import Nipxi.Hardware.AuditProxy
import Nipxi.Effect.Calls
import Nipxi.Hardware.AuditRows
import Nipxi.Hardware.DriverRows
import Nipxi.Hardware.DriverModel
import Nipxi.Orchestration.Arbiter
import Nipxi.TestControl.MonitorScanEnd
import Nipxi.TestControl.MonitorBattery
import Nipxi.Hardware.SenseRouter
import Nipxi.TestControl.MonitorGroup
import Nipxi.TestControl.RelayApart
import Nipxi.TestControl.MonitorApart
import Nipxi.TestControl.BatteryDiagnostics
import Nipxi.TestControl.MatrixScan
import Nipxi.TestControl.SourcePath
