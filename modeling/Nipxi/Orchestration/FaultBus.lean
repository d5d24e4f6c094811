import Nipxi.Collections.Dict

/-!
# The fault bus

`orchestration/fault_bus.py`: the one channel on which worker threads report a terminal fault
and which the supervisor watches. A report is two atomic steps, because `report` appends the
record and fixes the origin under the lock but sets the event after releasing it.
-/

namespace Nipxi

/-- One terminal fault, as reported to the bus. -/
structure FaultReport where
  /-- The reporting group, if there is one. -/
  groupId : Option String
  /-- The text of the report. -/
  reason : String
  /-- The monotonic clock at the report. -/
  reportedAt : ℕ
  deriving DecidableEq, Repr

/-- The state of a `GlobalFaultBus`. -/
structure FaultBus where
  /-- The first report accepted. -/
  origin : Option FaultReport
  /-- Every report accepted, oldest first. -/
  allReports : List FaultReport
  /-- The event `_tripped`. -/
  tripped : Bool
  deriving DecidableEq, Repr

namespace FaultBus

/-- `GlobalFaultBus.__init__`. -/
def init : FaultBus := ⟨none, [], false⟩

/-- The part of `report` under the lock: the record is kept, and becomes the origin if it is
the first. -/
def record (bus : FaultBus) (r : FaultReport) : FaultBus :=
  { bus with
    allReports := bus.allReports ++ [r]
    origin := match bus.origin with
      | none => some r
      | some first => some first }

/-- The last line of `report`: the event is set. -/
def signal (bus : FaultBus) : FaultBus := { bus with tripped := true }

@[simp] theorem allReports_record (bus : FaultBus) (r : FaultReport) :
    (bus.record r).allReports = bus.allReports ++ [r] := rfl

@[simp] theorem tripped_record (bus : FaultBus) (r : FaultReport) :
    (bus.record r).tripped = bus.tripped := rfl

@[simp] theorem allReports_signal (bus : FaultBus) :
    bus.signal.allReports = bus.allReports := rfl

@[simp] theorem origin_signal (bus : FaultBus) : bus.signal.origin = bus.origin := rfl

@[simp] theorem tripped_signal (bus : FaultBus) : bus.signal.tripped = true := rfl

/-- The origin is the first report the bus accepted. -/
def OriginIsFirst (bus : FaultBus) : Prop := bus.origin = bus.allReports.head?

theorem OriginIsFirst.record {bus : FaultBus} (h : bus.OriginIsFirst) (r : FaultReport) :
    (bus.record r).OriginIsFirst := by
  unfold OriginIsFirst at *
  cases hr : bus.allReports with
  | nil => simp [FaultBus.record, h, hr]
  | cons first rest => simp [FaultBus.record, h, hr]

/-- Once there is an origin, later reports do not change it. -/
theorem origin_record_of_some {bus : FaultBus} {first : FaultReport}
    (h : bus.origin = some first) (r : FaultReport) : (bus.record r).origin = some first := by
  simp [FaultBus.record, h]

end FaultBus

end Nipxi
