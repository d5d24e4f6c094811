import Nipxi.Scripts.SafetyExport
import Nipxi.TestControl.BatteryOperationSequence

/-!
# The timeline of an export

`_build_timeline` merges the event log and the station states of a run, and names each event after
the type that `parse_event_fields` reads. An event reaches the event log in two ways: by
`storage.log_event` as it was formatted, or through the callback of `_shutdown_trace_logger`, which
puts `SHUTDOWN: ` in front, as the guard of an operation does (`onEvent_eq`). In the second case
nothing is read back (`survives_iff`).
-/

namespace Nipxi

open Collections Effect

/-! ## The timeline -/

/-- A row of `station_state`. -/
structure StationStateRow where
  timestamp : ℕ
  state : List Char
  channel : Option ℤ
  relay : Option ℤ

/-- An entry of the timeline. -/
structure TimelineEntry where
  timestamp : ℕ
  source : List Char
  event : List Char
  detail : List Char
  severity : List Char

/-- `_STATE_SEVERITY.get(state, "INFO")`. -/
def stateSeverity (state : List Char) : List Char :=
  if state = "STATION_FAULT".toList ∨ state = "SAFETY_VIOLATION".toList then "CRITICAL".toList
  else if state = "FAILED".toList then "ERROR".toList
  else if state = "CANCELLED".toList then "WARNING".toList
  else "INFO".toList

/-- The entry of an `event_log` row. -/
def eventEntry (row : EventRow) : TimelineEntry where
  timestamp := row.timestamp
  source := "event_log".toList
  event := ((parseEventFields row.message).get? eventTypeField).getD "LOG_MESSAGE".toList
  detail := row.message
  severity := if row.level = [] then "INFO".toList else row.level

/-- One detail of a station state. -/
def detailBit (name : String) (value : Option ℤ) : List Char :=
  match value with
  | some n => ' ' :: name.toList ++ '=' :: intText n
  | none => []

/-- The entry of a `station_state` row. -/
def stateEntry (row : StationStateRow) : TimelineEntry where
  timestamp := row.timestamp
  source := "station_state".toList
  event := row.state
  detail := "state=".toList ++ row.state ++ detailBit "channel" row.channel ++
    detailBit "relay" row.relay
  severity := stateSeverity row.state

/-- The order of the timeline; entries of one time stay in the order they are in. -/
def isNoLater (a b : TimelineEntry) : Bool := decide (a.timestamp ≤ b.timestamp)

/-- `_build_timeline`. -/
def buildTimeline (eventRows : List EventRow) (stateRows : List StationStateRow) :
    List TimelineEntry :=
  (eventRows.map eventEntry ++ stateRows.map stateEntry).mergeSort isNoLater

variable {eventRows : List EventRow} {stateRows : List StationStateRow}

theorem mem_buildTimeline {entry : TimelineEntry} : entry ∈ buildTimeline eventRows stateRows ↔
    (∃ row ∈ eventRows, eventEntry row = entry) ∨ ∃ row ∈ stateRows, stateEntry row = entry := by
  rw [buildTimeline, (List.mergeSort_perm _ _).mem_iff, List.mem_append, List.mem_map,
    List.mem_map]

/-! ## The two ways into the event log -/

/-- `EventType`. -/
def eventTypes : List String :=
  ["SMU_OUTPUT_ENABLED", "SMU_OUTPUT_DISABLED", "RELAY_OPEN", "RELAY_CLOSE", "RELAY_OPEN_ALL",
    "MATRIX_ROUTE_APPLIED", "MATRIX_ROUTE_CLEARED", "DMM_MEASUREMENT_FAILED",
    "DMM_MEASUREMENT_RECOVERED", "SAFETY_MONITOR_TRIGGERED", "SAFETY_MONITOR_RECOVERED",
    "EMERGENCY_STOP_STARTED", "EMERGENCY_STOP_COMPLETED", "GROUP_RUN_STARTED",
    "GROUP_SLOT_STARTED", "GROUP_SLOT_SKIPPED", "GROUP_SLOT_FAILED", "GROUP_SLOT_COMPLETED",
    "GROUP_RUN_COMPLETED", "GROUP_RUN_ABORTED_STATION_FAULT", "SAFETY_FAULT_RAISED",
    "SAFETY_FAULT_ACKNOWLEDGED"]

/-- An event that `format_event` is called for: of one of the types, with keyword arguments, and
without a field boundary inside a value. -/
structure StructuredEvent where
  eventType : List Char
  fields : List EventField
  known : eventType ∈ eventTypes.map String.toList
  proper : ProperFields fields
  free : ∀ field ∈ fields, ∀ value ∈ field.2, BoundaryFree value

/-- The formatted event. -/
def StructuredEvent.message (e : StructuredEvent) : List Char := formatEvent e.eventType e.fields

/-- How a message comes into the event log. -/
inductive EventRoute where
  /-- `storage.log_event`. -/
  | direct
  /-- The callback of `_shutdown_trace_logger`. -/
  | onEvent
  deriving DecidableEq

/-- The message that is stored. -/
def EventRoute.stored : EventRoute → List Char → List Char
  | .direct, message => message
  | .onEvent, message => "SHUTDOWN: ".toList ++ message

@[simp] theorem stored_direct (message : List Char) : EventRoute.direct.stored message = message :=
  rfl

@[simp] theorem stored_onEvent (message : List Char) :
    EventRoute.onEvent.stored message = "SHUTDOWN: ".toList ++ message :=
  rfl

/-- The callback stores what the second way says. -/
theorem onEvent_eq {X : Type} (st : Station X) (g : GuardedRun X) (message : String) :
    onEvent st g message = (StationProg.call st (.traceEvent
      { level := "INFO", channel := g.channel, relay := g.relayAddress,
        message := String.ofList (EventRoute.onEvent.stored message.toList) })).handle fun _ ↦
          pure ⟨⟩ := by
  have hstored : String.ofList (EventRoute.onEvent.stored message.toList) =
      "SHUTDOWN: " ++ message := by
    rw [stored_onEvent, String.ofList_append, String.ofList_toList, String.ofList_toList]
  rw [onEvent, hstored]

/-- The event survives: its stored message is read back as its type and fields, and each row with
this message is in the timeline under its type. -/
def Survives (e : StructuredEvent) (route : EventRoute) : Prop :=
  (∀ key value, (parseEventFields (route.stored e.message)).get? key = some value ↔
    key = eventTypeField ∧ value = e.eventType ∨ (key, some value) ∈ e.fields) ∧
  ∀ eventRows stateRows, ∀ row ∈ eventRows, row.message = route.stored e.message →
    eventEntry row ∈ buildTimeline eventRows stateRows ∧ (eventEntry row).event = e.eventType

theorem isSpaceChar_of_mem_eventType (e : StructuredEvent) :
    ∀ c ∈ e.eventType, isSpaceChar c = false := by
  have hall := List.all_eq_true.mp
    (show (eventTypes.map String.toList).all (fun t ↦ t.all fun c ↦ !isSpaceChar c) = true by
      decide +kernel)
  exact isSpaceChar_of_all (hall e.eventType e.known)

/-- What an event written directly is read as. -/
theorem StructuredEvent.get?_message (e : StructuredEvent) {key value : List Char} :
    (parseEventFields e.message).get? key = some value ↔
      key = eventTypeField ∧ value = e.eventType ∨
        ∃ text, (key, some text) ∈ e.fields ∧ value = stripEnd text := by
  have hspace := isSpaceChar_of_mem_eventType e
  rw [StructuredEvent.message, get?_parse_format (boundaryFree_of_no_space hspace) e.proper e.free,
    stripEnd_of_no_space hspace]

/-- Nothing is read of a traced event. -/
theorem parse_onEvent (message : List Char) :
    parseEventFields (EventRoute.onEvent.stored message) = Dict.empty := by
  have hprefix : ¬eventTypeKey ++ ['='] <+: EventRoute.onEvent.stored message := by
    intro h
    obtain ⟨rest, heq⟩ := h
    exact absurd (List.cons.inj heq).1 (by decide)
  rw [parseEventFields, if_neg hprefix]

/-- **Which events survive storage.** Those written directly with no value that ends in
whitespace; none that passes through the callback. -/
theorem survives_iff (e : StructuredEvent) (route : EventRoute) :
    Survives e route ↔
      route = .direct ∧ ∀ field ∈ e.fields, ∀ value ∈ field.2, stripEnd value = value := by
  cases route with
  | onEvent =>
    refine iff_of_false (fun h ↦ ?_) fun h ↦ by cases h.1
    have htype := (h.1 eventTypeField e.eventType).mpr (Or.inl ⟨rfl, rfl⟩)
    rw [parse_onEvent] at htype
    cases htype
  | direct =>
    constructor
    · intro h
      refine ⟨rfl, fun field hfield value hvalue ↦ ?_⟩
      obtain ⟨key, text⟩ := field
      obtain rfl := Option.mem_def.mp hvalue
      have hread := e.get?_message.mpr (Or.inr ⟨value, hfield, rfl⟩)
      rcases (h.1 key (stripEnd value)).mp hread with ⟨rfl, -⟩ | hmem
      · exact absurd (List.mem_map_of_mem hfield) e.proper.notType
      · exact Option.some.inj (e.proper.eq_of_mem hmem hfield)
    · rintro ⟨-, hstrip⟩
      refine ⟨fun key value ↦ ?_, fun eventRows stateRows row hrow hmessage ↦ ⟨?_, ?_⟩⟩
      · rw [stored_direct, e.get?_message]
        refine or_congr_right ⟨?_, fun hmem ↦ ⟨value, hmem, ?_⟩⟩
        · rintro ⟨text, hmem, rfl⟩
          rw [hstrip _ hmem text rfl]
          exact hmem
        · exact (hstrip _ hmem value rfl).symm
      · exact mem_buildTimeline.mpr (Or.inl ⟨row, hrow, rfl⟩)
      · have hread := e.get?_message.mpr (Or.inl ⟨rfl, rfl⟩)
        rw [eventEntry, hmessage, stored_direct, hread]
        rfl

/-- The start of an emergency stop. -/
def stopStarted : StructuredEvent where
  eventType := "EMERGENCY_STOP_STARTED".toList
  fields := [("reason".toList, some "overvoltage".toList)]
  known := by decide +kernel
  proper := by
    refine ⟨fun field hfield ↦ ?_, fun field hfield ↦ ?_, List.nodup_singleton _, by decide +kernel⟩
    · rw [List.mem_singleton.mp hfield]
      decide +kernel
    · rw [List.mem_singleton.mp hfield]
      decide +kernel
  free := by
    intro field hfield value hvalue
    rw [List.mem_singleton.mp hfield] at hvalue
    obtain rfl := Option.mem_some_iff.mp hvalue
    exact boundaryFree_of_no_space (isSpaceChar_of_all (by decide +kernel))

theorem not_survives_stopStarted : ¬∀ e route, Survives e route := by
  intro h
  have htype := ((h stopStarted .onEvent).1 eventTypeField stopStarted.eventType).mpr
    (Or.inl ⟨rfl, rfl⟩)
  rw [parse_onEvent] at htype
  cases htype

end Nipxi
