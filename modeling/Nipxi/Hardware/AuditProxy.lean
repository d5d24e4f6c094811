import Mathlib.Data.Int.Notation
import Mathlib.Data.List.Forall2
import Nipxi.Effect.Ending
import Nipxi.Effect.Object
import Nipxi.Utils.Errors

/-!
# The hardware audit

`instrument_hardware_instance` of `hardware/audit_proxy.py`, and the writer of
`data/raw_hardware_log.py` behind it. The public methods of a driver object are replaced on the
object by wrappers that hand every call to the writer once it has ended, so the calls a driver makes
of its own methods pass through the wrappers too.

A driver is a table of methods with their code, which acts on a world `W` and calls methods of the
object. The world, the surroundings `P` of the audit and the values `V` are arbitrary. A `Bench`
keeps, besides the world and what belongs to the audit, the calls that ended, newest first; nothing
reads them.

## The rule

`due` says of a call that ended, given those that ended before it, whether it is handed over. The
proof runs the plain and the instrumented object side by side: `Kept` relates their states, and
`agree_wrapped` is the step for one call.
-/

open Effect

namespace Nipxi.Audit

variable {W P V : Type}

/-! ## Calls -/

/-- What a call can raise: an `Exception`, or one of the classes beside it, such as
`KeyboardInterrupt`, which `except Exception` lets pass. -/
inductive Raised
  | exception (e : Exc)
  | interrupt (name : String)
  deriving DecidableEq

/-- `args` and `kwargs`. -/
structure Arguments (V : Type) where
  args : List V
  kwargs : List (String × V)
  deriving DecidableEq

structure MethodCall (V : Type) where
  name : String
  arguments : Arguments V
  deriving DecidableEq

/-- The parameters of a bound method. -/
structure Signature where
  /-- Those that take an argument by position or by name. -/
  positional : List String
  keywordOnly : List String
  /-- Whether there is a `*args`. -/
  varPositional : Bool
  /-- Whether there is a `**kwargs`. -/
  varKeyword : Bool

/-- A method of a class. The code includes what binding the arguments raises. -/
structure Method (W V : Type) where
  /-- `inspect.signature`, if it does not raise. -/
  signature : Option Signature
  code : Arguments V → Code Raised W (MethodCall V) V V

/-- What an attribute of an object is: a method, or a plain function that is set on the object and
wraps one. -/
inductive Attribute (W V : Type)
  | method (m : Method W V)
  | wrapper (sig : Signature) (original : Method W V)

/-- What becomes of a method that is wrapped with a signature, if any. -/
def Method.attribute (m : Method W V) : Option Signature → Attribute W V
  | none => .method m
  | some sig => .wrapper sig m

/-- A driver class. -/
structure Driver (W V : Type) where
  className : String
  methods : String → Option (Method W V)

/-- An object of a driver class. -/
structure Instance (W V : Type) where
  className : String
  attributes : String → Option (Attribute W V)
  /-- `_nipxi_audit_instrumented`. -/
  auditInstrumented : Bool

/-- The object as it is constructed. -/
def Driver.plain (d : Driver W V) : Instance W V where
  className := d.className
  attributes name := (d.methods name).map .method
  auditInstrumented := false

/-- A call that ended. -/
structure Completion (V : Type) where
  call : MethodCall V
  ended : Except Raised V

/-! ## The row of a call -/

/-- `sig.bind_partial(*args, **kwargs).arguments`, without the entries of `*args` and `**kwargs`,
which are a tuple and a dictionary; nothing where it raises `TypeError`. -/
def Signature.bindPartial (sig : Signature) (arguments : Arguments V) :
    Option (List (String × V)) :=
  if sig.positional.length < arguments.args.length ∧ sig.varPositional = false then none
  else if arguments.kwargs.any fun (name, _) ↦
      name ∈ sig.positional.take arguments.args.length ∨
        name ∉ sig.positional ++ sig.keywordOnly ∧ sig.varKeyword = false then none
  else some (sig.positional.zip arguments.args ++
    arguments.kwargs.filter fun (name, _) ↦ name ∈ sig.positional ++ sig.keywordOnly)

/-- `_POSITION_PARAM_NAMES`. -/
def POSITION_PARAM_NAMES : List String := ["channel", "relay_address", "position"]

/-- `_NON_POSITION_DEVICE_TYPES`. -/
def NON_POSITION_DEVICE_TYPES : List String := ["SENSE_ROUTER"]

def MEASUREMENT_METHOD_NAMES : List String := ["measure", "measure_dc_voltage", "read_channel"]

/-- `_extract_position`; `asInt` is `isinstance(value, int)` with the value. -/
def extractPosition (asInt : V → Option ℤ) (sig : Signature) (arguments : Arguments V)
    (deviceType : String) : Option ℤ :=
  if deviceType ∈ NON_POSITION_DEVICE_TYPES then none
  else
    match sig.bindPartial arguments with
    | none => none
    | some bound => POSITION_PARAM_NAMES.findSome? fun name ↦ (bound.lookup name).bind asInt

/-- What `writer.log` is given, apart from the duration. -/
structure LogEntry (V : Type) where
  runId : Option String
  position : Option ℤ
  deviceType : String
  deviceName : String
  resource : Option String
  command : String
  commandParameters : Arguments V
  response : Option V
  success : Bool
  errorType : Option String
  errorMessage : Option String

structure AuditSettings where
  /-- `ENABLE_RAW_HARDWARE_LOGGING`. -/
  enableRawHardwareLogging : Bool
  /-- `RAW_HW_LOG_MEASUREMENTS`. -/
  rawHwLogMeasurements : Bool
  /-- `RAW_HW_MEASUREMENT_SAMPLE_RATE`. -/
  rawHwMeasurementSampleRate : ℤ

/-- `max(1, int(rate))`. -/
def AuditSettings.rate (settings : AuditSettings) : ℕ :=
  (max 1 settings.rawHwMeasurementSampleRate).toNat

/-- What an object is instrumented with. -/
structure Auditor (P V : Type) where
  settings : AuditSettings
  deviceType : String
  /-- The attribute `name` of the object, if it has one. -/
  name : Option String
  /-- The attribute `resource` of the object. -/
  resource : Option String
  asInt : V → Option ℤ
  runIdProvider : P → Option String × P
  /-- Opening the database and creating the table, with the exception if it raises. -/
  connect : P → Option Exc × P
  /-- Inserting a row and committing it. -/
  insert : LogEntry V → P → Option Exc × P

/-- The exception of a call that raised. -/
def raisedBy : Except Exc V → Option Exc
  | .ok _ => none
  | .error e => some e

/-- The arguments of `writer.log` for a call that ended. -/
def Auditor.entry (a : Auditor P V) (sig : Signature) (call : MethodCall V)
    (ended : Except Exc V) (runId : Option String) : LogEntry V where
  runId := runId
  position := extractPosition a.asInt sig call.arguments a.deviceType
  deviceType := a.deviceType
  deviceName := a.name.getD a.deviceType
  resource := a.resource
  command := call.name
  commandParameters := call.arguments
  response := ended.toOption
  success := ended.isOk
  errorType := (raisedBy ended).map fun e ↦ e.cls.pyName
  errorMessage := (raisedBy ended).map Exc.message

/-! ## The writer -/

/-- What belongs to the audit of one object. -/
structure Trail (P V : Type) where
  sampleCounters : String → ℕ
  /-- Whether the writer's `_db` is not `None`. -/
  db : Bool
  /-- `_connect_failed`. -/
  connectFailed : Bool
  surroundings : P
  /-- What `writer.log` was called with, newest first. -/
  handed : List (LogEntry V)
  /-- The rows it wrote, newest first. -/
  rows : List (LogEntry V)

section

variable (a : Auditor P V)

/-- `except (OSError, sqlite3.Error)`. -/
def isStorageError (e : Exc) : Bool := e.isInstance [.osError, .sqliteError]

/-- A call into the surroundings. -/
def sideCall {α : Type} (f : P → α × P) : Prog Raised (Trail P V) α :=
  .query fun t ↦ ((f t.surroundings).1, { t with surroundings := (f t.surroundings).2 })

/-- `_ensure_connection`: whether there is a connection then. -/
def ensureConnection : Prog Raised (Trail P V) Bool := do
  let t ← .get
  if t.db then pure true
  else if t.connectFailed then pure false
  else
    match ← sideCall a.connect with
    | none =>
      .modify fun t ↦ { t with db := true }
      pure true
    | some e =>
      if isStorageError e then
        .modify fun t ↦ { t with connectFailed := true }
        pure false
      else .raise (.exception e)

/-- The `try` of `log`. -/
def insertRow (entry : LogEntry V) : Prog Raised (Trail P V) Unit := do
  if ← ensureConnection a then
    match ← sideCall (a.insert entry) with
    | none => .modify fun t ↦ { t with rows := entry :: t.rows }
    | some e => .raise (.exception e)

/-- The `except` clauses of `log`. -/
def degrade : Raised → Prog Raised (Trail P V) Unit
  | .exception e => if isStorageError e then .modify fun t ↦ { t with db := false } else pure ()
  | .interrupt name => .raise (.interrupt name)

/-- `RawHardwareLogWriter.log`. -/
def log (entry : LogEntry V) : Prog Raised (Trail P V) Unit := do
  .modify fun t ↦ { t with handed := entry :: t.handed }
  (insertRow a entry).handle degrade

/-- The call of `writer.log`, with its arguments. -/
def handOver (sig : Signature) (call : MethodCall V) (ended : Except Exc V) :
    Prog Raised (Trail P V) Unit := do
  let runId ← sideCall a.runIdProvider
  log a (a.entry sig call ended runId)

/-- `_should_log_measurement`. -/
def shouldLogMeasurement (settings : AuditSettings) (key : String) :
    Prog Raised (Trail P V) Bool := do
  if settings.rawHwLogMeasurements then
    let t ← .get
    .modify fun t ↦
      { t with sampleCounters := Function.update t.sampleCounters key (t.sampleCounters key + 1) }
    pure (t.sampleCounters key % settings.rate == 0)
  else pure false

end

/-! ## The object -/

/-- An object's world, with what belongs to its audit and the calls that ended. -/
structure Bench (W P V : Type) where
  world : W
  calls : List (Completion V)
  trail : Trail P V

/-- The world of a bench. -/
def worldLens : Lens (Bench W P V) W where
  get s := s.world
  set w s := { s with world := w }
  get_set _ _ := rfl
  set_get _ := rfl
  set_set _ _ _ := rfl

/-- The audit of a bench. -/
def trailLens : Lens (Bench W P V) (Trail P V) where
  get s := s.trail
  set t s := { s with trail := t }
  get_set _ _ := rfl
  set_get _ := rfl
  set_set _ _ _ := rfl

/-- A call, put down when it has ended. -/
def recorded (call : MethodCall V) (x : Prog Raised (Bench W P V) V) :
    Prog Raised (Bench W P V) V := do
  let ended ← x.attempt
  .modify fun s ↦ { s with calls := ⟨call, ended⟩ :: s.calls }
  match ended with
  | .ok result => pure result
  | .error e => .raise e

/-- `not is_measurement or _should_log_measurement(settings, sample_counters, command)`. -/
def isDue (a : Auditor P V) (call : MethodCall V) : Prog Raised (Bench W P V) Bool :=
  if call.name ∈ MEASUREMENT_METHOD_NAMES then
    (shouldLogMeasurement a.settings call.name).zoom trailLens
  else pure true

/-- `_wrapped`. -/
def wrapped (a : Auditor P V) (sig : Signature) (call : MethodCall V)
    (original : Prog Raised (Bench W P V) V) : Prog Raised (Bench W P V) V := do
  match ← original.attempt with
  | .error (.exception e) =>
    (handOver a sig call (.error e)).zoom trailLens
    .raise (.exception e)
  | .error (.interrupt name) => .raise (.interrupt name)
  | .ok result =>
    if ← isDue a call then (handOver a sig call (.ok result)).zoom trailLens
    pure result

/-- A name without a leading underscore. -/
def isPublic (name : String) : Bool := name.toList.head? != some '_'

/-- What becomes of a member. A wrapper is not a method, so it is not among the members that are
listed. -/
def Attribute.instrument (name : String) : Attribute W V → Attribute W V
  | .method m => if isPublic name then m.attribute m.signature else .method m
  | .wrapper sig m => .wrapper sig m

/-- `instrument_hardware_instance`. -/
def instrumentHardwareInstance (settings : AuditSettings) (x : Instance W V) : Instance W V :=
  if x.auditInstrumented then x
  else if settings.enableRawHardwareLogging then
    { x with
      attributes := fun name ↦ (x.attributes name).map (Attribute.instrument name)
      auditInstrumented := true }
  else x

/-- A call of a method, at most so many calls deep. -/
def Instance.invoke (a : Auditor P V) (x : Instance W V) :
    ℕ → MethodCall V → Prog Raised (Bench W P V) V
  | 0, _ => fun _ ↦ .diverged
  | depth + 1, call =>
    match x.attributes call.name with
    | none => .raise (.exception ⟨.other "AttributeError",
        s!"'{x.className}' object has no attribute '{call.name}'"⟩)
    | some (.method m) =>
      recorded call ((m.code call.arguments).run worldLens (x.invoke a depth))
    | some (.wrapper sig m) =>
      wrapped a sig call (recorded call ((m.code call.arguments).run worldLens (x.invoke a depth)))

/-- Calls one after another, with how each ended. -/
def Instance.session (a : Auditor P V) (x : Instance W V) (depth : ℕ) :
    List (MethodCall V) → Prog Raised (Bench W P V) (List (Except Raised V))
  | [] => pure []
  | call :: calls => do
    let ended ← (x.invoke a depth call).attempt
    let rest ← x.session a depth calls
    pure (ended :: rest)

/-- The bench of an object that has just been instrumented; the writer may have been used before. -/
def Bench.start (world : W) (db connectFailed : Bool) (surroundings : P) : Bench W P V where
  world := world
  calls := []
  trail := ⟨fun _ ↦ 0, db, connectFailed, surroundings, [], []⟩

/-! ## The rule -/

section

variable (a : Auditor P V) (d : Driver W V)

/-- The signature of a method that is wrapped. -/
def audited (name : String) : Option Signature :=
  if a.settings.enableRawHardwareLogging ∧ isPublic name then
    (d.methods name).bind Method.signature
  else none

/-- How many calls of a method returned. -/
def returned (name : String) (calls : List (Completion V)) : ℕ :=
  calls.countP fun c ↦ c.call.name == name && c.ended.isOk

/-- Whether a call is handed to the writer, given those that ended before it. -/
def due (c : Completion V) (earlier : List (Completion V)) : Bool :=
  (audited a d c.call.name).isSome &&
    match c.ended with
    | .error (.exception _) => true
    | .error (.interrupt _) => false
    | .ok _ =>
      c.call.name ∉ MEASUREMENT_METHOD_NAMES ||
        a.settings.rawHwLogMeasurements && returned c.call.name earlier % a.settings.rate == 0

/-- The calls that a rule selects, newest first. -/
def selected (rule : Completion V → List (Completion V) → Bool) :
    List (Completion V) → List (Completion V)
  | [] => []
  | c :: earlier => if rule c earlier then c :: selected rule earlier else selected rule earlier

/-- The row is what the call did, under a run id of the provider. -/
def RowOf (entry : LogEntry V) (c : Completion V) : Prop :=
  ∃ sig ended p, audited a d c.call.name = some sig ∧
    c.ended = Except.mapError .exception ended ∧
    entry = a.entry sig c.call ended (a.runIdProvider p).1

end

/-! ## The writer never raises -/

/-- Only the writer has changed. -/
structure SameTrail (t u : Trail P V) : Prop where
  sampleCounters : u.sampleCounters = t.sampleCounters
  handed : u.handed = t.handed

instance : IsPreorder (Trail P V) SameTrail where
  refl _ := ⟨rfl, rfl⟩
  trans _ _ _ h h' := ⟨h'.1.trans h.1, h'.2.trans h.2⟩

section

variable (a : Auditor P V)

theorem ends_sideCall {α : Type} (f : P → α × P) :
    Ends SameTrail (sideCall f : Prog Raised (Trail P V) α) := fun _ ↦ ⟨_, rfl, ⟨rfl, rfl⟩⟩

theorem ends_ensureConnection : Ends SameTrail (ensureConnection a) := by
  refine .bind .get fun t ↦ .ite (.pure _) (.ite (.pure _) ?_)
  refine .bind (ends_sideCall _) fun raised ↦ ?_
  cases raised with
  | none => exact .bind (.modify fun _ ↦ ⟨rfl, rfl⟩) fun _ ↦ .pure _
  | some e => exact .ite (.bind (.modify fun _ ↦ ⟨rfl, rfl⟩) fun _ ↦ .pure _) (.raise _)

theorem ends_insertRow (entry : LogEntry V) : Ends SameTrail (insertRow a entry) := by
  refine .bind (ends_ensureConnection a) fun connected ↦
    .ite (.bind (ends_sideCall _) fun raised ↦ ?_) (.pure _)
  cases raised with
  | none => exact .modify fun _ ↦ ⟨rfl, rfl⟩
  | some e => exact .raise _

/-- What is raised inside the writer is an `Exception`. -/
def IsException (r : Raised) : Prop := ∃ e, r = .exception e

theorem raises_insertRow (entry : LogEntry V) : Raises IsException (insertRow a entry) := by
  have hconnect : Raises IsException (ensureConnection a) := by
    refine .bind .get fun t ↦ .ite (.pure _) (.ite (.pure _) (.bind (.query _) fun raised ↦ ?_))
    cases raised with
    | none => exact .bind (.modify _) fun _ ↦ .pure _
    | some e => exact .ite (.bind (.modify _) fun _ ↦ .pure _) (.raise ⟨e, rfl⟩)
  refine .bind hconnect fun connected ↦ .ite (.bind (.query _) fun raised ↦ ?_) (.pure _)
  cases raised with
  | none => exact .modify _
  | some e => exact .raise ⟨e, rfl⟩

/-- **The writer returns**, whatever the database does. -/
theorem log_returns (entry : LogEntry V) (t : Trail P V) :
    ∃ u, log a entry t = .ok ⟨⟩ u ∧ u.sampleCounters = t.sampleCounters ∧
      u.handed = entry :: t.handed := by
  have hends : Ends SameTrail ((insertRow a entry).handle degrade) := by
    refine .handle (ends_insertRow a entry) fun r ↦ ?_
    cases r with
    | exception e => exact .ite (.modify fun _ ↦ ⟨rfl, rfl⟩) (.pure _)
    | interrupt name => exact .raise _
  have hraises : Raises (fun _ ↦ False) ((insertRow a entry).handle degrade) := by
    refine .handle (raises_insertRow a entry) ?_
    rintro _ ⟨e, rfl⟩
    exact .ite (.modify _) (.pure _)
  have hpost := (hraises { t with handed := entry :: t.handed }).and (hends.within _)
  obtain ⟨⟨⟩, u, hu, -, hsame⟩ := hends.exists_ok (hpost.mono (fun _ _ h ↦ h) fun _ _ h ↦ h.1)
  exact ⟨u, hu, hsame.sampleCounters, hsame.handed⟩

theorem handOver_returns (sig : Signature) (call : MethodCall V) (ended : Except Exc V)
    (t : Trail P V) :
    ∃ u p, handOver a sig call ended t = .ok ⟨⟩ u ∧ u.sampleCounters = t.sampleCounters ∧
      u.handed = a.entry sig call ended (a.runIdProvider p).1 :: t.handed := by
  obtain ⟨u, hu, hcounters, hhanded⟩ :=
    log_returns a (a.entry sig call ended (a.runIdProvider t.surroundings).1)
      { t with surroundings := (a.runIdProvider t.surroundings).2 }
  exact ⟨u, t.surroundings, hu, hcounters, hhanded⟩

end

/-! ## One call -/

/-- The bench with one more call that ended. -/
def Bench.record (s : Bench W P V) (c : Completion V) : Bench W P V :=
  { s with calls := c :: s.calls }

section

variable (call : MethodCall V) {x : Prog Raised (Bench W P V) V} {s t : Bench W P V}

theorem recorded_of_ok {v : V} (h : x s = .ok v t) :
    recorded call x s = .ok v (t.record ⟨call, .ok v⟩) := by
  change Prog.bind x.attempt _ s = _
  rw [Prog.bind, Prog.attempt, h]
  rfl

theorem recorded_of_error {e : Raised} (h : x s = .error e t) :
    recorded call x s = .error e (t.record ⟨call, .error e⟩) := by
  change Prog.bind x.attempt _ s = _
  rw [Prog.bind, Prog.attempt, h]
  rfl

theorem recorded_of_diverged (h : x s = .diverged) : recorded call x s = .diverged := by
  change Prog.bind x.attempt _ s = _
  rw [Prog.bind, Prog.attempt, h]

variable {call} (a : Auditor P V) (sig : Signature)

/-- A call that raises is handed over, and raises. -/
theorem wrapped_of_exception {e : Exc} (h : x s = .error (.exception e) t) :
    ∃ u p, wrapped a sig call x s = .error (.exception e) { t with trail := u } ∧
      u.sampleCounters = t.trail.sampleCounters ∧
      u.handed = a.entry sig call (.error e) (a.runIdProvider p).1 :: t.trail.handed := by
  obtain ⟨u, p, hu, hcounters, hhanded⟩ := handOver_returns a sig call (.error e) t.trail
  refine ⟨u, p, ?_, hcounters, hhanded⟩
  have hzoom : (handOver a sig call (.error e)).zoom trailLens t
      = .ok ⟨⟩ { t with trail := u } := Prog.zoom_of_ok hu
  change Prog.bind x.attempt _ s = _
  rw [Prog.bind, Prog.attempt, h]
  change Prog.bind _ _ t = _
  rw [Prog.bind, hzoom]
  rfl

theorem wrapped_of_interrupt {name : String} (h : x s = .error (.interrupt name) t) :
    wrapped a sig call x s = .error (.interrupt name) t := by
  change Prog.bind x.attempt _ s = _
  rw [Prog.bind, Prog.attempt, h]
  rfl

theorem wrapped_of_diverged (h : x s = .diverged) : wrapped a sig call x s = .diverged := by
  change Prog.bind x.attempt _ s = _
  rw [Prog.bind, Prog.attempt, h]

/-- A call of another method that returns is handed over, and returns. -/
theorem wrapped_of_ok {v : V} (h : x s = .ok v t) (hname : call.name ∉ MEASUREMENT_METHOD_NAMES) :
    ∃ u p, wrapped a sig call x s = .ok v { t with trail := u } ∧
      u.sampleCounters = t.trail.sampleCounters ∧
      u.handed = a.entry sig call (.ok v) (a.runIdProvider p).1 :: t.trail.handed := by
  obtain ⟨u, p, hu, hcounters, hhanded⟩ := handOver_returns a sig call (.ok v) t.trail
  refine ⟨u, p, ?_, hcounters, hhanded⟩
  have hzoom : (handOver a sig call (.ok v)).zoom trailLens t
      = .ok ⟨⟩ { t with trail := u } := Prog.zoom_of_ok hu
  have hdue : isDue a call t = .ok true t := by
    rw [isDue, if_neg hname]
    rfl
  change Prog.bind x.attempt _ s = _
  rw [Prog.bind, Prog.attempt, h]
  change Prog.bind (isDue a call) _ t = _
  rw [Prog.bind, hdue]
  change Prog.bind _ _ t = _
  rw [Prog.bind, hzoom]
  rfl

/-- A measurement that returns is counted, and handed over by its index. -/
theorem wrapped_of_measurement {v : V} (h : x s = .ok v t)
    (hname : call.name ∈ MEASUREMENT_METHOD_NAMES)
    (hlog : a.settings.rawHwLogMeasurements = true) :
    ∃ u, wrapped a sig call x s = .ok v { t with trail := u } ∧
      u.sampleCounters = Function.update t.trail.sampleCounters call.name
        (t.trail.sampleCounters call.name + 1) ∧
      if t.trail.sampleCounters call.name % a.settings.rate = 0 then
        ∃ p, u.handed = a.entry sig call (.ok v) (a.runIdProvider p).1 :: t.trail.handed
      else u.handed = t.trail.handed := by
  set counted : Trail P V := { t.trail with
    sampleCounters := Function.update t.trail.sampleCounters call.name
      (t.trail.sampleCounters call.name + 1) } with hcounted
  have hcount : isDue a call t = .ok (t.trail.sampleCounters call.name % a.settings.rate == 0)
      { t with trail := counted } := by
    rw [isDue, if_pos hname]
    refine Prog.zoom_of_ok ?_
    rw [shouldLogMeasurement, if_pos hlog]
    rfl
  have hrun : wrapped a sig call x s = Prog.bind
      (if (t.trail.sampleCounters call.name % a.settings.rate == 0) = true then
        (handOver a sig call (.ok v)).zoom trailLens else Pure.pure ⟨⟩)
      (fun _ ↦ Pure.pure v) { t with trail := counted } := by
    change Prog.bind x.attempt _ s = _
    rw [Prog.bind, Prog.attempt, h]
    change Prog.bind (isDue a call) _ t = _
    rw [Prog.bind, hcount]
    cases t.trail.sampleCounters call.name % a.settings.rate == 0 <;> rfl
  rw [hrun]
  by_cases hdue : t.trail.sampleCounters call.name % a.settings.rate = 0
  · obtain ⟨u, p, hu, hcounters, hhanded⟩ := handOver_returns a sig call (.ok v) counted
    refine ⟨u, ?_, hcounters, ?_⟩
    · have hzoom : (handOver a sig call (.ok v)).zoom trailLens { t with trail := counted }
          = .ok ⟨⟩ { t with trail := u } := Prog.zoom_of_ok hu
      rw [if_pos (beq_iff_eq.mpr hdue), Prog.bind, hzoom]
      rfl
    · rw [if_pos hdue]
      exact ⟨p, hhanded⟩
  · refine ⟨counted, ?_, rfl, ?_⟩
    · rw [if_neg (mt beq_iff_eq.mp hdue)]
      rfl
    · rw [if_neg hdue]

/-- A measurement that returns is dropped where measurements are not logged. -/
theorem wrapped_of_unlogged {v : V} (h : x s = .ok v t)
    (hname : call.name ∈ MEASUREMENT_METHOD_NAMES)
    (hlog : a.settings.rawHwLogMeasurements = false) : wrapped a sig call x s = .ok v t := by
  have hdue : isDue a call t = .ok false t := by
    rw [isDue, if_pos hname]
    refine Prog.zoom_of_ok ?_
    rw [shouldLogMeasurement, hlog]
    rfl
  change Prog.bind x.attempt _ s = _
  rw [Prog.bind, Prog.attempt, h]
  change Prog.bind (isDue a call) _ t = _
  rw [Prog.bind, hdue]
  rfl

end

/-! ## The plain and the instrumented object -/

section

variable (a : Auditor P V) (d : Driver W V)

/-- The benches of the two objects: the world is the same and so are the calls, and what was handed
to the writer is what the rule selects of them. -/
structure Kept (s u : Bench W P V) : Prop where
  world : s.world = u.world
  calls : s.calls = u.calls
  handed : List.Forall₂ (RowOf a d) u.trail.handed (selected (due a d) u.calls)
  counters : a.settings.rawHwLogMeasurements = true → ∀ name ∈ MEASUREMENT_METHOD_NAMES,
    (audited a d name).isSome = true → u.trail.sampleCounters name = returned name u.calls

variable {a d}

theorem returned_cons (name : String) (c : Completion V) (calls : List (Completion V)) :
    returned name (c :: calls)
      = returned name calls + if c.call.name = name ∧ c.ended.isOk = true then 1 else 0 := by
  rw [returned, returned, List.countP_cons]
  congr 1
  simp

/-- After a call that is not handed over. -/
theorem Kept.pass {s u : Bench W P V} (h : Kept a d s u) {c : Completion V}
    (hdue : due a d c u.calls = false)
    (hcount : a.settings.rawHwLogMeasurements = true → c.call.name ∈ MEASUREMENT_METHOD_NAMES →
      (audited a d c.call.name).isSome = true → c.ended.isOk = false) :
    Kept a d (s.record c) (u.record c) where
  world := h.world
  calls := congrArg (c :: ·) h.calls
  handed := by
    change List.Forall₂ _ u.trail.handed (selected _ (c :: u.calls))
    rw [selected, hdue]
    exact h.handed
  counters hlog name hname haudited := by
    change u.trail.sampleCounters name = returned name (c :: u.calls)
    rw [returned_cons, h.counters hlog name hname haudited, if_neg, Nat.add_zero]
    rintro ⟨rfl, hok⟩
    rw [hcount hlog hname haudited] at hok
    cases hok

theorem Kept.hand {s u : Bench W P V} (h : Kept a d s u) {c : Completion V} {trail : Trail P V}
    {entry : LogEntry V} (hdue : due a d c u.calls = true) (hrow : RowOf a d entry c)
    (hhanded : trail.handed = entry :: u.trail.handed)
    (hcount : a.settings.rawHwLogMeasurements = true → ∀ name ∈ MEASUREMENT_METHOD_NAMES,
      (audited a d name).isSome = true → trail.sampleCounters name = returned name (c :: u.calls)) :
    Kept a d (s.record c) { u.record c with trail := trail } where
  world := h.world
  calls := congrArg (c :: ·) h.calls
  handed := by
    change List.Forall₂ _ trail.handed (selected _ (c :: u.calls))
    rw [selected, hdue, hhanded]
    exact .cons hrow h.handed
  counters := hcount

/-- Programs that agree agree when their call is put down, if it is not handed over. -/
theorem agree_recorded {call : MethodCall V} {x y : Prog Raised (Bench W P V) V}
    (h : Agree (Kept a d) x y) (hname : audited a d call.name = none) :
    Agree (Kept a d) (recorded call x) (recorded call y) := by
  have hpass : ∀ ended s u, Kept a d s u →
      Kept a d (s.record ⟨call, ended⟩) (u.record ⟨call, ended⟩) := by
    intro ended s u hk
    refine hk.pass ?_ fun _ _ hsome ↦ ?_
    · rw [due, hname]
      rfl
    · rw [hname] at hsome
      cases hsome
  intro s u hsu
  have hends := h s u hsu
  revert hends
  cases hx : x s with
  | ok v s' =>
    cases hy : y u with
    | ok v' u' =>
      rintro ⟨rfl, hk⟩
      rw [recorded_of_ok call hx, recorded_of_ok call hy]
      exact ⟨rfl, hpass _ _ _ hk⟩
    | error | diverged => exact False.elim
  | error e s' =>
    cases hy : y u with
    | error e' u' =>
      rintro ⟨rfl, hk⟩
      rw [recorded_of_error call hx, recorded_of_error call hy]
      exact ⟨rfl, hpass _ _ _ hk⟩
    | ok | diverged => exact False.elim
  | diverged =>
    cases hy : y u with
    | diverged =>
      rw [recorded_of_diverged call hx, recorded_of_diverged call hy]
      exact id
    | ok | error => exact False.elim

/-- The counters are right after a call that leaves them and the number of returns as they were. -/
theorem Kept.counters_cons {s u : Bench W P V} (h : Kept a d s u) {c : Completion V}
    {trail : Trail P V} (hsame : trail.sampleCounters = u.trail.sampleCounters)
    (hc : c.call.name ∈ MEASUREMENT_METHOD_NAMES → c.ended.isOk = false)
    (hlog : a.settings.rawHwLogMeasurements = true) {name : String}
    (hname : name ∈ MEASUREMENT_METHOD_NAMES) (haudited : (audited a d name).isSome = true) :
    trail.sampleCounters name = returned name (c :: u.calls) := by
  rw [returned_cons, hsame, h.counters hlog name hname haudited, if_neg, Nat.add_zero]
  rintro ⟨rfl, hok⟩
  rw [hc hname] at hok
  cases hok

theorem Kept.measured {s u : Bench W P V} (h : Kept a d s u) {call : MethodCall V} {v : V}
    {sig : Signature} {trail : Trail P V} (hsig : audited a d call.name = some sig)
    (hname : call.name ∈ MEASUREMENT_METHOD_NAMES)
    (hlog : a.settings.rawHwLogMeasurements = true)
    (hcounters : trail.sampleCounters = Function.update u.trail.sampleCounters call.name
      (u.trail.sampleCounters call.name + 1))
    (hhanded : if u.trail.sampleCounters call.name % a.settings.rate = 0 then
        ∃ p, trail.handed = a.entry sig call (.ok v) (a.runIdProvider p).1 :: u.trail.handed
      else trail.handed = u.trail.handed) :
    Kept a d (s.record ⟨call, .ok v⟩) { u.record ⟨call, .ok v⟩ with trail := trail } := by
  have hsome : (audited a d call.name).isSome = true := by
    rw [hsig]
    rfl
  have hdue : due a d ⟨call, .ok v⟩ u.calls
      = (u.trail.sampleCounters call.name % a.settings.rate == 0) := by
    rw [due, hsome, h.counters hlog _ hname hsome]
    simp [hname, hlog]
  have hcount : ∀ name ∈ MEASUREMENT_METHOD_NAMES, (audited a d name).isSome = true →
      trail.sampleCounters name = returned name (⟨call, .ok v⟩ :: u.calls) := by
    intro name hn ha
    rw [hcounters, returned_cons]
    by_cases heq : call.name = name
    · rw [← heq, Function.update_self, h.counters hlog _ hname hsome, if_pos ⟨rfl, rfl⟩]
    · rw [Function.update_of_ne (Ne.symm heq), h.counters hlog _ hn ha, if_neg fun h ↦ heq h.1,
        Nat.add_zero]
  split at hhanded
  · next hindex =>
    obtain ⟨p, hp⟩ := hhanded
    rw [hindex] at hdue
    exact h.hand hdue ⟨sig, .ok v, p, hsig, rfl, rfl⟩ hp fun _ ↦ hcount
  · next hindex =>
    rw [beq_eq_false_iff_ne.mpr hindex] at hdue
    refine ⟨h.world, congrArg (_ :: ·) h.calls, ?_, fun _ ↦ hcount⟩
    change List.Forall₂ _ trail.handed (selected _ (_ :: u.calls))
    rw [selected, hdue, hhanded]
    exact h.handed

/-- **The step.** A wrapper does what it wraps, and hands over what is due. -/
theorem agree_wrapped {call : MethodCall V} {x y : Prog Raised (Bench W P V) V}
    (h : Agree (Kept a d) x y) {sig : Signature} (hsig : audited a d call.name = some sig) :
    Agree (Kept a d) (recorded call x) (wrapped a sig call (recorded call y)) := by
  have hsome : (audited a d call.name).isSome = true := by
    rw [hsig]
    rfl
  intro s u hsu
  have hends := h s u hsu
  revert hends
  cases hx : x s with
  | ok v s' =>
    cases hy : y u with
    | ok v' u' =>
      rintro ⟨rfl, hk⟩
      rw [recorded_of_ok call hx]
      -- a measurement is handed over only where the settings ask for it
      by_cases hname : call.name ∈ MEASUREMENT_METHOD_NAMES
      · by_cases hlog : a.settings.rawHwLogMeasurements = true
        · obtain ⟨trail, hrun, hcounters, hhanded⟩ :=
            wrapped_of_measurement a sig (recorded_of_ok call hy) hname hlog
          rw [hrun]
          exact ⟨rfl, hk.measured hsig hname hlog hcounters hhanded⟩
        · rw [Bool.not_eq_true] at hlog
          rw [wrapped_of_unlogged a sig (recorded_of_ok call hy) hname hlog]
          refine ⟨rfl, hk.pass ?_ fun htrue ↦ ?_⟩
          · rw [due, hsome]
            simp [hname, hlog]
          · rw [hlog] at htrue
            cases htrue
      · obtain ⟨trail, p, hrun, hcounters, hhanded⟩ :=
          wrapped_of_ok a sig (recorded_of_ok call hy) hname
        rw [hrun]
        refine ⟨rfl, hk.hand ?_ ⟨sig, .ok v, p, hsig, rfl, rfl⟩ hhanded fun hlog name hn ha ↦
          hk.counters_cons hcounters (fun hm ↦ absurd hm hname) hlog hn ha⟩
        rw [due, hsome]
        simp [hname]
    | error | diverged => exact False.elim
  | error e s' =>
    cases hy : y u with
    | error e' u' =>
      rintro ⟨rfl, hk⟩
      rw [recorded_of_error call hx]
      cases e with
      | exception e =>
        obtain ⟨trail, p, hrun, hcounters, hhanded⟩ :=
          wrapped_of_exception a sig (recorded_of_error call hy)
        rw [hrun]
        refine ⟨rfl, hk.hand ?_ ⟨sig, .error e, p, hsig, rfl, rfl⟩ hhanded fun hlog name hn ha ↦
          hk.counters_cons hcounters (fun _ ↦ rfl) hlog hn ha⟩
        rw [due, hsome]
        rfl
      | interrupt name =>
        -- no `except Exception` sees an interrupt, so nothing is handed over
        rw [wrapped_of_interrupt a sig (recorded_of_error call hy)]
        refine ⟨rfl, hk.pass ?_ fun _ _ _ ↦ rfl⟩
        rw [due, Bool.and_false]
    | ok | diverged => exact False.elim
  | diverged =>
    cases hy : y u with
    | diverged =>
      rw [recorded_of_diverged call hx, wrapped_of_diverged a sig (recorded_of_diverged call hy)]
      exact id
    | ok | error => exact False.elim

section

variable {x : Instance W V} {call : MethodCall V} (depth : ℕ)

theorem invoke_of_none (a : Auditor P V) (h : x.attributes call.name = none) :
    x.invoke a (depth + 1) call = .raise (.exception ⟨.other "AttributeError",
      s!"'{x.className}' object has no attribute '{call.name}'"⟩) := by
  rw [Instance.invoke, h]

theorem invoke_of_method (a : Auditor P V) {m : Method W V}
    (h : x.attributes call.name = some (.method m)) :
    x.invoke a (depth + 1) call
      = recorded call ((m.code call.arguments).run worldLens (x.invoke a depth)) := by
  rw [Instance.invoke, h]

theorem invoke_of_wrapper (a : Auditor P V) {sig : Signature} {m : Method W V}
    (h : x.attributes call.name = some (.wrapper sig m)) :
    x.invoke a (depth + 1) call = wrapped a sig call
      (recorded call ((m.code call.arguments).run worldLens (x.invoke a depth))) := by
  rw [Instance.invoke, h]

end

theorem className_instrumented (settings : AuditSettings) (x : Instance W V) :
    (instrumentHardwareInstance settings x).className = x.className := by
  rw [instrumentHardwareInstance]
  split
  · rfl
  · split <;> rfl

/-- A method that is not wrapped stays what it is, and one that is, is the wrapper of itself. -/
theorem attributes_instrumented (name : String) :
    (instrumentHardwareInstance a.settings d.plain).attributes name
      = (d.methods name).map fun m ↦ m.attribute (audited a d name) := by
  have hfresh : d.plain.auditInstrumented = false := rfl
  rw [instrumentHardwareInstance, hfresh, if_neg Bool.false_ne_true]
  cases hm : d.methods name with
  | none =>
    split
    · change ((d.methods name).map _).map _ = _
      rw [hm]
      rfl
    · change (d.methods name).map _ = _
      rw [hm]
      rfl
  | some m =>
    rw [audited, hm]
    split
    · next henabled =>
      change ((d.methods name).map _).map _ = _
      rw [hm, Option.map_some, Option.map_some, Option.map_some, Option.bind_some,
        Attribute.instrument]
      cases isPublic name with
      | false =>
        rw [if_neg Bool.false_ne_true, if_neg fun h ↦ Bool.false_ne_true h.2]
        rfl
      | true => rw [if_pos rfl, if_pos ⟨henabled, rfl⟩]
    · next hdisabled =>
      change (d.methods name).map _ = _
      rw [hm, if_neg fun h ↦ hdisabled h.1]
      rfl

/-- **A call**, and with it the calls it makes. -/
theorem agree_invoke (depth : ℕ) (call : MethodCall V) :
    Agree (Kept a d) (d.plain.invoke a depth call)
      ((instrumentHardwareInstance a.settings d.plain).invoke a depth call) := by
  induction depth generalizing call with
  | zero => exact fun _ _ _ ↦ trivial
  | succ depth ih =>
    have hrun (m : Method W V) : Agree (Kept a d)
        ((m.code call.arguments).run worldLens (d.plain.invoke a depth))
        ((m.code call.arguments).run worldLens
          ((instrumentHardwareInstance a.settings d.plain).invoke a depth)) :=
      agree_run (fun _ _ h ↦ h.world) (fun _ _ _ h ↦ ⟨rfl, h.calls, h.handed, h.counters⟩) ih _
    have hattributes : (instrumentHardwareInstance a.settings d.plain).attributes call.name = _ :=
      attributes_instrumented call.name
    cases hm : d.methods call.name with
    | none =>
      rw [hm, Option.map_none] at hattributes
      have hplain : d.plain.attributes call.name = none := by
        change (d.methods call.name).map Attribute.method = _
        rw [hm, Option.map_none]
      rw [invoke_of_none depth a hplain, invoke_of_none depth a hattributes, className_instrumented]
      exact .raise _
    | some m =>
      rw [hm, Option.map_some] at hattributes
      have hplain : d.plain.attributes call.name = some (.method m) := by
        change (d.methods call.name).map Attribute.method = _
        rw [hm, Option.map_some]
      rw [invoke_of_method depth a hplain]
      cases hsig : audited a d call.name with
      | none =>
        rw [hsig] at hattributes
        rw [invoke_of_method depth a hattributes]
        exact agree_recorded (hrun m) hsig
      | some sig =>
        rw [hsig] at hattributes
        rw [invoke_of_wrapper depth a hattributes]
        exact agree_wrapped (hrun m) hsig

theorem agree_session (depth : ℕ) (calls : List (MethodCall V)) :
    Agree (Kept a d) (d.plain.session a depth calls)
      ((instrumentHardwareInstance a.settings d.plain).session a depth calls) := by
  induction calls with
  | nil => exact .pure _
  | cons call calls ih =>
    exact (agree_invoke depth call).attempt.bind fun _ ↦ ih.bind fun _ ↦ .pure _

/-- The two objects when nothing has been called yet. -/
theorem kept_start (world : W) (db connectFailed : Bool) (surroundings : P) :
    Kept a d (Bench.start world db connectFailed surroundings)
      (Bench.start world db connectFailed surroundings) where
  world := rfl
  calls := rfl
  handed := .nil
  counters _ _ _ _ := rfl

/-- **Instrumenting twice** is instrumenting once. -/
theorem instrumentHardwareInstance_instrumentHardwareInstance (settings : AuditSettings)
    (x : Instance W V) :
    instrumentHardwareInstance settings (instrumentHardwareInstance settings x)
      = instrumentHardwareInstance settings x := by
  by_cases hdone : x.auditInstrumented = true
  · have hsame : instrumentHardwareInstance settings x = x := by
      rw [instrumentHardwareInstance, if_pos hdone]
    rw [hsame, hsame]
  · by_cases henabled : settings.enableRawHardwareLogging = true
    · have hflag : (instrumentHardwareInstance settings x).auditInstrumented = true := by
        rw [instrumentHardwareInstance, if_neg hdone, if_pos henabled]
      rw [instrumentHardwareInstance, if_pos hflag]
    · have hsame : instrumentHardwareInstance settings x = x := by
        rw [instrumentHardwareInstance, if_neg hdone, if_neg henabled]
      rw [hsame, hsame]

end

/-! ## Transparency -/

section

variable (a : Auditor P V) (d : Driver W V)

/-- After any sequence of calls, the rows handed to the writer are those of the calls a rule
selects. -/
def HandsOver (rule : Completion V → List (Completion V) → Bool) : Prop :=
  ∀ depth calls world db connectFailed surroundings,
    Post ((instrumentHardwareInstance a.settings d.plain).session a depth calls)
      (fun _ u ↦ List.Forall₂ (RowOf a d) u.trail.handed (selected rule u.calls))
      (fun _ _ ↦ False) (Bench.start world db connectFailed surroundings)

/-- What instrumentation promises. -/
structure Transparent : Prop where
  /-- Every sequence of calls ends the same way on both objects: with the same results and
  exceptions, and with the same effect on the world. -/
  runs : ∀ depth calls world db connectFailed surroundings,
    (d.plain.session a depth calls (Bench.start world db connectFailed surroundings)).Agree
      (fun s u ↦ s.world = u.world ∧ s.calls = u.calls)
      ((instrumentHardwareInstance a.settings d.plain).session a depth calls
        (Bench.start world db connectFailed surroundings))
  handed : HandsOver a d (due a d)
  once : instrumentHardwareInstance a.settings (instrumentHardwareInstance a.settings d.plain)
    = instrumentHardwareInstance a.settings d.plain

theorem raises_session (x : Instance W V) (depth : ℕ) (calls : List (MethodCall V)) :
    Raises (fun _ ↦ False) (x.session a depth calls) := by
  induction calls with
  | nil => exact .pure _
  | cons call calls ih => exact .bind (.attempt _) fun _ ↦ .bind ih fun _ ↦ .pure _

/-- **The audit is transparent**, whatever the driver does, whatever becomes of the database and
whatever the rate. -/
theorem transparent : Transparent a d where
  runs depth calls world db connectFailed surroundings :=
    (agree_session depth calls _ _ (kept_start world db connectFailed surroundings)).mono
      fun _ _ h ↦ ⟨h.world, h.calls⟩
  handed depth calls world db connectFailed surroundings := by
    have hkept := (agree_session (a := a) (d := d) depth calls _ _
      (kept_start world db connectFailed surroundings)).post_right
    have hraises := raises_session a (instrumentHardwareInstance a.settings d.plain) depth calls
      (Bench.start world db connectFailed surroundings)
    refine (hkept.and hraises).mono ?_ fun _ _ h ↦ h.2
    rintro _ u ⟨⟨s, hs⟩, -⟩
    exact hs.handed
  once := instrumentHardwareInstance_instrumentHardwareInstance a.settings d.plain

theorem HandsOver.length_eq {a : Auditor P V} {d : Driver W V}
    {rule : Completion V → List (Completion V) → Bool} (h : HandsOver a d rule) (depth : ℕ)
    (calls : List (MethodCall V)) (world : W) (db connectFailed : Bool) (surroundings : P) :
    Post ((instrumentHardwareInstance a.settings d.plain).session a depth calls)
      (fun _ u ↦ u.trail.handed.length = (selected rule u.calls).length) (fun _ _ ↦ False)
      (Bench.start world db connectFailed surroundings) :=
  (h depth calls world db connectFailed surroundings).mono (fun _ _ h ↦ h.length_eq) fun _ _ h ↦ h

/-- The rule without a switch, and with every way to fail: a call is selected if it fails, if its
method is not a measurement, or by its index among those that returned. -/
def dueAlways (c : Completion V) (earlier : List (Completion V)) : Bool :=
  (audited a d c.call.name).isSome &&
    (!c.ended.isOk || c.call.name ∉ MEASUREMENT_METHOD_NAMES ||
      returned c.call.name earlier % a.settings.rate == 0)

end

/-- A driver with a measurement that returns, and a method that is interrupted. -/
def probeDriver : Driver Unit Unit where
  className := "DMM"
  methods name :=
    if name = "measure" then some ⟨some ⟨[], [], false, false⟩, fun _ ↦ .ret ()⟩
    else if name = "connect" then
      some ⟨some ⟨[], [], false, false⟩, fun _ ↦ .raise (.interrupt "KeyboardInterrupt")⟩
    else none

/-- An auditor whose database always works. -/
def plainAuditor (logMeasurements : Bool) : Auditor Unit Unit where
  settings := ⟨true, logMeasurements, 1⟩
  deviceType := "DMM"
  name := some "DMM_PXI1Slot4"
  resource := some "PXI1Slot4"
  asInt _ := none
  runIdProvider p := (none, p)
  connect p := (none, p)
  insert _ p := (none, p)

/-- Where measurements are not logged, one that returns is not handed over; and nowhere is a call
that is interrupted. -/
theorem not_handsOver_dueAlways :
    ¬HandsOver (plainAuditor false) probeDriver (dueAlways (plainAuditor false) probeDriver) ∧
      ¬HandsOver (plainAuditor true) probeDriver (dueAlways (plainAuditor true) probeDriver) := by
  refine ⟨fun h ↦ not_post_of_final ?_ (h.length_eq 1 [⟨"measure", ⟨[], []⟩⟩] () false false ()),
    fun h ↦ not_post_of_final ?_ (h.length_eq 1 [⟨"connect", ⟨[], []⟩⟩] () false false ())⟩
  · decide +kernel
  · decide +kernel

end Nipxi.Audit
