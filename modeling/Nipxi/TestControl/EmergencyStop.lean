import Nipxi.Effect.Logging
import Nipxi.Hardware.SmuShutdown

/-!
# Emergency stop and safe cancellation

`SafetyMonitor.emergency_stop` and `SafetyMonitor.safe_cancel_shutdown`: the output off, all relays
open, the setpoint to zero, with an event before and after. The two are written out twice and
differ in the lines they log.

Both project to one sequence without a log (`isolationSequence`), so they make the same calls; what
these calls are is a fact about that sequence alone (`post_isolationSequence`).
-/

open Effect

namespace Nipxi

/-! ## The lines -/

/-- The level of a line. -/
inductive LogLevel where
  | info
  | warning
  | error
  | critical
  deriving DecidableEq

/-- A line of the log. -/
structure LogLine where
  level : LogLevel
  text : String
  deriving DecidableEq

/-- What the two sequences log, for a reason and for the exception of `open_all`. -/
structure StopWording where
  entered : String → String
  headline : String → LogLine
  unverified : String
  openAllFailed : String → String
  complete : LogLine

/-- The lines of `emergency_stop`. -/
def emergencyStopWording : StopWording where
  entered reason := s!"[SHUTDOWN-TRACE] emergency_stop() entered (reason={reason})"
  headline reason := ⟨.error, s!"EMERGENCY STOP: {reason}"⟩
  unverified := "PMU output could not be verified OFF during e-stop. PMU may still be " ++
    "actively sourcing/sinking current -- physically disconnect power if " ++
    "this cannot be resolved immediately."
  openAllFailed e := s!"Relay open-all FAILED during e-stop: {e}. Hardware may still be " ++
    "energized -- physically disconnect power if this cannot be " ++
    "resolved immediately."
  complete := ⟨.warning, "Emergency stop complete."⟩

/-- The lines of `safe_cancel_shutdown`. -/
def safeCancelWording : StopWording where
  entered reason := s!"[SHUTDOWN-TRACE] safe_cancel_shutdown() entered (reason={reason})"
  headline reason := ⟨.warning, s!"SAFE CANCELLATION: {reason} -- entering safe shutdown"⟩
  unverified := "PMU output could not be verified OFF during cancellation shutdown. " ++
    "PMU may still be actively sourcing/sinking current -- physically " ++
    "disconnect power if this cannot be resolved immediately."
  openAllFailed e := s!"Relay open-all FAILED during cancellation shutdown: {e}. Hardware may " ++
    "still be energized -- physically disconnect power if this cannot be " ++
    "resolved immediately."
  complete := ⟨.info, "Safe cancellation shutdown complete."⟩

/-! ## The sequences -/

/-- What both functions are called with, and the hardware behind it. -/
structure StopStation (V : Type) where
  smu : SmuConfig
  nidcpower : Nidcpower V
  /-- `relay_matrix.open_all`: the exception it raises, if any. -/
  openAll : V → Option String × V
  /-- `relay_matrix.name`, where it has one. -/
  relayName : Option String
  onEvent : OnEvent V
  /-- `Settings.EMERGENCY_OUTPUT_OFF_MAX_ATTEMPTS`. -/
  maxAttempts : ℕ

/-- A station with every call on it recorded. -/
def StopStation.taped {V : Type} (st : StopStation V) : StopStation (Taped V) where
  smu := st.smu
  nidcpower := st.nidcpower.taped
  openAll := Taped.along .openAll st.openAll
  relayName := st.relayName
  onEvent := st.onEvent.taped
  maxAttempts := st.maxAttempts

/-- Code that logs. -/
abbrev StopProg (V α : Type) := Prog Exc (Logged LogLine (Smu V)) α

namespace StopStation

section

variable {V : Type} (st : StopStation V)

/-- `_emit`. -/
def emit (message : String) : SmuProg V Unit := Smu.emit st.onEvent message

/-- `self.log.<level>(text)`. -/
def logLine (level : LogLevel) (text : String) : StopProg V Unit := Prog.writeLine ⟨level, text⟩

/-- The line on an output that is not verified off. -/
def logUnverified (w : StopWording) (verified : Bool) : StopProg V Unit :=
  if verified then pure () else logLine .critical w.unverified

/-- The two functions, for the lines they log. -/
def stopSequence (w : StopWording) (reason : String) : StopProg V Unit := do
  logLine .warning (w.entered reason)
  Prog.writeLine (w.headline reason)
  (st.emit (eventMessage "EMERGENCY_STOP_STARTED" [("reason", reason)])).unlogged
  let verified ← (Smu.emergencyOutputOffReporting st.smu st.nidcpower st.onEvent st.maxAttempts
    reason).unlogged
  logUnverified w verified
  logLine .warning "[SHUTDOWN-TRACE] Relay open command sending (open_all())"
  (do (niDoing st.openAll).unlogged
      logLine .warning "[SHUTDOWN-TRACE] Relay open command sent -- open_all() returned normally"
      (st.emit "relay_matrix.open_all executed").unlogged
      (st.emit (eventMessage "RELAY_OPEN_ALL"
        [("relay_matrix_name", st.relayName)])).unlogged).handle fun e ↦ do
    logLine .critical (w.openAllFailed e.message)
    (st.emit s!"relay_matrix.open_all FAILED: {e.message}").unlogged
  (do let _ ← (Smu.zeroOutputSetpointBestEffort st.nidcpower st.onEvent).unlogged
      pure ()).handle fun e ↦
    logLine .warning ("Post-isolation SMU setpoint-zeroing raised unexpectedly " ++
      s!"(non-critical, shutdown already complete): {e.message}")
  Prog.writeLine w.complete
  (st.emit "shutdown completed").unlogged
  (st.emit (eventMessage "EMERGENCY_STOP_COMPLETED" [("reason", reason)])).unlogged

/-- `emergency_stop`. -/
def emergencyStop (reason : String) : StopProg V Unit :=
  stopSequence st emergencyStopWording reason

/-- `safe_cancel_shutdown`. -/
def safeCancelShutdown (reason : String) : StopProg V Unit :=
  stopSequence st safeCancelWording reason

/-! ## One sequence -/

/-- The relays open, or the event that they did not. -/
def openRelays : SmuProg V Unit :=
  (do niDoing st.openAll
      st.emit "relay_matrix.open_all executed"
      st.emit (eventMessage "RELAY_OPEN_ALL" [("relay_matrix_name", st.relayName)])).handle
    fun e ↦ st.emit s!"relay_matrix.open_all FAILED: {e.message}"

/-- The setpoint to zero. -/
def zeroAfterIsolation : SmuProg V Unit :=
  (do let _ ← Smu.zeroOutputSetpointBestEffort st.nidcpower st.onEvent
      pure ()).handle fun _ ↦ pure ()

/-- What both do to the hardware. -/
def isolationSequence (reason : String) : SmuProg V Unit := do
  st.emit (eventMessage "EMERGENCY_STOP_STARTED" [("reason", reason)])
  let _ ← Smu.emergencyOutputOffReporting st.smu st.nidcpower st.onEvent st.maxAttempts reason
  openRelays st
  zeroAfterIsolation st
  st.emit "shutdown completed"
  st.emit (eventMessage "EMERGENCY_STOP_COMPLETED" [("reason", reason)])

/-- **Two texts of one sequence.** Whatever they log, both functions do the same. -/
theorem projects_stopSequence (w : StopWording) (reason : String) :
    Projects (stopSequence st w reason) (isolationSequence st reason) := by
  refine .skip (.writeLine _) (.skip (.writeLine _) (.bind (.unlogged _) fun _ ↦ ?_))
  refine .bind (.unlogged _) fun verified ↦ .skip (.ite (.pure _) (.writeLine _)) ?_
  refine .skip (.writeLine _) (.bind (.handle ?_ fun e ↦ ?_) fun _ ↦ ?_)
  · refine .bind (.unlogged _) fun _ ↦ .skip (.writeLine _) ?_
    exact .bind (.unlogged _) fun _ ↦ .unlogged _
  · exact .skip (.writeLine _) (.unlogged _)
  · refine .bind (.handle ?_ fun e ↦ .writeLine _) fun _ ↦ .skip (.writeLine _) ?_
    · exact .bind (.unlogged _) fun _ ↦ .pure _
    · exact .bind (.unlogged _) fun _ ↦ .unlogged _

/-! ## The calls -/

/-- An event reported to the callback. -/
def IsEvent : SmuCall → Prop
  | .event _ _ => True
  | .session _ | .openAll _ | .duringHold _ | .hold _ => False

/-- The calls of one run of a function of the driver, which returns. -/
def IsRunOf {α : Type} (x : SmuProg (Taped V) α) (new : List SmuCall) : Prop :=
  ∃ u v a, x u = .ok a v ∧ Smu.Adds new u v

/-- **An isolation**, newest call first: events, the attempts to turn the output off, one
`open_all`, the setpoint to zero, and events. -/
def IsIsolation (reason : String) (new : List SmuCall) : Prop :=
  ∃ started off raised opened zeroing completed,
    new = completed ++ (zeroing ++ (opened ++ (.openAll raised :: (off ++ started)))) ∧
    (Smu.AllCalls IsEvent started ∧ Smu.AllCalls IsEvent opened ∧
      Smu.AllCalls IsEvent completed) ∧
    (Smu.AllCalls Smu.IsDriverCall off ∧ IsRunOf (Smu.emergencyOutputOffReporting st.smu
      st.nidcpower.taped st.onEvent.taped st.maxAttempts reason) off) ∧
    (Smu.Harmless zeroing ∧ IsRunOf (Smu.zeroOutputSetpointBestEffort st.nidcpower.taped
      st.onEvent.taped) zeroing)

theorem post_emit_events (message : String) (s : Smu (Taped V)) :
    Post (st.taped.emit message) (fun _ t ↦ ∃ new, Smu.Adds new s t ∧ Smu.AllCalls IsEvent new)
      (fun _ _ ↦ False) s := by
  refine (Smu.post_emit st.onEvent message s).mono ?_ fun _ _ h ↦ h
  rintro _ t ⟨new, hst, hnew⟩
  refine ⟨new, hst, ?_⟩
  cases honEvent : st.onEvent with
  | none =>
    rw [honEvent] at hnew
    obtain rfl : new = [] := hnew
    exact fun c hc ↦ absurd hc List.not_mem_nil
  | some f =>
    rw [honEvent] at hnew
    obtain ⟨raised, rfl⟩ : ∃ raised, new = [.event message raised] := hnew
    intro c hc
    rw [List.mem_singleton.mp hc]
    trivial

/-- Two events. -/
theorem post_emit_emit (message message' : String) (s : Smu (Taped V)) :
    Post (st.taped.emit message >>= fun _ ↦ st.taped.emit message')
      (fun _ t ↦ ∃ new, Smu.Adds new s t ∧ Smu.AllCalls IsEvent new) (fun _ _ ↦ False) s := by
  refine (post_bind _).mpr ((post_emit_events st message s).mono ?_ fun _ _ h ↦ h)
  rintro _ t ⟨old, hst, hold⟩
  refine (post_emit_events st message' t).mono ?_ fun _ _ h ↦ h
  rintro _ u ⟨new, htu, hnew⟩
  exact ⟨new ++ old, hst.append htu, fun c hc ↦
    (List.mem_append.mp hc).elim (hnew c) (hold c)⟩

/-- The relays are asked to open once, whatever comes of it. -/
theorem post_openRelays (s : Smu (Taped V)) :
    Post (openRelays st.taped)
      (fun _ t ↦ ∃ raised opened, Smu.Adds (opened ++ [.openAll raised]) s t ∧
        Smu.AllCalls IsEvent opened) (fun _ _ ↦ False) s := by
  refine (post_handle _).mpr ((post_bind _).mpr ((post_bind _).mpr ?_))
  refine (Smu.adds_niCall .openAll st.openAll s).mono (fun raised t hst ↦ ?_) fun _ _ h ↦ h.elim
  cases raised with
  | none =>
    refine (post_emit_emit st _ _ t).mono ?_ fun _ _ h ↦ h.elim
    rintro _ u ⟨opened, htu, hopened⟩
    exact ⟨none, opened, hst.append htu, hopened⟩
  | some e =>
    refine (post_emit_events st _ t).mono ?_ fun _ _ h ↦ h
    rintro _ u ⟨opened, htu, hopened⟩
    exact ⟨some e, opened, hst.append htu, hopened⟩

theorem post_zeroAfterIsolation (s : Smu (Taped V)) :
    Post (zeroAfterIsolation st.taped)
      (fun _ t ↦ ∃ zeroing, Smu.Adds zeroing s t ∧ Smu.Harmless zeroing ∧
        IsRunOf (Smu.zeroOutputSetpointBestEffort st.nidcpower.taped st.onEvent.taped) zeroing)
      (fun _ _ ↦ False) s := by
  obtain ⟨zeroed, t, hrun, zeroing, hadds, hharmless⟩ :=
    (Smu.harmless_applyZeroSetpoint st.nidcpower st.onEvent "post-isolation").exists_ok
      (Smu.post_of_harmless (Smu.harmless_applyZeroSetpoint st.nidcpower st.onEvent _)
        (Smu.raises_applyZeroSetpointReporting st.nidcpower.taped st.onEvent.taped _) s)
  refine (post_handle _).mpr ((post_bind _).mpr ?_)
  refine (post_of_ok (x := Smu.zeroOutputSetpointBestEffort _ _) hrun).mpr ?_
  exact ⟨zeroing, hadds, hharmless, s, t, zeroed, hrun, hadds⟩

/-- **The sequence isolates**, and raises nothing. -/
theorem post_isolationSequence (reason : String) (s : Smu (Taped V)) :
    Post (isolationSequence st.taped reason)
      (fun _ t ↦ ∃ new, Smu.Adds new s t ∧ IsIsolation st reason new) (fun _ _ ↦ False) s := by
  refine (post_bind _).mpr ((post_emit_events st _ s).mono ?_ fun _ _ h ↦ h)
  rintro _ t ⟨started, hst, hstarted⟩
  have hends := Smu.ends_emergencyOutputOffReporting st.smu st.nidcpower st.onEvent
    st.maxAttempts reason
  obtain ⟨verified, u, hrun, hobject, off, htu, hoff⟩ := hends.exists_ok
    (((hends.within t).and (Smu.post_emergencyOutputOffReporting_true st.smu st.nidcpower.taped
      st.onEvent.taped st.maxAttempts reason t)).mono (fun _ _ h ↦ h.1) fun _ _ h ↦ h.2)
  have hadds : Smu.Adds off t u := ⟨hobject, off, htu, rfl⟩
  refine (post_bind _).mpr ((post_of_ok (x := Smu.emergencyOutputOffReporting _ _ _ _ _)
    hrun).mpr ?_)
  refine (post_bind _).mpr ((post_openRelays st u).mono ?_ fun _ _ h ↦ h)
  rintro _ v ⟨raised, opened, huv, hopened⟩
  refine (post_bind _).mpr ((post_zeroAfterIsolation st v).mono ?_ fun _ _ h ↦ h)
  rintro _ w ⟨zeroing, hvw, hzeroing, hzeroRun⟩
  refine (post_emit_emit st _ _ w).mono ?_ fun _ _ h ↦ h
  rintro _ x ⟨completed, hwx, hcompleted⟩
  refine ⟨_, (((hst.append hadds).append huv).append hvw).append hwx, started, off, raised, opened,
    zeroing, completed, ?_, ⟨hstarted, hopened, hcompleted⟩, ⟨hoff, t, u, verified, hrun, hadds⟩,
    hzeroing, hzeroRun⟩
  rw [List.append_assoc opened, List.singleton_append]

/-! ## Both functions -/

theorem ends_isolationSequence (reason : String) :
    Ends (Smu.Calling (Smu.AllCalls fun _ ↦ True)) (isolationSequence st.taped reason) := by
  have hemit : ∀ message,
      Ends (Smu.Calling (Smu.AllCalls fun _ ↦ True)) (st.taped.emit message) := fun message ↦
    Smu.calling_emit st.onEvent message fun _ ↦ trivial
  have hloose : ∀ {α : Type} {K : SmuCall → Prop} {x : SmuProg (Taped V) α},
      Ends (Smu.Calling (Smu.AllCalls K)) x →
        Ends (Smu.Calling (Smu.AllCalls fun _ ↦ True)) x := by
    intro α K x hx s
    obtain ⟨t, ht, hobject, hadded⟩ := hx s
    exact ⟨t, ht, hobject, hadded.mono fun _ _ _ _ ↦ trivial⟩
  refine .bind (hemit _) fun _ ↦ ?_
  refine .bind (hloose (Smu.ends_emergencyOutputOffReporting st.smu st.nidcpower st.onEvent
    st.maxAttempts reason)) fun _ ↦ .bind ?_ fun _ ↦ .bind ?_ fun _ ↦ ?_
  · refine .handle (.bind ?_ fun _ ↦ .bind (hemit _) fun _ ↦ hemit _) fun _ ↦ hemit _
    exact Smu.calling_niDoing .openAll st.openAll fun _ ↦ trivial
  · refine .handle (.bind ?_ fun _ ↦ .pure _) fun _ ↦ .pure _
    exact hloose (Smu.harmless_applyZeroSetpoint st.nidcpower st.onEvent _)
  · exact .bind (hemit _) fun _ ↦ hemit _

/-- Whether a call is `open_all`. -/
def isOpenAll : SmuCall → Bool
  | .openAll _ => true
  | .session _ | .event _ _ | .duringHold _ | .hold _ => false

theorem countP_isOpenAll_eq_zero {K : SmuCall → Prop} {new : List SmuCall}
    (h : Smu.AllCalls K new) (hK : ∀ raised, ¬K (.openAll raised)) :
    new.countP isOpenAll = 0 := by
  refine List.countP_eq_zero.mpr fun c hc hopen ↦ ?_
  cases c with
  | openAll raised => exact hK raised (h _ hc)
  | session | event | duringHold | hold => exact Bool.false_ne_true hopen

theorem IsIsolation.openAll_once {reason : String} {new : List SmuCall}
    (h : IsIsolation st reason new) : new.countP isOpenAll = 1 := by
  obtain ⟨started, off, raised, opened, zeroing, completed, rfl, ⟨hstarted, hopened, hcompleted⟩,
    ⟨hoff, -⟩, hzeroing, -⟩ := h
  have hevent : ∀ raised, ¬IsEvent (.openAll raised) := fun _ ↦ id
  rw [List.countP_append, List.countP_append, List.countP_append, List.countP_cons,
    List.countP_append, countP_isOpenAll_eq_zero hcompleted hevent,
    countP_isOpenAll_eq_zero hzeroing fun _ ↦ id, countP_isOpenAll_eq_zero hopened hevent,
    countP_isOpenAll_eq_zero hoff fun _ ↦ id, countP_isOpenAll_eq_zero hstarted hevent]
  rfl

/-- **One hardware sequence.** From every state `emergency_stop` and `safe_cancel_shutdown` return
and leave the same world behind, with the same calls made on it: an isolation, with one `open_all`
after all attempts to turn the output off and before the setpoint is zeroed. -/
theorem emergencyStop_safeCancelShutdown (reason : String) (s : Logged LogLine (Smu (Taped V))) :
    ∃ t t' new, st.taped.emergencyStop reason s = .ok () t ∧
      st.taped.safeCancelShutdown reason s = .ok () t' ∧ t'.inner = t.inner ∧
      Smu.taped t.inner = new ++ Smu.taped s.inner ∧ IsIsolation st reason new ∧
      new.countP isOpenAll = 1 := by
  obtain ⟨_, u, hrun, new, hadds, hnew⟩ := (ends_isolationSequence st reason).exists_ok
    (post_isolationSequence st reason s.inner)
  obtain ⟨t, ht, htu⟩ := (projects_stopSequence st.taped emergencyStopWording reason).exists_ok hrun
  obtain ⟨t', ht', htu'⟩ := (projects_stopSequence st.taped safeCancelWording reason).exists_ok hrun
  obtain ⟨-, added, hadded, rfl⟩ := hadds
  refine ⟨t, t', added, ht, ht', htu'.trans htu.symm, ?_, hnew, hnew.openAll_once⟩
  rw [htu]
  exact hadded

end

end StopStation

end Nipxi
