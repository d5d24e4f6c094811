import Nipxi.TestControl.Traversal
import Nipxi.Transition.System

/-!
# The sense path of a charge or a discharge

`hardware/sense_router.py` under `ChargeSequence.run` and `DischargeSequence.run`: a phase connects
its sense channel, writes a row about it, and only then enters the `try` whose `finally` disconnects
it. So if the storage refuses that row, the phase ends with the channel connected. The one later
chance to disconnect it is the final voltage reading of `run_guarded`, which connects and
disconnects the channel itself, if the rows before it can be written. `shutdown` of the router
closes the sessions of its relay matrices and opens no relay.

`leavesNoneConnected_iff` says exactly which runs leave nothing connected.
-/

open Collections Effect Transition

namespace Nipxi

/-! ## What happens to a sense channel -/

/-- How `connect` of the router ended. -/
inductive ConnectEnd where
  | returned
  /-- It raised, with its relay energized or not, and a failed command to open it or none. -/
  | raised (energized openFailed : Bool)
  deriving DecidableEq

/-- What happens to a sense channel. -/
inductive SenseEvent where
  | connect (ended : ConnectEnd)
  /-- `storage.log_event`, called right after a connect that returned. -/
  | row (written : Bool)
  /-- `disconnect` returned, or raised and left the relay energized or not. -/
  | disconnect (raised : Option Bool)
  deriving DecidableEq

/-- The world of a station, and what happened to the sense channel, newest first. -/
structure SenseWorld (Y : Type) where
  inner : Y
  events : List SenseEvent

/-- What is none of the channel's. -/
def SenseWorld.lift {Y α : Type} (f : Y → α × Y) (w : SenseWorld Y) : α × SenseWorld Y :=
  ((f w.inner).1, ⟨(f w.inner).2, w.events⟩)

/-- A station with a sense router. -/
structure SenseBench (Y : Type) where
  station : Station Y
  /-- `ConfigDrivenSenseRouter.connect`: if it raises, the exception, whether the relay is left
  energized, and whether a command to open it failed. -/
  connect : ℕ → Y → Option (Exc × Bool × Bool) × Y
  /-- `ConfigDrivenSenseRouter.disconnect`: if it raises, the exception, and whether the relay is
  left energized. -/
  disconnect : ℕ → Y → Option (Exc × Bool) × Y

namespace SenseBench

variable {Y : Type} (b : SenseBench Y)

/-- `connect`. -/
def connectSense (channel : ℕ) (w : SenseWorld Y) : Option Exc × SenseWorld Y :=
  match b.connect channel w.inner with
  | (none, y) => (none, ⟨y, .connect .returned :: w.events⟩)
  | (some (e, energized, openFailed), y) =>
    (some e, ⟨y, .connect (.raised energized openFailed) :: w.events⟩)

/-- `disconnect`. -/
def disconnectSense (channel : ℕ) (w : SenseWorld Y) : Option Exc × SenseWorld Y :=
  match b.disconnect channel w.inner with
  | (none, y) => (none, ⟨y, .disconnect none :: w.events⟩)
  | (some (e, energized), y) => (some e, ⟨y, .disconnect (some energized) :: w.events⟩)

/-- `storage.log_event`. -/
def logEvent (entry : EventEntry) (w : SenseWorld Y) : Option Exc × SenseWorld Y :=
  if w.events.head? = some (.connect .returned) then
    ((b.station.perform (.logEvent entry) w.inner).1,
      ⟨(b.station.perform (.logEvent entry) w.inner).2,
        .row (b.station.perform (.logEvent entry) w.inner).1.isNone :: w.events⟩)
  else SenseWorld.lift (b.station.perform (.logEvent entry)) w

/-- `read_battery_voltage_via_sense`. -/
def readBatteryVoltageViaSense (channel : ℕ) (w : SenseWorld Y) : Except Exc ℚ × SenseWorld Y :=
  match b.connectSense channel w with
  | (some e, w) => (.error e, w)
  | (none, w) =>
    match SenseWorld.lift (b.station.read .battery) w with
    | (result, w) =>
      -- An exception of the `finally` replaces that of the measurement.
      match b.disconnectSense channel w with
      | (some e, w) => (.error e, w)
      | (none, w) => (result, w)

/-- `ConfigDrivenSenseRouter.shutdown`: it closes sessions, and never raises. -/
def shutdown (w : SenseWorld Y) : Option Exc × SenseWorld Y :=
  (none, (SenseWorld.lift (b.station.perform .senseRouterShutdown) w).2)

/-- The station with the router, whose one channel is this. -/
def attached (channel : ℕ) : Station (SenseWorld Y) where
  perform
    | .senseConnect c => b.connectSense c
    | .senseDisconnect c => b.disconnectSense c
    | .senseRouterShutdown => b.shutdown
    | .logEvent entry => b.logEvent entry
    | op => SenseWorld.lift (b.station.perform op)
  read
    | .finalVoltage => b.readBatteryVoltageViaSense channel
    | reading => SenseWorld.lift (b.station.read reading)
  emergencyOutputOff reason := SenseWorld.lift (b.station.emergencyOutputOff reason)
  sequence n := SenseWorld.lift (b.station.sequence n)
  ntcVoltageToCelsius := b.station.ntcVoltageToCelsius

end SenseBench

/-- The settings of a sequence at a station with a sense router, with the route of its channel. -/
def SequenceRun.attached {Y : Type} (r : SequenceRun Y) (route : SenseRoutingEntry) :
    SequenceRun (SenseWorld Y) where
  channel := r.channel
  relayAddress := r.relayAddress
  relayMatrixName := r.relayMatrixName
  smuModel := r.smuModel
  smuResource := r.smuResource
  sense := some route
  chargeCurrentA := r.chargeCurrentA
  chargeVoltageV := r.chargeVoltageV
  dischargeCurrentA := r.dischargeCurrentA
  dischargeCutoffV := r.dischargeCutoffV
  voltageMinV := r.voltageMinV
  voltageMaxV := r.voltageMaxV
  chargeFields := SenseWorld.lift r.chargeFields
  dischargeFields := SenseWorld.lift r.dischargeFields
  verificationResult w := r.verificationResult w.inner
  cycleCount := r.cycleCount
  cycleRestS := r.cycleRestS

/-! ## What is left -/

/-- Every connect that returned is followed by an attempt to disconnect. -/
def Released : List SenseEvent → Prop :=
  FollowedBy (· = .connect .returned) fun ev ↦ ∃ raised, ev = .disconnect raised

/-- Whether the relay of the channel is energized. -/
def SenseEnergized : List SenseEvent → Prop
  | [] => False
  | .connect .returned :: _ => True
  | .connect (.raised energized _) :: _ => energized
  | .row _ :: older => SenseEnergized older
  | .disconnect none :: _ => False
  | .disconnect (some energized) :: _ => energized

/-- A command to open the relay failed. -/
def SenseEvent.FailsOpening : SenseEvent → Prop
  | .connect (.raised _ openFailed) => openFailed
  | .disconnect (some _) => True
  | .connect .returned | .row _ | .disconnect none => False

/-- An attempt to disconnect follows every connect that returned, and if the relay is energized, a
command to open it failed. -/
def LeavesNoneConnected (events : List SenseEvent) : Prop :=
  Released events ∧ (SenseEnergized events → ∃ ev ∈ events, ev.FailsOpening)

/-- Where the row about a connected channel was refused, a later connect returned. -/
def Reconnected : List SenseEvent → Prop :=
  FollowedBy (· = .row false) (· = .connect .returned)

/-- Where a connect raised last and left the relay energized, a command to open it failed. -/
def LastConnectOpens (events : List SenseEvent) : Prop :=
  ∀ openFailed older, events = .connect (.raised true openFailed) :: older →
    ∃ ev ∈ events, ev.FailsOpening

section Left

variable {events : List SenseEvent}

/-- After an attempt to disconnect, nothing is left. -/
theorem leavesNoneConnected_disconnect (raised : Option Bool) :
    LeavesNoneConnected (.disconnect raised :: events) := by
  refine ⟨followedBy_cons_iff.mpr ⟨nofun, Or.inl ⟨raised, rfl⟩⟩, fun henergized ↦ ?_⟩
  cases raised with
  | none => exact henergized.elim
  | some energized => exact ⟨_, List.mem_cons_self, trivial⟩

theorem leavesNoneConnected_raised_iff {energized openFailed : Bool}
    (h : Released events ↔ Reconnected events) :
    LeavesNoneConnected (.connect (.raised energized openFailed) :: events) ↔
      Reconnected (.connect (.raised energized openFailed) :: events) ∧
        LastConnectOpens (.connect (.raised energized openFailed) :: events) := by
  refine and_congr ?_ ?_
  · unfold Released Reconnected at h ⊢
    rw [followedBy_cons_iff, followedBy_cons_iff]
    simpa using h
  · constructor
    · intro hopen failed older hevents
      obtain ⟨hev, -⟩ := List.cons.inj hevents
      obtain ⟨rfl, -⟩ := ConnectEnd.raised.inj (SenseEvent.connect.inj hev)
      exact hopen rfl
    · intro hopen henergized
      change energized = true at henergized
      obtain rfl := henergized
      exact hopen _ _ rfl

end Left

/-! ## What a run does to the channel -/

/-- What a final voltage reading adds, if it is made. -/
inductive ReadingEvents : List SenseEvent → Prop
  | none : ReadingEvents []
  | raised (energized openFailed : Bool) :
    ReadingEvents [.connect (.raised energized openFailed)]
  | made (raised : Option Bool) : ReadingEvents [.disconnect raised, .connect .returned]

/-- What the body of a phase adds. -/
inductive PhaseEvents : List SenseEvent → Prop
  | none : PhaseEvents []
  | raised (energized openFailed : Bool) : PhaseEvents [.connect (.raised energized openFailed)]
  | refused : PhaseEvents [.row false, .connect .returned]
  | made (raised : Option Bool) :
    PhaseEvents [.disconnect raised, .row true, .connect .returned]

/-- What a phase adds, with the handler of its guard. -/
def RunEvents (events : List SenseEvent) : Prop :=
  ∃ newer older, ReadingEvents newer ∧ PhaseEvents older ∧ events = newer ++ older

theorem PhaseEvents.released_iff {events : List SenseEvent} (h : PhaseEvents events) :
    Released events ↔ Reconnected events := by
  cases h with
  | none => exact iff_of_true followedBy_nil followedBy_nil
  | raised energized openFailed =>
    simp [Released, Reconnected, followedBy_cons_iff, followedBy_nil]
  | refused => simp [Released, Reconnected, followedBy_cons_iff]
  | made raised => simp [Released, Reconnected, followedBy_cons_iff]

theorem lastConnectOpens_of_head {ev : SenseEvent} {events : List SenseEvent}
    (h : ∀ openFailed, ev ≠ .connect (.raised true openFailed)) :
    LastConnectOpens (ev :: events) := fun openFailed _ hevents ↦
  absurd (List.cons.inj hevents).1 (h openFailed)

/-- **What a run leaves**, from what it did to the channel. -/
theorem RunEvents.leaves_iff {events : List SenseEvent} (h : RunEvents events) :
    LeavesNoneConnected events ↔ Reconnected events ∧ LastConnectOpens events := by
  obtain ⟨newer, older, hnewer, holder, rfl⟩ := h
  -- A reading that is made settles everything before it; one that fails to connect settles nothing.
  cases hnewer with
  | raised energized openFailed => exact leavesNoneConnected_raised_iff holder.released_iff
  | made raised =>
    refine iff_of_true (leavesNoneConnected_disconnect raised) ⟨?_, ?_⟩
    · refine followedBy_cons_iff.mpr ⟨nofun, Or.inr ?_⟩
      exact followedBy_cons_iff.mpr ⟨nofun, Or.inl rfl⟩
    · exact lastConnectOpens_of_head nofun
  | none =>
    rw [List.nil_append]
    cases holder with
    | none =>
      refine iff_of_true ⟨followedBy_nil, False.elim⟩ ⟨followedBy_nil, ?_⟩
      exact fun _ _ hevents ↦ absurd hevents nofun
    | raised energized openFailed =>
      exact leavesNoneConnected_raised_iff (iff_of_true followedBy_nil followedBy_nil)
    | refused =>
      refine iff_of_false (fun hleaves ↦ ?_) fun hreconnected ↦ ?_
      · have hreleased := hleaves.1
        simp [Released, followedBy_cons_iff] at hreleased
      · exact (followedBy_cons_iff.mp hreconnected.1).1 rfl
    | made raised =>
      refine iff_of_true (leavesNoneConnected_disconnect raised) ⟨?_, ?_⟩
      · simp [Reconnected, followedBy_cons_iff]
      · exact lastConnectOpens_of_head nofun

/-- No row is owed to a connect that returned. -/
def NoRowDue (events : List SenseEvent) : Prop := events.head? ≠ some (.connect .returned)

theorem RunEvents.noRowDue {events : List SenseEvent} (h : RunEvents events) : NoRowDue events := by
  obtain ⟨newer, older, hnewer, holder, rfl⟩ := h
  unfold NoRowDue
  cases hnewer <;> cases holder <;> simp

theorem PhaseEvents.run {events : List SenseEvent} (h : PhaseEvents events) : RunEvents events :=
  ⟨[], events, .none, h, rfl⟩

theorem PhaseEvents.noRowDue {events : List SenseEvent} (h : PhaseEvents events) :
    NoRowDue events := h.run.noRowDue

theorem noRowDue_nil {events : List SenseEvent} (h : events = []) : NoRowDue events := by
  rw [h]
  exact nofun

section Run

variable {Y : Type} {b : SenseBench Y} {r : SequenceRun Y} {route : SenseRoutingEntry}
  {channel : ℕ}

/-- The channel is left alone, if no row is due. -/
def LeavesSense (s t : StationSession (SenseWorld Y)) : Prop :=
  NoRowDue s.world.events → t.world.events = s.world.events

theorem leaves_call {op : Operation} (hconnect : ∀ c, op ≠ .senseConnect c)
    (hdisconnect : ∀ c, op ≠ .senseDisconnect c) :
    Ends LeavesSense (StationProg.call (b.attached channel) op) := by
  refine ends_call fun s hs ↦ ?_
  change ((b.attached channel).perform op s.world).2.events = s.world.events
  cases op with
  | senseConnect c => exact absurd rfl (hconnect c)
  | senseDisconnect c => exact absurd rfl (hdisconnect c)
  | logEvent entry =>
    change (b.logEvent entry s.world).2.events = s.world.events
    rw [SenseBench.logEvent, if_neg hs]
    rfl
  | _ => rfl

theorem traverses_attached : Traverses (b.attached channel) LeavesSense where
  refl _ _ := rfl
  trans s t u hst htu hs := by
    have ht := hst hs
    rw [← ht] at hs ⊢
    exact htu hs
  call op hop := by
    refine leaves_call (fun c hc ↦ ?_) fun c hc ↦ ?_
    · rw [hc] at hop
      exact hop
    · rw [hc] at hop
      exact hop
  read reading hreading := by
    refine ends_read fun s hs ↦ ?_
    cases reading with
    | finalVoltage => exact absurd rfl hreading
    | _ => rfl
  emergencyOutputOff _ _ := ⟨_, rfl, fun _ ↦ rfl⟩
  note _ _ _ := ⟨_, rfl, fun _ ↦ rfl⟩

/-- What holds of the events holds after code that leaves the channel alone. -/
theorem post_of_leaves {α : Type} {x : StationProg (SenseWorld Y) α} (hx : Ends LeavesSense x)
    {P : List SenseEvent → Prop} (hP : ∀ {events}, P events → NoRowDue events)
    {s : StationSession (SenseWorld Y)} (h : P s.world.events) :
    Post x (fun _ t ↦ P t.world.events) (fun _ t ↦ P t.world.events) s := by
  have hkeep : ∀ t, LeavesSense s t → P t.world.events := fun t hst ↦ by
    rw [hst (hP h)]
    exact h
  exact (hx.within s).mono (fun _ t ↦ hkeep t) fun _ t ↦ hkeep t

theorem post_call_of_perform {X : Type} {st : Station X} {op : Operation}
    {Q : PUnit → StationSession X → Prop} {E : Exc → StationSession X → Prop}
    {s : StationSession X}
    (hreturned : ∀ world, st.perform op s.world = (none, world) →
      Q ⟨⟩ (s.after (.call op none) world))
    (hraised : ∀ e world, st.perform op s.world = (some e, world) →
      E e (s.after (.call op (some e)) world)) :
    Post (StationProg.call st op) Q E s := by
  unfold Post StationProg.call
  rcases hperform : st.perform op s.world with ⟨_ | e, world⟩
  · exact hreturned world hperform
  · exact hraised e world hperform

theorem post_read_of_world {X : Type} {st : Station X} {reading : Reading} {P : X → Prop}
    {s : StationSession X} (h : P (st.read reading s.world).2) :
    Post (StationProg.read st reading) (fun _ t ↦ P t.world) (fun _ t ↦ P t.world) s := by
  unfold Post StationProg.read
  rcases hread : st.read reading s.world with ⟨e | v, world⟩
  · rw [hread] at h
    exact h
  · rw [hread] at h
    exact h

theorem connectSense_cases {w w' : SenseWorld Y} {raised : Option Exc}
    (h : b.connectSense channel w = (raised, w')) :
    raised = none ∧ w'.events = .connect .returned :: w.events ∨
      ∃ e energized openFailed, raised = some e ∧
        w'.events = .connect (.raised energized openFailed) :: w.events := by
  unfold SenseBench.connectSense at h
  split at h
  · obtain ⟨rfl, rfl⟩ := Prod.mk.inj h
    exact Or.inl ⟨rfl, rfl⟩
  · obtain ⟨rfl, rfl⟩ := Prod.mk.inj h
    exact Or.inr ⟨_, _, _, rfl, rfl⟩

theorem disconnectSense_events {w w' : SenseWorld Y} {raised : Option Exc}
    (h : b.disconnectSense channel w = (raised, w')) :
    ∃ failed, w'.events = .disconnect failed :: w.events := by
  unfold SenseBench.disconnectSense at h
  split at h
  · obtain ⟨-, rfl⟩ := Prod.mk.inj h
    exact ⟨_, rfl⟩
  · obtain ⟨-, rfl⟩ := Prod.mk.inj h
    exact ⟨_, rfl⟩

/-- The same, before what is done next. -/
theorem post_bind_of_leaves {α β : Type} {x : StationProg (SenseWorld Y) α}
    {f : α → StationProg (SenseWorld Y) β} (hx : Ends LeavesSense x)
    {P : List SenseEvent → Prop} (hP : ∀ {events}, P events → NoRowDue events)
    {Q : β → StationSession (SenseWorld Y) → Prop} {E : Exc → StationSession (SenseWorld Y) → Prop}
    {s : StationSession (SenseWorld Y)} (h : P s.world.events)
    (hf : ∀ a t, P t.world.events → Post (f a) Q E t) (hE : ∀ e t, P t.world.events → E e t) :
    Post (x >>= f) Q E s :=
  (post_bind f).mpr ((post_of_leaves hx hP h).mono hf hE)

/-- Connecting adds its outcome. -/
theorem post_senseConnect (s : StationSession (SenseWorld Y)) :
    Post (StationProg.call (b.attached channel) (.senseConnect route.channel))
      (fun _ t ↦ t.world.events = .connect .returned :: s.world.events)
      (fun _ t ↦ ∃ energized openFailed,
        t.world.events = .connect (.raised energized openFailed) :: s.world.events) s := by
  refine post_call_of_perform (fun world hperform ↦ ?_) fun e world hperform ↦ ?_
  · rcases connectSense_cases hperform with ⟨-, h⟩ | ⟨_, _, _, h, -⟩
    · exact h
    · cases h
  · rcases connectSense_cases hperform with ⟨h, -⟩ | ⟨_, energized, openFailed, -, h⟩
    · cases h
    · exact ⟨energized, openFailed, h⟩

theorem post_row {ph : Phase (SenseWorld Y)} {older : List SenseEvent} (message : String)
    {s : StationSession (SenseWorld Y)} (hs : s.world.events = .connect .returned :: older) :
    Post (logInfo (b.attached channel) ph message)
      (fun _ t ↦ t.world.events = .row true :: .connect .returned :: older)
      (fun _ t ↦ t.world.events = .row false :: .connect .returned :: older) s := by
  have hdue : s.world.events.head? = some (.connect .returned) := by
    rw [hs]
    rfl
  refine post_call_of_perform (fun world hperform ↦ ?_) fun e world hperform ↦ ?_
  · change b.logEvent _ s.world = _ at hperform
    rw [SenseBench.logEvent, if_pos hdue] at hperform
    obtain ⟨hnone, rfl⟩ := Prod.mk.inj hperform
    change SenseEvent.row _ :: s.world.events = _
    rw [hnone, hs]
    rfl
  · change b.logEvent _ s.world = _ at hperform
    rw [SenseBench.logEvent, if_pos hdue] at hperform
    obtain ⟨hsome, rfl⟩ := Prod.mk.inj hperform
    change SenseEvent.row _ :: s.world.events = _
    rw [hsome, hs]
    rfl

theorem post_connectSense {ph : Phase (SenseWorld Y)} {s : StationSession (SenseWorld Y)}
    (hs : s.world.events = []) :
    Post (connectSense (b.attached channel) (r.attached route) ph)
      (fun _ t ↦ t.world.events = [.row true, .connect .returned])
      (fun _ t ↦ PhaseEvents t.world.events) s := by
  refine (post_bind _).mpr ((post_senseConnect s).mono (fun _ t ht ↦ ?_) ?_)
  · rw [hs] at ht
    refine (post_row _ ht).mono (fun _ _ hu ↦ hu) fun _ u hu ↦ ?_
    rw [hu]
    exact .refused
  · rintro e t ⟨energized, openFailed, ht⟩
    rw [ht, hs]
    exact .raised energized openFailed

theorem post_disconnectSense {ph : Phase (SenseWorld Y)} (s : StationSession (SenseWorld Y)) :
    Post (disconnectSense (b.attached channel) (r.attached route) ph)
      (fun _ t ↦ ∃ raised, t.world.events = .disconnect raised :: s.world.events)
      (fun _ _ ↦ False) s := by
  have hcall : Post (StationProg.call (b.attached channel) (.senseDisconnect route.channel))
      (fun _ t ↦ ∃ raised, t.world.events = .disconnect raised :: s.world.events)
      (fun _ t ↦ ∃ raised, t.world.events = .disconnect raised :: s.world.events) s :=
    post_call_of_perform (fun _ hperform ↦ disconnectSense_events hperform)
      fun _ _ hperform ↦ disconnectSense_events hperform
  refine (post_handle _).mpr ((post_bind _).mpr (hcall.mono (fun _ t ht ↦ ?_) fun _ _ ht ↦ ht))
  refine (post_of_leaves (traverses_attached.dwells.logEvent _)
    (P := fun events ↦ ∃ raised, events = .disconnect raised :: s.world.events) ?_ ht).mono
    (fun _ _ hu ↦ hu) fun _ _ hu ↦ hu
  rintro _ ⟨raised, rfl⟩
  exact nofun

/-- **The body of a phase.** -/
theorem post_phaseBody {ph : Phase (SenseWorld Y)} {s : StationSession (SenseWorld Y)}
    (hs : s.world.events = []) :
    Post (phaseBody (b.attached channel) (r.attached route) ph)
      (fun _ t ↦ PhaseEvents t.world.events) (fun _ t ↦ PhaseEvents t.world.events) s := by
  have hR : Traverses (b.attached channel) LeavesSense := traverses_attached
  -- From the connect on: the `try` is entered only with the row written.
  have hsense : ∀ t : StationSession (SenseWorld Y), t.world.events = [] →
      Post (do
          connectSense (b.attached channel) (r.attached route) ph
          (energize (b.attached channel) (r.attached route) ph).ensuring
            (disconnectSense (b.attached channel) (r.attached route) ph))
        (fun _ u ↦ PhaseEvents u.world.events) (fun _ u ↦ PhaseEvents u.world.events) t := by
    intro t ht
    refine (post_connectSense ht).bind fun _ u hu ↦ ?_
    have hleaves : Ends LeavesSense (energize (b.attached channel) (r.attached route) ph) :=
      hR.dwells.energize (leaves_call nofun nofun)
    have henergize := post_of_leaves
      (P := fun events ↦ events = [.row true, .connect .returned]) hleaves
      (by rintro _ rfl; exact nofun) hu
    have hfinally : ∀ v : StationSession (SenseWorld Y),
        v.world.events = [.row true, .connect .returned] →
        Post (disconnectSense (b.attached channel) (r.attached route) ph)
          (fun _ w ↦ PhaseEvents w.world.events) (fun _ w ↦ PhaseEvents w.world.events) v := by
      intro v hv
      refine (post_disconnectSense v).mono ?_ fun _ _ h ↦ h.elim
      rintro _ w ⟨raised, hw⟩
      rw [hw, hv]
      exact .made raised
    refine (post_ensuring _).mpr (henergize.mono (fun _ v hv ↦ ?_) fun _ v hv ↦ ?_)
    · exact hfinally v hv
    · exact hfinally v hv
  have hnone : ∀ t : StationSession (SenseWorld Y), t.world.events = [] →
      PhaseEvents t.world.events := fun t ht ↦ by
    rw [ht]
    exact .none
  refine post_bind_of_leaves (hR.call _ (by trivial)) noRowDue_nil hs (fun _ t ht ↦ ?_)
    fun _ ↦ hnone
  refine post_bind_of_leaves (hR.call _ (by trivial)) noRowDue_nil ht (fun _ t ht ↦ ?_)
    fun _ ↦ hnone
  refine post_bind_of_leaves (hR.dwells.logEvent _) noRowDue_nil ht (fun _ t ht ↦ ?_) fun _ ↦ hnone
  refine post_bind_of_leaves (hR.dwells.logEvent _) noRowDue_nil ht (fun _ t ht ↦ ?_) fun _ ↦ hnone
  exact post_bind_of_leaves (hR.call _ (by trivial)) noRowDue_nil ht (fun _ t ht ↦ hsense t ht)
    fun _ ↦ hnone

/-- The final voltage reading connects and disconnects, or fails to connect. -/
theorem post_finalVoltage (s : StationSession (SenseWorld Y)) :
    Post (StationProg.read (b.attached channel) .finalVoltage)
      (fun _ t ↦ ∃ newer, ReadingEvents newer ∧ t.world.events = newer ++ s.world.events)
      (fun _ t ↦ ∃ newer, ReadingEvents newer ∧ t.world.events = newer ++ s.world.events) s := by
  have hread : ∃ newer, ReadingEvents newer ∧
      (b.readBatteryVoltageViaSense channel s.world).2.events = newer ++ s.world.events := by
    unfold SenseBench.readBatteryVoltageViaSense
    rcases hconnect : b.connectSense channel s.world with ⟨raised, w⟩
    rcases connectSense_cases hconnect with ⟨rfl, hw⟩ | ⟨e, energized, openFailed, rfl, hw⟩
    · dsimp only
      rcases hdisconnect : b.disconnectSense channel
        (SenseWorld.lift (b.station.read .battery) w).2 with ⟨raised, w'⟩
      obtain ⟨failed, hw'⟩ := disconnectSense_events hdisconnect
      have hevents : w'.events = [.disconnect failed, .connect .returned] ++ s.world.events := by
        rw [hw']
        exact congrArg _ hw
      refine ⟨_, .made failed, ?_⟩
      cases raised <;> exact hevents
    · exact ⟨_, .raised energized openFailed, hw⟩
  exact post_read_of_world (P := fun w : SenseWorld Y ↦ ∃ newer, ReadingEvents newer ∧
    w.events = newer ++ s.world.events) hread

variable {g : GuardedRun (SenseWorld Y)}

theorem post_recordFailure (hfields : Ends LeavesSense (extraRunSummaryFields g))
    (clause : ExceptClause) {s : StationSession (SenseWorld Y)} (hs : PhaseEvents s.world.events) :
    Post (recordFailure (b.attached channel) g clause) (fun _ t ↦ RunEvents t.world.events)
      (fun _ t ↦ RunEvents t.world.events) s := by
  have hR : Traverses (b.attached channel) LeavesSense := traverses_attached
  have hread : ∀ t : StationSession (SenseWorld Y), PhaseEvents t.world.events →
      Post (safeFinalVoltageReading (b.attached channel) g) (fun _ u ↦ RunEvents u.world.events)
        (fun _ u ↦ RunEvents u.world.events) t := by
    intro t ht
    refine post_ite.mpr ?_
    split
    · refine (post_bind _).mpr (post_attempt.mpr ((post_finalVoltage t).mono ?_ ?_))
      · rintro v u ⟨newer, hnewer, hu⟩
        exact ⟨newer, _, hnewer, ht, hu⟩
      · rintro e u ⟨newer, hnewer, hu⟩
        exact ⟨newer, _, hnewer, ht, hu⟩
    · exact ht.run
  refine post_bind_of_leaves (hR.dwells.onEvent _) PhaseEvents.noRowDue hs (fun _ t ht ↦ ?_)
    fun _ _ ↦ PhaseEvents.run
  refine post_bind_of_leaves (hR.dwells.logEvents _) PhaseEvents.noRowDue ht (fun _ t ht ↦ ?_)
    fun _ _ ↦ PhaseEvents.run
  refine post_bind_of_leaves (hR.call _ (by trivial)) PhaseEvents.noRowDue ht (fun _ t ht ↦ ?_)
    fun _ _ ↦ PhaseEvents.run
  refine post_bind_of_leaves hfields PhaseEvents.noRowDue ht (fun _ t ht ↦ ?_)
    fun _ _ ↦ PhaseEvents.run
  refine (hread t ht).bind fun _ u hu ↦ ?_
  exact post_of_leaves (hR.call _ (by trivial)) RunEvents.noRowDue hu

/-- **A charge or a discharge**, however it ends. -/
theorem post_runPhase {ph : Phase (SenseWorld Y)}
    (hfields : Ends LeavesSense (extraRunSummaryFields ph.guarded))
    {s : StationSession (SenseWorld Y)} (hs : s.world.events = []) :
    Post (runPhase (b.attached channel) (r.attached route) ph)
      (fun _ t ↦ RunEvents t.world.events) (fun _ t ↦ RunEvents t.world.events) s := by
  have hR : Traverses (b.attached channel) LeavesSense := traverses_attached
  refine post_bind_of_leaves (hR.call _ (by trivial)) noRowDue_nil hs (fun _ t ht ↦ ?_)
    fun _ t ht ↦ ?_
  · refine (post_bind _).mpr ((post_handle _).mpr ((post_phaseBody ht).mono (fun _ u hu ↦ ?_) ?_))
    · exact post_of_leaves (hR.dwells.complete hfields _) RunEvents.noRowDue hu.run
    · intro e u hu
      refine (post_recordFailure hfields _ hu).bind fun _ v hv ↦ ?_
      refine post_bind_of_leaves (hR.dwells.shutDown _ _) RunEvents.noRowDue hv (fun _ w hw ↦ ?_)
        fun _ _ hw ↦ hw
      exact hw
  · rw [ht]
    exact PhaseEvents.none.run

end Run

/-! ## Runs -/

/-- A sequence, however it ends, and then `shutdown` of the router. -/
def thenShutdown {X : Type} (st : Station X) (x : StationProg X PUnit) : StationProg X PUnit := do
  let _ ← x.attempt
  StationProg.call st .senseRouterShutdown

/-- A charge or a discharge. -/
def SequenceRun.phase {X : Type} (r : SequenceRun X) (discharging : Bool) : Phase X :=
  if discharging then dischargePhase r else chargePhase r

theorem leaves_fields {Y : Type} (r : SequenceRun Y) (route : SenseRoutingEntry)
    (discharging : Bool) :
    Ends LeavesSense (extraRunSummaryFields ((r.attached route).phase discharging).guarded) := by
  refine ends_extraRunSummaryFields fun s raised _ ↦ ?_
  cases discharging <;> rfl

/-- **Exactly which runs leave nothing connected.** The row about the connected channel is not
refused, or a later connect, that of the final voltage reading, returns; and if a connect raises
last, it leaves the relay open, or a command to open it failed. -/
theorem leavesNoneConnected_iff {Y : Type} (b : SenseBench Y) (r : SequenceRun Y)
    (route : SenseRoutingEntry) (discharging : Bool) (y : Y) :
    ∃ t : StationSession (SenseWorld Y),
      thenShutdown (b.attached route.channel)
        (runPhase (b.attached route.channel) (r.attached route)
          ((r.attached route).phase discharging)) ⟨⟨y, []⟩, []⟩ = .ok ⟨⟩ t ∧
      (LeavesNoneConnected t.world.events ↔
        Reconnected t.world.events ∧ LastConnectOpens t.world.events) := by
  have hR : Traverses (b.attached route.channel) LeavesSense := traverses_attached
  have hall := spans_true (b.attached route.channel) (r.attached route)
  have := hall.toIsPreorder
  have hends : Ends (fun _ _ ↦ True) (thenShutdown (b.attached route.channel)
      (runPhase (b.attached route.channel) (r.attached route)
        ((r.attached route).phase discharging))) :=
    .bind (.attempt (hall.runPhase (ends_extraRunSummaryFields fun _ _ ↦ trivial)
      (ends_call fun _ ↦ trivial))) fun _ ↦ hall.call _ trivial
  have hshutdown : ∀ t : StationSession (SenseWorld Y), RunEvents t.world.events →
      Post (StationProg.call (b.attached route.channel) .senseRouterShutdown)
        (fun _ u ↦ RunEvents u.world.events) (fun _ _ ↦ False) t := fun t ht ↦
    post_call_of_perform (fun world hperform ↦ by
      rw [← (Prod.mk.inj hperform).2]
      exact ht) fun e world hperform ↦ by cases (Prod.mk.inj hperform).1
  have hrun : Post (thenShutdown (b.attached route.channel)
      (runPhase (b.attached route.channel) (r.attached route)
        ((r.attached route).phase discharging))) (fun _ t ↦ RunEvents t.world.events)
      (fun _ _ ↦ False) ⟨⟨y, []⟩, []⟩ :=
    (post_bind _).mpr (post_attempt.mpr
      ((post_runPhase (leaves_fields r route discharging) rfl).mono
        (fun _ t ht ↦ hshutdown t ht) fun _ t ht ↦ hshutdown t ht))
  obtain ⟨_, t, hok, ht⟩ := hends.exists_ok hrun
  exact ⟨t, hok, ht.leaves_iff⟩

/-! ## A disk that fills up -/

/-- A station whose storage takes two rows of the event log, and a router that does what it is
asked. The world counts the rows. -/
def fillingBench : SenseBench ℕ where
  station :=
    { perform := fun op rows ↦
        match op with
        | .logEvent _ =>
          if rows < 2 then (none, rows + 1)
          else (some ⟨.sqliteOperationalError, "database or disk is full"⟩, rows)
        | _ => (none, rows)
      read := fun _ rows ↦ (.ok 4, rows)
      emergencyOutputOff := fun _ rows ↦ (true, rows)
      sequence := fun _ rows ↦ ((.completed, true), rows)
      ntcVoltageToCelsius := fun _ ↦ none }
  connect _ rows := (none, rows)
  disconnect _ rows := (none, rows)

/-- A run on the first position. -/
def firstPosition : SequenceRun ℕ where
  channel := 1
  relayAddress := 1
  relayMatrixName := "MATRIX_NUMATO_202"
  smuModel := "PXI-4130"
  smuResource := "PXI1Slot7"
  sense := none
  chargeCurrentA := 1
  chargeVoltageV := 21 / 5
  dischargeCurrentA := 1
  dischargeCutoffV := 3
  voltageMinV := 11 / 4
  voltageMaxV := 21 / 5
  chargeFields rows := (.ok Dict.empty, rows)
  dischargeFields rows := (.ok Dict.empty, rows)
  verificationResult _ := "DISABLED"
  cycleCount := 1
  cycleRestS := 0

/-- With the disk full after the second row, the third, about the connected channel, is refused,
and the channel stays connected. -/
theorem not_leavesNoneConnected_filling :
    ¬∀ (Y : Type) (b : SenseBench Y) (r : SequenceRun Y) (route : SenseRoutingEntry)
      (discharging : Bool) (y : Y), ∃ t : StationSession (SenseWorld Y),
        thenShutdown (b.attached route.channel)
          (runPhase (b.attached route.channel) (r.attached route)
            ((r.attached route).phase discharging)) ⟨⟨y, []⟩, []⟩ = .ok ⟨⟩ t ∧
        LeavesNoneConnected t.world.events := by
  intro h
  obtain ⟨t, hok, hreleased, -⟩ := h ℕ fillingBench firstPosition
    ⟨1, some "MATRIX_NUMATO_201", some 1⟩ false 0
  have hevents : (thenShutdown (fillingBench.attached 1)
      (runPhase (fillingBench.attached 1)
        (firstPosition.attached ⟨1, some "MATRIX_NUMATO_201", some 1⟩)
        ((firstPosition.attached ⟨1, some "MATRIX_NUMATO_201", some 1⟩).phase false))
      ⟨⟨0, []⟩, []⟩).final.map (·.world.events) = some [.row false, .connect .returned] := by
    decide +kernel
  rw [hok] at hevents
  have ht : t.world.events = [.row false, .connect .returned] := Option.some.inj hevents
  rw [ht] at hreleased
  simp [Released, followedBy_cons_iff] at hreleased

end Nipxi
