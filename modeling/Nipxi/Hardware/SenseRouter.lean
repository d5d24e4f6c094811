import Mathlib.Data.Rat.Defs
import Nipxi.Collections.Dict
import Nipxi.Effect.Ending
import Nipxi.Effect.Lens
import Nipxi.Effect.Observe
import Nipxi.Orchestration.Ownership
import Nipxi.Utils.Errors

/-!
# The sense router

`ConfigDrivenSenseRouter` maps a sense channel to a relay of a relay matrix. It makes a relay object
for a matrix when a channel of the matrix is asked for first, connects it, and keeps it until
`shutdown`. `routerObserver` reads off a journal of the calls of all relay objects which of them are
connected, and says what may be asked of them: `router_lawful` is about every history of calls of a
router, each of which may return or raise.
-/

open Collections Effect

namespace Nipxi

/-! ## The router -/

/-- What a router is constructed with. A relay matrix is configured by a `C`. -/
structure SenseConfig (C : Type) where
  senseRouting : SenseRouting
  relayMatrixConfigs : Dict String C

/-- The relays of a matrix, by channel: `channel_to_relay`. -/
def SenseConfig.channelToRelay {C : Type} (cfg : SenseConfig C) (matrixName : String) : Dict ℤ ℕ :=
  Dict.assign ((cfg.senseRouting.items.filter fun p ↦ p.2.relayMatrix = matrixName).map
    fun p ↦ (p.1, p.2.relay)) Dict.empty

/-- A call. Relay objects are numbered in the order in which they were made. -/
inductive RouterEntry (C : Type) where
  /-- `relay_factory_create`, for a matrix. -/
  | create (matrixName : String) (cfg : C) (raised : Option Exc)
  | connectRelay (relay : ℕ) (raised : Option Exc)
  | closeRelay (relay address : ℕ) (raised : Option Exc)
  | openRelay (relay address : ℕ) (raised : Option Exc)
  | disconnectRelay (relay : ℕ) (raised : Option Exc)
  /-- `dmm.measure_dc_voltage`, for a sense channel or for none. -/
  | measure (channel : Option ℤ) (result : Except Exc ℚ)

/-- What a router calls, over worlds `X`. -/
structure RelayFactory (X C : Type) where
  create : C → X → Option Exc × X
  connect : ℕ → X → Option Exc × X
  closeRelay : ℕ → ℕ → X → Option Exc × X
  openRelay : ℕ → ℕ → X → Option Exc × X
  disconnect : ℕ → X → Option Exc × X
  measureDcVoltage : X → Except Exc ℚ × X

/-- A call of a router. -/
inductive RouterCall where
  | connect (channel : ℤ)
  | disconnect (channel : ℤ)
  | read (channel : Option ℤ)
  | shutdown

/-- `NumatoSenseRouter`. -/
structure NumatoSenseRouter where
  /-- The number of its relay object. -/
  relay : ℕ
  channelToRelay : Dict ℤ ℕ

/-- A router, with a journal of what it called. -/
structure RouterState (X C : Type) where
  journal : Journal X (RouterEntry C)
  /-- `_routers_by_matrix`. -/
  routersByMatrix : Dict String NumatoSenseRouter
  /-- The number of relay objects that were made. -/
  created : ℕ

/-- Programs of a router. -/
abbrev RouterProg (X C α : Type) := Prog Exc (RouterState X C) α

namespace RouterState

variable {X C : Type}

/-- A router that has called nothing. -/
def init (x : X) : RouterState X C := ⟨⟨x, []⟩, Dict.empty, 0⟩

/-- What was called, newest first. -/
def entries (s : RouterState X C) : List (RouterEntry C) := s.journal.entries

/-- The variables of the router. -/
def vars (s : RouterState X C) : Dict String NumatoSenseRouter × ℕ := (s.routersByMatrix, s.created)

/-- The journal. -/
def journalLens : Lens (RouterState X C) (Journal X (RouterEntry C)) where
  get s := s.journal
  set j s := { s with journal := j }
  get_set _ _ := rfl
  set_get _ := rfl
  set_set _ _ _ := rfl

end RouterState

section Program

variable {X C : Type} (f : RelayFactory X C) (cfg : SenseConfig C)

/-- A call that may raise. -/
def routerCall (g : X → Option Exc × X) (entry : Option Exc → RouterEntry C) :
    RouterProg X C PUnit :=
  (Journal.call g entry).zoom RouterState.journalLens

/-- `_routers_by_matrix`. -/
def routersByMatrix : RouterProg X C (Dict String NumatoSenseRouter) := fun s ↦
  .ok s.routersByMatrix s

/-- Assigning to `_routers_by_matrix`. -/
def setRouters (g : Dict String NumatoSenseRouter → Dict String NumatoSenseRouter) :
    RouterProg X C PUnit :=
  Prog.modify fun s ↦ { s with routersByMatrix := g s.routersByMatrix }

/-- The number of the relay object that was just made. -/
def newRelay : RouterProg X C ℕ := fun s ↦ .ok s.created { s with created := s.created + 1 }

/-- `NumatoSenseRouter._resolve`. -/
def NumatoSenseRouter.resolve (router : NumatoSenseRouter) (channel : ℤ) : RouterProg X C ℕ :=
  match router.channelToRelay.get? channel with
  | some relay => pure relay
  | none => Prog.raise ⟨.configurationError,
      s!"NumatoSenseRouter: sense channel {channel} has no relay mapping on this matrix " ++
        s!"(known channels: {router.channelToRelay.keys.mergeSort})."⟩

/-- `NumatoSenseRouter.connect`. -/
def NumatoSenseRouter.connect (router : NumatoSenseRouter) (channel : ℤ) :
    RouterProg X C PUnit := do
  let address ← router.resolve channel
  routerCall (f.closeRelay router.relay address) (.closeRelay router.relay address)

/-- `NumatoSenseRouter.disconnect`. -/
def NumatoSenseRouter.disconnect (router : NumatoSenseRouter) (channel : ℤ) :
    RouterProg X C PUnit := do
  let address ← router.resolve channel
  routerCall (f.openRelay router.relay address) (.openRelay router.relay address)

namespace ConfigDrivenSenseRouter

/-- A relay object for a matrix, connected and kept. -/
def openMatrix (matrixName : String) (matrixCfg : C) : RouterProg X C NumatoSenseRouter := do
  routerCall (f.create matrixCfg) (.create matrixName matrixCfg)
  let relay ← newRelay
  routerCall (f.connect relay) (.connectRelay relay)
  let router : NumatoSenseRouter := ⟨relay, cfg.channelToRelay matrixName⟩
  setRouters fun routers ↦ routers.insert matrixName router
  pure router

/-- `_router_for_matrix`. -/
def routerForMatrix (matrixName : String) : RouterProg X C NumatoSenseRouter := do
  let routers ← routersByMatrix
  match routers.get? matrixName with
  | some router => pure router
  | none =>
    match cfg.relayMatrixConfigs.get? matrixName with
    | some matrixCfg => openMatrix f cfg matrixName matrixCfg
    | none => Prog.raise ⟨.configurationError,
        "ConfigDrivenSenseRouter: SENSE_ROUTING names relay matrix " ++ "'" ++ matrixName ++
          "', which has no config entry."⟩

/-- `_router_for_channel`. -/
def routerForChannel (channel : ℤ) : RouterProg X C NumatoSenseRouter :=
  match cfg.senseRouting.get? channel with
  | some route => routerForMatrix f cfg route.relayMatrix
  | none => Prog.raise ⟨.configurationError,
      s!"ConfigDrivenSenseRouter: sense channel {channel} is not configured in " ++
        "config/devices.py::SENSE_ROUTING (known channels: " ++
        s!"{cfg.senseRouting.keys.mergeSort})."⟩

/-- `connect`. -/
def connect (channel : ℤ) : RouterProg X C PUnit := do
  let router ← routerForChannel f cfg channel
  router.connect f channel

/-- `disconnect`. -/
def disconnect (channel : ℤ) : RouterProg X C PUnit := do
  let router ← routerForChannel f cfg channel
  router.disconnect f channel

/-- Disconnecting the relay object of a router, whatever comes of it. -/
def closeSession (router : NumatoSenseRouter) : RouterProg X C PUnit :=
  (routerCall (f.disconnect router.relay) (.disconnectRelay router.relay)).handle fun _ ↦ pure ⟨⟩

/-- `shutdown`. -/
def shutdown : RouterProg X C PUnit := do
  let routers ← routersByMatrix
  Prog.forEach (fun p ↦ closeSession f p.2) routers.items
  setRouters fun _ ↦ Dict.empty

/-- `dmm.measure_dc_voltage`. -/
def measureDcVoltage (channel : Option ℤ) : RouterProg X C ℚ :=
  (Journal.ask f.measureDcVoltage (.measure channel)).zoom RouterState.journalLens

/-- `read_battery_voltage_via_sense`. -/
def readBatteryVoltageViaSense : Option ℤ → RouterProg X C ℚ
  | none => measureDcVoltage f none
  | some channel => do
    connect f cfg channel
    (measureDcVoltage f (some channel)).ensuring (disconnect f cfg channel)

/-- Making a call, however it ends. -/
def perform : RouterCall → RouterProg X C PUnit
  | .connect channel => (connect f cfg channel).handle fun _ ↦ pure ⟨⟩
  | .disconnect channel => (disconnect f cfg channel).handle fun _ ↦ pure ⟨⟩
  | .read channel =>
    (do
      let _ ← readBatteryVoltageViaSense f cfg channel
      pure ⟨⟩ : RouterProg X C PUnit).handle fun _ ↦ pure ⟨⟩
  | .shutdown => shutdown f

end ConfigDrivenSenseRouter

end Program

/-! ## The law of the journal -/

/-- What the observer of a router keeps. -/
structure RouterView where
  /-- The number of relay objects that were made. -/
  created : ℕ := 0
  /-- The matrix of the newest one, before it is connected. -/
  pending : Option String := none
  /-- The matrices with a connected relay object, which was not asked to disconnect. -/
  sessions : List (String × ℕ) := []
  /-- The relay that the newest call closed. -/
  closed : Option (ℕ × ℕ) := none
  /-- The relay through which the newest call measured. -/
  measured : Option (ℕ × ℕ) := none
  deriving DecidableEq

namespace RouterView

/-- The view after an entry. -/
def step {C : Type} (v : RouterView) : RouterEntry C → RouterView
  | .create matrixName _ none =>
    { v with created := v.created + 1, pending := some matrixName, closed := none }
  | .create _ _ (some _) => { v with closed := none }
  | .connectRelay relay none =>
    { v with
      pending := none
      sessions := v.sessions ++ v.pending.toList.map (·, relay)
      closed := none }
  | .connectRelay _ (some _) => { v with pending := none, closed := none }
  | .closeRelay relay address raised =>
    { v with closed := if raised.isNone then some (relay, address) else none }
  | .openRelay _ _ _ => { v with closed := none, measured := none }
  | .disconnectRelay relay _ =>
    { v with sessions := v.sessions.filter (·.2 ≠ relay), closed := none }
  | .measure none _ => { v with closed := none }
  | .measure (some _) _ => { v with closed := none, measured := v.closed }

/-- A relay of a connected relay object that a channel is routed to. -/
def Routes {C : Type} (cfg : SenseConfig C) (v : RouterView) (channel : ℤ) (relay address : ℕ) :
    Prop :=
  ∃ route, cfg.senseRouting.get? channel = some route ∧ route.relay = address ∧
    (route.relayMatrix, relay) ∈ v.sessions

/-- Which entries a view allows: a relay object is made for a matrix that is configured and has none
that is connected, and is connected before anything else; a relay is switched if a channel is routed
to it, through the relay object of its matrix; a channel is measured right after its relay was
closed, and nothing else happens before that relay is asked to open. -/
def allows {C : Type} (cfg : SenseConfig C) (v : RouterView) : RouterEntry C → Prop
  | .create matrixName matrixCfg _ => cfg.relayMatrixConfigs.get? matrixName = some matrixCfg ∧
    (∀ p ∈ v.sessions, p.1 ≠ matrixName) ∧ v.pending = none ∧ v.measured = none
  | .connectRelay relay _ => v.pending.isSome ∧ relay + 1 = v.created
  | .closeRelay relay address _ =>
    (∃ channel, v.Routes cfg channel relay address) ∧ v.pending = none ∧ v.measured = none
  | .openRelay relay address _ => (∃ channel, v.Routes cfg channel relay address) ∧
    v.pending = none ∧ (v.measured = none ∨ v.measured = some (relay, address))
  | .disconnectRelay relay _ =>
    (∃ matrixName, (matrixName, relay) ∈ v.sessions) ∧ v.pending = none ∧ v.measured = none
  | .measure none _ => v.pending = none ∧ v.measured = none
  | .measure (some channel) _ => (∃ relay address, v.Routes cfg channel relay address ∧
    v.closed = some (relay, address)) ∧ v.pending = none ∧ v.measured = none

end RouterView

/-- The observer of a router. -/
def routerObserver {C : Type} (cfg : SenseConfig C) : Observer (RouterEntry C) RouterView where
  start := {}
  step := RouterView.step
  allows := RouterView.allows cfg

/-! ## One call -/

namespace ConfigDrivenSenseRouter

section Calls

variable {X C α : Type} {f : RelayFactory X C} {cfg : SenseConfig C} {v : RouterView}
  {routers : Dict String NumatoSenseRouter} {n : ℕ} {E : RouterState X C → Prop}

/-- The view of a journal that is allowed so far, and the variables of the router. -/
def Routed (cfg : SenseConfig C) :
    RouterView × Dict String NumatoSenseRouter × ℕ → RouterState X C → Prop :=
  SeenWith (routerObserver cfg) RouterState.entries RouterState.vars

/-- The routers are those of the connected relay objects. -/
structure Tracked (cfg : SenseConfig C) (p : RouterView × Dict String NumatoSenseRouter × ℕ) :
    Prop where
  sessions : p.2.1.items.map (fun q ↦ (q.1, q.2.relay)) = p.1.sessions
  maps : ∀ q ∈ p.2.1.items, q.2.channelToRelay = cfg.channelToRelay q.1
  nodup : (p.1.sessions.map Prod.snd).Nodup
  below : ∀ q ∈ p.1.sessions, q.2 < p.2.2
  created : p.1.created = p.2.2
  pending : p.1.pending = none

/-- Between two calls, where nothing is measured. -/
structure Idle (cfg : SenseConfig C) (p : RouterView × Dict String NumatoSenseRouter × ℕ) : Prop
    extends Tracked cfg p where
  measured : p.1.measured = none

/-- A part of a call, started on a view with the variables. -/
abbrev Routes (cfg : SenseConfig C) (v : RouterView) (vars : Dict String NumatoSenseRouter × ℕ)
    (x : RouterProg X C α) (Q : α → RouterView × Dict String NumatoSenseRouter × ℕ → Prop)
    (E : RouterState X C → Prop) : Prop :=
  Shows (Routed cfg) (v, vars) x Q E

/-- The call ended, and the next one may come. -/
abbrev Ready (cfg : SenseConfig C) : RouterState X C → Prop := Views (Routed cfg) (Idle cfg)

theorem routes_call {g : X → Option Exc × X} {entry : Option Exc → RouterEntry C}
    (hallows : ∀ raised, v.allows cfg (entry raised))
    (hE : ∀ e s, Routed cfg (v.step (entry (some e)), routers, n) s → E s) :
    Routes cfg v (routers, n) (routerCall g entry)
      (fun _ p ↦ p = (v.step (entry none), routers, n)) E :=
  .entryWith (fun s ↦ post_zoom.mpr ((Journal.post_call g entry s.journal).mono
      (fun _ _ h ↦ ⟨h, rfl⟩) fun _ _ h ↦ ⟨h, rfl⟩))
    (fun _ ↦ hallows _) (fun _ ↦ hallows _) hE

theorem routes_routersByMatrix : Routes cfg v (routers, n) routersByMatrix
    (fun routers' p ↦ routers' = routers ∧ p = (v, routers, n)) E := fun _ hs ↦
  ⟨_, hs, congrArg Prod.fst hs.2, rfl⟩

theorem routes_setRouters (g : Dict String NumatoSenseRouter → Dict String NumatoSenseRouter) :
    Routes cfg v (routers, n) (setRouters g) (fun _ p ↦ p = (v, g routers, n)) E := fun _ hs ↦
  ⟨(v, g routers, n), ⟨hs.1, congrArg (Prod.map g id) hs.2⟩, rfl⟩

theorem routes_newRelay : Routes cfg v (routers, n) newRelay
    (fun relay p ↦ relay = n ∧ p = (v, routers, n + 1)) E := fun _ hs ↦
  ⟨(v, routers, n + 1), ⟨hs.1, congrArg (Prod.map id (· + 1)) hs.2⟩, congrArg Prod.snd hs.2, rfl⟩

theorem Tracked.get?_eq (h : Tracked cfg (v, routers, n)) {matrixName : String} {relay : ℕ}
    (hmem : (matrixName, relay) ∈ v.sessions) :
    ∃ router, routers.get? matrixName = some router ∧ router.relay = relay := by
  have hitems := h.sessions
  dsimp only at hitems
  rw [← hitems] at hmem
  obtain ⟨⟨name, router⟩, hrouter, heq⟩ := List.mem_map.mp hmem
  obtain ⟨rfl, rfl⟩ := Prod.mk.inj heq
  exact ⟨router, Dict.mem_items_iff.mp hrouter, rfl⟩

theorem Tracked.mem_sessions (h : Tracked cfg (v, routers, n)) {matrixName : String}
    {router : NumatoSenseRouter} (hget : routers.get? matrixName = some router) :
    (matrixName, router.relay) ∈ v.sessions ∧
      router.channelToRelay = cfg.channelToRelay matrixName := by
  have hitems := h.sessions
  dsimp only at hitems
  have hmem := Dict.mem_items_iff.mpr hget
  rw [← hitems]
  exact ⟨List.mem_map.mpr ⟨_, hmem, rfl⟩, h.maps _ hmem⟩

/-- What `_router_for_matrix` promises. -/
def Serves (cfg : SenseConfig C) (matrixName : String) (router : NumatoSenseRouter)
    (v : RouterView) : Prop :=
  (matrixName, router.relay) ∈ v.sessions ∧
    router.channelToRelay = cfg.channelToRelay matrixName

/-- A relay object that could not be connected is dropped. -/
theorem routes_openMatrix {matrixName : String} {matrixCfg : C} (h : Idle cfg (v, routers, n))
    (hcfg : cfg.relayMatrixConfigs.get? matrixName = some matrixCfg)
    (hnone : routers.get? matrixName = none) :
    Routes cfg v (routers, n) (openMatrix f cfg matrixName matrixCfg)
      (fun router p ↦ Idle cfg p ∧ Serves cfg matrixName router p.1) (Ready cfg) := by
  have hfree : ∀ q ∈ v.sessions, q.1 ≠ matrixName := by
    rintro ⟨name, relay⟩ hq rfl
    obtain ⟨router, hrouter, -⟩ := h.toTracked.get?_eq hq
    rw [hnone] at hrouter
    cases hrouter
  refine .bind (routes_call (fun _ ↦ ⟨hcfg, hfree, h.pending, h.measured⟩) fun e s hs ↦
    ⟨_, hs, ⟨h.sessions, h.maps, h.nodup, h.below, h.created, h.pending⟩, h.measured⟩)
    fun _ p hp ↦ ?_
  subst hp
  refine .bind routes_newRelay fun relay p hp ↦ ?_
  obtain ⟨rfl, rfl⟩ := hp
  have hbelow : ∀ q ∈ v.sessions, q.2 < relay + 1 := fun q hq ↦
    (h.below q hq).trans_le (Nat.le_succ _)
  refine .bind (routes_call (fun _ ↦ ⟨rfl, congrArg (· + 1) h.created.symm⟩) fun e s hs ↦
    ⟨_, hs, ⟨h.sessions, h.maps, h.nodup, hbelow, congrArg (· + 1) h.created, rfl⟩, h.measured⟩)
    fun _ p hp ↦ ?_
  subst hp
  refine .bind (routes_setRouters _) fun _ p hp ↦ .pure ?_
  subst hp
  have hkeys : matrixName ∉ routers.items.map Prod.fst := by
    intro hmem
    obtain ⟨router, hrouter⟩ := Dict.mem_keys_iff.mp hmem
    rw [hnone] at hrouter
    cases hrouter
  have hitems : (routers.insert matrixName ⟨relay, cfg.channelToRelay matrixName⟩).items =
      routers.items ++ [(matrixName, ⟨relay, cfg.channelToRelay matrixName⟩)] :=
    Dict.upsertList_of_notMem hkeys
  have hsessions := h.sessions
  dsimp only at hsessions
  have hnodup := h.nodup
  dsimp only at hnodup
  -- the new object is last in both lists, and its number is above all others
  refine ⟨⟨⟨?_, ?_, ?_, ?_, congrArg (· + 1) h.created, rfl⟩, h.measured⟩,
    List.mem_append_right _ (List.mem_singleton_self _), rfl⟩
  · change List.map _ (routers.insert _ _).items = v.sessions ++ [(matrixName, relay)]
    rw [hitems, List.map_append, hsessions]
    rfl
  · change ∀ q ∈ (routers.insert _ _).items, _
    rw [hitems]
    exact List.forall_mem_append.mpr ⟨h.maps, List.forall_mem_singleton.mpr rfl⟩
  · change ((v.sessions ++ [(matrixName, relay)]).map Prod.snd).Nodup
    rw [List.map_append]
    refine List.nodup_append.mpr ⟨hnodup, List.nodup_singleton _, fun a ha b hb hab ↦ ?_⟩
    obtain ⟨q, hq, rfl⟩ := List.mem_map.mp ha
    rw [List.mem_singleton.mp hb] at hab
    exact absurd hab (h.below q hq).ne
  · change ∀ q ∈ v.sessions ++ [(matrixName, relay)], q.2 < relay + 1
    exact List.forall_mem_append.mpr ⟨hbelow, List.forall_mem_singleton.mpr (Nat.lt_succ_self _)⟩

/-- The router of a connected relay object is used again. -/
theorem routes_routerForMatrix_of_mem {matrixName : String} {relay : ℕ}
    (h : Tracked cfg (v, routers, n)) (hmem : (matrixName, relay) ∈ v.sessions) :
    Routes cfg v (routers, n) (routerForMatrix f cfg matrixName)
      (fun router p ↦ p = (v, routers, n) ∧ router.relay = relay ∧
        router.channelToRelay = cfg.channelToRelay matrixName) E := by
  obtain ⟨router, hget, hrelay⟩ := h.get?_eq hmem
  refine .bind routes_routersByMatrix fun routers' p hp ↦ ?_
  obtain ⟨rfl, rfl⟩ := hp
  rw [hget]
  exact .pure ⟨rfl, hrelay, (h.mem_sessions hget).2⟩

theorem routes_routerForMatrix (matrixName : String) (h : Idle cfg (v, routers, n)) :
    Routes cfg v (routers, n) (routerForMatrix f cfg matrixName)
      (fun router p ↦ Idle cfg p ∧ Serves cfg matrixName router p.1) (Ready cfg) := by
  refine .bind routes_routersByMatrix fun routers' p hp ↦ ?_
  obtain ⟨rfl, rfl⟩ := hp
  cases hget : routers'.get? matrixName with
  | some router => exact .pure ⟨h, h.toTracked.mem_sessions hget⟩
  | none =>
    dsimp only
    cases hcfg : cfg.relayMatrixConfigs.get? matrixName with
    | some matrixCfg => exact routes_openMatrix h hcfg hget
    | none => exact .raise fun _ hs ↦ ⟨_, hs, h⟩

theorem resolve_eq {channel : ℤ} {route : SenseRoute} {router : NumatoSenseRouter}
    (hroute : cfg.senseRouting.get? channel = some route)
    (hmap : router.channelToRelay = cfg.channelToRelay route.relayMatrix) :
    (router.resolve channel : RouterProg X C ℕ) = pure route.relay := by
  have hget : (cfg.channelToRelay route.relayMatrix).get? channel = some route.relay := by
    refine (Dict.get?_assign_iff fun k a b ha hb ↦ ?_).mpr ?_
    · obtain ⟨⟨c, r⟩, hr, heq⟩ := List.mem_map.mp ha
      obtain ⟨⟨c', r'⟩, hr', heq'⟩ := List.mem_map.mp hb
      obtain ⟨rfl, rfl⟩ := Prod.mk.inj heq
      obtain ⟨rfl, rfl⟩ := Prod.mk.inj heq'
      have hr := Dict.mem_items_iff.mp (List.mem_filter.mp hr).1
      have hr' := Dict.mem_items_iff.mp (List.mem_filter.mp hr').1
      rw [hr] at hr'
      exact congrArg SenseRoute.relay (Option.some.inj hr')
    · exact List.mem_map.mpr ⟨_, List.mem_filter.mpr ⟨Dict.mem_items_iff.mpr hroute,
        decide_eq_true rfl⟩, rfl⟩
  rw [NumatoSenseRouter.resolve, hmap, hget]

theorem routes_connect (channel : ℤ) (h : Idle cfg (v, routers, n)) :
    Routes cfg v (routers, n) (connect f cfg channel)
      (fun _ p ↦ Idle cfg p ∧ ∃ relay address, p.1.Routes cfg channel relay address ∧
        p.1.closed = some (relay, address)) (Ready cfg) := by
  unfold connect routerForChannel
  cases hroute : cfg.senseRouting.get? channel with
  | none => exact .bind (Q := fun _ _ ↦ False) (.raise fun _ hs ↦ ⟨_, hs, h⟩) fun _ _ h ↦ h.elim
  | some route =>
    refine .bind (routes_routerForMatrix route.relayMatrix h) fun router p hp ↦ ?_
    obtain ⟨v', routers', n'⟩ := p
    obtain ⟨hidle, hmem, hmap⟩ := hp
    unfold NumatoSenseRouter.connect
    rw [resolve_eq hroute hmap]
    have hroutes : v'.Routes cfg channel router.relay route.relay := ⟨route, hroute, rfl, hmem⟩
    have hidle' (raised : Option Exc) :
        Idle cfg (v'.step (C := C) (.closeRelay router.relay route.relay raised), routers', n') :=
      ⟨⟨hidle.sessions, hidle.maps, hidle.nodup, hidle.below, hidle.created, hidle.pending⟩,
        hidle.measured⟩
    have hclose : Routes cfg v' (routers', n')
        (routerCall (f.closeRelay router.relay route.relay) (.closeRelay router.relay route.relay))
        _ (Ready cfg) :=
      routes_call (fun _ ↦ ⟨⟨channel, hroutes⟩, hidle.pending, hidle.measured⟩)
        fun e s hs ↦ ⟨_, hs, hidle' (some e)⟩
    refine hclose.mono (fun _ p hp ↦ ?_) fun _ hs ↦ hs
    rw [hp]
    exact ⟨hidle' none, router.relay, route.relay, hroutes, rfl⟩

theorem routes_disconnect (channel : ℤ) (h : Tracked cfg (v, routers, n))
    (hmeasured : v.measured = none ∨ ∃ relay address, v.Routes cfg channel relay address ∧
      v.measured = some (relay, address)) :
    Routes cfg v (routers, n) (disconnect f cfg channel) (fun _ p ↦ Idle cfg p)
      (Ready cfg) := by
  unfold disconnect routerForChannel
  have hopen {v' : RouterView} {routers' : Dict String NumatoSenseRouter} {n' : ℕ}
      {router : NumatoSenseRouter} {route : SenseRoute}
      (hroute : cfg.senseRouting.get? channel = some route)
      (htracked : Tracked cfg (v', routers', n'))
      (hserves : Serves cfg route.relayMatrix router v')
      (hlast : v'.measured = none ∨ v'.measured = some (router.relay, route.relay)) :
      Routes cfg v' (routers', n') (router.disconnect f channel) (fun _ p ↦ Idle cfg p)
        (Ready cfg) := by
    unfold NumatoSenseRouter.disconnect
    rw [resolve_eq hroute hserves.2]
    have hidle (raised : Option Exc) :
        Idle cfg (v'.step (C := C) (.openRelay router.relay route.relay raised), routers', n') :=
      ⟨⟨htracked.sessions, htracked.maps, htracked.nodup, htracked.below, htracked.created,
        htracked.pending⟩, rfl⟩
    have hcall : Routes cfg v' (routers', n')
        (routerCall (f.openRelay router.relay route.relay) (.openRelay router.relay route.relay))
        _ (Ready cfg) :=
      routes_call (fun _ ↦ ⟨⟨channel, route, hroute, rfl, hserves.1⟩, htracked.pending, hlast⟩)
        fun e s hs ↦ ⟨_, hs, hidle (some e)⟩
    refine hcall.mono (fun _ p hp ↦ ?_) fun _ hs ↦ hs
    rw [hp]
    exact hidle none
  rcases hmeasured with hnone | ⟨relay, address, ⟨route, hroute, rfl, hmem⟩, hlast⟩
  · have hidle : Idle cfg (v, routers, n) := ⟨h, hnone⟩
    cases hroute : cfg.senseRouting.get? channel with
    | none =>
      exact .bind (Q := fun _ _ ↦ False) (.raise fun _ hs ↦ ⟨_, hs, hidle⟩) fun _ _ h ↦ h.elim
    | some route =>
      refine .bind (routes_routerForMatrix route.relayMatrix hidle) fun router p hp ↦ ?_
      exact hopen hroute hp.1.toTracked hp.2 (.inl hp.1.measured)
  · rw [hroute]
    refine .bind (routes_routerForMatrix_of_mem h hmem) fun router p hp ↦ ?_
    obtain ⟨rfl, rfl, hmap⟩ := hp
    exact hopen hroute h ⟨hmem, hmap⟩ (.inr hlast)

/-- A measurement through the router ends with its relay asked to open. -/
theorem routes_readBatteryVoltageViaSense (channel : Option ℤ) (h : Idle cfg (v, routers, n)) :
    Routes cfg v (routers, n) (readBatteryVoltageViaSense f cfg channel) (fun _ p ↦ Idle cfg p)
      (Ready cfg) := by
  have hmeasure {v' : RouterView} {routers' : Dict String NumatoSenseRouter} {n' : ℕ}
      {channel : Option ℤ} (hallows : ∀ result, v'.allows cfg (.measure channel result))
      (D : RouterView × Dict String NumatoSenseRouter × ℕ → Prop)
      (hD : ∀ result, D (v'.step (C := C) (.measure channel result), routers', n')) :
      Routes cfg v' (routers', n') (measureDcVoltage f channel) (fun _ p ↦ D p)
        (Views (Routed cfg) D) := by
    have hask : Routes cfg v' (routers', n') (measureDcVoltage f channel) _
        (Views (Routed cfg) D) :=
      .entryWith (fun s ↦ post_zoom.mpr
          ((Journal.post_ask f.measureDcVoltage (.measure channel) s.journal).mono
            (fun _ _ h ↦ ⟨h, rfl⟩) fun _ _ h ↦ ⟨h, rfl⟩))
        (fun _ ↦ hallows _) (fun _ ↦ hallows _) fun e _ hs ↦ ⟨_, hs, hD (.error e)⟩
    refine hask.mono (fun _ p hp ↦ ?_) fun _ hs ↦ hs
    rw [hp]
    exact hD _
  cases channel with
  | none =>
    have hallows (result : Except Exc ℚ) : v.allows cfg (.measure none result) :=
      ⟨h.pending, h.measured⟩
    exact hmeasure hallows _ fun _ ↦
      ⟨⟨h.sessions, h.maps, h.nodup, h.below, h.created, h.pending⟩, h.measured⟩
  | some channel =>
    refine .bind (routes_connect channel h) fun _ p hp ↦ ?_
    obtain ⟨v', routers', n'⟩ := p
    obtain ⟨hidle, relay, address, hroutes, hclosed⟩ := hp
    have hallows (result : Except Exc ℚ) : v'.allows cfg (.measure (some channel) result) :=
      ⟨⟨relay, address, hroutes, hclosed⟩, hidle.pending, hidle.measured⟩
    have hmeasured := hmeasure hallows
      (fun p ↦ Tracked cfg p ∧ p.1.Routes cfg channel relay address ∧
        p.1.measured = some (relay, address))
      (fun _ ↦ ⟨⟨hidle.sessions, hidle.maps, hidle.nodup, hidle.below, hidle.created,
        hidle.pending⟩, hroutes, hclosed⟩)
    have hdisconnect (p : RouterView × Dict String NumatoSenseRouter × ℕ)
        (hp : Tracked cfg p ∧ p.1.Routes cfg channel relay address ∧
          p.1.measured = some (relay, address)) :
        Shows (Routed cfg) p (disconnect f cfg channel) (fun _ p ↦ Idle cfg p) (Ready cfg) :=
      routes_disconnect channel hp.1 (.inr ⟨relay, address, hp.2⟩)
    exact .ensuring hmeasured (fun _ p hp ↦ hdisconnect p hp) hdisconnect fun _ hs ↦ hs

/-- By induction on the routers left: each has the first session left. -/
theorem routes_closeSessions (l : List (String × NumatoSenseRouter))
    (hsessions : l.map (fun q ↦ (q.1, q.2.relay)) = v.sessions)
    (hnodup : (v.sessions.map Prod.snd).Nodup) (hcreated : v.created = n)
    (hpending : v.pending = none) (hmeasured : v.measured = none) :
    Routes cfg v (routers, n) (Prog.forEach (fun p ↦ closeSession f p.2) l)
      (fun _ p ↦ p.2 = (routers, n) ∧ p.1.sessions = [] ∧ p.1.created = n ∧ p.1.pending = none ∧
        p.1.measured = none) E := by
  induction l generalizing v with
  | nil => exact .pure ⟨rfl, hsessions.symm, hcreated, hpending, hmeasured⟩
  | cons q rest ih =>
    have hhead : (q.1, q.2.relay) ∈ v.sessions := by
      rw [← hsessions]
      exact List.mem_cons_self
    -- what is left when this relay object was asked to disconnect
    have hrest : v.sessions.filter (·.2 ≠ q.2.relay) = rest.map fun q ↦ (q.1, q.2.relay) := by
      rw [← hsessions] at hnodup ⊢
      rw [List.map_cons, List.filter_cons_of_neg (by simp)]
      refine List.filter_eq_self.mpr fun p hp ↦ decide_eq_true fun heq ↦ ?_
      have hmem : p.2 ∈ (rest.map fun q ↦ (q.1, q.2.relay)).map Prod.snd := List.mem_map_of_mem hp
      rw [heq] at hmem
      exact (List.nodup_cons.mp hnodup).1 hmem
    have hclosed (raised : Option Exc) : ∀ w : RouterView,
        w = v.step (C := C) (.disconnectRelay q.2.relay raised) →
        Routes cfg w (routers, n) (Prog.forEach (fun p ↦ closeSession f p.2) rest)
          (fun _ p ↦ p.2 = (routers, n) ∧ p.1.sessions = [] ∧ p.1.created = n ∧
            p.1.pending = none ∧ p.1.measured = none) E := by
      rintro w rfl
      refine ih hrest.symm ?_ hcreated hpending hmeasured
      exact hnodup.sublist (List.filter_sublist.map Prod.snd)
    have hallows (raised : Option Exc) : v.allows cfg (.disconnectRelay q.2.relay raised) :=
      ⟨⟨q.1, hhead⟩, hpending, hmeasured⟩
    refine .bind (Q := fun _ p ↦ p.2 = (routers, n) ∧
      ∃ raised, p.1 = v.step (C := C) (.disconnectRelay q.2.relay raised))
      (.handle (D := fun p ↦ p.2 = (routers, n) ∧
        ∃ raised, p.1 = v.step (C := C) (.disconnectRelay q.2.relay raised)) ?_
        fun _ p hp ↦ .pure hp) fun _ p hp ↦ ?_
    · refine Shows.mono (routes_call hallows fun e _ hs ↦ ⟨_, hs, rfl, some e, rfl⟩)
        (fun _ p hp ↦ ?_) fun _ hs ↦ hs
      rw [hp]
      exact ⟨rfl, none, rfl⟩
    · obtain ⟨w, vars⟩ := p
      obtain ⟨rfl, raised, hw⟩ := hp
      exact hclosed raised w hw

theorem routes_shutdown (h : Idle cfg (v, routers, n)) :
    Routes cfg v (routers, n) (shutdown f)
      (fun _ p ↦ Idle cfg p ∧ p.1.sessions = []) E := by
  refine .bind routes_routersByMatrix fun routers' p hp ↦ ?_
  obtain ⟨rfl, rfl⟩ := hp
  refine .bind (routes_closeSessions _ h.sessions h.nodup h.created h.pending h.measured)
    fun _ p hp ↦ ?_
  obtain ⟨w, vars⟩ := p
  obtain ⟨rfl, hsessions, hcreated, hpending, hmeasured⟩ := hp
  refine (routes_setRouters _).mono (fun _ p hp ↦ ?_) fun _ hs ↦ hs
  subst hp
  dsimp only at hsessions
  have hnone : ∀ q ∈ w.sessions, q.2 < n := by
    rw [hsessions]
    exact nofun
  refine ⟨⟨⟨hsessions.symm, nofun, ?_, hnone, hcreated, hpending⟩, hmeasured⟩, hsessions⟩
  rw [hsessions]
  exact List.nodup_nil

/-- A call of a router ends, and the next one may come. -/
theorem routes_perform (call : RouterCall) (h : Idle cfg (v, routers, n)) :
    Routes cfg v (routers, n) (perform f cfg call) (fun _ p ↦ Idle cfg p) E := by
  cases call with
  | connect channel =>
    exact .handle ((routes_connect channel h).mono (fun _ _ hp ↦ hp.1) fun _ hs ↦ hs)
      fun _ _ hp ↦ .pure hp
  | disconnect channel =>
    exact .handle (routes_disconnect channel h.toTracked (.inl h.measured))
      fun _ _ hp ↦ .pure hp
  | read channel =>
    exact .handle (.bind (routes_readBatteryVoltageViaSense channel h) fun _ _ hp ↦ .pure hp)
      fun _ _ hp ↦ .pure hp
  | shutdown => exact (routes_shutdown h).mono (fun _ _ hp ↦ hp.1) fun _ hs ↦ hs

theorem ready_init (cfg : SenseConfig C) (x : X) :
    Ready cfg (RouterState.init x : RouterState X C) :=
  ⟨({}, Dict.empty, 0), ⟨⟨trivial, rfl⟩, rfl⟩,
    ⟨rfl, nofun, List.nodup_nil, nofun, rfl, rfl⟩, rfl⟩

/-- What one call keeps, a history of calls keeps. -/
theorem post_calls (calls : List RouterCall) (x : X) :
    Post (Prog.forEach (perform f cfg) calls) (fun _ t ↦ Ready cfg t) (fun _ _ ↦ False)
      (.init x) :=
  post_forEach (fun call s hs ↦ by
    obtain ⟨p, hs, hidle⟩ := hs
    exact routes_perform (v := p.1) call hidle s hs) calls (ready_init cfg x)

end Calls

/-! ## Histories of calls -/

section Histories

variable {X C : Type} {cfg : SenseConfig C}

/-- **The sessions of a router.** However the relays, the DMM and the factory answer, in every
history of calls of a router each relay matrix has at most one connected relay object, every command
goes to a relay some channel is routed to, through that object, a channel is measured only right
after its relay was closed, and the relay is asked to open right after. The routers that are kept
are exactly those of the connected objects. -/
theorem router_lawful (f : RelayFactory X C) (cfg : SenseConfig C) (calls : List RouterCall)
    (x : X) :
    Post (Prog.forEach (perform f cfg) calls)
      (fun _ t ↦ (routerObserver cfg).Accepts t.entries ∧
        t.routersByMatrix.items.map (fun q ↦ (q.1, q.2.relay)) =
          ((routerObserver cfg).view t.entries).sessions)
      (fun _ _ ↦ False) (.init x) := by
  refine (post_calls calls x).mono (fun _ t ht ↦ ?_) fun _ _ h ↦ h
  obtain ⟨⟨v, routers, n⟩, ⟨⟨haccepts, hview⟩, hvars⟩, hidle⟩ := ht
  refine ⟨haccepts, ?_⟩
  have hrouters : t.routersByMatrix = routers := congrArg Prod.fst hvars
  rw [hview, hrouters]
  exact hidle.sessions

theorem mem_sessions_or_disconnected {l : List (RouterEntry C)} (h : (routerObserver cfg).Accepts l)
    {relay : ℕ} (hmem : .connectRelay relay none ∈ l) :
    (∃ name, (name, relay) ∈ ((routerObserver cfg).view l).sessions) ∨
      ∃ raised, .disconnectRelay relay raised ∈ l := by
  induction l with
  | nil => cases hmem
  | cons c older ih =>
    obtain ⟨hallows, haccepts⟩ := h
    rw [Observer.view]
    set v := (routerObserver cfg).view older
    change (∃ name, (name, relay) ∈ (v.step c).sessions) ∨ _
    rcases List.mem_cons.mp hmem with rfl | hmem
    · -- the newest call connected it
      obtain ⟨name, hname⟩ := Option.isSome_iff_exists.mp hallows.1
      refine .inl ⟨name, List.mem_append_right _ ?_⟩
      rw [hname]
      exact List.mem_singleton_self _
    rcases ih haccepts hmem with ⟨name, hsession⟩ | ⟨raised, hdisconnected⟩
    · cases c with
      | disconnectRelay relay' raised =>
        by_cases heq : relay' = relay
        · exact .inr ⟨raised, heq ▸ List.mem_cons_self⟩
        · exact .inl ⟨name, List.mem_filter.mpr ⟨hsession, decide_eq_true (Ne.symm heq)⟩⟩
      | connectRelay relay' raised =>
        cases raised with
        | none => exact .inl ⟨name, List.mem_append_left _ hsession⟩
        | some e => exact .inl ⟨name, hsession⟩
      | create name' matrixCfg raised => cases raised <;> exact .inl ⟨name, hsession⟩
      | measure channel result => cases channel <;> exact .inl ⟨name, hsession⟩
      | closeRelay | openRelay => exact .inl ⟨name, hsession⟩
    · exact .inr ⟨raised, List.mem_cons_of_mem c hdisconnected⟩

/-- **`shutdown` leaves no session open.** After any history of calls it returns, and every relay
object that was ever connected has been asked to disconnect. -/
theorem router_shutdown (f : RelayFactory X C) (cfg : SenseConfig C) (calls : List RouterCall)
    (x : X) :
    Post (do
        Prog.forEach (perform f cfg) calls
        shutdown f)
      (fun _ t ↦ ∀ relay, .connectRelay relay none ∈ t.entries →
        ∃ raised, .disconnectRelay relay raised ∈ t.entries)
      (fun _ _ ↦ False) (.init x) := by
  refine (post_bind _).mpr ((post_calls calls x).mono (fun _ s hs ↦ ?_) fun _ _ h ↦ h)
  obtain ⟨p, hs, hidle⟩ := hs
  refine (routes_shutdown (v := p.1) hidle s hs).mono (fun _ t ht relay hrelay ↦ ?_)
    fun _ _ h ↦ h
  obtain ⟨w, ⟨⟨haccepts, hview⟩, -⟩, -, hnone⟩ := ht
  rcases mem_sessions_or_disconnected haccepts hrelay with ⟨name, hsession⟩ | hdisconnected
  · rw [hview, hnone] at hsession
    cases hsession
  · exact hdisconnected

end Histories

end ConfigDrivenSenseRouter

end Nipxi
