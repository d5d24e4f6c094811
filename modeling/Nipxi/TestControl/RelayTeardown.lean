import Nipxi.Hardware.Relay.Session
import Nipxi.TestControl.Bench

/-!
# Leaving the relay behind

`disconnect_all` opens the relay bank if the driver says it is connected, and reports a fault if
that fails. But `connected` is cleared by every reconnect that fails, also by one made on behalf
of a command, so a relay that was switched on and then lost is passed over without a word.
`keepsRelayPromise_iff` says that this is the only way: `disconnect_all` keeps its promise exactly
if the driver still counts as connected, or nothing was switched on since the bank was opened.
-/

open Effect Transition

namespace Nipxi

variable {V W D : Type}

/-- From `s` to `t` a fault of a relay was reported, or `open_all` has returned since the last
switch-on. -/
def KeepsRelayPromise (s t : Manager V W D) : Prop :=
  (∃ new, t.faults = new ++ s.faults ∧ ¬RelayFaulted new) → OpenedSinceOn t.relay

namespace Manager

section

variable (rack : Rack V W D)

/-- The relay's trace is as it was, and no fault of a relay was reported. -/
def RelayStill (s t : Manager V W D) : Prop :=
  t.relay.trace = s.relay.trace ∧ ∃ new, t.faults = new ++ s.faults ∧ ¬RelayFaulted new

theorem SameRelay.still {s t : Manager V W D} (h : SameRelay s t) : RelayStill s t :=
  ⟨congrArg Matrix.trace h.1, h.2⟩

instance : IsPreorder (Manager V W D) RelayStill where
  refl s := (refl_of SameRelay s).still
  trans := by
    rintro r s t ⟨hs, new, hnew, hno⟩ ⟨ht, new', hnew', hno'⟩
    refine ⟨ht.trans hs, new' ++ new, ?_, not_relayFaulted_append hno' hno⟩
    rw [hnew', hnew, List.append_assoc]

theorem sameRelay_shutdownSmu : Within SameRelay (shutdownSmu rack) := by
  refine .bind .get fun _ ↦ .ite (.bind (sameRelay_smuOutputOff rack _) fun verified ↦ ?_)
    (.pure _)
  refine .ite (.pure _) (.bind (fun s ↦ ⟨rfl, _, rfl, ?_⟩) fun _ ↦ .pure _)
  rintro ⟨fault, hmem, htype⟩
  obtain rfl : fault = _ := by simpa [escalation] using hmem
  exact absurd htype nofun

theorem relayStill_zeroSmuSetpoint : Within RelayStill (zeroSmuSetpoint rack) := by
  have hzero : Within RelayStill
      ((Smu.applyZeroSetpoint rack.nidcpower).zoom (smuLens : Lens (Manager V W D) (Smu V))) :=
    within_zoom_of_frame fun _ _ ↦ ⟨rfl, no_relayFault_of_eq rfl⟩
  exact .bind .get fun _ ↦ .ite (.bind (.attempt hzero) fun _ ↦ .pure _) (.pure _)

theorem relayStill_disconnectDevice (dev : Device) :
    Within RelayStill (disconnectDevice rack dev) := by
  cases dev with
  | daq =>
    change Within RelayStill ((Instrument.disconnect rack.daq).zoom daqLens)
    exact within_zoom_of_frame fun _ _ ↦ ⟨rfl, no_relayFault_of_eq rfl⟩
  | smu =>
    change Within RelayStill ((Smu.disconnect rack.nidcpower).zoom smuLens)
    exact within_zoom_of_frame fun _ _ ↦ ⟨rfl, no_relayFault_of_eq rfl⟩
  | ntcDaq | dmm =>
    exact within_onInstrument_of_frame fun _ _ ↦ ⟨rfl, no_relayFault_of_eq rfl⟩
  | relay =>
    intro s
    exact post_zoom.mpr ((post_disconnect_trace rack.net s.relay).mono
      (fun _ _ ht ↦ ⟨ht, no_relayFault_of_eq rfl⟩) fun _ _ ht ↦ ⟨ht, no_relayFault_of_eq rfl⟩)

theorem relayStill_disconnectConnected (devices : List Device) :
    Within RelayStill (disconnectConnected rack devices) :=
  within_bestEffort (fun dev ↦ .bind .get fun _ ↦
    .ite (relayStill_disconnectDevice rack dev) (.pure _)) devices

theorem post_shutdownRelay (s : Manager V W D) :
    Post (shutdownRelay rack)
      (fun _ t ↦ (s.relay.connected = true →
          OpenedSinceOn t.relay ∨ ∃ new, t.faults = new ++ s.faults ∧ RelayFaulted new) ∧
        (s.relay.connected = false → t = s))
      (fun _ _ ↦ False) s := by
  refine (post_bind _).mpr (post_get.mpr (post_ite.mpr ?_))
  split
  · rename_i hconnected
    have hnot : s.relay.connected ≠ false := fun h ↦ absurd (hconnected.symm.trans h) nofun
    refine (post_handle _).mpr (post_zoom.mpr ((post_openAll_opened rack.relay rack.net
      s.relay).mono ?_ fun e relay _ ↦ ?_))
    · rintro _ relay ⟨new, hrelay⟩
      exact ⟨fun _ ↦ Or.inl (.of_opened hrelay), fun h ↦ absurd h hnot⟩
    · refine ⟨fun _ ↦ Or.inr ⟨_, rfl, _, List.mem_cons_of_mem _ (List.mem_cons_of_mem _
        List.mem_cons_self), rfl⟩, fun h ↦ absurd h hnot⟩
  · rename_i hconnected
    exact ⟨fun h ↦ absurd h hconnected, fun _ ↦ rfl⟩

/-- **What `disconnect_all` makes of the relay.** -/
theorem post_disconnectAll_keepsRelayPromise (s : Manager V W D) :
    Post (disconnectAll rack)
      (fun _ t ↦ KeepsRelayPromise s t ↔ s.relay.connected = true ∨ OpenedSinceOn s.relay)
      (fun _ _ ↦ True) s := by
  refine (post_bind _).mpr ((sameRelay_shutdownSmu rack s).mono (fun safe t hst ↦ ?_)
    fun _ _ _ ↦ trivial)
  refine (post_bind _).mpr ((post_shutdownRelay rack t).mono (fun _ u hu ↦ ?_) fun _ _ h ↦ h.elim)
  have hrest : Within RelayStill (do
      zeroSmuSetpoint rack
      disconnectConnected rack (List.filter (hasDevice rack)
        ([.relay, .dmm] ++ (if safe then [.smu] else []) ++ [.daq, .ntcDaq]))) :=
    .bind (relayStill_zeroSmuSetpoint rack) fun _ ↦ relayStill_disconnectConnected rack _
  refine (hrest u).mono (fun _ v huv ↦ ?_) fun _ _ _ ↦ trivial
  obtain ⟨hrelay, new, hnew, hno⟩ := hst
  obtain ⟨htrace, new', hnew', hno'⟩ := huv
  rw [hrelay] at hu
  cases hconnected : s.relay.connected with
  | true =>
    refine iff_of_true ?_ (Or.inl rfl)
    rintro ⟨all, hall, hnone⟩
    rcases hu.1 hconnected with hopened | ⟨fault, hfault, hreported⟩
    · rw [OpenedSinceOn, htrace]
      exact hopened
    · -- The fault is among those reported from `s` to `v`.
      have hsplit : all = new' ++ (fault ++ new) := by
        refine List.append_cancel_right (hall.symm.trans ?_)
        rw [hnew', hfault, hnew, List.append_assoc, List.append_assoc]
      obtain ⟨f, hmem, htype⟩ := hreported
      refine absurd ⟨f, ?_, htype⟩ hnone
      rw [hsplit]
      exact List.mem_append_right _ (List.mem_append_left _ hmem)
  | false =>
    obtain rfl := hu.2 hconnected
    have hquiet : ∃ all, v.faults = all ++ s.faults ∧ ¬RelayFaulted all := by
      refine ⟨new' ++ new, ?_, not_relayFaulted_append hno' hno⟩
      rw [hnew', hnew, List.append_assoc]
    have hsame : v.relay.trace = s.relay.trace := htrace.trans (congrArg Matrix.trace hrelay)
    constructor
    · intro hkeeps
      have hopened := hkeeps hquiet
      rw [OpenedSinceOn, hsame] at hopened
      exact Or.inr hopened
    · rintro (h | h) -
      · exact absurd h Bool.false_ne_true
      · rw [OpenedSinceOn, hsame]
        exact h

end

end Manager

/-! ## Runs -/

/-- **When the relay is not left behind.** In every run, a `disconnect_all` that returned kept its
promise exactly if at its start the driver counted as connected, or `open_all` had returned since
the last switch-on. -/
theorem keepsRelayPromise_iff {rack : Rack V W D} {cfg : SweepConfig V W}
    {steps : List (BenchStep V W D)} {s : Bench V W D} (h : Run (benchCalls rack cfg) steps s) :
    ∀ step ∈ steps, step.call = .disconnectAll → step.returned = true →
      (KeepsRelayPromise step.before.manager step.after.manager
        ↔ step.before.manager.relay.connected = true ∨
          OpenedSinceOn step.before.manager.relay) := by
  rintro ⟨call, returned, before, after⟩ hmem rfl rfl
  have hends : BenchCall.disconnectAll.run rack cfg before = .ok () after := ends_of_run h _ hmem
  have hpost : Post (BenchCall.disconnectAll.run rack cfg)
      (fun _ t ↦ KeepsRelayPromise before.manager t.manager
        ↔ before.manager.relay.connected = true ∨ OpenedSinceOn before.manager.relay)
      (fun _ _ ↦ True) before :=
    post_zoom.mpr (Manager.post_disconnectAll_keepsRelayPromise rack before.manager)
  exact (post_of_ok hends).mp hpost

/-- From a point in time on the network is down: nothing arrives, and a new connection is
refused. -/
def unplugged (after : ℕ) : Matrix BankWorld :=
  { promptModule with
    world := { promptModule.world with
      script := fun clock ↦
        if clock < after then promptChoice
        else
          { promptChoice with
            connect := .refused
            delivery := .timeout
            chatter := .timeout } } }

/-- The network goes down when `close(3)` has switched its relay on: the reconnect fails, and
`disconnect_all` returns without a word although the relay is energized. -/
theorem not_keepsRelayPromise_unplugged :
    ¬∀ steps s, Run (benchCalls (scriptedRack false) emptySweep) steps s →
      ∀ step ∈ steps, step.call = .disconnectAll → step.returned = true →
        KeepsRelayPromise step.before.manager step.after.manager := by
  intro h
  have hruns : ((do
      (BenchCall.connectAll .production).run (scriptedRack false) emptySweep
      let _ ← ((BenchCall.relay (.operate (.closeChannel 3))).run (scriptedRack false)
        emptySweep).attempt :
        Prog Exc (Bench Unit BankWorld Unit) Unit) (newBench (unplugged 31))).final.bind
      (fun t ↦ (BenchCall.disconnectAll.run (scriptedRack false) emptySweep t).final.map fun u ↦
        (t.manager.relay.connected, decide (OpenedSinceOn t.manager.relay),
          u.manager.relay.world.bank)) = some (false, false, 4) := by
    decide +kernel
  obtain ⟨t, hboth, hlast⟩ := Option.bind_eq_some_iff.mp hruns
  obtain ⟨_, hboth⟩ := Outcome.eq_ok_of_final hboth
  obtain ⟨_, s, hs, ht⟩ := exists_of_bind_eq_ok hboth
  obtain ⟨_, t', hclose, ht⟩ := exists_of_bind_eq_ok ht
  obtain rfl : t' = t := (Outcome.ok.inj ht).2
  obtain ⟨returned, hclose⟩ : ∃ returned, BenchStep.Ends (scriptedRack false) emptySweep
      ⟨.relay (.operate (.closeChannel 3)), returned, s, t'⟩ := by
    rcases exists_of_attempt_eq_ok hclose with ⟨_, hreturned⟩ | hraised
    · exact ⟨true, hreturned⟩
    · exact ⟨false, hraised⟩
  obtain ⟨_, u, hu, hends⟩ := Outcome.exists_of_final hlast
  obtain ⟨hconnected, hopened, -⟩ : _ ∧ _ ∧ _ := by simpa only [Prod.mk.injEq] using hends
  have hrun : Run (benchCalls (scriptedRack false) emptySweep)
      [⟨.disconnectAll, true, t', u⟩, ⟨.relay (.operate (.closeChannel 3)), returned, s, t'⟩,
        ⟨.connectAll .production, true, newBench (unplugged 31), s⟩] u :=
    .step (.step (.step (.init (newBench_newBench rfl rfl)) ⟨rfl, rfl, hs⟩) ⟨rfl, rfl, hclose⟩)
      ⟨rfl, rfl, hu⟩
  have hkeeps := h _ _ hrun _ List.mem_cons_self rfl rfl
  have hpost : Post (BenchCall.disconnectAll.run (scriptedRack false) emptySweep)
      (fun _ b ↦ KeepsRelayPromise t'.manager b.manager
        ↔ t'.manager.relay.connected = true ∨ OpenedSinceOn t'.manager.relay)
      (fun _ _ ↦ True) t' :=
    post_zoom.mpr (Manager.post_disconnectAll_keepsRelayPromise _ t'.manager)
  rcases ((post_of_ok hu).mp hpost).mp hkeeps with h | h
  · exact absurd (hconnected.symm.trans h) Bool.false_ne_true
  · exact of_decide_eq_false hopened h

/-- A strict `connect_all`, channel 3 closed, and `disconnect_all`. -/
theorem keepsRelayPromise_iff_normalRun :
    ∃ s t u, Run (benchCalls (scriptedRack false) emptySweep)
      [⟨.disconnectAll, true, t, u⟩, ⟨.relay (.operate (.closeChannel 3)), true, s, t⟩,
        ⟨.connectAll .production, true, newBench promptModule, s⟩] u ∧
      (KeepsRelayPromise t.manager u.manager
        ↔ t.manager.relay.connected = true ∨ OpenedSinceOn t.manager.relay) := by
  have hruns : ((do
      (BenchCall.connectAll .production).run (scriptedRack false) emptySweep
      (BenchCall.relay (.operate (.closeChannel 3))).run (scriptedRack false) emptySweep
      BenchCall.disconnectAll.run (scriptedRack false) emptySweep :
        Prog Exc (Bench Unit BankWorld Unit) Unit) (newBench promptModule)).final.map
      (·.manager.relay.world.bank) = some 0 := by
    decide +kernel
  obtain ⟨_, u, hall, -⟩ := Outcome.exists_of_final hruns
  obtain ⟨_, s, hs, hall⟩ := exists_of_bind_eq_ok hall
  obtain ⟨_, t, ht, hu⟩ := exists_of_bind_eq_ok hall
  have hrun : Run (benchCalls (scriptedRack false) emptySweep)
      [⟨.disconnectAll, true, t, u⟩, ⟨.relay (.operate (.closeChannel 3)), true, s, t⟩,
        ⟨.connectAll .production, true, newBench promptModule, s⟩] u :=
    .step (.step (.step (.init (newBench_newBench rfl rfl)) ⟨rfl, rfl, hs⟩) ⟨rfl, rfl, ht⟩)
      ⟨rfl, rfl, hu⟩
  exact ⟨s, t, u, hrun, keepsRelayPromise_iff hrun _ List.mem_cons_self rfl rfl⟩

end Nipxi
