import Nipxi.Hardware.Relay.Session
import Nipxi.TestControl.Bench

/-!
# What a startup that succeeds has verified

`connect_all` and the sweep let a missing device pass, outside production, but should never go on
with one whose state they could not verify. They decide that by whether `connect` raised. For an
SMU that is right: an open session is checked, and a failed check ends the startup. A relay matrix
may accept the login and then fail its first readall, and such a `connect` raises like that of a
matrix that is not there (`RejectedAfterLogin`). `startup_verified_iff` says that this is the only
gap, in both.
-/

open Effect Transition

namespace Nipxi

/-! ## Verified devices -/

/-- A session was opened. -/
def SmuEvent.IsSession : SmuEvent → Prop
  | .opened => True
  | _ => False

/-- The output was verified off. -/
def SmuEvent.IsVerified : SmuEvent → Prop
  | .outputOff _ verified => verified = true
  | _ => False

variable {V W D : Type}

/-- `t` comes after `s`, and every session opened in between was followed by a verified
output-off. -/
def SmuVerified (s t : Smu V) : Prop :=
  ∃ new, t.trace = new ++ s.trace ∧ Settled SmuEvent.IsSession SmuEvent.IsVerified new

theorem SmuVerified.refl_of_trace {s t : Smu V} (h : t.trace = s.trace) : SmuVerified s t :=
  ⟨[], h, trivial⟩

theorem SmuVerified.trans {r s t : Smu V} (hrs : SmuVerified r s) (hst : SmuVerified s t) :
    SmuVerified r t := by
  obtain ⟨new, hs, hnew⟩ := hrs
  obtain ⟨new', ht, hnew'⟩ := hst
  exact ⟨new' ++ new, by rw [ht, hs, List.append_assoc], hnew'.append hnew⟩

theorem SmuVerified.of_checked {s t : Smu V} {reason : String} {older : List SmuEvent}
    (hopened : older = .opened :: s.trace ∨ older = s.trace)
    (h : t.trace = .outputOff reason true :: older) : SmuVerified s t := by
  rcases hopened with rfl | rfl
  · exact ⟨[.outputOff reason true, .opened], h, .of_cons rfl⟩
  · exact ⟨[.outputOff reason true], h, .of_cons rfl⟩

/-- A bank opened at the end settles whatever was accepted before. -/
theorem relayVerified_of_opened {s t : Matrix W} (new : List RelayEvent)
    (h : t.trace = .opened :: new ++ s.trace) : RelayVerified s t :=
  ⟨.opened :: new, h, .of_cons trivial⟩

namespace Manager

section

variable (rack : Rack V W D)

/-- Neither the SMU nor the relay is touched. -/
def SameBoth (s t : Manager V W D) : Prop := t.smu = s.smu ∧ t.relay = s.relay

instance : IsPreorder (Manager V W D) SameBoth where
  refl _ := ⟨rfl, rfl⟩
  trans _ _ _ h h' := ⟨h'.1.trans h.1, h'.2.trans h.2⟩

theorem sameBoth_connectDevice {dev : Device} (hsmu : dev ≠ .smu) (hrelay : dev ≠ .relay) :
    Within SameBoth (connectDevice rack dev) := fun s ↦
  ((sameSmu_connectDevice rack hsmu s).and (sameRelay_connectDevice rack hrelay s)).mono
    (fun _ _ h ↦ ⟨h.1, h.2.1⟩) fun _ _ h ↦ ⟨h.1, h.2.1⟩

/-- What is asked of a startup that returned. -/
def StartedFrom (s t : Manager V W D) : Prop :=
  SmuVerified s.smu t.smu ∧
    (RelayVerified s.relay t.relay ↔ ¬RejectedAfterLogin rack.relay rack.net s.relay)

/-- The PMU check, when it succeeds. -/
theorem post_smuOutputOff_verified (reason : String) {s u : Manager V W D}
    (hopened : u.smu.trace = .opened :: s.smu.trace ∨ u.smu.trace = s.smu.trace) :
    Post (smuOutputOff rack reason)
      (fun verified t ↦ (verified = true → SmuVerified s.smu t.smu) ∧ t.relay = u.relay)
      (fun _ _ ↦ False) u := by
  refine post_zoom.mpr ((Smu.post_emergencyOutputOff rack.smu rack.nidcpower reason u.smu).mono ?_
    fun _ _ h ↦ h)
  rintro verified smu ⟨htrace, -⟩
  refine ⟨?_, rfl⟩
  rintro rfl
  exact .of_checked hopened htrace

/-- Connecting the relay in front of the bank opening, when it succeeds. -/
theorem post_connectRelay {s u : Manager V W D} (hu : u.relay = s.relay) :
    Post (connectDevice rack .relay)
      (fun _ t ↦ t.smu = u.smu ∧ t.relay.connected = true ∧
        ¬RejectedAfterLogin rack.relay rack.net s.relay ∧
        ∃ new, t.relay.trace = new ++ s.relay.trace)
      (fun _ t ↦ t.smu = u.smu ∧ t.relay.connected = false ∧
        (RelayVerified s.relay t.relay ↔ ¬RejectedAfterLogin rack.relay rack.net s.relay)) u := by
  have hboth := (post_connect_connected rack.relay rack.net s.relay).and
    (post_connect_verified rack.relay rack.net s.relay)
  refine post_zoom.mpr ?_
  change Post _ _ _ u.relay
  rw [hu]
  exact hboth.mono (fun _ _ h ↦ ⟨rfl, h⟩) fun _ _ h ↦ ⟨rfl, h⟩

/-- The bank opening, when it succeeds. -/
theorem post_relayOpenAll_verified {s u : Manager V W D}
    (hu : ∃ new, u.relay.trace = new ++ s.relay.trace) :
    Post (relayOpenAll rack) (fun _ t ↦ t.smu = u.smu ∧ RelayVerified s.relay t.relay)
      (fun _ _ ↦ True) u := by
  obtain ⟨old, hold⟩ := hu
  refine post_zoom.mpr ((post_openAll_opened rack.relay rack.net u.relay).mono ?_
    fun _ _ _ ↦ trivial)
  rintro _ relay ⟨new, hrelay⟩
  change relay.trace = _ at hrelay
  refine ⟨rfl, relayVerified_of_opened (new ++ old) ?_⟩
  change relay.trace = _
  rw [hrelay, hold, List.cons_append, List.cons_append, List.append_assoc]

/-! ## Strictly -/

/-- A failing stage ends the startup. -/
theorem post_guarded {connected : List Device} {x : ManagerProg V W D Unit}
    {Q : Manager V W D → Prop} {s : Manager V W D}
    (h : Post x (fun _ t ↦ Q t) (fun _ _ ↦ True) s) :
    Post (guarded rack connected x) (fun _ t ↦ Q t) (fun _ _ ↦ True) s :=
  (post_handle _).mpr (h.mono (fun _ _ ht ↦ ht) fun _ _ _ ↦
    (post_bind _).mpr (.of_forall (fun _ _ ↦ trivial) fun _ _ ↦ trivial))

theorem post_connectAllStrict_started (s : Manager V W D) :
    Post (connectAllStrict rack) (fun _ t ↦ StartedFrom rack s t) (fun _ _ ↦ True) s := by
  have hskip : ∀ {x : ManagerProg V W D Unit} {connected : List Device} {u : Manager V W D},
      Within SameBoth x → Post (guarded rack connected x) (fun _ t ↦ SameBoth u t)
        (fun _ _ ↦ True) u := fun hx ↦
    post_guarded rack ((hx _).mono (fun _ _ h ↦ h) fun _ _ _ ↦ trivial)
  -- The DAQs.
  refine (hskip (sameBoth_connectDevice rack (by decide) (by decide))).bind fun _ t ht ↦ ?_
  refine (hskip (sameBoth_connectDevice rack (by decide) (by decide))).bind fun _ u hu ↦ ?_
  have hsu := trans_of SameBoth ht hu
  -- The SMU and its check.
  have hopen : Post (connectDevice rack .smu)
      (fun _ v ↦ v.smu.trace = .opened :: s.smu.trace ∧ v.relay = s.relay) (fun _ _ ↦ True) u := by
    refine post_zoom.mpr ((Smu.post_connect rack.smu rack.nidcpower u.smu).mono ?_
      fun _ _ _ ↦ trivial)
    rintro _ smu ⟨-, htrace⟩
    exact ⟨by rw [← hsu.1]; exact htrace, hsu.2⟩
  refine (post_guarded rack hopen).bind fun _ v hv ↦ ?_
  have hcheck : Post (strictSmuCheck rack)
      (fun _ w ↦ SmuVerified s.smu w.smu ∧ w.relay = s.relay) (fun _ _ ↦ True) v := by
    refine (post_bind _).mpr ((post_smuOutputOff_verified rack _ (Or.inl hv.1)).mono ?_
      fun _ _ h ↦ h.elim)
    rintro verified w ⟨hw, hrelay⟩
    cases verified with
    | true => exact ⟨hw rfl, hrelay.trans hv.2⟩
    | false => trivial
  refine (post_guarded rack hcheck).bind fun _ w hw ↦ ?_
  -- The DMM.
  refine (hskip (sameBoth_connectDevice rack (by decide) (by decide))).bind fun _ x hx ↦ ?_
  -- The relay and its bank.
  have hconnect := (post_connectRelay rack (hx.2.trans hw.2)).mono (fun _ _ h ↦ h)
    fun _ _ _ ↦ trivial
  refine (post_guarded rack hconnect).bind fun _ y hy ↦ ?_
  obtain ⟨hsmu, -, haccepted, hgrown⟩ := hy
  refine (post_guarded rack (post_relayOpenAll_verified rack hgrown)).mono ?_ fun _ _ h ↦ h
  rintro _ z ⟨hz, hverified⟩
  refine ⟨?_, iff_of_true hverified haccepted⟩
  rw [hz, hsmu, hx.1]
  exact hw.1

/-! ## Leniently -/

theorem sameBoth_tryConnect {dev : Device} (hsmu : dev ≠ .smu) (hrelay : dev ≠ .relay)
    (label : String) : Within SameBoth (tryConnect rack dev label) := by
  refine .ite (.bind (.attempt (sameBoth_connectDevice rack hsmu hrelay)) fun r ↦ ?_) (.pure _)
  cases r with
  | ok _ => exact fun _ ↦ ⟨rfl, rfl⟩
  | error e => exact fun _ ↦ ⟨rfl, rfl⟩

theorem post_tryConnectSmu (label : String) (u : Manager V W D) :
    Post (tryConnect rack .smu label)
      (fun _ t ↦ t.relay = u.relay ∧
        (t.smu.trace = .opened :: u.smu.trace ∧ t.smu.connected = true ∨
          t.smu.trace = u.smu.trace)) (fun _ _ ↦ True) u := by
  rw [tryConnect, if_pos (show hasDevice rack .smu = true from rfl)]
  refine (post_bind _).mpr (post_attempt.mpr (post_zoom.mpr ?_))
  refine (Smu.post_connect rack.smu rack.nidcpower u.smu).mono ?_ ?_
  · rintro _ smu ⟨hconnected, htrace⟩
    exact ⟨rfl, Or.inl ⟨htrace, hconnected⟩⟩
  · rintro e smu ⟨htrace, -⟩
    exact ⟨rfl, Or.inr htrace⟩

theorem post_tryConnectRelay (label : String) {s u : Manager V W D} (hu : u.relay = s.relay) :
    Post (tryConnect rack .relay label)
      (fun _ t ↦ t.smu = u.smu ∧
        (t.relay.connected = true ∧ ¬RejectedAfterLogin rack.relay rack.net s.relay ∧
            (∃ new, t.relay.trace = new ++ s.relay.trace) ∨
          t.relay.connected = false ∧
            (RelayVerified s.relay t.relay ↔ ¬RejectedAfterLogin rack.relay rack.net s.relay)))
      (fun _ _ ↦ True) u := by
  rw [tryConnect, if_pos (show hasDevice rack .relay = true from rfl)]
  refine (post_bind _).mpr (post_attempt.mpr ((post_connectRelay rack hu).mono ?_ ?_))
  · exact fun _ _ h ↦ ⟨h.1, Or.inl h.2⟩
  · exact fun _ _ h ↦ ⟨h.1, Or.inr h.2⟩

/-- The rollback of a failed lenient startup ends it. -/
theorem post_rollback_raises {devices : List Device} {label : String} {status : DeviceStatus}
    {e : Exc} {Q : Manager V W D → Prop} (s : Manager V W D) :
    Post (do
      disconnectConnected rack devices
      setStatus label status
      (.raise e : ManagerProg V W D Unit)) (fun _ t ↦ Q t) (fun _ _ ↦ True) s :=
  (post_bind _).mpr (.of_forall (fun _ _ ↦ trivial) fun _ _ ↦ trivial)

/-- The PMU check leaves a startup that goes on with its SMU verified. -/
theorem post_lenientSmuCheck_verified {s u : Manager V W D}
    (hu : u.smu.trace = .opened :: s.smu.trace ∧ u.smu.connected = true ∨
      u.smu.trace = s.smu.trace) :
    Post (lenientSmuCheck rack) (fun _ t ↦ SmuVerified s.smu t.smu ∧ t.relay = u.relay)
      (fun _ _ ↦ True) u := by
  refine (post_bind _).mpr (post_get.mpr (post_ite.mpr ?_))
  split
  · have hopened := hu.imp_left And.left
    refine (post_bind _).mpr ((post_smuOutputOff_verified rack _ hopened).mono ?_
      fun _ _ h ↦ h.elim)
    rintro verified t ⟨ht, hrelay⟩
    cases verified with
    | true => exact ⟨ht rfl, hrelay⟩
    | false => exact post_rollback_raises rack t
  · rename_i hconnected
    refine ⟨.refl_of_trace ?_, rfl⟩
    exact hu.resolve_left fun h ↦ hconnected h.2

theorem post_connectAllLenient_started (s : Manager V W D) :
    Post (connectAllLenient rack) (fun _ t ↦ StartedFrom rack s t) (fun _ _ ↦ True) s := by
  have hskip : ∀ {x : ManagerProg V W D Unit} {u v : Manager V W D}, Within SameBoth x →
      SameBoth u v → Post x (fun _ t ↦ SameBoth u t) (fun _ _ ↦ True) v := fun hx huv ↦
    (hx.after huv).mono (fun _ _ h ↦ h) fun _ _ _ ↦ trivial
  have hdaq : Within SameBoth (tryConnect rack .daq "DAQ") :=
    sameBoth_tryConnect rack (by decide) (by decide) _
  have hntc : Within SameBoth (tryConnect rack .ntcDaq "NTC_DAQ") :=
    sameBoth_tryConnect rack (by decide) (by decide) _
  have hdmm : Within SameBoth (tryConnect rack .dmm "DMM") :=
    sameBoth_tryConnect rack (by decide) (by decide) _
  have hreset : Within SameBoth (.modify fun m ↦ { m with hardwareStatus := .empty } :
      ManagerProg V W D Unit) := fun _ ↦ ⟨rfl, rfl⟩
  refine (hskip hreset (refl_of SameBoth s)).bind fun _ r hr ↦ ?_
  refine (hskip hdaq hr).bind fun _ t ht ↦ ?_
  refine (hskip hntc ht).bind fun _ u hu ↦ ?_
  refine (post_tryConnectSmu rack _ u).bind fun _ v hv ↦ ?_
  rw [hu.1, hu.2] at hv
  refine (hskip hdmm (refl_of SameBoth v)).bind fun _ w hw ↦ ?_
  refine (post_bind _).mpr ((post_tryConnectRelay rack _ (hw.2.trans hv.1)).mono ?_ fun _ _ h ↦ h)
  rintro _ x ⟨hsmu, hrelay⟩
  rw [← hsmu.trans hw.1] at hv
  refine (post_bind _).mpr ((post_lenientSmuCheck_verified rack hv.2).mono ?_ fun _ _ h ↦ h)
  rintro _ y ⟨hverified, hy⟩
  rw [← hy] at hrelay
  refine (post_bind _).mpr (post_get.mpr (post_ite.mpr ?_))
  split
  · rename_i hconnected
    rcases hrelay with ⟨-, haccepted, hgrown⟩ | ⟨hnot, -⟩
    · refine (post_handle _).mpr ((post_relayOpenAll_verified rack hgrown).mono ?_
        fun _ _ _ ↦ post_rollback_raises rack _)
      rintro _ z ⟨hz, hz'⟩
      refine ⟨?_, iff_of_true hz' haccepted⟩
      rw [hz]
      exact hverified
    · exact absurd (hnot.symm.trans hconnected) Bool.false_ne_true
  · rename_i hconnected
    rcases hrelay with ⟨hyes, -⟩ | ⟨-, hiff⟩
    · exact absurd hyes hconnected
    · exact ⟨hverified, hiff⟩

end

end Manager

/-! ## The sweep -/

namespace Sweep

theorem get_relayLens_set (name : String) (relay : Matrix W) (s : Sweep V W) :
    ((relayLens name).set relay s).relays name = relay := Function.update_self ..

theorem get_smuLens_set (name : String) (smu : Smu V) (s : Sweep V W) :
    ((smuLens name).set smu s).smus name = smu := Function.update_self ..

/-- Only the SMU of that name may have changed, and it was verified. -/
def SweptSmu (name : String) (s t : Sweep V W) : Prop :=
  (∀ other, other ≠ name → t.smus other = s.smus other) ∧ t.relays = s.relays ∧
    SmuVerified (s.smus name) (t.smus name)

theorem sweptSmu_set {name : String} {s : Sweep V W} {smu : Smu V}
    (h : SmuVerified (s.smus name) smu) : SweptSmu name s ((smuLens name).set smu s) := by
  refine ⟨fun other hother ↦ Function.update_of_ne hother .., rfl, ?_⟩
  rw [get_smuLens_set]
  exact h

section

variable (cfg : SweepConfig V W)

/-- One round over the SMUs, when it does not block. -/
theorem post_sweepSmu_swept (name : String) (smu : SmuConfig) (s : Sweep V W) :
    Post (sweepSmu cfg name smu) (fun _ t ↦ SweptSmu name s t) (fun _ _ ↦ True) s := by
  refine (post_bind _).mpr (post_zoom.mpr ((post_modify _).mpr ?_))
  refine (post_bind _).mpr (post_attempt.mpr (post_zoom.mpr ?_))
  rw [Lens.get_set]
  refine (Smu.post_connect smu (cfg.nidcpower name) _).mono ?_ ?_
  · rintro _ opened ⟨hconnected, hopened⟩
    rw [Lens.set_set]
    refine (post_ensuring _).mpr ((post_bind _).mpr (post_zoom.mpr ?_))
    rw [Lens.get_set]
    refine (Smu.post_emergencyOutputOff smu (cfg.nidcpower name) _ opened).mono ?_
      fun _ _ h ↦ h.elim
    rintro verified off ⟨hoff, hsame⟩
    rw [Lens.set_set]
    cases verified with
    | false =>
      refine (post_bind _).mpr ((post_modify _).mpr ?_)
      exact (post_bind _).mpr (.of_forall (fun _ _ ↦ trivial) fun _ _ ↦ trivial)
    | true =>
      refine (post_bind _).mpr (post_attempt.mpr (post_zoom.mpr ?_))
      rw [Lens.get_set]
      refine (Smu.post_disconnect (cfg.nidcpower name) off).mono ?_ fun _ _ h ↦ h.elim
      rintro _ closed ⟨-, hclosed⟩
      rw [Lens.set_set]
      refine sweptSmu_set ⟨[.closed, .outputOff "startup safety sweep" true, .opened], ?_,
        Or.inr ⟨id, .of_cons rfl⟩⟩
      rw [hclosed, Smu.closing, if_pos (hsame.trans hconnected), hoff, hopened]
      rfl
  · rintro e failed ⟨htrace, -⟩
    rw [Lens.set_set]
    exact sweptSmu_set (.refl_of_trace htrace)

/-- Only the relay of that name may have changed, and it was verified unless it accepted a session
and then failed to connect. -/
def SweptRelay (name : String) (relay : RelayConfig) (s t : Sweep V W) : Prop :=
  (∀ other, other ≠ name → t.relays other = s.relays other) ∧ t.smus = s.smus ∧
    (RelayVerified (s.relays name) (t.relays name)
      ↔ ¬RejectedAfterLogin relay (cfg.net name) (s.relays name).renewed)

theorem sweptRelay_set {name : String} {relay : RelayConfig} {s : Sweep V W} {m : Matrix W}
    (h : RelayVerified (s.relays name) m
      ↔ ¬RejectedAfterLogin relay (cfg.net name) (s.relays name).renewed) :
    SweptRelay cfg name relay s ((relayLens name).set m s) := by
  refine ⟨fun other hother ↦ Function.update_of_ne hother .., rfl, ?_⟩
  rw [get_relayLens_set]
  exact h

/-- One round over the relay matrices, when it does not block. -/
theorem post_sweepRelay_swept (name : String) (relay : RelayConfig) (s : Sweep V W) :
    Post (sweepRelay cfg name relay) (fun _ t ↦ SweptRelay cfg name relay s t) (fun _ _ ↦ True)
      s := by
  refine (post_bind _).mpr (post_zoom.mpr ((post_modify _).mpr ?_))
  refine (post_bind _).mpr (post_attempt.mpr (post_zoom.mpr ?_))
  rw [Lens.get_set]
  refine (post_connect_verified relay (cfg.net name) (s.relays name).renewed).mono ?_ ?_
  · rintro _ accepted ⟨haccepted, old, hold⟩
    rw [Lens.set_set]
    refine (post_ensuring _).mpr ((post_handle _).mpr (post_zoom.mpr ?_))
    rw [Lens.get_set]
    refine (post_openAll_opened relay (cfg.net name) accepted).mono ?_ ?_
    · rintro _ opened ⟨new, hopened⟩
      rw [Lens.set_set]
      refine (post_bind _).mpr (post_attempt.mpr (post_zoom.mpr ?_))
      rw [Lens.get_set]
      have hend : ∀ closed : Matrix W, closed.trace = opened.trace →
          SweptRelay cfg name relay s
            ((relayLens name).set closed ((relayLens name).set opened s)) := by
        intro closed hclosed
        rw [Lens.set_set]
        refine sweptRelay_set cfg (iff_of_true ?_ haccepted)
        refine relayVerified_of_opened (new ++ old) ?_
        rw [hclosed, hopened, hold, List.cons_append, List.cons_append, List.append_assoc]
        rfl
      exact (post_disconnect_trace (cfg.net name) opened).mono (fun _ t ht ↦ hend t ht)
        fun _ t ht ↦ hend t ht
    · intro e opened _
      refine (post_bind _).mpr ((post_modify _).mpr ?_)
      exact (post_bind _).mpr (.of_forall (fun _ _ ↦ trivial) fun _ _ ↦ trivial)
  · intro e failed hfailed
    rw [Lens.set_set]
    exact sweptRelay_set cfg hfailed

/-- The loop over the SMUs. -/
theorem post_sweepSmus_verified (items : List (String × SmuConfig)) (s : Sweep V W) :
    Post (sweepSmus cfg items)
      (fun _ t ↦ t.relays = s.relays ∧ ∀ name, SmuVerified (s.smus name) (t.smus name))
      (fun _ _ ↦ True) s := by
  induction items generalizing s with
  | nil => exact ⟨rfl, fun _ ↦ .refl_of_trace rfl⟩
  | cons item rest ih =>
    obtain ⟨name, smu⟩ := item
    refine (post_bind _).mpr ((post_sweepSmu_swept cfg name smu s).mono ?_ fun _ _ h ↦ h)
    rintro _ t ⟨hothers, hrelays, hname⟩
    refine (ih t).mono ?_ fun _ _ h ↦ h
    rintro _ u ⟨hrelays', hverified⟩
    refine ⟨hrelays'.trans hrelays, fun other ↦ ?_⟩
    by_cases hother : other = name
    · rw [hother]
      exact hname.trans (hverified name)
    · rw [← hothers other hother]
      exact hverified other

/-- The loop over the relay matrices: each matrix on its own. -/
theorem post_sweepRelays_verified {items : List (String × RelayConfig)}
    (hitems : (items.map Prod.fst).Nodup) (s : Sweep V W) :
    Post (sweepRelays cfg items)
      (fun _ t ↦ t.smus = s.smus ∧
        (∀ name, name ∉ items.map Prod.fst → t.relays name = s.relays name) ∧
        ∀ item ∈ items, (RelayVerified (s.relays item.1) (t.relays item.1)
          ↔ ¬RejectedAfterLogin item.2 (cfg.net item.1) (s.relays item.1).renewed))
      (fun _ _ ↦ True) s := by
  induction items generalizing s with
  | nil => exact ⟨rfl, fun _ _ ↦ rfl, List.forall_mem_nil _⟩
  | cons item rest ih =>
    obtain ⟨name, relay⟩ := item
    obtain ⟨hname, hrest⟩ := List.nodup_cons.mp hitems
    refine (post_bind _).mpr ((post_sweepRelay_swept cfg name relay s).mono ?_ fun _ _ h ↦ h)
    rintro _ t ⟨hothers, hsmus, hverified⟩
    refine (ih hrest t).mono ?_ fun _ _ h ↦ h
    rintro _ u ⟨hsmus', huntouched, hitem⟩
    refine ⟨hsmus'.trans hsmus, fun other hother ↦ ?_, List.forall_mem_cons.mpr ⟨?_, ?_⟩⟩
    · have hne : other ≠ name := fun h ↦ hother (h ▸ List.mem_cons_self)
      rw [huntouched other fun h ↦ hother (List.mem_cons_of_mem _ h), hothers other hne]
    · rw [huntouched name hname]
      exact hverified
    · intro item hmem
      have hne : item.1 ≠ name := fun h ↦ hname (List.mem_map.mpr ⟨item, hmem, h⟩)
      rw [← hothers item.1 hne]
      exact hitem item hmem

/-- **The sweep**, when it does not block. -/
theorem post_runStartupSafetySweep_verified (s : Sweep V W) :
    Post (runStartupSafetySweep cfg)
      (fun _ t ↦ (∀ name, SmuVerified (s.smus name) (t.smus name)) ∧
        ((∀ name, RelayVerified (s.relays name) (t.relays name))
          ↔ ∀ item ∈ cfg.relayMatrixConfigs.items,
            ¬RejectedAfterLogin item.2 (cfg.net item.1) (s.relays item.1).renewed))
      (fun _ _ ↦ True) s := by
  refine (post_bind _).mpr ((post_sweepSmus_verified cfg _ s).mono ?_ fun _ _ h ↦ h)
  rintro _ t ⟨hrelays, hsmus⟩
  refine (post_sweepRelays_verified cfg cfg.relayMatrixConfigs.nodup_keys t).mono ?_ fun _ _ h ↦ h
  rintro _ u ⟨hsame, huntouched, hitems⟩
  rw [hrelays] at huntouched hitems
  refine ⟨fun name ↦ ?_, fun h item hmem ↦ (hitems item hmem).mp (h item.1), fun h name ↦ ?_⟩
  · rw [hsame]
    exact hsmus name
  · by_cases hname : name ∈ cfg.relayMatrixConfigs.items.map Prod.fst
    · obtain ⟨item, hmem, rfl⟩ := List.mem_map.mp hname
      exact (hitems item hmem).mpr (h item hmem)
    · rw [huntouched name hname]
      exact ⟨[], rfl, trivial⟩

end

end Sweep

/-! ## Both -/

/-- Of a `connect_all` and a sweep that return: every SMU and every relay matrix that accepted a
session was verified afterwards. `C` is asked of a relay matrix before it is connected. -/
def StartupVerifiesWhen (C : RelayConfig → Net W → Matrix W → Prop) (rack : Rack V W D)
    (cfg : SweepConfig V W) : Prop :=
  (∀ mode s t, Manager.connectAll rack mode s = .ok () t →
    (SmuVerified s.smu t.smu ∧ RelayVerified s.relay t.relay ↔ C rack.relay rack.net s.relay)) ∧
  ∀ s t, Sweep.runStartupSafetySweep cfg s = .ok () t →
    ((∀ name, SmuVerified (s.smus name) (t.smus name)) ∧
        (∀ name, RelayVerified (s.relays name) (t.relays name))
      ↔ ∀ item ∈ cfg.relayMatrixConfigs.items,
        C item.2 (cfg.net item.1) (s.relays item.1).renewed)

/-- **What a startup that returned has verified**: everything, unless a relay matrix got past its
login and then failed to connect. -/
theorem startup_verified_iff (rack : Rack V W D) (cfg : SweepConfig V W) :
    StartupVerifiesWhen (fun relay net s ↦ ¬RejectedAfterLogin relay net s) rack cfg := by
  refine ⟨fun mode s t ht ↦ ?_, fun s t ht ↦ ?_⟩
  · have hstarted : Manager.StartedFrom rack s t := by
      unfold Manager.connectAll at ht
      split at ht
      · exact (post_of_ok ht).mp (Manager.post_connectAllStrict_started rack s)
      · exact (post_of_ok ht).mp (Manager.post_connectAllLenient_started rack s)
    exact ⟨fun h ↦ hstarted.2.mp h.2, fun h ↦ ⟨hstarted.1, hstarted.2.mpr h⟩⟩
  · obtain ⟨hsmus, hrelays⟩ := (post_of_ok ht).mp (Sweep.post_runStartupSafetySweep_verified cfg s)
    exact ⟨fun h ↦ hrelays.mp h.2, fun h ↦ ⟨hsmus, hrelays.mpr h⟩⟩

/-- A module that lets the driver log in, and then is not heard of again. -/
def silentAfterLogin : Matrix BankWorld :=
  { promptModule with
    world := { promptModule.world with
      script := fun _ ↦ { promptChoice with delivery := .timeout } } }

/-- A lenient startup returns with a module that accepted a session and was never verified. -/
theorem not_startup_verified_silentAfterLogin :
    ¬StartupVerifiesWhen (fun _ _ _ ↦ True) (scriptedRack false) emptySweep := by
  intro h
  have hrun : (Manager.connectAll (scriptedRack false) .development
      (newBench silentAfterLogin).manager).final.map
      (fun m ↦ decide (Settled RelayEvent.IsLogin RelayEvent.IsOpened m.relay.trace))
      = some false := by
    decide +kernel
  obtain ⟨_, t, ht, hopened⟩ := Outcome.exists_of_final hrun
  obtain ⟨new, hnew, hsettled⟩ := ((h.1 .development _ t ht).mpr trivial).2
  rw [show (newBench silentAfterLogin).manager.relay.trace = [] from rfl, List.append_nil] at hnew
  rw [hnew] at hopened
  exact of_decide_eq_false hopened hsettled

end Nipxi
