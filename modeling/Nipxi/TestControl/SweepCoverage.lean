import Nipxi.TestControl.Startup

/-!
# What a startup sweep reaches

The sweep goes through its devices in order and stops at the first one it finds unsafe. Whether a
device accepts a connection, and whether it is then found unsafe, is decided by its driver object
alone, so both can be said of a device that is never reached. Every device that accepts a connection
is forced off exactly if none of them comes after an unsafe one: `coversReachable_iff`.
-/

open Collections Effect

namespace Nipxi

variable {V W : Type}

/-! ## Devices -/

/-- A device of the sweep, with its name. -/
inductive SweepDevice where
  | smu (name : String) (cfg : SmuConfig)
  | relay (name : String) (cfg : RelayConfig)

/-- The driver object of a device. -/
def SweepDevice.slot : SweepDevice → String ⊕ String
  | smu name _ => .inl name
  | relay name _ => .inr name

section Devices

variable (cfg : SweepConfig V W)

/-- All devices, in the order of the sweep. -/
def SweepConfig.devices : List SweepDevice :=
  cfg.smuAssignments.items.map (fun item ↦ .smu item.1 item.2) ++
    cfg.relayMatrixConfigs.items.map fun item ↦ .relay item.1 item.2

/-- A connection is accepted. -/
def SweepDevice.Accepts (s : Sweep V W) : SweepDevice → Prop
  | smu name dev => ∃ t, Smu.connect dev (cfg.nidcpower name) (s.smus name).renewed = .ok () t
  | relay name dev => ∃ t, connect dev (cfg.net name) (s.relays name).renewed = .ok () t

/-- A connection is accepted, and forcing the device off then fails. -/
def SweepDevice.Unsafe (s : Sweep V W) : SweepDevice → Prop
  | smu name dev => ∃ t u,
    Smu.connect dev (cfg.nidcpower name) (s.smus name).renewed = .ok () t ∧
      Smu.emergencyOutputOff dev (cfg.nidcpower name) "startup safety sweep" t = .ok false u
  | relay name dev => ∃ t u e,
    connect dev (cfg.net name) (s.relays name).renewed = .ok () t ∧
      openAll dev (cfg.net name) t = .error e u

/-- `open_all` was called: it begins with `check_current_relay_state`, which always returns. -/
def OpenAllAttempted (s t : Matrix W) : Prop :=
  ∃ new, t.trace = new ++ s.trace ∧ ∃ mask, .checked mask ∈ new

/-- `emergency_output_off` was called. -/
def OutputOffAttempted (s t : Smu V) : Prop :=
  ∃ new, t.trace = new ++ s.trace ∧ ∃ reason verified, .outputOff reason verified ∈ new

/-- Between the sessions the device was forced off, or the attempt was made. -/
def SweepDevice.Attempted (s t : Sweep V W) : SweepDevice → Prop
  | smu name _ => OutputOffAttempted (s.smus name) (t.smus name)
  | relay name _ => OpenAllAttempted (s.relays name) (t.relays name)

/-- Every device that accepts a connection was forced off, or the attempt was made. -/
def CoversReachable (s t : Sweep V W) : Prop :=
  ∀ d ∈ cfg.devices, d.Accepts cfg s → d.Attempted s t

/-! ## The sweep as one loop -/

namespace Sweep

/-- The round of a device. -/
def sweepDevice : SweepDevice → SweepProg V W Unit
  | .smu name smu => sweepSmu cfg name smu
  | .relay name relay => sweepRelay cfg name relay

/-- The rounds of devices of either kind. -/
def sweepDevices : List SweepDevice → SweepProg V W Unit
  | [] => pure ()
  | d :: rest => do
    sweepDevice cfg d
    sweepDevices rest

variable {cfg} {Q : Unit → Sweep V W → Prop} {E : Exc → Sweep V W → Prop}

theorem sweepRelays_eq (items : List (String × RelayConfig)) :
    sweepRelays cfg items = sweepDevices cfg (items.map fun item ↦ .relay item.1 item.2) := by
  induction items with
  | nil => rfl
  | cons item rest ih =>
    rw [sweepRelays, ih]
    rfl

theorem post_sweepSmus_bind (items : List (String × SmuConfig)) (rest : List SweepDevice)
    (s : Sweep V W) :
    Post (sweepSmus cfg items >>= fun _ ↦ sweepDevices cfg rest) Q E s ↔
      Post (sweepDevices cfg (items.map (fun item ↦ .smu item.1 item.2) ++ rest)) Q E s := by
  induction items generalizing s with
  | nil => rfl
  | cons item items ih =>
    rw [sweepSmus, post_bind, post_bind, List.map_cons, List.cons_append, sweepDevices, post_bind]
    simp only [← post_bind, ih]
    rfl

/-- **The sweep is one loop** over its devices. -/
theorem post_runStartupSafetySweep_iff (s : Sweep V W) :
    Post (runStartupSafetySweep cfg) Q E s ↔ Post (sweepDevices cfg cfg.devices) Q E s := by
  rw [runStartupSafetySweep, sweepRelays_eq]
  exact post_sweepSmus_bind _ _ s

end Sweep

end Devices

/-! ## One round -/

/-- The driver object of the device is the same. -/
def SweepDevice.Untouched (s t : Sweep V W) : SweepDevice → Prop
  | smu name _ => t.smus name = s.smus name
  | relay name _ => t.relays name = s.relays name

/-- What a round leaves behind: only its own device was touched, and forced off if it accepted a
connection. -/
structure Swept (cfg : SweepConfig V W) (d : SweepDevice) (s t : Sweep V W) : Prop where
  others : ∀ d' : SweepDevice, d'.slot ≠ d.slot → d'.Untouched s t
  attempted : d.Accepts cfg s → d.Attempted s t

namespace Sweep

variable (cfg : SweepConfig V W)

/-- A run that does not end. -/
theorem post_of_diverged {ε σ α : Type} {x : Prog ε σ α} {Q : α → σ → Prop} {E : ε → σ → Prop}
    {s : σ} (h : x s = .diverged) : Post x Q E s := by
  unfold Post
  rw [h]
  trivial

theorem swept_smu {name : String} {dev : SmuConfig} {s t : Sweep V W}
    (hothers : ∀ other, other ≠ name → t.smus other = s.smus other) (hrelays : t.relays = s.relays)
    (hattempted : (SweepDevice.smu name dev).Accepts cfg s →
      OutputOffAttempted (s.smus name) (t.smus name)) : Swept cfg (.smu name dev) s t where
  others d hd := by
    cases d with
    | smu other _ => exact hothers other fun h ↦ hd (congrArg Sum.inl h)
    | relay other _ => exact congrFun hrelays other
  attempted := hattempted

theorem swept_relay {name : String} {dev : RelayConfig} {s t : Sweep V W}
    (hothers : ∀ other, other ≠ name → t.relays other = s.relays other) (hsmus : t.smus = s.smus)
    (hattempted : (SweepDevice.relay name dev).Accepts cfg s →
      OpenAllAttempted (s.relays name) (t.relays name)) : Swept cfg (.relay name dev) s t where
  others d hd := by
    cases d with
    | smu other _ => exact congrFun hsmus other
    | relay other _ => exact hothers other fun h ↦ hd (congrArg Sum.inr h)
  attempted := hattempted

theorem smuLens_set_of_ne {name other : String} (h : other ≠ name) (smu : Smu V)
    (s : Sweep V W) : ((smuLens name).set smu s).smus other = s.smus other :=
  Function.update_of_ne h ..

theorem relayLens_set_of_ne {name other : String} (h : other ≠ name) (relay : Matrix W)
    (s : Sweep V W) : ((relayLens name).set relay s).relays other = s.relays other :=
  Function.update_of_ne h ..

/-- `open_all` begins with a check of the state. -/
theorem post_openAll_attempted (relay : RelayConfig) (net : Net W) (s : Matrix W) :
    Post (openAll relay net) (fun _ t ↦ OpenAllAttempted s t) (fun _ t ↦ OpenAllAttempted s t)
      s := by
  have hR : Respects relay net (Grows fun _ ↦ True) :=
    respects_grows net (fun _ _ ↦ trivial) (fun _ _ ↦ trivial) fun _ _ ↦ trivial
  have hlater : ∀ {t u : Matrix W}, OpenAllAttempted s t → Grows (fun _ ↦ True) t u →
      OpenAllAttempted s u := by
    rintro t u ⟨new, ht, mask, hmask⟩ ⟨new', hu, -⟩
    exact ⟨new' ++ new, by rw [hu, ht, List.append_assoc], mask, List.mem_append_right _ hmask⟩
  have hcheck : Post (checkCurrentRelayState relay net) (fun _ t ↦ OpenAllAttempted s t)
      (fun _ t ↦ OpenAllAttempted s t) s := by
    refine (post_bind _).mpr (post_attempt.mpr ((hR.readAll s).mono ?_ ?_))
    · rintro mask t ⟨new, ht, -⟩
      exact ⟨.checked (some mask) :: new, congrArg _ ht, some mask, List.mem_cons_self⟩
    · rintro e t ⟨new, ht, -⟩
      exact ⟨.checked none :: new, congrArg _ ht, none, List.mem_cons_self⟩
  have hrest : Within (Grows fun _ ↦ True) (do
      writeAll relay net 0
      verifyAll relay net 0) := .bind hR.forceOff fun _ ↦ hR.verifyAll _
  have hforce : Post (forceAllOffAndVerify relay net) (fun _ t ↦ OpenAllAttempted s t)
      (fun _ t ↦ OpenAllAttempted s t) s :=
    hcheck.bind fun _ t ht ↦ (hrest t).mono (fun _ _ ↦ hlater ht) fun _ _ ↦ hlater ht
  exact hforce.bind fun _ t ht ↦ hlater ht ⟨[.opened], rfl, fun _ _ ↦ trivial⟩

/-- Closing the session takes nothing back. -/
theorem post_closeSmu (name : String) {s t : Sweep V W}
    (hothers : ∀ other, other ≠ name → t.smus other = s.smus other) (hrelays : t.relays = s.relays)
    (hattempted : OutputOffAttempted (s.smus name) (t.smus name)) (dev : SmuConfig) :
    Post (do
        let _ ← ((Smu.disconnect (cfg.nidcpower name)).zoom (smuLens name)).attempt)
      (fun _ u ↦ Swept cfg (.smu name dev) s u) (fun _ _ ↦ False) t := by
  refine (post_bind _).mpr (post_attempt.mpr (post_zoom.mpr ?_))
  refine (Smu.post_disconnect (cfg.nidcpower name) (t.smus name)).mono ?_ fun _ _ h ↦ h.elim
  rintro _ closed ⟨-, hclosed⟩
  refine swept_smu cfg (fun other hother ↦ ?_) hrelays fun _ ↦ ?_
  · rw [smuLens_set_of_ne hother, hothers other hother]
  · obtain ⟨new, hnew, reason, verified, hmem⟩ := hattempted
    rw [get_smuLens_set]
    unfold Smu.closing at hclosed
    split at hclosed
    · exact ⟨.closed :: new, by rw [hclosed, hnew, List.cons_append], reason, verified,
        List.mem_cons_of_mem _ hmem⟩
    · exact ⟨new, hclosed.trans hnew, reason, verified, hmem⟩

theorem post_sweepSmu_round (name : String) (smu : SmuConfig) (s : Sweep V W) :
    Post (sweepSmu cfg name smu)
      (fun _ t ↦ ¬(SweepDevice.smu name smu).Unsafe cfg s ∧ Swept cfg (.smu name smu) s t)
      (fun _ t ↦ (SweepDevice.smu name smu).Unsafe cfg s ∧ Swept cfg (.smu name smu) s t) s := by
  refine (post_bind _).mpr (post_zoom.mpr ((post_modify _).mpr ?_))
  refine (post_bind _).mpr (post_attempt.mpr (post_zoom.mpr ?_))
  rw [Lens.get_set]
  have hconnect := Smu.post_connect smu (cfg.nidcpower name) (s.smus name).renewed
  cases hrun : Smu.connect smu (cfg.nidcpower name) (s.smus name).renewed with
  | diverged => exact post_of_diverged hrun
  | error e failed =>
    refine (post_of_error hrun).mpr ?_
    rw [Lens.set_set]
    have hrejects : ∀ t, Smu.connect smu (cfg.nidcpower name) (s.smus name).renewed ≠ .ok () t := by
      intro t ht
      cases hrun.symm.trans ht
    exact ⟨fun ⟨t, _, ht, _⟩ ↦ hrejects t ht,
      swept_smu cfg (fun other hother ↦ smuLens_set_of_ne hother _ s) rfl
        fun ⟨t, ht⟩ ↦ absurd ht (hrejects t)⟩
  | ok _ opened =>
    refine (post_of_ok hrun).mpr ?_
    obtain ⟨-, hopened⟩ := (post_of_ok hrun).mp hconnect
    rw [Lens.set_set]
    refine (post_ensuring _).mpr ((post_bind _).mpr (post_zoom.mpr ?_))
    rw [Lens.get_set]
    have hoff := Smu.post_emergencyOutputOff smu (cfg.nidcpower name) "startup safety sweep" opened
    cases hrun' : Smu.emergencyOutputOff smu (cfg.nidcpower name) "startup safety sweep" opened with
    | diverged => exact post_of_diverged hrun'
    | error e off => exact ((post_of_error hrun').mp hoff).elim
    | ok verified off =>
      refine (post_of_ok hrun').mpr ?_
      obtain ⟨htrace, -⟩ := (post_of_ok hrun').mp hoff
      rw [Lens.set_set]
      have hothers : ∀ other, other ≠ name →
          ((smuLens name).set off s).smus other = s.smus other :=
        fun other hother ↦ smuLens_set_of_ne hother off s
      have hattempted :
          OutputOffAttempted (s.smus name) (((smuLens name).set off s).smus name) := by
        rw [get_smuLens_set]
        exact ⟨[.outputOff "startup safety sweep" verified, .opened], by rw [htrace, hopened]; rfl,
          _, verified, List.mem_cons_self⟩
      -- An output that is not verified off blocks the sweep; the session is closed either way.
      cases verified with
      | false =>
        refine (post_bind _).mpr ((post_modify _).mpr ((post_raise _).mpr ?_))
        refine Post.mono (post_closeSmu cfg name ?_ ?_ ?_ smu)
          (fun _ _ h ↦ ⟨⟨opened, off, hrun, hrun'⟩, h⟩) fun _ _ h ↦ False.elim h
        · exact hothers
        · rfl
        · exact hattempted
      | true =>
        refine (post_closeSmu cfg name hothers rfl hattempted smu).mono (fun _ _ h ↦ ⟨?_, h⟩)
          fun _ _ h ↦ h.elim
        rintro ⟨t, u, ht, hu⟩
        obtain rfl := (Outcome.ok.inj (hrun.symm.trans ht)).2
        exact Bool.noConfusion (Outcome.ok.inj (hrun'.symm.trans hu)).1

/-- Closing the session takes nothing back. -/
theorem post_closeRelay (name : String) {s t : Sweep V W}
    (hothers : ∀ other, other ≠ name → t.relays other = s.relays other) (hsmus : t.smus = s.smus)
    (hattempted : OpenAllAttempted (s.relays name) (t.relays name)) (dev : RelayConfig) :
    Post (do
        let _ ← ((disconnect (cfg.net name)).zoom (relayLens name)).attempt)
      (fun _ u ↦ Swept cfg (.relay name dev) s u) (fun _ _ ↦ False) t := by
  refine (post_bind _).mpr (post_attempt.mpr (post_zoom.mpr ?_))
  have hclosed : ∀ closed : Matrix W, closed.trace = (t.relays name).trace →
      Swept cfg (.relay name dev) s ((relayLens name).set closed t) := by
    intro closed hclosed
    refine swept_relay cfg (fun other hother ↦ ?_) hsmus fun _ ↦ ?_
    · rw [relayLens_set_of_ne hother, hothers other hother]
    · obtain ⟨new, hnew, hmem⟩ := hattempted
      rw [get_relayLens_set]
      exact ⟨new, hclosed.trans hnew, hmem⟩
  exact (post_disconnect_trace (cfg.net name) (t.relays name)).mono (fun _ _ h ↦ hclosed _ h)
    fun _ _ h ↦ hclosed _ h

theorem post_sweepRelay_round (name : String) (relay : RelayConfig) (s : Sweep V W) :
    Post (sweepRelay cfg name relay)
      (fun _ t ↦ ¬(SweepDevice.relay name relay).Unsafe cfg s ∧ Swept cfg (.relay name relay) s t)
      (fun _ t ↦ (SweepDevice.relay name relay).Unsafe cfg s ∧ Swept cfg (.relay name relay) s t)
      s := by
  refine (post_bind _).mpr (post_zoom.mpr ((post_modify _).mpr ?_))
  refine (post_bind _).mpr (post_attempt.mpr (post_zoom.mpr ?_))
  rw [Lens.get_set]
  have hconnect := post_connect_verified relay (cfg.net name) (s.relays name).renewed
  cases hrun : connect relay (cfg.net name) (s.relays name).renewed with
  | diverged => exact post_of_diverged hrun
  | error e failed =>
    refine (post_of_error hrun).mpr ?_
    rw [Lens.set_set]
    have hrejects : ∀ t, connect relay (cfg.net name) (s.relays name).renewed ≠ .ok () t := by
      intro t ht
      cases hrun.symm.trans ht
    exact ⟨fun ⟨t, _, _, ht, _⟩ ↦ hrejects t ht,
      swept_relay cfg (fun other hother ↦ relayLens_set_of_ne hother _ s) rfl
        fun ⟨t, ht⟩ ↦ absurd ht (hrejects t)⟩
  | ok _ accepted =>
    refine (post_of_ok hrun).mpr ?_
    obtain ⟨-, old, hold⟩ := (post_of_ok hrun).mp hconnect
    rw [Lens.set_set]
    refine (post_ensuring _).mpr ((post_handle _).mpr (post_zoom.mpr ?_))
    rw [Lens.get_set]
    have hopen := post_openAll_attempted relay (cfg.net name) accepted
    have hothers : ∀ (m : Matrix W) (other : String), other ≠ name →
        ((relayLens name).set m s).relays other = s.relays other :=
      fun m other hother ↦ relayLens_set_of_ne hother m s
    -- what `open_all` did on the accepted connection it did since the sweep reached the device
    have hattempted : ∀ m : Matrix W, OpenAllAttempted accepted m →
        OpenAllAttempted (s.relays name) (((relayLens name).set m s).relays name) := by
      rintro m ⟨new, hnew, mask, hmask⟩
      rw [get_relayLens_set]
      exact ⟨new ++ old, by rw [hnew, hold, List.append_assoc]; rfl, mask,
        List.mem_append_left _ hmask⟩
    -- an unverified `open_all` is what makes a relay matrix unsafe
    cases hrun' : openAll relay (cfg.net name) accepted with
    | diverged => exact post_of_diverged hrun'
    | error e opened =>
      refine (post_of_error hrun').mpr ?_
      rw [Lens.set_set]
      refine (post_bind _).mpr ((post_modify _).mpr ((post_raise _).mpr ?_))
      refine Post.mono (post_closeRelay cfg name ?_ ?_ ?_ relay)
        (fun _ _ h ↦ ⟨⟨accepted, opened, e, hrun, hrun'⟩, h⟩) fun _ _ h ↦ False.elim h
      · exact hothers opened
      · rfl
      · exact hattempted opened ((post_of_error hrun').mp hopen)
    | ok _ opened =>
      refine (post_of_ok hrun').mpr ?_
      rw [Lens.set_set]
      refine (post_closeRelay cfg name (hothers opened) rfl
        (hattempted opened ((post_of_ok hrun').mp hopen)) relay).mono (fun _ _ h ↦ ⟨?_, h⟩)
        fun _ _ h ↦ h.elim
      rintro ⟨t, u, e, ht, hu⟩
      obtain rfl := (Outcome.ok.inj (hrun.symm.trans ht)).2
      cases hrun'.symm.trans hu

theorem post_sweepDevice (d : SweepDevice) (s : Sweep V W) :
    Post (sweepDevice cfg d) (fun _ t ↦ ¬d.Unsafe cfg s ∧ Swept cfg d s t)
      (fun _ t ↦ d.Unsafe cfg s ∧ Swept cfg d s t) s := by
  cases d with
  | smu name dev => exact post_sweepSmu_round cfg name dev s
  | relay name dev => exact post_sweepRelay_round cfg name dev s

/-! ## The loop -/

variable {cfg} {s t u : Sweep V W}

theorem Untouched.accepts_iff {d : SweepDevice} (h : d.Untouched s t) :
    d.Accepts cfg t ↔ d.Accepts cfg s := by
  cases d with
  | smu name dev =>
    have hsmu : t.smus name = s.smus name := h
    simp only [SweepDevice.Accepts, hsmu]
  | relay name dev =>
    have hrelay : t.relays name = s.relays name := h
    simp only [SweepDevice.Accepts, hrelay]

theorem Untouched.unsafe_iff {d : SweepDevice} (h : d.Untouched s t) :
    d.Unsafe cfg t ↔ d.Unsafe cfg s := by
  cases d with
  | smu name dev =>
    have hsmu : t.smus name = s.smus name := h
    simp only [SweepDevice.Unsafe, hsmu]
  | relay name dev =>
    have hrelay : t.relays name = s.relays name := h
    simp only [SweepDevice.Unsafe, hrelay]

theorem Untouched.attempted_after {d : SweepDevice} (h : d.Untouched s t) :
    d.Attempted t u ↔ d.Attempted s u := by
  cases d with
  | smu name dev =>
    have hsmu : t.smus name = s.smus name := h
    simp only [SweepDevice.Attempted, hsmu]
  | relay name dev =>
    have hrelay : t.relays name = s.relays name := h
    simp only [SweepDevice.Attempted, hrelay]

theorem Untouched.attempted_before {d : SweepDevice} (h : d.Untouched t u) :
    d.Attempted s u ↔ d.Attempted s t := by
  cases d with
  | smu name dev =>
    have hsmu : u.smus name = t.smus name := h
    simp only [SweepDevice.Attempted, hsmu]
  | relay name dev =>
    have hrelay : u.relays name = t.relays name := h
    simp only [SweepDevice.Attempted, hrelay]

/-- A device that is left alone is not forced off. -/
theorem Untouched.not_attempted {d : SweepDevice} (h : d.Untouched s t) : ¬d.Attempted s t := by
  cases d with
  | smu name _ =>
    rintro ⟨new, hnew, _, _, hmem⟩
    rw [show t.smus name = s.smus name from h] at hnew
    rw [List.self_eq_append_left.mp hnew] at hmem
    exact List.not_mem_nil hmem
  | relay name _ =>
    rintro ⟨new, hnew, _, hmem⟩
    rw [show t.relays name = s.relays name from h] at hnew
    rw [List.self_eq_append_left.mp hnew] at hmem
    exact List.not_mem_nil hmem

/-- No device that accepts a connection comes after an unsafe one. -/
def NoneBehindUnsafe (cfg : SweepConfig V W) (s : Sweep V W) (devices : List SweepDevice) : Prop :=
  devices.Pairwise fun d d' ↦ d.Unsafe cfg s → ¬d'.Accepts cfg s

theorem noneBehindUnsafe_congr {devices : List SweepDevice}
    (h : ∀ d ∈ devices, d.Untouched s t) :
    NoneBehindUnsafe cfg t devices ↔ NoneBehindUnsafe cfg s devices :=
  List.Pairwise.iff_of_mem fun {d d'} hd hd' ↦ by
    rw [Untouched.unsafe_iff (h d hd), Untouched.accepts_iff (h d' hd')]

/-- What the loop leaves behind: devices not on the list are left alone, and those on it are covered
exactly if none that accepts a connection comes after an unsafe one. -/
structure Covered (cfg : SweepConfig V W) (devices : List SweepDevice) (s t : Sweep V W) :
    Prop where
  others : ∀ d : SweepDevice, d.slot ∉ devices.map SweepDevice.slot → d.Untouched s t
  covers : (∀ d ∈ devices, d.Accepts cfg s → d.Attempted s t) ↔ NoneBehindUnsafe cfg s devices

/-- By induction on the devices left. A round that returns leaves them all to the rest of the loop,
one that blocks leaves none of them to anyone. -/
theorem post_sweepDevices {devices : List SweepDevice}
    (hnodup : (devices.map SweepDevice.slot).Nodup) (s : Sweep V W) :
    Post (sweepDevices cfg devices) (fun _ t ↦ Covered cfg devices s t)
      (fun _ t ↦ Covered cfg devices s t) s := by
  induction devices generalizing s with
  | nil =>
    refine ⟨fun d _ ↦ ?_, iff_of_true (List.forall_mem_nil _) .nil⟩
    cases d <;> rfl
  | cons d rest ih =>
    obtain ⟨hd, hrest⟩ := List.nodup_cons.mp hnodup
    have hne : ∀ d' ∈ rest, d'.slot ≠ d.slot := fun d' hd' h ↦
      hd (h ▸ List.mem_map_of_mem hd')
    have hslots : ∀ d' : SweepDevice, d'.slot ∉ (d :: rest).map SweepDevice.slot →
        d'.slot ≠ d.slot ∧ d'.slot ∉ rest.map SweepDevice.slot := fun d' h ↦
      not_or.mp (mt List.mem_cons.mpr h)
    refine (post_bind _).mpr ((post_sweepDevice cfg d s).mono (fun _ t ht ↦ ?_) fun _ t ht ↦ ?_)
    -- The loop goes on: what is left of it sees the devices it has yet to visit as they were.
    · obtain ⟨hsafe, hothers, hattempted⟩ := ht
      have hloop : ∀ u, Covered cfg rest t u → Covered cfg (d :: rest) s u := by
        intro u hu
        have hsame : d.Untouched t u := hu.others d hd
        refine ⟨fun d' h ↦ ?_, ?_⟩
        · obtain ⟨hd', hrest'⟩ := hslots d' h
          have h₁ := hothers d' hd'
          have h₂ := hu.others d' hrest'
          cases d' with
          | smu => exact Eq.trans h₂ h₁
          | relay => exact Eq.trans h₂ h₁
        · have hleft : ∀ d' ∈ rest, d'.Untouched s t := fun d' h ↦ hothers d' (hne d' h)
          have htail : NoneBehindUnsafe cfg t rest ↔ NoneBehindUnsafe cfg s rest :=
            noneBehindUnsafe_congr hleft
          have hrest' : (∀ d' ∈ rest, d'.Accepts cfg s → d'.Attempted s u) ↔
              ∀ d' ∈ rest, d'.Accepts cfg t → d'.Attempted t u :=
            forall₂_congr fun d' h ↦ by
              rw [Untouched.accepts_iff (hleft d' h), Untouched.attempted_after (hleft d' h)]
          rw [NoneBehindUnsafe, List.pairwise_cons, List.forall_mem_cons, hrest', hu.covers, htail]
          exact and_congr_left' (iff_of_true
            (fun hacc ↦ (Untouched.attempted_before hsame).mpr (hattempted hacc))
            fun _ _ hfail ↦ absurd hfail hsafe)
      exact (ih hrest t).mono (fun _ u ↦ hloop u) fun _ u ↦ hloop u
    -- The round blocks: none of the devices behind it is visited.
    · obtain ⟨hfail, hothers, hattempted⟩ := ht
      refine ⟨fun d' h ↦ hothers d' (hslots d' h).1, ?_⟩
      rw [NoneBehindUnsafe, List.pairwise_cons, List.forall_mem_cons]
      refine ⟨fun h ↦ ?_, fun h ↦ ⟨hattempted, fun d' hd' hacc ↦ ?_⟩⟩
      · have hnone : ∀ d' ∈ rest, ¬d'.Accepts cfg s := fun d' hd' hacc ↦
          Untouched.not_attempted (hothers d' (hne d' hd')) (h.2 d' hd' hacc)
        exact ⟨fun d' hd' _ ↦ hnone d' hd',
          List.pairwise_of_forall_mem_list fun _ _ d' hd' _ ↦ hnone d' hd'⟩
      · exact absurd hacc (h.1 d' hd' hfail)

end Sweep

theorem SweepConfig.nodup_slots (cfg : SweepConfig V W) :
    (cfg.devices.map SweepDevice.slot).Nodup := by
  have hsmus : (cfg.smuAssignments.items.map Prod.fst).Nodup := cfg.smuAssignments.nodup_keys
  have hrelays : (cfg.relayMatrixConfigs.items.map Prod.fst).Nodup :=
    cfg.relayMatrixConfigs.nodup_keys
  rw [devices, List.map_append, List.map_map, List.map_map, List.nodup_append]
  refine ⟨?_, ?_, ?_⟩
  · have h := hsmus.map (f := (Sum.inl : String → String ⊕ String)) Sum.inl_injective
    rwa [List.map_map] at h
  · have h := hrelays.map (f := (Sum.inr : String → String ⊕ String)) Sum.inr_injective
    rwa [List.map_map] at h
  · intro a ha b hb
    obtain ⟨_, -, rfl⟩ := List.mem_map.mp ha
    obtain ⟨_, -, rfl⟩ := List.mem_map.mp hb
    exact Sum.inl_ne_inr

/-- **What a startup sweep reaches.** When the sweep returns or raises, every device that accepts a
connection was forced off, or the attempt was made, exactly if none of them comes after an unsafe
one in the order of the sweep. -/
theorem coversReachable_iff (cfg : SweepConfig V W) (s : Sweep V W) :
    Post (Sweep.runStartupSafetySweep cfg)
      (fun _ t ↦ CoversReachable cfg s t ↔ Sweep.NoneBehindUnsafe cfg s cfg.devices)
      (fun _ t ↦ CoversReachable cfg s t ↔ Sweep.NoneBehindUnsafe cfg s cfg.devices) s := by
  rw [Sweep.post_runStartupSafetySweep_iff]
  exact (Sweep.post_sweepDevices cfg.nodup_slots s).mono (fun _ _ h ↦ h.covers)
    fun _ _ h ↦ h.covers

/-- An SMU whose output stays on, and a relay matrix as in `Bank`. -/
def liveOutputSweep : SweepConfig Unit BankWorld where
  smuAssignments := Dict.empty.insert "SMU_1" ⟨"PXI1Slot2", "0"⟩
  relayMatrixConfigs := Dict.empty.insert "NUMATO_1" numatoConfig
  nidcpower _ := scriptedNi true
  net _ := bankNet

/-- The relay matrix accepts connections, but the SMU blocks the sweep and the relays stay as they
are. -/
theorem not_coversReachable_liveOutput :
    ¬∀ (cfg : SweepConfig Unit BankWorld) (s : Sweep Unit BankWorld),
      Post (Sweep.runStartupSafetySweep cfg) (fun _ t ↦ CoversReachable cfg s t)
        (fun _ t ↦ CoversReachable cfg s t) s := by
  intro h
  have hconnect : ((connect numatoConfig bankNet promptModule.renewed).final.map
      fun t ↦ t.connected) = some true := by
    decide +kernel
  obtain ⟨_, accepted, haccepted, -⟩ := Outcome.exists_of_final hconnect
  have hrun : (Sweep.runStartupSafetySweep liveOutputSweep
      (newBench promptModule).sweep).thrown.map
      (fun t ↦ (t.relays "NUMATO_1").trace.length) = some 0 := by
    decide +kernel
  obtain ⟨e, t, ht, htrace⟩ := Outcome.exists_of_thrown hrun
  have hcovers : CoversReachable liveOutputSweep (newBench promptModule).sweep t :=
    (post_of_error ht).mp (h liveOutputSweep (newBench promptModule).sweep)
  obtain ⟨new, hnew, mask, hmask⟩ := hcovers (.relay "NUMATO_1" numatoConfig)
    (List.mem_append_right _ List.mem_cons_self) ⟨accepted, haccepted⟩
  rw [List.length_eq_zero_iff.mp htrace] at hnew
  rw [(List.append_eq_nil_iff.mp hnew.symm).1] at hmask
  exact List.not_mem_nil hmask

end Nipxi
