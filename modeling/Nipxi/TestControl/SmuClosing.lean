import Nipxi.TestControl.Bench

/-!
# Closing SMU sessions

An NI-DCPower session should be closed only while its output is verified off. `disconnect_all`
was written with this rule in mind; the two rollbacks after a failed PMU startup check and the
`finally` of the sweep close the session whose check has just failed. Nothing else does:
`safelyClosed_iff_startupVerified`.

The argument is an invariant of the trace of one SMU (`Accounted`) that holds between the calls,
though not within them: a failed startup check breaks it, and the close that follows makes both of
its sides false.
-/

open Effect Transition

namespace Nipxi

/-! ## What a trace says -/

/-- The last thing that happened is an output-off that was verified. -/
def VerifiedOff : List SmuEvent → Prop
  | .outputOff _ verified :: _ => verified = true
  | _ => False

/-- Whenever a connected SMU was disconnected, its output was verified off. -/
def SafelyClosed : List SmuEvent → Prop
  | [] => True
  | ev :: older => (ev = .closed → VerifiedOff older) ∧ SafelyClosed older

/-- The reasons `connect_all` and the sweep give. -/
def IsStartupReason (reason : String) : Prop :=
  reason = "startup safety check" ∨ reason = "startup safety sweep"

/-- Every startup check verified the output off. -/
def StartupVerified (evs : List SmuEvent) : Prop :=
  ∀ reason, .outputOff reason false ∈ evs → ¬IsStartupReason reason

/-- The sessions were closed safely exactly if the startup checks succeeded. -/
def Accounted (evs : List SmuEvent) : Prop := SafelyClosed evs ↔ StartupVerified evs

theorem accounted_nil : Accounted [] :=
  iff_of_true trivial fun _ hmem ↦ absurd hmem List.not_mem_nil

section

variable {evs : List SmuEvent} {reason : String}

/-- An entry that neither closes nor fails a startup check. -/
theorem Accounted.cons (h : Accounted evs) {ev : SmuEvent} (hclosed : ev ≠ .closed)
    (hfailed : ∀ reason, ev = .outputOff reason false → ¬IsStartupReason reason) :
    Accounted (ev :: evs) := by
  constructor
  · rintro ⟨-, hsafe⟩ reason hmem
    rcases List.mem_cons.mp hmem with hev | hmem
    · exact hfailed reason hev.symm
    · exact h.mp hsafe reason hmem
  · intro hstartup
    exact ⟨fun hev ↦ absurd hev hclosed,
      h.mpr fun reason hmem ↦ hstartup reason (List.mem_cons_of_mem ev hmem)⟩

theorem Accounted.opened (h : Accounted evs) : Accounted (.opened :: evs) := h.cons nofun nofun

theorem Accounted.verified (h : Accounted evs) : Accounted (.outputOff reason true :: evs) :=
  h.cons nofun nofun

theorem Accounted.closed (h : Accounted evs) (hverified : VerifiedOff evs) :
    Accounted (.closed :: evs) := by
  constructor
  · rintro ⟨-, hsafe⟩ reason hmem
    exact h.mp hsafe reason ((List.mem_cons.mp hmem).resolve_left nofun)
  · intro hstartup
    exact ⟨fun _ ↦ hverified,
      h.mpr fun reason hmem ↦ hstartup reason (List.mem_cons_of_mem _ hmem)⟩

/-- A session closed after a failed startup check: both sides are false. -/
theorem accounted_abandoned (hreason : IsStartupReason reason) :
    Accounted (.closed :: .outputOff reason false :: evs) := by
  refine iff_of_false (fun hsafe ↦ ?_) fun hstartup ↦ ?_
  · exact absurd (hsafe.1 rfl) Bool.false_ne_true
  · exact hstartup reason (List.mem_cons_of_mem _ List.mem_cons_self) hreason

end

theorem Accounted.closing {V : Type} {smu : Smu V} (h : Accounted smu.trace)
    (hverified : smu.connected = true → VerifiedOff smu.trace) : Accounted smu.closing := by
  unfold Smu.closing
  split
  · rename_i hconnected
    exact h.closed (hverified hconnected)
  · exact h

variable {V W D : Type}

namespace Manager

section

variable (rack : Rack V W D)

/-! ## Rolling back -/

theorem post_bestEffort_closing {x : Device → ManagerProg V W D Unit}
    (hsmu : ∀ s : Manager V W D, Post (x .smu)
      (fun _ t ↦ t.smu.connected = false ∧ t.smu.trace = s.smu.closing) (fun _ _ ↦ False) s)
    (hother : ∀ dev, dev ≠ .smu → Within SameSmu (x dev)) (devices : List Device)
    (s : Manager V W D) :
    Post (bestEffort x devices)
      (fun _ t ↦ t.smu.trace = if .smu ∈ devices then s.smu.closing else s.smu.trace)
      (fun _ _ ↦ False) s := by
  induction devices generalizing s with
  | nil => rfl
  | cons dev rest ih =>
    refine (post_bind _).mpr (post_attempt.mpr ?_)
    by_cases hdev : dev = .smu
    · subst hdev
      refine (hsmu s).mono (fun _ t ht ↦ (ih t).mono (fun _ u hu ↦ ?_) fun _ _ h ↦ h)
        fun _ _ h ↦ h.elim
      -- The object is no longer connected, so disconnecting it again does nothing.
      have hagain : t.smu.closing = t.smu.trace := if_neg (by rw [ht.1]; exact Bool.false_ne_true)
      rw [if_pos List.mem_cons_self, hu, hagain, ite_self, ht.2]
    · have hrest : ∀ t : Manager V W D, t.smu = s.smu → Post (bestEffort x rest)
          (fun _ u ↦ u.smu.trace = if .smu ∈ dev :: rest then s.smu.closing else s.smu.trace)
          (fun _ _ ↦ False) t := by
        intro t ht
        refine (ih t).mono (fun _ u hu ↦ ?_) fun _ _ h ↦ h
        have hmem : .smu ∈ dev :: rest ↔ .smu ∈ rest :=
          ⟨fun h ↦ (List.mem_cons.mp h).resolve_left (Ne.symm hdev), List.mem_cons_of_mem dev⟩
        simpa only [hmem, ht] using hu
      exact (hother dev hdev s).mono (fun _ t ht ↦ hrest t ht) fun _ t ht ↦ hrest t ht

theorem post_disconnectDevice_smu (s : Manager V W D) :
    Post (disconnectDevice rack .smu)
      (fun _ t ↦ t.smu.connected = false ∧ t.smu.trace = s.smu.closing) (fun _ _ ↦ False) s :=
  post_zoom.mpr (Smu.post_disconnect rack.nidcpower s.smu)

theorem post_disconnectEach (devices : List Device) (s : Manager V W D) :
    Post (disconnectEach rack devices)
      (fun _ t ↦ t.smu.trace = if .smu ∈ devices then s.smu.closing else s.smu.trace)
      (fun _ _ ↦ False) s :=
  post_bestEffort_closing (post_disconnectDevice_smu rack)
    (fun _ hdev ↦ sameSmu_disconnectDevice rack hdev) devices s

theorem post_disconnectConnected (devices : List Device) (s : Manager V W D) :
    Post (disconnectConnected rack devices)
      (fun _ t ↦ t.smu.trace = if .smu ∈ devices then s.smu.closing else s.smu.trace)
      (fun _ _ ↦ False) s := by
  refine post_bestEffort_closing (fun t ↦ ?_) (fun dev hdev ↦ ?_) devices s
  · refine (post_bind _).mpr (post_get.mpr (post_ite.mpr ?_))
    split
    · exact post_disconnectDevice_smu rack t
    · rename_i hconnected
      have hoff : t.smu.connected = false := Bool.eq_false_of_not_eq_true hconnected
      exact ⟨hoff, (if_neg hconnected).symm⟩
  · exact .bind .get fun _ ↦ .ite (sameSmu_disconnectDevice rack hdev) (.pure _)

/-! ## Connecting strictly -/

theorem post_smuOutputOff (reason : String) (s : Manager V W D) :
    Post (smuOutputOff rack reason)
      (fun verified t ↦ t.smu.trace = .outputOff reason verified :: s.smu.trace ∧
        t.smu.connected = s.smu.connected) (fun _ _ ↦ False) s :=
  post_zoom.mpr (Smu.post_emergencyOutputOff rack.smu rack.nidcpower reason s.smu)

/-- A stage that leaves the SMU alone, when its failure is rolled back. -/
theorem post_guarded_sameSmu {connected : List Device} {x : ManagerProg V W D Unit}
    (hx : Within SameSmu x) {s : Manager V W D} (h : Accounted s.smu.trace)
    (hverified : .smu ∈ connected → VerifiedOff s.smu.trace) :
    Post (guarded rack connected x) (fun _ t ↦ t.smu = s.smu) (fun _ t ↦ Accounted t.smu.trace)
      s := by
  refine (post_handle _).mpr ((hx s).mono (fun _ _ ht ↦ ht) fun e t ht ↦ ?_)
  refine (post_bind _).mpr ((post_disconnectEach rack connected.reverse t).mono (fun _ u hu ↦ ?_)
    fun _ _ h ↦ h.elim)
  rw [post_raise, hu, show t.smu = s.smu from ht]
  split
  · rename_i hmem
    exact h.closing fun _ ↦ hverified (List.mem_reverse.mp hmem)
  · exact h

/-- The same in front of the rest. -/
theorem post_guarded_bind {connected : List Device} {x y : ManagerProg V W D Unit}
    (hx : Within SameSmu x) {s : Manager V W D} (h : Accounted s.smu.trace)
    (hverified : .smu ∈ connected → VerifiedOff s.smu.trace)
    (hy : ∀ t : Manager V W D, t.smu = s.smu →
      Post y (fun _ u ↦ Accounted u.smu.trace) (fun _ u ↦ Accounted u.smu.trace) t) :
    Post (do guarded rack connected x; y) (fun _ t ↦ Accounted t.smu.trace)
      (fun _ t ↦ Accounted t.smu.trace) s :=
  (post_bind _).mpr ((post_guarded_sameSmu rack hx h hverified).mono (fun _ t ht ↦ hy t ht)
    fun _ _ h ↦ h)

/-- The SMU's own stage: if it fails there is no session to close. -/
theorem post_guarded_connectSmu {connected : List Device} (hconnected : .smu ∉ connected)
    {s : Manager V W D} (h : Accounted s.smu.trace) :
    Post (guarded rack connected (connectDevice rack .smu))
      (fun _ t ↦ t.smu.connected = true ∧ Accounted t.smu.trace)
      (fun _ t ↦ Accounted t.smu.trace) s := by
  refine (post_handle _).mpr (post_zoom.mpr ?_)
  refine (Smu.post_connect rack.smu rack.nidcpower s.smu).mono (fun _ smu hopened ↦ ?_) ?_
  · refine ⟨hopened.1, ?_⟩
    change Accounted smu.trace
    rw [hopened.2]
    exact h.opened
  · rintro e smu ⟨hquiet, -⟩
    refine (post_bind _).mpr ((post_disconnectEach rack _ _).mono (fun _ t ht ↦ ?_)
      fun _ _ h ↦ h.elim)
    rw [post_raise, ht, if_neg fun hmem ↦ hconnected (List.mem_reverse.mp hmem)]
    change Accounted smu.trace
    rw [hquiet]
    exact h

/-- The startup check: if it fails, the session is closed all the same. -/
theorem post_guarded_strictSmuCheck {connected : List Device} (hconnected : .smu ∈ connected)
    {s : Manager V W D} (hs : s.smu.connected = true) (h : Accounted s.smu.trace) :
    Post (guarded rack connected (strictSmuCheck rack))
      (fun _ t ↦ Accounted t.smu.trace ∧ VerifiedOff t.smu.trace)
      (fun _ t ↦ Accounted t.smu.trace) s := by
  refine (post_handle _).mpr ((post_bind _).mpr ((post_smuOutputOff rack _ s).mono ?_
    fun _ _ h ↦ h.elim))
  rintro verified t ⟨htrace, hsame⟩
  cases verified with
  | true =>
    change Accounted t.smu.trace ∧ VerifiedOff t.smu.trace
    rw [htrace]
    exact ⟨h.verified, rfl⟩
  | false =>
    refine (post_bind _).mpr ((post_disconnectEach rack _ t).mono (fun _ u hu ↦ ?_)
      fun _ _ h ↦ h.elim)
    rw [post_raise, hu, if_pos (List.mem_reverse.mpr hconnected), Smu.closing,
      if_pos (hsame.trans hs), htrace]
    exact accounted_abandoned (Or.inl rfl)

theorem post_connectAllStrict {s : Manager V W D} (h : Accounted s.smu.trace) :
    Post (connectAllStrict rack) (fun _ t ↦ Accounted t.smu.trace)
      (fun _ t ↦ Accounted t.smu.trace) s := by
  have hnone : ∀ {devices : List Device}, .smu ∉ devices →
      .smu ∉ List.filter (hasDevice rack) devices :=
    fun hnot hmem ↦ hnot (List.mem_filter.mp hmem).1
  have hsmu : ∀ {devices : List Device}, .smu ∈ devices →
      .smu ∈ List.filter (hasDevice rack) devices := fun hmem ↦ List.mem_filter.mpr ⟨hmem, rfl⟩
  refine post_guarded_bind rack (sameSmu_connectDevice rack (by decide)) h
    (fun hmem ↦ absurd hmem (by decide)) fun t ht ↦ ?_
  rw [← ht] at h
  refine post_guarded_bind rack (sameSmu_connectDevice rack (by decide)) h
    (fun hmem ↦ absurd hmem (by decide)) fun u hu ↦ ?_
  rw [← hu] at h
  refine (post_bind _).mpr ((post_guarded_connectSmu rack (hnone (by decide)) h).mono ?_
    fun _ _ h ↦ h)
  rintro _ v ⟨hconnected, hv⟩
  refine (post_bind _).mpr ((post_guarded_strictSmuCheck rack (hsmu (by decide)) hconnected
    hv).mono ?_ fun _ _ h ↦ h)
  -- From here on the SMU is verified and left alone.
  rintro _ w ⟨hw, hoff⟩
  refine post_guarded_bind rack (sameSmu_connectDevice rack (by decide)) hw (fun _ ↦ hoff)
    fun y hy ↦ ?_
  rw [← hy] at hw hoff
  refine post_guarded_bind rack (sameSmu_connectDevice rack (by decide)) hw (fun _ ↦ hoff)
    fun z hz ↦ ?_
  rw [← hz] at hw hoff
  refine (post_guarded_sameSmu rack (sameSmu_relayOpenAll rack) hw fun _ ↦ hoff).mono
    (fun _ t ht ↦ ?_) fun _ _ h ↦ h
  rw [ht]
  exact hw

/-! ## Connecting leniently -/

/-- The trace is accounted for, and if the SMU is connected its output is verified off. -/
def SmuAtRest (s : Manager V W D) : Prop :=
  Accounted s.smu.trace ∧ (s.smu.connected = true → VerifiedOff s.smu.trace)

theorem sameSmu_setStatus (label : String) (status : DeviceStatus) :
    Within SameSmu (setStatus label status : ManagerProg V W D Unit) := fun _ ↦ rfl

theorem sameSmu_tryConnect {dev : Device} (hdev : dev ≠ .smu) (label : String) :
    Within SameSmu (tryConnect rack dev label) := by
  refine .ite (.bind (.attempt (sameSmu_connectDevice rack hdev)) fun r ↦ ?_) (.pure _)
  cases r with
  | ok _ => exact sameSmu_setStatus _ _
  | error e => exact sameSmu_setStatus _ _

theorem post_tryConnect_smu {s : Manager V W D} (h : Accounted s.smu.trace) (label : String) :
    Post (tryConnect rack .smu label) (fun _ t ↦ Accounted t.smu.trace) (fun _ _ ↦ False) s := by
  rw [tryConnect, if_pos (show hasDevice rack .smu = true from rfl)]
  refine (post_bind _).mpr (post_attempt.mpr (post_zoom.mpr ?_))
  refine (Smu.post_connect rack.smu rack.nidcpower s.smu).mono (fun _ smu hopened ↦ ?_) ?_
  · change Accounted smu.trace
    rw [hopened.2]
    exact h.opened
  · rintro e smu ⟨hquiet, -⟩
    change Accounted smu.trace
    rw [hquiet]
    exact h

/-- The devices of a failed startup are disconnected, whatever becomes of the SMU's session. -/
theorem post_rollback {s : Manager V W D} {devices : List Device} {label : String}
    {status : DeviceStatus} {e : Exc}
    (h : Accounted (if .smu ∈ devices then s.smu.closing else s.smu.trace)) :
    Post (do
      disconnectConnected rack devices
      setStatus label status
      (.raise e : ManagerProg V W D Unit)) (fun _ t ↦ SmuAtRest t)
      (fun _ t ↦ Accounted t.smu.trace) s := by
  refine (post_bind _).mpr ((post_disconnectConnected rack devices s).mono (fun _ t ht ↦ ?_)
    fun _ _ h ↦ h.elim)
  change Accounted t.smu.trace
  rw [ht]
  exact h

theorem smu_mem_lenientDevices : Device.smu ∈ lenientDevices rack := by
  unfold lenientDevices
  split <;> exact List.mem_filter.mpr ⟨by decide, rfl⟩

theorem post_lenientSmuCheck {s : Manager V W D} (h : Accounted s.smu.trace) :
    Post (lenientSmuCheck rack) (fun _ t ↦ SmuAtRest t) (fun _ t ↦ Accounted t.smu.trace) s := by
  refine (post_bind _).mpr (post_get.mpr (post_ite.mpr ?_))
  split
  · rename_i hconnected
    refine (post_bind _).mpr ((post_smuOutputOff rack _ s).mono ?_ fun _ _ h ↦ h.elim)
    rintro verified t ⟨htrace, hsame⟩
    cases verified with
    | true =>
      change Accounted t.smu.trace ∧ (t.smu.connected = true → VerifiedOff t.smu.trace)
      rw [htrace]
      exact ⟨h.verified, fun _ ↦ rfl⟩
    | false =>
      refine post_rollback rack ?_
      rw [if_pos (smu_mem_lenientDevices rack), Smu.closing, if_pos (hsame.trans hconnected),
        htrace]
      exact accounted_abandoned (Or.inl rfl)
  · rename_i hconnected
    exact ⟨h, fun hs ↦ absurd hs hconnected⟩

theorem post_lenientRelayCheck {s : Manager V W D} (h : SmuAtRest s) :
    Post (lenientRelayCheck rack) (fun _ t ↦ SmuAtRest t) (fun _ t ↦ Accounted t.smu.trace) s := by
  have hsame : ∀ {t : Manager V W D}, t.smu = s.smu → SmuAtRest t := by
    intro t ht
    unfold SmuAtRest
    rw [ht]
    exact h
  refine (post_bind _).mpr (post_get.mpr (post_ite.mpr ?_))
  split
  · refine (post_handle _).mpr ((sameSmu_relayOpenAll rack s).mono (fun _ t ht ↦ hsame ht) ?_)
    intro e t ht
    refine post_rollback rack ?_
    rw [if_pos (smu_mem_lenientDevices rack)]
    exact (hsame ht).1.closing (hsame ht).2
  · exact h

theorem post_connectAllLenient {s : Manager V W D} (h : Accounted s.smu.trace) :
    Post (connectAllLenient rack) (fun _ t ↦ Accounted t.smu.trace)
      (fun _ t ↦ Accounted t.smu.trace) s := by
  have hskip : ∀ {x y : ManagerProg V W D Unit} {t : Manager V W D}, Within SameSmu x →
      Accounted t.smu.trace →
      (∀ u : Manager V W D, Accounted u.smu.trace →
        Post y (fun _ v ↦ Accounted v.smu.trace) (fun _ v ↦ Accounted v.smu.trace) u) →
      Post (do x; y) (fun _ v ↦ Accounted v.smu.trace) (fun _ v ↦ Accounted v.smu.trace) t := by
    intro x y t hx ht hy
    have hsame : ∀ u : Manager V W D, SameSmu t u → Accounted u.smu.trace := by
      intro u hu
      rw [show u.smu = t.smu from hu]
      exact ht
    exact (post_bind _).mpr ((hx t).mono (fun _ u hu ↦ hy u (hsame u hu)) fun _ u hu ↦ hsame u hu)
  refine hskip (fun _ ↦ rfl) h fun s h ↦ ?_
  refine hskip (sameSmu_tryConnect rack (by decide) _) h fun s h ↦ ?_
  refine hskip (sameSmu_tryConnect rack (by decide) _) h fun s h ↦ ?_
  refine (post_bind _).mpr ((post_tryConnect_smu rack h _).mono (fun _ s h ↦ ?_) fun _ _ h ↦ h.elim)
  refine hskip (sameSmu_tryConnect rack (by decide) _) h fun s h ↦ ?_
  refine hskip (sameSmu_tryConnect rack (by decide) _) h fun s h ↦ ?_
  refine (post_lenientSmuCheck rack h).bind fun _ t ht ↦ ?_
  exact (post_lenientRelayCheck rack ht).mono (fun _ _ h ↦ h.1) fun _ _ h ↦ h

/-! ## Disconnecting -/

theorem post_shutdownSmu {s : Manager V W D} (h : Accounted s.smu.trace) :
    Post (shutdownSmu rack)
      (fun safe t ↦ Accounted t.smu.trace ∧ (safe = true → SmuAtRest t)) (fun _ _ ↦ False) s := by
  have hfailed : ∀ reason, SmuEvent.outputOff "normal shutdown" false = .outputOff reason false →
      ¬IsStartupReason reason := by
    rintro reason hreason (rfl | rfl) <;> exact absurd hreason (by decide)
  refine (post_bind _).mpr (post_get.mpr (post_ite.mpr ?_))
  split
  · refine (post_bind _).mpr ((post_smuOutputOff rack _ s).mono ?_ fun _ _ h ↦ h)
    rintro verified t ⟨htrace, -⟩
    cases verified with
    | true =>
      have hrest : SmuAtRest t := by
        unfold SmuAtRest
        rw [htrace]
        exact ⟨h.verified, fun _ ↦ rfl⟩
      exact ⟨hrest.1, fun _ ↦ hrest⟩
    | false =>
      refine ⟨?_, nofun⟩
      change Accounted t.smu.trace
      rw [htrace]
      exact h.cons nofun hfailed
  · rename_i hconnected
    exact ⟨h, fun _ ↦ ⟨h, fun hs ↦ absurd hs hconnected⟩⟩

/-- What the rest of `disconnect_all` needs of the SMU is kept by whatever leaves its trace and
its connection alone. -/
def SmuStill (s t : Manager V W D) : Prop :=
  t.smu.trace = s.smu.trace ∧ t.smu.connected = s.smu.connected

instance : IsPreorder (Manager V W D) SmuStill where
  refl _ := ⟨rfl, rfl⟩
  trans _ _ _ h h' := ⟨h'.1.trans h.1, h'.2.trans h.2⟩

theorem SmuAtRest.of_still {s t : Manager V W D} (h : SmuAtRest s) (hst : SmuStill s t) :
    SmuAtRest t := by
  unfold SmuAtRest
  rw [hst.1, hst.2]
  exact h

theorem smuStill_shutdownRelay : Within SmuStill (shutdownRelay rack) := by
  have hopen : Within SmuStill (relayOpenAll rack) :=
    (sameSmu_relayOpenAll rack).mono fun s t (h : t.smu = s.smu) ↦ ⟨by rw [h], by rw [h]⟩
  exact .bind .get fun _ ↦ .ite (.handle hopen fun _ _ ↦ ⟨rfl, rfl⟩) (.pure _)

theorem smuStill_zeroSmuSetpoint : Within SmuStill (zeroSmuSetpoint rack) := by
  have hzero : Within SmuStill
      ((Smu.applyZeroSetpoint rack.nidcpower).zoom (smuLens : Lens (Manager V W D) (Smu V))) :=
    (within_zoom (Smu.quiet_applyZeroSetpoint rack.nidcpower)).mono fun _ _ h ↦ ⟨h.1, h.2.1⟩
  exact .bind .get fun _ ↦ .ite (.bind (.attempt hzero) fun _ ↦ .pure _) (.pure _)

theorem post_disconnectAll {s : Manager V W D} (h : Accounted s.smu.trace) :
    Post (disconnectAll rack) (fun _ t ↦ Accounted t.smu.trace) (fun _ t ↦ Accounted t.smu.trace)
      s := by
  refine (post_bind _).mpr ((post_shutdownSmu rack h).mono ?_ fun _ _ h ↦ h.elim)
  rintro safe t ⟨ht, hsafe⟩
  have hstill : ∀ {u : Manager V W D}, SmuStill t u → Accounted u.smu.trace := by
    intro u hu
    rw [hu.1]
    exact ht
  refine (post_bind _).mpr ((smuStill_shutdownRelay rack t).mono (fun _ u hu ↦ ?_)
    fun _ _ hu ↦ hstill hu)
  refine (post_bind _).mpr (((smuStill_zeroSmuSetpoint rack).after hu).mono (fun _ v hv ↦ ?_)
    fun _ _ hv ↦ hstill hv)
  refine (post_disconnectConnected rack _ v).mono (fun _ w hw ↦ ?_) fun _ _ h ↦ h.elim
  rw [hw]
  cases safe with
  | true =>
    have hrest := (hsafe rfl).of_still hv
    rw [if_pos (List.mem_filter.mpr ⟨by decide, rfl⟩)]
    exact hrest.1.closing hrest.2
  | false =>
    rw [if_neg fun hmem ↦ absurd (List.mem_filter.mp hmem).1 (by decide)]
    exact hstill hv

theorem post_atexitSmuShutdown {s : Manager V W D} (h : Accounted s.smu.trace) :
    Post (atexitSmuShutdown rack) (fun _ t ↦ Accounted t.smu.trace)
      (fun _ t ↦ Accounted t.smu.trace) s := by
  refine (post_bind _).mpr (post_get.mpr (post_ite.mpr ?_))
  split
  · refine (post_bind _).mpr (post_attempt.mpr ((post_smuOutputOff rack _ s).mono ?_
      fun _ _ h ↦ h.elim))
    rintro verified t ⟨htrace, -⟩
    change Accounted t.smu.trace
    rw [htrace]
    refine h.cons nofun ?_
    rintro reason hreason (rfl | rfl)
    · exact absurd (SmuEvent.outputOff.inj hreason).1 (by decide)
    · exact absurd (SmuEvent.outputOff.inj hreason).1 (by decide)
  · exact h

theorem kept_onManager {call : BenchCall} {x : ManagerProg V W D Unit}
    (hx : call.onManager rack = some x) :
    Within (Kept fun s : Manager V W D ↦ Accounted s.smu.trace) x := by
  have hsame : ∀ {y : ManagerProg V W D Unit}, Within SameSmu y →
      Within (Kept fun s : Manager V W D ↦ Accounted s.smu.trace) y :=
    fun hy ↦ hy.mono fun s t (ht : t.smu = s.smu) (h : Accounted s.smu.trace) ↦
      show Accounted t.smu.trace from ht ▸ h
  cases call with
  | connectAll mode =>
    obtain rfl := Option.some.inj hx
    refine .ite ?_ ?_
    · exact within_kept_iff.mpr fun _ h ↦ post_connectAllStrict rack h
    · exact within_kept_iff.mpr fun _ h ↦ post_connectAllLenient rack h
  | disconnectAll =>
    obtain rfl := Option.some.inj hx
    exact within_kept_iff.mpr fun _ h ↦ post_disconnectAll rack h
  | atexitRelayShutdown =>
    obtain rfl := Option.some.inj hx
    exact hsame (.bind .get fun _ ↦
      .ite (.handle (sameSmu_relayOpenAll rack) fun _ ↦ .pure _) (.pure _))
  | atexitSmuShutdown =>
    obtain rfl := Option.some.inj hx
    exact within_kept_iff.mpr fun _ h ↦ post_atexitSmuShutdown rack h
  | relay call =>
    obtain rfl := Option.some.inj hx
    exact hsame (within_zoom_of_frame fun _ _ ↦ rfl)
  | runStartupSafetySweep => exact absurd hx nofun

end

end Manager

/-! ## The sweep -/

namespace Sweep

@[simp] theorem smus_smuLens_set (name : String) (smu : Smu V) (s : Sweep V W) :
    ((smuLens name).set smu s).smus name = smu := Function.update_self ..

/-- The objects of the other devices are as they were. -/
def SameOthers (name : String) (s t : Sweep V W) : Prop :=
  ∀ other, other ≠ name → t.smus other = s.smus other

instance (name : String) : IsPreorder (Sweep V W) (SameOthers name) where
  refl _ _ _ := rfl
  trans _ _ _ h h' other hother := (h' other hother).trans (h other hother)

section

variable (cfg : SweepConfig V W)

theorem within_smuLens {α : Type} (name : String) (x : Prog Exc (Smu V) α) :
    Within (SameOthers name) (x.zoom (smuLens name : Lens (Sweep V W) (Smu V))) :=
  within_zoom_of_frame fun _ _ _ hother ↦ Function.update_of_ne hother ..

theorem sameOthers_block (name : String) (fault : SafetyFault) (smuState relayState : String) :
    Within (SameOthers name) (block fault smuState relayState : SweepProg V W Unit) :=
  .bind (fun _ _ _ ↦ rfl) fun _ ↦ .raise _

theorem sameOthers_sweepSmu (name : String) (smu : SmuConfig) :
    Within (SameOthers name) (sweepSmu cfg name smu) := by
  refine .bind (within_smuLens name _) fun _ ↦
    .bind (.attempt (within_smuLens name _)) fun r ↦ ?_
  cases r with
  | error _ => exact .pure _
  | ok _ =>
    have hcheck := within_smuLens (W := W) name
      (Smu.emergencyOutputOff smu (cfg.nidcpower name) "startup safety sweep")
    refine .ensuring (.bind hcheck fun verified ↦ .ite (.pure _) ?_)
      (.bind (.attempt (within_smuLens name _)) fun _ ↦ .pure _)
    exact sameOthers_block name _ _ _

/-- The device of one round of the loop. -/
theorem post_sweepSmu_self (name : String) (smu : SmuConfig) {s : Sweep V W}
    (h : Accounted (s.smus name).trace) :
    Post (sweepSmu cfg name smu) (fun _ t ↦ Accounted (t.smus name).trace)
      (fun _ t ↦ Accounted (t.smus name).trace) s := by
  have hclose : ∀ {t : Sweep V W} {Q : Sweep V W → Prop},
      (∀ u, Accounted (u.smus name).trace → Q u) → Accounted (t.smus name).closing →
      Post (do let _ ← ((Smu.disconnect (cfg.nidcpower name)).zoom (smuLens name)).attempt)
        (fun _ u ↦ Q u) (fun _ u ↦ Accounted (u.smus name).trace) t := by
    intro t Q hQ ht
    refine (post_bind _).mpr (post_attempt.mpr (post_zoom.mpr ?_))
    refine (Smu.post_disconnect (cfg.nidcpower name) (t.smus name)).mono (fun _ u hu ↦ hQ _ ?_)
      fun _ _ h ↦ h.elim
    rw [smus_smuLens_set, hu.2]
    exact ht
  refine (post_bind _).mpr (post_zoom.mpr ((post_modify _).mpr ?_))
  refine (post_bind _).mpr (post_attempt.mpr (post_zoom.mpr ?_))
  rw [Lens.get_set]
  refine (Smu.post_connect smu (cfg.nidcpower name) _).mono ?_ ?_
  · rintro _ opened ⟨hconnected, htrace⟩
    refine (post_ensuring _).mpr ((post_bind _).mpr (post_zoom.mpr ?_))
    rw [Lens.get_set]
    refine (Smu.post_emergencyOutputOff smu (cfg.nidcpower name) _ opened).mono ?_
      fun _ _ h ↦ h.elim
    rintro verified off ⟨hoff, hsame⟩
    cases verified with
    | true =>
      refine hclose (fun _ h ↦ h) ?_
      rw [smus_smuLens_set, Smu.closing, if_pos (hsame.trans hconnected), hoff, htrace]
      exact h.opened.verified.closed rfl
    | false =>
      refine (post_bind _).mpr ((post_modify _).mpr (hclose (fun _ h ↦ h) ?_))
      change Accounted (((smuLens name).set off _).smus name).closing
      rw [smus_smuLens_set, Smu.closing, if_pos (hsame.trans hconnected), hoff]
      exact accounted_abandoned (Or.inr rfl)
  · rintro e failed ⟨hquiet, -⟩
    change Accounted (((smuLens name).set failed _).smus name).trace
    rw [smus_smuLens_set, hquiet]
    exact h

/-- Every SMU of the sweep is accounted for. -/
def AllAccounted (s : Sweep V W) : Prop := ∀ name, Accounted (s.smus name).trace

theorem kept_sweepSmu (name : String) (smu : SmuConfig) :
    Within (Kept AllAccounted) (sweepSmu cfg name smu) := by
  refine within_kept_iff.mpr fun s h ↦ ?_
  have hall : ∀ {t : Sweep V W}, SameOthers name s t → Accounted (t.smus name).trace →
      AllAccounted t := by
    intro t hothers hself other
    by_cases hother : other = name
    · rw [hother]
      exact hself
    · rw [hothers other hother]
      exact h other
  exact ((sameOthers_sweepSmu cfg name smu s).and (post_sweepSmu_self cfg name smu (h name))).mono
    (fun _ _ ht ↦ hall ht.1 ht.2) fun _ _ ht ↦ hall ht.1 ht.2

theorem kept_sweepRelay (name : String) (relay : RelayConfig) :
    Within (Kept (AllAccounted (V := V))) (sweepRelay cfg name relay) := by
  have hzoom : ∀ {α : Type} (x : Prog Exc (Matrix W) α),
      Within (Kept (AllAccounted (V := V))) (x.zoom (relayLens name)) := fun x ↦
    within_zoom_of_frame fun _ _ h ↦ h
  refine .bind (hzoom _) fun _ ↦ .bind (.attempt (hzoom _)) fun r ↦ ?_
  cases r with
  | error _ => exact .pure _
  | ok _ =>
    exact .ensuring (.handle (hzoom _) fun _ ↦ .bind (fun _ h ↦ h) fun _ ↦ .raise _)
      (.bind (.attempt (hzoom _)) fun _ ↦ .pure _)

theorem kept_runStartupSafetySweep : Within (Kept AllAccounted) (runStartupSafetySweep cfg) := by
  have hsmus : ∀ items, Within (Kept AllAccounted) (sweepSmus cfg items) := by
    intro items
    induction items with
    | nil => exact .pure _
    | cons item rest ih => exact .bind (kept_sweepSmu cfg item.1 item.2) fun _ ↦ ih
  have hrelays : ∀ items, Within (Kept AllAccounted) (sweepRelays cfg items) := by
    intro items
    induction items with
    | nil => exact .pure _
    | cons item rest ih => exact .bind (kept_sweepRelay cfg item.1 item.2) fun _ ↦ ih
  exact .bind (hsmus _) fun _ ↦ hrelays _

end

end Sweep

/-! ## Runs -/

/-- The traces of the SMU objects of the process. -/
def Bench.smuTraces (b : Bench V W D) : Set (List SmuEvent) :=
  {evs | evs = b.manager.smu.trace ∨ ∃ name, evs = (b.sweep.smus name).trace}

/-- Every SMU of the process is accounted for. -/
def Bench.SmusAccounted (b : Bench V W D) : Prop := ∀ evs ∈ b.smuTraces, Accounted evs

theorem smusAccounted_iff {b : Bench V W D} :
    b.SmusAccounted ↔ Accounted b.manager.smu.trace ∧ b.sweep.AllAccounted := by
  constructor
  · exact fun h ↦ ⟨h _ (Or.inl rfl), fun name ↦ h _ (Or.inr ⟨name, rfl⟩)⟩
  · rintro ⟨hmanager, hsweep⟩ evs (rfl | ⟨name, rfl⟩)
    · exact hmanager
    · exact hsweep name

/-- **One call.** Whatever it is and however it ends, it keeps every SMU accounted for. -/
theorem kept_smusAccounted (rack : Rack V W D) (cfg : SweepConfig V W) (call : BenchCall) :
    Within (Kept Bench.SmusAccounted) (call.run rack cfg) := by
  refine within_kept_iff.mpr fun b hb ↦ ?_
  obtain ⟨hmanager, hsweep⟩ := smusAccounted_iff.mp hb
  unfold BenchCall.run
  split
  · rename_i x hx
    have hkept := within_kept_iff.mp (Manager.kept_onManager rack hx) b.manager hmanager
    exact post_zoom.mpr (hkept.mono (fun _ _ hm ↦ smusAccounted_iff.mpr ⟨hm, hsweep⟩)
      fun _ _ hm ↦ smusAccounted_iff.mpr ⟨hm, hsweep⟩)
  · have hkept := within_kept_iff.mp (Sweep.kept_runStartupSafetySweep cfg) b.sweep hsweep
    exact post_zoom.mpr (hkept.mono (fun _ _ hs ↦ smusAccounted_iff.mpr ⟨hmanager, hs⟩)
      fun _ _ hs ↦ smusAccounted_iff.mpr ⟨hmanager, hs⟩)

/-- **When sessions are closed safely.** In every run, the sessions of an SMU were closed safely
exactly if all its startup checks verified the output off. -/
theorem safelyClosed_iff_startupVerified {rack : Rack V W D} {cfg : SweepConfig V W}
    {steps : List (BenchStep V W D)} {s : Bench V W D} (h : Run (benchCalls rack cfg) steps s) :
    ∀ evs ∈ s.smuTraces, SafelyClosed evs ↔ StartupVerified evs := by
  refine kept_of_run (I := Bench.SmusAccounted) ?_ (kept_smusAccounted rack cfg) h
  rintro b ⟨hsmu, -, -, -, -, hsmus, -⟩
  refine smusAccounted_iff.mpr ⟨?_, fun name ↦ ?_⟩
  · rw [hsmu]
    exact accounted_nil
  · rw [hsmus name]
    exact accounted_nil

/-- A PMU whose output stays on: the startup check of a strict `connect_all` fails, and the
rollback closes the session. -/
theorem not_safelyClosed_stuckOutput :
    ¬∀ steps s, Run (benchCalls (scriptedRack true) emptySweep) steps s →
      ∀ evs ∈ s.smuTraces, SafelyClosed evs := by
  intro h
  have hrun : ((BenchCall.connectAll .production).run (scriptedRack true) emptySweep
      (newBench promptModule)).thrown.map (·.manager.smu.trace)
      = some [.closed, .outputOff "startup safety check" false, .opened] := by
    decide +kernel
  obtain ⟨e, t, ht, htrace⟩ := Outcome.exists_of_thrown hrun
  have hsafe := h [⟨.connectAll .production, false, newBench promptModule, t⟩] t
    (.step (.init (newBench_newBench rfl rfl)) ⟨rfl, rfl, e, ht⟩) _ (Or.inl rfl)
  rw [htrace] at hsafe
  exact absurd (hsafe.1 rfl) Bool.false_ne_true

/-- A strict `connect_all` that returns, and the `disconnect_all` after it. -/
theorem safelyClosed_iff_startupVerified_normalRun :
    ∃ steps s, Run (benchCalls (scriptedRack false) emptySweep) steps s ∧
      (SafelyClosed s.manager.smu.trace ↔ StartupVerified s.manager.smu.trace) ∧
      s.manager.smu.trace.length = 4 := by
  have hruns : ((do
      (BenchCall.connectAll .production).run (scriptedRack false) emptySweep
      BenchCall.disconnectAll.run (scriptedRack false) emptySweep :
        Prog Exc (Bench Unit BankWorld Unit) Unit) (newBench promptModule)).final.map
      (·.manager.smu.trace.length) = some 4 := by
    decide +kernel
  obtain ⟨_, t, hboth, hlen⟩ := Outcome.exists_of_final hruns
  obtain ⟨_, s, hs, ht⟩ := exists_of_bind_eq_ok hboth
  have hrun : Run (benchCalls (scriptedRack false) emptySweep)
      [⟨.disconnectAll, true, s, t⟩, ⟨.connectAll .production, true, newBench promptModule, s⟩] t :=
    .step (.step (.init (newBench_newBench rfl rfl)) ⟨rfl, rfl, hs⟩) ⟨rfl, rfl, ht⟩
  exact ⟨_, t, hrun, safelyClosed_iff_startupVerified hrun _ (Or.inl rfl), hlen⟩

end Nipxi
