import Nipxi.Hardware.Relay.Rules
import Nipxi.Transition.Trace

/-!
# What a session leaves behind

The two facts about a `NumatoRelayMatrix` object that its owner goes by: whether it is
`connected`, and whether a bank opening has been verified since. `connected` is `true` exactly
when `connect` returns, on every network; and a session that was accepted by the module but could
not be verified counts as not connected (`RejectedAfterLogin`).
-/

open Effect Transition

namespace Nipxi

variable {W : Type}

/-! ## Marks on the trace -/

/-- A command that switches a relay on was handed to the socket. -/
def RelayEvent.IsSwitchOn : RelayEvent → Prop
  | .sent cmd => IsOn cmd
  | _ => False

/-- The module accepted a session. -/
def RelayEvent.IsLogin : RelayEvent → Prop
  | .loggedIn => True
  | _ => False

/-- `open_all` returned. -/
def RelayEvent.IsOpened : RelayEvent → Prop
  | .opened => True
  | _ => False

instance : DecidablePred RelayEvent.IsSwitchOn
  | .sent cmd => inferInstanceAs (Decidable (encode "relay on " <+: cmd))
  | .sending _ | .answered _ _ | .call _ | .checked _ | .emergency _ | .loggedIn | .opened =>
    isFalse id

instance : DecidablePred RelayEvent.IsLogin
  | .loggedIn => isTrue trivial
  | .sending _ | .sent _ | .answered _ _ | .call _ | .checked _ | .emergency _ | .opened =>
    isFalse id

instance : DecidablePred RelayEvent.IsOpened
  | .opened => isTrue trivial
  | .sending _ | .sent _ | .answered _ _ | .call _ | .checked _ | .emergency _ | .loggedIn =>
    isFalse id

/-- Since the last switch-on, `open_all` has returned. -/
def OpenedSinceOn (m : Matrix W) : Prop := Settled RelayEvent.IsSwitchOn RelayEvent.IsOpened m.trace

instance (m : Matrix W) : Decidable (OpenedSinceOn m) :=
  inferInstanceAs (Decidable (Settled RelayEvent.IsSwitchOn RelayEvent.IsOpened m.trace))

/-- `t` comes after `s`, and every session accepted in between was followed by a return of
`open_all`. -/
def RelayVerified (s t : Matrix W) : Prop :=
  ∃ new, t.trace = new ++ s.trace ∧ Settled RelayEvent.IsLogin RelayEvent.IsOpened new

/-- `connect` gets past the login and then fails. -/
def RejectedAfterLogin (cfg : RelayConfig) (net : Net W) (s : Matrix W) : Prop :=
  ∃ e t new, connect cfg net s = .error e t ∧ t.trace = new ++ s.trace ∧ .loggedIn ∈ new

theorem OpenedSinceOn.of_opened {m : Matrix W} {older : List RelayEvent}
    (h : m.trace = .opened :: older) : OpenedSinceOn m := by
  rw [OpenedSinceOn, h]
  exact .of_cons trivial

/-! ## `connected` -/

/-- `connected` is as it was. -/
def SameConnected (s t : Matrix W) : Prop := t.connected = s.connected

instance : IsPreorder (Matrix W) SameConnected where
  refl _ := rfl
  trans _ _ _ h h' := h'.trans h

section

variable (cfg : RelayConfig) (net : Net W)

theorem listens_sameConnected : Listens net SameConnected where
  polls _ := rfl
  recv _ := rfl
  replies _ _ _ := rfl

theorem sameConnected_sendAndCapture (cmd : Bytes) :
    Within SameConnected (sendAndCapture cfg net cmd) := by
  have hsent : Within SameConnected (noteSent cmd : RelayProg W Unit) := by
    refine .modify fun s ↦ ?_
    split <;> rfl
  exact (listens_sameConnected net).sendAndCapture cfg hsent (fun _ _ ↦ rfl) fun _ ↦ rfl

theorem sameConnected_dropSock : Within SameConnected (dropSock net) :=
  .bind (fun _ ↦ rfl) fun _ _ ↦ rfl

theorem sameConnected_login : Within SameConnected (login cfg net) := by
  have hread : ∀ candidates label,
      Within SameConnected (readUntilAny cfg net candidates label) :=
    (listens_sameConnected net).readUntilAny cfg
  have hsend : ∀ data, Within SameConnected (sendRaw cfg net data) := by
    intro data s
    exact post_sendRaw (fun _ ↦ rfl) (fun _ ↦ rfl) fun _ ↦ rfl
  exact .bind (hread _ _) fun _ ↦ .bind (hsend _) fun _ ↦ .bind (hread _ _) fun _ ↦
    .bind (hsend _) fun _ ↦ .bind (hread _ _) fun _ ↦ .ite (.pure _) (.raise _)

theorem sameConnected_loginOrDrop : Within SameConnected (loginOrDrop cfg net) := by
  have hdrop : ∀ e : Exc, Within SameConnected (do dropSock net; .raise e : RelayProg W Unit) :=
    fun e ↦ .bind (sameConnected_dropSock net) fun _ ↦ .raise e
  exact .handle (sameConnected_login cfg net) fun e ↦ .ite (hdrop _) (.ite (hdrop _) (.raise _))

/-- The first half of `connect` leaves the object not connected, however it ends. -/
theorem post_openSock_connected (s : Matrix W) :
    Post (openSock cfg net) (fun _ t ↦ t.connected = false) (fun _ t ↦ t.connected = false) s := by
  have hdiscard : Post (discardSock net) (fun _ _ ↦ True) (fun _ t ↦ t.connected = false) s := by
    refine (post_bind _).mpr (post_get.mpr (post_ite.mpr ?_))
    split <;> trivial
  refine hdiscard.bind fun _ t _ ↦ ?_
  refine (post_bind _).mpr ((post_modify _).mpr ((post_bind _).mpr ((post_query _).mpr ?_)))
  split <;> rfl

/-- **`connected` says whether `connect` returned.** -/
theorem post_connect_connected (s : Matrix W) :
    Post (connect cfg net) (fun _ t ↦ t.connected = true) (fun _ t ↦ t.connected = false) s := by
  have hverify : ∀ t : Matrix W, t.connected = true →
      Post (verifyConnection cfg net) (fun _ u ↦ u.connected = true)
        (fun _ u ↦ u.connected = false) t := by
    intro t ht
    refine (post_handle _).mpr ((post_bind _).mpr ?_)
    refine (sameConnected_sendAndCapture cfg net readAllText t).mono (fun response u hu ↦ ?_)
      fun _ _ _ ↦ rfl
    refine (post_bind _).mpr ?_
    unfold parseReadallResponse
    split
    · exact hu.trans ht
    · rfl
  refine (post_openSock_connected cfg net s).bind fun _ t ht ↦ ?_
  refine (post_bind _).mpr ((sameConnected_loginOrDrop cfg net t).mono (fun _ u hu ↦ ?_)
    fun _ _ hu ↦ hu.trans ht)
  refine (post_bind _).mpr ((post_modify _).mpr ((post_bind _).mpr ((post_modify _).mpr ?_)))
  exact hverify _ rfl

/-! ## Connecting, opening the bank, disconnecting -/

theorem grows_connect_not_opened :
    Within (Grows fun ev ↦ ¬ev.IsOpened) (connect cfg net) :=
  grows_connect cfg net id id fun _ ↦ id

/-- **Opening the bank.** When `open_all` returns, this is the last entry of the trace. -/
theorem post_openAll_opened (s : Matrix W) :
    Post (openAll cfg net) (fun _ t ↦ ∃ new, t.trace = .opened :: new ++ s.trace)
      (fun _ _ ↦ True) s := by
  have hR : Respects cfg net (Grows fun _ ↦ True) :=
    respects_grows net (fun _ _ ↦ trivial) (fun _ _ ↦ trivial) fun _ _ ↦ trivial
  refine (post_bind _).mpr ((hR.forceAllOffAndVerify s).mono ?_ fun _ _ _ ↦ trivial)
  rintro _ t ⟨new, ht, -⟩
  exact ⟨new, congrArg (RelayEvent.opened :: ·) ht⟩

theorem post_disconnect_trace (s : Matrix W) :
    Post (disconnect net) (fun _ t ↦ t.trace = s.trace) (fun _ t ↦ t.trace = s.trace) s := by
  have hnone : ∀ {t : Matrix W}, Grows (fun _ ↦ False) s t → t.trace = s.trace := by
    rintro t ⟨new, ht, hnew⟩
    rw [ht, List.eq_nil_iff_forall_not_mem.mpr hnew, List.nil_append]
  exact ((logsIn_grows net).disconnect s).mono (fun _ _ ↦ hnone) fun _ _ ↦ hnone

/-- A connect that is followed by nothing is verified exactly if it does not fail after its
login. -/
theorem post_connect_verified (s : Matrix W) :
    Post (connect cfg net)
      (fun _ t ↦ ¬RejectedAfterLogin cfg net s ∧ ∃ new, t.trace = new ++ s.trace)
      (fun _ t ↦ RelayVerified s t ↔ ¬RejectedAfterLogin cfg net s) s := by
  have hgrows := grows_connect_not_opened cfg net s
  unfold Post at *
  cases hrun : connect cfg net s with
  | ok a t =>
    rw [hrun] at hgrows
    obtain ⟨new, ht, -⟩ := hgrows
    refine ⟨?_, new, ht⟩
    rintro ⟨e, u, new', hrun', -⟩
    rw [hrun] at hrun'
    exact absurd hrun' nofun
  | error e t =>
    rw [hrun] at hgrows
    obtain ⟨new, ht, hnew⟩ := hgrows
    constructor
    · rintro ⟨new', ht', hsettled⟩ ⟨e', u, new'', hrun', hu, hlogin⟩
      rw [hrun] at hrun'
      obtain ⟨rfl, rfl⟩ : e = e' ∧ t = u := by simpa using hrun'
      obtain rfl : new' = new := List.append_cancel_right (ht'.symm.trans ht)
      obtain rfl : new'' = new' := List.append_cancel_right (hu.symm.trans ht)
      exact (settled_iff_of_forall_not hnew).mp hsettled _ hlogin trivial
    · intro hrejected
      refine ⟨new, ht, (settled_iff_of_forall_not hnew).mpr fun ev hev hlogin ↦ ?_⟩
      cases ev with
      | loggedIn => exact hrejected ⟨e, t, new, hrun, ht, hev⟩
      | _ => exact hlogin
  | diverged => trivial

end

end Nipxi
