import Nipxi.Hardware.Relay.Comms
import Nipxi.Hardware.Relay.Interlock
import Nipxi.Transition.Trace

/-!
# An exception after `relay on`

The driver's design principle is that a relay whose state is not confirmed is forced off before an
exception leaves. The emergency shutdown hangs on three of the ways a command of `close` can fail:
a reconnect that fails, a retry that fails again, and an answer with the wrong state. It does not
hang on a bare socket error, on an answer without a state in it, or on the settling delay.

`failsSafe_iff` says that these are all: an exception leaves `close` with nothing done about a relay
that was switched on exactly if the call ends in one of them.
-/

open Effect Transition

namespace Nipxi

variable {W : Type}

/-! ## What leaves a relay energized -/

/-- A relay was switched on, or the attempt was made. -/
def RelayEvent.IsOnSent : RelayEvent → Prop
  | .sent cmd => IsOn cmd
  | _ => False

/-- An emergency shutdown was attempted. -/
def RelayEvent.IsEmergency : RelayEvent → Prop
  | .emergency _ => True
  | _ => False

/-- A try ended with an exception that is neither a `RelayError` nor a timeout. -/
def CallRecord.EndsBare (r : CallRecord) : Prop :=
  r.FirstRaw ∨ ∃ e, r.retry = some (some e) ∧ e.isComm = false

/-- A call of `close(channel)` ends, newest entry first, in a failure without a reflex. -/
inductive Unguarded (cfg : RelayConfig) (channel : ℕ) : List RelayEvent → Prop
  /-- A bare socket error. -/
  | socket {r : CallRecord} {older : List RelayEvent} (h : r.EndsBare) :
    Unguarded cfg channel (.call r :: older)
  /-- An answer to `relay read` with neither `on` nor `off` in it. -/
  | read {r : CallRecord} {n : ℕ} {response : Bytes} {older : List RelayEvent}
      (h : parseRead response = none) :
    Unguarded cfg channel (.call r :: .answered (readText n) response :: older)
  /-- An answer to `relay readall` without a mask. -/
  | readAll {r : CallRecord} {response : Bytes} {older : List RelayEvent}
      (h : parseReadall response = none) :
    Unguarded cfg channel (.call r :: .answered readAllText response :: older)
  /-- The channel is verified, and the settling delay is refused. -/
  | settle {r : CallRecord} {response : Bytes} {older : List RelayEvent}
      (hverified : parseReadall response = some (1 <<< (channel - 1)))
      (hrefused : cfg.settleSeconds ≤ 0) :
    Unguarded cfg channel (.call r :: .answered readAllText response :: older)

theorem Unguarded.append {cfg : RelayConfig} {channel : ℕ} {new : List RelayEvent}
    (h : Unguarded cfg channel new) (old : List RelayEvent) :
    Unguarded cfg channel (new ++ old) := by
  cases h with
  | socket h => exact .socket h
  | read h => exact .read h
  | readAll h => exact .readAll h
  | settle hverified hrefused => exact .settle hverified hrefused

/-- An emergency shutdown was attempted, and no relay switched on after it. -/
def Escalated (new : List RelayEvent) : Prop :=
  ∃ later earlier, new = later ++ earlier ∧ (∃ ev ∈ later, ev.IsEmergency) ∧
    ∀ ev ∈ later, ¬ev.IsOnSent

theorem Escalated.append {new : List RelayEvent} (h : Escalated new) (old : List RelayEvent) :
    Escalated (new ++ old) := by
  obtain ⟨later, earlier, rfl, hlater⟩ := h
  exact ⟨later, earlier ++ old, List.append_assoc _ _ _, hlater⟩

theorem Escalated.settled {new : List RelayEvent} (h : Escalated new) :
    Settled RelayEvent.IsOnSent RelayEvent.IsEmergency new := by
  obtain ⟨later, earlier, rfl, hemergency, hon⟩ := h
  exact .of_mem hemergency hon

/-! ## One command after `relay on` -/

section Steps

variable (cfg : RelayConfig) (channel : ℕ)

/-- No emergency shutdown so far. -/
abbrev ReflexFree : Matrix W → Matrix W → Prop := Grows fun ev ↦ ¬ev.IsEmergency

/-- No relay switched on. -/
abbrev OnFree : Matrix W → Matrix W → Prop := Grows fun ev ↦ ¬ev.IsOnSent

/-- An exception: without a reflex, or after one. -/
def Fails (s t : Matrix W) : Prop :=
  ∃ new, t.trace = new ++ s.trace ∧
    (Unguarded cfg channel new ∧ (∀ ev ∈ new, ¬ev.IsEmergency) ∨
      Escalated new ∧ ∀ old, ¬Unguarded cfg channel (new ++ old))

variable {cfg channel}

/-- What came before an exception, without an emergency shutdown, leaves it as it is. -/
theorem Fails.of_reflexFree {s t u : Matrix W} (hst : ReflexFree s t)
    (htu : Fails cfg channel t u) : Fails cfg channel s u := by
  obtain ⟨old, ht, hold⟩ := hst
  obtain ⟨new, hu, hnew⟩ := htu
  refine ⟨new ++ old, by rw [hu, ht, List.append_assoc], ?_⟩
  rcases hnew with ⟨hunguarded, hcalm⟩ | ⟨hescalated, hguarded⟩
  · refine Or.inl ⟨hunguarded.append old, fun ev hev ↦ ?_⟩
    rcases List.mem_append.mp hev with hev | hev
    · exact hcalm ev hev
    · exact hold ev hev
  · refine Or.inr ⟨hescalated.append old, fun older ↦ ?_⟩
    rw [List.append_assoc]
    exact hguarded (old ++ older)

/-- The last command was answered so. -/
def AnsweredLast (cmd : Bytes) (P : Bytes → Prop) (s t : Matrix W) : Prop :=
  ∃ r response new, t.trace = .call r :: .answered cmd response :: (new ++ s.trace) ∧
    P response ∧ ∀ ev ∈ new, ¬ev.IsEmergency

theorem AnsweredLast.reflexFree {cmd : Bytes} {P : Bytes → Prop} {s t : Matrix W}
    (h : AnsweredLast cmd P s t) : ReflexFree s t := by
  obtain ⟨r, response, new, ht, -, hnew⟩ := h
  refine ⟨.call r :: .answered cmd response :: new, ht, ?_⟩
  rw [List.forall_mem_cons, List.forall_mem_cons]
  exact ⟨id, id, hnew⟩

/-- An answer after which nothing is done about the relay. -/
theorem AnsweredLast.fails {cmd : Bytes} {P : Bytes → Prop} {s t : Matrix W}
    (h : AnsweredLast cmd P s t)
    (hP : ∀ r response older, P response →
      Unguarded cfg channel (.call r :: .answered cmd response :: older)) :
    Fails cfg channel s t := by
  obtain ⟨r, response, new, ht, hresponse, hnew⟩ := h
  refine ⟨.call r :: .answered cmd response :: new, ht, Or.inl ⟨hP r response new hresponse, ?_⟩⟩
  rw [List.forall_mem_cons, List.forall_mem_cons]
  exact ⟨id, id, hnew⟩

variable (cfg channel) (net : Net W)

theorem reflexFree_connect : Within ReflexFree (connect cfg net) :=
  grows_connect cfg net id id fun _ ↦ id

theorem post_sendAndCapture_of_reflexFree {s t : Matrix W} (hst : ReflexFree s t) (cmd : Bytes) :
    Post (sendAndCapture cfg net cmd)
      (fun response u ↦ ∃ new, u.trace = .answered cmd response :: (new ++ s.trace) ∧
        ∀ ev ∈ new, ¬ev.IsEmergency)
      (fun _ u ↦ ReflexFree s u) t := by
  have hlistens := (logsIn_grows (P := fun ev ↦ ¬ev.IsEmergency) net).toListens
  have hsent : Within ReflexFree (noteSent cmd : RelayProg W Unit) := grows_noteSent id
  have hraw : Within ReflexFree (sendRaw cfg net (cmd ++ CRLF)) := by
    refine .bind .get fun m ↦ .ite (.bind (grows_netCall _) fun r ↦ ?_) (.raise _)
    cases r with
    | none => exact .pure _
    | some e => exact .raise _
  refine (hsent.after hst).bind fun _ u hu ↦ ?_
  refine (hraw.after hu).bind fun _ v hv ↦ ?_
  refine ((hlistens.readUntil cfg PROMPT).after hv).bind fun response w hw ↦ ?_
  refine post_ite.mpr ?_
  split
  · exact hw
  · obtain ⟨new, hnew, hcalm⟩ := hw
    exact ⟨new, congrArg _ hnew, hcalm⟩

/-- The attempt is the last entry of an emergency shutdown. -/
theorem post_emergencyAllOff_of_grows {s t : Matrix W} (hst : Grows (fun _ ↦ True) s t) :
    Post (emergencyAllOff cfg net)
      (fun _ u ↦ ∃ ok new, u.trace = .emergency ok :: (new ++ s.trace)) (fun _ _ ↦ False) t := by
  have htry : Within (Grows fun _ ↦ True) (do
      let _ ← sendAndCapture cfg net (writeAllText cfg.numChannels 0)
      let response ← sendAndCapture cfg net readAllText
      parseReadallResponse response) :=
    .bind (grows_sendAndCapture cfg net trivial fun _ ↦ trivial) fun _ ↦
      .bind (grows_sendAndCapture cfg net trivial fun _ ↦ trivial) fun response ↦
        grows_parseReadallResponse response
  refine (post_bind _).mpr (post_attempt.mpr ((htry.after hst).mono ?_ ?_))
  · rintro mask u ⟨new, hu, -⟩
    exact ⟨_, new, congrArg _ hu⟩
  · rintro e u ⟨new, hu, -⟩
    exact ⟨_, new, congrArg _ hu⟩

theorem ReflexFree.grows {s t : Matrix W} (h : ReflexFree s t) : Grows (fun _ ↦ True) s t :=
  Grows.mono (fun _ _ ↦ trivial) h

theorem fails_of_emergency {s t : Matrix W} {r : CallRecord} {ok : Bool} {new : List RelayEvent}
    (ht : t.trace = .call r :: .emergency ok :: (new ++ s.trace)) (hr : ¬r.EndsBare) :
    Fails cfg channel s t := by
  refine ⟨[.call r, .emergency ok] ++ new, ht, Or.inr ⟨⟨_, new, rfl, ?_, ?_⟩, fun old ↦ ?_⟩⟩
  · exact ⟨.emergency ok, by simp, trivial⟩
  · rw [List.forall_mem_cons, List.forall_mem_singleton]
    exact ⟨id, id⟩
  · intro hunguarded
    cases hunguarded with
    | socket h => exact hr h

theorem fails_of_emergency_last {s t : Matrix W} {ok : Bool} {new : List RelayEvent}
    (ht : t.trace = .emergency ok :: (new ++ s.trace)) : Fails cfg channel s t := by
  refine ⟨[.emergency ok] ++ new, ht, Or.inr ⟨⟨_, new, rfl, ?_, ?_⟩, fun old ↦ ?_⟩⟩
  · exact ⟨.emergency ok, List.mem_cons_self, trivial⟩
  · rw [List.forall_mem_singleton]
    exact id
  · rintro ⟨⟩

/-- **One native command.** It is answered, or it fails after an emergency shutdown, or it ends with
a bare socket error. -/
theorem post_callWithReconnect_of_reflexFree (cmd : Bytes) (s : Matrix W) :
    Post (callWithReconnect cfg net cmd)
      (fun response t ↦ AnsweredLast cmd (· = response) s t) (fun _ t ↦ Fails cfg channel s t)
      s := by
  have hanswered : ∀ {t : Matrix W} {r : CallRecord} {response : Bytes},
      (∃ new, t.trace = .answered cmd response :: (new ++ s.trace) ∧
        ∀ ev ∈ new, ¬ev.IsEmergency) →
      AnsweredLast cmd (· = response) s { t with trace := .call r :: t.trace } := by
    rintro t r response ⟨new, ht, hnew⟩
    exact ⟨r, response, new, congrArg _ ht, rfl, hnew⟩
  have hbare : ∀ {t : Matrix W} {r : CallRecord}, ReflexFree s t → r.EndsBare →
      Fails cfg channel s { t with trace := .call r :: t.trace } := by
    rintro t r ⟨new, ht, hnew⟩ hr
    refine ⟨.call r :: new, congrArg _ ht, Or.inl ⟨.socket hr, ?_⟩⟩
    rw [List.forall_mem_cons]
    exact ⟨id, hnew⟩
  refine (post_bind _).mpr (post_attempt.mpr ((post_sendAndCapture_of_reflexFree cfg net
    (refl_of ReflexFree s) cmd).mono (fun response t ht ↦ hanswered ht) fun e t hst ↦ ?_))
  dsimp only
  split
  · next hcomm =>
    refine (post_bind _).mpr (post_attempt.mpr (((reflexFree_connect cfg net).after hst).mono
      (fun _ u hsu ↦ ?_) fun e' u hsu ↦ ?_))
    · refine (post_bind _).mpr (post_attempt.mpr ((post_sendAndCapture_of_reflexFree cfg net hsu
        cmd).mono (fun response v hv ↦ hanswered hv) fun e' v hsv ↦ ?_))
      dsimp only
      split
      · next hcomm' =>
        refine (post_bind _).mpr ((post_emergencyAllOff_of_grows cfg net hsv.grows).mono ?_
          fun _ _ h ↦ h.elim)
        rintro _ w ⟨ok, new, hw⟩
        refine fails_of_emergency cfg channel (congrArg _ hw) ?_
        rintro (⟨e₁, he, hno⟩ | ⟨e₁, he, hno⟩)
        · cases he
          exact absurd (hcomm.symm.trans hno) Bool.noConfusion
        · cases he
          exact absurd (hcomm'.symm.trans hno) Bool.noConfusion
      · next hcomm' => exact hbare hsv (Or.inr ⟨e', rfl, Bool.not_eq_true _ ▸ hcomm'⟩)
    · refine (post_bind _).mpr ((post_emergencyAllOff_of_grows cfg net hsu.grows).mono ?_
        fun _ _ h ↦ h.elim)
      -- the reconnect failed: there is no retry that could have ended bare
      rintro _ w ⟨ok, new, hw⟩
      refine fails_of_emergency cfg channel (congrArg _ hw) ?_
      rintro (⟨e₁, he, hno⟩ | ⟨e₁, he, hno⟩)
      · cases he
        exact absurd (hcomm.symm.trans hno) Bool.noConfusion
      · cases he
  · next hcomm => exact hbare hst (Or.inl ⟨e, rfl, Bool.not_eq_true _ ▸ hcomm⟩)

/-! ## The steps of `close` from `relay on` on -/

theorem post_write_of_reflexFree {n : ℕ} (hn : n < cfg.numChannels) (state : Bool) (s : Matrix W) :
    Post (write cfg net n state) (fun _ t ↦ ReflexFree s t)
      (fun _ t ↦ Fails cfg channel s t) s := by
  have hnote : ReflexFree s { s with trace := .sending (writeText n state) :: s.trace } :=
    ⟨[.sending (writeText n state)], rfl, by rw [List.forall_mem_singleton]; exact id⟩
  unfold write validateRelayNumber
  rw [if_pos hn]
  refine (post_bind _).mpr ((post_bind _).mpr ((post_bind _).mpr ?_))
  refine (post_callWithReconnect_of_reflexFree cfg channel net _ _).mono (fun response t ht ↦ ?_)
    fun _ t ht ↦ ht.of_reflexFree hnote
  exact trans_of ReflexFree hnote ht.reflexFree

theorem post_verificationError {α : Type} {s t : Matrix W} (hst : ReflexFree s t)
    (message : Bool → String) {Q : α → Matrix W → Prop} :
    Post (do
      let ok ← emergencyAllOff cfg net
      (Prog.raise ⟨.relayStateVerificationError, message ok⟩ : RelayProg W α)) Q
      (fun _ u ↦ Fails cfg channel s u) t := by
  refine (post_bind _).mpr ((post_emergencyAllOff_of_grows cfg net hst.grows).mono ?_
    fun _ _ h ↦ h.elim)
  rintro _ u ⟨ok, new, hu⟩
  exact fails_of_emergency_last cfg channel hu

theorem post_verifySingle_of_reflexFree {n : ℕ} (hn : n < cfg.numChannels) (expected : Bool)
    (s : Matrix W) :
    Post (verifySingle cfg net n expected) (fun _ t ↦ ReflexFree s t)
      (fun _ t ↦ Fails cfg channel s t) s := by
  unfold verifySingle readRelay validateRelayNumber
  rw [if_pos hn]
  refine (post_bind _).mpr ((post_bind _).mpr ((post_bind _).mpr ?_))
  refine (post_callWithReconnect_of_reflexFree cfg channel net _ s).mono (fun response t ht ↦ ?_)
    fun _ _ h ↦ h
  unfold parseReadResponse
  split
  · refine post_ite.mpr ?_
    split
    · exact ht.reflexFree
    · exact post_verificationError cfg channel net ht.reflexFree _
  · next hnone =>
    refine ht.fails fun r response' older hresponse ↦ ?_
    exact .read (hresponse ▸ hnone)

theorem post_verifyAll_of_reflexFree (expected : ℕ) (s : Matrix W) :
    Post (verifyAll cfg net expected)
      (fun _ t ↦ AnsweredLast readAllText (fun response ↦ parseReadall response = some expected)
        s t)
      (fun _ t ↦ Fails cfg channel s t) s := by
  unfold verifyAll readAll
  refine (post_bind _).mpr ((post_bind _).mpr ?_)
  refine (post_callWithReconnect_of_reflexFree cfg channel net _ s).mono (fun response t ht ↦ ?_)
    fun _ _ h ↦ h
  unfold parseReadallResponse
  split
  · next mask hmask =>
    have hcalm : ReflexFree s { t with lastKnownMask := some mask } := ht.reflexFree
    refine (post_bind _).mpr ((post_pure _).mpr ((post_bind _).mpr ((post_modify _).mpr ?_)))
    refine (post_pure _).mpr (post_ite.mpr ?_)
    split
    · next heq =>
      obtain ⟨r, response', new, hnew, rfl, hnone⟩ := ht
      exact ⟨r, response', new, hnew, hmask.trans (congrArg some heq), hnone⟩
    · exact post_verificationError cfg channel net hcalm _
  · next hnone =>
    refine ht.fails fun r response' older hresponse ↦ ?_
    exact .readAll (hresponse ▸ hnone)

/-- From `relay on` to the end of `close`. -/
theorem post_energize (hchannel : 1 ≤ channel ∧ channel ≤ cfg.numChannels) (s : Matrix W) :
    Post (do
        write cfg net (channel - 1) true
        verifySingle cfg net (channel - 1) true
        verifyAll cfg net (1 <<< (channel - 1)))
      (fun _ t ↦ AnsweredLast readAllText
        (fun response ↦ parseReadall response = some (1 <<< (channel - 1))) s t)
      (fun _ t ↦ Fails cfg channel s t) s := by
  have hn : channel - 1 < cfg.numChannels := by omega
  have hafter : ∀ {t u : Matrix W}, ReflexFree s t →
      AnsweredLast readAllText (fun response ↦ parseReadall response = some (1 <<< (channel - 1)))
        t u →
      AnsweredLast readAllText (fun response ↦ parseReadall response = some (1 <<< (channel - 1)))
        s u := by
    rintro t u ⟨old, ht, hold⟩ ⟨r, response, new, hu, hresponse, hnew⟩
    refine ⟨r, response, new ++ old, by rw [hu, ht, List.append_assoc], hresponse, fun ev hev ↦ ?_⟩
    rcases List.mem_append.mp hev with hev | hev
    · exact hnew ev hev
    · exact hold ev hev
  refine (post_write_of_reflexFree cfg channel net hn true s).bind fun _ t hst ↦ ?_
  refine (post_bind _).mpr ((post_verifySingle_of_reflexFree cfg channel net hn true t).mono
    (fun _ u htu ↦ ?_) fun _ _ h ↦ h.of_reflexFree hst)
  have hsu : ReflexFree s u := trans_of ReflexFree hst htu
  exact (post_verifyAll_of_reflexFree cfg channel net _ u).mono (fun _ v huv ↦ hafter hsu huv)
    fun _ _ h ↦ h.of_reflexFree hsu

end Steps

/-! ## The call -/

section Close

variable (cfg : RelayConfig) (net : Net W) (channel : ℕ)

/-- An exception that leaves `close` after a `relay on` comes after an emergency shutdown that
was attempted later than any `relay on`. -/
def FailsSafe (s : Matrix W) : Prop :=
  Post (closeChannel cfg net channel) (fun _ _ ↦ True)
    (fun _ t ↦ Settled RelayEvent.IsOnSent RelayEvent.IsEmergency (newEvents s t)) s

/-- A `close` that raises after a `relay on` does not end in a failure without a reflex. -/
def EndsGuarded (s : Matrix W) : Prop :=
  Post (closeChannel cfg net channel) (fun _ _ ↦ True)
    (fun _ t ↦ (∃ ev ∈ newEvents s t, ev.IsOnSent) → ¬Unguarded cfg channel (newEvents s t)) s

theorem onFree_forceAllOffAndVerify : Within OnFree (forceAllOffAndVerify cfg net) := by
  refine (respects_grows (P := fun ev ↦ ¬ev.IsOnSent) net (fun ev hev ↦ ?_)
    (fun cmd hcmd ↦ ?_) fun _ _ ↦ id).forceAllOffAndVerify
  · cases ev with
    | sent cmd => exact hev.elim
    | _ => exact id
  · exact not_isOn_of_isSafeCmd cfg hcmd

variable {cfg channel}

/-- A failure after the bank was off, on the whole trace. -/
theorem Fails.settled_iff {s t u : Matrix W} (hst : OnFree s t) (htu : Fails cfg channel t u) :
    Settled RelayEvent.IsOnSent RelayEvent.IsEmergency (newEvents s u) ↔
      ((∃ ev ∈ newEvents s u, ev.IsOnSent) → ¬Unguarded cfg channel (newEvents s u)) := by
  obtain ⟨old, ht, hold⟩ := hst
  obtain ⟨new, hu, hnew⟩ := htu
  rw [newEvents_of_append (show u.trace = (new ++ old) ++ s.trace by
    rw [hu, ht, List.append_assoc])]
  rcases hnew with ⟨hunguarded, hcalm⟩ | ⟨hescalated, hguarded⟩
  · constructor
    · rintro hsettled ⟨ev, hev, hon⟩ -
      rcases List.mem_append.mp hev with hev | hev
      · exact hsettled.forall_not_of_append hcalm ev hev hon
      · exact hold ev hev hon
    · intro h
      refine settled_of_forall_not fun ev hev hon ↦ ?_
      exact h ⟨ev, hev, hon⟩ (hunguarded.append old)
  · exact iff_of_true (hescalated.append old).settled fun _ ↦ hguarded old

/-- **When `close` fails safe.** For every network and every state of the driver: an exception
leaves `close` with no emergency shutdown after its `relay on` exactly if the last command ended
with a bare socket error, the last answer could not be read, or the settling delay was refused. -/
theorem failsSafe_iff (cfg : RelayConfig) (net : Net W) (channel : ℕ) (s : Matrix W) :
    FailsSafe cfg net channel s ↔ EndsGuarded cfg net channel s := by
  have hoff : ∀ {t : Matrix W}, OnFree s t →
      (Settled RelayEvent.IsOnSent RelayEvent.IsEmergency (newEvents s t) ↔
        ((∃ ev ∈ newEvents s t, ev.IsOnSent) → ¬Unguarded cfg channel (newEvents s t))) := by
    rintro t ⟨new, ht, hnew⟩
    rw [newEvents_of_append ht]
    refine iff_of_true (settled_of_forall_not hnew) ?_
    rintro ⟨ev, hev, hon⟩
    exact absurd hon (hnew ev hev)
  refine Post.congr ((post_bind _).mpr ?_)
  unfold closeImpl validateChannel
  split
  · next hchannel =>
    refine (post_bind _).mpr ((post_bind _).mpr ?_)
    refine (onFree_forceAllOffAndVerify cfg net s).mono (fun _ t hst ↦ ?_) fun _ _ h ↦ hoff h
    refine (post_energize cfg channel net hchannel t).mono (fun _ u hverified ↦ ?_)
      fun _ _ h ↦ h.settled_iff hst
    unfold settle
    split
    · next hrefused =>
      have hfails : Fails cfg channel t u :=
        hverified.fails fun r response older h ↦ .settle h hrefused
      exact hfails.settled_iff hst
    · exact iff_of_true trivial trivial
  · exact hoff (refl_of OnFree s)

end Close

instance : DecidablePred RelayEvent.IsOnSent
  | .sent cmd => inferInstanceAs (Decidable (encode "relay on " <+: cmd))
  | .sending _ | .answered _ _ | .call _ | .checked _ | .emergency _ | .loggedIn | .opened =>
    isFalse id

instance : DecidablePred RelayEvent.IsEmergency
  | .emergency _ => isTrue trivial
  | .sending _ | .sent _ | .answered _ _ | .call _ | .checked _ | .loggedIn | .opened => isFalse id

/-- A connected matrix that does as it is told, and whose answer to `relay read 0` is garbled. -/
def garbledRead : Matrix (List RecvResult) where
  sock := true
  connected := true
  lastKnownMask := none
  world := [.chunk (encode "relay readall\r\n00000000\r\n>"),
    .chunk (encode "relay writeall 00000000\r\n>"),
    .chunk (encode "relay readall\r\n00000000\r\n>"), .chunk (encode "relay on 0\r\n>"),
    .chunk (encode "relay read 0\r\n?\r\n>")]
  trace := []

/-- The exception leaves `close` while the relay is energized. -/
theorem not_failsSafe_garbledRead : ¬FailsSafe numatoConfig playbackNet 1 garbledRead := by
  have hrun : ((closeChannel numatoConfig playbackNet 1 garbledRead).thrown.map fun t ↦
      decide (Settled RelayEvent.IsOnSent RelayEvent.IsEmergency (newEvents garbledRead t)))
        = some false := by decide +kernel
  obtain ⟨e, t, hrun, hsettled⟩ := Outcome.exists_of_thrown hrun
  unfold FailsSafe
  rw [post_of_error hrun]
  exact of_decide_eq_false hsettled

end Nipxi
