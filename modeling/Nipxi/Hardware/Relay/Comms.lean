import Nipxi.Hardware.Relay.Rules

/-!
# Communication failures of the relay driver

What leaves a relay call when the network misbehaves, for every network. The driver promises that
a failing command is reconnected once and retried once, and that what still fails is a
`RelayError`, so that the Group → ALL policy treats it as a fault of the station.

Both halves have a gap. `_call_with_reconnect` catches `RelayError` and `NIPXITimeoutError`, but
`_recv_until` lets a socket error of `recv` pass as it is, so such a failure sees no reconnect;
and what the retry raises is raised again unchanged, so a timeout stays a timeout.
`keepsCommsPromise_iff` says that these are the only gaps.

## The argument

Every program of the driver only adds to the trace. The programs below `_call_with_reconnect` add
neither a call record nor a check mark (`Quiet`). A call record is written when its call ends, so
the records say how each call went; `Tidy` follows them through the sequence of native commands
that comes after the pre-action check: either every record so far is clean and the exception, if
there is one, is a `RelayError`, or the last record is the one that broke the promise.
-/

open Effect

namespace Nipxi

variable {W : Type}

/-! ## What the socket layer raises -/

/-- An exception of the socket layer: a `RelayError`, a timeout, or a bare socket error. -/
def Exc.IsSocket (e : Exc) : Prop :=
  e.cls = .relayError ∨ e.cls = .nipxiTimeoutError ∨ e.cls = .osError

theorem Exc.IsSocket.not_validationError {e : Exc} (h : e.IsSocket) : e.cls ≠ .validationError := by
  rcases h with h | h | h <;> simp [h]

section Raising

variable (cfg : RelayConfig) (net : Net W)

theorem isSocket_relayError (message : String) : (relayError message).IsSocket := Or.inl rfl

theorem raises_sendRaw (data : Bytes) : Raises Exc.IsSocket (sendRaw cfg net data) := by
  refine .bind .get fun m ↦ .ite (.bind (.query _) fun r ↦ ?_) (.raise (isSocket_relayError _))
  cases r with
  | none => exact .pure _
  | some e => exact .raise (isSocket_relayError _)

theorem raises_sendReplies (replies : Bytes) :
    Raises Exc.IsSocket (sendReplies net replies) :=
  .ite (.pure _) (.bind (.query _) fun _ ↦ .pure _)

theorem raises_recvLoop (matchFn : Bytes → Option Bytes) (rounds : ℕ) (buf : Bytes) :
    Raises Exc.IsSocket (recvLoop cfg net matchFn rounds buf) := by
  induction rounds generalizing buf with
  | zero => exact .raise (Or.inr (Or.inl rfl))
  | succ rounds ih =>
    refine .bind (.query _) fun r ↦ ?_
    match r with
    | .timeout => exact ih buf
    | .osError e => exact .raise (Or.inr (Or.inr rfl))
    | .chunk [] => exact .raise (isSocket_relayError _)
    | .chunk (b :: data) =>
      refine .bind (raises_sendReplies net _) fun _ ↦ ?_
      dsimp only
      split
      · exact .pure _
      · exact ih _

theorem raises_readUntil (marker : Bytes) : Raises Exc.IsSocket (readUntil cfg net marker) := by
  have hrecv : Raises Exc.IsSocket (recvUntil cfg net (matchMarker marker)) :=
    .bind (.query _) fun _ ↦ raises_recvLoop cfg net _ _ _
  exact .bind (.handle hrecv fun e he ↦ .ite (.raise (Or.inr (Or.inl rfl))) (.raise he))
    fun _ ↦ .pure _

theorem raises_sendAndCapture (cmd : Bytes) :
    Raises Exc.IsSocket (sendAndCapture cfg net cmd) :=
  .bind (.modify _) fun _ ↦
    .bind (raises_sendRaw cfg net _) fun _ ↦
      .bind (raises_readUntil cfg net _) fun _ ↦
        .ite (.raise (isSocket_relayError _)) (.bind (.modify _) fun _ ↦ .pure _)

theorem raises_emergencyAllOff (C : Exc → Prop) : Raises C (emergencyAllOff cfg net) :=
  .bind (.attempt _) fun _ ↦ .bind (.modify _) fun _ ↦ .pure _

end Raising

/-! ## Call records -/

/-- The record of a call entry. -/
def RelayEvent.record? : RelayEvent → Option CallRecord
  | .call r => some r
  | _ => none

/-- The mark `check_current_relay_state` leaves. -/
def RelayEvent.isCheck : RelayEvent → Bool
  | .checked _ => true
  | _ => false

/-- The records of a piece of trace. -/
def calls (evs : List RelayEvent) : List CallRecord := evs.filterMap RelayEvent.record?

/-- The entries after the last pre-action check. -/
def afterCheck (evs : List RelayEvent) : List RelayEvent := evs.takeWhile (!·.isCheck)

namespace CallRecord

/-- A failed first try was followed by a reconnect, and a reconnect that succeeded by a retry. -/
def Recovered (r : CallRecord) : Prop :=
  ∀ e, r.first = some e → ∃ outcome, r.reconnect = some outcome ∧ (outcome = none → r.retry ≠ none)

/-- The first try ended with an exception that is neither a `RelayError` nor a timeout, which
leaves a bare socket error. -/
def FirstRaw (r : CallRecord) : Prop := ∃ e, r.first = some e ∧ e.isComm = false

/-- If the retry failed, then with a `RelayError`. -/
def RetryWrapped (r : CallRecord) : Prop :=
  ∀ e, r.retry = some (some e) → e.isInstance [.relayError] = true

/-- The call kept the promise. -/
def Clean (r : CallRecord) : Prop := r.Recovered ∧ ¬r.FirstRaw ∧ r.RetryWrapped

/-- The call broke the promise and ended with `e`. -/
def Broken (r : CallRecord) (e : Exc) : Prop :=
  (¬r.Recovered ∧ r.FirstRaw) ∨
    (r.Recovered ∧ ¬r.FirstRaw ∧ ¬r.RetryWrapped ∧ e.isInstance [.relayError] = false ∧
      e.cls ≠ .validationError)

end CallRecord

/-- Entries of the layers below `_call_with_reconnect`. -/
def RelayEvent.IsInner (ev : RelayEvent) : Prop := ev.record? = none ∧ ev.isCheck = false

section Calls

variable (cfg : RelayConfig) (net : Net W)

theorem inner_sendAndCapture (cmd : Bytes) :
    Within (Grows RelayEvent.IsInner) (sendAndCapture cfg net cmd) :=
  grows_sendAndCapture cfg net ⟨rfl, rfl⟩ fun _ ↦ ⟨rfl, rfl⟩

theorem inner_connect : Within (Grows RelayEvent.IsInner) (connect cfg net) :=
  grows_connect cfg net ⟨rfl, rfl⟩ ⟨rfl, rfl⟩ fun _ ↦ ⟨rfl, rfl⟩

theorem inner_emergencyAllOff : Within (Grows RelayEvent.IsInner) (emergencyAllOff cfg net) :=
  grows_emergencyAllOff cfg net ⟨rfl, rfl⟩ (fun _ ↦ ⟨rfl, rfl⟩) ⟨rfl, rfl⟩ (fun _ ↦ ⟨rfl, rfl⟩)
    fun _ ↦ ⟨rfl, rfl⟩

/-- The final trace is the initial one, then inner entries, then one call record. -/
def Calls (R : CallRecord → Prop) (s t : Matrix W) : Prop :=
  ∃ new r, t.trace = .call r :: (new ++ s.trace) ∧ (∀ ev ∈ new, ev.IsInner) ∧ R r

theorem calls_of_grows {R : CallRecord → Prop} {s u : Matrix W} {r : CallRecord}
    (h : Grows RelayEvent.IsInner s u) (hr : R r) :
    Calls R s { u with trace := .call r :: u.trace } := by
  obtain ⟨new, hu, hnew⟩ := h
  exact ⟨new, r, by rw [hu], hnew, hr⟩

/-- **One native command.** It leaves one record. If it returns, the record is clean; if it
raises, either the record is clean and the exception a `RelayError`, or the record is broken. -/
theorem post_callWithReconnect (cmd : Bytes) (s : Matrix W) :
    Post (callWithReconnect cfg net cmd) (fun _ t ↦ Calls CallRecord.Clean s t)
      (fun e t ↦ Calls (fun r ↦ r.Clean ∧ e.isInstance [.relayError] = true ∨ r.Broken e) s t)
      s := by
  have hfirst := ((inner_sendAndCapture cfg net cmd) s).and (raises_sendAndCapture cfg net cmd s)
  refine (post_bind _).mpr (post_attempt.mpr (hfirst.mono ?_ ?_))
  · rintro response t ⟨hst, -⟩
    exact calls_of_grows hst ⟨nofun, nofun, nofun⟩
  rintro e t ⟨hst, he⟩
  dsimp only
  split
  -- an exception that is no communication error leaves without a reconnect
  case isFalse hcomm =>
    refine calls_of_grows hst (Or.inr (Or.inl ⟨fun h ↦ ?_, e, rfl, by simpa using hcomm⟩))
    obtain ⟨outcome, houtcome, -⟩ := h e rfl
    exact absurd houtcome nofun
  case isTrue hcomm =>
    have hraw : ∀ reconnect retry, ¬CallRecord.FirstRaw ⟨cmd, some e, reconnect, retry⟩ := by
      rintro reconnect retry ⟨e', he', hcomm'⟩
      obtain rfl := Option.some.inj he'
      rw [hcomm] at hcomm'
      exact absurd hcomm' nofun
    refine (post_bind _).mpr (post_attempt.mpr (((inner_connect cfg net).after hst).mono ?_ ?_))
    · intro _ u hsu
      have hretry := ((inner_sendAndCapture cfg net cmd).after hsu).and
        (raises_sendAndCapture cfg net cmd u)
      have hrec : ∀ retry, CallRecord.Recovered ⟨cmd, some e, some none, some retry⟩ :=
        fun retry e' he' ↦ ⟨none, rfl, fun _ ↦ nofun⟩
      refine (post_bind _).mpr (post_attempt.mpr (hretry.mono ?_ ?_))
      · rintro response v ⟨hsv, -⟩
        exact calls_of_grows hsv ⟨hrec _, hraw _ _, nofun⟩
      · rintro e' v ⟨hsv, he'⟩
        have hrecord : CallRecord.Clean ⟨cmd, some e, some none, some (some e')⟩ ∧
              e'.isInstance [.relayError] = true ∨
            CallRecord.Broken ⟨cmd, some e, some none, some (some e')⟩ e' := by
          cases hrel : e'.isInstance [.relayError] with
          | true =>
            refine Or.inl ⟨⟨hrec _, hraw _ _, fun e'' he'' ↦ ?_⟩, rfl⟩
            obtain rfl := Option.some.inj (Option.some.inj he'')
            exact hrel
          | false =>
            refine Or.inr (Or.inr ⟨hrec _, hraw _ _, fun h ↦ ?_, hrel, he'.not_validationError⟩)
            rw [h e' rfl] at hrel
            exact absurd hrel nofun
        dsimp only
        split
        · refine (post_bind _).mpr ((((inner_emergencyAllOff cfg net).after hsv).and
            (raises_emergencyAllOff cfg net (fun _ ↦ False) v)).mono ?_ ?_)
          · exact fun _ w hw ↦ calls_of_grows hw.1 hrecord
          · exact fun _ _ hw ↦ hw.2.elim
        · exact calls_of_grows hsv hrecord
    -- the reconnect failed: the call raises what `connect` raised, after the shutdown
    · intro e' u hsu
      refine (post_bind _).mpr ((((inner_emergencyAllOff cfg net).after hsu).and
        (raises_emergencyAllOff cfg net (fun _ ↦ False) u)).mono ?_ ?_)
      · intro _ w hw
        refine calls_of_grows hw.1 (Or.inl ⟨⟨fun e'' _ ↦ ⟨_, rfl, nofun⟩, hraw _ _, nofun⟩, rfl⟩)
      · exact fun _ _ hw ↦ hw.2.elim

end Calls

/-! ## Sequences of native commands -/

namespace CallRecord

/-- Whether a call recovered is decided by its first try. -/
def Lawful (r : CallRecord) : Prop := r.Recovered ↔ ¬r.FirstRaw

theorem Clean.lawful {r : CallRecord} (h : r.Clean) : r.Lawful := iff_of_true h.1 h.2.1

theorem Broken.lawful {r : CallRecord} {e : Exc} (h : r.Broken e) : r.Lawful := by
  rcases h with ⟨hrec, hraw⟩ | ⟨hrec, hraw, -⟩
  · exact iff_of_false hrec (not_not.mpr hraw)
  · exact iff_of_true hrec hraw

end CallRecord

/-- No check mark, and a clean record if it is one. -/
def RelayEvent.IsClean (ev : RelayEvent) : Prop :=
  ev.isCheck = false ∧ ∀ r, ev.record? = some r → r.Clean

theorem RelayEvent.IsInner.isClean {ev : RelayEvent} (h : ev.IsInner) : ev.IsClean :=
  ⟨h.2, fun r hr ↦ by rw [h.1] at hr; exact absurd hr nofun⟩

/-- An exception the promise allows: a `RelayError`, or one of the checks on the caller's
arguments, which are not about communication. -/
def Exc.IsWrapped (e : Exc) : Prop :=
  e.isInstance [.relayError] = true ∨ e.cls = .validationError

/-- The last entry is a record that broke the promise with `e`; those before it are clean. -/
def BrokenAt (e : Exc) (s t : Matrix W) : Prop :=
  ∃ new r, t.trace = .call r :: (new ++ s.trace) ∧ (∀ ev ∈ new, ev.IsClean) ∧ r.Broken e

/-- Only clean records, or a last record that explains the exception. -/
def Tidy {α : Type} (x : RelayProg W α) : Prop :=
  ∀ s, Post x (fun _ t ↦ Grows RelayEvent.IsClean s t)
    (fun e t ↦ Grows RelayEvent.IsClean s t ∧ e.IsWrapped ∨ BrokenAt e s t) s

theorem BrokenAt.of_grows {e : Exc} {s t u : Matrix W} (hst : Grows RelayEvent.IsClean s t)
    (h : BrokenAt e t u) : BrokenAt e s u := by
  obtain ⟨new, ht, hnew⟩ := hst
  obtain ⟨new', r, hu, hnew', hr⟩ := h
  refine ⟨new' ++ new, r, by rw [hu, ht, List.append_assoc], fun ev hev ↦ ?_, hr⟩
  exact (List.mem_append.mp hev).elim (hnew' ev) (hnew ev)

theorem Tidy.bind {α β : Type} {x : RelayProg W α} {f : α → RelayProg W β} (hx : Tidy x)
    (hf : ∀ a, Tidy (f a)) : Tidy (x >>= f) := fun s ↦ by
  refine (post_bind f).mpr ((hx s).mono (fun a t hst ↦ ?_) fun _ _ h ↦ h)
  refine (hf a t).mono (fun _ _ htu ↦ trans_of _ hst htu) fun e u h ↦ ?_
  rcases h with ⟨htu, he⟩ | h
  · exact Or.inl ⟨trans_of _ hst htu, he⟩
  · exact Or.inr (h.of_grows hst)

/-- Code below the call records, raising only what the promise allows, is tidy. -/
theorem Tidy.of_inner {α : Type} {x : RelayProg W α}
    (hx : Within (Grows RelayEvent.IsInner) x) (hr : Raises Exc.IsWrapped x) : Tidy x := fun s ↦
  ((hx s).and (hr s)).mono (fun _ _ h ↦ h.1.mono fun _ ↦ RelayEvent.IsInner.isClean)
    fun _ _ h ↦ Or.inl ⟨h.1.mono fun _ ↦ RelayEvent.IsInner.isClean, h.2⟩

theorem Tidy.pure {α : Type} (a : α) : Tidy (Pure.pure a : RelayProg W α) :=
  .of_inner (.pure a) (.pure a)

theorem Tidy.ite {α : Type} {c : Prop} [Decidable c] {x y : RelayProg W α} (hx : Tidy x)
    (hy : Tidy y) : Tidy (if c then x else y) := by
  split
  · exact hx
  · exact hy

section Sequences

variable (cfg : RelayConfig) (net : Net W)

theorem tidy_callWithReconnect (cmd : Bytes) : Tidy (callWithReconnect cfg net cmd) := fun s ↦ by
  refine (post_callWithReconnect cfg net cmd s).mono (fun _ t h ↦ ?_) fun e t h ↦ ?_
  · obtain ⟨new, r, ht, hnew, hr⟩ := h
    refine ⟨.call r :: new, ht, fun ev hev ↦ ?_⟩
    rcases List.mem_cons.mp hev with rfl | hev
    · exact ⟨rfl, fun r' hr' ↦ Option.some.inj hr' ▸ hr⟩
    · exact (hnew ev hev).isClean
  · obtain ⟨new, r, ht, hnew, ⟨hr, he⟩ | hr⟩ := h
    · refine Or.inl ⟨⟨.call r :: new, ht, fun ev hev ↦ ?_⟩, Or.inl he⟩
      rcases List.mem_cons.mp hev with rfl | hev
      · exact ⟨rfl, fun r' hr' ↦ Option.some.inj hr' ▸ hr⟩
      · exact (hnew ev hev).isClean
    · exact Or.inr ⟨new, r, ht, fun ev hev ↦ (hnew ev hev).isClean, hr⟩

theorem tidy_emergencyAllOff : Tidy (emergencyAllOff cfg net) :=
  .of_inner (inner_emergencyAllOff cfg net) (raises_emergencyAllOff cfg net _)

theorem tidy_note {ev : RelayEvent} (h : ev.IsInner) : Tidy (note ev : RelayProg W Unit) :=
  .of_inner (grows_note h) (.modify _)

theorem tidy_raise {α : Type} {e : Exc} (h : e.IsWrapped) :
    Tidy (Prog.raise e : RelayProg W α) := .of_inner (.raise e) (.raise h)

theorem isWrapped_relayError (message : String) : (relayError message).IsWrapped :=
  Or.inl (Exc.isInstance_relayError_iff.mpr (Or.inl rfl))

theorem tidy_parseReadallResponse (response : Bytes) :
    Tidy (parseReadallResponse response : RelayProg W ℕ) := by
  unfold parseReadallResponse
  split
  · exact .pure _
  · exact tidy_raise (isWrapped_relayError _)

theorem tidy_parseReadResponse (response : Bytes) (relayNumber : ℕ) :
    Tidy (parseReadResponse response relayNumber : RelayProg W Bool) := by
  unfold parseReadResponse
  split
  · exact .pure _
  · exact tidy_raise (isWrapped_relayError _)

theorem tidy_writeAll (mask : ℕ) : Tidy (writeAll cfg net mask) :=
  .bind (tidy_note ⟨rfl, rfl⟩) fun _ ↦ .bind (tidy_callWithReconnect cfg net _) fun _ ↦ .pure _

theorem tidy_readAll : Tidy (readAll cfg net) :=
  .bind (tidy_callWithReconnect cfg net _) fun response ↦
    .bind (tidy_parseReadallResponse response) fun _ ↦
      .bind (.of_inner (grows_modify fun _ ↦ rfl) (.modify _)) fun _ ↦ .pure _

theorem tidy_validateRelayNumber (relayNumber : ℕ) :
    Tidy (validateRelayNumber cfg relayNumber : RelayProg W Unit) :=
  .ite (.pure _) (tidy_raise (Or.inr rfl))

theorem tidy_write (relayNumber : ℕ) (state : Bool) : Tidy (write cfg net relayNumber state) :=
  .bind (tidy_validateRelayNumber cfg relayNumber) fun _ ↦
    .bind (tidy_note ⟨rfl, rfl⟩) fun _ ↦ .bind (tidy_callWithReconnect cfg net _) fun _ ↦ .pure _

theorem tidy_readRelay (relayNumber : ℕ) : Tidy (readRelay cfg net relayNumber) :=
  .bind (tidy_validateRelayNumber cfg relayNumber) fun _ ↦
    .bind (tidy_callWithReconnect cfg net _) fun response ↦
      tidy_parseReadResponse response relayNumber

theorem tidy_verificationError {α : Type} (message : Bool → String) :
    Tidy (do
      let ok ← emergencyAllOff cfg net
      (Prog.raise ⟨.relayStateVerificationError, message ok⟩ : RelayProg W α)) :=
  .bind (tidy_emergencyAllOff cfg net) fun _ ↦
    tidy_raise (Or.inl (Exc.isInstance_relayError_iff.mpr (Or.inr rfl)))

theorem tidy_verifySingle (relayNumber : ℕ) (expected : Bool) :
    Tidy (verifySingle cfg net relayNumber expected) :=
  .bind (tidy_readRelay cfg net relayNumber) fun _ ↦
    .ite (.pure _) (tidy_verificationError cfg net _)

theorem tidy_verifyAll (expected : ℕ) : Tidy (verifyAll cfg net expected) :=
  .bind (tidy_readAll cfg net) fun _ ↦ .ite (.pure _) (tidy_verificationError cfg net _)

end Sequences

/-! ## The public calls -/

/-- What happened between two states. -/
def newEvents (s t : Matrix W) : List RelayEvent :=
  t.trace.take (t.trace.length - s.trace.length)

theorem newEvents_of_append {s t : Matrix W} {new : List RelayEvent}
    (h : t.trace = new ++ s.trace) : newEvents s t = new := by
  rw [newEvents, h, List.length_append, Nat.add_sub_cancel, List.take_left']
  rfl

theorem calls_append (evs evs' : List RelayEvent) :
    calls (evs ++ evs') = calls evs ++ calls evs' := List.filterMap_append

/-- A call's trace up to and including the check mark: whatever happened there, every record is
lawful. -/
def CheckedFrom (s t : Matrix W) : Prop :=
  ∃ mask before, t.trace = .checked mask :: (before ++ s.trace) ∧ ∀ r ∈ calls before, r.Lawful

theorem clean_of_mem_calls {evs : List RelayEvent} (h : ∀ ev ∈ evs, ev.IsClean) {r : CallRecord}
    (hr : r ∈ calls evs) : r.Clean := by
  obtain ⟨ev, hev, hrec⟩ := List.mem_filterMap.mp hr
  exact (h ev hev).2 r hrec

theorem post_checkCurrentRelayState (cfg : RelayConfig) (net : Net W) (s : Matrix W) :
    Post (checkCurrentRelayState cfg net) (fun _ t ↦ CheckedFrom s t) (fun _ _ ↦ False) s := by
  have hchecked : ∀ (mask : Option ℕ) (t : Matrix W) (new : List RelayEvent),
      t.trace = new ++ s.trace → (∀ r ∈ calls new, r.Lawful) →
        CheckedFrom s { t with trace := .checked mask :: t.trace } :=
    fun mask t new ht hr ↦ ⟨mask, new, congrArg _ ht, hr⟩
  refine (post_bind _).mpr (post_attempt.mpr ((tidy_readAll cfg net s).mono ?_ ?_))
  · rintro mask t ⟨new, ht, hnew⟩
    exact hchecked mask t new ht fun r hr ↦ (clean_of_mem_calls hnew hr).lawful
  · rintro e t (⟨⟨new, ht, hnew⟩, -⟩ | ⟨new, r, ht, hnew, hr⟩)
    · exact hchecked none { t with lastKnownMask := none } new ht
        fun r hr ↦ (clean_of_mem_calls hnew hr).lawful
    · refine hchecked none { t with lastKnownMask := none } (.call r :: new) ht fun r' hr' ↦ ?_
      rcases List.mem_cons.mp hr' with rfl | hr'
      · exact hr.lawful
      · exact (clean_of_mem_calls hnew hr').lawful

/-- After the pre-action check, only clean records. -/
def Finished (s t : Matrix W) : Prop := ∃ u, CheckedFrom s u ∧ Grows RelayEvent.IsClean u t

/-- After the pre-action check, clean records and a last one that broke the promise with `e`. -/
def FinishedBroken (e : Exc) (s t : Matrix W) : Prop := ∃ u, CheckedFrom s u ∧ BrokenAt e u t

/-- The shape of a public call: the pre-action check, then tidy code. -/
def StartsChecked {α : Type} (x : RelayProg W α) : Prop :=
  ∀ s, Post x (fun _ t ↦ Finished s t)
    (fun e t ↦ Finished s t ∧ e.IsWrapped ∨ FinishedBroken e s t) s

theorem StartsChecked.bind {α β : Type} {x : RelayProg W α} {f : α → RelayProg W β}
    (hx : StartsChecked x) (hf : ∀ a, Tidy (f a)) : StartsChecked (x >>= f) := fun s ↦ by
  refine (post_bind f).mpr ((hx s).mono (fun a t hst ↦ ?_) fun _ _ h ↦ h)
  obtain ⟨u, hsu, hut⟩ := hst
  refine (hf a t).mono (fun _ _ htv ↦ ⟨u, hsu, trans_of _ hut htv⟩) fun e v h ↦ ?_
  rcases h with ⟨htv, he⟩ | h
  · exact Or.inl ⟨⟨u, hsu, trans_of _ hut htv⟩, he⟩
  · exact Or.inr ⟨u, hsu, h.of_grows hut⟩

section PublicCalls

variable (cfg : RelayConfig) (net : Net W)

theorem startsChecked_checkCurrentRelayState :
    StartsChecked (checkCurrentRelayState cfg net) := fun s ↦
  (post_checkCurrentRelayState cfg net s).mono (fun _ t h ↦ ⟨t, h, refl_of _ t⟩)
    fun _ _ h ↦ h.elim

theorem startsChecked_forceAllOffAndVerify : StartsChecked (forceAllOffAndVerify cfg net) :=
  (startsChecked_checkCurrentRelayState cfg net).bind fun _ ↦
    .bind (tidy_writeAll cfg net 0) fun _ ↦ tidy_verifyAll cfg net 0

/-- A call that only validates and then runs a checked body either touches nothing or has its
shape. -/
private theorem post_validated {channel : ℕ} {x : RelayProg W Unit} (hx : StartsChecked x)
    (s : Matrix W) :
    Post (do validateChannel cfg channel; x) (fun _ t ↦ Finished s t)
      (fun e t ↦ t = s ∧ e.cls = .validationError ∨
        (Finished s t ∧ e.IsWrapped ∨ FinishedBroken e s t)) s := by
  refine (post_bind _).mpr ?_
  unfold validateChannel
  split
  · exact (hx s).mono (fun _ _ h ↦ h) fun _ _ h ↦ Or.inr h
  · exact Or.inl ⟨rfl, rfl⟩

/-- **One public call.** Either its channel is refused and nothing happens, or it runs the
pre-action check and then tidy code. -/
theorem post_run (op : RelayOp) (s : Matrix W) :
    Post (op.run cfg net) (fun _ t ↦ Finished s t)
      (fun e t ↦ t = s ∧ e.cls = .validationError ∨
        (Finished s t ∧ e.IsWrapped ∨ FinishedBroken e s t)) s := by
  have hforce := startsChecked_forceAllOffAndVerify cfg net
  have hsettle : ∀ {x : RelayProg W Unit} {s : Matrix W},
      Post x (fun _ t ↦ Finished s t) (fun e t ↦ t = s ∧ e.cls = .validationError ∨
        (Finished s t ∧ e.IsWrapped ∨ FinishedBroken e s t)) s →
      Post (do x; settle cfg) (fun _ t ↦ Finished s t)
        (fun e t ↦ t = s ∧ e.cls = .validationError ∨
          (Finished s t ∧ e.IsWrapped ∨ FinishedBroken e s t)) s := by
    intro x s h
    refine h.bind fun _ t ht ↦ ?_
    unfold settle
    split
    · exact Or.inr (Or.inl ⟨ht, Or.inr rfl⟩)
    · exact ht
  cases op with
  | openChannel channel => exact hsettle (post_validated cfg hforce s)
  | closeChannel channel =>
    refine hsettle (post_validated cfg (hforce.bind fun _ ↦ ?_) s)
    exact .bind (tidy_write cfg net _ _) fun _ ↦
      .bind (tidy_verifySingle cfg net _ _) fun _ ↦ tidy_verifyAll cfg net _
  | openAll =>
    exact ((hforce.bind fun _ ↦ tidy_note ⟨rfl, rfl⟩) s).mono (fun _ _ h ↦ h) fun _ _ h ↦ Or.inr h

/-! ## The promise and its gaps -/

/-- What is promised of a public call: every command whose first try failed was reconnected and,
the reconnect having succeeded, retried; and an exception that leaves the call is a `RelayError`,
classified as a fault of the station, unless it is one of the checks on the channel or the settle
time. -/
def KeepsCommsPromise (op : RelayOp) (s : Matrix W) : Prop :=
  Post (op.run cfg net) (fun _ t ↦ ∀ r ∈ calls (newEvents s t), r.Recovered)
    (fun e t ↦ (∀ r ∈ calls (newEvents s t), r.Recovered) ∧
      (e.cls ≠ .validationError →
        e.isInstance [.relayError] = true ∧ classifyPositionException e = .stationFault)) s

/-- What the sockets did during a public call: no first try ended with a bare socket error, and
after the pre-action check no retry ended with anything but a `RelayError`. -/
def SocketsBehave (op : RelayOp) (s : Matrix W) : Prop :=
  Post (op.run cfg net)
    (fun _ t ↦ (∀ r ∈ calls (newEvents s t), ¬r.FirstRaw) ∧
      ∀ r ∈ calls (afterCheck (newEvents s t)), r.RetryWrapped)
    (fun _ t ↦ (∀ r ∈ calls (newEvents s t), ¬r.FirstRaw) ∧
      ∀ r ∈ calls (afterCheck (newEvents s t)), r.RetryWrapped) s

end PublicCalls

private theorem Finished.conditions {s t : Matrix W} (h : Finished s t) :
    ((∀ r ∈ calls (newEvents s t), r.Recovered) ↔ ∀ r ∈ calls (newEvents s t), ¬r.FirstRaw) ∧
      ∀ r ∈ calls (afterCheck (newEvents s t)), r.RetryWrapped := by
  obtain ⟨u, ⟨mask, before, hu, hbefore⟩, after, ht, hafter⟩ := h
  have hnew : newEvents s t = after ++ .checked mask :: before :=
    newEvents_of_append (by rw [ht, hu, List.append_assoc, List.cons_append])
  have hlast : afterCheck (newEvents s t) = after := by
    rw [hnew, afterCheck, List.takeWhile_append_of_pos fun ev hev ↦ by simp [(hafter ev hev).1]]
    simp [RelayEvent.isCheck]
  have hlawful : ∀ r ∈ calls (newEvents s t), r.Lawful := by
    intro r hr
    rw [hnew, calls_append] at hr
    rcases List.mem_append.mp hr with hr | hr
    · exact (clean_of_mem_calls hafter hr).lawful
    · exact hbefore r hr
  refine ⟨forall₂_congr fun r hr ↦ hlawful r hr, fun r hr ↦ ?_⟩
  rw [hlast] at hr
  exact (clean_of_mem_calls hafter hr).2.2

/-- A call that ended broken keeps neither the promise nor the conditions. -/
private theorem FinishedBroken.conditions {s t : Matrix W} {e : Exc} (h : FinishedBroken e s t) :
    ¬((∀ r ∈ calls (newEvents s t), r.Recovered) ∧
        (e.cls ≠ .validationError →
          e.isInstance [.relayError] = true ∧ classifyPositionException e = .stationFault)) ∧
      ¬((∀ r ∈ calls (newEvents s t), ¬r.FirstRaw) ∧
        ∀ r ∈ calls (afterCheck (newEvents s t)), r.RetryWrapped) := by
  obtain ⟨u, ⟨mask, before, hu, -⟩, after, r, ht, hafter, hr⟩ := h
  have hnew : newEvents s t = (.call r :: after) ++ .checked mask :: before :=
    newEvents_of_append (by simp [ht, hu])
  have hmem : r ∈ calls (newEvents s t) := by
    rw [hnew]
    exact List.mem_cons_self
  have hlast : r ∈ calls (afterCheck (newEvents s t)) := by
    rw [hnew, afterCheck, List.cons_append, List.takeWhile_cons_of_pos rfl]
    exact List.mem_cons_self
  rcases hr with ⟨hrec, hraw⟩ | ⟨-, -, hretry, hrel, hval⟩
  · exact ⟨fun h ↦ hrec (h.1 r hmem), fun h ↦ h.1 r hmem hraw⟩
  · refine ⟨fun h ↦ ?_, fun h ↦ hretry (h.2 r hlast)⟩
    rw [(h.2 hval).1] at hrel
    exact absurd hrel nofun

/-- **Where the communication promise holds.** For every network, every state of the driver and
every public call, the promise is kept exactly when no command's first try ended with a bare
socket error and no retry after the pre-action check ended with anything but a `RelayError`. -/
theorem keepsCommsPromise_iff (cfg : RelayConfig) (net : Net W) (op : RelayOp) (s : Matrix W) :
    KeepsCommsPromise cfg net op s ↔ SocketsBehave cfg net op s := by
  refine Post.congr ((post_run cfg net op s).mono (fun _ t h ↦ ?_) fun e t h ↦ ?_)
  · exact ⟨fun hrec ↦ ⟨h.conditions.1.mp hrec, h.conditions.2⟩,
      fun hraw ↦ h.conditions.1.mpr hraw.1⟩
  rcases h with ⟨rfl, he⟩ | ⟨h, he⟩ | h
  · have hnil : newEvents t t = [] := newEvents_of_append (List.nil_append _).symm
    rw [hnil]
    exact iff_of_true ⟨List.forall_mem_nil _, fun hne ↦ absurd he hne⟩
      ⟨List.forall_mem_nil _, List.forall_mem_nil _⟩
  · refine ⟨fun hrec ↦ ⟨h.conditions.1.mp hrec.1, h.conditions.2⟩,
      fun hraw ↦ ⟨h.conditions.1.mpr hraw.1, fun hval ↦ ?_⟩⟩
    have hrel := he.resolve_right hval
    exact ⟨hrel, classifyPositionException_of_relayError hrel⟩
  · exact iff_of_false h.conditions.1 h.conditions.2

/-- A network that plays back what each `recv` brings, one per deadline, and then only times out;
everything else succeeds. -/
def playbackNet : Net (List RecvResult) where
  connect w := (.connected, w)
  close w := w
  sendall _ w := (none, w)
  polls w := (1, w)
  recv w := match w with
    | [] => (.timeout, [])
    | r :: rest => (r, rest)

/-- A connected matrix whose force-off goes unanswered; the reconnect succeeds, and the retry
goes unanswered too. -/
def silentAfterReconnect : Matrix (List RecvResult) where
  sock := true
  connected := true
  lastKnownMask := none
  world := [.chunk (encode "relay readall\r\n00000000\r\n>"), .timeout,
    .chunk (encode "User Name: "), .chunk (encode "Password: "), .chunk (encode ">"),
    .chunk (encode "relay readall\r\n00000000\r\n>"), .timeout]
  trace := []

/-- The timeout of the retry leaves `open_all` as it is, and fails only the position. -/
theorem not_keepsCommsPromise_silentAfterReconnect :
    ¬KeepsCommsPromise numatoConfig playbackNet .openAll silentAfterReconnect ∧
      Post (RelayOp.openAll.run numatoConfig playbackNet) (fun _ _ ↦ False)
        (fun e _ ↦ classifyPositionException e = .fail) silentAfterReconnect := by
  have hrun : ∃ message t, RelayOp.openAll.run numatoConfig playbackNet silentAfterReconnect
      = .error ⟨.nipxiTimeoutError, message⟩ t := ⟨_, _, rfl⟩
  obtain ⟨message, t, hrun⟩ := hrun
  refine ⟨fun h ↦ ?_, ?_⟩
  · rw [KeepsCommsPromise, post_of_error hrun] at h
    have hrel := (h.2 nofun).1
    rw [Exc.isInstance_relayError_iff] at hrel
    exact absurd hrel (by simp)
  · rw [post_of_error hrun]
    exact (classifyPositionException_eq_fail_iff _).mpr (by simp)

end Nipxi
