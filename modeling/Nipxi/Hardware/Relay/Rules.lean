import Nipxi.Hardware.Relay.Driver

/-!
# Rules for driver code

How a fact about `_send_and_capture` and `connect` becomes one about the public calls. Two kinds
of facts travel this way: that a preorder between states is respected, however the code ends
(`Respects`), and what is known of the state and the response when a command is answered
(`post_callWithReconnect_of_answered`).

The commands are taken in two groups. Reads and the force-off are sent freely; a switch-on is
sent by `close` alone, so everything else is stated for the first group, and `close` separately.
-/

open Effect

namespace Nipxi

variable {W : Type}

/-- The commands the driver sends outside `write`: `relay readall`, the force-off, and
`relay read`. -/
inductive IsSafeCmd (cfg : RelayConfig) : Bytes → Prop
  | readAll : IsSafeCmd cfg readAllText
  | forceOff : IsSafeCmd cfg (writeAllText cfg.numChannels 0)
  | read (relayNumber : ℕ) : IsSafeCmd cfg (readText relayNumber)

/-- A command that switches a relay on. -/
def IsOn (cmd : Bytes) : Prop := encode "relay on " <+: cmd

/-- Sending either reaches the network or fails before it. -/
theorem post_sendRaw {cfg : RelayConfig} {net : Net W} {data : Bytes} {Q : Unit → Matrix W → Prop}
    {E : Exc → Matrix W → Prop} {s : Matrix W}
    (hsent : (net.sendall data s.world).1 = none →
      Q () { s with world := (net.sendall data s.world).2 })
    (hfailed : ∀ e, E e { s with world := (net.sendall data s.world).2 }) (hclosed : ∀ e, E e s) :
    Post (sendRaw cfg net data) Q E s := by
  refine (post_bind _).mpr (post_get.mpr (post_ite.mpr ?_))
  split
  · refine (post_bind _).mpr ((post_query _).mpr ?_)
    split
    · exact hfailed _
    · rename_i hnone
      exact hsent hnone
  · exact hclosed _

/-! ## Listening -/

/-- A preorder that waiting for an answer respects: the deadline, `recv`, and the Telnet replies
to what it brings, which begin with `IAC`. -/
structure Listens (net : Net W) (R : Matrix W → Matrix W → Prop) : Prop
    extends IsPreorder (Matrix W) R where
  polls : Within R (netCall net.polls)
  recv : Within R (netCall net.recv)
  replies : ∀ replies : Bytes, replies.head? = some 255 → Within R (netCall (net.sendall replies))

theorem handleIac_replies (chunk : Bytes) :
    (handleIac chunk).2 = [] ∨ (handleIac chunk).2.head? = some 255 := by
  have hloop : ∀ (mode : IacMode) (bytes : Bytes),
      (iacLoop mode bytes).2 = [] ∨ (iacLoop mode bytes).2.head? = some 255 := by
    intro mode bytes
    fun_induction iacLoop mode bytes <;> simp_all
  unfold handleIac
  split
  · exact hloop _ _
  · exact Or.inl rfl

namespace Listens

variable {net : Net W} {R : Matrix W → Matrix W → Prop}

theorem recvLoop (hR : Listens net R) (cfg : RelayConfig) (matchFn : Bytes → Option Bytes)
    (rounds : ℕ) (buf : Bytes) : Within R (recvLoop cfg net matchFn rounds buf) := by
  have := hR.toIsPreorder
  induction rounds generalizing buf with
  | zero => exact .raise _
  | succ rounds ih =>
    refine .bind hR.recv fun r ↦ ?_
    match r with
    | .timeout => exact ih buf
    | .osError e => exact .raise _
    | .chunk [] => exact .raise _
    | .chunk (b :: data) =>
      have hreplies : Within R (sendReplies net (handleIac (b :: data)).2) := by
        unfold sendReplies
        rcases handleIac_replies (b :: data) with h | h
        · rw [if_pos h]
          exact .pure _
        · exact .ite (.pure _) (.bind (hR.replies _ h) fun _ ↦ .pure _)
      refine .bind hreplies fun _ ↦ ?_
      dsimp only
      split
      · exact .pure _
      · exact ih _

theorem recvUntil (hR : Listens net R) (cfg : RelayConfig) (matchFn : Bytes → Option Bytes) :
    Within R (recvUntil cfg net matchFn) := by
  have := hR.toIsPreorder
  exact .bind hR.polls fun rounds ↦ hR.recvLoop cfg matchFn rounds []

theorem readUntil (hR : Listens net R) (cfg : RelayConfig) (marker : Bytes) :
    Within R (readUntil cfg net marker) := by
  have := hR.toIsPreorder
  exact .bind (.handle (hR.recvUntil cfg _) fun _ ↦ .ite (.raise _) (.raise _)) fun _ ↦ .pure _

theorem readUntilAny (hR : Listens net R) (cfg : RelayConfig) (candidates : List Bytes)
    (label : String) : Within R (readUntilAny cfg net candidates label) := by
  have := hR.toIsPreorder
  exact .handle (hR.recvUntil cfg _) fun _ ↦ .ite (.raise _) (.raise _)

theorem sendAndCapture (hR : Listens net R) (cfg : RelayConfig) {cmd : Bytes}
    (hnoteSent : Within R (noteSent cmd : RelayProg W Unit))
    (hnote : ∀ response, Within R (note (.answered cmd response) : RelayProg W Unit))
    (hsend : Within R (netCall (net.sendall (cmd ++ CRLF)))) :
    Within R (sendAndCapture cfg net cmd) := by
  have := hR.toIsPreorder
  have hraw : Within R (sendRaw cfg net (cmd ++ CRLF)) := by
    refine .bind .get fun m ↦ .ite (.bind hsend fun r ↦ ?_) (.raise _)
    cases r with
    | none => exact .pure _
    | some e => exact .raise _
  exact .bind hnoteSent fun _ ↦ .bind hraw fun _ ↦
    .bind (hR.readUntil cfg _) fun response ↦
      .ite (.raise _) (.bind (hnote response) fun _ ↦ .pure _)

end Listens

/-! ## Logging in -/

/-- A preorder that connecting respects, on a network whose connections take two lines for user
name and password before they take commands: `stage` is at most the number of such lines still to
come, and a line sent before they are through respects `R` whatever it says. -/
structure LogsIn (net : Net W) (stage : W → ℕ) (R : Matrix W → Matrix W → Prop) : Prop
    extends Listens net R where
  fields : ∀ s sock connected, R s { s with sock := sock, connected := connected }
  connect : ∀ s, R s { s with world := (net.connect s.world).2 }
  close : ∀ s, R s { s with world := net.close s.world }
  login : ∀ s data, stage s.world ≠ 0 → R s { s with world := (net.sendall data s.world).2 }
  stage_connect : ∀ w, 2 ≤ stage (net.connect w).2
  stage_polls : ∀ w, stage w ≤ stage (net.polls w).2
  stage_recv : ∀ w, stage w ≤ stage (net.recv w).2
  stage_replies : ∀ (replies : Bytes) w, replies.head? = some 255 →
    stage w ≤ stage (net.sendall replies w).2
  stage_sendall : ∀ data w, stage w - 1 ≤ stage (net.sendall data w).2

/-- `R`, and no login line is used up. -/
def Idles (stage : W → ℕ) (R : Matrix W → Matrix W → Prop) (s t : Matrix W) : Prop :=
  R s t ∧ stage s.world ≤ stage t.world

instance (stage : W → ℕ) (R : Matrix W → Matrix W → Prop) [IsPreorder (Matrix W) R] :
    IsPreorder (Matrix W) (Idles stage R) where
  refl s := ⟨refl_of R s, le_refl _⟩
  trans _ _ _ h h' := ⟨trans_of R h.1 h'.1, h.2.trans h'.2⟩

namespace LogsIn

variable {net : Net W} {stage : W → ℕ} {R : Matrix W → Matrix W → Prop}

theorem idles (hR : LogsIn net stage R) : Listens net (Idles stage R) := by
  have := hR.toIsPreorder
  exact {
    polls := fun s ↦ ⟨hR.polls s, hR.stage_polls s.world⟩
    recv := fun s ↦ ⟨hR.recv s, hR.stage_recv s.world⟩
    replies := fun replies h s ↦ ⟨hR.replies replies h s, hR.stage_replies replies s.world h⟩ }

/-- A line sent during the login uses up one of its lines. -/
theorem post_sendRaw (hR : LogsIn net stage R) (cfg : RelayConfig) (data : Bytes) {n : ℕ}
    {s t : Matrix W} (hst : R s t) (hn : n + 1 ≤ stage t.world) :
    Post (sendRaw cfg net data) (fun _ u ↦ R s u ∧ n ≤ stage u.world) (fun _ u ↦ R s u) t := by
  have := hR.toIsPreorder
  have hline : R s { t with world := (net.sendall data t.world).2 } :=
    trans_of R hst (hR.login t data (by omega))
  have hstage : n ≤ stage (net.sendall data t.world).2 := by
    have := hR.stage_sendall data t.world
    omega
  exact Nipxi.post_sendRaw (fun _ ↦ ⟨hline, hstage⟩) (fun _ ↦ hline) fun _ ↦ hst

theorem post_readUntilAny (hR : LogsIn net stage R) (cfg : RelayConfig)
    (candidates : List Bytes) (label : String) {n : ℕ} {s t : Matrix W} (hst : R s t)
    (hn : n ≤ stage t.world) :
    Post (readUntilAny cfg net candidates label) (fun _ u ↦ R s u ∧ n ≤ stage u.world)
      (fun _ u ↦ R s u) t := by
  have := hR.toIsPreorder
  exact (hR.idles.readUntilAny cfg candidates label t).mono
    (fun _ _ h ↦ ⟨trans_of R hst h.1, hn.trans h.2⟩) fun _ _ h ↦ trans_of R hst h.1

/-- The login sends its two lines while the connection takes two. -/
theorem post_login (hR : LogsIn net stage R) (cfg : RelayConfig) {s t : Matrix W} (hst : R s t)
    (h : 2 ≤ stage t.world) :
    Post (Nipxi.login cfg net) (fun _ u ↦ R s u) (fun _ u ↦ R s u) t := by
  refine (post_bind _).mpr ((hR.post_readUntilAny cfg _ _ hst h).mono ?_ fun _ _ h ↦ h)
  intro _ u hu
  refine (post_bind _).mpr ((hR.post_sendRaw cfg _ hu.1 hu.2).mono ?_ fun _ _ h ↦ h)
  intro _ u hu
  refine (post_bind _).mpr ((hR.post_readUntilAny cfg _ _ hu.1 hu.2).mono ?_ fun _ _ h ↦ h)
  intro _ u hu
  refine (post_bind _).mpr ((hR.post_sendRaw cfg _ hu.1 hu.2).mono ?_ fun _ _ h ↦ h)
  intro _ u hu
  refine (post_bind _).mpr ((hR.post_readUntilAny cfg _ _ hu.1 hu.2).mono ?_ fun _ _ h ↦ h)
  intro _ u hu
  exact post_ite.mpr (by split <;> exact hu.1)

theorem setConnected (hR : LogsIn net stage R) (connected : Bool) :
    Within R (setConnected connected : RelayProg W Unit) :=
  .modify fun s ↦ hR.fields s s.sock connected

theorem dropSock (hR : LogsIn net stage R) : Within R (dropSock net) := by
  have := hR.toIsPreorder
  have hclose : Within R (netCall fun w ↦ ((), net.close w)) := .query hR.close
  have hset : Within R (setSock false) := .modify fun s ↦ hR.fields s false s.connected
  exact .bind hclose fun _ ↦ hset

theorem discardSock (hR : LogsIn net stage R) : Within R (discardSock net) := by
  have := hR.toIsPreorder
  exact .bind .get fun _ ↦ .ite hR.dropSock (.pure _)

theorem disconnect (hR : LogsIn net stage R) : Within R (disconnect net) := by
  have := hR.toIsPreorder
  exact .bind hR.discardSock fun _ ↦ hR.setConnected false

/-- A new connection takes two login lines. -/
theorem post_openSock (hR : LogsIn net stage R) (cfg : RelayConfig) (s : Matrix W) :
    Post (openSock cfg net) (fun _ t ↦ R s t ∧ 2 ≤ stage t.world) (fun _ t ↦ R s t) s := by
  have := hR.toIsPreorder
  refine (hR.discardSock s).bind fun _ t hst ↦ ?_
  refine (post_bind _).mpr (((hR.setConnected false).after hst).mono ?_ fun _ _ h ↦ h)
  intro _ u hsu
  refine (post_bind _).mpr ((post_query _).mpr ?_)
  have hnew : R s { u with world := (net.connect u.world).2 } := trans_of R hsu (hR.connect u)
  split
  · exact hnew
  · exact hnew
  · exact hnew
  · exact ⟨trans_of R hnew (hR.fields _ true u.connected), hR.stage_connect u.world⟩

/-- Connecting respects what its parts respect. -/
theorem within_connect (hR : LogsIn net stage R) (cfg : RelayConfig)
    (hnote : Within R (note .loggedIn : RelayProg W Unit))
    (hread : Within R (Nipxi.sendAndCapture cfg net readAllText)) :
    Within R (Nipxi.connect cfg net) := by
  have := hR.toIsPreorder
  have hparse : ∀ response, Within R (parseReadallResponse response : RelayProg W ℕ) := by
    intro response
    unfold parseReadallResponse
    split
    · exact .pure _
    · exact .raise _
  have hverify : Within R (verifyConnection cfg net) :=
    .handle (.bind hread fun response ↦ .bind (hparse response) fun _ ↦ .pure _) fun _ ↦
      .bind (hR.setConnected false) fun _ ↦ .raise _
  have hdrop : ∀ e : Exc, Within R (do Nipxi.dropSock net; .raise e : RelayProg W Unit) :=
    fun e ↦ .bind hR.dropSock fun _ ↦ .raise e
  intro s
  refine (post_bind _).mpr ((hR.post_openSock cfg s).mono ?_ fun _ _ h ↦ h)
  rintro _ t ⟨hst, hstage⟩
  have hlogin : Post (loginOrDrop cfg net) (fun _ u ↦ R s u) (fun _ u ↦ R s u) t := by
    refine (post_handle _).mpr ((hR.post_login cfg hst hstage).mono (fun _ _ h ↦ h) ?_)
    intro e u hsu
    exact (Within.ite (hdrop _) (.ite (hdrop _) (.raise _))).after hsu
  refine hlogin.bind fun _ u hsu ↦ ?_
  exact (Within.bind hnote fun _ ↦ .bind (hR.setConnected true) fun _ ↦ hverify).after hsu

end LogsIn

/-! ## Waiting for an answer -/

section Waiting

variable {net : Net W} {A : Bytes → W → Prop}

theorem mem_of_contains_PROMPT {buf : Bytes} (h : contains PROMPT buf = true) : 62 ∈ buf :=
  (of_decide_eq_true h : PROMPT <:+: buf).subset List.mem_cons_self

/-- `A` relates what has been received so far to the world, and a `recv` that fails neither way
brings plain bytes that continue it. -/
def Continues (A : Bytes → W → Prop) (buf : Bytes) : RecvResult × W → Prop
  | (.timeout, w) => A buf w
  | (.osError _, _) => True
  | (.chunk data, w) => 255 ∉ data ∧ A (buf ++ data) w

/-- **The wait for the prompt.** By induction on the rounds left. -/
theorem post_recvLoop_of_continues (cfg : RelayConfig)
    (hrecv : ∀ buf w, A buf w → Continues A buf (net.recv w)) (rounds : ℕ) {buf : Bytes}
    {s : Matrix W} (h : A buf s.world) :
    Post (recvLoop cfg net (matchMarker PROMPT) rounds buf)
      (fun r t ↦ A r.2 t.world ∧ 62 ∈ r.2) (fun _ _ ↦ True) s := by
  induction rounds generalizing buf s with
  | zero => trivial
  | succ rounds ih =>
    have hnext := hrecv buf s.world h
    refine (post_bind _).mpr ((post_query _).mpr ?_)
    dsimp only
    cases hr : net.recv s.world with
    | mk r w =>
      rw [hr] at hnext
      cases r with
      | timeout => exact ih hnext
      | osError e => trivial
      | chunk data =>
        cases data with
        | nil => trivial
        | cons b data =>
          have hiac : handleIac (b :: data) = (b :: data, []) := if_neg hnext.1
          refine (post_bind _).mpr ?_
          rw [hiac, sendReplies, if_pos rfl]
          dsimp only [post_pure]
          split
          · rename_i found hmatch
            have hcontains : contains PROMPT (buf ++ b :: data) = true := by
              by_contra hno
              rw [matchMarker, if_neg hno] at hmatch
              cases hmatch
            exact ⟨hnext.2, mem_of_contains_PROMPT hcontains⟩
          · exact ih hnext.2

/-- What the sending of a command establishes and the wait keeps holds when it is answered. -/
theorem post_sendAndCapture_of_read (cfg : RelayConfig) {cmd : Bytes} {I : W → Prop}
    {Q : Bytes → W → Prop} {s : Matrix W}
    (hsent : (net.sendall (cmd ++ CRLF) s.world).1 = none →
      I (net.sendall (cmd ++ CRLF) s.world).2)
    (hread : ∀ u : Matrix W, I u.world → Post (readUntil cfg net PROMPT)
      (fun response t ↦ Q response t.world) (fun _ _ ↦ True) u) :
    Post (sendAndCapture cfg net cmd) (fun response t ↦ Q response t.world) (fun _ _ ↦ True) s := by
  have hraw : ∀ u : Matrix W, u.world = s.world →
      Post (sendRaw cfg net (cmd ++ CRLF)) (fun _ t ↦ I t.world) (fun _ _ ↦ True) u := by
    intro u hu
    refine post_sendRaw (fun hnone ↦ ?_) (fun _ ↦ trivial) fun _ ↦ trivial
    rw [hu] at hnone ⊢
    exact hsent hnone
  refine (post_bind _).mpr ((post_modify _).mpr ((post_bind _).mpr ?_))
  refine (hraw _ (by split <;> rfl)).mono (fun _ t ht ↦ ?_) fun _ _ h ↦ h
  refine (hread t ht).bind fun response u hu ↦ ?_
  exact post_ite.mpr (by split; exacts [trivial, hu])

/-- A command is answered by what continues its sending up to a prompt. -/
theorem post_sendAndCapture_of_continues (cfg : RelayConfig) {cmd : Bytes}
    (hpolls : ∀ buf w, A buf w → A buf (net.polls w).2)
    (hrecv : ∀ buf w, A buf w → Continues A buf (net.recv w)) {s : Matrix W}
    (hsent : (net.sendall (cmd ++ CRLF) s.world).1 = none →
      A [] (net.sendall (cmd ++ CRLF) s.world).2) :
    Post (sendAndCapture cfg net cmd) (fun response t ↦ A response t.world ∧ 62 ∈ response)
      (fun _ _ ↦ True) s := by
  refine post_sendAndCapture_of_read (Q := fun response w ↦ A response w ∧ 62 ∈ response) cfg hsent
    fun u hu ↦ ?_
  refine (post_bind _).mpr ((post_handle _).mpr ((post_bind _).mpr ((post_query _).mpr ?_)))
  refine (post_recvLoop_of_continues cfg hrecv _ (hpolls [] u.world hu)).mono
    (fun _ _ h ↦ h) fun e t _ ↦ ?_
  exact post_ite.mpr (by split <;> trivial)

/-- What the sending of a command establishes holds when it is answered, if listening keeps it. -/
theorem post_sendAndCapture_of_listens (cfg : RelayConfig) {cmd : Bytes} {I : W → Prop}
    (hI : Listens net (Kept fun m ↦ I m.world)) {s : Matrix W}
    (hsent : (net.sendall (cmd ++ CRLF) s.world).1 = none →
      I (net.sendall (cmd ++ CRLF) s.world).2) :
    Post (sendAndCapture cfg net cmd) (fun _ t ↦ I t.world) (fun _ _ ↦ True) s :=
  post_sendAndCapture_of_read (Q := fun _ w ↦ I w) cfg hsent fun u hu ↦
    (within_kept_iff.mp (hI.readUntil cfg PROMPT) u hu).mono (fun _ _ h ↦ h) fun _ _ _ ↦ trivial

end Waiting

/-! ## The trace only grows -/

/-- The final state's trace is the initial one with entries satisfying `P` in front. -/
def Grows (P : RelayEvent → Prop) (s t : Matrix W) : Prop :=
  ∃ new, t.trace = new ++ s.trace ∧ ∀ ev ∈ new, P ev

instance (P : RelayEvent → Prop) : IsPreorder (Matrix W) (Grows P) where
  refl _ := ⟨[], rfl, List.forall_mem_nil P⟩
  trans := by
    rintro r s t ⟨new, hs, hnew⟩ ⟨new', ht, hnew'⟩
    refine ⟨new' ++ new, by rw [ht, hs, List.append_assoc], fun ev hev ↦ ?_⟩
    rcases List.mem_append.mp hev with h | h
    · exact hnew' ev h
    · exact hnew ev h

section Growing

variable {P : RelayEvent → Prop}

theorem grows_note {ev : RelayEvent} (h : P ev) : Within (Grows P) (note ev : RelayProg W Unit) :=
  fun _ ↦ ⟨[ev], rfl, by simpa using h⟩

theorem grows_noteSent {cmd : Bytes} (h : P (.sent cmd)) :
    Within (Grows P) (noteSent cmd : RelayProg W Unit) := by
  refine .modify fun s ↦ ?_
  split
  · exact ⟨[.sent cmd], rfl, by simpa using h⟩
  · exact ⟨[], rfl, List.forall_mem_nil P⟩

theorem grows_netCall {α : Type} (f : W → α × W) : Within (Grows P) (netCall f) :=
  fun _ ↦ ⟨[], rfl, List.forall_mem_nil P⟩

theorem grows_modify {f : Matrix W → Matrix W} (h : ∀ m, (f m).trace = m.trace) :
    Within (Grows P) (Prog.modify f : RelayProg W Unit) :=
  fun s ↦ ⟨[], h s, List.forall_mem_nil P⟩

variable (cfg : RelayConfig) (net : Net W)

/-- No network call is an entry, so every line may count as a login line. -/
theorem logsIn_grows : LogsIn net (fun _ ↦ 2) (Grows P) where
  polls := grows_netCall _
  recv := grows_netCall _
  replies _ _ := grows_netCall _
  fields _ _ _ := ⟨[], rfl, List.forall_mem_nil P⟩
  connect _ := ⟨[], rfl, List.forall_mem_nil P⟩
  close _ := ⟨[], rfl, List.forall_mem_nil P⟩
  login _ _ _ := ⟨[], rfl, List.forall_mem_nil P⟩
  stage_connect _ := le_refl 2
  stage_polls _ := le_refl 2
  stage_recv _ := le_refl 2
  stage_replies _ _ _ := le_refl 2
  stage_sendall _ _ := Nat.sub_le 2 1

theorem grows_sendAndCapture {cmd : Bytes} (hsent : P (.sent cmd))
    (hanswered : ∀ response, P (.answered cmd response)) :
    Within (Grows P) (sendAndCapture cfg net cmd) :=
  (logsIn_grows net).sendAndCapture cfg (grows_noteSent hsent)
    (fun response ↦ grows_note (hanswered response)) (grows_netCall _)

theorem grows_parseReadallResponse (response : Bytes) :
    Within (Grows P) (parseReadallResponse response : RelayProg W ℕ) := by
  unfold parseReadallResponse
  split
  · exact .pure _
  · exact .raise _

theorem grows_connect (hlogin : P .loggedIn) (hsent : P (.sent readAllText))
    (hanswered : ∀ response, P (.answered readAllText response)) :
    Within (Grows P) (connect cfg net) :=
  (logsIn_grows net).within_connect cfg (grows_note hlogin)
    (grows_sendAndCapture cfg net hsent hanswered)

theorem grows_emergencyAllOff (hoff : P (.sent (writeAllText cfg.numChannels 0)))
    (hoffAnswered : ∀ response, P (.answered (writeAllText cfg.numChannels 0) response))
    (hsent : P (.sent readAllText)) (hanswered : ∀ response, P (.answered readAllText response))
    (hemergency : ∀ ok, P (.emergency ok)) : Within (Grows P) (emergencyAllOff cfg net) :=
  .bind
    (.attempt (.bind (grows_sendAndCapture cfg net hoff hoffAnswered) fun _ ↦
      .bind (grows_sendAndCapture cfg net hsent hanswered) fun response ↦
        grows_parseReadallResponse response))
    fun _ ↦ .bind (grows_note (hemergency _)) fun _ ↦ .pure _

theorem Grows.mono {P Q : RelayEvent → Prop} (hPQ : ∀ ev, P ev → Q ev) {s t : Matrix W}
    (h : Grows P s t) : Grows Q s t := by
  obtain ⟨new, ht, hnew⟩ := h
  exact ⟨new, ht, fun ev hev ↦ hPQ ev (hnew ev hev)⟩

end Growing

/-! ## Native commands and what is built from them -/

/-- An entry that is written outside `_send_and_capture` and outside `write`. -/
def RelayEvent.IsOuter (cfg : RelayConfig) : RelayEvent → Prop
  | .sending cmd => cmd = writeAllText cfg.numChannels 0
  | .sent _ | .answered _ _ => False
  | .call _ | .checked _ | .emergency _ | .loggedIn | .opened => True

/-- A preorder that the driver's bookkeeping, its connecting and its safe commands respect. -/
structure Respects (cfg : RelayConfig) (net : Net W) (R : Matrix W → Matrix W → Prop) : Prop
    extends IsPreorder (Matrix W) R where
  note : ∀ ev, ev.IsOuter cfg → Within R (note ev : RelayProg W Unit)
  setLastKnownMask : ∀ mask, Within R (setLastKnownMask mask : RelayProg W Unit)
  connect : Within R (connect cfg net)
  safe : ∀ cmd, IsSafeCmd cfg cmd → Within R (sendAndCapture cfg net cmd)

namespace Respects

variable {cfg : RelayConfig} {net : Net W} {R : Matrix W → Matrix W → Prop}

theorem parseReadallResponse (hR : Respects cfg net R) (response : Bytes) :
    Within R (parseReadallResponse response : RelayProg W ℕ) := by
  have := hR.toIsPreorder
  unfold Nipxi.parseReadallResponse
  split
  · exact .pure _
  · exact .raise _

theorem parseReadResponse (hR : Respects cfg net R) (response : Bytes) (relayNumber : ℕ) :
    Within R (parseReadResponse response relayNumber : RelayProg W Bool) := by
  have := hR.toIsPreorder
  unfold Nipxi.parseReadResponse
  split
  · exact .pure _
  · exact .raise _

theorem emergencyAllOff (hR : Respects cfg net R) : Within R (emergencyAllOff cfg net) := by
  have := hR.toIsPreorder
  have hread : Within R (do
      let response ← sendAndCapture cfg net readAllText
      Nipxi.parseReadallResponse response) :=
    .bind (hR.safe _ .readAll) fun response ↦ hR.parseReadallResponse response
  exact .bind (.attempt (.bind (hR.safe _ .forceOff) fun _ ↦ hread)) fun _ ↦
    .bind (hR.note _ trivial) fun _ ↦ .pure _

/-- A native command respects what its single try respects. -/
theorem callWithReconnect (hR : Respects cfg net R) {cmd : Bytes}
    (hcmd : Within R (sendAndCapture cfg net cmd)) : Within R (callWithReconnect cfg net cmd) := by
  have := hR.toIsPreorder
  have hgive : ∀ (record : CallRecord) (e : Exc),
      Within R (do Nipxi.note (.call record); .raise e : RelayProg W Bytes) :=
    fun record e ↦ .bind (hR.note _ trivial) fun _ ↦ .raise e
  have hreturn : ∀ (record : CallRecord) (response : Bytes),
      Within R (do Nipxi.note (.call record); pure response : RelayProg W Bytes) :=
    fun record response ↦ .bind (hR.note _ trivial) fun _ ↦ .pure response
  refine .bind (.attempt hcmd) fun first ↦ ?_
  cases first with
  | ok response => exact hreturn _ response
  | error e =>
    refine .ite (.bind (.attempt hR.connect) fun reconnect ↦ ?_) (hgive _ e)
    cases reconnect with
    | error e' => exact .bind hR.emergencyAllOff fun _ ↦ hgive _ _
    | ok _ =>
      refine .bind (.attempt hcmd) fun retry ↦ ?_
      cases retry with
      | ok response => exact hreturn _ response
      | error e' => exact .ite (.bind hR.emergencyAllOff fun _ ↦ hgive _ _) (hgive _ _)

theorem readAll (hR : Respects cfg net R) : Within R (readAll cfg net) := by
  have := hR.toIsPreorder
  exact .bind (hR.callWithReconnect (hR.safe _ .readAll)) fun response ↦
    .bind (hR.parseReadallResponse response) fun mask ↦
      .bind (hR.setLastKnownMask _) fun _ ↦ .pure mask

theorem forceOff (hR : Respects cfg net R) : Within R (writeAll cfg net 0) := by
  have := hR.toIsPreorder
  exact .bind (hR.note _ rfl) fun _ ↦
    .bind (hR.callWithReconnect (hR.safe _ .forceOff)) fun _ ↦ .pure _

theorem verificationError (hR : Respects cfg net R) {α : Type} (message : Bool → String) :
    Within R (do
      let ok ← Nipxi.emergencyAllOff cfg net
      (Prog.raise ⟨.relayStateVerificationError, message ok⟩ : RelayProg W α)) := by
  have := hR.toIsPreorder
  exact .bind hR.emergencyAllOff fun _ ↦ .raise _

theorem verifyAll (hR : Respects cfg net R) (expected : ℕ) :
    Within R (verifyAll cfg net expected) := by
  have := hR.toIsPreorder
  exact .bind hR.readAll fun _ ↦ .ite (.pure _) (hR.verificationError _)

theorem validateRelayNumber (hR : Respects cfg net R) (relayNumber : ℕ) :
    Within R (validateRelayNumber cfg relayNumber : RelayProg W Unit) := by
  have := hR.toIsPreorder
  exact .ite (.pure _) (.raise _)

theorem verifySingle (hR : Respects cfg net R) (relayNumber : ℕ) (expected : Bool) :
    Within R (verifySingle cfg net relayNumber expected) := by
  have := hR.toIsPreorder
  have hread : Within R (readRelay cfg net relayNumber) :=
    .bind (hR.validateRelayNumber relayNumber) fun _ ↦
      .bind (hR.callWithReconnect (hR.safe _ (.read relayNumber))) fun response ↦
        hR.parseReadResponse response relayNumber
  exact .bind hread fun _ ↦ .ite (.pure _) (hR.verificationError _)

theorem checkCurrentRelayState (hR : Respects cfg net R) :
    Within R (checkCurrentRelayState cfg net) := by
  have := hR.toIsPreorder
  refine .bind (.attempt hR.readAll) fun r ↦ ?_
  cases r with
  | ok mask => exact .bind (hR.note _ trivial) fun _ ↦ .pure _
  | error e => exact .bind (hR.setLastKnownMask _) fun _ ↦ .bind (hR.note _ trivial) fun _ ↦ .pure _

theorem forceAllOffAndVerify (hR : Respects cfg net R) :
    Within R (forceAllOffAndVerify cfg net) := by
  have := hR.toIsPreorder
  exact .bind hR.checkCurrentRelayState fun _ ↦ .bind hR.forceOff fun _ ↦ hR.verifyAll 0

theorem openAll (hR : Respects cfg net R) : Within R (openAll cfg net) := by
  have := hR.toIsPreorder
  exact .bind hR.forceAllOffAndVerify fun _ ↦ hR.note .opened trivial

theorem validateChannel (hR : Respects cfg net R) (channel : ℕ) :
    Within R (validateChannel cfg channel : RelayProg W Unit) := by
  have := hR.toIsPreorder
  exact .ite (.pure _) (.raise _)

theorem settle (hR : Respects cfg net R) : Within R (settle cfg : RelayProg W Unit) := by
  have := hR.toIsPreorder
  exact .ite (.raise _) (.pure _)

end Respects

/-- A trace that grows by allowed entries only is such a preorder. -/
theorem respects_grows {cfg : RelayConfig} (net : Net W) {P : RelayEvent → Prop}
    (houter : ∀ ev, ev.IsOuter cfg → P ev) (hsent : ∀ cmd, IsSafeCmd cfg cmd → P (.sent cmd))
    (hanswered : ∀ cmd response, P (.answered cmd response)) :
    Respects cfg net (Grows P) where
  note ev hev := grows_note (houter ev hev)
  setLastKnownMask _ := grows_modify fun _ ↦ rfl
  connect := grows_connect cfg net (houter .loggedIn trivial) (hsent _ .readAll) (hanswered _)
  safe cmd hcmd := grows_sendAndCapture cfg net (hsent cmd hcmd) (hanswered cmd)

section Answered

variable {cfg : RelayConfig} {net : Net W}

/-- **What an answer says survives the reconnect logic.** Let the command and the connect stay
within `R`. If from every state within reach a command that is answered leaves `Q`, and the record
of the call does not disturb `Q`, then the native command leaves `Q` when it returns. -/
theorem post_callWithReconnect_of_answered {R : Matrix W → Matrix W → Prop}
    [IsPreorder (Matrix W) R] {cmd : Bytes} {Q : Bytes → Matrix W → Prop} {s : Matrix W}
    (hsend : Within R (sendAndCapture cfg net cmd)) (hconnect : Within R (connect cfg net))
    (hQ : ∀ response m record, Q response m →
      Q response { m with trace := .call record :: m.trace })
    (h : ∀ u, R s u → Post (sendAndCapture cfg net cmd) Q (fun _ _ ↦ True) u) :
    Post (callWithReconnect cfg net cmd) Q (fun _ _ ↦ True) s := by
  refine (post_bind _).mpr (post_attempt.mpr (((h s (refl_of R s)).and (hsend s)).mono
    (fun _ _ hq ↦ hQ _ _ _ hq.1) ?_))
  rintro e t ⟨-, hst⟩
  dsimp only
  split
  · refine (post_bind _).mpr (post_attempt.mpr ((hconnect.after hst).mono ?_ fun _ u _ ↦ ?_))
    · intro _ u hsu
      refine (post_bind _).mpr (post_attempt.mpr ((h u hsu).mono (fun _ _ hq ↦ hQ _ _ _ hq) ?_))
      intro e' v _
      dsimp only
      split
      · exact (post_bind _).mpr (.of_forall (fun _ _ ↦ trivial) fun _ _ ↦ trivial)
      · trivial
    · exact (post_bind _).mpr (.of_forall (fun _ _ ↦ trivial) fun _ _ ↦ trivial)
  · trivial

theorem post_verifyAll_of_answered {R : Matrix W → Matrix W → Prop} [IsPreorder (Matrix W) R]
    {Q : Matrix W → Prop} {expected : ℕ} {s : Matrix W}
    (hsend : Within R (sendAndCapture cfg net readAllText))
    (hconnect : Within R (connect cfg net))
    (hQ : ∀ m record, Q m → Q { m with trace := .call record :: m.trace })
    (hmask : ∀ m mask, Q m → Q { m with lastKnownMask := mask })
    (h : ∀ u, R s u → Post (sendAndCapture cfg net readAllText)
      (fun response t ↦ parseReadall response = some expected → Q t) (fun _ _ ↦ True) u) :
    Post (verifyAll cfg net expected) (fun _ t ↦ Q t) (fun _ _ ↦ True) s := by
  have hread : Post (readAll cfg net) (fun mask t ↦ mask = expected → Q t) (fun _ _ ↦ True) s := by
    have hcall := post_callWithReconnect_of_answered hsend hconnect
      (fun _ m record hq hp ↦ hQ m record (hq hp)) h
    refine hcall.bind fun response t hq ↦ ?_
    refine (post_bind _).mpr ?_
    unfold parseReadallResponse
    split
    · rename_i mask hparse
      rintro rfl
      exact hmask _ _ (hq hparse)
    · trivial
  refine hread.bind fun mask t hq ↦ ?_
  split
  · rename_i hmask
    exact hq hmask
  · exact (post_bind _).mpr (.of_forall (fun _ _ ↦ trivial) fun _ _ ↦ trivial)

theorem post_verifySingle_of_read {R : Matrix W → Matrix W → Prop} [IsPreorder (Matrix W) R]
    {n : ℕ} {expected : Bool} (hsend : Within R (sendAndCapture cfg net (readText n)))
    (hconnect : Within R (connect cfg net))
    (hrecord : ∀ s m record, R s m → R s { m with trace := .call record :: m.trace })
    (s : Matrix W) :
    Post (verifySingle cfg net n expected) (fun _ t ↦ R s t) (fun _ _ ↦ True) s := by
  have hcall : Post (callWithReconnect cfg net (readText n)) (fun _ t ↦ R s t)
      (fun _ _ ↦ True) s :=
    post_callWithReconnect_of_answered hsend hconnect (fun _ m record h ↦ hrecord s m record h)
      fun u hsu ↦ (hsend.after hsu).mono (fun _ _ h ↦ h) fun _ _ _ ↦ trivial
  refine (post_bind _).mpr ((post_bind _).mpr (post_ite.mpr ?_))
  split
  · refine hcall.bind fun response u hu ↦ ?_
    unfold parseReadResponse
    split
    · refine post_ite.mpr ?_
      split
      · exact hu
      · exact (post_bind _).mpr (.of_forall (fun _ _ ↦ trivial) fun _ _ ↦ trivial)
    · trivial
  · trivial

end Answered

/-! ## The wrappers of the public calls -/

section Wrappers

variable (cfg : RelayConfig) {Q : Matrix W → Prop} {x : RelayProg W Unit} {s : Matrix W}

/-- What holds when the operation returns holds after the settling delay. -/
theorem post_then_settle (hx : Post x (fun _ t ↦ Q t) (fun _ _ ↦ True) s) :
    Post (do x; settle cfg) (fun _ t ↦ Q t) (fun _ _ ↦ True) s := by
  refine (post_bind _).mpr (hx.mono (fun _ t ht ↦ post_ite.mpr ?_) fun _ _ h ↦ h)
  split
  · trivial
  · exact ht

/-- A channel that is out of range ends in an exception. -/
theorem post_validateChannel_then {channel : ℕ}
    (hx : Post x (fun _ t ↦ Q t) (fun _ _ ↦ True) s) :
    Post (do validateChannel cfg channel; x) (fun _ t ↦ Q t) (fun _ _ ↦ True) s := by
  refine (post_bind _).mpr (post_ite.mpr ?_)
  split
  · exact hx
  · trivial

end Wrappers

end Nipxi
