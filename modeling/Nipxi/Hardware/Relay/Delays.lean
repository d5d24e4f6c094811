import Nipxi.Hardware.Relay.Device
import Nipxi.Hardware.Relay.Rules
import Nipxi.Transition.System

/-!
# Replies that come late

The driver against a module that executes the commands of each connection in order and replies to
each of them, but as late as it likes. Replies carry no tag, so on a connection that still owes a
reply the next command is answered by the reply to an earlier one; and the echo of the force-off
reads as an empty bank. A verification can then pass without the module having executed it
(`not_verified_lateReply`).

A command is *in sync* when its connection has taken its login and owes no reply. A call all of
whose commands were in sync is verified by what the module executed last
(`verified_of_inSync`). The reconnect after a timeout keeps a call in sync, because it begins a
new connection; what does not is to go on using the old one, as the emergency shutdown after a
failed retry or a failed reconnect does.

## The argument

`Heard P` says that the module's records grew, by lines satisfying `P` only. The reply to a
command in sync can only be its own (`post_sendAndCapture_inSync`), so the module has executed it
by the time it is answered. A force-off or switch-on that was answered has thus been executed
(`Forced`); between it and the verifying `relay readall` only reads are sent, and that one, being
answered, has been executed after it.
-/

open Effect Transition

namespace Nipxi

/-! ## The module and its connections -/

/-- A line that has arrived. -/
structure Received where
  line : Bytes
  /-- Whether its connection had taken its login and owed no reply. -/
  synced : Bool

/-- A command the module has executed: the number of its line among those received, and the bank
after it. -/
structure Executed where
  id : ℕ
  line : Bytes
  bank : ℕ
  deriving DecidableEq

/-- A command waiting to be executed. -/
structure Queued where
  id : ℕ
  line : Bytes

/-- What the module replies to a line, given the bank after it. -/
structure Reply where
  text : Bytes → ℕ → Bytes
  plain : ∀ line bank, 255 ∉ text line bank
  faithful : ∀ bank mask, parseReadall (text (readAllText ++ CRLF) bank) = some mask → mask = bank

/-- What happens at one call into the network, whichever it is. -/
structure DelayChoice where
  connect : ConnectResult
  sendError : Option String
  /-- Whether a line whose sending fails arrives all the same. -/
  arrives : Bool
  /-- The connections whose next command is executed now, in this order: the current one, or one
  that has been closed. -/
  work : List (Option ℕ)
  reply : Reply
  polls : ℕ
  delivery : Delivery
  /-- What arrives before the first command of a connection. -/
  chatter : RecvResult

/-- The module, the connections to it, and everything that will happen. -/
structure DelayWorld where
  relays : ℕ
  bank : ℕ
  /-- How many lines the connection still takes for user name and password. -/
  stage : ℕ
  /-- The commands of the connection that have not been executed. -/
  queue : List Queued
  /-- The replies that have not been read. -/
  inbox : Bytes
  /-- Whether the connection has been sent a command. -/
  busy : Bool
  /-- What closed connections have left to execute. -/
  closed : List (List Queued)
  /-- Every line that arrived, newest first. -/
  received : List Received
  /-- Every command executed, newest first. -/
  log : List Executed
  script : ℕ → DelayChoice
  clock : ℕ

namespace DelayWorld

def choice (w : DelayWorld) : DelayChoice := w.script w.clock

def tick (w : DelayWorld) : DelayWorld := { w with clock := w.clock + 1 }

/-- A command is executed. A line that is none changes nothing. -/
def run (w : DelayWorld) (q : Queued) : DelayWorld :=
  let bank := match decode q.line with
    | some cmd => execute w.relays w.bank cmd
    | none => w.bank
  { w with bank := bank, log := ⟨q.id, q.line, bank⟩ :: w.log }

/-- The next command of a connection is executed. Only the current one still hears the reply. -/
def workOn (reply : Reply) (w : DelayWorld) : Option ℕ → DelayWorld
  | none =>
    match w.queue with
    | [] => w
    | q :: rest =>
      { w.run q with queue := rest, inbox := w.inbox ++ reply.text q.line (w.run q).bank }
  | some i =>
    match w.closed[i]? with
    | some (q :: rest) => { w.run q with closed := w.closed.set i rest }
    | _ => w

/-- The module works for a while. -/
def work (w : DelayWorld) : DelayWorld := (w.choice.work.foldl (workOn w.choice.reply) w).tick

/-- A line arrives, for the login or as a command. -/
def receive (w : DelayWorld) (line : Bytes) : DelayWorld :=
  if w.stage ≠ 0 then
    { w with stage := w.stage - 1, received := ⟨line, false⟩ :: w.received }
  else
    { w with
      queue := w.queue ++ [⟨w.received.length, line⟩]
      received := ⟨line, w.queue.isEmpty && w.inbox.isEmpty⟩ :: w.received
      busy := true }

/-- The connection ends, or a new one begins. -/
def hangUp (w : DelayWorld) : DelayWorld :=
  { w with stage := 2, queue := [], inbox := [], busy := false, closed := w.queue :: w.closed }

/-- What a `recv` brings of the replies. -/
def deliver (w : DelayWorld) (d : Delivery) : RecvResult × DelayWorld :=
  ((d.take w.inbox).1, { w with inbox := (d.take w.inbox).2 })

end DelayWorld

/-- The network between the driver and the module. Telnet replies, which begin with `IAC`, are
not lines. -/
def delayNet : Net DelayWorld where
  connect w := (w.choice.connect, w.hangUp.tick)
  close w := w.hangUp.tick
  sendall data w :=
    if data.head? = some 255 ∨ w.choice.sendError.isSome ∧ ¬w.choice.arrives then
      (w.choice.sendError, w.tick)
    else (w.choice.sendError, (w.receive data).work)
  polls w := (w.choice.polls, w.tick)
  recv w := if w.busy then w.work.deliver w.choice.delivery else (w.choice.chatter, w.work)

/-! ## What the module has on record -/

/-- What one piece of work preserves, a while of work preserves. -/
theorem DelayWorld.work_induction {I : DelayWorld → Prop} {w : DelayWorld} (h : I w)
    (hstep : ∀ v reply connection, I v → I (v.workOn reply connection))
    (htick : ∀ v, I v → I v.tick) : I w.work := by
  unfold DelayWorld.work
  apply htick
  generalize w.choice.work = connections
  generalize w.choice.reply = reply
  induction connections generalizing w with
  | nil => exact h
  | cons connection connections ih => exact ih (hstep w reply connection h)

theorem DelayWorld.received_workOn (w : DelayWorld) (reply : Reply) (connection : Option ℕ) :
    (w.workOn reply connection).received = w.received ∧
      (w.workOn reply connection).stage = w.stage := by
  unfold DelayWorld.workOn
  split
  · split <;> exact ⟨rfl, rfl⟩
  · split <;> exact ⟨rfl, rfl⟩

theorem DelayWorld.log_workOn (w : DelayWorld) (reply : Reply) (connection : Option ℕ) :
    w.log <:+ (w.workOn reply connection).log := by
  unfold DelayWorld.workOn
  split
  · split
    · exact List.suffix_refl _
    · exact List.suffix_cons _ _
  · split
    · exact List.suffix_cons _ _
    · exact List.suffix_refl _

theorem DelayWorld.received_work (w : DelayWorld) :
    w.work.received = w.received ∧ w.work.stage = w.stage :=
  DelayWorld.work_induction (I := fun v ↦ v.received = w.received ∧ v.stage = w.stage) ⟨rfl, rfl⟩
    (fun v reply connection h ↦ ⟨(v.received_workOn reply connection).1.trans h.1,
      (v.received_workOn reply connection).2.trans h.2⟩) fun _ h ↦ h

theorem DelayWorld.log_work (w : DelayWorld) : w.log <:+ w.work.log :=
  DelayWorld.work_induction (I := fun v ↦ w.log <:+ v.log) (List.suffix_refl _)
    (fun v reply connection h ↦ h.trans (v.log_workOn reply connection)) fun _ h ↦ h

/-- The records grew, by lines satisfying `P` only. -/
def Heard (P : Received → Prop) (s t : Matrix DelayWorld) : Prop :=
  s.world.log <:+ t.world.log ∧
    ∃ new, t.world.received = new ++ s.world.received ∧ ∀ r ∈ new, P r

instance (P : Received → Prop) : IsPreorder (Matrix DelayWorld) (Heard P) where
  refl _ := ⟨List.suffix_refl _, [], rfl, List.forall_mem_nil P⟩
  trans := by
    rintro r s t ⟨hlog, new, hs, hnew⟩ ⟨hlog', new', ht, hnew'⟩
    refine ⟨hlog.trans hlog', new' ++ new, by rw [ht, hs, List.append_assoc], fun x hx ↦ ?_⟩
    exact (List.mem_append.mp hx).elim (hnew' x) (hnew x)

theorem received_receive (w : DelayWorld) (line : Bytes) :
    ∃ synced, (w.receive line).received = ⟨line, synced⟩ :: w.received ∧
      (w.receive line).log = w.log ∧ w.stage - 1 ≤ (w.receive line).stage ∧
        (w.stage ≠ 0 → synced = false) := by
  unfold DelayWorld.receive
  split
  · exact ⟨_, rfl, rfl, le_refl _, fun _ ↦ rfl⟩
  · rename_i hstage
    exact ⟨_, rfl, rfl, Nat.sub_le _ _, fun h ↦ absurd h hstage⟩

theorem delayNet_replies (w : DelayWorld) {replies : Bytes} (h : replies.head? = some 255) :
    (delayNet.sendall replies w).2 = w.tick := by
  unfold delayNet
  exact congrArg Prod.snd (if_pos (Or.inl h))

section Heard

variable {P : Received → Prop} (cfg : RelayConfig)

theorem heard_of_eq {s t : Matrix DelayWorld} (hlog : s.world.log <:+ t.world.log)
    (h : t.world.received = s.world.received) : Heard P s t :=
  ⟨hlog, [], h, List.forall_mem_nil P⟩

theorem heard_sendall (s : Matrix DelayWorld) {data : Bytes}
    (h : ∀ synced, (s.world.stage ≠ 0 → synced = false) → P ⟨data, synced⟩) :
    Heard P s { s with world := (delayNet.sendall data s.world).2 } := by
  obtain ⟨synced, hreceived, hlog, -, hsynced⟩ := received_receive s.world data
  unfold delayNet
  dsimp only
  split
  · exact heard_of_eq (List.suffix_refl _) rfl
  · refine ⟨hlog ▸ (s.world.receive data).log_work, [⟨data, synced⟩], ?_, ?_⟩
    · exact (s.world.receive data).received_work.1.trans hreceived
    · exact List.forall_mem_singleton.mpr (h synced hsynced)

theorem stage_delayNet_sendall (w : DelayWorld) (data : Bytes) :
    w.stage - 1 ≤ (delayNet.sendall data w).2.stage := by
  obtain ⟨synced, -, -, hstage, -⟩ := received_receive w data
  unfold delayNet
  dsimp only
  split
  · exact Nat.sub_le _ _
  · exact hstage.trans (w.receive data).received_work.2.ge

theorem delayNet_recv (w : DelayWorld) :
    (delayNet.recv w).2.received = w.received ∧ (delayNet.recv w).2.stage = w.stage ∧
      w.log <:+ (delayNet.recv w).2.log := by
  unfold delayNet
  dsimp only
  split <;> exact ⟨w.received_work.1, w.received_work.2, w.log_work⟩

/-- Connecting is heard as login lines only, which are never in sync. -/
theorem logsIn_heard (hP : ∀ line, P ⟨line, false⟩) :
    LogsIn delayNet DelayWorld.stage (Heard P) where
  polls _ := heard_of_eq (List.suffix_refl _) rfl
  recv s := heard_of_eq (delayNet_recv s.world).2.2 (delayNet_recv s.world).1
  replies replies hiac s := by
    change Heard P s { s with world := (delayNet.sendall replies s.world).2 }
    rw [delayNet_replies s.world hiac]
    exact heard_of_eq (List.suffix_refl _) rfl
  fields _ _ _ := heard_of_eq (List.suffix_refl _) rfl
  connect _ := heard_of_eq (List.suffix_refl _) rfl
  close _ := heard_of_eq (List.suffix_refl _) rfl
  login s data hstage := heard_sendall s fun synced hsynced ↦ by
    rw [hsynced hstage]
    exact hP data
  stage_connect _ := le_refl 2
  stage_polls _ := le_refl _
  stage_recv w := (delayNet_recv w).2.1.ge
  stage_replies replies w hiac := by
    rw [delayNet_replies w hiac]
    exact le_refl w.stage
  stage_sendall data w := stage_delayNet_sendall w data

theorem heard_modify {f : Matrix DelayWorld → Matrix DelayWorld}
    (h : ∀ m, (f m).world = m.world) :
    Within (Heard P) (Prog.modify f : RelayProg DelayWorld Unit) :=
  .modify fun s ↦ heard_of_eq (by rw [h s]) (by rw [h s])

theorem heard_sendAndCapture (hP : ∀ line, P ⟨line, false⟩) {cmd : Bytes}
    (hcmd : P ⟨cmd ++ CRLF, true⟩) : Within (Heard P) (sendAndCapture cfg delayNet cmd) := by
  have hline : ∀ synced, P ⟨cmd ++ CRLF, synced⟩ := fun synced ↦ by
    cases synced with
    | true => exact hcmd
    | false => exact hP _
  refine (logsIn_heard hP).sendAndCapture cfg ?_ (fun _ ↦ heard_modify fun _ ↦ rfl) ?_
  · refine heard_modify fun m ↦ ?_
    split <;> rfl
  · exact fun s ↦ heard_sendall s fun synced _ ↦ hline synced

end Heard

/-! ## Calls in sync -/

/-- A line that is a native command. -/
def IsNative (line : Bytes) : Prop := encode "relay " <+: line

/-- A native command that is no read: a force-off or a switch. -/
def IsChange (line : Bytes) : Prop := IsNative line ∧ ¬encode "relay read" <+: line

/-- Every native command that arrived from `s` to `t` was in sync. -/
def InSync (s t : Matrix DelayWorld) : Prop :=
  ∃ new, t.world.received = new ++ s.world.received ∧ ∀ r ∈ new, IsNative r.line → r.synced = true

theorem InSync.synced {s t : Matrix DelayWorld} (h : InSync s t) {line : Bytes} {synced : Bool}
    (ht : t.world.received = ⟨line, synced⟩ :: s.world.received) (hline : IsNative line) :
    synced = true := by
  obtain ⟨new, hnew, hsync⟩ := h
  rw [ht, ← List.singleton_append] at hnew
  obtain rfl := List.append_cancel_right hnew
  exact hsync _ List.mem_cons_self hline

/-- A line that was not in sync, or changes nothing. -/
def Received.IsRead (r : Received) : Prop := r.synced = true → ¬IsChange r.line

theorem InSync.split {P Q : Received → Prop} {s u t : Matrix DelayWorld} (h : InSync s t)
    (hsu : Heard P s u) (hut : Heard Q u t) : InSync s u ∧ InSync u t := by
  obtain ⟨new, hnew, hsync⟩ := h
  obtain ⟨-, new', hu, -⟩ := hsu
  obtain ⟨-, new'', ht, -⟩ := hut
  rw [ht, hu, ← List.append_assoc] at hnew
  obtain rfl := List.append_cancel_right hnew
  exact ⟨⟨new', hu, fun r hr ↦ hsync r (List.mem_append_right new'' hr)⟩,
    ⟨new'', ht, fun r hr ↦ hsync r (List.mem_append_left new' hr)⟩⟩

/-- The command received as number `id` has been executed since the log was `old`, and if it is
the readall, what has come says nothing but the bank it found. -/
def Reported (id : ℕ) (line : Bytes) (old : List Executed) (buf : Bytes) (w : DelayWorld) : Prop :=
  ∃ e ran, w.log = ran ++ old ∧ e ∈ ran ∧ e.id = id ∧ e.line = line ∧
    (line = readAllText ++ CRLF → ∀ mask, parseReadall buf = some mask → mask = e.bank)

/-- A command was sent in sync: either it is waiting and nothing has come, or what has come and
what is there to be read make up its reply. -/
def AwaitingReply (id : ℕ) (line : Bytes) (old : List Executed) (buf : Bytes) (w : DelayWorld) :
    Prop :=
  w.busy = true ∧ 255 ∉ w.inbox ∧
    ((w.queue = [⟨id, line⟩] ∧ w.inbox = [] ∧ buf = [] ∧ old <:+ w.log) ∨
      (w.queue = [] ∧ Reported id line old (buf ++ w.inbox) w))

section AwaitingReply

variable {id : ℕ} {line : Bytes} {old : List Executed} {buf : Bytes} {w : DelayWorld}

theorem Reported.of_suffix {v : DelayWorld} (h : Reported id line old buf w)
    (hlog : w.log <:+ v.log) : Reported id line old buf v := by
  obtain ⟨e, ran, hran, he, hid⟩ := h
  obtain ⟨more, hmore⟩ := hlog
  exact ⟨e, more ++ ran, by rw [← hmore, hran, List.append_assoc], List.mem_append_right more he,
    hid⟩

/-- Work on a closed connection is not heard on the current one. -/
theorem workOn_closed (w : DelayWorld) (reply : Reply) (i : ℕ) :
    (w.workOn reply (some i)).busy = w.busy ∧ (w.workOn reply (some i)).queue = w.queue ∧
      (w.workOn reply (some i)).inbox = w.inbox := by
  unfold DelayWorld.workOn
  dsimp only
  split <;> exact ⟨rfl, rfl, rfl⟩

namespace AwaitingReply

theorem workOn (h : AwaitingReply id line old buf w) (reply : Reply) (connection : Option ℕ) :
    AwaitingReply id line old buf (w.workOn reply connection) := by
  obtain ⟨hbusy, hplain, hstate⟩ := h
  cases connection with
  | some i =>
    obtain ⟨hbusy', hqueue', hinbox'⟩ := workOn_closed w reply i
    have hlog := w.log_workOn reply (some i)
    refine ⟨hbusy'.trans hbusy, hinbox'.symm ▸ hplain, ?_⟩
    rw [hqueue', hinbox']
    exact hstate.imp (fun h ↦ ⟨h.1, h.2.1, h.2.2.1, h.2.2.2.trans hlog⟩)
      fun h ↦ ⟨h.1, h.2.of_suffix hlog⟩
  | none =>
    rcases hstate with ⟨hqueue, hinbox, rfl, ran, hran⟩ | ⟨hqueue, hreport⟩
    · have hrun : w.workOn reply none = { w.run ⟨id, line⟩ with
          queue := [], inbox := w.inbox ++ reply.text line (w.run ⟨id, line⟩).bank } := by
        unfold DelayWorld.workOn
        rw [hqueue]
      rw [hrun, hinbox]
      refine ⟨hbusy, reply.plain _ _, .inr ⟨rfl, ?_⟩⟩
      refine ⟨⟨id, line, (w.run ⟨id, line⟩).bank⟩, _ :: ran, congrArg _ hran.symm,
        List.mem_cons_self, rfl, rfl, ?_⟩
      rintro rfl mask hmask
      exact reply.faithful _ mask hmask
    · have hsame : w.workOn reply none = w := by
        unfold DelayWorld.workOn
        rw [hqueue]
      rw [hsame]
      exact ⟨hbusy, hplain, .inr ⟨hqueue, hreport⟩⟩

theorem work (h : AwaitingReply id line old buf w) : AwaitingReply id line old buf w.work :=
  DelayWorld.work_induction h (fun _ reply connection hv ↦ hv.workOn reply connection)
    fun _ hv ↦ hv

theorem recv (h : AwaitingReply id line old buf w) :
    Continues (AwaitingReply id line old) buf (delayNet.recv w) := by
  have hrecv : delayNet.recv w = w.work.deliver w.choice.delivery := if_pos h.1
  rw [hrecv, DelayWorld.deliver]
  have hwork := h.work
  rcases w.choice.delivery.take_cases w.work.inbox with hd | ⟨e, hd⟩ | ⟨data, rest, hd, hinbox⟩
  · rw [hd]
    exact hwork
  · rw [hd]
    trivial
  rw [hd]
  obtain ⟨hbusy, hplain, ⟨hqueue, hempty, rfl, hold⟩ | ⟨hqueue, hreport⟩⟩ := hwork
  · rw [hempty] at hinbox
    obtain ⟨rfl, rfl⟩ := List.append_eq_nil_iff.mp hinbox
    exact ⟨List.not_mem_nil, hbusy, List.not_mem_nil, .inl ⟨hqueue, rfl, rfl, hold⟩⟩
  · rw [← hinbox] at hplain hreport
    refine ⟨fun h ↦ hplain (List.mem_append_left rest h), hbusy,
      fun h ↦ hplain (List.mem_append_right data h), .inr ⟨hqueue, ?_⟩⟩
    rw [List.append_assoc]
    exact hreport

/-- Once the prompt has come, the command has been executed. -/
theorem reported (h : AwaitingReply id line old buf w) (hprompt : 62 ∈ buf) :
    Reported id line old buf w := by
  obtain ⟨-, -, ⟨-, -, rfl, -⟩ | ⟨-, e, ran, hran, he, hid, hline, hmask⟩⟩ := h
  · exact absurd hprompt List.not_mem_nil
  · refine ⟨e, ran, hran, he, hid, hline, fun hread mask hbuf ↦ hmask hread mask ?_⟩
    rw [parseReadall_append hprompt, hbuf]

end AwaitingReply

theorem awaitingReply_receive (w : DelayWorld) (line : Bytes)
    (h : (w.receive line).received = ⟨line, true⟩ :: w.received) :
    AwaitingReply w.received.length line w.log [] (w.receive line) := by
  unfold DelayWorld.receive at h ⊢
  split at h
  · exact absurd (Received.mk.inj (List.cons.inj h).1).2 nofun
  · rename_i hstage
    have hidle : (w.queue.isEmpty && w.inbox.isEmpty) = true :=
      (Received.mk.inj (List.cons.inj h).1).2
    obtain ⟨hqueue, hinbox⟩ := Bool.and_eq_true_iff.mp hidle
    have hqueue := List.isEmpty_iff.mp hqueue
    have hinbox := List.isEmpty_iff.mp hinbox
    rw [if_neg hstage]
    refine ⟨rfl, ?_, .inl ⟨?_, hinbox, rfl, List.suffix_refl _⟩⟩
    · change 255 ∉ w.inbox
      rw [hinbox]
      exact List.not_mem_nil
    · change w.queue ++ [⟨w.received.length, line⟩] = _
      rw [hqueue, List.nil_append]

/-- **A reply in sync is the command's own.** When a command is answered, its line is the last
that arrived; and if it was in sync, the module has executed it. -/
theorem post_sendAndCapture_inSync (cfg : RelayConfig) (cmd : Bytes)
    (hcmd : (cmd ++ CRLF).head? ≠ some 255) (s : Matrix DelayWorld) :
    Post (sendAndCapture cfg delayNet cmd)
      (fun response t ↦ ∃ synced, t.world.received = ⟨cmd ++ CRLF, synced⟩ :: s.world.received ∧
        (synced = true →
          Reported s.world.received.length (cmd ++ CRLF) s.world.log response t.world))
      (fun _ _ ↦ True) s := by
  have harrives : (delayNet.sendall (cmd ++ CRLF) s.world).1 = none →
      (delayNet.sendall (cmd ++ CRLF) s.world).2 = (s.world.receive (cmd ++ CRLF)).work := by
    intro hnone
    have herror : s.world.choice.sendError = none := by
      unfold delayNet at hnone
      dsimp only at hnone
      split at hnone <;> exact hnone
    unfold delayNet
    refine congrArg Prod.snd (if_neg ?_)
    rintro (h | ⟨h, -⟩)
    · exact hcmd h
    · rw [herror] at h
      exact absurd h nofun
  obtain ⟨synced, hreceived, -⟩ := received_receive s.world (cmd ++ CRLF)
  have hlast : Post (sendAndCapture cfg delayNet cmd)
      (fun _ t ↦ t.world.received = ⟨cmd ++ CRLF, synced⟩ :: s.world.received)
      (fun _ _ ↦ True) s := by
    refine post_sendAndCapture_of_listens
      (I := fun w : DelayWorld ↦ w.received = ⟨cmd ++ CRLF, synced⟩ :: s.world.received) cfg ?_ ?_
    · refine { polls := ?_, recv := ?_, replies := ?_ }
      · exact within_kept_iff.mpr fun _ h ↦ h
      · exact within_kept_iff.mpr fun u h ↦ (delayNet_recv u.world).1.trans h
      · refine fun replies hiac ↦ within_kept_iff.mpr fun u h ↦ ?_
        change (delayNet.sendall replies u.world).2.received = _
        rw [delayNet_replies u.world hiac]
        exact h
    · intro hnone
      rw [harrives hnone]
      exact (s.world.receive (cmd ++ CRLF)).received_work.1.trans hreceived
  cases synced with
  | false => exact hlast.mono (fun _ _ h ↦ ⟨false, h, nofun⟩) fun _ _ h ↦ h
  | true =>
    have hreply := post_sendAndCapture_of_continues cfg
      (A := AwaitingReply s.world.received.length (cmd ++ CRLF) s.world.log) (s := s)
      (fun _ _ h ↦ h) (fun _ _ h ↦ h.recv) fun hnone ↦ by
        rw [harrives hnone]
        exact (awaitingReply_receive s.world (cmd ++ CRLF) hreceived).work
    exact (hlast.and hreply).mono (fun _ _ h ↦ ⟨true, h.1, fun _ ↦ h.2.1.reported h.2.2⟩)
      fun _ _ h ↦ h.1

end AwaitingReply

/-! ## Verified calls -/

/-- The last change that arrived did so since `s`, after the lines `older`. -/
def LastChange (s : Matrix DelayWorld) (older : List Received) (t : Matrix DelayWorld) : Prop :=
  ∃ newer r, t.world.received = newer ++ r :: older ∧ IsChange r.line ∧
    (∀ x ∈ newer, ¬IsChange x.line) ∧ s.world.received.length ≤ older.length

/-- The last change that arrived did so since `s`, and the module has executed it. -/
def Forced (s t : Matrix DelayWorld) : Prop :=
  ∃ older, LastChange s older t ∧ ∃ e ∈ t.world.log, e.id = older.length

/-- The last change that arrived did so since `s`, the module has executed it, and after it a
`relay readall` that found the bank to be `expected`. -/
def Verified (s : Matrix DelayWorld) (expected : ℕ) (t : Matrix DelayWorld) : Prop :=
  ∃ older, LastChange s older t ∧ ∃ after e before, t.world.log = after ++ e :: before ∧
    e.line = readAllText ++ CRLF ∧ e.bank = expected ∧ ∃ x ∈ before, x.id = older.length

theorem LastChange.of_heard {s u t : Matrix DelayWorld} {older : List Received}
    (h : LastChange s older u) (hut : Heard Received.IsRead u t) (hsync : InSync u t) :
    LastChange s older t := by
  obtain ⟨newer, r, hreceived, hchange, hnewer, hlen⟩ := h
  obtain ⟨-, new, hnew, hread⟩ := hut
  obtain ⟨new', hnew', hsynced⟩ := hsync
  rw [hnew] at hnew'
  obtain rfl := List.append_cancel_right hnew'
  refine ⟨new ++ newer, r, ?_, hchange, fun x hx ↦ ?_, hlen⟩
  · rw [hnew, hreceived, List.append_assoc]
  · rcases List.mem_append.mp hx with hx | hx
    · exact fun hx' ↦ hread x hx (hsynced x hx hx'.1) hx'
    · exact hnewer x hx

theorem Forced.of_heard {s u t : Matrix DelayWorld} (h : Forced s u)
    (hut : Heard Received.IsRead u t) (hsync : InSync u t) : Forced s t := by
  obtain ⟨older, hlast, e, he, hid⟩ := h
  exact ⟨older, hlast.of_heard hut hsync, e, hut.1.subset he, hid⟩

/-- A readall that is answered after the last change has been executed verifies. -/
theorem Forced.verified {s u v t : Matrix DelayWorld} (h : Forced s u)
    (huv : Heard Received.IsRead u v) (hut : Heard Received.IsRead u t) (hsync : InSync u t)
    {id expected : ℕ} {response : Bytes}
    (hreport : Reported id (readAllText ++ CRLF) v.world.log response t.world)
    (hmask : parseReadall response = some expected) : Verified s expected t := by
  obtain ⟨older, hlast, x, hx, hid⟩ := h
  obtain ⟨e, ran, hran, he, -, hline, hbank⟩ := hreport
  obtain ⟨after, before, rfl⟩ := List.append_of_mem he
  refine ⟨older, hlast.of_heard hut hsync, after, e, before ++ v.world.log, ?_, hline,
    (hbank rfl expected hmask).symm, x, List.mem_append_right before (huv.1.subset hx), hid⟩
  rw [hran, List.append_assoc, List.cons_append]

/-- A change in sync that is answered has been executed. -/
theorem forced_of_reported {s u t : Matrix DelayWorld} {line old response : _}
    (hsu : s.world.received.length ≤ u.world.received.length)
    (ht : t.world.received = ⟨line, true⟩ :: u.world.received) (hline : IsChange line)
    (hreport : Reported u.world.received.length line old response t.world) : Forced s t := by
  obtain ⟨e, ran, hran, he, hid, -⟩ := hreport
  refine ⟨u.world.received, ⟨[], _, ht, hline, nofun, hsu⟩, e, ?_, hid⟩
  rw [hran]
  exact List.mem_append_left old he

section Calls

variable (cfg : RelayConfig)

theorem Heard.length_le {P : Received → Prop} {s t : Matrix DelayWorld} (h : Heard P s t) :
    s.world.received.length ≤ t.world.received.length := by
  obtain ⟨-, new, hnew, -⟩ := h
  rw [hnew, List.length_append]
  exact Nat.le_add_left _ _

theorem Heard.weaken {P Q : Received → Prop} (hPQ : ∀ r, P r → Q r) {s t : Matrix DelayWorld}
    (h : Heard P s t) : Heard Q s t := by
  obtain ⟨hlog, new, hnew, hP⟩ := h
  exact ⟨hlog, new, hnew, fun r hr ↦ hPQ r (hP r hr)⟩

/-- The module's records only grow. -/
def Grown : Matrix DelayWorld → Matrix DelayWorld → Prop := Heard fun _ ↦ True

instance : IsPreorder (Matrix DelayWorld) Grown := inferInstanceAs (IsPreorder _ (Heard _))

theorem grown_sendAndCapture (cmd : Bytes) :
    Within Grown (sendAndCapture cfg delayNet cmd) :=
  heard_sendAndCapture cfg (fun _ ↦ trivial) trivial

theorem respects_grown : Respects cfg delayNet Grown where
  note _ _ := heard_modify fun _ ↦ rfl
  setLastKnownMask _ := heard_modify fun _ ↦ rfl
  connect := (logsIn_heard fun _ ↦ trivial).within_connect cfg
    (heard_modify fun _ ↦ rfl) (grown_sendAndCapture cfg _)
  safe cmd _ := grown_sendAndCapture cfg cmd

theorem isRead_of_startsRead {cmd : Bytes} (h : encode "relay read" <+: cmd ++ CRLF) :
    Received.IsRead ⟨cmd ++ CRLF, true⟩ := fun _ hchange ↦ hchange.2 h

theorem reads_readAll : Within (Heard Received.IsRead) (sendAndCapture cfg delayNet readAllText) :=
  heard_sendAndCapture cfg (fun _ ↦ nofun) (isRead_of_startsRead ⟨_, rfl⟩)

theorem reads_connect : Within (Heard Received.IsRead) (connect cfg delayNet) :=
  (logsIn_heard fun _ ↦ nofun).within_connect cfg (heard_modify fun _ ↦ rfl) (reads_readAll cfg)

/-- What holds since `s` once a call has come this far: the records have grown, and if everything
was in sync, `G`. -/
def SoFar (s : Matrix DelayWorld) (G : Matrix DelayWorld → Prop) (t : Matrix DelayWorld) : Prop :=
  Grown s t ∧ (InSync s t → G t)

/-- A change that returns has been executed. -/
theorem post_change {cmd : Bytes} (hchange : IsChange (cmd ++ CRLF)) {s t : Matrix DelayWorld}
    (hst : Grown s t) :
    Post (callWithReconnect cfg delayNet cmd) (fun _ u ↦ SoFar s (Forced s) u)
      (fun _ _ ↦ True) t := by
  have hhead : (cmd ++ CRLF).head? ≠ some 255 := by
    obtain ⟨rest, hrest⟩ := hchange.1
    rw [← hrest]
    exact nofun
  refine post_callWithReconnect_of_answered (grown_sendAndCapture cfg cmd)
    (respects_grown cfg).connect (fun _ _ _ h ↦ h) fun u htu ↦ ?_
  have hsu : Grown s u := trans_of Grown hst htu
  refine ((post_sendAndCapture_inSync cfg _ hhead u).and (grown_sendAndCapture cfg cmd u)).mono
    ?_ fun _ _ _ ↦ trivial
  rintro response v ⟨⟨synced, hreceived, hreport⟩, huv⟩
  refine ⟨trans_of Grown hsu huv, fun hsync ↦ ?_⟩
  obtain rfl := (hsync.split hsu huv).2.synced hreceived hchange.1
  exact forced_of_reported hsu.length_le hreceived hchange (hreport rfl)

theorem post_readAll_verified {s t u : Matrix DelayWorld} {expected : ℕ}
    (h : SoFar s (Forced s) t) (htu : Heard Received.IsRead t u) :
    Post (sendAndCapture cfg delayNet readAllText)
      (fun response v ↦ parseReadall response = some expected →
        SoFar s (Verified s expected) v) (fun _ _ ↦ True) u := by
  refine ((post_sendAndCapture_inSync cfg readAllText nofun u).and
    (reads_readAll cfg u)).mono ?_ fun _ _ _ ↦ trivial
  rintro response v ⟨⟨synced, hreceived, hreport⟩, huv⟩ hmask
  have htv : Heard Received.IsRead t v := trans_of _ htu huv
  have hsu : Grown s u := trans_of Grown h.1 (htu.weaken fun _ _ ↦ trivial)
  refine ⟨trans_of Grown h.1 (htv.weaken fun _ _ ↦ trivial), fun hsync ↦ ?_⟩
  obtain rfl := (hsync.split hsu huv).2.synced hreceived ⟨_, rfl⟩
  obtain ⟨hst, htv'⟩ := hsync.split h.1 htv
  exact (h.2 hst).verified htu htv htv' (hreport rfl) hmask

/-- A bank verification that returns verifies the last change. -/
theorem post_verifyAll_verified {s t : Matrix DelayWorld} {expected : ℕ}
    (h : SoFar s (Forced s) t) :
    Post (verifyAll cfg delayNet expected) (fun _ u ↦ SoFar s (Verified s expected) u)
      (fun _ _ ↦ True) t :=
  post_verifyAll_of_answered (reads_readAll cfg) (reads_connect cfg) (fun _ _ h ↦ h)
    (fun _ _ h ↦ h) fun _ htu ↦ post_readAll_verified cfg h htu

theorem post_verifySingle_reads (n : ℕ) (t : Matrix DelayWorld) :
    Post (verifySingle cfg delayNet n true) (fun _ u ↦ Heard Received.IsRead t u)
      (fun _ _ ↦ True) t := by
  have hsend : Within (Heard Received.IsRead) (sendAndCapture cfg delayNet (readText n)) :=
    heard_sendAndCapture cfg (fun _ ↦ nofun) (isRead_of_startsRead ⟨32 :: addrStr n ++ CRLF, rfl⟩)
  exact post_verifySingle_of_read hsend (reads_connect cfg) (fun _ _ _ h ↦ h) t

theorem isChange_writeAllText (mask : ℕ) :
    IsChange (writeAllText cfg.numChannels mask ++ CRLF) := by
  refine ⟨⟨_, rfl⟩, ?_⟩
  rintro ⟨rest, hrest⟩
  have hsixth := congrArg (·[6]?) hrest
  exact absurd (Option.some.inj hsixth : (114 : UInt8) = 119) (by decide)

theorem isChange_writeText (n : ℕ) : IsChange (writeText n true ++ CRLF) := by
  refine ⟨⟨_, rfl⟩, ?_⟩
  rintro ⟨rest, hrest⟩
  have hsixth := congrArg (·[6]?) hrest
  exact absurd (Option.some.inj hsixth : (114 : UInt8) = 111) (by decide)

/-- The mandatory safety sequence, when it returns. -/
theorem post_forceAllOffAndVerify_verified (s : Matrix DelayWorld) :
    Post (forceAllOffAndVerify cfg delayNet) (fun _ t ↦ SoFar s (Verified s 0) t)
      (fun _ _ ↦ True) s := by
  have hwrite : ∀ t, Grown s t → Post (writeAll cfg delayNet 0)
      (fun _ u ↦ SoFar s (Forced s) u) (fun _ _ ↦ True) t := by
    intro t hst
    refine (post_bind _).mpr ((post_modify _).mpr ((post_bind _).mpr ?_))
    refine (post_change cfg (isChange_writeAllText cfg 0) (trans_of Grown hst ?_)).mono
      (fun _ _ h ↦ h) fun _ _ h ↦ h
    exact heard_of_eq (List.suffix_refl _) rfl
  refine (post_bind _).mpr (((respects_grown cfg).checkCurrentRelayState s).mono ?_
    fun _ _ _ ↦ trivial)
  intro _ t hst
  refine (hwrite t hst).bind fun _ u hu ↦ ?_
  exact post_verifyAll_verified cfg hu

theorem post_switchOn_verified (n : ℕ) {s t : Matrix DelayWorld} (hst : Grown s t) :
    Post (do
      write cfg delayNet n true
      verifySingle cfg delayNet n true
      verifyAll cfg delayNet (1 <<< n)) (fun _ u ↦ SoFar s (Verified s (1 <<< n)) u)
      (fun _ _ ↦ True) t := by
  have hwrite : Post (write cfg delayNet n true) (fun _ u ↦ SoFar s (Forced s) u)
      (fun _ _ ↦ True) t := by
    refine (post_bind _).mpr (post_ite.mpr ?_)
    split
    · refine (post_bind _).mpr ((post_modify _).mpr ((post_bind _).mpr ?_))
      refine (post_change cfg (isChange_writeText n) (trans_of Grown hst ?_)).mono
        (fun _ _ h ↦ h) fun _ _ h ↦ h
      exact heard_of_eq (List.suffix_refl _) rfl
    · trivial
  refine hwrite.bind fun _ u hu ↦ ?_
  refine (post_bind _).mpr ((post_verifySingle_reads cfg n u).mono ?_ fun _ _ h ↦ h)
  intro _ v huv
  refine post_verifyAll_verified cfg ⟨trans_of Grown hu.1 (huv.weaken fun _ _ ↦ trivial), ?_⟩
  intro hsync
  obtain ⟨hsu, huv'⟩ := hsync.split hu.1 huv
  exact (hu.2 hsu).of_heard huv huv'

/-- **One public call.** If it returns and all its commands were in sync, it was verified. -/
theorem post_run_verified (op : RelayOp) (s : Matrix DelayWorld) :
    Post (op.run cfg delayNet) (fun _ t ↦ InSync s t → Verified s op.bankAfter t)
      (fun _ _ ↦ True) s := by
  have hforce := post_forceAllOffAndVerify_verified cfg s
  have hoff : Post (forceAllOffAndVerify cfg delayNet) (fun _ t ↦ InSync s t → Verified s 0 t)
      (fun _ _ ↦ True) s := hforce.mono (fun _ _ h ↦ h.2) fun _ _ h ↦ h
  cases op with
  | openChannel channel => exact post_then_settle cfg (post_validateChannel_then cfg hoff)
  | openAll => exact (post_bind _).mpr (hoff.mono (fun _ _ ht ↦ ht) fun _ _ ht ↦ ht)
  | closeChannel channel =>
    refine post_then_settle cfg (post_validateChannel_then cfg ((post_bind _).mpr
      (hforce.mono (fun _ t ht ↦ ?_) fun _ _ h ↦ h)))
    refine (post_switchOn_verified cfg (channel - 1) ht.1).mono (fun _ u hu ↦ ?_) fun _ _ h ↦ h
    rw [Nat.one_shiftLeft] at hu
    exact hu.2

/-- **The emergency shutdown.** If it reports success and both its commands were in sync, it was
verified. -/
theorem post_emergencyAllOff_verified (s : Matrix DelayWorld) :
    Post (emergencyAllOff cfg delayNet) (fun ok t ↦ ok = true → InSync s t → Verified s 0 t)
      (fun _ _ ↦ True) s := by
  have hhead : (writeAllText cfg.numChannels 0 ++ CRLF).head? ≠ some 255 := nofun
  have hoff : Post (sendAndCapture cfg delayNet (writeAllText cfg.numChannels 0))
      (fun _ t ↦ SoFar s (Forced s) t) (fun _ _ ↦ True) s := by
    refine ((post_sendAndCapture_inSync cfg _ hhead s).and (grown_sendAndCapture cfg _ s)).mono
      ?_ fun _ _ _ ↦ trivial
    rintro response t ⟨⟨synced, hreceived, hreport⟩, hst⟩
    refine ⟨hst, fun hsync ↦ ?_⟩
    obtain rfl := hsync.synced hreceived (isChange_writeAllText cfg 0).1
    exact forced_of_reported le_rfl hreceived (isChange_writeAllText cfg 0) (hreport rfl)
  have hread : Post (do
      let _ ← sendAndCapture cfg delayNet (writeAllText cfg.numChannels 0)
      let response ← sendAndCapture cfg delayNet readAllText
      parseReadallResponse response)
      (fun mask t ↦ mask = 0 → InSync s t → Verified s 0 t) (fun _ _ ↦ True) s := by
    have hverify : ∀ t, SoFar s (Forced s) t → Post (sendAndCapture cfg delayNet readAllText)
        (fun response u ↦ parseReadall response = some 0 → SoFar s (Verified s 0) u)
        (fun _ _ ↦ True) t := fun t ht ↦ post_readAll_verified cfg ht (refl_of _ t)
    refine hoff.bind fun _ t ht ↦ ?_
    refine (post_bind _).mpr ((hverify t ht).mono ?_ fun _ _ h ↦ h)
    intro response u hu
    unfold parseReadallResponse
    split
    · rename_i mask hmask
      rintro rfl
      exact (hu hmask).2
    · trivial
  refine (post_bind _).mpr (post_attempt.mpr (hread.mono (fun mask t ht ↦ ?_) fun _ _ _ ↦ nofun))
  exact fun hok ↦ ht (by simpa using hok)

end Calls

/-! ## Runs -/

/-- A call with how it ended and the states around it. -/
structure Taken where
  ended : CallEnd
  before : Matrix DelayWorld
  after : Matrix DelayWorld

/-- A new driver for a module that has been sent nothing, and whatever will happen. -/
def NewConnection (m : Matrix DelayWorld) : Prop :=
  m.sock = false ∧ m.trace = [] ∧ m.world.received = [] ∧ m.world.log = [] ∧
    m.world.queue = [] ∧ m.world.closed = []

/-- The driver and the module, call after call. -/
def delayCalls (cfg : RelayConfig) : System (Matrix DelayWorld) Taken where
  init := NewConnection
  step s c t := c.before = s ∧ c.after = t ∧ c.ended.Ends cfg delayNet s t

/-- In every run, every public call that returned and satisfies `C` was verified; and every
emergency shutdown that reports success and satisfies `C` was verified. -/
def VerifiesWhen (C : Matrix DelayWorld → Matrix DelayWorld → Prop) (cfg : RelayConfig) : Prop :=
  (∀ calls s, Run (delayCalls cfg) calls s → ∀ c ∈ calls, ∀ op,
    c.ended = ⟨.operate op, true⟩ → C c.before c.after → Verified c.before op.bankAfter c.after) ∧
  ∀ s t, emergencyAllOff cfg delayNet s = .ok true t → C s t → Verified s 0 t

/-- **A verification in sync is not satisfied by a stale reply.** -/
theorem verified_of_inSync (cfg : RelayConfig) : VerifiesWhen InSync cfg := by
  refine ⟨fun calls s hrun ↦ ?_, fun s t ht ↦ ?_⟩
  · induction hrun with
    | init _ => exact fun c hc ↦ absurd hc List.not_mem_nil
    | step _ hstep ih =>
      intro c hc op hop
      rcases List.mem_cons.mp hc with rfl | hc
      · obtain ⟨rfl, rfl, hends⟩ := hstep
        rw [hop, CallEnd.Ends, if_pos rfl] at hends
        change op.run cfg delayNet c.before = .ok () c.after at hends
        have hpost := post_run_verified cfg op c.before
        rw [post_of_ok hends] at hpost
        exact hpost
      · exact ih c hc op hop
  · have hpost := post_emergencyAllOff_verified cfg s
    rw [post_of_ok ht] at hpost
    exact hpost rfl

/-- A module that reports its bank and echoes everything else. -/
def echoReply : Reply where
  text line bank :=
    if line = readAllText ++ CRLF then (if bank < 2 ^ 32 then report bank else [])
    else if 255 ∈ line then PROMPT
    else line ++ PROMPT
  plain := by
    intro line bank h
    split at h
    · split at h
      · exact not_mem_report bank h
      · exact absurd h List.not_mem_nil
    · split at h
      · exact absurd h (by decide)
      · rename_i hline
        exact (List.mem_append.mp h).elim hline (by decide)
  faithful := by
    intro bank mask h
    rw [if_pos rfl] at h
    split at h
    · rename_i hbank
      rw [parseReadall_report hbank] at h
      exact (Option.some.inj h).symm
    · exact absurd h nofun

/-- A module with channel 3 energized that executes a command at every third call into the
network only: the first polls for a reply find nothing. -/
def lateModule : Matrix DelayWorld where
  sock := false
  connected := false
  lastKnownMask := none
  world := {
    relays := 32, bank := 4, stage := 2, queue := [], inbox := [], busy := false, closed := []
    received := [], log := [], clock := 0
    script := fun clock ↦ {
      connect := .connected, sendError := none, arrives := true, reply := echoReply, polls := 4
      work := if clock % 3 = 0 then [none] else []
      delivery := .bytes 63, chatter := .chunk (encode "User Name: Password: >") } }
  trace := []

/-- Its replies come late, each before the driver gives up on it, and `open_all` is verified. -/
theorem verified_openAll_lateModule :
    ∃ t u, openAll numatoConfig delayNet t = .ok () u ∧ t.world.bank = 4 ∧ InSync t u ∧
      Verified t 0 u := by
  have hboth : ((do
      RelayCall.connect.run numatoConfig delayNet
      (RelayCall.operate .openAll).run numatoConfig delayNet :
        RelayProg DelayWorld Unit) lateModule).final.map
      (fun m ↦ m.world.received.all fun r ↦ !(encode "relay ").isPrefixOf r.line || r.synced)
      = some true := by
    decide +kernel
  have hconnect : (RelayCall.connect.run numatoConfig delayNet lateModule).final.map
      (fun m ↦ m.world.bank) = some 4 := by
    decide +kernel
  obtain ⟨_, u, hboth, hu⟩ := Outcome.exists_of_final hboth
  obtain ⟨_, t, ht, hopen⟩ := exists_of_bind_eq_ok hboth
  change openAll numatoConfig delayNet t = .ok () u at hopen
  have hbank : t.world.bank = 4 := by
    rw [ht] at hconnect
    exact Option.some.inj hconnect
  have hrun : Run (delayCalls numatoConfig)
      [⟨⟨.operate .openAll, true⟩, t, u⟩, ⟨⟨.connect, true⟩, lateModule, t⟩] u :=
    .step (.step (.init ⟨rfl, rfl, rfl, rfl, rfl, rfl⟩) ⟨rfl, rfl, ht⟩) ⟨rfl, rfl, hopen⟩
  have hsync : InSync t u := by
    have hgrown := (respects_grown numatoConfig).openAll t
    rw [post_of_ok hopen] at hgrown
    obtain ⟨-, new, hnew, -⟩ := hgrown
    refine ⟨new, hnew, fun r hr hnative ↦ ?_⟩
    have hr' := List.all_eq_true.mp hu r (hnew ▸ List.mem_append_left _ hr)
    rw [List.isPrefixOf_iff_prefix.mpr hnative] at hr'
    exact hr'
  exact ⟨t, u, hopen, hbank, hsync,
    (verified_of_inSync numatoConfig).1 _ _ hrun _ List.mem_cons_self .openAll rfl hsync⟩

theorem not_verified_of_head {s t : Matrix DelayWorld} {expected : ℕ} {r : Received}
    {older : List Received} {x : Received}
    (hreceived : t.world.received = x :: r :: older) (hx : ¬IsChange x.line)
    (hr : IsChange r.line) (hlog : older.length ∉ t.world.log.tail.map Executed.id) :
    ¬Verified s expected t := by
  rintro ⟨older', ⟨newer, r', hreceived', hr', hnewer, -⟩, after, e, before, hlog', -, -, hexecuted⟩
  obtain ⟨y, hy, hid⟩ := hexecuted
  have holder : older' = older := by
    rw [hreceived] at hreceived'
    match newer with
    | [] =>
      rw [List.nil_append] at hreceived'
      obtain rfl := (List.cons.inj hreceived').1
      exact absurd hr' hx
    | [_] => exact (List.cons.inj (List.cons.inj hreceived').2).2.symm
    | x' :: y' :: newer =>
      have hy' : r = y' := (List.cons.inj (List.cons.inj hreceived').2).1
      exact absurd hr (hnewer r (by simp [hy']))
  rw [holder] at hid
  refine hlog (List.mem_map.mpr ⟨y, ?_, hid⟩)
  rw [hlog']
  cases after with
  | nil => exact hy
  | cons z after => exact List.mem_append_right after (List.mem_cons_of_mem e hy)

/-- A module with channel 3 energized that executes a command only now and then: neither the
first readall of `open_all` nor its retry is executed before the driver gives up on it. -/
def slowModule : Matrix DelayWorld where
  sock := false
  connected := false
  lastKnownMask := none
  world := {
    relays := 32, bank := 4, stage := 2, queue := [], inbox := [], busy := false, closed := []
    received := [], log := [], clock := 0
    script := fun clock ↦ {
      connect := .connected, sendError := none, arrives := true, reply := echoReply, polls := 1
      work := if clock ∈ [9, 25, 31, 34, 37, 40] then [none] else []
      delivery := .bytes 63, chatter := .chunk (encode "User Name: Password: >") } }
  trace := []

/-- `open_all` returns although the module has not executed a readall since the last force-off:
the one that verified it was answered by the echo of the force-off. -/
theorem not_verified_lateReply : ¬VerifiesWhen (fun _ _ ↦ True) numatoConfig := by
  intro h
  have hboth : ((do
      RelayCall.connect.run numatoConfig delayNet
      (RelayCall.operate .openAll).run numatoConfig delayNet :
        RelayProg DelayWorld Unit) slowModule).final.map
      (fun m ↦ ((m.world.received.take 2).map Received.line, m.world.received.length,
        m.world.log.tail.map Executed.id))
      = some ([readAllText ++ CRLF, writeAllText 32 0 ++ CRLF], 12, [9, 8, 7, 6, 2]) := by
    decide +kernel
  obtain ⟨_, u, hboth, hu⟩ := Outcome.exists_of_final hboth
  obtain ⟨_, t, ht, hopen⟩ := exists_of_bind_eq_ok hboth
  have hrun : Run (delayCalls numatoConfig)
      [⟨⟨.operate .openAll, true⟩, t, u⟩, ⟨⟨.connect, true⟩, slowModule, t⟩] u :=
    .step (.step (.init ⟨rfl, rfl, rfl, rfl, rfl, rfl⟩) ⟨rfl, rfl, ht⟩) ⟨rfl, rfl, hopen⟩
  have hverified : Verified t 0 u :=
    h.1 _ _ hrun _ List.mem_cons_self .openAll rfl trivial
  obtain ⟨hlines, hlen, hids⟩ : _ ∧ _ ∧ _ := by simpa only [Prod.mk.injEq] using hu
  match hreceived : u.world.received with
  | [] | [_] =>
    rw [hreceived] at hlen
    exact absurd hlen nofun
  | x :: r :: older =>
    rw [hreceived] at hlines hlen
    obtain ⟨hx, hr⟩ : x.line = readAllText ++ CRLF ∧ r.line = writeAllText 32 0 ++ CRLF := by
      simpa using hlines
    have holder : older.length = 10 := by simpa using hlen
    refine not_verified_of_head hreceived ?_ ?_ ?_ hverified
    · rw [hx]
      exact fun hchange ↦ hchange.2 ⟨_, rfl⟩
    · rw [hr]
      exact isChange_writeAllText numatoConfig 0
    · rw [holder, hids]
      decide

end Nipxi
