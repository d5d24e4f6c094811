import Nipxi.Hardware.Relay.Device
import Nipxi.Hardware.Relay.Rules
import Nipxi.Transition.System

/-!
# At most one relay

The driver against a module that answers the command it was sent last, and may otherwise do as it
likes: refuse a connection, lose a line, execute a command or refuse it, answer late, in pieces or
not at all, drop the session. Against any such module, at every instant at most one relay is
energized (`relayCalls_interlock`).

## The argument

Fix a set `S` of relays and call a bank *confined* if it energizes only relays of `S`. Reads and
the force-off keep a bank confined whatever becomes of them, and so does switching on a relay of
`S`. If `S` has at most one element, so has every confined bank. A call of `close` begins under
whatever `S` the calls before it left; once its force-off is verified the bank is empty and no
command is outstanding, so from there on it is confined to the channel about to be closed.

That a verification can be trusted is the second half: an answer to `relay readall` comes from
the command itself, so the mask it shows is the bank, and nothing is outstanding any more.
-/

open Effect Transition

namespace Nipxi

/-! ## The module and its connection -/

/-- What the module makes of the command it was sent. -/
structure Handling where
  /-- Whether it executes the command or refuses it. -/
  effective : Bool
  /-- What it sends back, given the bank at that point. -/
  reply : DeviceCmd → ℕ → Bytes
  plain : ∀ cmd bank, 255 ∉ reply cmd bank
  faithful : ∀ bank mask, parseReadall (reply .readAll bank) = some mask → mask = bank

/-- What happens at one call into the network, whichever it is. -/
structure BankChoice where
  connect : ConnectResult
  sendError : Option String
  /-- What the module does about the outstanding command at this point, if anything. -/
  handling : Option Handling
  polls : ℕ
  delivery : Delivery
  /-- What arrives while no command has been sent on the connection: banners and prompts. -/
  chatter : RecvResult

/-- The module, the connection to it, and everything that will happen. -/
structure BankWorld where
  relays : ℕ
  bank : ℕ
  /-- Every bank there has been, newest first. -/
  history : List ℕ
  /-- How many lines the connection still takes for user name and password. -/
  stage : ℕ
  /-- The command last sent, until it is handled. -/
  pending : Option DeviceCmd
  /-- Whether the line last sent was taken for user name or password. -/
  login : Bool
  /-- Whether the line last sent was a command. -/
  session : Bool
  /-- What is left of the reply. -/
  inbox : Bytes
  script : ℕ → BankChoice
  clock : ℕ

namespace BankWorld

def choice (w : BankWorld) : BankChoice := w.script w.clock

def tick (w : BankWorld) : BankWorld := { w with clock := w.clock + 1 }

/-- The outstanding command is handled: it takes effect or not, and is replied to. -/
def handle (w : BankWorld) : Option Handling → BankWorld
  | none => w
  | some h =>
    match w.pending with
    | none => w
    | some cmd =>
      let bank := if h.effective && !w.login then execute w.relays w.bank cmd else w.bank
      { w with
        bank := bank
        history := bank :: w.history
        pending := none
        inbox := h.reply cmd bank }

/-- A line arrives. Whatever came before it is no longer answered. -/
def receive (w : BankWorld) (line : Bytes) : BankWorld :=
  { w with
    stage := w.stage - 1
    pending := decode line
    login := w.stage != 0
    session := (decode line).isSome
    inbox := [] }

/-- The connection ends, or a new one begins. -/
def hangUp (w : BankWorld) : BankWorld :=
  { w with stage := 2, pending := none, session := false, inbox := [] }

/-- What a `recv` brings while a reply is due. -/
def deliver (w : BankWorld) (d : Delivery) : RecvResult × BankWorld :=
  ((d.take w.inbox).1, { w with inbox := (d.take w.inbox).2 })

end BankWorld

/-- The network between the driver and the module. Telnet replies, which begin with `IAC`, are
not lines. -/
def bankNet : Net BankWorld where
  connect w := (w.choice.connect, w.hangUp.tick)
  close w := w.hangUp.tick
  sendall data w :=
    if data.head? = some 255 then (w.choice.sendError, w.tick)
    else (w.choice.sendError, (w.receive data).tick.handle w.choice.handling)
  polls w := (w.choice.polls, w.tick)
  recv w :=
    if w.session then (w.tick.handle w.choice.handling).deliver w.choice.delivery
    else (w.choice.chatter, w.tick)

/-! ## Confined banks -/

/-- A bank that energizes only relays of `S`. -/
def Confined (S : Set ℕ) (bank : ℕ) : Prop := ∀ i, bank.testBit i → i ∈ S

theorem Confined.atMostOne {S : Set ℕ} {bank : ℕ} (h : Confined S bank) (hS : S.Subsingleton) :
    AtMostOne bank := fun i j hi hj ↦ hS (h i hi) (h j hj)

theorem AtMostOne.subsingleton {bank : ℕ} (h : AtMostOne bank) :
    {i | bank.testBit i = true}.Subsingleton := fun i hi j hj ↦ h i j hi hj

theorem confined_zero (S : Set ℕ) : Confined S 0 := fun i hi ↦ by simp at hi

/-- A command that keeps confined banks confined, on any module. -/
def Harmless (S : Set ℕ) (cmd : DeviceCmd) : Prop :=
  ∀ relays bank, Confined S bank → Confined S (execute relays bank cmd)

theorem harmless_writeAll_zero (S : Set ℕ) : Harmless S (.writeAll 0) := by
  intro relays bank _
  rw [execute_writeAll_zero]
  exact confined_zero S

theorem harmless_on {S : Set ℕ} {n : ℕ} (hn : n ∈ S) : Harmless S (.on n) := by
  intro relays bank hbank i hi
  rcases testBit_execute_on hi with h | rfl
  · exact hbank i h
  · exact hn

/-- A line that cannot take a confined bank further: whatever command it is is harmless. -/
def HarmlessLine (S : Set ℕ) (line : Bytes) : Prop := ∀ cmd, decode line = some cmd → Harmless S cmd

theorem harmlessLine_writeText {S : Set ℕ} {n : ℕ} (hn : n ∈ S) :
    HarmlessLine S (writeText n true ++ CRLF) := by
  intro c hc
  rcases decode_writeText_true n with h | h
  · rw [h] at hc
    exact absurd hc nofun
  · rw [h] at hc
    obtain rfl := Option.some.inj hc
    exact harmless_on hn

/-! ## What the network does to the bank -/

/-- A command that keeps `I`, whatever module executes it. -/
def Admits (I : ℕ → List ℕ → Prop) (cmd : DeviceCmd) : Prop :=
  ∀ relays bank history, I bank history →
    I (execute relays bank cmd) (execute relays bank cmd :: history)

/-- `I` is kept by a command that changes nothing. -/
def Idle (I : ℕ → List ℕ → Prop) : Prop := ∀ bank history, I bank history → I bank (bank :: history)

/-- `I` holds of the bank and of its history, and an outstanding command that can still take effect
keeps it. -/
structure Stable (I : ℕ → List ℕ → Prop) (w : BankWorld) : Prop where
  bank : I w.bank w.history
  pending : ∀ cmd, w.pending = some cmd → w.login = false → Admits I cmd

namespace Stable

variable {I : ℕ → List ℕ → Prop} {w : BankWorld}

theorem tick (h : Stable I w) : Stable I w.tick := ⟨h.bank, h.pending⟩

theorem hangUp (h : Stable I w) : Stable I w.hangUp := ⟨h.bank, nofun⟩

theorem deliver (h : Stable I w) (d : Delivery) : Stable I (w.deliver d).2 := ⟨h.bank, h.pending⟩

theorem handle (hI : Idle I) (h : Stable I w) (handling : Option Handling) :
    Stable I (w.handle handling) := by
  unfold BankWorld.handle
  split
  · exact h
  rename_i a
  split
  · exact h
  rename_i cmd hcmd
  refine ⟨?_, nofun⟩
  dsimp only
  split
  · rename_i heff
    have hlogin : w.login = false := by simpa using (Bool.and_eq_true_iff.mp heff).2
    exact h.pending cmd hcmd hlogin _ _ _ h.bank
  · exact hI _ _ h.bank

/-- A line that is taken for a login, or whose command keeps `I`. -/
theorem receive (h : Stable I w) {line : Bytes}
    (hline : w.stage ≠ 0 ∨ ∀ cmd, decode line = some cmd → Admits I cmd) :
    Stable I (w.receive line) := by
  refine ⟨h.bank, fun cmd hcmd hlogin ↦ ?_⟩
  rcases hline with hstage | hline
  · exact absurd (by simpa [BankWorld.receive] using hlogin) hstage
  · exact hline cmd hcmd

theorem sendall (hI : Idle I) (h : Stable I w) {data : Bytes}
    (hdata : w.stage ≠ 0 ∨ ∀ cmd, decode data = some cmd → Admits I cmd) :
    Stable I (bankNet.sendall data w).2 := by
  unfold bankNet
  dsimp only
  split
  · exact h.tick
  · exact (h.receive hdata).tick.handle hI _

theorem recv (hI : Idle I) (h : Stable I w) : Stable I (bankNet.recv w).2 := by
  unfold bankNet
  dsimp only
  split
  · exact (h.tick.handle hI _).deliver _
  · exact h.tick

end Stable

/-! ## Where the login stands -/

theorem stage_handle (w : BankWorld) (handling : Option Handling) :
    (w.handle handling).stage = w.stage := by
  unfold BankWorld.handle
  split
  · rfl
  · split <;> rfl

theorem stage_recv (w : BankWorld) : (bankNet.recv w).2.stage = w.stage := by
  unfold bankNet
  dsimp only
  split
  · exact stage_handle w.tick _
  · rfl

/-- Telnet replies are no lines. -/
theorem sendall_replies (w : BankWorld) {replies : Bytes} (h : replies.head? = some 255) :
    (bankNet.sendall replies w).2 = w.tick := by
  unfold bankNet
  exact congrArg Prod.snd (if_pos h)

theorem stage_sendall (w : BankWorld) (data : Bytes) :
    w.stage - 1 ≤ (bankNet.sendall data w).2.stage := by
  unfold bankNet
  dsimp only
  split
  · exact Nat.sub_le _ _
  · rw [stage_handle]
    exact Nat.le_refl _

section Stable

variable {I : ℕ → List ℕ → Prop} (cfg : RelayConfig)

/-- What connecting does to the bank is nothing, a login line being no command. -/
theorem logsIn_stable (hI : Idle I) :
    LogsIn bankNet BankWorld.stage (Kept fun m ↦ Stable I m.world) where
  polls := within_kept_iff.mpr fun _ h ↦ h.tick
  recv := within_kept_iff.mpr fun _ h ↦ h.recv hI
  replies replies hiac := within_kept_iff.mpr fun s h ↦ by
    change Stable I (bankNet.sendall replies s.world).2
    rw [sendall_replies s.world hiac]
    exact h.tick
  fields _ _ _ h := h
  connect _ h := h.hangUp.tick
  close _ h := h.hangUp.tick
  login s data hstage h := h.sendall hI (.inl hstage)
  stage_connect _ := le_refl 2
  stage_polls _ := le_refl _
  stage_recv w := (stage_recv w).ge
  stage_replies replies w hiac := by
    rw [sendall_replies w hiac]
    exact le_refl w.stage
  stage_sendall data w := stage_sendall w data

/-- Changes of the driver's own fields. -/
theorem stable_modify {f : Matrix BankWorld → Matrix BankWorld}
    (h : ∀ m, (f m).world = m.world) :
    Within (Kept fun m ↦ Stable I m.world) (Prog.modify f : RelayProg BankWorld Unit) :=
  within_kept_iff.mpr fun s hs ↦ by
    change Stable I (f s).world
    rwa [h s]

/-- A command that keeps `I`. -/
theorem stable_sendAndCapture (hI : Idle I) {cmd : Bytes}
    (hcmd : ∀ c, decode (cmd ++ CRLF) = some c → Admits I c) :
    Within (Kept fun m ↦ Stable I m.world) (sendAndCapture cfg bankNet cmd) := by
  refine (logsIn_stable hI).sendAndCapture cfg ?_ (fun _ ↦ stable_modify fun _ ↦ rfl) ?_
  · refine stable_modify fun m ↦ ?_
    split <;> rfl
  · exact within_kept_iff.mpr fun s h ↦ h.sendall hI (.inr hcmd)

theorem stable_read (hI : Idle I) {cmd : Bytes}
    (hcmd : ∀ c, decode (cmd ++ CRLF) = some c → ∀ relays bank, execute relays bank c = bank) :
    Within (Kept fun m ↦ Stable I m.world) (sendAndCapture cfg bankNet cmd) := by
  refine stable_sendAndCapture cfg hI fun c hc relays bank history h ↦ ?_
  rw [hcmd c hc]
  exact hI bank history h

theorem execute_readAllText {c : DeviceCmd} (hc : decode (readAllText ++ CRLF) = some c)
    (relays bank : ℕ) : execute relays bank c = bank := by
  rw [decode_readAllText] at hc
  rw [← Option.some.inj hc, execute]

theorem execute_readText (n : ℕ) {c : DeviceCmd} (hc : decode (readText n ++ CRLF) = some c)
    (relays bank : ℕ) : execute relays bank c = bank := by
  rcases decode_readText n with h | h
  · rw [h] at hc
    cases hc
  · rw [h] at hc
    rw [← Option.some.inj hc, execute]

theorem stable_connect (hI : Idle I) :
    Within (Kept fun m ↦ Stable I m.world) (connect cfg bankNet) :=
  (logsIn_stable hI).within_connect cfg (stable_modify fun _ ↦ rfl)
    (stable_read cfg hI fun _ ↦ execute_readAllText)

/-- Everything but switching a relay on respects what idling and the force-off keep. -/
theorem respects_stable (hI : Idle I) (hoff : Admits I (.writeAll 0)) :
    Respects cfg bankNet (Kept fun m ↦ Stable I m.world) where
  note _ _ := stable_modify fun _ ↦ rfl
  setLastKnownMask _ := stable_modify fun _ ↦ rfl
  connect := stable_connect cfg hI
  safe cmd hcmd := by
    cases hcmd with
    | readAll => exact stable_read cfg hI fun _ ↦ execute_readAllText
    | read n => exact stable_read cfg hI fun _ ↦ execute_readText n
    | forceOff =>
      refine stable_sendAndCapture cfg hI fun c hc ↦ ?_
      rw [decode_writeAllText_zero] at hc
      rwa [← Option.some.inj hc]

/-- Switching a relay on, when it returns. -/
theorem post_write_stable (hI : Idle I) {n : ℕ} {state : Bool}
    (hon : ∀ c, decode (writeText n state ++ CRLF) = some c → Admits I c) {s : Matrix BankWorld}
    (h : Stable I s.world) :
    Post (write cfg bankNet n state) (fun _ t ↦ Stable I t.world) (fun _ _ ↦ True) s := by
  have hsend := stable_sendAndCapture cfg hI hon
  refine (post_bind _).mpr (post_ite.mpr ?_)
  split
  · refine (post_bind _).mpr ((post_modify _).mpr ((post_bind _).mpr ?_))
    refine (post_callWithReconnect_of_answered hsend (stable_connect cfg hI) (fun _ _ _ h ↦ h)
      fun u hu ↦ ?_).mono (fun _ _ ht ↦ ht) fun _ _ h ↦ h
    exact (within_kept_iff.mp hsend u (hu h)).mono (fun _ _ ht ↦ ht) fun _ _ _ ↦ trivial
  · trivial

theorem post_verifySingle_stable (hI : Idle I) (n : ℕ) {s : Matrix BankWorld}
    (h : Stable I s.world) :
    Post (verifySingle cfg bankNet n true) (fun _ t ↦ Stable I t.world) (fun _ _ ↦ True) s :=
  (post_verifySingle_of_read (stable_read cfg hI fun _ ↦ execute_readText n)
    (stable_connect cfg hI) (fun _ _ _ hst ↦ hst) s).mono (fun _ _ ht ↦ ht h) fun _ _ h ↦ h

theorem post_verifyAll_stable (hI : Idle I) (expected : ℕ) {s : Matrix BankWorld}
    (h : Stable I s.world) :
    Post (verifyAll cfg bankNet expected) (fun _ t ↦ Stable I t.world) (fun _ _ ↦ True) s := by
  have hsend := stable_read (I := I) cfg hI fun _ ↦ execute_readAllText
  refine post_verifyAll_of_answered hsend (stable_connect cfg hI) (fun _ _ h ↦ h)
    (fun _ _ h ↦ h) fun u hu ↦ ?_
  exact (within_kept_iff.mp hsend u (hu h)).mono (fun _ _ ht _ ↦ ht) fun _ _ _ ↦ trivial

end Stable

/-! ## Confined to a few relays -/

/-- The bank is confined, an outstanding command that can still take effect is harmless, and there
never was more than one relay energized. -/
structure ConfinedTo (S : Set ℕ) (w : BankWorld) : Prop where
  bank : Confined S w.bank
  pending : ∀ cmd, w.pending = some cmd → w.login = false → Harmless S cmd
  history : ∀ bank ∈ w.history, AtMostOne bank

/-- Confinement of the module a driver talks to. -/
def ConfinedIn (S : Set ℕ) (m : Matrix BankWorld) : Prop := ConfinedTo S m.world

/-- The bank and its history under confinement. -/
def ConfinedSoFar (S : Set ℕ) (bank : ℕ) (history : List ℕ) : Prop :=
  Confined S bank ∧ ∀ b ∈ history, AtMostOne b

section Confined

variable {S : Set ℕ} (cfg : RelayConfig)

theorem admits_confined_iff (hS : S.Subsingleton) {cmd : DeviceCmd} :
    Admits (ConfinedSoFar S) cmd ↔ Harmless S cmd := by
  constructor
  · intro h relays bank hbank
    exact (h relays bank [] ⟨hbank, List.forall_mem_nil _⟩).1
  · intro h relays bank history hbank
    have hnext := h relays bank hbank.1
    exact ⟨hnext, List.forall_mem_cons.mpr ⟨hnext.atMostOne hS, hbank.2⟩⟩

theorem confinedTo_iff (hS : S.Subsingleton) {w : BankWorld} :
    ConfinedTo S w ↔ Stable (ConfinedSoFar S) w := by
  constructor
  · intro h
    exact ⟨⟨h.bank, h.history⟩, fun cmd hcmd hlogin ↦
      (admits_confined_iff hS).mpr (h.pending cmd hcmd hlogin)⟩
  · intro h
    exact ⟨h.bank.1, fun cmd hcmd hlogin ↦
      (admits_confined_iff hS).mp (h.pending cmd hcmd hlogin), h.bank.2⟩

theorem confinedIn_eq (hS : S.Subsingleton) :
    ConfinedIn S = fun m ↦ Stable (ConfinedSoFar S) m.world :=
  funext fun _ ↦ propext (confinedTo_iff hS)

theorem idle_confined (hS : S.Subsingleton) : Idle (ConfinedSoFar S) := fun _ _ h ↦
  ⟨h.1, List.forall_mem_cons.mpr ⟨h.1.atMostOne hS, h.2⟩⟩

/-- Confinement survives connecting, a login line being no command. -/
theorem logsIn_confined (hS : S.Subsingleton) :
    LogsIn bankNet BankWorld.stage (Kept (ConfinedIn S)) := by
  rw [confinedIn_eq hS]
  exact logsIn_stable (idle_confined hS)

theorem within_sendAndCapture (hS : S.Subsingleton) {cmd : Bytes}
    (hcmd : HarmlessLine S (cmd ++ CRLF)) :
    Within (Kept (ConfinedIn S)) (sendAndCapture cfg bankNet cmd) := by
  rw [confinedIn_eq hS]
  exact stable_sendAndCapture cfg (idle_confined hS) fun c hc ↦
    (admits_confined_iff hS).mpr (hcmd c hc)

/-- Everything but switching a relay on keeps confinement. -/
theorem respects_confined (hS : S.Subsingleton) :
    Respects cfg bankNet (Kept (ConfinedIn S)) := by
  rw [confinedIn_eq hS]
  exact respects_stable cfg (idle_confined hS)
    ((admits_confined_iff hS).mpr (harmless_writeAll_zero S))

end Confined

/-! ## Answers -/

/-- Nothing is outstanding, and a mask read from the response is the bank. -/
def Answered (response : Bytes) (w : BankWorld) : Prop :=
  w.pending = none ∧ ∀ mask, parseReadall response = some mask → w.bank = mask

/-- `relay readall` has been sent: either it is outstanding and nothing has come, or what has come
and what is left make up its reply. -/
def Awaiting (buf : Bytes) (w : BankWorld) : Prop :=
  w.session = true ∧
    ((w.pending = some .readAll ∧ w.inbox = [] ∧ buf = []) ∨
      (w.pending = none ∧ 255 ∉ w.inbox ∧
        ∀ mask, parseReadall (buf ++ w.inbox) = some mask → mask = w.bank))

namespace Awaiting

variable {buf : Bytes} {w : BankWorld}

theorem tick (h : Awaiting buf w) : Awaiting buf w.tick := h

theorem handle (h : Awaiting buf w) (handling : Option Handling) :
    Awaiting buf (w.handle handling) := by
  obtain ⟨hsession, ⟨hpending, hinbox, rfl⟩ | hreply⟩ := h
  · cases handling with
    | none => exact ⟨hsession, .inl ⟨hpending, hinbox, rfl⟩⟩
    | some a =>
      unfold BankWorld.handle
      rw [hpending]
      exact ⟨hsession, .inr ⟨rfl, a.plain _ _, fun mask hmask ↦ a.faithful _ mask hmask⟩⟩
  · have hsame : w.handle handling = w := by
      unfold BankWorld.handle
      rw [hreply.1]
      split <;> rfl
    rw [hsame]
    exact ⟨hsession, .inr hreply⟩

/-- What is delivered moves from the inbox to the buffer. -/
theorem deliver (h : Awaiting buf w) (d : Delivery) : Continues Awaiting buf (w.deliver d) := by
  rw [BankWorld.deliver]
  rcases d.take_cases w.inbox with hd | ⟨e, hd⟩ | ⟨data, rest, hd, hinbox⟩
  · rw [hd]
    exact h
  · rw [hd]
    trivial
  rw [hd]
  obtain ⟨hsession, ⟨hpending, hempty, rfl⟩ | ⟨hpending, hplain, hfaith⟩⟩ := h
  · rw [hempty] at hinbox
    obtain ⟨rfl, rfl⟩ := List.append_eq_nil_iff.mp hinbox
    exact ⟨List.not_mem_nil, hsession, .inl ⟨hpending, rfl, rfl⟩⟩
  · rw [← hinbox] at hplain hfaith
    refine ⟨fun h ↦ hplain (List.mem_append_left rest h), hsession, .inr ⟨hpending, ?_, ?_⟩⟩
    · exact fun h ↦ hplain (List.mem_append_right data h)
    · intro mask hmask
      rw [List.append_assoc] at hmask
      exact hfaith mask hmask

theorem recv (h : Awaiting buf w) : Continues Awaiting buf (bankNet.recv w) := by
  have hrecv : bankNet.recv w = (w.tick.handle w.choice.handling).deliver w.choice.delivery :=
    if_pos h.1
  rw [hrecv]
  exact (h.tick.handle _).deliver _

/-- Once the prompt has come, the reply has been understood. -/
theorem answered (h : Awaiting buf w) (hprompt : 62 ∈ buf) : Answered buf w := by
  obtain ⟨-, ⟨-, -, rfl⟩ | ⟨hpending, -, hfaith⟩⟩ := h
  · exact absurd hprompt List.not_mem_nil
  · refine ⟨hpending, fun mask hmask ↦ (hfaith mask ?_).symm⟩
    rw [parseReadall_append hprompt, hmask]

end Awaiting

/-- **An answer can be believed.** When `relay readall` is answered, no command is outstanding,
and if the answer shows a mask, it is the bank. -/
theorem post_sendAndCapture_readAll (cfg : RelayConfig) (s : Matrix BankWorld) :
    Post (sendAndCapture cfg bankNet readAllText) (fun response t ↦ Answered response t.world)
      (fun _ _ ↦ True) s := by
  have hsent : ∀ w : BankWorld, Awaiting [] (bankNet.sendall (readAllText ++ CRLF) w).2 := by
    intro w
    have hline : (bankNet.sendall (readAllText ++ CRLF) w).2
        = (w.receive (readAllText ++ CRLF)).tick.handle w.choice.handling := rfl
    rw [hline]
    refine Awaiting.handle ⟨?_, .inl ⟨?_, rfl, rfl⟩⟩ _
    · exact congrArg Option.isSome decode_readAllText
    · exact decode_readAllText
  exact (post_sendAndCapture_of_continues cfg (fun _ _ h ↦ h.tick) (fun _ _ h ↦ h.recv)
    fun _ ↦ hsent _).mono (fun _ _ h ↦ h.1.answered h.2) fun _ _ h ↦ h

/-- The bank, with no command outstanding that could still change it. -/
def RestsAt (bank : ℕ) (m : Matrix BankWorld) : Prop :=
  m.world.pending = none ∧ m.world.bank = bank

theorem post_verifyAll_restsAt (cfg : RelayConfig) (expected : ℕ) (s : Matrix BankWorld) :
    Post (verifyAll cfg bankNet expected) (fun _ t ↦ RestsAt expected t) (fun _ _ ↦ True) s := by
  have hread : ∀ u, Post (sendAndCapture cfg bankNet readAllText)
      (fun response t ↦ parseReadall response = some expected → RestsAt expected t)
      (fun _ _ ↦ True) u := fun u ↦
    (post_sendAndCapture_readAll cfg u).mono (fun _ _ h hmask ↦ ⟨h.1, h.2 _ hmask⟩)
      fun _ _ h ↦ h
  exact post_verifyAll_of_answered (within_true _) (within_true _) (fun _ _ h ↦ h)
    (fun _ _ h ↦ h) fun u _ ↦ hread u

theorem post_forceAllOffAndVerify_restsAt (cfg : RelayConfig) (s : Matrix BankWorld) :
    Post (forceAllOffAndVerify cfg bankNet) (fun _ t ↦ RestsAt 0 t) (fun _ _ ↦ True) s :=
  (post_bind _).mpr (.of_forall (fun _ _ ↦ (post_bind _).mpr (.of_forall
    (fun _ u ↦ post_verifyAll_restsAt cfg 0 u) fun _ _ ↦ trivial)) fun _ _ ↦ trivial)

/-! ## Public calls -/

section Calls

variable {S : Set ℕ} (cfg : RelayConfig)

theorem post_forceAllOffAndVerify (hS : S.Subsingleton) {s : Matrix BankWorld}
    (h : ConfinedIn S s) :
    Post (forceAllOffAndVerify cfg bankNet) (fun _ t ↦ ConfinedIn S t ∧ RestsAt 0 t)
      (fun _ t ↦ ConfinedIn S t) s := by
  have hkept := within_kept_iff.mp (respects_confined cfg hS).forceAllOffAndVerify s h
  exact (hkept.and (post_forceAllOffAndVerify_restsAt cfg s)).mono (fun _ _ h ↦ h)
    fun _ _ h ↦ h.1

theorem ConfinedIn.of_restsAt_zero (S' : Set ℕ) {m : Matrix BankWorld} (h : ConfinedIn S m)
    (hrest : RestsAt 0 m) : ConfinedIn S' m := by
  refine ⟨?_, fun cmd hcmd ↦ ?_, h.history⟩
  · rw [hrest.2]
    exact confined_zero S'
  · rw [hrest.1] at hcmd
    exact absurd hcmd nofun

/-- Switching on relay `n` is respected by confinement to it. -/
theorem within_write (hS : S.Subsingleton) {n : ℕ} (hn : n ∈ S) :
    Within (Kept (ConfinedIn S)) (write cfg bankNet n true) := by
  have hR := respects_confined cfg hS
  have hcmd := within_sendAndCapture cfg hS (harmlessLine_writeText hn)
  have hnote : Within (Kept (ConfinedIn S)) (note (.sending (writeText n true))) := by
    rw [confinedIn_eq hS]
    exact stable_modify fun _ ↦ rfl
  exact .bind (hR.validateRelayNumber n) fun _ ↦
    .bind hnote fun _ ↦ .bind (hR.callWithReconnect hcmd) fun _ ↦ .pure _

/-- Confined to at most one relay, whichever. -/
def Safe (m : Matrix BankWorld) : Prop := ∃ S : Set ℕ, S.Subsingleton ∧ ConfinedIn S m

/-- **One public call** on a safe module: it stays safe however the call ends, and if the call
returns, the bank is the one it promises. -/
theorem post_run_safe (op : RelayOp) {s : Matrix BankWorld} (h : Safe s) :
    Post (op.run cfg bankNet) (fun _ t ↦ Safe t ∧ RestsAt op.bankAfter t) (fun _ t ↦ Safe t) s := by
  obtain ⟨S, hS, h⟩ := h
  have hvalidate : ∀ channel, Post (validateChannel cfg channel : RelayProg BankWorld Unit)
      (fun _ t ↦ ConfinedIn S t) (fun _ t ↦ Safe t) s := fun channel ↦
    (within_kept_iff.mp ((respects_confined cfg hS).validateChannel channel) s h).mono
      (fun _ _ ht ↦ ht) fun _ t ht ↦ ⟨S, hS, ht⟩
  have hsettle : ∀ {bank : ℕ} {x : RelayProg BankWorld Unit},
      Post x (fun _ t ↦ Safe t ∧ RestsAt bank t) (fun _ t ↦ Safe t) s →
      Post (do x; settle cfg) (fun _ t ↦ Safe t ∧ RestsAt bank t) (fun _ t ↦ Safe t) s := by
    intro bank x hx
    refine hx.bind fun _ t ht ↦ ?_
    refine post_ite.mpr ?_
    split
    · exact ht.1
    · exact ht
  have hforce : ∀ t, ConfinedIn S t → Post (forceAllOffAndVerify cfg bankNet)
      (fun _ t ↦ Safe t ∧ RestsAt 0 t) (fun _ t ↦ Safe t) t := fun t ht ↦
    (post_forceAllOffAndVerify cfg hS ht).mono (fun _ u hu ↦ ⟨⟨S, hS, hu.1⟩, hu.2⟩)
      fun _ u hu ↦ ⟨S, hS, hu⟩
  cases op with
  | openChannel channel =>
    exact hsettle ((post_bind _).mpr ((hvalidate channel).mono (fun _ t ht ↦ hforce t ht)
      fun _ _ ht ↦ ht))
  | openAll => exact (post_bind _).mpr ((hforce s h).mono (fun _ _ ht ↦ ht) fun _ _ ht ↦ ht)
  | closeChannel channel =>
    -- From the verified force-off on, the bank is confined to the channel being closed.
    have hone : ({channel - 1} : Set ℕ).Subsingleton := Set.subsingleton_singleton
    have hR := respects_confined cfg hone
    refine hsettle ((post_bind _).mpr ((hvalidate channel).mono (fun _ t ht ↦ ?_) fun _ _ h ↦ h))
    refine (post_bind _).mpr ((post_forceAllOffAndVerify cfg hS ht).mono (fun _ u hu ↦ ?_)
      fun _ u hu ↦ ⟨S, hS, hu⟩)
    have hu' : ConfinedIn {channel - 1} u := hu.1.of_restsAt_zero _ hu.2
    have hrest : Within (Kept (ConfinedIn {channel - 1})) (do
        write cfg bankNet (channel - 1) true
        verifySingle cfg bankNet (channel - 1) true
        verifyAll cfg bankNet (1 <<< (channel - 1))) :=
      .bind (within_write cfg hone rfl) fun _ ↦
        .bind (hR.verifySingle (channel - 1) true) fun _ ↦ hR.verifyAll _
    have hbank : Post (do
        write cfg bankNet (channel - 1) true
        verifySingle cfg bankNet (channel - 1) true
        verifyAll cfg bankNet (1 <<< (channel - 1)))
        (fun _ t ↦ RestsAt (1 <<< (channel - 1)) t) (fun _ _ ↦ True) u :=
      (post_bind _).mpr (.of_forall (fun _ v ↦ (post_bind _).mpr (.of_forall
        (fun _ v ↦ post_verifyAll_restsAt cfg _ v) fun _ _ ↦ trivial)) fun _ _ ↦ trivial)
    refine ((within_kept_iff.mp hrest u hu').and hbank).mono (fun _ v hv ↦ ?_) fun _ v hv ↦ ?_
    · exact ⟨⟨_, hone, hv.1⟩, hv.2.1, hv.2.2.trans (Nat.one_shiftLeft _)⟩
    · exact ⟨_, hone, hv.1⟩

end Calls

end Nipxi
