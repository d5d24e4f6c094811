import Nipxi.Hardware.Relay.Bank

/-!
# The relay interlock over whole runs

Every run of connects, disconnects and public calls against the module of `Bank`, each call
returning or failing, keeps three promises: at every instant at most one relay is energized, a
relay is switched on only within a command group that an empty bank report precedes, and a call
that returns leaves the bank it was asked for (`relayCalls_interlock`).

The second promise is about what the driver sends and holds on every network.
-/

open Effect Transition

namespace Nipxi

variable {W : Type}

/-! ## When a relay is switched on -/

/-- A readall was answered with an empty bank, and nothing has been switched on since. -/
def ZeroSeen (evs : List RelayEvent) : Prop :=
  ∃ mid response older, evs = mid ++ .answered readAllText response :: older ∧
    parseReadall response = some 0 ∧ ∀ cmd, .sent cmd ∈ mid → ¬IsOn cmd

/-- The entries are those of an open group of `cmd`: its log line, before which an empty bank was
seen, and no other group after it. -/
def GroupOpen (cmd : Bytes) (evs : List RelayEvent) : Prop :=
  ∃ group before, evs = group ++ .sending cmd :: before ∧
    (∀ other, .sending other ∈ group → ¬IsOn other) ∧ ZeroSeen before

/-- Every switch-on that was sent belongs to an open group of it. -/
def Guarded : List RelayEvent → Prop
  | [] => True
  | ev :: older => (∀ cmd, ev = .sent cmd → IsOn cmd → GroupOpen cmd older) ∧ Guarded older

/-- An entry that neither sends a switch-on nor opens a group of one. -/
def RelayEvent.NotOn (ev : RelayEvent) : Prop :=
  ∀ cmd, ev = .sent cmd ∨ ev = .sending cmd → ¬IsOn cmd

/-- An entry a group of `cmd` may contain. -/
def RelayEvent.InGroup (cmd : Bytes) (ev : RelayEvent) : Prop :=
  (∀ other, ev = .sent other → IsOn other → other = cmd) ∧
    ∀ other, ev = .sending other → ¬IsOn other

theorem Guarded.append {new old : List RelayEvent} (h : Guarded old)
    (hnew : ∀ ev ∈ new, ev.NotOn) : Guarded (new ++ old) := by
  induction new with
  | nil => exact h
  | cons ev new ih =>
    refine ⟨fun cmd hev hon ↦ ?_, ih fun ev' hev' ↦ hnew ev' (List.mem_cons_of_mem ev hev')⟩
    exact absurd hon (hnew ev List.mem_cons_self cmd (Or.inl hev))

/-- A group keeps the trace guarded however long it gets. -/
theorem Guarded.group {cmd : Bytes} {new before : List RelayEvent} (h : Guarded before)
    (hzero : ZeroSeen before) (hnew : ∀ ev ∈ new, ev.InGroup cmd) :
    Guarded (new ++ .sending cmd :: before) := by
  induction new with
  | nil => exact ⟨nofun, h⟩
  | cons ev new ih =>
    have hnew' : ∀ ev' ∈ new, ev'.InGroup cmd := fun ev' hev' ↦
      hnew ev' (List.mem_cons_of_mem ev hev')
    refine ⟨fun other hev hon ↦ ?_, ih hnew'⟩
    obtain rfl := (hnew ev List.mem_cons_self).1 other hev hon
    exact ⟨new, before, rfl, fun other' hmem ↦ (hnew' _ hmem).2 other' rfl, hzero⟩

theorem not_isOn_of_isSafeCmd (cfg : RelayConfig) {cmd : Bytes} (h : IsSafeCmd cfg cmd) :
    ¬IsOn cmd := by
  intro hon
  have hsixth : cmd[6]? = some 111 := by
    obtain ⟨rest, rfl⟩ := hon
    rfl
  cases h with
  | readAll => exact absurd hsixth (by decide)
  | forceOff => exact absurd (Option.some.inj hsixth : (119 : UInt8) = 111) (by decide)
  | read n => exact absurd (Option.some.inj hsixth : (114 : UInt8) = 111) (by decide)

section Sends

variable (cfg : RelayConfig) (net : Net W)

theorem respects_notOn : Respects cfg net (Grows RelayEvent.NotOn) := by
  refine respects_grows net (fun ev hev ↦ ?_) (fun cmd hcmd ↦ ?_) fun cmd response ↦ ?_
  · rintro cmd (rfl | rfl)
    · exact absurd hev id
    · rw [show cmd = _ from hev]
      exact not_isOn_of_isSafeCmd cfg .forceOff
  · rintro cmd' (h | h)
    · obtain rfl := RelayEvent.sent.inj h
      exact not_isOn_of_isSafeCmd cfg hcmd
    · exact absurd h nofun
  · rintro cmd' (h | h) <;> exact absurd h nofun

theorem RelayEvent.NotOn.inGroup {ev : RelayEvent} (h : ev.NotOn) (cmd : Bytes) :
    ev.InGroup cmd :=
  ⟨fun other hev hon ↦ absurd hon (h other (Or.inl hev)), fun other hev ↦ h other (Or.inr hev)⟩

theorem respects_inGroup (cmd : Bytes) : Respects cfg net (Grows (RelayEvent.InGroup cmd)) where
  note ev hev := ((respects_notOn cfg net).note ev hev).mono
    fun _ _ h ↦ h.mono fun _ h ↦ h.inGroup cmd
  setLastKnownMask _ := grows_modify fun _ ↦ rfl
  connect := (respects_notOn cfg net).connect.mono fun _ _ h ↦ h.mono fun _ h ↦ h.inGroup cmd
  safe c hc := ((respects_notOn cfg net).safe c hc).mono
    fun _ _ h ↦ h.mono fun _ h ↦ h.inGroup cmd

/-- The answer is the last entry of an answered command. -/
theorem post_sendAndCapture_answered (cmd : Bytes) (s : Matrix W) :
    Post (sendAndCapture cfg net cmd)
      (fun response t ↦ ∃ older, t.trace = .answered cmd response :: older) (fun _ _ ↦ True) s := by
  refine (post_bind _).mpr (.of_forall (fun _ t ↦ ?_) fun _ _ ↦ trivial)
  refine (post_bind _).mpr (.of_forall (fun _ t ↦ ?_) fun _ _ ↦ trivial)
  refine (post_bind _).mpr (.of_forall (fun response t ↦ ?_) fun _ _ ↦ trivial)
  refine post_ite.mpr ?_
  split
  · trivial
  · exact ⟨t.trace, rfl⟩

theorem post_forceAllOffAndVerify_zeroSeen (s : Matrix W) :
    Post (forceAllOffAndVerify cfg net) (fun _ t ↦ ZeroSeen t.trace) (fun _ _ ↦ True) s := by
  have hread : ∀ u : Matrix W, Post (sendAndCapture cfg net readAllText)
      (fun response t ↦ parseReadall response = some 0 → ZeroSeen t.trace) (fun _ _ ↦ True) u := by
    refine fun u ↦ (post_sendAndCapture_answered cfg net readAllText u).mono ?_ fun _ _ h ↦ h
    rintro response t ⟨older, ht⟩ hzero
    exact ⟨[], response, older, ht, hzero, nofun⟩
  have hverify : ∀ u : Matrix W, Post (verifyAll cfg net 0) (fun _ t ↦ ZeroSeen t.trace)
      (fun _ _ ↦ True) u := by
    refine fun u ↦ post_verifyAll_of_answered (within_true _) (within_true _)
      (fun m record h ↦ ?_) (fun _ _ h ↦ h) fun v _ ↦ hread v
    obtain ⟨mid, response, older, ht, hzero, hmid⟩ := h
    refine ⟨.call record :: mid, response, older, congrArg _ ht, hzero, fun cmd hcmd ↦ ?_⟩
    exact hmid cmd ((List.mem_cons.mp hcmd).resolve_left nofun)
  exact (post_bind _).mpr (.of_forall (fun _ t ↦ (post_bind _).mpr (.of_forall
    (fun _ u ↦ hverify u) fun _ _ ↦ trivial)) fun _ _ ↦ trivial)

theorem Guarded.of_grows {s t : Matrix W} (h : Guarded s.trace)
    (hst : Grows RelayEvent.NotOn s t) : Guarded t.trace := by
  obtain ⟨new, ht, hnew⟩ := hst
  rw [ht]
  exact h.append hnew

theorem kept_guarded {α : Type} {x : RelayProg W α} (hx : Within (Grows RelayEvent.NotOn) x) :
    Within (Kept fun m : Matrix W ↦ Guarded m.trace) x := hx.mono fun _ _ hst h ↦ h.of_grows hst

theorem post_write_guarded (relayNumber : ℕ) (state : Bool) {s : Matrix W}
    (h : Guarded s.trace) (hzero : ZeroSeen s.trace) :
    Post (write cfg net relayNumber state) (fun _ t ↦ Guarded t.trace)
      (fun _ t ↦ Guarded t.trace) s := by
  have hgroup := respects_inGroup cfg net (writeText relayNumber state)
  have hcmd : Within (Grows (RelayEvent.InGroup (writeText relayNumber state)))
      (sendAndCapture cfg net (writeText relayNumber state)) := by
    refine grows_sendAndCapture cfg net ⟨fun other hev _ ↦ ?_, nofun⟩ fun _ ↦ ⟨nofun, nofun⟩
    exact (RelayEvent.sent.inj hev).symm
  have hend : ∀ t : Matrix W,
      Grows (RelayEvent.InGroup (writeText relayNumber state))
        { s with trace := .sending (writeText relayNumber state) :: s.trace } t →
      Guarded t.trace := by
    rintro t ⟨new, ht, hnew⟩
    rw [ht]
    exact h.group hzero hnew
  refine (post_bind _).mpr (post_ite.mpr ?_)
  split
  · refine (post_bind _).mpr ((post_modify _).mpr ((post_bind _).mpr ?_))
    exact (hgroup.callWithReconnect hcmd _).mono (fun _ t ht ↦ hend t ht) fun _ t ht ↦ hend t ht
  · exact h

/-- **A relay is only switched on after an empty bank was reported**, on every network and
however the call ends. -/
theorem guarded_run (op : RelayOp) :
    Within (Kept fun m : Matrix W ↦ Guarded m.trace) (op.run cfg net) := by
  have hR := respects_notOn cfg net
  have hsettle : ∀ {x : RelayProg W Unit}, Within (Kept fun m : Matrix W ↦ Guarded m.trace) x →
      Within (Kept fun m : Matrix W ↦ Guarded m.trace) (do x; settle cfg) :=
    fun hx ↦ .bind hx fun _ ↦ kept_guarded hR.settle
  cases op with
  | openChannel channel =>
    exact hsettle (.bind (kept_guarded (hR.validateChannel channel)) fun _ ↦
      kept_guarded hR.forceAllOffAndVerify)
  | openAll => exact kept_guarded hR.openAll
  | closeChannel channel =>
    refine hsettle (.bind (kept_guarded (hR.validateChannel channel)) fun _ ↦
      within_kept_iff.mpr fun s h ↦ (post_bind _).mpr ?_)
    have hforce := (within_kept_iff.mp (kept_guarded hR.forceAllOffAndVerify) s h).and
      (post_forceAllOffAndVerify_zeroSeen cfg net s)
    refine hforce.mono (fun _ t ht ↦ (post_bind _).mpr ?_) fun _ _ ht ↦ ht.1
    refine (post_write_guarded cfg net (channel - 1) true ht.1 ht.2).mono (fun _ u hu ↦ ?_)
      fun _ _ hu ↦ hu
    exact within_kept_iff.mp (.bind (kept_guarded (hR.verifySingle _ _)) fun _ ↦
      kept_guarded (hR.verifyAll _)) u hu

end Sends

/-! ## Runs -/

/-- A new driver for a module with at most one relay energized and no command outstanding, and
whatever will happen. -/
def NewDriver (m : Matrix BankWorld) : Prop :=
  m.sock = false ∧ m.trace = [] ∧ AtMostOne m.world.bank ∧ m.world.history = [m.world.bank] ∧
    m.world.pending = none

/-- The driver and the module, call after call. -/
def relayCalls (cfg : RelayConfig) : System (Matrix BankWorld) CallEnd where
  init := NewDriver
  step s c t := c.Ends cfg bankNet s t

/-- One call keeps the module safe and the trace guarded, and if it returns leaves the bank it
promises. -/
theorem post_call_safe (cfg : RelayConfig) (call : RelayCall) {s : Matrix BankWorld} (h : Safe s)
    (hg : Guarded s.trace) :
    Post (call.run cfg bankNet)
      (fun _ t ↦ Safe t ∧ Guarded t.trace ∧ ∀ op, call = .operate op → RestsAt op.bankAfter t)
      (fun _ t ↦ Safe t ∧ Guarded t.trace) s := by
  obtain ⟨S, hS, hconf⟩ := h
  have hsession : ∀ {x : RelayProg BankWorld Unit}, (∀ op, call ≠ .operate op) →
      Within (Kept (ConfinedIn S)) x → Within (Grows RelayEvent.NotOn) x →
      Post x
        (fun _ t ↦ Safe t ∧ Guarded t.trace ∧ ∀ op, call = .operate op → RestsAt op.bankAfter t)
        (fun _ t ↦ Safe t ∧ Guarded t.trace) s := by
    intro x hcall hx hx'
    refine ((within_kept_iff.mp hx s hconf).and
      (within_kept_iff.mp (kept_guarded hx') s hg)).mono ?_ ?_
    · exact fun _ t ht ↦ ⟨⟨S, hS, ht.1⟩, ht.2, fun op hop ↦ absurd hop (hcall op)⟩
    · exact fun _ t ht ↦ ⟨⟨S, hS, ht.1⟩, ht.2⟩
  cases call with
  | connect =>
    exact hsession nofun (respects_confined cfg hS).connect (respects_notOn cfg bankNet).connect
  | disconnect =>
    exact hsession nofun (logsIn_confined hS).disconnect (logsIn_grows bankNet).disconnect
  | operate op =>
    refine ((post_run_safe cfg op ⟨S, hS, hconf⟩).and
      (within_kept_iff.mp (guarded_run cfg bankNet op) s hg)).mono ?_ fun _ _ ht ↦ ht
    rintro _ t ⟨⟨hsafe, hrest⟩, hguarded⟩
    refine ⟨hsafe, hguarded, fun op' hop ↦ ?_⟩
    obtain rfl := RelayCall.operate.inj hop
    exact hrest

private theorem relayCalls_invariant {cfg : RelayConfig} {calls : List CallEnd}
    {s : Matrix BankWorld} (h : Run (relayCalls cfg) calls s) :
    Safe s ∧ Guarded s.trace ∧
      ∀ op rest, calls = ⟨.operate op, true⟩ :: rest → RestsAt op.bankAfter s := by
  refine h.induction (I := fun calls s ↦ Safe s ∧ Guarded s.trace ∧
    ∀ op rest, calls = ⟨.operate op, true⟩ :: rest → RestsAt op.bankAfter s) ?_ ?_
  · rintro s ⟨-, htrace, hbank, hhistory, hpending⟩
    refine ⟨⟨_, hbank.subsingleton, ⟨fun _ hi ↦ hi, ?_, ?_⟩⟩, ?_, nofun⟩
    · intro cmd hcmd
      rw [hpending] at hcmd
      exact absurd hcmd nofun
    · intro bank hmem
      rw [hhistory] at hmem
      obtain rfl := List.mem_singleton.mp hmem
      exact hbank
    · rw [htrace]
      trivial
  · rintro calls s ⟨call, returned⟩ t - ⟨hsafe, hguarded, -⟩ hstep
    have hpost := post_call_safe cfg call hsafe hguarded
    cases returned with
    | true =>
      rw [post_of_ok (show call.run cfg bankNet s = .ok () t from hstep)] at hpost
      refine ⟨hpost.1, hpost.2.1, fun op rest hcalls ↦ hpost.2.2 op ?_⟩
      exact (CallEnd.mk.inj (List.cons.inj hcalls).1).1
    | false =>
      obtain ⟨e, hrun⟩ : ∃ e, call.run cfg bankNet s = .error e t := hstep
      rw [post_of_error hrun] at hpost
      refine ⟨hpost.1, hpost.2, fun op rest hcalls ↦ ?_⟩
      exact absurd (CallEnd.mk.inj (List.cons.inj hcalls).1).2 nofun

/-- **The relay interlock.** At every instant of every run at most one relay is energized; a relay
is switched on only within a group that an empty bank report precedes; and if the last call
returned, the bank is the one it promises. -/
theorem relayCalls_interlock {cfg : RelayConfig} {calls : List CallEnd} {s : Matrix BankWorld}
    (h : Run (relayCalls cfg) calls s) :
    (∀ bank ∈ s.world.history, AtMostOne bank) ∧ Guarded s.trace ∧
      ∀ op rest, calls = ⟨.operate op, true⟩ :: rest →
        s.world.pending = none ∧ s.world.bank = op.bankAfter := by
  obtain ⟨⟨S, hS, hconf⟩, hguarded, hrest⟩ := relayCalls_invariant h
  exact ⟨hconf.history, hguarded, fun op rest hcalls ↦ hrest op rest hcalls⟩

/-- A module that executes what it is sent and answers it; a bank of more than eight digits it
could not report. -/
def honestHandling : Handling where
  effective := true
  reply
    | .readAll, bank => if bank < 2 ^ 32 then report bank else []
    | .read n, bank => encode (if bank.testBit n then "on" else "off") ++ PROMPT
    | _, _ => PROMPT
  plain := by
    intro cmd bank h
    split at h
    · split at h
      · exact not_mem_report bank h
      · exact absurd h List.not_mem_nil
    · split at h <;> exact absurd h (by decide)
    · exact absurd h (by decide)
  faithful := by
    intro bank mask h
    dsimp only at h
    split at h
    · rename_i hbank
      rw [parseReadall_report hbank] at h
      exact (Option.some.inj h).symm
    · exact absurd h nofun

/-- Every command is executed and answered at once. -/
def promptChoice : BankChoice where
  connect := .connected
  sendError := none
  handling := some honestHandling
  polls := 1
  delivery := .bytes 63
  chatter := .chunk (encode "User Name: Password: >")

/-- A module with channel 2 energized that answers everything. -/
def promptModule : Matrix BankWorld where
  sock := false
  connected := false
  lastKnownMask := none
  world := ⟨32, 2, [2], 2, none, false, false, [], fun _ ↦ promptChoice, 0⟩
  trace := []


/-- Connecting and closing channel 3 both return. -/
theorem relayCalls_interlock_promptModule :
    ∃ s, Run (relayCalls numatoConfig) [⟨.operate (.closeChannel 3), true⟩, ⟨.connect, true⟩] s ∧
      (∀ bank ∈ s.world.history, AtMostOne bank) ∧ s.world.bank = 4 := by
  have hruns : ((do
      RelayCall.connect.run numatoConfig bankNet
      (RelayCall.operate (.closeChannel 3)).run numatoConfig bankNet :
        RelayProg BankWorld Unit) promptModule).final.map (·.world.bank) = some 4 := by
    decide +kernel
  obtain ⟨_, u, hboth, -⟩ := Outcome.exists_of_final hruns
  obtain ⟨_, t, ht, hu⟩ := exists_of_bind_eq_ok hboth
  have hnew : NewDriver promptModule := by
    refine ⟨rfl, rfl, fun i j hi hj ↦ ?_, rfl, rfl⟩
    have hone : ∀ k, (2 : ℕ).testBit k = true → k = 1 := fun k hk ↦ by
      rw [show 2 = 2 ^ 1 from rfl, Nat.testBit_two_pow] at hk
      exact (of_decide_eq_true hk).symm
    rw [hone i hi, hone j hj]
  have hrun : Run (relayCalls numatoConfig)
      [⟨.operate (.closeChannel 3), true⟩, ⟨.connect, true⟩] u := .step (.step (.init hnew) ht) hu
  have hsafe := relayCalls_interlock hrun
  exact ⟨u, hrun, hsafe.1, (hsafe.2.2 _ _ rfl).2⟩

end Nipxi
