import Nipxi.Hardware.Relay.Interlock

/-!
# Settling between switchings

`RelayBase.open` and `RelayBase.close` settle once, when their whole operation is through, and
`open_all` of the relay matrix does not settle. A `close` switches everything off before it
switches its relay on, with no delay in between; so if it finds a relay energized, two commands
change the bank within one settling time, and likewise if it follows an `open_all` that switched a
relay off. In all other runs of calls that return, a settling delay elapses between any two such
commands: `breaksBeforeMake_iff`.

## The argument

A verified force-off takes the bank from where it rests to empty in at most one step, whatever
reads, reconnects and repetitions it takes (`Went`), and switching on takes it from empty to one
relay in one. What a run shows is therefore decided by the bank each call begins on, and by whether
the bank changed since the last settling delay (`Unsettled`).
-/

open Effect Transition

namespace Nipxi

/-! ## Sightings -/

/-- A command was handled, with the bank after it, or a settling delay elapsed. -/
inductive Sighting where
  | bank (mask : ℕ)
  | settled
  deriving DecidableEq

/-- The bank last seen. Sightings are listed newest first. -/
def lastBank : List Sighting → Option ℕ
  | [] => none
  | .bank mask :: _ => some mask
  | .settled :: older => lastBank older

/-- A bank of `mask` is not the one seen before. -/
def Changes (mask : ℕ) (older : List Sighting) : Prop :=
  ∃ before, lastBank older = some before ∧ before ≠ mask

/-- Between any two commands that change the bank a settling delay elapses. -/
def BreaksBeforeMake (seen : List Sighting) : Prop :=
  ∀ newer mask mid mask' older, seen = newer ++ .bank mask :: (mid ++ .bank mask' :: older) →
    Changes mask (mid ++ .bank mask' :: older) → Changes mask' older → .settled ∈ mid

/-- The bank has changed since the last settling delay. -/
def Unsettled (seen : List Sighting) : Prop :=
  ∃ mid mask older, seen = mid ++ .bank mask :: older ∧ Changes mask older ∧ .settled ∉ mid

section Sightings

variable {seen : List Sighting} {mask : ℕ}

theorem not_unsettled_settled (seen : List Sighting) : ¬Unsettled (.settled :: seen) := by
  rintro ⟨mid, mask, older, hseen, -, hmid⟩
  cases mid with
  | nil => cases hseen
  | cons x mid =>
    rw [← (List.cons.inj hseen).1] at hmid
    exact hmid List.mem_cons_self

theorem unsettled_bank_iff :
    Unsettled (.bank mask :: seen) ↔ Changes mask seen ∨ Unsettled seen := by
  constructor
  · rintro ⟨mid, mask', older, hseen, hchange, hmid⟩
    cases mid with
    | nil =>
      obtain ⟨hmask, rfl⟩ := List.cons.inj hseen
      obtain rfl := Sighting.bank.inj hmask
      exact Or.inl hchange
    | cons x mid =>
      refine Or.inr ⟨mid, mask', older, (List.cons.inj hseen).2, hchange, fun h ↦ ?_⟩
      exact hmid (List.mem_cons_of_mem x h)
  · rintro (h | ⟨mid, mask', older, rfl, hchange, hmid⟩)
    · exact ⟨[], mask, seen, rfl, h, List.not_mem_nil⟩
    · exact ⟨.bank mask :: mid, mask', older, rfl, hchange, by simpa using hmid⟩

theorem breaksBeforeMake_settled_iff :
    BreaksBeforeMake (.settled :: seen) ↔ BreaksBeforeMake seen := by
  constructor
  · intro h newer mask mid mask' older hseen
    exact h (.settled :: newer) mask mid mask' older (congrArg _ hseen)
  · intro h newer mask mid mask' older hseen
    cases newer with
    | nil => cases hseen
    | cons x newer => exact h newer mask mid mask' older (List.cons.inj hseen).2

theorem breaksBeforeMake_bank_iff : BreaksBeforeMake (.bank mask :: seen) ↔
    BreaksBeforeMake seen ∧ (Changes mask seen → ¬Unsettled seen) := by
  constructor
  · intro h
    refine ⟨fun newer m mid m' older hseen ↦ ?_, ?_⟩
    · exact h (.bank mask :: newer) m mid m' older (congrArg _ hseen)
    · rintro hchange ⟨mid, mask', older, rfl, hchange', hmid⟩
      exact hmid (h [] mask mid mask' older rfl hchange hchange')
  · rintro ⟨hseen, hlast⟩ newer m mid m' older heq hchange hchange'
    cases newer with
    | nil =>
      obtain ⟨hmask, rfl⟩ := List.cons.inj heq
      obtain rfl := Sighting.bank.inj hmask
      by_contra hmid
      exact hlast hchange ⟨mid, m', older, rfl, hchange', hmid⟩
    | cons x newer =>
      exact hseen newer m mid m' older (List.cons.inj heq).2 hchange hchange'

theorem changes_iff {a c : ℕ} (hlast : lastBank seen = some a) :
    Changes c seen ↔ a ≠ c := by
  constructor
  · rintro ⟨before, hbefore, hne⟩
    rw [hlast] at hbefore
    rwa [Option.some.inj hbefore]
  · exact fun hne ↦ ⟨a, hlast, hne⟩

theorem not_changes (h : lastBank seen = some mask) : ¬Changes mask seen :=
  fun hchange ↦ (changes_iff h).mp hchange rfl

/-- What decides how a run goes on: the bank, whether it has settled, and the promise so far. -/
structure Alike (seen seen' : List Sighting) : Prop where
  lastBank : lastBank seen' = lastBank seen
  unsettled : Unsettled seen' ↔ Unsettled seen
  breaks : BreaksBeforeMake seen' ↔ BreaksBeforeMake seen

/-- Commands that leave the bank as it is. By induction on their number. -/
theorem alike_replicate (k : ℕ) (h : lastBank seen = some mask) :
    Alike seen (List.replicate k (.bank mask) ++ seen) := by
  induction k with
  | zero => exact ⟨rfl, Iff.rfl, Iff.rfl⟩
  | succ k ih =>
    have hno := not_changes (ih.lastBank.trans h)
    rw [List.replicate_succ, List.cons_append]
    refine ⟨h.symm, ?_, ?_⟩
    · rw [unsettled_bank_iff, or_iff_right hno]
      exact ih.unsettled
    · rw [breaksBeforeMake_bank_iff, and_iff_left fun hc ↦ absurd hc hno]
      exact ih.breaks

end Sightings

/-! ## Going from one bank to another -/

/-- The bank stayed at `a` and then went to `c`. -/
def Went (a c : ℕ) (banks : List ℕ) : Prop :=
  ∃ k l, banks = List.replicate k c ++ List.replicate l a ∧ (a ≠ c → k ≠ 0)

/-- The sightings of some banks, before others. -/
def sight (banks : List ℕ) (older : List Sighting) : List Sighting := banks.map .bank ++ older

theorem sight_append (banks banks' : List ℕ) (older : List Sighting) :
    sight (banks ++ banks') older = sight banks (sight banks' older) := by
  rw [sight, List.map_append, List.append_assoc, sight, sight]

namespace Went

variable {a c : ℕ} {banks : List ℕ} {older : List Sighting}

/-- A change is one command, before and after which the bank stays. -/
theorem alike (h : Went a c banks) (hlast : lastBank older = some a) (hne : a ≠ c) :
    ∃ seen, Alike older seen ∧ Alike (.bank c :: seen) (sight banks older) := by
  obtain ⟨k, l, rfl, hk⟩ := h
  obtain ⟨k, rfl⟩ := Nat.exists_eq_succ_of_ne_zero (hk hne)
  refine ⟨_, alike_replicate l hlast, ?_⟩
  have hsight : sight (List.replicate (k + 1) c ++ List.replicate l a) older
      = List.replicate k (.bank c) ++ .bank c :: (List.replicate l (.bank a) ++ older) := by
    rw [sight_append, sight, sight, List.map_replicate, List.map_replicate, List.replicate_succ',
      List.append_assoc, List.singleton_append]
  rw [hsight]
  exact alike_replicate k rfl

theorem alike_of_eq (h : Went a a banks) (hlast : lastBank older = some a) :
    Alike older (sight banks older) := by
  obtain ⟨k, l, rfl, -⟩ := h
  rw [← List.replicate_add, sight, List.map_replicate]
  exact alike_replicate (k + l) hlast

theorem lastBank_eq (h : Went a c banks) (hlast : lastBank older = some a) :
    lastBank (sight banks older) = some c := by
  by_cases hac : a = c
  · obtain rfl := hac
    exact (h.alike_of_eq hlast).lastBank.trans hlast
  · obtain ⟨seen, -, hsight⟩ := h.alike hlast hac
    exact hsight.lastBank

theorem unsettled_iff (h : Went a c banks) (hlast : lastBank older = some a) :
    Unsettled (sight banks older) ↔ a ≠ c ∨ Unsettled older := by
  by_cases hac : a = c
  · obtain rfl := hac
    rw [(h.alike_of_eq hlast).unsettled]
    exact (or_iff_right fun hne ↦ hne rfl).symm
  · obtain ⟨seen, hseen, hsight⟩ := h.alike hlast hac
    rw [hsight.unsettled, unsettled_bank_iff, changes_iff (hseen.lastBank.trans hlast),
      hseen.unsettled]

theorem breaks_iff (h : Went a c banks) (hlast : lastBank older = some a) :
    BreaksBeforeMake (sight banks older) ↔
      BreaksBeforeMake older ∧ (a ≠ c → ¬Unsettled older) := by
  by_cases hac : a = c
  · obtain rfl := hac
    rw [(h.alike_of_eq hlast).breaks]
    exact (and_iff_left fun hne ↦ absurd rfl hne).symm
  · obtain ⟨seen, hseen, hsight⟩ := h.alike hlast hac
    rw [hsight.breaks, breaksBeforeMake_bank_iff, changes_iff (hseen.lastBank.trans hlast),
      hseen.breaks, hseen.unsettled]

end Went

/-! ## Going there by commands -/

/-- Since `older`, the bank stayed at `a`, or also went to `c`. -/
def OnTheWay (a c : ℕ) (older : List ℕ) (bank : ℕ) (history : List ℕ) : Prop :=
  ∃ k l, history = List.replicate k c ++ (List.replicate l a ++ older) ∧
    bank = if k = 0 then a else c

section OnTheWay

variable {a c : ℕ} {older : List ℕ}

theorem idle_onTheWay : Idle (OnTheWay a c older) := by
  rintro bank history ⟨k, l, rfl, hbank⟩
  by_cases hk : k = 0
  · rw [if_pos hk] at hbank
    refine ⟨0, l + 1, ?_, hbank⟩
    rw [hk, hbank, List.replicate_succ]
    rfl
  · rw [if_neg hk] at hbank
    refine ⟨k + 1, l, ?_, by rwa [if_neg (Nat.succ_ne_zero k)]⟩
    rw [hbank, List.replicate_succ]
    rfl

/-- A command that leads from `a` to `c` if anywhere, and changes nothing at `c`. -/
theorem admits_onTheWay {cmd : DeviceCmd}
    (ha : ∀ relays, execute relays a cmd = a ∨ execute relays a cmd = c)
    (hc : ∀ relays, execute relays c cmd = c) : Admits (OnTheWay a c older) cmd := by
  intro relays bank history h
  have hidle := idle_onTheWay bank history h
  obtain ⟨k, l, rfl, hbank⟩ := h
  by_cases hk : k = 0
  · rw [if_pos hk] at hbank
    obtain rfl := hbank
    rcases ha relays with hstay | hgo
    · rwa [hstay]
    · rw [hgo, hk]
      exact ⟨1, l, rfl, rfl⟩
  · rw [if_neg hk] at hbank
    obtain rfl := hbank
    rwa [hc relays]

theorem Stable.went {w : BankWorld} (h : Stable (OnTheWay a c older) w) (hbank : w.bank = c) :
    ∃ new, w.history = new ++ older ∧ Went a c new := by
  obtain ⟨k, l, hhistory, hw⟩ := h.bank
  refine ⟨_, by rw [hhistory, List.append_assoc], k, l, rfl, fun hne hk ↦ ?_⟩
  rw [if_pos hk, hbank] at hw
  exact hne hw.symm

theorem stable_onTheWay {m : Matrix BankWorld} (h : RestsAt a m) (c : ℕ) :
    Stable (OnTheWay a c m.world.history) m.world := by
  refine ⟨⟨0, 0, rfl, h.2⟩, fun cmd hcmd ↦ ?_⟩
  rw [h.1] at hcmd
  cases hcmd

end OnTheWay

variable (cfg : RelayConfig)

/-- **The force-off**, when it returns. -/
theorem post_forceAllOffAndVerify_went {bank : ℕ} {s : Matrix BankWorld} (h : RestsAt bank s) :
    Post (forceAllOffAndVerify cfg bankNet)
      (fun _ t ↦ RestsAt 0 t ∧ ∃ new, t.world.history = new ++ s.world.history ∧ Went bank 0 new)
      (fun _ _ ↦ True) s := by
  have hoff : Admits (OnTheWay bank 0 s.world.history) (.writeAll 0) :=
    admits_onTheWay (fun _ ↦ Or.inr (execute_writeAll_zero _ _)) fun _ ↦ execute_writeAll_zero _ _
  have hway := within_kept_iff.mp (respects_stable cfg idle_onTheWay hoff).forceAllOffAndVerify s
    (stable_onTheWay h 0)
  refine (hway.and (post_forceAllOffAndVerify_restsAt cfg s)).mono ?_ fun _ _ _ ↦ trivial
  exact fun _ t ht ↦ ⟨ht.2, ht.1.went ht.2.2⟩

theorem execute_on_zero (relays n : ℕ) :
    execute relays 0 (.on n) = 0 ∨ execute relays 0 (.on n) = 2 ^ n := by
  rw [execute]
  split
  · exact Or.inr (Nat.zero_or _)
  · exact Or.inl rfl

theorem execute_on_self (relays n : ℕ) : execute relays (2 ^ n) (.on n) = 2 ^ n := by
  rw [execute]
  split
  · exact Nat.or_self _
  · rfl

/-- Switching relay `n` on and verifying it, when it returns. The emergency shutdown, which would
switch it off again, ends in an exception. -/
theorem post_switchOn_went (n : ℕ) {s : Matrix BankWorld} (h : RestsAt 0 s) :
    Post (do
      write cfg bankNet n true
      verifySingle cfg bankNet n true
      verifyAll cfg bankNet (1 <<< n))
      (fun _ t ↦ RestsAt (2 ^ n) t ∧
        ∃ new, t.world.history = new ++ s.world.history ∧ Went 0 (2 ^ n) new)
      (fun _ _ ↦ True) s := by
  have hI : Idle (OnTheWay 0 (2 ^ n) s.world.history) := idle_onTheWay
  have hon : ∀ c, decode (writeText n true ++ CRLF) = some c →
      Admits (OnTheWay 0 (2 ^ n) s.world.history) c := by
    intro c hc
    rcases decode_writeText_true n with hnone | hsome
    · rw [hnone] at hc
      cases hc
    · rw [hsome] at hc
      rw [← Option.some.inj hc]
      exact admits_onTheWay (fun relays ↦ execute_on_zero relays n) fun relays ↦
        execute_on_self relays n
  refine (post_bind _).mpr ((post_write_stable cfg hI hon (stable_onTheWay h _)).mono ?_
    fun _ _ h ↦ h)
  intro _ t ht
  refine (post_bind _).mpr ((post_verifySingle_stable cfg hI n ht).mono ?_ fun _ _ h ↦ h)
  intro _ u hu
  have hverify := (post_verifyAll_stable cfg hI (1 <<< n) hu).and
    (post_verifyAll_restsAt cfg (1 <<< n) u)
  refine hverify.mono (fun _ v hv ↦ ?_) fun _ _ _ ↦ trivial
  rw [Nat.one_shiftLeft] at hv
  exact ⟨hv.2, hv.1.went hv.2.2⟩

/-! ## Public calls -/

/-- The part of a public call before its settling delay. -/
def RelayOp.impl (net : Net W) : RelayOp → RelayProg W Unit
  | .openChannel channel => openImpl cfg net channel
  | .closeChannel channel => closeImpl cfg net channel
  | .openAll => Nipxi.openAll cfg net

/-- Whether a public call settles. -/
def RelayOp.settles : RelayOp → Bool
  | .openChannel _ | .closeChannel _ => true
  | .openAll => false

theorem RelayOp.run_eq (net : Net W) (op : RelayOp) : op.run cfg net =
    if op.settles then (do op.impl cfg net; settle cfg) else op.impl cfg net := by
  cases op <;> rfl

/-- Where a public call takes the bank. -/
def RelayOp.Goes (bank : ℕ) (new : List ℕ) : RelayOp → Prop
  | .openChannel _ | .openAll => Went bank 0 new
  | .closeChannel channel =>
    ∃ off on, new = on ++ off ∧ Went bank 0 off ∧ Went 0 (2 ^ (channel - 1)) on

/-- **One public call**, when it returns. -/
theorem post_run_goes (op : RelayOp) {bank : ℕ} {s : Matrix BankWorld} (h : RestsAt bank s) :
    Post (op.run cfg bankNet)
      (fun _ t ↦ RestsAt op.bankAfter t ∧
        ∃ new, t.world.history = new ++ s.world.history ∧ op.Goes bank new)
      (fun _ _ ↦ True) s := by
  have hforce := post_forceAllOffAndVerify_went cfg h
  have himpl : Post (op.impl cfg bankNet)
      (fun _ t ↦ RestsAt op.bankAfter t ∧
        ∃ new, t.world.history = new ++ s.world.history ∧ op.Goes bank new)
      (fun _ _ ↦ True) s := by
    cases op with
    | openChannel channel => exact post_validateChannel_then cfg hforce
    | openAll => exact (post_bind _).mpr (hforce.mono (fun _ _ ht ↦ ht) fun _ _ ht ↦ ht)
    | closeChannel channel =>
      refine post_validateChannel_then cfg ((post_bind _).mpr (hforce.mono ?_ fun _ _ h ↦ h))
      rintro _ t ⟨hrest, off, hoff, hwent⟩
      refine (post_switchOn_went cfg (channel - 1) hrest).mono ?_ fun _ _ h ↦ h
      rintro _ u ⟨hrest', on, hon, hwent'⟩
      exact ⟨hrest', on ++ off, by rw [hon, hoff, List.append_assoc], off, on, rfl, hwent, hwent'⟩
  rw [RelayOp.run_eq]
  split
  · exact post_then_settle cfg himpl
  · exact himpl

/-! ## Runs -/

/-- The driver and its module, with what has been seen of them. -/
structure Watched where
  matrix : Matrix BankWorld
  seen : List Sighting

/-- The banks of the commands handled between two states. -/
def newBanks (s t : Matrix BankWorld) : List ℕ :=
  t.world.history.take (t.world.history.length - s.world.history.length)

theorem newBanks_eq {s t : Matrix BankWorld} {new : List ℕ}
    (h : t.world.history = new ++ s.world.history) : newBanks s t = new := by
  rw [newBanks, h, List.length_append, Nat.add_sub_cancel]
  exact List.take_left' rfl

/-- What is seen of a call from `s` to `t`, the settling delay being its end. -/
def RelayOp.sights (op : RelayOp) (s t : Matrix BankWorld) (older : List Sighting) :
    List Sighting :=
  if op.settles then .settled :: sight (newBanks s t) older else sight (newBanks s t) older

/-- Public calls that return, one after the other, from a module that rests at `bank`. -/
def watchedCalls (bank : ℕ) : System Watched RelayOp where
  init s := RestsAt bank s.matrix ∧ s.seen = [.bank bank]
  step s op t := op.run cfg bankNet s.matrix = .ok () t.matrix ∧
    t.seen = op.sights s.matrix t.matrix s.seen

/-- After these calls, newest first, the bank is empty and has settled since it last changed. -/
def Rested (bank : ℕ) : List RelayOp → Prop
  | [] => bank = 0
  | .openChannel _ :: _ => True
  | .closeChannel _ :: _ => False
  | .openAll :: earlier => Rested bank earlier

/-- Every `close` finds the bank empty and settled. -/
def ClosesRested (bank : ℕ) (ops : List RelayOp) : Prop :=
  ∀ later channel earlier, ops = later ++ .closeChannel channel :: earlier → Rested bank earlier

theorem closesRested_cons_iff {bank : ℕ} {op : RelayOp} {ops : List RelayOp} :
    ClosesRested bank (op :: ops) ↔
      ClosesRested bank ops ∧ ∀ channel, op = .closeChannel channel → Rested bank ops := by
  constructor
  · intro h
    refine ⟨fun later channel earlier hops ↦ ?_, fun channel hop ↦ ?_⟩
    · exact h (op :: later) channel earlier (congrArg _ hops)
    · exact h [] channel ops (by rw [hop, List.nil_append])
  · rintro ⟨hops, hop⟩ later channel earlier heq
    cases later with
    | nil =>
      obtain ⟨hclose, rfl⟩ := List.cons.inj heq
      exact hop channel hclose
    | cons x later => exact hops later channel earlier (List.cons.inj heq).2

/-- What a run has come to: where the bank rests and whether it has settled is told by its calls,
and a bank that has not settled is empty. -/
structure Course (start : ℕ) (ops : List RelayOp) (bank : ℕ) (seen : List Sighting) : Prop where
  last : lastBank seen = some bank
  empty : Unsettled seen → bank = 0
  rested : bank = 0 ∧ ¬Unsettled seen ↔ Rested start ops
  breaks : BreaksBeforeMake seen ↔ ClosesRested start ops

namespace Course

variable {start bank : ℕ} {ops : List RelayOp} {seen : List Sighting} {new : List ℕ}

theorem init (start : ℕ) : Course start [] start [.bank start] where
  last := rfl
  empty := by
    rw [unsettled_bank_iff]
    rintro (⟨before, hbefore, -⟩ | ⟨mid, mask, older, hseen, -⟩)
    · cases hbefore
    · cases mid <;> cases hseen
  rested := by
    refine and_iff_left ?_
    rw [unsettled_bank_iff]
    rintro (⟨before, hbefore, -⟩ | ⟨mid, mask, older, hseen, -⟩)
    · cases hbefore
    · cases mid <;> cases hseen
  breaks := by
    refine iff_of_true ?_ ?_
    · intro newer mask mid mask' older hseen
      have hlength := congrArg List.length hseen
      simp only [List.length_append, List.length_cons, List.length_nil] at hlength
      omega
    · intro later channel earlier hops
      cases later <;> cases hops

/-- The force-off of any call breaks nothing: a bank that has not settled is empty already. -/
theorem breaks_off (h : Course start ops bank seen) (hnew : Went bank 0 new) :
    BreaksBeforeMake (sight new seen) ↔ ClosesRested start ops := by
  rw [hnew.breaks_iff h.last, h.breaks]
  exact and_iff_left fun hne hunsettled ↦ hne (h.empty hunsettled)

/-- The bank is empty after the force-off, and has not settled if it was not so before. -/
theorem unsettled_off (h : Course start ops bank seen) (hnew : Went bank 0 new) :
    ¬Unsettled (sight new seen) ↔ Rested start ops := by
  rw [hnew.unsettled_iff h.last, ← h.rested]
  tauto

theorem openChannel (h : Course start ops bank seen) (channel : ℕ) (hnew : Went bank 0 new) :
    Course start (.openChannel channel :: ops) 0 (.settled :: sight new seen) where
  last := hnew.lastBank_eq h.last
  empty hunsettled := absurd hunsettled (not_unsettled_settled _)
  rested := iff_of_true ⟨rfl, not_unsettled_settled _⟩ trivial
  breaks := by
    rw [breaksBeforeMake_settled_iff, h.breaks_off hnew, closesRested_cons_iff]
    exact (and_iff_left nofun).symm

theorem openAll (h : Course start ops bank seen) (hnew : Went bank 0 new) :
    Course start (.openAll :: ops) 0 (sight new seen) where
  last := hnew.lastBank_eq h.last
  empty _ := rfl
  rested := (and_iff_right rfl).trans (h.unsettled_off hnew)
  breaks := by
    rw [h.breaks_off hnew, closesRested_cons_iff]
    exact (and_iff_left nofun).symm

theorem closeChannel (h : Course start ops bank seen) (channel : ℕ) (hnew : Went bank 0 new)
    {on : List ℕ} (hon : Went 0 (2 ^ (channel - 1)) on) :
    Course start (.closeChannel channel :: ops) (2 ^ (channel - 1))
      (.settled :: sight (on ++ new) seen) where
  last := by
    rw [sight_append]
    exact hon.lastBank_eq (hnew.lastBank_eq h.last)
  empty hunsettled := absurd hunsettled (not_unsettled_settled _)
  rested := iff_of_false (fun hzero ↦ (Nat.two_pow_pos _).ne' hzero.1) id
  breaks := by
    have hne : (0 : ℕ) ≠ 2 ^ (channel - 1) := (Nat.two_pow_pos _).ne
    rw [breaksBeforeMake_settled_iff, sight_append, hon.breaks_iff (hnew.lastBank_eq h.last),
      h.breaks_off hnew, closesRested_cons_iff]
    refine and_congr_right fun _ ↦ ?_
    -- the relay is switched on with no delay after the force-off
    rw [h.unsettled_off hnew]
    exact ⟨fun hrested _ _ ↦ hrested hne, fun hrested _ ↦ hrested channel rfl⟩

end Course

/-- What a run has come to, by induction on it. -/
private theorem watchedCalls_course {cfg : RelayConfig} {start : ℕ} {ops : List RelayOp}
    {s : Watched} (h : Run (watchedCalls cfg start) ops s) :
    ∃ bank, RestsAt bank s.matrix ∧ Course start ops bank s.seen := by
  refine h.induction (I := fun ops s ↦ ∃ bank, RestsAt bank s.matrix ∧ Course start ops bank s.seen)
    ?_ ?_
  · rintro s ⟨hrest, hseen⟩
    rw [hseen]
    exact ⟨start, hrest, .init start⟩
  · rintro ops s op t - ⟨bank, hrest, hcourse⟩ ⟨hrun, hseen⟩
    have hpost := post_run_goes cfg op hrest
    rw [post_of_ok hrun] at hpost
    obtain ⟨hrest', new, hnew, hgoes⟩ := hpost
    refine ⟨op.bankAfter, hrest', ?_⟩
    rw [hseen, RelayOp.sights, newBanks_eq hnew]
    cases op with
    | openChannel channel => exact hcourse.openChannel channel hgoes
    | openAll => exact hcourse.openAll hgoes
    | closeChannel channel =>
      obtain ⟨off, on, rfl, hoff, hon⟩ := hgoes
      exact hcourse.closeChannel channel hoff hon

/-- **When a break comes before every make.** In a run of calls that return, a settling delay
elapses between any two commands that change the bank exactly if every `close` finds the bank
empty and settled. -/
theorem breaksBeforeMake_iff {cfg : RelayConfig} {start : ℕ} {ops : List RelayOp} {s : Watched}
    (h : Run (watchedCalls cfg start) ops s) :
    BreaksBeforeMake s.seen ↔ ClosesRested start ops := by
  obtain ⟨bank, -, hcourse⟩ := watchedCalls_course h
  exact hcourse.breaks

/-- A module with channel 2 energized, as it is first seen. -/
def promptWatched : Watched := ⟨promptModule, [.bank 2]⟩

/-- Opening channel 2 and then closing channel 3 both return, and a settling delay elapses between
them. -/
theorem breaksBeforeMake_openFirst :
    ∃ s, Run (watchedCalls numatoConfig 2) [.closeChannel 3, .openChannel 2] s ∧
      BreaksBeforeMake s.seen := by
  have hruns : ((do
      (RelayOp.openChannel 2).run numatoConfig bankNet
      (RelayOp.closeChannel 3).run numatoConfig bankNet :
        RelayProg BankWorld Unit) promptModule).final.map (·.world.bank) = some 4 := by
    decide +kernel
  obtain ⟨_, u, hboth, -⟩ := Outcome.exists_of_final hruns
  obtain ⟨_, t, ht, hu⟩ := exists_of_bind_eq_ok hboth
  have hopen : Run (watchedCalls numatoConfig 2) [.openChannel 2]
      ⟨t, (RelayOp.openChannel 2).sights promptModule t promptWatched.seen⟩ :=
    .step (s := promptWatched) (.init ⟨⟨rfl, rfl⟩, rfl⟩) ⟨ht, rfl⟩
  have hrun : Run (watchedCalls numatoConfig 2) [.closeChannel 3, .openChannel 2]
      ⟨u, (RelayOp.closeChannel 3).sights t u
        ((RelayOp.openChannel 2).sights promptModule t promptWatched.seen)⟩ :=
    .step hopen ⟨hu, rfl⟩
  refine ⟨_, hrun, (breaksBeforeMake_iff hrun).mpr ?_⟩
  rw [closesRested_cons_iff, closesRested_cons_iff]
  refine ⟨⟨fun later _ _ hops ↦ ?_, nofun⟩, fun _ _ ↦ trivial⟩
  cases later <;> cases hops

/-- Closing channel 3 while channel 2 is energized: no delay between the two. -/
theorem not_breaksBeforeMake_energized :
    ¬∀ ops s, Run (watchedCalls numatoConfig 2) ops s → BreaksBeforeMake s.seen := by
  intro hall
  have hruns : ((RelayOp.closeChannel 3).run numatoConfig bankNet promptModule).final.map
      (·.world.bank) = some 4 := by
    decide +kernel
  obtain ⟨_, t, ht, -⟩ := Outcome.exists_of_final hruns
  have hrun : Run (watchedCalls numatoConfig 2) [.closeChannel 3]
      ⟨t, (RelayOp.closeChannel 3).sights promptModule t promptWatched.seen⟩ :=
    .step (s := promptWatched) (.init ⟨⟨rfl, rfl⟩, rfl⟩) ⟨ht, rfl⟩
  obtain ⟨_, -, hcourse⟩ := watchedCalls_course hrun
  have hrested : Rested 2 [] := hcourse.breaks.mp (hall _ _ hrun) [] 3 [] rfl
  cases hrested

end Nipxi
