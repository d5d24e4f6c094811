import Nipxi.TestControl.BatteryTestSequence
import Nipxi.Utils.Numbers

/-!
# Relays and current in `BatteryTestSequence`

`BatteryTestSequence.run` reads the current of a channel before it closes its relay, and again
between charge and discharge. Its `relay.open` stands in an `else`: where the second current is not
zero, `continue` leaves the `try` without it, and the relay stays closed. What is raised outside the
`try` (by the current at the head of a round, by `relay.open`) leaves without a shutdown. A run in
which none of this happens keeps its relays (`keepsRelays_of_runs`).

The two cycles are calls of the bench, which may end in any way; the currents are those that
`_read_current` reads. What the cycles read themselves is in `TestExecutor`, where the same loop
(`run_eq_sequence`) is run with their code.
-/

open Collections Effect

namespace Nipxi

/-- `abs(x)`. -/
def PyNumber.abs : PyNumber → PyNumber
  | .nan => .nan
  | .negInf | .posInf => .posInf
  | .finite x => .finite |x|

namespace BatteryTest

/-! ## The bench -/

/-- What `read_all_batteries` says of a battery: `sample.get("current_a")`. -/
structure BatterySample where
  currentA : Option PyNumber

/-- A call, and the way it ended. -/
inductive BenchCall where
  /-- `_read_current(channel)`. -/
  | readCurrent (channel : ℤ) (result : Except Exc PyNumber)
  | checkCancellation (raised : Option Exc)
  | relayClose (channel : ℤ) (raised : Option Exc)
  | relayOpen (channel : ℤ) (raised : Option Exc)
  /-- `charge.run(channel, ..)`, with what it measures and switches itself. -/
  | charge (channel : ℤ) (raised : Option Exc)
  /-- `discharge.run(channel, ..)`. -/
  | discharge (channel : ℤ) (raised : Option Exc)
  | emergencyStop (reason : String) (raised : Option Exc)
  | safeCancelShutdown (reason : String) (raised : Option Exc)

/-- A bench over worlds `X`. Every call may return or raise, and changes the world as it likes. -/
structure TestBench (X : Type) where
  /-- `ZERO_CURRENT_THRESHOLD_A`. -/
  zeroCurrentThresholdA : ℚ
  /-- `ACTIVE_CHANNELS`. -/
  activeChannels : List ℤ
  readAllBatteries : X → Except Exc (Dict ℤ BatterySample) × X
  checkCancellation : X → Option Exc × X
  relayClose : ℤ → X → Option Exc × X
  relayOpen : ℤ → X → Option Exc × X
  charge : ℤ → X → Option Exc × X
  discharge : ℤ → X → Option Exc × X
  emergencyStop : String → X → Option Exc × X
  safeCancelShutdown : String → X → Option Exc × X

variable {X : Type}

/-- Programs that use the bench. -/
abbrev BenchProg (X α : Type) := Prog Exc (Journal X BenchCall) α

/-! ## The sequence -/

/-- `is_safe_to_switch_relay(current_a)`. -/
def isSafeToSwitchRelay (thresholdA : ℚ) (currentA : PyNumber) : Bool :=
  currentA.abs.le (.finite thresholdA)

/-- `batteries.get(channel, {}).get("current_a", 0.0)`. -/
def currentOf (batteries : Dict ℤ BatterySample) (channel : ℤ) : PyNumber :=
  ((batteries.get? channel).bind BatterySample.currentA).getD (.finite 0)

section Sequence

variable (b : TestBench X)

/-- `_read_current(channel)`. -/
def readCurrent (channel : ℤ) : BenchProg X PyNumber :=
  Journal.ask (fun x ↦ ((b.readAllBatteries x).1.map (currentOf · channel),
    (b.readAllBatteries x).2)) (.readCurrent channel)

/-- The body of the `try`, and whether it came to its end: `continue` leaves it before. -/
def testChannel (channel : ℤ) : BenchProg X Bool := do
  Journal.call b.checkCancellation .checkCancellation
  Journal.call (b.relayClose channel) (.relayClose channel)
  Journal.call (b.charge channel) (.charge channel)
  let current ← readCurrent b channel
  if isSafeToSwitchRelay b.zeroCurrentThresholdA current then do
    Journal.call (b.discharge channel) (.discharge channel)
    pure true
  else pure false

/-- The shutdown of the `except` clauses. Those of `SafetyViolationError`, `RelayError` and
`Exception` differ in what they log. -/
def shutDown (e : Exc) : BenchProg X PUnit :=
  if e.isInstance [.operationCancelledError] then
    Journal.call (b.safeCancelShutdown e.message) (.safeCancelShutdown e.message)
  else Journal.call (b.emergencyStop e.message) (.emergencyStop e.message)

/-- The `except` clauses. -/
def shutDownAfter (e : Exc) : BenchProg X Bool := do
  shutDown b e
  Prog.raise e

/-- A round of the loop. -/
def runChannel (channel : ℤ) : BenchProg X PUnit := do
  let current ← readCurrent b channel
  if isSafeToSwitchRelay b.zeroCurrentThresholdA current then do
    let completed ← (testChannel b channel).handle (shutDownAfter b)
    if completed then Journal.call (b.relayOpen channel) (.relayOpen channel) else pure ⟨⟩
  else pure ⟨⟩

/-- `channels or ACTIVE_CHANNELS`. -/
def TestBench.channelsOrActive : Option (List ℤ) → List ℤ
  | none | some [] => b.activeChannels
  | some channels => channels

/-- `BatteryTestSequence.run`. -/
def run (channels : Option (List ℤ)) : BenchProg X PUnit :=
  Prog.forEach (runChannel b) (b.channelsOrActive channels)

/-- The steps of the sequence on a bench. -/
def steps : BatteryTestSteps (Journal X BenchCall) where
  isSafeToSwitchRelay channel := do
    let current ← readCurrent b channel
    pure (isSafeToSwitchRelay b.zeroCurrentThresholdA current)
  checkCancellation := Journal.call b.checkCancellation .checkCancellation
  relayClose channel := Journal.call (b.relayClose channel) (.relayClose channel)
  relayOpen channel := Journal.call (b.relayOpen channel) (.relayOpen channel)
  charge channel := Journal.call (b.charge channel) (.charge channel)
  discharge channel := Journal.call (b.discharge channel) (.discharge channel)
  shutDown := shutDown b

/-- The sequence on a bench is the loop over its steps. -/
theorem run_eq_sequence (channels : Option (List ℤ)) :
    run b channels = (steps b).run (b.channelsOrActive channels) := by
  have htry (channel : ℤ) : testChannel b channel = (steps b).tryChannel channel := by
    simp [testChannel, BatteryTestSteps.tryChannel, steps]
  have hround : runChannel b = (steps b).runChannel := by
    funext channel
    simp only [runChannel, htry, BatteryTestSteps.runChannel, steps, bind_assoc, pure_bind]
    rfl
  rw [run, hround, BatteryTestSteps.run]

end Sequence

/-! ## The law -/

/-- The relay of the channel was closed, and not opened since. -/
def isClosed (channel : ℤ) : List BenchCall → Bool
  | [] => false
  | .relayClose n none :: older => n == channel || isClosed channel older
  | .relayOpen n none :: older => n != channel && isClosed channel older
  | _ :: older => isClosed channel older

/-- The latest current read for the channel. -/
def latestCurrent (channel : ℤ) : List BenchCall → Option PyNumber
  | [] => none
  | .readCurrent n (.ok current) :: older =>
    if n = channel then some current else latestCurrent channel older
  | _ :: older => latestCurrent channel older

namespace BenchCall

/-- `relay.close` or `relay.open` was called. -/
def IsSwitch : BenchCall → Prop
  | relayClose _ _ | relayOpen _ _ => True
  | _ => False

/-- `emergency_stop` or `safe_cancel_shutdown` was called. -/
def IsShutdown : BenchCall → Prop
  | emergencyStop _ _ | safeCancelShutdown _ _ => True
  | _ => False

/-- If this switches a relay, the latest current read for each channel whose relay is closed is
zero. -/
def SwitchesUnloaded (thresholdA : ℚ) (c : BenchCall) (older : List BenchCall) : Prop :=
  c.IsSwitch → ∀ channel, isClosed channel older = true →
    ∃ current, latestCurrent channel older = some current ∧
      isSafeToSwitchRelay thresholdA current = true

/-- A call past the `try`: a current that is not zero after a charge, an exception of `relay.open`,
or one of a current that is read at the head of a round when a relay was closed already. -/
def PassesTry (thresholdA : ℚ) : BenchCall → List BenchCall → Prop
  | readCurrent _ (.ok current), charge _ none :: _ =>
    isSafeToSwitchRelay thresholdA current = false
  | readCurrent _ (.error _), charge _ none :: _ => False
  | readCurrent _ (.error _), older => ∃ channel, relayClose channel none ∈ older
  | relayOpen _ (some _), _ => True
  | _, _ => False

end BenchCall

/-- What is asked of a run that returned, or raised an exception. -/
def KeepsRelays (thresholdA : ℚ) : Option Exc → List BenchCall → Prop
  | none, new => AtEach (BenchCall.SwitchesUnloaded thresholdA) new ∧
    ∀ channel, isClosed channel new = false
  | some _, new => AtEach (BenchCall.SwitchesUnloaded thresholdA) new ∧
    ((∃ channel, .relayClose channel none ∈ new) → ∃ c ∈ new, c.IsShutdown)

/-- No call of the run passes the `try`. -/
def StaysInTry (thresholdA : ℚ) : List BenchCall → Prop :=
  AtEach fun c older ↦ ¬c.PassesTry thresholdA older

/-! ## A round -/

theorem isClosed_append {new : List BenchCall} (hnew : ∀ c ∈ new, ¬c.IsSwitch) (channel : ℤ)
    (old : List BenchCall) : isClosed channel (new ++ old) = isClosed channel old := by
  induction new with
  | nil => rfl
  | cons c new ih =>
    have hc := hnew c List.mem_cons_self
    have ih := ih fun d hd ↦ hnew d (List.mem_cons_of_mem c hd)
    cases c with
    | relayClose n raised => exact absurd trivial hc
    | relayOpen n raised => exact absurd trivial hc
    | _ => exact ih

theorem BenchCall.switchesUnloaded_of_not {thresholdA : ℚ} {c : BenchCall} (h : ¬c.IsSwitch)
    (older : List BenchCall) : c.SwitchesUnloaded thresholdA older := fun hswitch ↦ absurd hswitch h

/-- Between two rounds of a run that stayed in its `try`, every relay is open. -/
structure Settled (thresholdA : ℚ) (new : List BenchCall) : Prop where
  unloaded : AtEach (BenchCall.SwitchesUnloaded thresholdA) new
  opened : ∀ channel, isClosed channel new = false
  between : ∀ channel raised older, new ≠ .charge channel raised :: older

section Rounds

variable {thresholdA : ℚ} {old : List BenchCall}

theorem settled_nil : Settled thresholdA [] := ⟨trivial, fun _ ↦ rfl, fun _ _ _ h ↦ by cases h⟩

theorem switchesUnloaded_of_opened {c : BenchCall} {new : List BenchCall}
    (h : ∀ channel, isClosed channel new = false) : c.SwitchesUnloaded thresholdA new := by
  intro _ channel hclosed
  rw [h channel] at hclosed
  cases hclosed

theorem Settled.skip (h : Settled thresholdA old) (channel : ℤ)
    (result : Except Exc PyNumber) : Settled thresholdA (.readCurrent channel result :: old) := by
  have hread : ∀ c ∈ [BenchCall.readCurrent channel result], ¬c.IsSwitch :=
    List.forall_mem_singleton.mpr id
  refine ⟨⟨BenchCall.switchesUnloaded_of_not id old, h.unloaded⟩, fun n ↦ ?_,
    fun _ _ _ h ↦ by cases h⟩
  exact (isClosed_append hread n old).trans (h.opened n)

/-- The relay is closed and the battery charged: only the relay of the channel is closed. -/
def chargedTrace (channel : ℤ) (current : PyNumber) (old : List BenchCall) : List BenchCall :=
  .readCurrent channel (.ok current) :: .charge channel none :: .relayClose channel none ::
    .checkCancellation none :: old

theorem Settled.unloaded_chargedTrace (h : Settled thresholdA old) (channel : ℤ)
    (current : PyNumber) :
    AtEach (BenchCall.SwitchesUnloaded thresholdA) (chargedTrace channel current old) := by
  refine ⟨BenchCall.switchesUnloaded_of_not id _, BenchCall.switchesUnloaded_of_not id _, ?_,
    BenchCall.switchesUnloaded_of_not id _, h.unloaded⟩
  exact switchesUnloaded_of_opened h.opened

theorem Settled.isClosed_chargedTrace (h : Settled thresholdA old) (channel n : ℤ)
    (current : PyNumber) : isClosed n (chargedTrace channel current old) = (channel == n) := by
  change (channel == n || isClosed n old) = (channel == n)
  rw [h.opened n, Bool.or_false]

/-- A round that came to its end. -/
theorem Settled.switch (h : Settled thresholdA old) (channel : ℤ) {current : PyNumber}
    (hsafe : isSafeToSwitchRelay thresholdA current = true) :
    Settled thresholdA (.relayOpen channel none :: .discharge channel none ::
      chargedTrace channel current old) := by
  refine ⟨⟨fun _ n hclosed ↦ ?_, BenchCall.switchesUnloaded_of_not id _,
    h.unloaded_chargedTrace channel current⟩, fun n ↦ ?_, fun _ _ _ h ↦ by cases h⟩
  · change isClosed n (chargedTrace channel current old) = true at hclosed
    rw [h.isClosed_chargedTrace, beq_iff_eq] at hclosed
    refine ⟨current, ?_, hsafe⟩
    rw [← hclosed]
    exact if_pos rfl
  · change (channel != n && isClosed n (chargedTrace channel current old)) = false
    rw [h.isClosed_chargedTrace, bne, Bool.not_and_self]

variable {X : Type} (b : TestBench X) (channel : ℤ)

/-- How the body of the `try` ends. -/
theorem post_testChannel (s : Journal X BenchCall) :
    Post (testChannel b channel)
      (fun completed t ↦ ∃ current,
        isSafeToSwitchRelay b.zeroCurrentThresholdA current = completed ∧
        t.entries = cond completed
          (.discharge channel none :: chargedTrace channel current s.entries)
          (chargedTrace channel current s.entries))
      (fun _ t ↦ ∃ work : List BenchCall, (∀ c ∈ work, ¬c.IsSwitch) ∧
        (t.entries = work ++ s.entries ∨ ∃ raised, t.entries =
          work ++ .relayClose channel raised :: .checkCancellation none :: s.entries)) s := by
  refine (post_bind _).mpr ((Journal.post_call _ _ s).mono (fun _ t ht ↦ ?_) fun e t ht ↦ ?_)
  · refine (post_bind _).mpr ((Journal.post_call _ _ t).mono (fun _ u hu ↦ ?_) fun e u hu ↦ ?_)
    · rw [ht] at hu
      refine (post_bind _).mpr ((Journal.post_call _ _ u).mono (fun _ v hv ↦ ?_) fun e v hv ↦ ?_)
      · rw [hu] at hv
        refine (post_bind _).mpr ((Journal.post_ask _ _ v).mono (fun current w hw ↦ ?_)
          fun e w hw ↦ ?_)
        · rw [hv] at hw
          refine post_ite.mpr ?_
          split
          · next hsafe =>
            refine (post_bind _).mpr ((Journal.post_call _ _ w).mono (fun _ x hx ↦ ?_)
              fun e x hx ↦ ?_)
            · rw [hw] at hx
              exact (post_pure _).mpr ⟨current, hsafe, hx⟩
            · rw [hw] at hx
              refine ⟨[_, _, _], fun c hc ↦ ?_, .inr ⟨none, hx⟩⟩
              simp only [List.mem_cons, List.not_mem_nil, or_false] at hc
              rcases hc with rfl | rfl | rfl <;> exact id
          -- `continue`: the relay is closed, and stays so.
          · next hload => exact (post_pure _).mpr ⟨current, Bool.eq_false_of_not_eq_true hload, hw⟩
        · rw [hv] at hw
          refine ⟨[_, _], fun c hc ↦ ?_, .inr ⟨none, hw⟩⟩
          simp only [List.mem_cons, List.not_mem_nil, or_false] at hc
          rcases hc with rfl | rfl <;> exact id
      · rw [hu] at hv
        exact ⟨[_], List.forall_mem_singleton.mpr id, .inr ⟨none, hv⟩⟩
    · rw [ht] at hu
      exact ⟨[], fun c hc ↦ absurd hc List.not_mem_nil, .inr ⟨some e, hu⟩⟩
  · exact ⟨[_], List.forall_mem_singleton.mpr id, .inl ht⟩

/-- An exception of the `try` ends in a shutdown. -/
theorem post_shutDownAfter (e : Exc) (s : Journal X BenchCall) :
    Post (shutDownAfter b e) (fun _ _ ↦ False)
      (fun _ t ↦ ∃ c : BenchCall, t.entries = c :: s.entries ∧ c.IsShutdown ∧ ¬c.IsSwitch) s := by
  have hcall : Post (shutDown b e)
      (fun _ t ↦ ∃ c : BenchCall, t.entries = c :: s.entries ∧ c.IsShutdown ∧ ¬c.IsSwitch)
      (fun _ t ↦ ∃ c : BenchCall, t.entries = c :: s.entries ∧ c.IsShutdown ∧ ¬c.IsSwitch) s := by
    refine post_ite.mpr ?_
    split
    · exact (Journal.post_call _ _ s).mono (fun _ _ ht ↦ ⟨_, ht, trivial, id⟩)
        fun _ _ ht ↦ ⟨_, ht, trivial, id⟩
    · exact (Journal.post_call _ _ s).mono (fun _ _ ht ↦ ⟨_, ht, trivial, id⟩)
        fun _ _ ht ↦ ⟨_, ht, trivial, id⟩
  refine (post_bind _).mpr (hcall.mono (fun _ t h ↦ ?_) fun _ _ h ↦ h)
  exact (post_raise _).mpr h

/-- What a round finds, and what it leaves if it returns. -/
def Sound (thresholdA : ℚ) (new : List BenchCall) : Prop :=
  StaysInTry thresholdA new → Settled thresholdA new

theorem Sound.skip (h : Sound thresholdA old) (channel : ℤ) (current : PyNumber) :
    Sound thresholdA (.readCurrent channel (.ok current) :: old) := fun hstays ↦
  (h hstays.2).skip channel (.ok current)

/-- The current at the head of a round cannot be read: nothing was closed before, as the run would
have passed its `try`. -/
theorem Sound.unread (h : Sound thresholdA old) (channel : ℤ) (e : Exc)
    (hstays : StaysInTry thresholdA (.readCurrent channel (.error e) :: old)) :
    KeepsRelays thresholdA (some e) (.readCurrent channel (.error e) :: old) := by
  have hsettled := h hstays.2
  refine ⟨(hsettled.skip channel (.error e)).unloaded, ?_⟩
  rintro ⟨n, hn⟩
  rcases List.mem_cons.mp hn with hn | hn
  · cases hn
  refine absurd ?_ hstays.1
  cases old with
  | nil => cases hn
  | cons c older =>
    cases c with
    -- A charge right before the current would be the one of this round.
    | charge m raised => exact absurd rfl (hsettled.between m raised older)
    | _ => exact ⟨n, hn⟩

/-- A round ends in a shutdown. -/
theorem keepsRelays_of_isShutdown {e : Exc} {c : BenchCall} {work new : List BenchCall}
    (hshutdown : c.IsShutdown) (hswitch : ¬c.IsSwitch) (hwork : ∀ d ∈ work, ¬d.IsSwitch)
    (hnew : AtEach (BenchCall.SwitchesUnloaded thresholdA) new) :
    KeepsRelays thresholdA (some e) (c :: (work ++ new)) := by
  refine ⟨⟨BenchCall.switchesUnloaded_of_not hswitch _, ?_⟩,
    fun _ ↦ ⟨c, List.mem_cons_self, hshutdown⟩⟩
  exact hnew.append fun d hd older ↦ BenchCall.switchesUnloaded_of_not (hwork d hd) older

/-- The `try` of a round, and what is past it. -/
theorem post_switchChannel {s₀ s : Journal X BenchCall}
    (hs : Added Journal.entries (Sound b.zeroCurrentThresholdA) s₀ s) :
    Post (do
        let completed ← (testChannel b channel).handle (shutDownAfter b)
        if completed then Journal.call (b.relayOpen channel) (.relayOpen channel) else pure ⟨⟩)
      (fun _ t ↦ Added Journal.entries (Sound b.zeroCurrentThresholdA) s₀ t)
      (fun e t ↦ Added Journal.entries (fun new ↦ StaysInTry b.zeroCurrentThresholdA new →
        KeepsRelays b.zeroCurrentThresholdA (some e) new) s₀ t) s := by
  obtain ⟨old, hs, hold⟩ := hs
  refine (post_bind _).mpr ((post_handle _).mpr ((post_testChannel b channel s).mono
    (fun completed u hu ↦ ?_) fun e u hu ↦ ?_))
  · obtain ⟨charged, hsafe, hu⟩ := hu
    rw [hs] at hu
    cases completed with
    | true =>
      refine (Journal.post_call _ _ u).mono (fun _ v hv ↦ ?_) fun e v hv ↦ ?_
      · rw [hu] at hv
        refine ⟨_ :: _ :: chargedTrace channel charged old, hv, fun hstays ↦ ?_⟩
        have hstays' : StaysInTry b.zeroCurrentThresholdA old := hstays.2.2.2.2.2.2
        exact (hold hstays').switch channel hsafe
      · -- `relay.open` in the `else`, outside the `try`.
        rw [hu] at hv
        refine ⟨_ :: _ :: chargedTrace channel charged old, hv, fun hstays ↦ ?_⟩
        exact absurd trivial hstays.1
    | false =>
      -- The `continue` with the relay closed.
      refine (post_pure _).mpr ⟨chargedTrace channel charged old, hu, fun hstays ↦ ?_⟩
      exact absurd hsafe hstays.1
  · refine (post_shutDownAfter b e u).mono (fun _ _ h ↦ h.elim) fun e' v hv ↦ ?_
    obtain ⟨c, hv, hshutdown, hswitch⟩ := hv
    obtain ⟨work, hwork, hu⟩ := hu
    rcases hu with hu | ⟨raised, hu⟩
    · rw [hu, hs, ← List.append_assoc, ← List.cons_append] at hv
      refine ⟨c :: (work ++ old), hv, fun hstays ↦ ?_⟩
      exact keepsRelays_of_isShutdown hshutdown hswitch hwork (hold hstays.2.of_append).unloaded
    · rw [hu, hs] at hv
      refine ⟨c :: (work ++ .relayClose channel raised :: .checkCancellation none :: old), ?_,
        fun hstays ↦ ?_⟩
      · rw [hv, List.cons_append, List.append_assoc, List.cons_append, List.cons_append]
      have hsettled := hold hstays.2.of_append.2.2
      exact keepsRelays_of_isShutdown hshutdown hswitch hwork
        ⟨switchesUnloaded_of_opened hsettled.opened, BenchCall.switchesUnloaded_of_not id _,
          hsettled.unloaded⟩

/-- **A round.** -/
theorem post_runChannel {s₀ s : Journal X BenchCall}
    (hs : Added Journal.entries (Sound b.zeroCurrentThresholdA) s₀ s) :
    Post (runChannel b channel)
      (fun _ t ↦ Added Journal.entries (Sound b.zeroCurrentThresholdA) s₀ t)
      (fun e t ↦ Added Journal.entries (fun new ↦ StaysInTry b.zeroCurrentThresholdA new →
        KeepsRelays b.zeroCurrentThresholdA (some e) new) s₀ t) s := by
  obtain ⟨old, hs, hold⟩ := hs
  refine (post_bind _).mpr ((Journal.post_ask _ _ s).mono (fun current t ht ↦ ?_) fun e t ht ↦ ?_)
  · rw [hs] at ht
    have hread : Added Journal.entries (Sound b.zeroCurrentThresholdA) s₀ t :=
      ⟨_ :: old, ht, hold.skip channel current⟩
    refine post_ite.mpr ?_
    split
    · exact post_switchChannel b channel hread
    · exact (post_pure _).mpr hread
  · rw [hs] at ht
    exact ⟨_ :: old, ht, hold.unread channel e⟩

end Rounds

/-! ## The run -/

/-- **When the sequence keeps its relays.** In a run none of whose calls passes the `try`, a relay
is switched only where the latest current read for each channel whose relay is closed is zero; every
relay is open when the run returns; and an exception leaves it after a shutdown, if a relay was
closed. -/
theorem keepsRelays_of_runs {X : Type} (b : TestBench X) (channels : Option (List ℤ))
    (s : Journal X BenchCall) :
    Post (run b channels)
      (fun _ t ↦ Added Journal.entries (fun new ↦ StaysInTry b.zeroCurrentThresholdA new →
        KeepsRelays b.zeroCurrentThresholdA none new) s t)
      (fun e t ↦ Added Journal.entries (fun new ↦ StaysInTry b.zeroCurrentThresholdA new →
        KeepsRelays b.zeroCurrentThresholdA (some e) new) s t) s := by
  have hs : Added Journal.entries (Sound b.zeroCurrentThresholdA) s s :=
    ⟨[], rfl, fun _ ↦ settled_nil⟩
  refine (post_forEach (fun channel _ h ↦ post_runChannel b channel h) _ hs).mono
    (fun _ t ht ↦ ?_) fun _ _ h ↦ h
  exact ht.mono fun new hnew hstays ↦ ⟨(hnew hstays).unloaded, (hnew hstays).opened⟩

/-! ## A charge that leaves its current -/

/-- A bench on which a current of 0.5 A flows once a battery was charged. -/
def leakyBench : TestBench Bool where
  zeroCurrentThresholdA := 1 / 100
  activeChannels := [1, 2, 3, 4, 5, 6, 7, 8]
  readAllBatteries charged :=
    (.ok (Dict.empty.upsert 1 fun _ ↦ ⟨some (.finite (if charged then 1 / 2 else 0))⟩), charged)
  checkCancellation charged := (none, charged)
  relayClose _ charged := (none, charged)
  relayOpen _ charged := (none, charged)
  charge _ _ := (none, true)
  discharge _ charged := (none, charged)
  emergencyStop _ charged := (none, charged)
  safeCancelShutdown _ charged := (none, charged)

/-- A run over the first channel returns there with its relay closed. -/
theorem not_keepsRelays_leakyBench :
    ¬∀ (b : TestBench Bool) (channels : Option (List ℤ)) (s : Journal Bool BenchCall),
      Post (run b channels)
        (fun _ t ↦ Added Journal.entries (KeepsRelays b.zeroCurrentThresholdA none) s t)
        (fun e t ↦ Added Journal.entries (KeepsRelays b.zeroCurrentThresholdA (some e)) s t) s := by
  intro h
  have hrun : (run leakyBench (some [1]) ⟨false, []⟩).final.map
      (fun t ↦ isClosed 1 t.entries) = some true := by
    decide +kernel
  obtain ⟨a, t, ht, hclosed⟩ := Outcome.exists_of_final hrun
  obtain ⟨new, hnew, hkeeps⟩ := (post_of_ok ht).mp (h leakyBench (some [1]) ⟨false, []⟩)
  rw [show (⟨false, []⟩ : Journal Bool BenchCall).entries = [] from rfl, List.append_nil] at hnew
  rw [hnew, hkeeps.2 1] at hclosed
  cases hclosed

end BatteryTest

end Nipxi
