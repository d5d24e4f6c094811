import Mathlib.Algebra.Order.Archimedean.Basic
import Mathlib.Tactic.Linarith

/-!
# Interruptible waits

`interruptible_sleep` waits in slices and looks at the token before each of them. Time passes while
the function runs: between any two of its steps, and beyond what a slice asks for. A `Clock` says
how much, pass by pass, and `requests` when the token is asked to cancel.

`interruptibleSleep_law` is the law of the wait. It ends, since each pass comes nearer to the
deadline by a poll interval or reaches it (`sleepLoop_terminates`), and what its slices and its end
are like is `Result.Sound`.
-/

namespace Nipxi

/-! ## The token -/

/-- What the checks of a `CancellationToken` read. -/
structure CancellationToken (K : Type) where
  requested : Bool
  reason : String
  requestedAt : Option K

namespace CancellationToken

variable {K : Type}

/-- A new token. -/
def new : CancellationToken K := ⟨false, "", none⟩

/-- `request_cancel`, which keeps the first reason. -/
def requestCancel (token : CancellationToken K) (reason : String) (now : K) :
    CancellationToken K :=
  if token.requested then token else ⟨true, reason, some now⟩

/-- `check`, with the message of the error it raises. -/
def check (token : CancellationToken K) : Option String :=
  if token.requested then
    some (if token.reason = "" then "cancellation requested" else token.reason)
  else none

/-- The token at a time, where it is asked to cancel at certain times for certain reasons. -/
def asked [LinearOrder K] (requests : List (K × String)) (now : K) : CancellationToken K :=
  (requests.filter fun r ↦ r.1 ≤ now).foldl (fun token r ↦ token.requestCancel r.2 r.1) new

end CancellationToken

section

variable {K : Type} [LinearOrder K]

/-- A cancellation has been requested by a time. -/
def RequestedBy (requests : List (K × String)) (now : K) : Prop := ∃ r ∈ requests, r.1 ≤ now

instance (requests : List (K × String)) (now : K) : Decidable (RequestedBy requests now) :=
  inferInstanceAs (Decidable (∃ r ∈ requests, r.1 ≤ now))

theorem CancellationToken.requested_requestCancel {K : Type} (token : CancellationToken K)
    (reason : String) (now : K) :
    (token.requestCancel reason now).requested = true := by
  rw [CancellationToken.requestCancel]
  split
  · assumption
  · rfl

theorem CancellationToken.requested_foldl {K : Type} (requests : List (K × String))
    (token : CancellationToken K) :
    (requests.foldl (fun token r ↦ token.requestCancel r.2 r.1) token).requested = true ↔
      token.requested = true ∨ requests ≠ [] := by
  induction requests generalizing token with
  | nil => simp
  | cons r requests ih =>
    rw [List.foldl_cons, ih, requested_requestCancel]
    simp

/-- **The check** raises exactly if a cancellation has been requested by then. -/
theorem check_eq_none_iff {requests : List (K × String)} {now : K} :
    (CancellationToken.asked requests now).check = none ↔ ¬RequestedBy requests now := by
  have hrequested : (CancellationToken.asked requests now).requested = true ↔
      RequestedBy requests now := by
    rw [CancellationToken.asked, CancellationToken.requested_foldl, Ne, List.filter_eq_nil_iff]
    simp [CancellationToken.new, RequestedBy]
  rw [← hrequested, CancellationToken.check]
  split
  · next h => exact iff_of_false nofun fun hnot ↦ hnot h
  · next h => exact iff_of_true rfl h

theorem RequestedBy.mono {requests : List (K × String)} {a b : K} (h : RequestedBy requests a)
    (hle : a ≤ b) : RequestedBy requests b := by
  obtain ⟨r, hr, hra⟩ := h
  exact ⟨r, hr, hra.trans hle⟩

end

/-! ## The wait -/

variable {K : Type} [AddCommGroup K] [LinearOrder K]

/-- The time that passes in each pass of the loop: before the check, before the clock is read,
before the slice is slept, and over what the slice asks for. -/
structure Clock (K : Type) [AddCommGroup K] [LinearOrder K] where
  beforeCheck : ℕ → K
  beforeRead : ℕ → K
  beforeSleep : ℕ → K
  overshoot : ℕ → K
  nonneg : ∀ n, 0 ≤ beforeCheck n ∧ 0 ≤ beforeRead n ∧ 0 ≤ beforeSleep n ∧ 0 ≤ overshoot n

/-- A slice: when the clock was read for it, what was left then, and the time that was slept. -/
structure Slice (K : Type) where
  read : K
  remaining : K
  length : K
  start : K
  finish : K

/-- How a wait ends. -/
inductive SleepEnd
  | returned
  | cancelled (message : String)
  deriving DecidableEq

/-- A wait that has ended: its slices, the time of its last check if it made one, and the time of
its end. -/
structure Result (K : Type) where
  ended : SleepEnd
  slices : List (Slice K)
  lastCheck : Option K
  finish : K

/-- The loop, for so many passes at most. -/
def sleepLoop (clock : Clock K) (requests : List (K × String)) (poll deadline : K) :
    ℕ → ℕ → K → Option (Result K)
  | 0, _, _ => none
  | fuel + 1, n, now =>
    let checked := now + clock.beforeCheck n
    match (CancellationToken.asked requests checked).check with
    | some message => some ⟨.cancelled message, [], some checked, checked⟩
    | none =>
      let read := checked + clock.beforeRead n
      let remaining := deadline - read
      if remaining ≤ 0 then some ⟨.returned, [], some checked, read⟩
      else
        let start := read + clock.beforeSleep n
        let finish := start + min poll remaining + clock.overshoot n
        (sleepLoop clock requests poll deadline fuel (n + 1) finish).map fun r ↦
          { r with slices := ⟨read, remaining, min poll remaining, start, finish⟩ :: r.slices }

/-- `interruptible_sleep`, from the time it is called. A duration that is not positive is no wait,
and without a token the wait is one slice. -/
def interruptibleSleep (clock : Clock K) (token : Option (List (K × String))) (duration poll : K)
    (fuel : ℕ) (now : K) : Option (Result K) :=
  if duration ≤ 0 then some ⟨.returned, [], none, now⟩
  else
    match token with
    | none =>
      let start := now + clock.beforeSleep 0
      let finish := start + duration + clock.overshoot 0
      some ⟨.returned, [⟨now, duration, duration, start, finish⟩], none, finish⟩
    | some requests =>
      let called := now + clock.beforeRead 0
      sleepLoop clock requests poll (called + duration) fuel 1 called

/-! ## What holds of a wait -/

/-- A pass ends the wait, or is followed by the next one. -/
theorem sleepLoop_pass (clock : Clock K) (requests : List (K × String)) (poll deadline : K) (n : ℕ)
    (now : K) :
    (∃ r, ∀ fuel, sleepLoop clock requests poll deadline (fuel + 1) n now = some r) ∨
      let read := now + clock.beforeCheck n + clock.beforeRead n
      let finish := read + clock.beforeSleep n + min poll (deadline - read) + clock.overshoot n
      0 < deadline - read ∧ ∃ add, ∀ fuel,
        sleepLoop clock requests poll deadline (fuel + 1) n now =
          (sleepLoop clock requests poll deadline fuel (n + 1) finish).map add := by
  cases hraised : (CancellationToken.asked requests (now + clock.beforeCheck n)).check with
  | some message => exact .inl ⟨_, fun fuel ↦ by simp only [sleepLoop, hraised]; rfl⟩
  | none =>
    by_cases hremaining : deadline - (now + clock.beforeCheck n + clock.beforeRead n) ≤ 0
    · exact .inl ⟨_, fun fuel ↦ by simp only [sleepLoop, hraised, if_pos hremaining]; rfl⟩
    · exact .inr ⟨not_le.mp hremaining, _, fun fuel ↦ by
        simp only [sleepLoop, hraised, if_neg hremaining]; rfl⟩

/-- What the slices and the end of a wait are like that begins at `now`: it returns after the
deadline, with no cancellation pending at its last check; it does not sleep where a cancellation has
been requested before; no slice is longer than the poll interval or what was left; and at most one
of them ends after the request. -/
structure Result.Sound (requests : List (K × String)) (poll deadline now : K) (r : Result K) :
    Prop where
  elapsed : r.ended = .returned → deadline ≤ r.finish
  unrequested : r.ended = .returned → ∃ t, r.lastCheck = some t ∧ ¬RequestedBy requests t
  immediate : RequestedBy requests now → r.slices = [] ∧ ∃ message, r.ended = .cancelled message
  slices : ∀ s ∈ r.slices, 0 < s.length ∧ s.length ≤ poll ∧ s.length ≤ s.remaining ∧
    s.remaining = deadline - s.read
  last : (r.slices.filter fun s ↦ RequestedBy requests s.finish).length ≤ 1

variable [IsOrderedAddMonoid K] {clock : Clock K} {requests : List (K × String)}
  {poll deadline : K}

/-- **One pass after the other.** By induction on the passes: a slice that ends after the request is
followed by a check, which ends the wait. -/
theorem sound_sleepLoop (hpoll : 0 < poll) {fuel n : ℕ} {now : K} {r : Result K}
    (h : sleepLoop clock requests poll deadline fuel n now = some r) :
    r.Sound requests poll deadline now := by
  induction fuel generalizing n now r with
  | zero => cases h
  | succ fuel ih =>
    obtain ⟨hcheck, hread, hsleep, hover⟩ := clock.nonneg n
    rw [sleepLoop] at h
    cases hraised : (CancellationToken.asked requests (now + clock.beforeCheck n)).check with
    | some message =>
      simp only [hraised] at h
      obtain rfl := Option.some.inj h
      exact ⟨nofun, nofun, fun _ ↦ ⟨rfl, message, rfl⟩, nofun, Nat.zero_le _⟩
    | none =>
      simp only [hraised] at h
      have hnot := check_eq_none_iff.mp hraised
      have hbefore : ¬RequestedBy requests now := fun hr ↦
        hnot (hr.mono (le_add_of_nonneg_right hcheck))
      split at h
      · next hremaining =>
        obtain rfl := Option.some.inj h
        exact ⟨fun _ ↦ sub_nonpos.mp hremaining, fun _ ↦ ⟨_, rfl, hnot⟩,
          fun hr ↦ absurd hr hbefore, nofun, Nat.zero_le _⟩
      · next hremaining =>
        obtain ⟨r', hr', rfl⟩ := Option.map_eq_some_iff.mp h
        have hrest := ih hr'
        refine ⟨hrest.elapsed, hrest.unrequested, fun hr ↦ absurd hr hbefore, ?_, ?_⟩
        · refine List.forall_mem_cons.mpr ⟨⟨lt_min hpoll (not_le.mp hremaining),
            min_le_left _ _, min_le_right _ _, rfl⟩, hrest.slices⟩
        · rw [List.filter_cons]
          split
          · next hrequested =>
            rw [(hrest.immediate (of_decide_eq_true hrequested)).1]
            exact le_refl 1
          · exact hrest.last

/-- After a slice there is a poll interval less to wait, or nothing. -/
theorem deadline_sub_finish_le {k : ℕ} {now before start late : K}
    (hk : deadline - now ≤ (k + 1) • poll) (hbefore : now ≤ before) (hstart : before ≤ start)
    (hlate : 0 ≤ late) (hpoll : 0 < poll) :
    deadline - (start + min poll (deadline - before) + late) ≤ k • poll := by
  have hfinish : start + min poll (deadline - before) ≤
      start + min poll (deadline - before) + late := le_add_of_nonneg_right hlate
  refine (sub_le_sub_left hfinish deadline).trans ?_
  rcases le_total poll (deadline - before) with hle | hle
  · rw [min_eq_left hle, sub_le_iff_le_add]
    rw [sub_le_iff_le_add, succ_nsmul, add_assoc] at hk
    refine hk.trans (add_le_add_right ?_ (k • poll))
    rw [add_comm start poll]
    exact add_le_add_right (hbefore.trans hstart) poll
  · rw [min_eq_right hle]
    have hreached : deadline ≤ start + (deadline - before) := by
      have hadd := add_le_add_left hstart (deadline - before)
      rwa [add_sub_cancel] at hadd
    exact (sub_nonpos.mpr hreached).trans (nsmul_nonneg hpoll.le k)

/-- **The wait ends** within as many passes as poll intervals reach the deadline, and one. -/
theorem sleepLoop_terminates (hpoll : 0 < poll) {k n : ℕ} {now : K}
    (hk : deadline - now ≤ k • poll) :
    ∃ r, ∀ fuel, k < fuel → sleepLoop clock requests poll deadline fuel n now = some r := by
  induction k generalizing n now with
  | zero =>
    obtain ⟨hcheck, hread, -, -⟩ := clock.nonneg n
    rcases sleepLoop_pass clock requests poll deadline n now with ⟨r, hr⟩ | ⟨hremaining, -⟩
    · exact ⟨r, fun fuel hfuel ↦ by rw [← Nat.sub_add_cancel hfuel, hr]⟩
    · have hlate : now ≤ now + clock.beforeCheck n + clock.beforeRead n :=
        (le_add_of_nonneg_right hcheck).trans (le_add_of_nonneg_right hread)
      rw [zero_nsmul] at hk
      exact absurd ((sub_le_sub_left hlate deadline).trans hk) (not_le.mpr hremaining)
  | succ k ih =>
    obtain ⟨hcheck, hread, hsleep, hover⟩ := clock.nonneg n
    rcases sleepLoop_pass clock requests poll deadline n now with ⟨r, hr⟩ | ⟨hremaining, add, hadd⟩
    · exact ⟨r, fun fuel hfuel ↦ by
        rw [← Nat.sub_add_cancel (Nat.one_le_of_lt hfuel), hr]⟩
    · have hlate : now ≤ now + clock.beforeCheck n + clock.beforeRead n :=
        (le_add_of_nonneg_right hcheck).trans (le_add_of_nonneg_right hread)
      obtain ⟨r, hr⟩ := ih (n := n + 1) (deadline_sub_finish_le hk hlate
        (le_add_of_nonneg_right hsleep) hover hpoll)
      refine ⟨add r, fun fuel hfuel ↦ ?_⟩
      rw [← Nat.sub_add_cancel (Nat.one_le_of_lt hfuel), hadd, hr _ (Nat.lt_sub_of_add_lt hfuel)]
      rfl

/-- Where a cancellation has been requested, a wait for some time raises at its first check. -/
theorem interruptibleSleep_of_requestedBy {duration now : K} (hduration : 0 < duration)
    (h : RequestedBy requests now) (fuel : ℕ) : ∃ message checked,
      interruptibleSleep clock (some requests) duration poll (fuel + 1) now =
        some ⟨.cancelled message, [], some checked, checked⟩ := by
  have hchecked : RequestedBy requests (now + clock.beforeRead 0 + clock.beforeCheck 1) :=
    (h.mono (le_add_of_nonneg_right (clock.nonneg 0).2.1)).mono
      (le_add_of_nonneg_right (clock.nonneg 1).1)
  rw [interruptibleSleep, if_neg (not_le.mpr hduration)]
  dsimp only
  rw [sleepLoop]
  cases hraised : (CancellationToken.asked requests
      (now + clock.beforeRead 0 + clock.beforeCheck 1)).check with
  | some message => exact ⟨message, _, rfl⟩
  | none => exact absurd hchecked (check_eq_none_iff.mp hraised)

variable [Archimedean K]

/-- **The law of the wait.** Whenever it is called with a token, and however time passes, the wait
ends, and is sound: it lasts for the duration unless a cancellation is requested, is not begun where
one has been, and is cut into slices that bound what is slept after one. -/
theorem interruptibleSleep_law (clock : Clock K) (requests : List (K × String)) {duration poll : K}
    (hduration : 0 < duration) (hpoll : 0 < poll) (now : K) :
    ∃ k r, (∀ fuel, k < fuel →
        interruptibleSleep clock (some requests) duration poll fuel now = some r) ∧
      r.Sound requests poll (now + clock.beforeRead 0 + duration) now := by
  obtain ⟨k, hk⟩ := Archimedean.arch duration hpoll
  have hdeadline : now + clock.beforeRead 0 + duration - (now + clock.beforeRead 0) ≤ k • poll := by
    rwa [add_sub_cancel_left]
  obtain ⟨r, hr⟩ : ∃ r, ∀ fuel, k < fuel → sleepLoop clock requests poll
      (now + clock.beforeRead 0 + duration) fuel 1 (now + clock.beforeRead 0) = some r :=
    sleepLoop_terminates hpoll hdeadline
  refine ⟨k, r, fun fuel hfuel ↦ ?_, ?_⟩
  · rw [interruptibleSleep, if_neg (not_le.mpr hduration)]
    exact hr fuel hfuel
  · have hsound := sound_sleepLoop hpoll (hr (k + 1) (Nat.lt_succ_self k))
    exact { hsound with
      immediate := fun hr ↦ hsound.immediate
        (hr.mono (le_add_of_nonneg_right (clock.nonneg 0).2.1)) }

/-- A clock in milliseconds, on which each slice takes a tenth of a second too long. -/
def lateClock : Clock ℤ where
  beforeCheck _ := 0
  beforeRead _ := 1
  beforeSleep _ := 0
  overshoot _ := 100
  nonneg _ := by decide

/-- A dwell of five seconds that is cancelled after one. -/
theorem interruptibleSleep_law_dwell :
    ∃ k r, (∀ fuel, k < fuel →
        interruptibleSleep lateClock (some [(1000, "Ctrl+C")]) 5000 200 fuel 0 = some r) ∧
      r.Sound [(1000, "Ctrl+C")] 200 (0 + 1 + 5000) 0 :=
  interruptibleSleep_law lateClock [(1000, "Ctrl+C")] (by decide) (by decide) 0

end Nipxi
