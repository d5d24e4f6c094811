import Nipxi.Effect.Journal
import Nipxi.TestControl.ChargeSequence

/-!
# The scan of a relay matrix

The commissioning scan turns each channel of a matrix on, reads it, waits, and turns it off,
whatever became of the channels before; an operator may stop it between two channels. It never
raises, it leaves a channel only after it asked for its relay to be opened, and each of its results
is backed by the answers of the matrix: `matrixScan_lawful`.
-/

open Collections Effect

namespace Nipxi

namespace MatrixScan

/-! ## The scan -/

/-- `Status`. -/
inductive Status where
  | pass
  | warning
  | fail
  deriving DecidableEq

/-- `TestResult`. -/
structure TestResult where
  status : Status
  module : String
  device : String
  configRef : String
  details : String

/-- A call to the matrix, or on behalf of it. -/
inductive MatrixCall where
  | connect (raised : Option Exc)
  | checkCancellation (message : Option String)
  | relayClose (channel : ℕ) (raised : Option Exc)
  | relayRead (channel : ℕ) (result : Except Exc Bool)
  | sleep
  | relayOpen (channel : ℕ) (raised : Option Exc)
  | relayOpenAll (raised : Option Exc)
  | disconnect (raised : Option Exc)

/-- What the scan asks for, over worlds `X`. -/
structure MatrixBench (X : Type) where
  /-- `RelayFactory.create`. -/
  create : X → Option Exc × X
  /-- `_ping_host`. -/
  pingHost : X → (Bool × String) × X
  connect : X → Option Exc × X
  /-- The message of the `OperationCancelledError` of `check_cancellation`, if it is raised. -/
  checkCancellation : X → Option String × X
  relayClose : ℕ → X → Option Exc × X
  relayRead : ℕ → X → Except Exc Bool × X
  /-- `time.sleep(RELAY_MATRIX_SCAN_DWELL_S)`. -/
  sleep : X → X
  relayOpen : ℕ → X → Option Exc × X
  relayOpenAll : X → Option Exc × X
  disconnect : X → Option Exc × X

/-- What the scan is given. -/
structure MatrixConfig where
  host : String
  port : ℕ
  driver : String
  user : String
  configRef : String
  channelStart : ℕ
  channelEnd : ℕ
  /-- `Settings.RELAY_MATRIX_SCAN_DWELL_S`. -/
  dwellS : ℚ

/-- `pattern in text`. -/
def hasText (pattern text : String) : Bool := decide (pattern.toList <:+: text.toList)

/-- `_classify_relay_error`. -/
def classifyRelayError (e : Exc) : String :=
  let msg := e.message
  if hasText "Login rejected" msg || hasText "Timeout during login" msg then
    s!"Authentication failed -- {msg}"
  else if hasText "invalid response" msg then s!"Relay read returned invalid response -- {msg}"
  else if hasText "command timeout" msg then
    s!"Device reachable but relay command timeout -- {msg}"
  else if hasText "not reachable" msg || hasText "refused" msg.toLower ||
      hasText "timeout" msg.toLower then s!"Device unreachable -- {msg}"
  else if msg = "" then "Unknown error"
  else msg

variable {X : Type}

/-- Programs that use the matrix. -/
abbrev MatrixProg (X α : Type) := Prog Exc (Journal X MatrixCall) α

section Program

variable (b : MatrixBench X) (cfg : MatrixConfig)

/-- A result of the scan. -/
def MatrixConfig.result (status : Status) (device details : String) : TestResult :=
  ⟨status, "Relay Matrix Scan", device, cfg.configRef, details⟩

/-- The result of a channel that was turned on and off. -/
def MatrixConfig.scanned (channel : ℕ) (state : Bool) : TestResult :=
  let dwell := formatFixed 1 cfg.dwellS
  if state then
    cfg.result .pass s!"Relay {channel}"
      s!"ON -> READ -> DWELL {dwell}s -> OFF  OK  (READ reported ON)"
  else
    cfg.result .warning s!"Relay {channel}" (s!"ON -> READ -> DWELL {dwell}s -> OFF sent, " ++
      "but READ reported OFF -- verify wiring/relay bank")

/-- The result of a channel whose scan raised. -/
def MatrixConfig.failed (channel : ℕ) (e : Exc) : TestResult :=
  cfg.result .fail s!"Relay {channel}" s!"Reason:\n{classifyRelayError e}"

/-- The result of a scan that was cancelled. -/
def MatrixConfig.cancelled (message : String) : TestResult :=
  cfg.result .warning "Cancelled by operator"
    s!"Reason:\n{message}\nRemaining channels not scanned."

/-- A call that cannot raise. -/
def tell (f : X → X) (entry : MatrixCall) : MatrixProg X PUnit := fun s ↦
  .ok ⟨⟩ ⟨f s.world, entry :: s.entries⟩

/-- The body of the `try` of a channel. -/
def turnOnAndOff (channel : ℕ) : MatrixProg X Bool := do
  Journal.call (b.relayClose channel) (.relayClose channel)
  let state ← Journal.ask (b.relayRead channel) (.relayRead channel)
  tell b.sleep .sleep
  Journal.call (b.relayOpen channel) (.relayOpen channel)
  pure state

/-- The result of a channel. -/
def MatrixConfig.channelResult (channel : ℕ) : Except Exc Bool → TestResult
  | .ok state => cfg.scanned channel state
  | .error e => cfg.failed channel e

/-- The body of the `finally` of a channel. -/
def openAgain (channel : ℕ) : MatrixProg X PUnit :=
  (Journal.call (b.relayOpen channel) (.relayOpen channel)).handle fun _ ↦ pure ⟨⟩

/-- A round of the loop. -/
def scanChannel (channel : ℕ) : MatrixProg X TestResult :=
  (do let ended ← (turnOnAndOff b channel).attempt
      pure (cfg.channelResult channel ended)).ensuring (openAgain b channel)

/-- What the operator's cancellation does first. -/
def openEverything : MatrixProg X PUnit :=
  (Journal.call b.relayOpenAll .relayOpenAll).handle fun _ ↦ pure ⟨⟩

/-- `check_cancellation`. -/
def checkCancellation : MatrixProg X (Option String) := fun s ↦
  let message := (b.checkCancellation s.world).1
  .ok message ⟨(b.checkCancellation s.world).2, .checkCancellation message :: s.entries⟩

/-- The loop over the channels. -/
def scanChannels : List ℕ → MatrixProg X (List TestResult)
  | [] => pure []
  | channel :: rest => do
    match ← checkCancellation b with
    | some message =>
      openEverything b
      pure [cfg.cancelled message]
    | none =>
      let result ← scanChannel b cfg channel
      let results ← scanChannels rest
      pure (result :: results)

/-- `range(channel_start, channel_end + 1)`. -/
def MatrixConfig.channels : List ℕ :=
  List.range' cfg.channelStart (cfg.channelEnd + 1 - cfg.channelStart)

/-- The result of the ping. -/
def MatrixConfig.pinged (ping : Bool × String) : TestResult :=
  if ping.1 then cfg.result .pass "Device Availability -- Ping" s!"{cfg.host} reachable"
  else
    cfg.result .warning "Device Availability -- Ping"
      s!"Reason:\n{ping.2} (ICMP may be blocked -- Telnet may still succeed)"

/-- The results of a matrix that cannot be reached. -/
def MatrixConfig.unavailable (e : Exc) : List TestResult :=
  [cfg.result .fail "Device Availability -- Connect + Auth"
      s!"Reason:\n{classifyRelayError e}",
    cfg.result .fail "Scan aborted"
      "Reason:\nDevice not available -- channel scan was not started"]

/-- The result of the connection. -/
def MatrixConfig.connected : TestResult :=
  cfg.result .pass "Device Availability -- Connect + Auth"
    (s!"Connected and authenticated to {cfg.driver} at " ++
      s!"{cfg.host}:{cfg.port} (user='{cfg.user}')")

/-- `_run_relay_matrix_scan`, from the connection on. -/
def scanConnected : MatrixProg X (List TestResult) := do
  match ← (Journal.call b.connect .connect).attempt with
  | .error e => pure (cfg.unavailable e)
  | .ok _ => do
    let results ← scanChannels b cfg cfg.channels
    match ← (Journal.call b.disconnect .disconnect).attempt with
    | .ok _ => pure (cfg.connected :: results)
    | .error e => pure (cfg.connected :: results ++ [cfg.result .warning "Disconnect" e.message])

/-- `RelayFactory.create(cfg)`, and what it raises. -/
def createRelay : MatrixProg X (Option Exc) := fun s ↦
  .ok (b.create s.world).1 ⟨(b.create s.world).2, s.entries⟩

/-- `_ping_host(host)`. -/
def pingHost : MatrixProg X (Bool × String) := fun s ↦
  .ok (b.pingHost s.world).1 ⟨(b.pingHost s.world).2, s.entries⟩

/-- `_run_relay_matrix_scan`. -/
def runRelayMatrixScan : MatrixProg X (List TestResult) := do
  match ← createRelay b with
  | some e => pure [cfg.result .fail "Factory" s!"Import / factory error: {e.message}"]
  | none =>
    let ping ← pingHost b
    let results ← scanConnected b cfg
    pure (cfg.pinged ping :: results)

end Program

/-! ## What a scan promises -/

/-- The relay that was asked to close and not to open since, after a call. -/
def MatrixCall.holds (relay : Option ℕ) : MatrixCall → Option ℕ
  | .relayClose channel _ => some channel
  | .relayOpen channel _ => if relay = some channel then none else relay
  | .relayOpenAll _ => none
  | _ => relay

/-- The relay that was asked to close and not to open since. -/
def held : List MatrixCall → Option ℕ
  | [] => none
  | c :: older => c.holds (held older)

/-- A call that asks a relay to close. -/
def MatrixCall.Closes (c : MatrixCall) : Prop := ∃ channel raised, c = .relayClose channel raised

/-- No relay is asked to close while another is held, and none is left so. -/
structure Apart (new : List MatrixCall) : Prop where
  closes : AtEach (fun c older ↦ c.Closes → held older = none) new
  leaves : held new = none

/-- What the matrix answered in a channel that ended so. -/
def Backs (new : List MatrixCall) (channel : ℕ) : Except Exc Bool → Prop
  | .ok state => .relayClose channel none ∈ new ∧ .relayRead channel (.ok state) ∈ new ∧
      .relayOpen channel none ∈ new
  | .error e => .relayClose channel (some e) ∈ new ∨ .relayRead channel (.error e) ∈ new ∨
      .relayOpen channel (some e) ∈ new

/-- The results of channels: one for each, up to a cancellation. -/
inductive Scanned (cfg : MatrixConfig) (new : List MatrixCall) :
    List ℕ → List TestResult → Prop
  | done : Scanned cfg new [] []
  | cancelled {message : String} {channels : List ℕ}
    (hasked : .checkCancellation (some message) ∈ new) :
    Scanned cfg new channels [cfg.cancelled message]
  | next {channel : ℕ} {ended : Except Exc Bool} {rest : List ℕ} {results : List TestResult}
    (hbacks : Backs new channel ended) (hrest : Scanned cfg new rest results) :
    Scanned cfg new (channel :: rest) (cfg.channelResult channel ended :: results)

/-- The results of a scan. -/
inductive Outcome (cfg : MatrixConfig) : List MatrixCall → List TestResult → Prop
  /-- There is no driver. -/
  | factory (e : Exc) :
    Outcome cfg [] [cfg.result .fail "Factory" s!"Import / factory error: {e.message}"]
  /-- The matrix cannot be reached, and no relay is switched. -/
  | unavailable (ping : Bool × String) (e : Exc) :
    Outcome cfg [.connect (some e)] (cfg.pinged ping :: cfg.unavailable e)
  /-- The connection is closed last. -/
  | scanned (ping : Bool × String) {older : List MatrixCall} {raised : Option Exc}
    {results : List TestResult} (hscanned : Scanned cfg older cfg.channels results) :
    Outcome cfg (.disconnect raised :: older) (cfg.pinged ping :: cfg.connected :: results ++
      raised.elim [] fun e ↦ [cfg.result .warning "Disconnect" e.message])

/-! ## The proof -/

section Entries

variable {new old : List MatrixCall} {channel : ℕ}

theorem held_append (h : held old = none) : held (new ++ old) = held new := by
  induction new with
  | nil => exact h
  | cons c rest ih => exact congrArg (fun relay ↦ c.holds relay) ih

theorem Apart.append (hnew : Apart new) (hold : Apart old) : Apart (new ++ old) where
  closes := by
    have hcloses := hnew.closes
    clear hnew
    induction new with
    | nil => exact hold.closes
    | cons c rest ih =>
      refine ⟨fun hclose ↦ ?_, ih hcloses.2⟩
      exact (held_append hold.leaves).trans (hcloses.1 hclose)
  leaves := (held_append hold.leaves).trans hnew.leaves

theorem Apart.cons {c : MatrixCall} (h : Apart old) (hc : ¬c.Closes) (hheld : c.holds none = none) :
    Apart (c :: old) where
  closes := ⟨fun hclose ↦ absurd hclose hc, h.closes⟩
  leaves := by
    change c.holds (held old) = none
    rw [h.leaves, hheld]

theorem apart_nil : Apart [] := ⟨trivial, rfl⟩

theorem Backs.mono {ended : Except Exc Bool} (h : Backs old channel ended)
    (hsub : ∀ c ∈ old, c ∈ new) : Backs new channel ended := by
  cases ended with
  | ok state => exact ⟨hsub _ h.1, hsub _ h.2.1, hsub _ h.2.2⟩
  | error e => exact h.imp (hsub _) (.imp (hsub _) (hsub _))

theorem Scanned.mono {cfg : MatrixConfig} {channels : List ℕ} {results : List TestResult}
    (h : Scanned cfg old channels results) (hsub : ∀ c ∈ old, c ∈ new) :
    Scanned cfg new channels results := by
  induction h with
  | done => exact .done
  | cancelled hasked => exact .cancelled (hsub _ hasked)
  | next hbacks hrest ih => exact .next (hbacks.mono hsub) ih

/-- The calls of a channel before its `finally`, with how it ended. -/
inductive Body (channel : ℕ) : Except Exc Bool → List MatrixCall → Prop
  | closeRaised (e : Exc) : Body channel (.error e) [.relayClose channel (some e)]
  | readRaised (e : Exc) :
    Body channel (.error e) [.relayRead channel (.error e), .relayClose channel none]
  | openRaised (state : Bool) (e : Exc) : Body channel (.error e)
      [.relayOpen channel (some e), .sleep, .relayRead channel (.ok state),
        .relayClose channel none]
  | opened (state : Bool) : Body channel (.ok state)
      [.relayOpen channel none, .sleep, .relayRead channel (.ok state), .relayClose channel none]

theorem Body.backs {ended : Except Exc Bool} (h : Body channel ended new) :
    Backs new channel ended := by
  cases h with
  | closeRaised e => exact .inl (by simp)
  | readRaised e => exact .inr (.inl (by simp))
  | openRaised state e => exact .inr (.inr (by simp))
  | opened state => exact ⟨by simp, by simp, by simp⟩

/-- The `finally` releases the relay, whatever the body came to. -/
theorem Body.apart {ended : Except Exc Bool} (h : Body channel ended new) (raised : Option Exc) :
    Apart (.relayOpen channel raised :: new) := by
  have hclose (answer : Option Exc) :
      AtEach (fun c older ↦ c.Closes → held older = none) [.relayClose channel answer] :=
    ⟨fun _ ↦ rfl, trivial⟩
  have hno {c : MatrixCall} {older : List MatrixCall} (hc : ¬c.Closes)
      (hold : AtEach (fun c older ↦ c.Closes → held older = none) older) :
      AtEach (fun c older ↦ c.Closes → held older = none) (c :: older) :=
    ⟨fun hclose ↦ absurd hclose hc, hold⟩
  have hopen (answer : Option Exc) : ¬(MatrixCall.relayOpen channel answer).Closes := by
    rintro ⟨_, _, h⟩
    cases h
  have hread (answer : Except Exc Bool) : ¬(MatrixCall.relayRead channel answer).Closes := by
    rintro ⟨_, _, h⟩
    cases h
  have hsleep : ¬MatrixCall.sleep.Closes := by
    rintro ⟨_, _, h⟩
    cases h
  cases h with
  | closeRaised e =>
    exact ⟨hno (hopen _) (hclose _), if_pos rfl⟩
  | readRaised e =>
    exact ⟨hno (hopen _) (hno (hread _) (hclose _)), if_pos rfl⟩
  | openRaised state e =>
    refine ⟨hno (hopen _) (hno (hopen _) (hno hsleep (hno (hread _) (hclose _)))), ?_⟩
    simp [held, MatrixCall.holds]
  | opened state =>
    refine ⟨hno (hopen _) (hno (hopen _) (hno hsleep (hno (hread _) (hclose _)))), ?_⟩
    simp [held, MatrixCall.holds]

end Entries

section Runs

variable {b : MatrixBench X} {cfg : MatrixConfig}

/-- Entries with `P` were added. -/
abbrev Adds (P : List MatrixCall → Prop) (s t : Journal X MatrixCall) : Prop :=
  Added Journal.entries P s t

theorem post_turnOnAndOff (channel : ℕ) (s : Journal X MatrixCall) :
    Post (turnOnAndOff b channel) (fun state t ↦ Adds (Body channel (.ok state)) s t)
      (fun e t ↦ Adds (Body channel (.error e)) s t) s := by
  refine (post_bind _).mpr ((Journal.post_call _ _ s).mono (fun _ t ht ↦ ?_) fun e t ht ↦ ?_)
  · refine (post_bind _).mpr ((Journal.post_ask _ _ t).mono (fun state u hu ↦ ?_) fun e u hu ↦ ?_)
    · have hsleep : Post (tell b.sleep .sleep) (fun _ v ↦ v.entries = .sleep :: u.entries)
          (fun _ _ ↦ False) u := rfl
      refine (post_bind _).mpr (hsleep.mono (fun _ v hv ↦ ?_) fun _ _ h ↦ h.elim)
      refine (post_bind _).mpr ((Journal.post_call _ _ v).mono (fun _ w hw ↦ ?_) fun e w hw ↦ ?_)
      · exact ⟨_, by rw [hw, hv, hu, ht]; rfl, .opened state⟩
      · exact ⟨_, by rw [hw, hv, hu, ht]; rfl, .openRaised state e⟩
    · exact ⟨_, by rw [hu, ht]; rfl, .readRaised e⟩
  · exact ⟨_, ht, .closeRaised e⟩

theorem post_openAgain (channel : ℕ) (s : Journal X MatrixCall) :
    Post (openAgain b channel)
      (fun _ t ↦ ∃ raised, t.entries = .relayOpen channel raised :: s.entries)
      (fun _ _ ↦ False) s :=
  (post_handle _).mpr ((Journal.post_call _ _ s).mono (fun _ _ ht ↦ ⟨none, ht⟩)
    fun e _ ht ↦ ⟨some e, ht⟩)

theorem post_scanChannel (channel : ℕ) (s : Journal X MatrixCall) :
    Post (scanChannel b cfg channel)
      (fun result t ↦ Adds (fun new ↦ Apart new ∧
        ∃ ended, result = cfg.channelResult channel ended ∧ Backs new channel ended) s t)
      (fun _ _ ↦ False) s := by
  have hbody : Post (do
      let ended ← (turnOnAndOff b channel).attempt
      pure (cfg.channelResult channel ended) : MatrixProg X TestResult)
      (fun result t ↦ ∃ ended, result = cfg.channelResult channel ended ∧
        Adds (Body channel ended) s t) (fun _ _ ↦ False) s :=
    (post_bind _).mpr (post_attempt.mpr ((post_turnOnAndOff channel s).mono
      (fun state _ ht ↦ ⟨.ok state, rfl, ht⟩) fun e _ ht ↦ ⟨.error e, rfl, ht⟩))
  refine (post_ensuring _).mpr (hbody.mono (fun result t ht ↦ ?_) fun _ _ h ↦ h.elim)
  obtain ⟨ended, rfl, new, hnew, hbody⟩ := ht
  refine (post_openAgain channel t).mono (fun _ u hu ↦ ?_) fun _ _ h ↦ h
  obtain ⟨raised, hu⟩ := hu
  refine ⟨.relayOpen channel raised :: new, ?_, hbody.apart raised, ended, rfl, ?_⟩
  · rw [hu, hnew, List.cons_append]
  · exact hbody.backs.mono fun _ hc ↦ List.mem_cons_of_mem _ hc

/-- By induction on the channels. -/
theorem post_scanChannels (channels : List ℕ) (s : Journal X MatrixCall) :
    Post (scanChannels b cfg channels)
      (fun results t ↦ Adds (fun new ↦ Apart new ∧ Scanned cfg new channels results) s t)
      (fun _ _ ↦ False) s := by
  induction channels generalizing s with
  | nil => exact ⟨[], rfl, apart_nil, .done⟩
  | cons channel rest ih =>
    have hno (message : Option String) : ¬(MatrixCall.checkCancellation message).Closes := by
      rintro ⟨_, _, h⟩
      cases h
    have hask : Post (checkCancellation b)
        (fun message t ↦ t.entries = .checkCancellation message :: s.entries)
        (fun _ _ ↦ False) s := rfl
    refine (post_bind _).mpr (hask.mono (fun message t ht ↦ ?_) fun _ _ h ↦ h.elim)
    cases message with
    | some message =>
      -- the operator stops the scan between two channels
      have hopen : Post (openEverything b)
          (fun _ u ↦ ∃ raised, u.entries = .relayOpenAll raised :: t.entries)
          (fun _ _ ↦ False) t :=
        (post_handle _).mpr ((Journal.post_call _ _ t).mono (fun _ _ hu ↦ ⟨none, hu⟩)
          fun e _ hu ↦ ⟨some e, hu⟩)
      refine (post_bind _).mpr (hopen.mono (fun _ u hu ↦ ?_) fun _ _ h ↦ h.elim)
      obtain ⟨raised, hu⟩ := hu
      refine ⟨[.relayOpenAll raised, .checkCancellation (some message)], ?_, ?_, ?_⟩
      · rw [hu, ht]
        rfl
      · refine (apart_nil.cons (hno _) rfl).cons ?_ rfl
        rintro ⟨_, _, h⟩
        cases h
      · exact .cancelled (List.mem_cons_of_mem _ (List.mem_singleton_self _))
    | none =>
      refine (post_bind _).mpr ((post_scanChannel channel t).mono (fun result u hu ↦ ?_)
        fun _ _ h ↦ h.elim)
      refine (post_bind _).mpr ((ih u).mono (fun results v hv ↦ ?_) fun _ _ h ↦ h.elim)
      obtain ⟨new, hnew, hapart, ended, rfl, hbacks⟩ := hu
      obtain ⟨later, hlater, hapart', hscanned⟩ := hv
      refine ⟨later ++ (new ++ [.checkCancellation none]), ?_, ?_, .next ?_ ?_⟩
      · rw [hlater, hnew, ht, List.append_assoc, List.append_assoc]
        rfl
      · exact hapart'.append (hapart.append (apart_nil.cons (hno none) rfl))
      · exact hbacks.mono fun _ hc ↦ List.mem_append_right _ (List.mem_append_left _ hc)
      · exact hscanned.mono fun _ hc ↦ List.mem_append_left _ hc

/-- **The law of the scan.** Whatever the matrix does, the scan returns, no relay is asked to close
before every other was asked to open, and none is left; its results are one for each channel, in
order, up to a cancellation, each backed by the answers of the matrix. -/
theorem matrixScan_lawful (b : MatrixBench X) (cfg : MatrixConfig) (world : X) :
    Post (runRelayMatrixScan b cfg)
      (fun results t ↦ Apart t.entries ∧ Outcome cfg t.entries results) (fun _ _ ↦ False)
      ⟨world, []⟩ := by
  have hcreate : Post (createRelay b) (fun _ t ↦ t.entries = []) (fun _ _ ↦ False)
      (⟨world, []⟩ : Journal X MatrixCall) := rfl
  refine (post_bind _).mpr (hcreate.mono (fun created t ht ↦ ?_) fun _ _ h ↦ h.elim)
  cases created with
  | some e =>
    change Apart t.entries ∧ Outcome cfg t.entries _
    rw [ht]
    exact ⟨apart_nil, .factory e⟩
  | none =>
    have hping : Post (pingHost b) (fun _ u ↦ u.entries = t.entries) (fun _ _ ↦ False) t := rfl
    refine (post_bind _).mpr (hping.mono (fun ping u hu ↦ ?_) fun _ _ h ↦ h.elim)
    have hnil : u.entries = [] := hu.trans ht
    have hconnect (raised : Option Exc) : Apart [.connect raised] := by
      refine apart_nil.cons ?_ rfl
      rintro ⟨_, _, h⟩
      cases h
    refine (post_bind _).mpr ?_
    refine (post_bind _).mpr (post_attempt.mpr ((Journal.post_call _ _ u).mono
      (fun _ v hv ↦ ?_) fun e v hv ↦ ?_))
    · refine (post_bind _).mpr ((post_scanChannels cfg.channels v).mono (fun results w hw ↦ ?_)
        fun _ _ h ↦ h.elim)
      obtain ⟨new, hnew, hapart, hscanned⟩ := hw
      have hw : w.entries = new ++ [.connect none] := by rw [hnew, hv, hnil]
      have hresults := hscanned.mono fun _ hc ↦ List.mem_append_left [MatrixCall.connect none] hc
      -- a `disconnect` that raises adds one result and changes nothing else
      have hdone (raised : Option Exc) {z : Journal X MatrixCall}
          (hz : z.entries = .disconnect raised :: w.entries) :
          Apart z.entries ∧ Outcome cfg z.entries (cfg.pinged ping :: cfg.connected :: results ++
            raised.elim [] fun e ↦ [cfg.result .warning "Disconnect" e.message]) := by
        rw [hz, hw]
        refine ⟨(hapart.append (hconnect none)).cons ?_ rfl, .scanned ping hresults⟩
        rintro ⟨_, _, h⟩
        cases h
      refine (post_bind _).mpr (post_attempt.mpr ((Journal.post_call _ _ w).mono
        (fun _ z hz ↦ ?_) fun e z hz ↦ ?_))
      · have hout := hdone none hz
        rw [Option.elim_none, List.append_nil] at hout
        exact hout
      · exact hdone (some e) hz
    · change Apart v.entries ∧ Outcome cfg v.entries _
      rw [hv, hnil]
      exact ⟨hconnect _, .unavailable ping e⟩

end Runs

end MatrixScan

end Nipxi
