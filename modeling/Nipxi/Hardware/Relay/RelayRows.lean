import Nipxi.Hardware.AuditRows
import Nipxi.Hardware.Relay.Driver

/-!
# The relay drivers under audit

`NumatoRelayMatrix` and `SerialRelay`, with the calls a method makes of the other public methods of
its object left as calls, as in the model of the audited SMU: among them those that `RelayBase`
makes of the methods its subclasses override. The reconnect of the matrix is such a call too, so a
command makes one only if its first try fails.
-/

open Effect

namespace Nipxi.Relay

open Audit

variable {W : Type}

/-- What is passed to the methods and returned by them. -/
inductive RelayValue
  | none
  | bool (b : Bool)
  | int (n : ℤ)
  | text (s : String)

/-! ## The Ethernet matrix -/

/-- The public methods of `NumatoRelayMatrix` with their arguments. -/
inductive NumatoRequest
  | connect
  | disconnect
  | reset
  | settle
  | openAll
  | closeAll
  | readAll
  | openChannel (channel : ℤ)
  | closeChannel (channel : ℤ)
  | queryChannel (channel : ℤ)
  | readChannel (channel : ℤ)
  | writeAll (mask : ℕ)
  | write (relayNumber : ℤ) (state : Bool)
  | readRelay (relayNumber : ℤ)
  | verifySingle (relayNumber : ℤ) (expectedState : Bool)
  | verifyAll (expectedMask : ℕ)
  | checkCurrentRelayState (context : String)

namespace NumatoRequest

/-- The name of the method. -/
def name : NumatoRequest → String
  | connect => "connect"
  | disconnect => "disconnect"
  | reset => "reset"
  | settle => "settle"
  | openAll => "open_all"
  | closeAll => "close_all"
  | readAll => "read_all"
  | openChannel _ => "open"
  | closeChannel _ => "close"
  | queryChannel _ => "query"
  | readChannel _ => "read"
  | writeAll _ => "write_all"
  | write .. => "write"
  | readRelay _ => "read_relay"
  | verifySingle .. => "verify_single"
  | verifyAll _ => "verify_all"
  | checkCurrentRelayState _ => "check_current_relay_state"

/-- Its arguments, by position. -/
def args : NumatoRequest → List RelayValue
  | connect | disconnect | reset | settle | openAll | closeAll | readAll => []
  | openChannel n | closeChannel n | queryChannel n | readChannel n | readRelay n => [.int n]
  | writeAll mask | verifyAll mask => [.int mask]
  | write n state | verifySingle n state => [.int n, .bool state]
  | checkCurrentRelayState context => [.text context]

end NumatoRequest

/-- The code of a method. -/
abbrev NumatoCode (W α : Type) := Code Raised (Matrix W) (MethodCall RelayValue) RelayValue α

/-- `self.method(...)`. -/
def self (r : NumatoRequest) : NumatoCode W RelayValue := .send ⟨r.name, ⟨r.args, []⟩⟩

section Numato

variable (cfg : RelayConfig) (net : Net W)

/-- `_validate_channel`, for any integer. -/
def validateChannelInt (channel : ℤ) : RelayProg W Unit :=
  if 1 ≤ channel ∧ channel ≤ cfg.numChannels then pure ()
  else .raise ⟨.validationError, s!"Channel {channel} out of range (1..{cfg.numChannels}) for " ++
    "relay '" ++ cfg.name ++ "'"⟩

/-- `_validate_relay_number`, for any integer. -/
def validateRelayNumberInt (relayNumber : ℤ) : RelayProg W Unit :=
  if 0 ≤ relayNumber ∧ relayNumber < cfg.numChannels then pure ()
  else .raise ⟨.validationError, s!"Relay number {relayNumber} out of range " ++
    s!"(0..{(cfg.numChannels : ℤ) - 1}) for relay '" ++ cfg.name ++
    "' (Numato native 0-based addressing)"⟩

/-- `reset`, up to the disconnect. -/
def sendReset : RelayProg W Unit :=
  (sendRaw cfg net (encode "reset" ++ CRLF)).handle fun e ↦
    if e.isInstance [.relayError] then pure () else .raise e

/-- `_call_with_reconnect`; the function it calls is `_send_and_capture` everywhere. -/
def callWithReconnectCode (cmd : Bytes) : NumatoCode W Bytes :=
  catching (own (sendAndCapture cfg net cmd))
    (fun e ↦
      if e.isComm then
        catching (self .connect)
          (fun reconnectErr ↦ do
            let _ ← own (emergencyAllOff cfg net)
            fail (relayError ("Automatic reconnect failed after communication error ("
              ++ e.message ++ "): " ++ reconnectErr.message)))
          fun _ ↦ catching (own (sendAndCapture cfg net cmd))
            (fun retryErr ↦
              if retryErr.isComm then do
                let _ ← own (emergencyAllOff cfg net)
                fail retryErr
              else fail retryErr)
            pure
      else fail e)
    pure

/-- `write_all`. -/
def writeAllCode (mask : ℕ) : NumatoCode W RelayValue := do
  let _ ← callWithReconnectCode cfg net (writeAllText cfg.numChannels mask)
  pure .none

/-- `read_all`, after its answer. -/
def keepMask (response : Bytes) : RelayProg W ℕ := do
  let mask ← parseReadallResponse response
  setLastKnownMask (some mask)
  pure mask

/-- `read_all`. -/
def readAllCode : NumatoCode W RelayValue := do
  let response ← callWithReconnectCode cfg net readAllText
  let mask ← own (keepMask response)
  pure (.int mask)

/-- `write`. -/
def writeCode (relayNumber : ℤ) (state : Bool) : NumatoCode W RelayValue := do
  own (validateRelayNumberInt cfg relayNumber)
  let _ ← callWithReconnectCode cfg net (writeText relayNumber.toNat state)
  pure .none

/-- `read_relay`. -/
def readRelayCode (relayNumber : ℤ) : NumatoCode W RelayValue := do
  own (validateRelayNumberInt cfg relayNumber)
  let response ← callWithReconnectCode cfg net (readText relayNumber.toNat)
  let state ← own (parseReadResponse response relayNumber.toNat)
  pure (.bool state)

/-- `verify_single`. -/
def verifySingleCode (relayNumber : ℤ) (expected : Bool) : NumatoCode W RelayValue := do
  match ← self (.readRelay relayNumber) with
  | .bool actual =>
    if actual = expected then pure .none
    else
      let ok ← own (emergencyAllOff cfg net)
      fail ⟨.relayStateVerificationError, s!"Relay {relayNumber} verification FAILED: expected "
        ++ (if expected then "ON" else "OFF") ++ ", got " ++ (if actual then "ON" else "OFF")
        ++ ". " ++ shutdownVerdict ok⟩
  | _ => pure .none

/-- `verify_all`. -/
def verifyAllCode (expected : ℕ) : NumatoCode W RelayValue := do
  match ← self .readAll with
  | .int mask =>
    if mask = expected then pure .none
    else
      let ok ← own (emergencyAllOff cfg net)
      fail ⟨.relayStateVerificationError, "Relay bank verification FAILED: expected mask "
        ++ showMask cfg expected ++ ", got " ++ showMask cfg mask.toNat ++ ". "
        ++ shutdownVerdict ok⟩
  | _ => pure .none

/-- `check_current_relay_state`. -/
def checkCurrentRelayStateCode : NumatoCode W RelayValue :=
  catching (self .readAll)
    (fun _ ↦ do
      own (setLastKnownMask none)
      pure .none)
    pure

/-- `_force_all_off_and_verify`. -/
def forceAllOffAndVerifyCode : NumatoCode W RelayValue := do
  let _ ← Code.send ⟨"check_current_relay_state",
    ⟨[], [("context", .text "close()/open()/open_all()")]⟩⟩
  let _ ← self (.writeAll 0)
  self (.verifyAll 0)

/-- `_close_impl`. -/
def closeImplCode (channel : ℤ) : NumatoCode W RelayValue := do
  own (validateChannelInt cfg channel)
  let _ ← forceAllOffAndVerifyCode
  let _ ← self (.write (channel - 1) true)
  let _ ← self (.verifySingle (channel - 1) true)
  self (.verifyAll (1 <<< (channel - 1).toNat))

/-- `_open_impl`. -/
def openImplCode (channel : ℤ) : NumatoCode W RelayValue := do
  own (validateChannelInt cfg channel)
  forceAllOffAndVerifyCode

/-- The code behind a request. -/
def NumatoRequest.code : NumatoRequest → NumatoCode W RelayValue
  | .connect => do
    own (Nipxi.connect cfg net)
    pure .none
  | .disconnect => do
    own (Nipxi.disconnect net)
    pure .none
  | .reset => do
    own (sendReset cfg net)
    let _ ← self .disconnect
    pure .none
  | .settle => do
    own (Nipxi.settle cfg)
    pure .none
  | .openAll => do
    let _ ← forceAllOffAndVerifyCode
    pure .none
  | .closeAll => fail (relayError ("close_all() is not permitted on " ++ cfg.name ++ ": only " ++
    "one relay may be energized at a time under the mandatory safety sequence"))
  | .readAll => readAllCode cfg net
  | .openChannel channel => do
    let _ ← openImplCode cfg channel
    let _ ← self .settle
    pure .none
  | .closeChannel channel => do
    let _ ← closeImplCode cfg channel
    let _ ← self .settle
    pure .none
  | .queryChannel channel => do
    own (validateChannelInt cfg channel)
    self (.readRelay (channel - 1))
  | .readChannel channel => self (.queryChannel channel)
  | .writeAll mask => writeAllCode cfg net mask
  | .write relayNumber state => writeCode cfg net relayNumber state
  | .readRelay relayNumber => readRelayCode cfg net relayNumber
  | .verifySingle relayNumber expected => verifySingleCode cfg net relayNumber expected
  | .verifyAll expected => verifyAllCode cfg net expected
  | .checkCurrentRelayState _ => checkCurrentRelayStateCode

/-- A method of an integer. -/
def unary {R : Type} (param : String) (r : ℤ → R) : Declaration R RelayValue where
  params := [(param, .none)]
  ask
    | [.int n] => some (r n)
    | _ => none

/-- The public methods. -/
def numatoMethods : List (String × Declaration NumatoRequest RelayValue) :=
  [("connect", nullary .connect), ("disconnect", nullary .disconnect), ("reset", nullary .reset),
    ("settle", nullary .settle), ("open_all", nullary .openAll), ("close_all", nullary .closeAll),
    ("read_all", nullary .readAll), ("open", unary "channel" .openChannel),
    ("close", unary "channel" .closeChannel), ("query", unary "channel" .queryChannel),
    ("read", unary "channel" .readChannel),
    ("write_all", ⟨[("mask", some (.int 0))], fun
      | [.int mask] => some (.writeAll mask.toNat)
      | _ => none⟩),
    ("write", ⟨[("relay_number", .none), ("state", .none)], fun
      | [.int n, .bool state] => some (.write n state)
      | _ => none⟩),
    ("read_relay", unary "relay_number" .readRelay),
    ("verify_single", ⟨[("relay_number", .none), ("expected_state", .none)], fun
      | [.int n, .bool state] => some (.verifySingle n state)
      | _ => none⟩),
    ("verify_all", unary "expected_mask" fun mask ↦ .verifyAll mask.toNat),
    ("check_current_relay_state", ⟨[("context", some (.text ""))], fun
      | [.text context] => some (.checkCurrentRelayState context)
      | _ => none⟩)]

/-- The first try of a command does not fail with an error of the communication. -/
def FirstTry (cmd : Bytes) (s : Matrix W) : Prop :=
  ∀ e t, sendAndCapture cfg net cmd s = .error e t → e.isComm = false

/-- When a call makes no other call of the object. -/
def NumatoRequest.Alone : NumatoRequest → Matrix W → Prop
  | .connect, _ | .disconnect, _ | .settle, _ | .closeAll, _ => True
  | .openAll, _ | .readChannel _, _ | .verifySingle .., _ | .verifyAll _, _
  | .checkCurrentRelayState _, _ => False
  | .openChannel channel, _ | .closeChannel channel, _ | .queryChannel channel, _ =>
    ¬(1 ≤ channel ∧ channel ≤ cfg.numChannels)
  | .reset, s => ∀ a t, sendReset cfg net s ≠ .ok a t
  | .readAll, s => FirstTry cfg net readAllText s
  | .writeAll mask, s => FirstTry cfg net (writeAllText cfg.numChannels mask) s
  | .write n state, s =>
    0 ≤ n ∧ n < cfg.numChannels → FirstTry cfg net (writeText n.toNat state) s
  | .readRelay n, s => 0 ≤ n ∧ n < cfg.numChannels → FirstTry cfg net (readText n.toNat) s

/-! ### Which calls are alone -/

variable {cfg net}

theorem calls_callWithReconnectCode_iff (cmd : Bytes) (s : Matrix W) :
    (callWithReconnectCode cfg net cmd).calls s = false ↔ FirstTry cfg net cmd s := by
  unfold callWithReconnectCode FirstTry
  rw [calls_catching_own]
  cases sendAndCapture cfg net cmd s with
  | ok response t =>
    refine iff_of_true rfl fun e u h ↦ ?_
    cases h
  | error e t =>
    cases hcomm : e.isComm with
    | false =>
      refine iff_of_true ?_ fun e' u h ↦ ?_
      · dsimp only
        rw [if_neg (Bool.not_eq_true _ ▸ hcomm)]
        rfl
      · cases h
        exact hcomm
    | true =>
      refine iff_of_false ?_ fun h ↦ ?_
      · dsimp only
        rw [if_pos hcomm]
        exact Bool.true_eq_false.mp
      · exact Bool.false_ne_true ((h e t rfl).symm.trans hcomm)
  | diverged =>
    refine iff_of_true rfl fun e u h ↦ ?_
    cases h

theorem calls_readAllCode_iff (s : Matrix W) :
    (readAllCode cfg net).calls s = false ↔ FirstTry cfg net readAllText s := by
  unfold readAllCode
  rw [Code.calls_bind_eq _ fun response t ↦ ?_]
  · exact calls_callWithReconnectCode_iff _ s
  · rw [Code.calls_bind_eq (own (keepMask response)) fun _ _ ↦ rfl]
    exact Code.calls_embed _ _ t

theorem calls_writeAllCode_iff (mask : ℕ) (s : Matrix W) :
    (writeAllCode cfg net mask).calls s = false ↔
      FirstTry cfg net (writeAllText cfg.numChannels mask) s := by
  unfold writeAllCode
  rw [Code.calls_bind_eq _ fun _ _ ↦ rfl]
  exact calls_callWithReconnectCode_iff _ s

theorem calls_validated_iff {α : Type} {n : ℤ} {g : Unit → NumatoCode W α} {s : Matrix W}
    {P : Prop} (h : (g ⟨⟩).calls s = false ↔ P) :
    (own (validateRelayNumberInt cfg n) >>= g).calls s = false ↔
      (0 ≤ n ∧ n < cfg.numChannels → P) := by
  unfold own validateRelayNumberInt
  by_cases hn : 0 ≤ n ∧ n < cfg.numChannels
  · rw [if_pos hn]
    exact h.trans ⟨fun hP _ ↦ hP, fun hP ↦ hP hn⟩
  · rw [if_neg hn]
    exact iff_of_true rfl fun h ↦ absurd h hn

theorem calls_writeCode_iff (n : ℤ) (state : Bool) (s : Matrix W) :
    (writeCode cfg net n state).calls s = false ↔
      (0 ≤ n ∧ n < cfg.numChannels → FirstTry cfg net (writeText n.toNat state) s) := by
  refine calls_validated_iff ?_
  rw [Code.calls_bind_eq _ fun _ _ ↦ rfl]
  exact calls_callWithReconnectCode_iff _ s

theorem calls_readRelayCode_iff (n : ℤ) (s : Matrix W) :
    (readRelayCode cfg net n).calls s = false ↔
      (0 ≤ n ∧ n < cfg.numChannels → FirstTry cfg net (readText n.toNat) s) := by
  refine calls_validated_iff ?_
  rw [Code.calls_bind_eq _ fun response t ↦ ?_]
  · exact calls_callWithReconnectCode_iff _ s
  · rw [Code.calls_bind_eq (own (parseReadResponse response n.toNat)) fun _ _ ↦ rfl]
    exact Code.calls_embed _ _ t

theorem calls_validChannel_iff {α : Type} {channel : ℤ} {g : Unit → NumatoCode W α} {s : Matrix W}
    (h : (g ⟨⟩).calls s = true) :
    (own (validateChannelInt cfg channel) >>= g).calls s = false ↔
      ¬(1 ≤ channel ∧ channel ≤ cfg.numChannels) := by
  unfold own validateChannelInt
  by_cases hc : 1 ≤ channel ∧ channel ≤ cfg.numChannels
  · rw [if_pos hc]
    refine iff_of_false (fun hfalse ↦ ?_) (not_not_intro hc)
    exact Bool.false_ne_true (hfalse.symm.trans h)
  · rw [if_neg hc]
    exact iff_of_true rfl hc

theorem NumatoRequest.calls_code_iff (r : NumatoRequest) (s : Matrix W) :
    (r.code cfg net).calls s = false ↔ r.Alone cfg net s := by
  cases r with
  | connect | disconnect | settle =>
    refine iff_of_true ?_ True.intro
    rw [NumatoRequest.code, Code.calls_bind_eq (own _) fun _ _ ↦ rfl]
    exact Code.calls_embed _ _ s
  | closeAll => exact iff_of_true rfl True.intro
  | reset => exact Code.calls_embed_bind_eq_false_iff _ fun _ _ ↦ rfl
  | openAll | readChannel | verifySingle | verifyAll | checkCurrentRelayState =>
    exact iff_of_false Bool.true_eq_false.mp id
  | openChannel =>
    rw [NumatoRequest.code]
    unfold openImplCode
    rw [Code.bind_bind]
    exact calls_validChannel_iff rfl
  | closeChannel =>
    rw [NumatoRequest.code]
    unfold closeImplCode
    rw [Code.bind_bind]
    exact calls_validChannel_iff rfl
  | queryChannel => exact calls_validChannel_iff rfl
  | readAll => exact calls_readAllCode_iff s
  | writeAll mask => exact calls_writeAllCode_iff mask s
  | write n state => exact calls_writeCode_iff n state s
  | readRelay n => exact calls_readRelayCode_iff n s

/-! ### The interface -/

/-- A call of one of the methods. -/
def IsNumatoRequest (c : MethodCall RelayValue) : Prop := ∃ q : NumatoRequest, c.name = q.name

theorem obeys_self (r : NumatoRequest) :
    (self r : NumatoCode W RelayValue).Obeys IsNumatoRequest IsException := .send ⟨r, rfl⟩

theorem obeys_callWithReconnectCode (cmd : Bytes) :
    (callWithReconnectCode cfg net cmd).Obeys IsNumatoRequest IsException := by
  refine obeys_catching (obeys_own _) (fun e ↦ .ite ?_ (obeys_fail _)) fun _ ↦ .ret _
  refine obeys_catching (obeys_self _)
    (fun _ ↦ .bind (obeys_own _) fun _ ↦ obeys_fail _) fun _ ↦ ?_
  refine obeys_catching (obeys_own _) (fun retryErr ↦ .ite ?_ (obeys_fail _)) fun _ ↦ .ret _
  exact .bind (obeys_own _) fun _ ↦ obeys_fail _

theorem obeys_forceAllOffAndVerifyCode :
    (forceAllOffAndVerifyCode : NumatoCode W RelayValue).Obeys IsNumatoRequest IsException := by
  refine .bind (.send ⟨.checkCurrentRelayState "", rfl⟩) fun _ ↦ ?_
  exact .bind (obeys_self _) fun _ ↦ obeys_self _

theorem obeys_verifySingleCode (n : ℤ) (expected : Bool) :
    (verifySingleCode cfg net n expected).Obeys IsNumatoRequest IsException := by
  refine .bind (obeys_self _) fun actual ↦ ?_
  cases actual with
  | bool actual => exact .ite (.ret _) (.bind (obeys_own _) fun _ ↦ obeys_fail _)
  | none | int | text => exact .ret _

theorem obeys_verifyAllCode (expected : ℕ) :
    (verifyAllCode cfg net expected).Obeys IsNumatoRequest IsException := by
  refine .bind (obeys_self _) fun mask ↦ ?_
  cases mask with
  | int mask => exact .ite (.ret _) (.bind (obeys_own _) fun _ ↦ obeys_fail _)
  | none | bool | text => exact .ret _

/-- The driver calls only its public methods. -/
theorem NumatoRequest.obeys_code (r : NumatoRequest) :
    (r.code cfg net).Obeys IsNumatoRequest IsException := by
  cases r with
  | connect | disconnect | settle => exact .bind (obeys_own _) fun _ ↦ .ret _
  | reset => exact .bind (obeys_own _) fun _ ↦ .bind (obeys_self _) fun _ ↦ .ret _
  | closeAll => exact obeys_fail _
  | openAll => exact .bind obeys_forceAllOffAndVerifyCode fun _ ↦ .ret _
  | openChannel =>
    refine .bind (.bind (obeys_own _) fun _ ↦ obeys_forceAllOffAndVerifyCode) fun _ ↦ ?_
    exact .bind (obeys_self _) fun _ ↦ .ret _
  | closeChannel =>
    refine .bind ?_ fun _ ↦ .bind (obeys_self _) fun _ ↦ .ret _
    refine .bind (obeys_own _) fun _ ↦ .bind obeys_forceAllOffAndVerifyCode fun _ ↦ ?_
    exact .bind (obeys_self _) fun _ ↦ .bind (obeys_self _) fun _ ↦ obeys_self _
  | queryChannel => exact .bind (obeys_own _) fun _ ↦ obeys_self _
  | readChannel => exact obeys_self _
  | readAll =>
    exact .bind (obeys_callWithReconnectCode _) fun _ ↦ .bind (obeys_own _) fun _ ↦ .ret _
  | writeAll => exact .bind (obeys_callWithReconnectCode _) fun _ ↦ .ret _
  | write =>
    exact .bind (obeys_own _) fun _ ↦ .bind (obeys_callWithReconnectCode _) fun _ ↦ .ret _
  | readRelay =>
    refine .bind (obeys_own _) fun _ ↦ .bind (obeys_callWithReconnectCode _) fun _ ↦ ?_
    exact .bind (obeys_own _) fun _ ↦ .ret _
  | verifySingle => exact obeys_verifySingleCode _ _
  | verifyAll => exact obeys_verifyAllCode _
  | checkCurrentRelayState =>
    exact obeys_catching (obeys_self _) (fun _ ↦ .bind (obeys_own _) fun _ ↦ .ret _) fun _ ↦ .ret _

theorem NumatoRequest.exists_declaration (r : NumatoRequest) :
    ∃ d, numatoMethods.lookup r.name = some d ∧ d.ask r.args = some r := by
  cases r with
  | _ => exact ⟨_, rfl, rfl⟩

end Numato

/-- The class `NumatoRelayMatrix`. -/
def numatoInterface (cfg : RelayConfig) (net : Net W) :
    Interface NumatoRequest (Matrix W) RelayValue where
  className := "NumatoRelayMatrix"
  table := numatoMethods
  name := NumatoRequest.name
  args := NumatoRequest.args
  code := NumatoRequest.code cfg net
  exists_declaration := NumatoRequest.exists_declaration
  isPublic_name r := by cases r <;> (dsimp only [NumatoRequest.name]; decide)
  name_notMem r := by cases r <;> (dsimp only [NumatoRequest.name]; decide)
  obeys_code := NumatoRequest.obeys_code

/-! ## The serial relay -/

/-- How a call on the port can end; `SerialTimeoutException` and `SerialException` are translated,
other exceptions pass. -/
inductive SerialEnd
  | done
  | timeout
  | failed (e : String)
  | other (e : Exc)

/-- How opening a port can end. -/
inductive PortEnd
  | opened
  | notInstalled
  | failed (e : String)
  | other (e : Exc)

/-- `pyserial`, and the controller behind the port. -/
structure SerialLibrary (W : Type) where
  open_ : W → PortEnd × W
  isOpen : W → Bool × W
  write : String → W → SerialEnd × W
  /-- `readline`, with the line. -/
  readline : W → SerialEnd × String × W
  /-- `close`, whose exceptions are ignored. -/
  close : W → W
  /-- `response.upper().strip()`. -/
  normalized : String → String

/-- What a `SerialRelay` is constructed with. -/
structure SerialConfig where
  name : String
  port : String
  numChannels : ℕ
  /-- `command_open.format(ch=channel)`. -/
  cmdOpen : ℤ → String
  cmdClose : ℤ → String
  cmdQuery : ℤ → String
  /-- `Settings.RELAY_SETTLE_TIME_S`. -/
  settleSeconds : ℚ

/-- A `SerialRelay` with the world it talks to. -/
structure SerialRelay (W : Type) where
  /-- Whether `_serial` is not `None`. -/
  serial : Bool
  connected : Bool
  world : W

/-- The public methods of `SerialRelay` with their arguments. -/
inductive SerialRequest
  | connect
  | disconnect
  | settle
  | openAll
  | closeAll
  | openChannel (channel : ℤ)
  | closeChannel (channel : ℤ)
  | queryChannel (channel : ℤ)

namespace SerialRequest

/-- The name of the method. -/
def name : SerialRequest → String
  | connect => "connect"
  | disconnect => "disconnect"
  | settle => "settle"
  | openAll => "open_all"
  | closeAll => "close_all"
  | openChannel _ => "open"
  | closeChannel _ => "close"
  | queryChannel _ => "query"

/-- Its arguments, by position. -/
def args : SerialRequest → List RelayValue
  | connect | disconnect | settle | openAll | closeAll => []
  | openChannel n | closeChannel n | queryChannel n => [.int n]

end SerialRequest

/-- What a method does by itself. -/
abbrev SerialProg (W α : Type) := Prog Exc (SerialRelay W) α

/-- The code of a method. -/
abbrev SerialCode (W α : Type) :=
  Code Raised (SerialRelay W) (MethodCall RelayValue) RelayValue α

/-- `self.method(...)`. -/
def serialSelf (r : SerialRequest) : SerialCode W RelayValue := .send ⟨r.name, ⟨r.args, []⟩⟩

section Serial

variable (cfg : SerialConfig) (lib : SerialLibrary W)

/-- A call into the library. -/
def portCall {α : Type} (f : W → α × W) : SerialProg W α :=
  .query fun m ↦ ((f m.world).1, { m with world := (f m.world).2 })

/-- The text of an error of the port. -/
def portError (reason : String) : String :=
  "[ERROR]\nRelay controller not reachable\n\nDriver:\nSerial\n\nPort:\n" ++ cfg.port ++
    "\n\nReason:\n" ++ reason

/-- `connect`. -/
def serialConnect : SerialProg W Unit := do
  match ← portCall lib.open_ with
  | .notInstalled =>
    .raise (relayError "Library 'pyserial' is not installed.  Run: pip install pyserial")
  | .failed e => .raise (relayError (portError cfg e))
  | .other e => .raise e
  | .opened => .modify fun m ↦ { m with serial := true, connected := true }

/-- `disconnect`, after the relays have been opened. -/
def closePort : SerialProg W Unit := do
  let m ← .get
  if m.serial then
    if ← portCall lib.isOpen then portCall fun w ↦ ((), lib.close w)
  .modify fun m ↦ { m with serial := false, connected := false }

/-- What an end of a call on the port raises in `_send_cmd`. -/
def sendEnd : SerialEnd → SerialProg W Unit
  | .done => pure ()
  | .timeout => .raise ⟨.nipxiTimeoutError, portError cfg "Communication timeout"⟩
  | .failed e => .raise (relayError s!"Serial relay {cfg.name} command failed: {e}")
  | .other e => .raise e

/-- `_send_cmd`. -/
def sendCmd (cmd : String) (expectReply : Bool) : SerialProg W String := do
  let m ← .get
  let ready ← if m.serial then portCall lib.isOpen else pure false
  if ready then
    sendEnd cfg (← portCall (lib.write cmd))
    if expectReply then
      let (ended, line) ← portCall fun w ↦
        (((lib.readline w).1, (lib.readline w).2.1), (lib.readline w).2.2)
      sendEnd cfg ended
      pure line
    else pure ""
  else .raise (relayError s!"Serial relay {cfg.name} is not connected")

/-- `_validate_channel`. -/
def serialValidateChannel (channel : ℤ) : SerialProg W Unit :=
  if 1 ≤ channel ∧ channel ≤ cfg.numChannels then pure ()
  else .raise ⟨.validationError, s!"Channel {channel} out of range (1..{cfg.numChannels}) for " ++
    "relay '" ++ cfg.name ++ "'"⟩

/-- `_open_impl`. -/
def serialOpenImpl (channel : ℤ) : SerialProg W Unit := do
  serialValidateChannel cfg channel
  let _ ← sendCmd cfg lib (cfg.cmdOpen channel) false
  pure ()

/-- `_close_impl`. -/
def serialCloseImpl (channel : ℤ) : SerialProg W Unit := do
  serialValidateChannel cfg channel
  let _ ← sendCmd cfg lib (cfg.cmdClose channel) false
  pure ()

/-- `query`: whether the answer has one of the words for a closed relay. -/
def serialQuery (channel : ℤ) : SerialProg W Bool := do
  serialValidateChannel cfg channel
  let response ← sendCmd cfg lib (cfg.cmdQuery channel) true
  let upper := (lib.normalized response).toList
  pure (["ON", "CLOSED", "1"].any fun keyword ↦ decide (keyword.toList <:+: upper))

/-- `RelayBase.settle`. -/
def serialSettle : SerialProg W Unit :=
  if cfg.settleSeconds ≤ 0 then
    .raise ⟨.validationError, "Settings.RELAY_SETTLE_TIME_S must be > 0 -- a 0 s relay "
      ++ "settling/dead-time delay is never permitted"⟩
  else pure ()

/-- The loop of `RelayBase.open_all` and `close_all`, for so many channels from one on. -/
def forChannels (r : ℤ → SerialRequest) : ℕ → ℕ → SerialCode W RelayValue
  | _, 0 => pure .none
  | channel, left + 1 => do
    let _ ← serialSelf (r channel)
    forChannels r (channel + 1) left

/-- The code behind a request. -/
def SerialRequest.code : SerialRequest → SerialCode W RelayValue
  | .connect => do
    own (serialConnect cfg lib)
    pure .none
  | .disconnect => do
    let m ← own .get
    if m.connected then
      catching (serialSelf .openAll)
        (fun _ ↦ do
          own (closePort lib)
          pure .none)
        fun _ ↦ do
          own (closePort lib)
          pure .none
    else
      own (closePort lib)
      pure .none
  | .settle => do
    own (serialSettle cfg)
    pure .none
  | .openAll => forChannels .openChannel 1 cfg.numChannels
  | .closeAll => forChannels .closeChannel 1 cfg.numChannels
  | .openChannel channel => do
    own (serialOpenImpl cfg lib channel)
    let _ ← serialSelf .settle
    pure .none
  | .closeChannel channel => do
    own (serialCloseImpl cfg lib channel)
    let _ ← serialSelf .settle
    pure .none
  | .queryChannel channel => do
    let closed ← own (serialQuery cfg lib channel)
    pure (.bool closed)

/-- The public methods. -/
def serialMethods : List (String × Declaration SerialRequest RelayValue) :=
  [("connect", nullary .connect), ("disconnect", nullary .disconnect), ("settle", nullary .settle),
    ("open_all", nullary .openAll), ("close_all", nullary .closeAll),
    ("open", unary "channel" .openChannel), ("close", unary "channel" .closeChannel),
    ("query", unary "channel" .queryChannel)]

/-- When a call makes no other call of the object. -/
def SerialRequest.Alone : SerialRequest → SerialRelay W → Prop
  | .connect, _ | .settle, _ | .queryChannel _, _ => True
  | .disconnect, s => s.connected = false
  | .openAll, _ | .closeAll, _ => cfg.numChannels = 0
  | .openChannel channel, s => ∀ a t, serialOpenImpl cfg lib channel s ≠ .ok a t
  | .closeChannel channel, s => ∀ a t, serialCloseImpl cfg lib channel s ≠ .ok a t

variable {cfg lib}

theorem calls_forChannels_iff (r : ℤ → SerialRequest) (channel n : ℕ) (s : SerialRelay W) :
    (forChannels r channel n : SerialCode W RelayValue).calls s = false ↔ n = 0 := by
  cases n with
  | zero => exact iff_of_true rfl rfl
  | succ n => exact iff_of_false Bool.true_eq_false.mp (Nat.succ_ne_zero n)

theorem SerialRequest.calls_code_iff (r : SerialRequest) (s : SerialRelay W) :
    (r.code cfg lib).calls s = false ↔ r.Alone cfg lib s := by
  cases r with
  | connect | settle | queryChannel =>
    refine iff_of_true ?_ True.intro
    rw [SerialRequest.code, Code.calls_bind_eq (own _) fun _ _ ↦ rfl]
    exact Code.calls_embed _ _ s
  | disconnect =>
    change (if s.connected = true then _ else _ : SerialCode W RelayValue).calls s = false ↔
      s.connected = false
    cases s.connected with
    | true => exact iff_of_false Bool.true_eq_false.mp Bool.true_eq_false.mp
    | false =>
      refine iff_of_true ?_ rfl
      rw [if_neg Bool.false_ne_true, Code.calls_bind_eq (own _) fun _ _ ↦ rfl]
      exact Code.calls_embed _ _ s
  | openAll | closeAll => exact calls_forChannels_iff _ _ _ s
  | openChannel | closeChannel => exact Code.calls_embed_bind_eq_false_iff _ fun _ _ ↦ rfl

/-- A call of one of the methods. -/
def IsSerialRequest (c : MethodCall RelayValue) : Prop := ∃ q : SerialRequest, c.name = q.name

theorem obeys_serialSelf (r : SerialRequest) :
    (serialSelf r : SerialCode W RelayValue).Obeys IsSerialRequest IsException := .send ⟨r, rfl⟩

theorem obeys_forChannels (r : ℤ → SerialRequest) (channel n : ℕ) :
    (forChannels r channel n : SerialCode W RelayValue).Obeys IsSerialRequest IsException := by
  induction n generalizing channel with
  | zero => exact .ret _
  | succ n ih => exact .bind (obeys_serialSelf _) fun _ ↦ ih _

/-- The driver calls only its public methods. -/
theorem SerialRequest.obeys_code (r : SerialRequest) :
    (r.code cfg lib).Obeys IsSerialRequest IsException := by
  cases r with
  | connect | settle | queryChannel => exact .bind (obeys_own _) fun _ ↦ .ret _
  | disconnect =>
    refine .bind (obeys_own _) fun m ↦ .ite ?_ (.bind (obeys_own _) fun _ ↦ .ret _)
    exact obeys_catching (obeys_serialSelf _) (fun _ ↦ .bind (obeys_own _) fun _ ↦ .ret _) fun _ ↦
      .bind (obeys_own _) fun _ ↦ .ret _
  | openAll | closeAll => exact obeys_forChannels _ _ _
  | openChannel | closeChannel =>
    exact .bind (obeys_own _) fun _ ↦ .bind (obeys_serialSelf _) fun _ ↦ .ret _

theorem SerialRequest.exists_declaration (r : SerialRequest) :
    ∃ d, serialMethods.lookup r.name = some d ∧ d.ask r.args = some r := by
  cases r with
  | _ => exact ⟨_, rfl, rfl⟩

end Serial

/-- The class `SerialRelay`. -/
def serialInterface (cfg : SerialConfig) (lib : SerialLibrary W) :
    Interface SerialRequest (SerialRelay W) RelayValue where
  className := "SerialRelay"
  table := serialMethods
  name := SerialRequest.name
  args := SerialRequest.args
  code := SerialRequest.code cfg lib
  exists_declaration := SerialRequest.exists_declaration
  isPublic_name r := by cases r <;> (dsimp only [SerialRequest.name]; decide)
  name_notMem r := by cases r <;> (dsimp only [SerialRequest.name]; decide)
  obeys_code := SerialRequest.obeys_code

end Nipxi.Relay
