import Nipxi.Effect.Prog
import Nipxi.Hardware.Relay.Wire
import Nipxi.Utils.Errors

/-!
# The Numato relay matrix driver

`hardware/relay_eth.py`, from the socket up to `open`, `close` and `open_all`. The network is a
record of functions over a world `W` that decides every outcome: how a connection attempt ends,
what a `recv` brings, when a deadline has passed. Nothing is assumed about it here.

Besides the driver's own fields the state keeps a trace, newest entry first: the command each
`Sending: …` log line names, the commands handed to the socket, what each was answered, how the
tries of each native command ended, and the successful logins and bank openings. No control flow
reads it. The other log lines are left out, and with them the reason text of an emergency shutdown,
which is only logged.
-/

open Effect

namespace Nipxi

/-! ## The network -/

/-- How `sock.connect` can end. -/
inductive ConnectResult where
  | connected
  | timeout
  | refused
  | osError (e : String)

/-- How `sock.recv` can end. An empty chunk is the end of the stream. -/
inductive RecvResult where
  | chunk (data : Bytes)
  | timeout
  | osError (e : String)

/-- The network and the device behind it, as the driver's socket calls see them. -/
structure Net (W : Type) where
  /-- `sock.connect` of a new socket. -/
  connect : W → ConnectResult × W
  /-- `sock.close`, whose `OSError` is ignored everywhere. -/
  close : W → W
  /-- `sock.sendall`, with the text of its `OSError` if it raises. -/
  sendall : Bytes → W → Option String × W
  /-- How often the loop of `_recv_until` runs before the deadline passes. -/
  polls : W → ℕ × W
  /-- `sock.recv`. -/
  recv : W → RecvResult × W

/-- The parts of the configuration dictionary the driver uses, and the settle time. -/
structure RelayConfig where
  /-- `cfg["name"]`. -/
  name : String
  /-- `cfg["driver"]`. -/
  driver : String
  /-- `cfg["ip"]`. -/
  host : String
  /-- `cfg["username"]`. -/
  user : String
  /-- `cfg["password"]`. -/
  password : String
  /-- `cfg["channel_count"]`. -/
  numChannels : ℕ
  /-- `Settings.RELAY_SETTLE_TIME_S`. -/
  settleSeconds : ℚ

/-- The configuration of MATRIX_NUMATO_202. -/
def numatoConfig : RelayConfig :=
  ⟨"MATRIX_NUMATO_202", "RELAY32ETHRL00", "169.254.1.202", "admin", "admin", 32, 1 / 2⟩

/-! ## The driver's state -/

/-- How the tries of one native command ended: `first` and `retry` are the exceptions of the two
tries, `reconnect` that of the reconnect in between, each with an outer `none` where it was not
made. -/
structure CallRecord where
  /-- The command. -/
  cmd : Bytes
  /-- The exception of the first try, if it raised. -/
  first : Option Exc
  /-- The reconnect, if one was attempted, with its exception. -/
  reconnect : Option (Option Exc)
  /-- The retry, if one was made, with its exception. -/
  retry : Option (Option Exc)

/-- An entry of the trace. -/
inductive RelayEvent where
  /-- The log line `Sending: …` of `write_all` and `write`. -/
  | sending (cmd : Bytes)
  /-- A command was handed to `sock.sendall`. -/
  | sent (cmd : Bytes)
  /-- A command was answered, and not rejected. -/
  | answered (cmd response : Bytes)
  /-- A native command was called with its reconnect and retry. -/
  | call (record : CallRecord)
  /-- `check_current_relay_state` returned. -/
  | checked (mask : Option ℕ)
  /-- `_emergency_all_off` returned. -/
  | emergency (ok : Bool)
  /-- `connect` got past the login. -/
  | loggedIn
  /-- `open_all` returned. -/
  | opened

/-- A `NumatoRelayMatrix` object together with the world it talks to. -/
structure Matrix (W : Type) where
  /-- Whether `_sock` is not `None`. -/
  sock : Bool
  /-- `connected`. -/
  connected : Bool
  /-- `last_known_mask`. -/
  lastKnownMask : Option ℕ
  /-- The world. -/
  world : W
  /-- What happened, newest first. -/
  trace : List RelayEvent

/-- Driver code. -/
abbrev RelayProg (W α : Type) := Prog Exc (Matrix W) α

variable {W : Type}

/-- Adds an entry to the trace. -/
def note (ev : RelayEvent) : RelayProg W Unit :=
  .modify fun m ↦ { m with trace := ev :: m.trace }

/-- Adds a command to the trace if there is a socket to send it on. -/
def noteSent (cmd : Bytes) : RelayProg W Unit :=
  .modify fun m ↦ if m.sock then { m with trace := .sent cmd :: m.trace } else m

/-- A call into the network. -/
def netCall {α : Type} (f : W → α × W) : RelayProg W α :=
  .query fun m ↦ ((f m.world).1, { m with world := (f m.world).2 })

/-- Sets `_sock`. -/
def setSock (sock : Bool) : RelayProg W Unit := .modify fun m ↦ { m with sock := sock }

/-- Sets `connected`. -/
def setConnected (connected : Bool) : RelayProg W Unit :=
  .modify fun m ↦ { m with connected := connected }

/-- Sets `last_known_mask`. -/
def setLastKnownMask (mask : Option ℕ) : RelayProg W Unit :=
  .modify fun m ↦ { m with lastKnownMask := mask }

/-- A `RelayError`. -/
def relayError (message : String) : Exc := ⟨.relayError, message⟩

/-- An exception the reconnect logic catches: `(RelayError, NIPXITimeoutError)`. -/
def Exc.isComm (e : Exc) : Bool := e.isInstance [.relayError, .nipxiTimeoutError]

section Driver

variable (cfg : RelayConfig) (net : Net W)

/-- `_conn_error`. -/
def connError (reason : String) : String :=
  "[ERROR]\nNumato relay matrix controller not reachable\n\nDriver:\n" ++ cfg.driver
    ++ "\n\nHost:\n" ++ cfg.host ++ "\n\nReason:\n" ++ reason

/-! ## Sending and receiving -/

/-- `_send_raw`. -/
def sendRaw (data : Bytes) : RelayProg W Unit := do
  let m ← .get
  if m.sock then
    match ← netCall (net.sendall data) with
    | some e => .raise (relayError ("Send failed to " ++ cfg.host ++ ": " ++ e))
    | none => pure ()
  else .raise (relayError ("Numato relay matrix " ++ cfg.name ++ " is not connected"))

/-- The replies of `_handle_iac`, sent best-effort. -/
def sendReplies (replies : Bytes) : RelayProg W Unit :=
  if replies = [] then pure ()
  else do
    let _ ← netCall (net.sendall replies)

/-- The loop of `_recv_until`, with the number of rounds left before the deadline and what has
been received so far. It runs on an open socket only: `_send_raw` has checked it, or `connect`
has just made it. -/
def recvLoop (matchFn : Bytes → Option Bytes) : ℕ → Bytes → RelayProg W (Bytes × Bytes)
  | 0, buf => .raise ⟨.nipxiTimeoutError, "received so far: " ++ reprBytes buf⟩
  | rounds + 1, buf => do
    match ← netCall net.recv with
    | .timeout => recvLoop matchFn rounds buf
    | .osError e => .raise ⟨.osError, e⟩
    | .chunk [] =>
      .raise (relayError ("Connection closed by " ++ cfg.host ++ " -- received so far: "
        ++ reprBytes buf))
    | .chunk data =>
      sendReplies net (handleIac data).2
      let buf := buf ++ (handleIac data).1
      match matchFn buf with
      | some (b :: found) => pure (b :: found, buf)
      | _ => recvLoop matchFn rounds buf

/-- `_recv_until`. -/
def recvUntil (matchFn : Bytes → Option Bytes) : RelayProg W (Bytes × Bytes) := do
  let rounds ← netCall net.polls
  recvLoop cfg net matchFn rounds []

/-- `_read_until`. -/
def readUntil (marker : Bytes) : RelayProg W Bytes := do
  let r ← (recvUntil cfg net (matchMarker marker)).handle fun e ↦
    if e.isInstance [.nipxiTimeoutError] then
      .raise ⟨.nipxiTimeoutError, connError cfg
        ("Timeout waiting for " ++ reprBytes marker ++ ": " ++ e.message)⟩
    else .raise e
  pure r.2

/-- `_read_until_any`. -/
def readUntilAny (candidates : List Bytes) (label : String) : RelayProg W (Bytes × Bytes) :=
  (recvUntil cfg net (matchAny candidates)).handle fun e ↦
    if e.isInstance [.nipxiTimeoutError] then
      let shown := candidates.map reprText
      .raise ⟨.nipxiTimeoutError, "Timeout waiting for " ++ label ++ " -- expected one of ["
        ++ ", ".intercalate shown ++ "]. " ++ e.message⟩
    else .raise e

/-- `_send_and_capture`. -/
def sendAndCapture (cmd : Bytes) : RelayProg W Bytes := do
  noteSent cmd
  sendRaw cfg net (cmd ++ CRLF)
  let response ← readUntil cfg net PROMPT
  if contains (encode "invalid") (lower response) then
    .raise (relayError ("Relay controller rejected command " ++ reprText cmd ++ ": "
      ++ reprBytes response))
  else
    note (.answered cmd response)
    pure response

/-- `_parse_readall_response`. -/
def parseReadallResponse (response : Bytes) : RelayProg W ℕ :=
  match parseReadall response with
  | some mask => pure mask
  | none => .raise (relayError ("relay readall returned unparseable response: "
      ++ reprBytes (beforePrompt response)))

/-- `_parse_read_response`. -/
def parseReadResponse (response : Bytes) (relayNumber : ℕ) : RelayProg W Bool :=
  match parseRead response with
  | some state => pure state
  | none => .raise (relayError ("Relay read returned invalid response for relay "
      ++ toString relayNumber ++ ": " ++ reprText (strip (lower (beforePrompt response)))))

/-! ## Connecting -/

/-- `LOGIN_PROMPTS`. -/
def LOGIN_PROMPTS : List Bytes := [encode "login", encode "username", encode "user name"]

/-- `PASSWORD_PROMPTS`. -/
def PASSWORD_PROMPTS : List Bytes := [encode "password"]

/-- `FAILURE_MARKERS`. -/
def FAILURE_MARKERS : List Bytes :=
  [encode "incorrect", encode "denied", encode "invalid", encode "failed"]

/-- `_login`. -/
def login : RelayProg W Unit := do
  let _ ← readUntilAny cfg net LOGIN_PROMPTS "login prompt"
  sendRaw cfg net (encode cfg.user ++ CRLF)
  let _ ← readUntilAny cfg net PASSWORD_PROMPTS "password prompt"
  sendRaw cfg net (encode cfg.password ++ CRLF)
  let r ← readUntilAny cfg net (FAILURE_MARKERS ++ [PROMPT]) "command prompt or failure banner"
  if r.1 = PROMPT then pure ()
  else .raise (relayError (connError cfg
    ("Login rejected by the relay firmware -- matched failure marker " ++ reprBytes r.1
      ++ " in the response.\nFull response received: " ++ reprBytes r.2 ++ "\nUsername used: '"
      ++ cfg.user ++ "' (password intentionally not included in this exception text -- enable "
      ++ "DEBUG logging to see the full Telnet transcript, including 'TX (password): ...').")))

/-- `self._sock.close(); self._sock = None`, with `OSError` ignored. -/
def dropSock : RelayProg W Unit := do
  let _ ← netCall fun w ↦ ((), net.close w)
  setSock false

/-- `dropSock` where there is a socket. -/
def discardSock : RelayProg W Unit := do
  let m ← .get
  if m.sock then dropSock net else pure ()

/-- The first half of `connect`: a stale socket is discarded and a new one connected. -/
def openSock : RelayProg W Unit := do
  discardSock net
  setConnected false
  match ← netCall net.connect with
  | .timeout => .raise (relayError (connError cfg "Connection timeout"))
  | .refused => .raise (relayError (connError cfg "Connection refused"))
  | .osError e => .raise (relayError (connError cfg e))
  | .connected => setSock true

/-- The login of `connect`. A timeout and a `RelayError` close the socket; any other exception
leaves it as it is. -/
def loginOrDrop : RelayProg W Unit :=
  (login cfg net).handle fun e ↦ do
    if e.isInstance [.nipxiTimeoutError] then
      dropSock net
      .raise (relayError (connError cfg ("Timeout during login sequence: " ++ e.message)))
    else if e.isInstance [.relayError] then
      dropSock net
      .raise e
    else .raise e

/-- The connection verification of `connect`: one `relay readall` past the reconnect logic. If it
fails, the session counts as not connected, but its socket stays. -/
def verifyConnection : RelayProg W Unit :=
  Prog.handle
    (do
      let response ← sendAndCapture cfg net readAllText
      let _ ← parseReadallResponse response
      pure ())
    fun e ↦ do
      setConnected false
      .raise (relayError (connError cfg
        ("Connected and logged in, but initial 'relay readall' verification failed: "
          ++ e.message)))

/-- `connect`. -/
def connect : RelayProg W Unit := do
  openSock cfg net
  loginOrDrop cfg net
  note .loggedIn
  setConnected true
  verifyConnection cfg net

/-- `disconnect`. -/
def disconnect : RelayProg W Unit := do
  discardSock net
  setConnected false

/-! ## Native commands -/

/-- `_emergency_all_off`. -/
def emergencyAllOff : RelayProg W Bool := do
  let r ← Prog.attempt (do
    let _ ← sendAndCapture cfg net (writeAllText cfg.numChannels 0)
    let response ← sendAndCapture cfg net readAllText
    parseReadallResponse response)
  let ok := match r with
    | .ok mask => mask == 0
    | .error _ => false
  note (.emergency ok)
  pure ok

/-- `_call_with_reconnect`; the function it calls is `_send_and_capture` everywhere. -/
def callWithReconnect (cmd : Bytes) : RelayProg W Bytes := do
  match ← (sendAndCapture cfg net cmd).attempt with
  | .ok response =>
    note (.call ⟨cmd, none, none, none⟩)
    pure response
  | .error e =>
    if e.isComm then
      match ← (connect cfg net).attempt with
      | .error reconnectErr =>
        let _ ← emergencyAllOff cfg net
        note (.call ⟨cmd, some e, some (some reconnectErr), none⟩)
        .raise (relayError ("Automatic reconnect failed after communication error ("
          ++ e.message ++ "): " ++ reconnectErr.message))
      | .ok _ =>
        match ← (sendAndCapture cfg net cmd).attempt with
        | .ok response =>
          note (.call ⟨cmd, some e, some none, some none⟩)
          pure response
        | .error retryErr =>
          if retryErr.isComm then
            let _ ← emergencyAllOff cfg net
            note (.call ⟨cmd, some e, some none, some (some retryErr)⟩)
            .raise retryErr
          else
            note (.call ⟨cmd, some e, some none, some (some retryErr)⟩)
            .raise retryErr
    else
      note (.call ⟨cmd, some e, none, none⟩)
      .raise e

/-- `write_all`. -/
def writeAll (mask : ℕ) : RelayProg W Unit := do
  note (.sending (writeAllText cfg.numChannels mask))
  let _ ← callWithReconnect cfg net (writeAllText cfg.numChannels mask)

/-- `read_all`. -/
def readAll : RelayProg W ℕ := do
  let response ← callWithReconnect cfg net readAllText
  let mask ← parseReadallResponse response
  setLastKnownMask (some mask)
  pure mask

/-- `_validate_relay_number`. -/
def validateRelayNumber (relayNumber : ℕ) : RelayProg W Unit :=
  if relayNumber < cfg.numChannels then pure ()
  else .raise ⟨.validationError, "Relay number " ++ toString relayNumber ++ " out of range (0.."
    ++ toString ((cfg.numChannels : ℤ) - 1) ++ ") for relay '" ++ cfg.name
    ++ "' (Numato native 0-based addressing)"⟩

/-- `write`. -/
def write (relayNumber : ℕ) (state : Bool) : RelayProg W Unit := do
  validateRelayNumber cfg relayNumber
  note (.sending (writeText relayNumber state))
  let _ ← callWithReconnect cfg net (writeText relayNumber state)

/-- `read_relay`. -/
def readRelay (relayNumber : ℕ) : RelayProg W Bool := do
  validateRelayNumber cfg relayNumber
  let response ← callWithReconnect cfg net (readText relayNumber)
  parseReadResponse response relayNumber

/-- The last sentence of a verification error. -/
def shutdownVerdict (ok : Bool) : String :=
  if ok then "Execution stopped. Emergency shutdown succeeded -- all relays forced OFF and "
    ++ "confirmed."
  else "Execution stopped. Emergency shutdown FAILED -- hardware may still be energized. "
    ++ "Physically disconnect power."

/-- `verify_single`. -/
def verifySingle (relayNumber : ℕ) (expected : Bool) : RelayProg W Unit := do
  let actual ← readRelay cfg net relayNumber
  if actual = expected then pure ()
  else
    let ok ← emergencyAllOff cfg net
    .raise ⟨.relayStateVerificationError, "Relay " ++ toString relayNumber
      ++ " verification FAILED: expected " ++ (if expected then "ON" else "OFF") ++ ", got "
      ++ (if actual then "ON" else "OFF") ++ ". " ++ shutdownVerdict ok⟩

/-- A mask with its active channels, as verification errors show it. -/
def showMask (mask : ℕ) : String :=
  "0x" ++ decodeText (hexText (hexDigits cfg.numChannels) mask) ++ " (active: "
    ++ toString (maskToChannels cfg.numChannels mask) ++ ")"

/-- `verify_all`. -/
def verifyAll (expected : ℕ) : RelayProg W Unit := do
  let mask ← readAll cfg net
  if mask = expected then pure ()
  else
    let ok ← emergencyAllOff cfg net
    .raise ⟨.relayStateVerificationError, "Relay bank verification FAILED: expected mask "
      ++ showMask cfg expected ++ ", got " ++ showMask cfg mask ++ ". " ++ shutdownVerdict ok⟩

/-! ## The mandatory safety sequence and the public calls -/

/-- `check_current_relay_state`: a failed read is logged and forgotten. -/
def checkCurrentRelayState : RelayProg W (Option ℕ) := do
  match ← (readAll cfg net).attempt with
  | .ok mask =>
    note (.checked (some mask))
    pure (some mask)
  | .error _ =>
    setLastKnownMask none
    note (.checked none)
    pure none

/-- `_force_all_off_and_verify`. -/
def forceAllOffAndVerify : RelayProg W Unit := do
  let _ ← checkCurrentRelayState cfg net
  writeAll cfg net 0
  verifyAll cfg net 0

/-- `_validate_channel`. -/
def validateChannel (channel : ℕ) : RelayProg W Unit :=
  if 1 ≤ channel ∧ channel ≤ cfg.numChannels then pure ()
  else .raise ⟨.validationError, "Channel " ++ toString channel ++ " out of range (1.."
    ++ toString cfg.numChannels ++ ") for relay '" ++ cfg.name ++ "'"⟩

/-- `_open_impl`. -/
def openImpl (channel : ℕ) : RelayProg W Unit := do
  validateChannel cfg channel
  forceAllOffAndVerify cfg net

/-- `_close_impl`. -/
def closeImpl (channel : ℕ) : RelayProg W Unit := do
  validateChannel cfg channel
  forceAllOffAndVerify cfg net
  write cfg net (channel - 1) true
  verifySingle cfg net (channel - 1) true
  verifyAll cfg net (1 <<< (channel - 1))

/-- `open_all`. -/
def openAll : RelayProg W Unit := do
  forceAllOffAndVerify cfg net
  note .opened

/-- `RelayBase.settle`; the sleep itself changes nothing the driver sees. -/
def settle : RelayProg W Unit :=
  if cfg.settleSeconds ≤ 0 then
    .raise ⟨.validationError, "Settings.RELAY_SETTLE_TIME_S must be > 0 -- a 0 s relay "
      ++ "settling/dead-time delay is never permitted"⟩
  else pure ()

/-- `RelayBase.open`. -/
def openChannel (channel : ℕ) : RelayProg W Unit := do
  openImpl cfg net channel
  settle cfg

/-- `RelayBase.close`. -/
def closeChannel (channel : ℕ) : RelayProg W Unit := do
  closeImpl cfg net channel
  settle cfg

end Driver

/-- The calls of the public interface that change relay state. -/
inductive RelayOp where
  | openChannel (channel : ℕ)
  | closeChannel (channel : ℕ)
  | openAll
  deriving DecidableEq

/-- Running one public call. -/
def RelayOp.run (cfg : RelayConfig) (net : Net W) : RelayOp → RelayProg W Unit
  | .openChannel channel => Nipxi.openChannel cfg net channel
  | .closeChannel channel => Nipxi.closeChannel cfg net channel
  | .openAll => Nipxi.openAll cfg net

/-- What a public call promises of the bank when it returns. -/
def RelayOp.bankAfter : RelayOp → ℕ
  | .openChannel _ | .openAll => 0
  | .closeChannel channel => 2 ^ (channel - 1)

/-- What can be asked of the driver. -/
inductive RelayCall where
  | connect
  | disconnect
  | operate (op : RelayOp)

/-- Running one of them. -/
def RelayCall.run (cfg : RelayConfig) (net : Net W) : RelayCall → RelayProg W Unit
  | .connect => Nipxi.connect cfg net
  | .disconnect => Nipxi.disconnect net
  | .operate op => op.run cfg net

/-- A call and whether it returned. -/
structure CallEnd where
  call : RelayCall
  returned : Bool

/-- A call returns or raises. -/
def CallEnd.Ends (cfg : RelayConfig) (net : Net W) (c : CallEnd) (s t : Matrix W) : Prop :=
  if c.returned then c.call.run cfg net s = .ok () t else ∃ e, c.call.run cfg net s = .error e t

end Nipxi
