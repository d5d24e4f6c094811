import Mathlib.Data.List.DropRight
import Mathlib.Data.List.Infix
import Mathlib.Data.Nat.Digits.Defs

/-!
# Bytes on the wire

What `hardware/relay_eth.py` does to bytes without touching a socket: the text of the native
Numato commands, the parsing of their replies, Telnet option stripping, and the prompt matching
of the login. A byte string is a list of bytes.
-/

namespace Nipxi

/-- Python's `bytes`. -/
abbrev Bytes := List UInt8

/-- `text.encode()`. -/
def encode (text : String) : Bytes := text.toUTF8.data.toList

/-- The line end of every command. -/
def CRLF : Bytes := [13, 10]

/-- The command prompt, `b">"`. -/
def PROMPT : Bytes := [62]

/-! ## Searching -/

/-- `pattern in buf`. -/
def contains (pattern buf : Bytes) : Bool := decide (pattern <:+: buf)

/-- `buf.lower()`. -/
def lower (buf : Bytes) : Bytes := buf.map fun b ↦ if 65 ≤ b ∧ b ≤ 90 then b + 32 else b

/-- ASCII white space, as `bytes.strip` and `\s` see it. -/
def isSpace (b : UInt8) : Bool := b ∈ [9, 10, 11, 12, 13, 32]

/-- `buf.strip()`. -/
def strip (buf : Bytes) : Bytes := (buf.dropWhile isSpace).rdropWhile isSpace

/-- `re.split(rb"[>&]", response)[0]`: what stands before the first prompt. -/
def beforePrompt (response : Bytes) : Bytes := response.takeWhile fun b ↦ b != 62 && b != 38

/-- The predicate `_read_until` waits for. -/
def matchMarker (marker buf : Bytes) : Option Bytes :=
  if contains marker buf then some marker else none

/-- The predicate `_read_until_any` waits for: the first candidate of the tuple that occurs, case
ignored. -/
def matchAny (candidates : List Bytes) (buf : Bytes) : Option Bytes :=
  candidates.find? fun c ↦ contains (lower c) (lower buf)

/-! ## Hexadecimal text -/

/-- The upper-case digit of a value below sixteen. -/
def hexDigit (n : ℕ) : UInt8 := if n < 10 then 48 + n.toUInt8 else 55 + n.toUInt8

/-- `[0-9A-Fa-f]`. -/
def isHexDigit (b : UInt8) : Bool :=
  (48 ≤ b && b ≤ 57) || (65 ≤ b && b ≤ 70) || (97 ≤ b && b ≤ 102)

/-- The value of a hexadecimal digit. -/
def hexValue (b : UInt8) : ℕ :=
  if b ≤ 57 then b.toNat - 48 else if b ≤ 70 then b.toNat - 55 else b.toNat - 87

/-- `format(n, "0{width}X")`. -/
def hexText (width n : ℕ) : Bytes := ((Nat.digits 16 n).map hexDigit).reverse.leftpad width 48

/-- `int(text, 16)`. -/
def hexNumber (text : Bytes) : ℕ := text.foldl (fun acc b ↦ 16 * acc + hexValue b) 0

/-! ## Commands -/

/-- `_hex_digits`: the digits of a bank mask, at least two. -/
def hexDigits (numChannels : ℕ) : ℕ := max 2 ((numChannels + 3) / 4)

/-- `_addr_str`: a native 0-based relay number as one character. Beyond the last code point,
where `chr` raises, the character is a null byte. -/
def addrStr (relayNumber : ℕ) : Bytes :=
  if relayNumber < 10 then encode (toString relayNumber)
  else String.utf8EncodeChar (Char.ofNat (65 + relayNumber - 10))

/-- `relay writeall <hex>`. -/
def writeAllText (numChannels mask : ℕ) : Bytes :=
  encode "relay writeall " ++ hexText (hexDigits numChannels) mask

/-- `relay readall`. -/
def readAllText : Bytes := encode "relay readall"

/-- `relay on <n>` and `relay off <n>`. -/
def writeText (relayNumber : ℕ) (state : Bool) : Bytes :=
  encode "relay " ++ encode (if state then "on" else "off") ++ encode " " ++ addrStr relayNumber

/-- `relay read <n>`. -/
def readText (relayNumber : ℕ) : Bytes := encode "relay read " ++ addrStr relayNumber

/-! ## Replies -/

/-- The mask `_parse_readall_response` finds: the run of hexadecimal digits at the end of the
text before the prompt, at least two of them and at most the last eight. -/
def parseReadall (response : Bytes) : Option ℕ :=
  let run := (strip (beforePrompt response)).rtakeWhile isHexDigit
  if 2 ≤ run.length then some (hexNumber (run.rtake 8)) else none

/-- The state `_parse_read_response` finds: the text before the prompt mentions `on`, or else
`off`. -/
def parseRead (response : Bytes) : Option Bool :=
  let text := lower (beforePrompt response)
  if contains (encode "on") text then some true
  else if contains (encode "off") text then some false
  else none

/-- `_mask_to_channels`: the 1-based channels whose bit is set. -/
def maskToChannels (numChannels mask : ℕ) : List ℕ :=
  (List.range' 1 numChannels).filter fun channel ↦ mask.testBit (channel - 1)

/-! ## Telnet option negotiation -/

/-- Where `_handle_iac` is: in the text, or inside a subnegotiation it skips. -/
inductive IacMode where
  | text
  | subnegotiation
  deriving DecidableEq

/-- The loop of `_handle_iac` over one chunk: the visible bytes and the replies. `WILL` (251) is
declined with `DONT` (254), `DO` (253) with `WONT` (252); the opening of a subnegotiation (250)
skips to the next `IAC SE` (240), or to the end of the chunk if there is none; a control sequence
the chunk cuts off loses its first byte. -/
def iacLoop : IacMode → Bytes → Bytes × Bytes
  | _, [] => ([], [])
  | .subnegotiation, [_] => ([], [])
  | .subnegotiation, b :: cmd :: rest =>
    if b = 255 ∧ cmd = 240 then iacLoop .text rest else iacLoop .subnegotiation (cmd :: rest)
  | .text, [b] => if b = 255 then ([], []) else ([b], [])
  | .text, [b, cmd] =>
    if b ≠ 255 then
      let (out, replies) := iacLoop .text [cmd]
      (b :: out, replies)
    else if cmd = 255 then ([255], [])
    else if cmd = 251 ∨ cmd = 252 ∨ cmd = 253 ∨ cmd = 254 then ([cmd], [])
    else ([], [])
  | .text, b :: cmd :: opt :: rest =>
    if b ≠ 255 then
      let (out, replies) := iacLoop .text (cmd :: opt :: rest)
      (b :: out, replies)
    else if cmd = 255 then
      let (out, replies) := iacLoop .text (opt :: rest)
      (255 :: out, replies)
    else if cmd = 250 then iacLoop .subnegotiation (opt :: rest)
    else if cmd = 251 ∨ cmd = 253 then
      let (out, replies) := iacLoop .text rest
      (out, 255 :: (if cmd = 251 then 254 else 252) :: opt :: replies)
    else if cmd = 252 ∨ cmd = 254 then iacLoop .text rest
    else iacLoop .text (opt :: rest)

/-- `_handle_iac`, the sending of the replies apart. -/
def handleIac (chunk : Bytes) : Bytes × Bytes :=
  if 255 ∈ chunk then iacLoop .text chunk else (chunk, [])

/-! ## Texts in messages -/

/-- One byte of `repr(bytes)`, inside quotes of the given kind. -/
def reprByte (quote b : UInt8) : List Char :=
  let hex := hexText 2 b.toNat
  if b = quote ∨ b = 92 then ['\\', Char.ofNat b.toNat]
  else if b = 9 then ['\\', 't']
  else if b = 10 then ['\\', 'n']
  else if b = 13 then ['\\', 'r']
  else if b < 32 ∨ 127 ≤ b then
    '\\' :: 'x' :: hex.map fun d ↦ (Char.ofNat d.toNat).toLower
  else [Char.ofNat b.toNat]

/-- Bytes in quotes of the kind that `repr` chooses, each shown by a function of the quote. -/
def quoted (shown : UInt8 → UInt8 → List Char) (buf : Bytes) : List Char :=
  let quote : UInt8 := if 39 ∈ buf ∧ 34 ∉ buf then 34 else 39
  let mark := Char.ofNat quote.toNat
  mark :: (buf.flatMap (shown quote) ++ [mark])

/-- `repr(bytes)`. -/
def reprBytes (buf : Bytes) : String := String.ofList ('b' :: quoted reprByte buf)

/-- `repr` of a byte string as text, each byte that is not ASCII replaced by the replacement
character. -/
def reprText (buf : Bytes) : String :=
  String.ofList (buf |> quoted fun quote b ↦
    if b < 128 then reprByte quote b else [Char.ofNat 65533])

/-- A byte string as text, each byte that is not ASCII replaced by the replacement character. -/
def decodeText (buf : Bytes) : String :=
  String.ofList (buf.map fun b ↦ if b < 128 then Char.ofNat b.toNat else Char.ofNat 65533)

end Nipxi
