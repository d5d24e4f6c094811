import Nipxi.Hardware.Relay.Driver
import Mathlib.Data.Nat.Digits.Lemmas

/-!
# The relay module on the other end

What a Numato relay module makes of the lines it is sent: which native command a line is, and
what executing one does to the bank. The commands the driver builds are read back as what they
mean (`decode_writeAllText_zero` and its companions), so that a device which acts on bytes can be
reasoned about as one which acts on commands.

The bank is the mask `relay readall` reports: relay `n` is energized when bit `n` is set.
-/

namespace Nipxi

/-! ## Commands -/

/-- A native command, as the module understands it. -/
inductive DeviceCmd where
  | writeAll (mask : ℕ)
  | readAll
  | on (relay : ℕ)
  | off (relay : ℕ)
  | read (relay : ℕ)
  deriving DecidableEq, Repr

/-- What follows a fixed beginning, if the bytes begin so. -/
def afterStart : Bytes → Bytes → Option Bytes
  | [], line => some line
  | _ :: _, [] => none
  | p :: ps, b :: line => if p = b then afterStart ps line else none

/-- A line without its two line-end bytes. -/
def chomp (line : Bytes) : Bytes := line.take (line.length - 2)

/-- The relay a one-character address names: `0` to `9` and `A` to `V`. -/
def decodeAddr : Bytes → Option ℕ
  | [b] =>
    if 48 ≤ b ∧ b ≤ 57 then some (b.toNat - 48)
    else if 65 ≤ b ∧ b ≤ 86 then some (b.toNat - 55)
    else none
  | _ => none

/-- The command a line is, if it is one. -/
def decode (line : Bytes) : Option DeviceCmd :=
  if line = readAllText ++ CRLF then some .readAll
  else if let some rest := afterStart (encode "relay writeall ") line then
    some (.writeAll (hexNumber (chomp rest)))
  else if let some rest := afterStart (encode "relay on ") line then
    (decodeAddr (chomp rest)).map .on
  else if let some rest := afterStart (encode "relay off ") line then
    (decodeAddr (chomp rest)).map .off
  else if let some rest := afterStart (encode "relay read ") line then
    (decodeAddr (chomp rest)).map .read
  else none

@[simp] theorem chomp_append_CRLF (text : Bytes) : chomp (text ++ CRLF) = text := by
  simp [chomp, CRLF]

theorem decode_readAllText : decode (readAllText ++ CRLF) = some .readAll := by
  rw [decode, if_pos rfl]

private theorem hexNumber_replicate_zero (k : ℕ) : hexNumber (List.replicate k 48) = 0 := by
  rw [hexNumber]
  induction k with
  | zero => rfl
  | succ k ih =>
    rw [List.replicate_succ, List.foldl_cons]
    exact ih

/-- Two lines that differ in their seventh byte are different. -/
private theorem ne_of_getElem?_six {l l' : Bytes} (b c : UInt8) (h : l[6]? = some b)
    (h' : l'[6]? = some c) (hne : b ≠ c) : l ≠ l' := by
  rintro rfl
  exact hne (Option.some.inj (h.symm.trans h'))

/-- The force-off is read as the command that clears the bank. -/
theorem decode_writeAllText_zero (numChannels : ℕ) :
    decode (writeAllText numChannels 0 ++ CRLF) = some (.writeAll 0) := by
  have htext : hexText (hexDigits numChannels) 0 = List.replicate (hexDigits numChannels) 48 := by
    simp [hexText, List.leftpad]
  have hrest : afterStart (encode "relay writeall ") (writeAllText numChannels 0 ++ CRLF)
      = some (hexText (hexDigits numChannels) 0 ++ CRLF) := rfl
  have hne : writeAllText numChannels 0 ++ CRLF ≠ readAllText ++ CRLF :=
    ne_of_getElem?_six 119 114 rfl rfl (by decide)
  rw [decode, if_neg hne, hrest]
  simp only [chomp_append_CRLF, htext, hexNumber_replicate_zero]

/-- A character past `V`, or the null byte, is no address. -/
private theorem decodeAddr_utf8EncodeChar {c : Char}
    (h : c.val.toNat = 0 ∨ 87 ≤ c.val.toNat) : decodeAddr (String.utf8EncodeChar c) = none := by
  unfold String.utf8EncodeChar
  dsimp only
  split
  · rename_i hascii
    have hb : (UInt8.ofNat c.val.toNat).toNat = c.val.toNat :=
      UInt8.toNat_ofNat_of_lt (by simpa using Nat.lt_of_le_of_lt hascii (by decide))
    have hdigit : ¬(48 ≤ UInt8.ofNat c.val.toNat ∧ UInt8.ofNat c.val.toNat ≤ 57) := by
      rw [UInt8.le_iff_toNat_le, UInt8.le_iff_toNat_le, hb]
      intro hr
      have := hr.1
      have := hr.2
      simp at *
      omega
    have hletter : ¬(65 ≤ UInt8.ofNat c.val.toNat ∧ UInt8.ofNat c.val.toNat ≤ 86) := by
      rw [UInt8.le_iff_toNat_le, UInt8.le_iff_toNat_le, hb]
      intro hr
      have := hr.1
      have := hr.2
      simp at *
      omega
    rw [decodeAddr, if_neg hdigit, if_neg hletter]
  · split
    · rfl
    · split <;> rfl

/-- An address the module knows is the address of the relay it was built for. -/
theorem decodeAddr_addrStr (n : ℕ) :
    decodeAddr (addrStr n) = none ∨ decodeAddr (addrStr n) = some n := by
  by_cases hn : n < 32
  · have hall : ∀ k : Fin 32, decodeAddr (addrStr k.val) = some k.val := by decide
    exact Or.inr (hall ⟨n, hn⟩)
  · left
    rw [addrStr, if_neg (by omega)]
    apply decodeAddr_utf8EncodeChar
    by_cases hv : (65 + n - 10).isValidChar
    · right
      have hval : (Char.ofNat (65 + n - 10)).val.toNat = 65 + n - 10 := by
        rw [Char.ofNat, dif_pos hv]
        rfl
      omega
    · left
      rw [Char.ofNat, dif_neg hv]
      rfl

/-- A switch-on line is read as switching on its relay, or not as a command at all. -/
theorem decode_writeText_true (n : ℕ) :
    decode (writeText n true ++ CRLF) = none ∨
      decode (writeText n true ++ CRLF) = some (.on n) := by
  have hall : afterStart (encode "relay writeall ") (writeText n true ++ CRLF) = none := rfl
  have hrest : afterStart (encode "relay on ") (writeText n true ++ CRLF)
      = some (addrStr n ++ CRLF) := rfl
  have hne : writeText n true ++ CRLF ≠ readAllText ++ CRLF :=
    ne_of_getElem?_six 111 114 rfl rfl (by decide)
  rw [decode, if_neg hne, hall, hrest]
  simp only [chomp_append_CRLF]
  rcases decodeAddr_addrStr n with h | h <;> simp [h]

theorem decode_readText (n : ℕ) :
    decode (readText n ++ CRLF) = none ∨ decode (readText n ++ CRLF) = some (.read n) := by
  have hall : afterStart (encode "relay writeall ") (readText n ++ CRLF) = none := rfl
  have hon : afterStart (encode "relay on ") (readText n ++ CRLF) = none := rfl
  have hoff : afterStart (encode "relay off ") (readText n ++ CRLF) = none := rfl
  have hrest : afterStart (encode "relay read ") (readText n ++ CRLF)
      = some (addrStr n ++ CRLF) := rfl
  have hne : readText n ++ CRLF ≠ readAllText ++ CRLF := by
    intro h
    have hten : (readText n ++ CRLF)[10]? = (readAllText ++ CRLF)[10]? := by rw [h]
    exact absurd (Option.some.inj hten) (by decide)
  rw [decode, if_neg hne, hall, hon, hoff, hrest]
  simp only [chomp_append_CRLF]
  rcases decodeAddr_addrStr n with h | h <;> simp [h]

/-! ## Executing a command -/

/-- The bank after a command, on a module with the given number of relays. A relay the module
does not have is left alone. -/
def execute (relays : ℕ) (bank : ℕ) : DeviceCmd → ℕ
  | .writeAll mask => mask % 2 ^ relays
  | .on n => if n < relays then bank ||| 2 ^ n else bank
  | .off n => bank - (bank &&& 2 ^ n)
  | .readAll | .read _ => bank

/-- At most one relay of a bank is energized. -/
def AtMostOne (bank : ℕ) : Prop := ∀ i j, bank.testBit i → bank.testBit j → i = j

theorem testBit_execute_on {relays bank n i : ℕ} (h : (execute relays bank (.on n)).testBit i) :
    bank.testBit i ∨ i = n := by
  rw [execute] at h
  split at h
  · rw [Nat.testBit_or, Bool.or_eq_true, Nat.testBit_two_pow] at h
    exact h.imp_right fun h' ↦ (of_decide_eq_true h').symm
  · exact Or.inl h

@[simp] theorem execute_writeAll_zero (relays bank : ℕ) :
    execute relays bank (.writeAll 0) = 0 := by
  simp [execute]

/-! ## Delivering a reply -/

/-- What a `recv` comes to while a reply is due. -/
inductive Delivery where
  /-- At most `count + 1` bytes of it, or a timeout if there are none yet. -/
  | bytes (count : ℕ)
  | timeout
  | osError (e : String)
  | closed

/-- What the `recv` brings, and what is left of the bytes that were there. -/
def Delivery.take : Delivery → Bytes → RecvResult × Bytes
  | .bytes _, [] => (.timeout, [])
  | .bytes count, inbox => (.chunk (inbox.take (count + 1)), inbox.drop (count + 1))
  | .timeout, inbox => (.timeout, inbox)
  | .osError e, inbox => (.osError e, inbox)
  | .closed, inbox => (.chunk [], inbox)

/-- A `recv` fails and leaves the bytes, or brings the first of them. -/
theorem Delivery.take_cases (d : Delivery) (inbox : Bytes) :
    d.take inbox = (.timeout, inbox) ∨ (∃ e, d.take inbox = (.osError e, inbox)) ∨
      ∃ data rest, d.take inbox = (.chunk data, rest) ∧ data ++ rest = inbox := by
  cases d with
  | bytes count =>
    cases inbox with
    | nil => exact Or.inl rfl
    | cons b inbox => exact Or.inr (Or.inr ⟨_, _, rfl, List.take_append_drop (count + 1) _⟩)
  | timeout => exact Or.inl rfl
  | osError e => exact Or.inr (Or.inl ⟨e, rfl⟩)
  | closed => exact Or.inr (Or.inr ⟨_, _, rfl, rfl⟩)

/-- Text up to its prompt says what the whole reply says. -/
theorem parseReadall_append {buf : Bytes} (h : 62 ∈ buf) (rest : Bytes) :
    parseReadall (buf ++ rest) = parseReadall buf := by
  have hbefore : beforePrompt (buf ++ rest) = beforePrompt buf := by
    unfold beforePrompt
    induction buf with
    | nil => exact absurd h List.not_mem_nil
    | cons b buf ih =>
      by_cases hb : (b != 62 && b != 38) = true
      · have hmem : 62 ∈ buf := by
          refine (List.mem_cons.mp h).resolve_left ?_
          rintro rfl
          exact absurd hb (by decide)
        simp only [List.cons_append, List.takeWhile_cons, hb, ih hmem]
      · simp only [List.cons_append, List.takeWhile_cons, hb, Bool.false_eq_true, if_false]
  rw [parseReadall, parseReadall, hbefore]

/-! ## Reporting the bank -/

/-- The answer to `relay readall`: the echo of the command, the bank in eight digits, the
prompt. -/
def report (bank : ℕ) : Bytes := readAllText ++ CRLF ++ hexText 8 bank ++ CRLF ++ PROMPT

theorem hexText_eq_append (width n : ℕ) :
    hexText width n = List.replicate (width - (Nat.digits 16 n).length) 48
      ++ ((Nat.digits 16 n).map hexDigit).reverse := by
  simp [hexText, List.leftpad]

private theorem isHexDigit_hexDigit {d : ℕ} (h : d < 16) : isHexDigit (hexDigit d) = true := by
  have hall : ∀ d : Fin 16, isHexDigit (hexDigit d) = true := by decide
  exact hall ⟨d, h⟩

private theorem hexValue_hexDigit {d : ℕ} (h : d < 16) : hexValue (hexDigit d) = d := by
  have hall : ∀ d : Fin 16, hexValue (hexDigit d) = d := by decide
  exact hall ⟨d, h⟩

theorem isHexDigit_of_mem_hexText {width n : ℕ} {b : UInt8} (h : b ∈ hexText width n) :
    isHexDigit b = true := by
  rw [hexText_eq_append, List.mem_append, List.mem_reverse, List.mem_map] at h
  rcases h with h | ⟨d, hd, rfl⟩
  · rw [List.eq_of_mem_replicate h]
    decide
  · exact isHexDigit_hexDigit (Nat.digits_lt_base (by norm_num) hd)

private theorem hexNumber_reverse_map_hexDigit {l : List ℕ} (h : ∀ d ∈ l, d < 16) :
    hexNumber (l.map hexDigit).reverse = Nat.ofDigits 16 l := by
  rw [hexNumber, List.foldl_reverse]
  induction l with
  | nil => rfl
  | cons d l ih =>
    have hd : hexValue (hexDigit d) = d := hexValue_hexDigit (h d List.mem_cons_self)
    have hl := ih fun d' hd' ↦ h d' (List.mem_cons_of_mem d hd')
    rw [List.map_cons, List.foldr_cons, hl, hd, Nat.ofDigits_cons, add_comm]

/-- Hexadecimal text is read back as the number it was made from. -/
theorem hexNumber_hexText (width n : ℕ) : hexNumber (hexText width n) = n := by
  have hdigits : ∀ d ∈ Nat.digits 16 n, d < 16 := fun d hd ↦
    Nat.digits_lt_base (by norm_num) hd
  have hzero := hexNumber_replicate_zero (width - (Nat.digits 16 n).length)
  rw [hexText_eq_append, hexNumber, List.foldl_append]
  rw [hexNumber] at hzero
  rw [hzero, ← hexNumber, hexNumber_reverse_map_hexDigit hdigits, Nat.ofDigits_digits]

theorem length_hexText {width n : ℕ} (h : n < 16 ^ width) : (hexText width n).length = width := by
  have hle : (Nat.digits 16 n).length ≤ width := (Nat.digits_length_le_iff (by norm_num) n).mpr h
  rw [hexText_eq_append, List.length_append, List.length_replicate, List.length_reverse,
    List.length_map]
  omega


theorem length_report {bank : ℕ} (h : bank < 2 ^ 32) : (hexText 8 bank).length = 8 :=
  length_hexText (by norm_num at h ⊢; exact h)

/-- Hexadecimal digits are neither prompts nor Telnet control bytes. -/
theorem isHexDigit_ne {b : UInt8} (h : isHexDigit b = true) : b ≠ 62 ∧ b ≠ 38 ∧ b ≠ 255 := by
  refine ⟨?_, ?_, ?_⟩ <;> rintro rfl <;> exact absurd h (by decide)

private theorem isHexDigit_not_isSpace {b : UInt8} (h : isHexDigit b = true) :
    ¬isSpace b = true := by
  intro hspace
  have hmem : b ∈ [9, 10, 11, 12, 13, 32] := of_decide_eq_true hspace
  have hspaces : ([9, 10, 11, 12, 13, 32] : Bytes).all (fun c ↦ !isHexDigit c) = true := by decide
  have hnot := List.all_eq_true.mp hspaces b hmem
  rw [h] at hnot
  exact absurd hnot nofun

/-- A report is plain text on a Telnet connection. -/
theorem not_mem_report (bank : ℕ) : 255 ∉ report bank := by
  intro hb
  simp only [report, List.mem_append, or_assoc] at hb
  rcases hb with hb | hb | hb | hb | hb
  · exact absurd hb (by decide)
  · exact absurd hb (by decide)
  · exact (isHexDigit_ne (isHexDigit_of_mem_hexText hb)).2.2 rfl
  · exact absurd hb (by decide)
  · exact absurd hb (by decide)

/-- An answer to `relay readall`: the echo of the command with its line end, digits, white space,
the prompt and what follows it. -/
def readAllAnswer (lineEnd digits gap rest : Bytes) : Bytes :=
  readAllText ++ lineEnd ++ digits ++ gap ++ PROMPT ++ rest

theorem isSpace_of_mem_CRLF : ∀ b ∈ CRLF, isSpace b = true :=
  List.forall_mem_cons.mpr ⟨by decide, List.forall_mem_singleton.mpr (by decide)⟩

private theorem isSpace_ne {b : UInt8} (h : isSpace b = true) :
    b ≠ 62 ∧ b ≠ 38 ∧ isHexDigit b = false := by
  have hmem : b ∈ [9, 10, 11, 12, 13, 32] := of_decide_eq_true h
  have hspaces : ([9, 10, 11, 12, 13, 32] : Bytes).all
      (fun c ↦ c != 62 && c != 38 && !isHexDigit c) = true := by decide
  have hnot := List.all_eq_true.mp hspaces b hmem
  simpa [and_assoc] using hnot

section Answer

variable {lineEnd digits gap : Bytes}

theorem beforePrompt_readAllAnswer (hlineEnd : ∀ b ∈ lineEnd, isSpace b = true)
    (hdigits : ∀ b ∈ digits, isHexDigit b = true) (hgap : ∀ b ∈ gap, isSpace b = true)
    (rest : Bytes) : beforePrompt (readAllAnswer lineEnd digits gap rest) =
      readAllText ++ lineEnd ++ digits ++ gap := by
  have hkeep : ∀ b ∈ readAllText ++ lineEnd ++ digits ++ gap, (b != 62 && b != 38) = true := by
    have hecho : ∀ b ∈ readAllText, (b != 62 && b != 38) = true :=
      List.all_eq_true.mp (by decide)
    intro b hb
    simp only [List.mem_append, or_assoc] at hb
    rcases hb with hb | hb | hb | hb
    · exact hecho b hb
    · have := isSpace_ne (hlineEnd b hb)
      simp [this.1, this.2.1]
    · have := isHexDigit_ne (hdigits b hb)
      simp [this.1, this.2.1]
    · have := isSpace_ne (hgap b hb)
      simp [this.1, this.2.1]
  rw [beforePrompt, readAllAnswer, List.append_assoc, List.takeWhile_append_of_pos hkeep, PROMPT,
    List.singleton_append, List.takeWhile_cons_of_neg (by decide), List.append_nil]

/-- **What the driver reads of an answer**: its last eight digits. -/
theorem parseReadall_readAllAnswer (hne : lineEnd ≠ [])
    (hlineEnd : ∀ b ∈ lineEnd, isSpace b = true) (hdigits : ∀ b ∈ digits, isHexDigit b = true)
    (hlength : 2 ≤ digits.length) (hgap : ∀ b ∈ gap, isSpace b = true) (rest : Bytes) :
    parseReadall (readAllAnswer lineEnd digits gap rest) = some (hexNumber (digits.rtake 8)) := by
  have hnonempty : digits ≠ [] := List.ne_nil_of_length_pos (by omega)
  have hstrip : strip (readAllText ++ lineEnd ++ digits ++ gap) =
      readAllText ++ lineEnd ++ digits := by
    have hstart : (readAllText ++ lineEnd ++ digits ++ gap).dropWhile isSpace =
        readAllText ++ lineEnd ++ digits ++ gap := rfl
    have hspaces : (readAllText ++ lineEnd ++ digits ++ gap).rdropWhile isSpace =
        (readAllText ++ lineEnd ++ digits).rdropWhile isSpace := by
      have hrev : ∀ b ∈ gap.reverse, isSpace b = true := fun b hb ↦
        hgap b (List.mem_reverse.mp hb)
      rw [List.rdropWhile, List.rdropWhile, List.reverse_append,
        List.dropWhile_append_of_pos hrev]
    have hend : (readAllText ++ lineEnd ++ digits).rdropWhile isSpace =
        readAllText ++ lineEnd ++ digits := by
      rw [List.rdropWhile_eq_self_iff]
      intro _
      rw [List.getLast_append_of_ne_nil _ hnonempty]
      exact isHexDigit_not_isSpace (hdigits _ (List.getLast_mem hnonempty))
    rw [strip, hstart, hspaces, hend]
  have hrun : (readAllText ++ lineEnd ++ digits).rtakeWhile isHexDigit = digits := by
    have hrev : ∀ b ∈ digits.reverse, isHexDigit b = true := fun b hb ↦
      hdigits b (List.mem_reverse.mp hb)
    have hstop : (readAllText ++ lineEnd).reverse.takeWhile isHexDigit = [] := by
      obtain ⟨front, b, rfl⟩ := (List.eq_nil_or_concat lineEnd).resolve_left hne
      have hb := (isSpace_ne (hlineEnd b (by simp))).2.2
      rw [List.concat_eq_append, ← List.append_assoc, List.reverse_append, List.reverse_singleton,
        List.singleton_append, List.takeWhile_cons_of_neg (by rw [hb]; decide)]
    rw [List.rtakeWhile, List.reverse_append, List.takeWhile_append_of_pos hrev, hstop,
      List.append_nil, List.reverse_reverse]
  rw [parseReadall, beforePrompt_readAllAnswer hlineEnd hdigits hgap, hstrip, hrun, if_pos hlength]

end Answer

/-- **What the module reports is what the driver reads.** -/
theorem parseReadall_report {bank : ℕ} (h : bank < 2 ^ 32) :
    parseReadall (report bank) = some bank := by
  have hlen := length_report h
  have htake : (hexText 8 bank).rtake 8 = hexText 8 bank := by
    rw [List.rtake, hlen, Nat.sub_self, List.drop_zero]
  have hreport : report bank = readAllAnswer CRLF (hexText 8 bank) CRLF [] :=
    (List.append_nil _).symm
  rw [hreport, parseReadall_readAllAnswer (by decide) isSpace_of_mem_CRLF
    (fun b hb ↦ isHexDigit_of_mem_hexText hb) (by omega) isSpace_of_mem_CRLF, htake,
    hexNumber_hexText]

end Nipxi
