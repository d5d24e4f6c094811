import Nipxi.Hardware.Relay.Device

/-!
# The codec of the bank mask

`write_all` sends a mask in as many hexadecimal digits as the number of channels needs, at least
two. `_parse_readall_response` reads the last eight digits before the prompt, and
`_mask_to_channels` lists the channels of the bits that are set.

`roundTrips_iff`: a mask comes back if it fits into eight digits. The driver takes any number of
channels, and beyond thirty-two it sends more digits than it reads.
-/

namespace Nipxi

/-! ## Hexadecimal digits -/

theorem hexNumber_append (front back : Bytes) :
    hexNumber (front ++ back) = hexNumber front * 16 ^ back.length + hexNumber back := by
  induction back using List.reverseRecOn with
  | nil => simp [hexNumber]
  | append_singleton back b ih =>
    have hsnoc (l : Bytes) : hexNumber (l ++ [b]) = 16 * hexNumber l + hexValue b := by
      rw [hexNumber, List.foldl_append]
      rfl
    rw [← List.append_assoc, hsnoc, hsnoc, ih, List.length_append, List.length_singleton, pow_succ]
    ring

theorem hexValue_lt {b : UInt8} (h : isHexDigit b = true) : hexValue b < 16 := by
  unfold isHexDigit at h
  unfold hexValue
  simp only [Bool.or_eq_true, Bool.and_eq_true, decide_eq_true_eq, UInt8.le_iff_toNat_le] at h
  simp only [UInt8.le_iff_toNat_le]
  split
  · next hle => simp at h hle; omega
  · split
    · next hnot hle => simp at h hle; omega
    · next hnot hle => simp at h hle; omega

/-- So many digits are below that power of sixteen. -/
theorem hexNumber_lt {digits : Bytes} (h : ∀ b ∈ digits, isHexDigit b = true) :
    hexNumber digits < 16 ^ digits.length := by
  induction digits with
  | nil => decide
  | cons b digits ih =>
    obtain ⟨hb, hrest⟩ := List.forall_mem_cons.mp h
    have hsplit := hexNumber_append [b] digits
    have hvalue : hexNumber [b] = hexValue b := by simp [hexNumber]
    rw [List.singleton_append, hvalue] at hsplit
    have hlt := ih hrest
    have hdigit := hexValue_lt hb
    rw [hsplit, List.length_cons, pow_succ]
    have hle : (hexValue b + 1) * 16 ^ digits.length ≤ 16 * 16 ^ digits.length :=
      Nat.mul_le_mul_right _ hdigit
    rw [Nat.add_mul, Nat.one_mul] at hle
    omega

/-- **The last eight digits** of a number are its remainder. -/
theorem hexNumber_rtake {digits : Bytes} (h : ∀ b ∈ digits, isHexDigit b = true) :
    hexNumber (digits.rtake 8) = hexNumber digits % 2 ^ 32 := by
  have hlt : hexNumber (digits.rtake 8) < 16 ^ (digits.rtake 8).length :=
    hexNumber_lt fun b hb ↦ h b (List.mem_of_mem_drop hb)
  have hlength : (digits.rtake 8).length = min digits.length 8 := by
    rw [List.rtake, List.length_drop]
    omega
  have hsplit : hexNumber digits = hexNumber (digits.take (digits.length - 8)) *
      16 ^ (digits.rtake 8).length + hexNumber (digits.rtake 8) := by
    rw [← hexNumber_append, List.rtake, List.take_append_drop]
  rcases Nat.lt_or_ge digits.length 8 with hshort | hlong
  · have hall : digits.rtake 8 = digits := by
      rw [List.rtake, Nat.sub_eq_zero_of_le hshort.le, List.drop_zero]
    have hpow : 16 ^ digits.length ≤ 16 ^ 8 := Nat.pow_le_pow_right (by decide) hshort.le
    rw [hall] at hlt ⊢
    exact (Nat.mod_eq_of_lt (hlt.trans_le (hpow.trans_eq (by norm_num)))).symm
  · rw [hlength, Nat.min_eq_right hlong] at hsplit hlt
    rw [hsplit, show 16 ^ 8 = 2 ^ 32 by norm_num,
      Nat.mul_add_mod_of_lt (hlt.trans_eq (by norm_num))]

/-! ## The round trip -/

/-- A mask comes back: whatever answer to `relay readall` has the digits that `write_all` sends is
read as the mask, and the channels listed are those of its bits. -/
structure RoundTrips (numChannels mask : ℕ) : Prop where
  read : ∀ digits, writeAllText numChannels mask = encode "relay writeall " ++ digits →
    ∀ lineEnd gap rest, lineEnd ≠ [] → (∀ b ∈ lineEnd, isSpace b = true) →
      (∀ b ∈ gap, isSpace b = true) →
        parseReadall (readAllAnswer lineEnd digits gap rest) = some mask
  listed : ∀ channel, channel ∈ maskToChannels numChannels mask ↔
    ∃ bit, mask.testBit bit = true ∧ channel = bit + 1
  sorted : (maskToChannels numChannels mask).Pairwise (· < ·)

section

variable {numChannels mask : ℕ}

theorem lt_pow_hexDigits (h : mask < 2 ^ numChannels) : mask < 16 ^ hexDigits numChannels := by
  have hle : numChannels ≤ 4 * hexDigits numChannels := by
    unfold hexDigits
    omega
  calc mask < 2 ^ numChannels := h
    _ ≤ 2 ^ (4 * hexDigits numChannels) := Nat.pow_le_pow_right (by decide) hle
    _ = 16 ^ hexDigits numChannels := by rw [pow_mul, show 2 ^ 4 = 16 by norm_num]

theorem two_le_hexDigits (numChannels : ℕ) : 2 ≤ hexDigits numChannels := le_max_left _ _

theorem parseReadall_hexText (h : mask < 2 ^ numChannels) {lineEnd gap : Bytes} (hne : lineEnd ≠ [])
    (hlineEnd : ∀ b ∈ lineEnd, isSpace b = true) (hgap : ∀ b ∈ gap, isSpace b = true)
    (rest : Bytes) :
    parseReadall (readAllAnswer lineEnd (hexText (hexDigits numChannels) mask) gap rest) =
      some (mask % 2 ^ 32) := by
  have hdigits : ∀ b ∈ hexText (hexDigits numChannels) mask, isHexDigit b = true := fun b hb ↦
    isHexDigit_of_mem_hexText hb
  have hlength : 2 ≤ (hexText (hexDigits numChannels) mask).length := by
    rw [length_hexText (lt_pow_hexDigits h)]
    exact two_le_hexDigits numChannels
  rw [parseReadall_readAllAnswer hne hlineEnd hdigits hlength hgap, hexNumber_rtake hdigits,
    hexNumber_hexText]

theorem mem_maskToChannels (h : mask < 2 ^ numChannels) {channel : ℕ} :
    channel ∈ maskToChannels numChannels mask ↔
      ∃ bit, mask.testBit bit = true ∧ channel = bit + 1 := by
  rw [maskToChannels, List.mem_filter, List.mem_range'_1]
  constructor
  · rintro ⟨⟨hpos, -⟩, hbit⟩
    exact ⟨channel - 1, hbit, (Nat.sub_add_cancel hpos).symm⟩
  · rintro ⟨bit, hbit, rfl⟩
    have hlt : bit < numChannels := by
      by_contra hle
      have hsmall : mask < 2 ^ bit := h.trans_le (Nat.pow_le_pow_right (by decide) (not_lt.mp hle))
      rw [Nat.testBit_lt_two_pow hsmall] at hbit
      cases hbit
    exact ⟨⟨by omega, by omega⟩, hbit⟩

/-- **Which masks come back**: those of eight digits, whatever the number of channels. -/
theorem roundTrips_iff (h : mask < 2 ^ numChannels) :
    RoundTrips numChannels mask ↔ mask < 2 ^ 32 := by
  have hspace := isSpace_of_mem_CRLF
  constructor
  · intro htrip
    have hread := htrip.read _ rfl CRLF CRLF [] (by decide) hspace hspace
    rw [parseReadall_hexText h (by decide) hspace hspace] at hread
    rw [← Option.some.inj hread]
    exact Nat.mod_lt _ (by decide)
  · intro hmask
    refine ⟨fun digits hdigits lineEnd gap rest hne hlineEnd hgap ↦ ?_,
      fun _ ↦ mem_maskToChannels h, ?_⟩
    · obtain rfl := List.append_cancel_left hdigits
      rw [parseReadall_hexText h hne hlineEnd hgap, Nat.mod_eq_of_lt hmask]
    · exact (List.pairwise_lt_range' 1 Nat.one_pos).filter _

end

/-- The first and the last channel of the module with thirty-two. -/
theorem roundTrips_bank : RoundTrips 32 0x80000001 ↔ 0x80000001 < 2 ^ 32 :=
  roundTrips_iff (by decide)

/-- With thirty-three channels the last one is sent in a ninth digit, which is not read. -/
theorem not_roundTrips_wide :
    ¬∀ numChannels mask : ℕ, mask < 2 ^ numChannels → RoundTrips numChannels mask := by
  intro hall
  have hmask : 2 ^ 32 < 2 ^ 33 := by decide
  have hspace := isSpace_of_mem_CRLF
  have hread := (hall 33 (2 ^ 32) hmask).read _ rfl CRLF CRLF [] (by decide) hspace hspace
  rw [parseReadall_hexText hmask (by decide) hspace hspace] at hread
  revert hread
  decide

end Nipxi
