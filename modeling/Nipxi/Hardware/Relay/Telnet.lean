import Mathlib.Data.List.Infix
import Nipxi.Hardware.Relay.Wire

/-!
# Telnet items

What `_handle_iac` makes of a chunk, said in terms of Telnet items rather than of its loop. A chunk
that consists of whole items is read item by item, and so is whatever comes after it
(`iacLoop_items`). Two results follow.

* A stream may be cut between items, and nowhere else (`cutsHarmless_iff`): the filter keeps
  nothing between two chunks, so a cut inside an item shows the rest of it as text.
* An RFC 854 stream that arrives in one piece is decoded right as long as no subnegotiation goes
  on after a byte 255 followed by a byte 240 (`handleIac_wire_iff`): the search for `IAC SE` does
  not see that the 255 of the payload is one of a doubled pair.
-/

namespace Nipxi

/-! ## Items as the filter sees them -/

/-- The verbs of option negotiation. -/
inductive OptionVerb where
  | WILL
  | WONT
  | DO
  | DONT
  deriving DecidableEq

namespace OptionVerb

/-- The command byte. -/
def byte : OptionVerb → UInt8
  | WILL => 251
  | WONT => 252
  | DO => 253
  | DONT => 254

/-- What declines the offer: `DONT` a `WILL`, `WONT` a `DO`. -/
def decline (opt : UInt8) : OptionVerb → Bytes
  | WILL => [255, 254, opt]
  | DO => [255, 252, opt]
  | WONT | DONT => []

end OptionVerb

/-- `IAC SE`. -/
def closing : Bytes := [255, 240]

/-- A whole item: a byte of text, a doubled 255, an option, a two-byte command, or a
subnegotiation up to the first `IAC SE` after its opening. -/
inductive IacItem where
  | text (b : UInt8) (plain : b ≠ 255)
  | escaped
  | option (verb : OptionVerb) (opt : UInt8)
  | command (cmd : UInt8) (short : cmd < 250)
  | subnegotiation (body : Bytes) (first : ¬closing <:+: body ++ [255])

namespace IacItem

/-- The bytes of an item. -/
def bytes : IacItem → Bytes
  | text b _ => [b]
  | escaped => [255, 255]
  | option verb opt => [255, verb.byte, opt]
  | command cmd _ => [255, cmd]
  | subnegotiation body _ => 255 :: 250 :: (body ++ closing)

/-- What an item shows. -/
def shown : IacItem → Bytes
  | text b _ => [b]
  | escaped => [255]
  | option _ _ | command _ _ | subnegotiation _ _ => []

/-- What answers an item. -/
def answer : IacItem → Bytes
  | option verb opt => verb.decline opt
  | text _ _ | escaped | command _ _ | subnegotiation _ _ => []

end IacItem

/-- The chunk consists of whole items. -/
def Complete (chunk : Bytes) : Prop := ∃ items : List IacItem, chunk = items.flatMap IacItem.bytes

/-- The beginning of an item that goes on: a lone `IAC`, an option without its byte, or a
subnegotiation that is still open. -/
inductive Fragment : Bytes → Prop
  | iac : Fragment [255]
  | option (verb : OptionVerb) : Fragment [255, verb.byte]
  | subnegotiation {body : Bytes} (still : ¬closing <:+: body) : Fragment (255 :: 250 :: body)

/-! ## The steps of the loop -/

attribute [local simp] iacLoop

theorem command_cases (cmd : UInt8) :
    cmd < 250 ∨ cmd = 250 ∨ (∃ verb : OptionVerb, cmd = verb.byte) ∨ cmd = 255 := by
  have hlt := cmd.toNat_lt
  by_cases h : cmd < 250
  · exact .inl h
  have hcmd : cmd = 250 ∨ cmd = 251 ∨ cmd = 252 ∨ cmd = 253 ∨ cmd = 254 ∨ cmd = 255 := by
    simp only [UInt8.lt_iff_toNat_lt, ← UInt8.toNat_inj, UInt8.reduceToNat] at h ⊢
    omega
  rcases hcmd with h | h | h | h | h | h
  · exact .inr (.inl h)
  · exact .inr (.inr (.inl ⟨.WILL, h⟩))
  · exact .inr (.inr (.inl ⟨.WONT, h⟩))
  · exact .inr (.inr (.inl ⟨.DO, h⟩))
  · exact .inr (.inr (.inl ⟨.DONT, h⟩))
  · exact .inr (.inr (.inr h))

theorem iacLoop_text {b : UInt8} (hb : b ≠ 255) (rest : Bytes) :
    iacLoop .text (b :: rest) = (b :: (iacLoop .text rest).1, (iacLoop .text rest).2) := by
  rcases rest with _ | ⟨cmd, _ | ⟨opt, rest⟩⟩
  · simp [iacLoop, hb]
  · simp [iacLoop, hb]
  · rw [iacLoop, if_pos hb]

theorem iacLoop_escaped (rest : Bytes) :
    iacLoop .text (255 :: 255 :: rest) =
      (255 :: (iacLoop .text rest).1, (iacLoop .text rest).2) := by
  cases rest with
  | nil => rfl
  | cons opt rest => simp [iacLoop]

theorem iacLoop_option (verb : OptionVerb) (opt : UInt8) (rest : Bytes) :
    iacLoop .text (255 :: verb.byte :: opt :: rest)
      = ((iacLoop .text rest).1, verb.decline opt ++ (iacLoop .text rest).2) := by
  cases verb <;> simp [iacLoop, OptionVerb.byte, OptionVerb.decline]

theorem iacLoop_command {cmd : UInt8} (hcmd : cmd < 250) (rest : Bytes) :
    iacLoop .text (255 :: cmd :: rest) = iacLoop .text rest := by
  have hne : ∀ high : UInt8, 250 ≤ high → cmd ≠ high := by
    rintro _ hle rfl
    exact absurd hcmd (UInt8.not_lt.mpr hle)
  have h250 := hne 250 (by decide)
  have h251 := hne 251 (by decide)
  have h252 := hne 252 (by decide)
  have h253 := hne 253 (by decide)
  have h254 := hne 254 (by decide)
  have h255 := hne 255 (by decide)
  cases rest with
  | nil => simp [iacLoop, *]
  | cons opt rest => simp [iacLoop, *]

theorem iacLoop_opening (rest : Bytes) :
    iacLoop .text (255 :: 250 :: rest) = iacLoop .subnegotiation rest := by
  cases rest with
  | nil => rfl
  | cons opt rest => simp [iacLoop]

/-- Inside a subnegotiation a byte is skipped unless `IAC SE` begins with it. -/
theorem iacLoop_skip {b : UInt8} {rest : Bytes} (h : ¬closing <+: b :: rest) :
    iacLoop .subnegotiation (b :: rest) = iacLoop .subnegotiation rest := by
  cases rest with
  | nil => rfl
  | cons cmd rest =>
    have hno : ¬(b = 255 ∧ cmd = 240) := by
      rintro ⟨rfl, rfl⟩
      exact h ⟨rest, rfl⟩
    rw [iacLoop, if_neg hno]

theorem iacLoop_closing (rest : Bytes) :
    iacLoop .subnegotiation (closing ++ rest) = iacLoop .text rest := by
  simp [closing, iacLoop]

theorem iacLoop_unclosed {body : Bytes} (h : ¬closing <:+: body) :
    iacLoop .subnegotiation body = ([], []) := by
  induction body with
  | nil => rfl
  | cons b body ih =>
    rw [List.infix_cons_iff, not_or] at h
    rw [iacLoop_skip h.1, ih h.2]

theorem iacLoop_body {body : Bytes} (h : ¬closing <:+: body ++ [255]) (rest : Bytes) :
    iacLoop .subnegotiation (body ++ (closing ++ rest)) = iacLoop .text rest := by
  induction body with
  | nil => exact iacLoop_closing rest
  | cons b body ih =>
    rw [List.cons_append, List.infix_cons_iff, not_or] at h
    -- the two bytes at the front are the same with `[255]` behind `body` as with `closing`
    have hfront : ¬closing <+: b :: (body ++ (closing ++ rest)) := by
      intro hclosing
      refine h.1 ?_
      cases body with
      | nil => simp [closing] at hclosing
      | cons c body => simpa [closing] using hclosing
    rw [List.cons_append, iacLoop_skip hfront, ih h.2]

/-! ## Reading item by item -/

theorem iacLoop_item (item : IacItem) (rest : Bytes) :
    iacLoop .text (item.bytes ++ rest)
      = (item.shown ++ (iacLoop .text rest).1, item.answer ++ (iacLoop .text rest).2) := by
  cases item with
  | text b plain => exact iacLoop_text plain rest
  | escaped => exact iacLoop_escaped rest
  | option verb opt => exact iacLoop_option verb opt rest
  | command cmd short => exact iacLoop_command short rest
  | subnegotiation body first =>
    have happend : (IacItem.subnegotiation body first).bytes ++ rest
        = 255 :: 250 :: (body ++ (closing ++ rest)) := by simp [IacItem.bytes]
    rw [happend, iacLoop_opening, iacLoop_body first]
    rfl

/-- **Whole items are read one by one**, whatever follows them. -/
theorem iacLoop_items (items : List IacItem) (rest : Bytes) :
    iacLoop .text (items.flatMap IacItem.bytes ++ rest)
      = (items.flatMap IacItem.shown ++ (iacLoop .text rest).1,
        items.flatMap IacItem.answer ++ (iacLoop .text rest).2) := by
  induction items with
  | nil => rfl
  | cons item items ih =>
    rw [List.flatMap_cons, List.append_assoc, iacLoop_item, ih]
    simp

/-- The way past the loop for a chunk without `IAC` gives what the loop gives. -/
theorem handleIac_eq_iacLoop (chunk : Bytes) : handleIac chunk = iacLoop .text chunk := by
  rw [handleIac]
  split
  · rfl
  · rename_i hiac
    induction chunk with
    | nil => rfl
    | cons b chunk ih =>
      rw [List.mem_cons, not_or] at hiac
      rw [iacLoop_text (Ne.symm hiac.1), ← ih hiac.2]

theorem handleIac_items (items : List IacItem) (rest : Bytes) :
    handleIac (items.flatMap IacItem.bytes ++ rest)
      = (items.flatMap IacItem.shown ++ (handleIac rest).1,
        items.flatMap IacItem.answer ++ (handleIac rest).2) := by
  simp only [handleIac_eq_iacLoop, iacLoop_items]

/-! ## Every chunk is whole items and a fragment -/

theorem exists_first_closing {l : Bytes} (h : closing <:+: l) :
    ∃ body rest, l = body ++ (closing ++ rest) ∧ ¬closing <:+: body ++ [255] := by
  induction l with
  | nil => exact absurd (List.infix_nil.mp h) (by decide)
  | cons b l ih =>
    by_cases hfront : closing <+: b :: l
    · obtain ⟨rest, hrest⟩ := hfront
      exact ⟨[], rest, hrest.symm, by decide⟩
    · obtain ⟨body, rest, rfl, hfirst⟩ := ih ((List.infix_cons_iff.mp h).resolve_left hfront)
      refine ⟨b :: body, rest, rfl, ?_⟩
      rw [List.cons_append, List.infix_cons_iff, not_or]
      refine ⟨fun hclosing ↦ hfront ?_, hfirst⟩
      cases body with
      | nil => simp [closing] at hclosing
      | cons c body => simpa [closing] using hclosing

theorem Complete.cons (item : IacItem) {chunk : Bytes} (h : Complete chunk) :
    Complete (item.bytes ++ chunk) := by
  obtain ⟨items, rfl⟩ := h
  exact ⟨item :: items, rfl⟩

/-- The chunk ends inside an item. -/
def EndsInside (chunk : Bytes) : Prop :=
  ∃ (items : List IacItem) (tail : Bytes), Fragment tail ∧
    chunk = items.flatMap IacItem.bytes ++ tail

theorem EndsInside.cons (item : IacItem) {chunk : Bytes} (h : EndsInside chunk) :
    EndsInside (item.bytes ++ chunk) := by
  obtain ⟨items, tail, htail, rfl⟩ := h
  exact ⟨item :: items, tail, htail, by simp⟩

theorem Fragment.endsInside {tail : Bytes} (h : Fragment tail) : EndsInside tail :=
  ⟨[], tail, h, rfl⟩

theorem complete_or_endsInside_cons (item : IacItem) {chunk : Bytes}
    (h : Complete chunk ∨ EndsInside chunk) :
    Complete (item.bytes ++ chunk) ∨ EndsInside (item.bytes ++ chunk) :=
  h.imp (.cons item) (.cons item)

/-- By induction on the length: the first item is taken off, if it is whole. -/
theorem complete_or_endsInside (chunk : Bytes) : Complete chunk ∨ EndsInside chunk := by
  induction hn : chunk.length using Nat.strong_induction_on generalizing chunk with
  | _ n ih =>
    subst hn
    have take : ∀ (item : IacItem) (rest : Bytes), chunk = item.bytes ++ rest →
        rest.length < chunk.length → Complete chunk ∨ EndsInside chunk := by
      rintro item rest rfl hlt
      exact complete_or_endsInside_cons item (ih _ hlt rest rfl)
    cases chunk with
    | nil => exact .inl ⟨[], rfl⟩
    | cons b rest =>
      by_cases hb : b = 255
      swap
      · exact take (.text b hb) rest rfl (by simp)
      subst hb
      cases rest with
      | nil => exact .inr Fragment.iac.endsInside
      | cons cmd rest =>
        obtain hcmd | rfl | ⟨verb, rfl⟩ | rfl := command_cases cmd
        · exact take (.command cmd hcmd) rest rfl (by simp only [List.length_cons]; omega)
        · by_cases hclosing : closing <:+: rest
          · obtain ⟨body, rest, rfl, hfirst⟩ := exists_first_closing hclosing
            exact take (.subnegotiation body hfirst) rest (by simp [IacItem.bytes])
              (by simp only [List.length_cons, List.length_append]; omega)
          · exact .inr (Fragment.subnegotiation hclosing).endsInside
        · cases rest with
          | nil => exact .inr (Fragment.option verb).endsInside
          | cons opt rest =>
            exact take (.option verb opt) rest rfl (by simp only [List.length_cons]; omega)
        · exact take .escaped rest rfl (by simp only [List.length_cons]; omega)

/-! ## Cutting a stream -/

/-- `_handle_iac` on chunk after chunk: all that is shown, and all that is replied. -/
def handleChunks (chunks : List Bytes) : Bytes × Bytes :=
  (chunks.flatMap fun chunk ↦ (handleIac chunk).1, chunks.flatMap fun chunk ↦ (handleIac chunk).2)

theorem handleChunks_cons (chunk : Bytes) (chunks : List Bytes) :
    handleChunks (chunk :: chunks) = ((handleIac chunk).1 ++ (handleChunks chunks).1,
      (handleIac chunk).2 ++ (handleChunks chunks).2) :=
  rfl

theorem handleChunks_singleton (chunk : Bytes) : handleChunks [chunk] = handleIac chunk := by
  simp [handleChunks]

/-- The chunks decode as the stream in one piece. -/
def DecodeAsOne (chunks : List Bytes) : Prop := handleChunks chunks = handleIac chunks.flatten

instance (chunks : List Bytes) : Decidable (DecodeAsOne chunks) :=
  inferInstanceAs (Decidable (_ = _))

/-- The cuts after the chunks change nothing, whatever comes next: at each moment of the session,
what has arrived and the next chunk decode as in one piece. -/
def CutsHarmless (chunks : List Bytes) : Prop :=
  ∀ seen, seen <+: chunks → ∀ next, DecodeAsOne (seen ++ [next])

/-- A whole chunk may be cut off. -/
theorem handleIac_append {chunk : Bytes} (h : Complete chunk) (rest : Bytes) :
    handleIac (chunk ++ rest)
      = ((handleIac chunk).1 ++ (handleIac rest).1, (handleIac chunk).2 ++ (handleIac rest).2) := by
  obtain ⟨items, rfl⟩ := h
  have halone := handleIac_items items []
  rw [List.append_nil] at halone
  rw [handleIac_items, halone]
  simp [handleIac]

theorem decodeAsOne_cons_iff {chunk : Bytes} (h : Complete chunk) (chunks : List Bytes) :
    DecodeAsOne (chunk :: chunks) ↔ DecodeAsOne chunks := by
  rw [DecodeAsOne, DecodeAsOne, handleChunks_cons, List.flatten_cons, handleIac_append h,
    Prod.ext_iff, Prod.ext_iff]
  simp

theorem decodeAsOne_append_iff {seen : List Bytes} (h : ∀ chunk ∈ seen, Complete chunk)
    (chunks : List Bytes) : DecodeAsOne (seen ++ chunks) ↔ DecodeAsOne chunks := by
  induction seen with
  | nil => rfl
  | cons chunk seen ih =>
    rw [List.forall_mem_cons] at h
    rw [List.cons_append, decodeAsOne_cons_iff h.1, ih h.2]

/-- A null byte after a fragment is part of the item, so that it is not shown. -/
theorem handleIac_fragment_zero {tail : Bytes} (h : Fragment tail) :
    (handleIac (tail ++ [0])).1 = [] := by
  rw [handleIac_eq_iacLoop]
  cases h with
  | iac => rfl
  | option verb => cases verb <;> rfl
  | @subnegotiation body still =>
    rw [List.cons_append, List.cons_append, iacLoop_opening, iacLoop_unclosed]
    rintro ⟨before, after, hclosing⟩
    -- `IAC SE` does not end with a null byte
    rcases List.eq_nil_or_concat after with rfl | ⟨after, b, rfl⟩
    · have hlast := congrArg List.getLast? hclosing
      simp [closing] at hlast
    · rw [List.concat_eq_append, ← List.append_assoc] at hclosing
      exact still ⟨before, after, (List.append_inj' hclosing rfl).1⟩

/-- After a chunk that ends inside an item, a null byte is shown that in one piece is not. -/
theorem not_decodeAsOne_of_endsInside {chunk : Bytes} (h : EndsInside chunk) :
    ¬DecodeAsOne [chunk, [0]] := by
  obtain ⟨items, tail, htail, rfl⟩ := h
  intro hone
  have hshown : (handleChunks [items.flatMap IacItem.bytes ++ tail, [0]]).1
      = items.flatMap IacItem.shown ++ ((handleIac tail).1 ++ [0]) := by
    rw [handleChunks_cons, handleIac_items, handleChunks_singleton, List.append_assoc]
    rfl
  have hpiece : (handleIac [items.flatMap IacItem.bytes ++ tail, [0]].flatten).1
      = items.flatMap IacItem.shown := by
    rw [List.flatten_cons, List.flatten_singleton, List.append_assoc, handleIac_items,
      handleIac_fragment_zero htail, List.append_nil]
  rw [DecodeAsOne] at hone
  rw [← hone, hshown] at hpiece
  simp at hpiece

/-- Whole chunks at the beginning of a session do not matter for its cuts. -/
theorem CutsHarmless.tail {chunk : Bytes} {chunks : List Bytes} (hchunk : Complete chunk)
    (h : CutsHarmless (chunk :: chunks)) : CutsHarmless chunks := by
  intro seen hseen next
  have hcons := h (chunk :: seen) (List.cons_prefix_cons.mpr ⟨rfl, hseen⟩) next
  rwa [List.cons_append, decodeAsOne_cons_iff hchunk] at hcons

/-- **Cutting a stream.** The cuts change nothing, whatever comes next, exactly if none of them is
inside an item: the first that is inside one may be followed by a null byte. -/
theorem cutsHarmless_iff (chunks : List Bytes) :
    CutsHarmless chunks ↔ ∀ chunk ∈ chunks, Complete chunk := by
  constructor
  · intro h
    induction chunks with
    | nil => exact List.forall_mem_nil _
    | cons chunk chunks ih =>
      have hchunk : Complete chunk := (complete_or_endsInside chunk).resolve_right fun hinside ↦
        not_decodeAsOne_of_endsInside hinside (h [chunk] ⟨chunks, rfl⟩ [0])
      exact List.forall_mem_cons.mpr ⟨hchunk, ih (h.tail hchunk)⟩
  · rintro h seen ⟨later, rfl⟩ next
    have hseen : ∀ chunk ∈ seen, Complete chunk := fun chunk hchunk ↦
      h chunk (List.mem_append_left later hchunk)
    rw [decodeAsOne_append_iff hseen, DecodeAsOne, handleChunks_singleton]
    simp

/-- `IAC WILL` and its option in two chunks: the two bytes after `IAC` are shown, and the offer is
not declined. -/
theorem not_decodeAsOne_option : ¬∀ chunks : List Bytes, DecodeAsOne chunks := by
  intro h
  exact absurd (h [[255, 251], [1]]) (by decide)

/-! ## Decoding RFC 854 -/

/-- An item of an RFC 854 stream, as its sender means it. -/
inductive TelnetItem where
  | data (b : UInt8)
  | option (verb : OptionVerb) (opt : UInt8)
  | command (cmd : UInt8) (short : cmd < 250)
  | subnegotiation (payload : Bytes)

/-- Bytes on the wire, each 255 doubled. -/
def doubled (payload : Bytes) : Bytes :=
  payload.flatMap fun b ↦ if b = 255 then [255, 255] else [b]

namespace TelnetItem

/-- The item on the wire. -/
def wire : TelnetItem → Bytes
  | data b => doubled [b]
  | option verb opt => [255, verb.byte, opt]
  | command cmd _ => [255, cmd]
  | subnegotiation payload => 255 :: 250 :: (doubled payload ++ closing)

/-- The data byte of the item. -/
def datum : TelnetItem → Bytes
  | data b => [b]
  | option _ _ | command _ _ | subnegotiation _ => []

/-- What declines the item. -/
def declined : TelnetItem → Bytes
  | option verb opt => verb.decline opt
  | data _ | command _ _ | subnegotiation _ => []

end TelnetItem

/-- What follows the first 255 that a 240 comes after. -/
def afterClosing : Bytes → Bytes
  | b :: cmd :: rest => if b = 255 ∧ cmd = 240 then rest else afterClosing (cmd :: rest)
  | [] | [_] => []

/-- Of a subnegotiation, the filter shows what follows the first 255 that a 240 comes after. -/
def TelnetItem.leaked : TelnetItem → Bytes
  | subnegotiation payload => afterClosing payload
  | data _ | option _ _ | command _ _ => []

theorem doubled_cons (b : UInt8) (payload : Bytes) :
    doubled (b :: payload) = (if b = 255 then [255, 255] else [b]) ++ doubled payload :=
  rfl

theorem afterClosing_cons {b : UInt8} {payload : Bytes} (h : ¬closing <+: b :: payload) :
    afterClosing (b :: payload) = afterClosing payload := by
  cases payload with
  | nil => rfl
  | cons cmd payload =>
    have hno : ¬(b = 255 ∧ cmd = 240) := by
      rintro ⟨rfl, rfl⟩
      exact h ⟨payload, rfl⟩
    rw [afterClosing, if_neg hno]

/-- What is left begins after a 255 and a 240, and every such pair has its rest in it. -/
theorem afterClosing_eq_nil_iff (payload : Bytes) :
    afterClosing payload = [] ↔
      ∀ before after, payload = before ++ (closing ++ after) → after = [] := by
  induction payload with
  | nil =>
    refine iff_of_true rfl fun before after h ↦ ?_
    simp [closing] at h
  | cons b payload ih =>
    by_cases hfront : closing <+: b :: payload
    · obtain ⟨after, hafter⟩ := hfront
      rw [← hafter]
      constructor
      · rintro hnil before after' h
        -- any other pair stands further right
        have hrest : after = [] := hnil
        subst hrest
        have hlength := congrArg List.length h
        simp only [closing, List.length_append, List.length_cons, List.length_nil] at hlength
        exact List.length_eq_zero_iff.mp (by omega)
      · exact fun h ↦ h [] after rfl
    · rw [afterClosing_cons hfront, ih]
      constructor
      · intro h before after hsplit
        cases before with
        | nil => exact absurd ⟨after, hsplit.symm⟩ hfront
        | cons c before => exact h before after (List.cons.inj hsplit).2
      · intro h before after hsplit
        exact h (b :: before) after (congrArg (b :: ·) hsplit)

theorem iacLoop_doubled (payload rest : Bytes) :
    iacLoop .text (doubled payload ++ rest)
      = (payload ++ (iacLoop .text rest).1, (iacLoop .text rest).2) := by
  induction payload with
  | nil => rfl
  | cons b payload ih =>
    rw [doubled_cons]
    by_cases hb : b = 255
    · subst hb
      rw [if_pos rfl]
      simp only [List.cons_append, List.nil_append, iacLoop_escaped, ih]
    · rw [if_neg hb]
      simp only [List.cons_append, List.nil_append, iacLoop_text hb, ih]

/-- **The search for `IAC SE`** finds the second byte of a doubled 255, if a 240 follows: what comes
then is read as text, and the true `IAC SE` as a command. -/
theorem iacLoop_payload (payload rest : Bytes) :
    iacLoop .subnegotiation (doubled payload ++ (closing ++ rest))
      = (afterClosing payload ++ (iacLoop .text rest).1, (iacLoop .text rest).2) := by
  induction payload with
  | nil => exact iacLoop_closing rest
  | cons b payload ih =>
    rw [doubled_cons]
    by_cases hb : b = 255
    swap
    · have hskip : ∀ tail, ¬closing <+: b :: tail := fun tail h ↦
        hb (List.cons_prefix_cons.mp h).1.symm
      rw [if_neg hb, afterClosing_cons (hskip _), ← ih]
      exact iacLoop_skip (hskip _)
    subst hb
    -- the first byte of the pair is skipped; the second one closes if a 240 follows
    have hpair : iacLoop .subnegotiation
          ([255, 255] ++ (doubled payload ++ (closing ++ rest)))
        = iacLoop .subnegotiation (255 :: (doubled payload ++ (closing ++ rest))) :=
      iacLoop_skip (by simp [closing])
    rw [if_pos rfl, List.append_assoc, hpair]
    cases payload with
    | nil => exact iacLoop_skip (by simp [closing, doubled])
    | cons c payload =>
      rw [doubled_cons] at ih ⊢
      by_cases hc : c = 240
      · subst hc
        have hclose : iacLoop .subnegotiation
              (255 :: ([240] ++ doubled payload ++ (closing ++ rest)))
            = iacLoop .text (doubled payload ++ (closing ++ rest)) :=
          iacLoop_closing (doubled payload ++ (closing ++ rest))
        have hend : iacLoop .text (closing ++ rest) = iacLoop .text rest :=
          iacLoop_command (by decide) rest
        rw [if_neg (by decide), hclose, iacLoop_doubled, hend]
        rfl
      · have hskip : ∀ tail,
            ¬closing <+: 255 :: ((if c = 255 then [255, 255] else [c]) ++ tail) := by
          intro tail h
          split at h <;> simp [closing, Ne.symm hc] at h
        have hpayload : ¬closing <+: 255 :: c :: payload := fun h ↦
          hc (List.cons_prefix_cons.mp (List.cons_prefix_cons.mp h).2).1.symm
        rw [afterClosing_cons hpayload, ← ih, List.append_assoc]
        exact iacLoop_skip (hskip _)

theorem iacLoop_wire (item : TelnetItem) (rest : Bytes) :
    iacLoop .text (item.wire ++ rest)
      = (item.datum ++ item.leaked ++ (iacLoop .text rest).1,
        item.declined ++ (iacLoop .text rest).2) := by
  cases item with
  | data b => exact iacLoop_doubled [b] rest
  | option verb opt => exact iacLoop_option verb opt rest
  | command cmd short => exact iacLoop_command short rest
  | subnegotiation payload =>
    have happend : (TelnetItem.subnegotiation payload).wire ++ rest
        = 255 :: 250 :: (doubled payload ++ (closing ++ rest)) := by simp [TelnetItem.wire]
    rw [happend, iacLoop_opening, iacLoop_payload]
    rfl

/-- What the filter makes of a stream in one piece: between the data stands what it leaks of the
subnegotiations. -/
theorem handleIac_wire (items : List TelnetItem) :
    handleIac (items.flatMap TelnetItem.wire)
      = (items.flatMap fun item ↦ item.datum ++ item.leaked,
        items.flatMap TelnetItem.declined) := by
  rw [handleIac_eq_iacLoop]
  induction items with
  | nil => rfl
  | cons item items ih =>
    rw [List.flatMap_cons, iacLoop_wire, ih]
    rfl

/-- Nothing may be added to the items of a list without being seen. -/
theorem flatMap_append_eq_iff {α β : Type*} (f g : α → List β) (l : List α) :
    (l.flatMap fun a ↦ f a ++ g a) = l.flatMap f ↔ ∀ a ∈ l, g a = [] := by
  have hlength : (l.flatMap fun a ↦ f a ++ g a).length
      = (l.flatMap f).length + (l.flatMap g).length := by
    induction l with
    | nil => rfl
    | cons a l ih =>
      simp only [List.flatMap_cons, List.length_append, ih]
      omega
  constructor
  · intro h
    rw [h, left_eq_add, List.length_eq_zero_iff, List.flatMap_eq_nil_iff] at hlength
    exact hlength
  · intro h
    exact List.flatMap_congr fun a ha ↦ by rw [h a ha, List.append_nil]

/-- **Decoding RFC 854.** A stream in one piece is decoded right exactly if in none of its
subnegotiations anything follows a 255 that a 240 comes after. -/
theorem handleIac_wire_iff (items : List TelnetItem) :
    handleIac (items.flatMap TelnetItem.wire)
        = (items.flatMap TelnetItem.datum, items.flatMap TelnetItem.declined) ↔
      ∀ payload, .subnegotiation payload ∈ items →
        ∀ before after, payload = before ++ (closing ++ after) → after = [] := by
  rw [handleIac_wire, Prod.mk.injEq, flatMap_append_eq_iff, and_iff_left rfl]
  constructor
  · intro h payload hpayload
    exact (afterClosing_eq_nil_iff payload).mp (h _ hpayload)
  · intro h item hitem
    cases item with
    | data | option | command => rfl
    | subnegotiation payload => exact (afterClosing_eq_nil_iff payload).mpr (h payload hitem)

/-- The byte 65 of the payload 255, 240, 65 is shown. -/
theorem not_handleIac_wire : ¬∀ items : List TelnetItem, handleIac (items.flatMap TelnetItem.wire)
    = (items.flatMap TelnetItem.datum, items.flatMap TelnetItem.declined) := by
  intro h
  exact absurd (h [.subnegotiation [255, 240, 65]]) (by decide)

end Nipxi
