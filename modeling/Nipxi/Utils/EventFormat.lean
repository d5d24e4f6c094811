import Mathlib.Data.List.Nodup
import Mathlib.Data.List.TakeWhile
import Nipxi.Collections.Dict

/-!
# Structured event messages

Messages of the event log have the form `EVENT_TYPE=<type> KEY=<value> KEY=<value>`. `formatEvent`
writes them and `parseEventFields` reads them back. A value may contain spaces: it ends where
whitespace is followed by an upper-case key and an equals sign.

`parse_format` is the round trip: what was formatted is read back, with the whitespace around the
values stripped, as long as no value contains such a boundary itself. For lower-case keys and
trimmed values, nothing is lost (`items_parse_format`).
-/

namespace Nipxi

open Collections

/-- A field of an event: its key, and its text where the value is not `None`. -/
abbrev EventField := List Char × Option (List Char)

/-- The first key of every event. -/
def eventTypeKey : List Char := ['E', 'V', 'E', 'N', 'T', '_', 'T', 'Y', 'P', 'E']

/-- The same key as it is read back. -/
def eventTypeField : List Char := ['e', 'v', 'e', 'n', 't', '_', 't', 'y', 'p', 'e']

/-- `format_event`. -/
def formatEvent (eventType : List Char) (fields : List EventField) : List Char :=
  eventTypeKey ++ '=' :: eventType ++ fields.flatMap fun field ↦
    match field.2 with
    | some value => ' ' :: (field.1.map Char.toUpper ++ '=' :: value)
    | none => []

/-! ## Reading a message -/

/-- The characters that are whitespace to the language. -/
def isSpaceChar (c : Char) : Bool :=
  (9 ≤ c.toNat && c.toNat ≤ 13) || (28 ≤ c.toNat && c.toNat ≤ 32) || c.toNat == 0x85 ||
    c.toNat == 0xa0 || c.toNat == 0x1680 || (0x2000 ≤ c.toNat && c.toNat ≤ 0x200a) ||
    c.toNat == 0x2028 || c.toNat == 0x2029 || c.toNat == 0x202f || c.toNat == 0x205f ||
    c.toNat == 0x3000

/-- The characters of a key after its first. -/
def isKeyChar (c : Char) : Bool := c.isUpper || c.isDigit || c == '_'

/-- The text begins with an upper-case key and an equals sign. -/
def startsKey : List Char → Bool
  | [] => false
  | c :: rest => c.isUpper && (rest.dropWhile isKeyChar).head? == some '='

/-- The text begins with a boundary of `_FIELD_BOUNDARY`. -/
def isBoundary : List Char → Bool
  | [] => false
  | c :: rest => isSpaceChar c && startsKey rest

/-- `_FIELD_BOUNDARY.split`: the pattern matches the empty text before a boundary, so that every
part but the first begins with one. -/
def splitBoundaries : List Char → List (List Char)
  | [] => [[]]
  | c :: rest =>
    match splitBoundaries rest with
    | [] => [[c]]
    | part :: parts =>
      if isBoundary (c :: rest) then [] :: (c :: part) :: parts else (c :: part) :: parts

/-- `strip`. -/
def stripText (text : List Char) : List Char :=
  ((text.dropWhile isSpaceChar).reverse.dropWhile isSpaceChar).reverse

/-- One part of a message: the key before its first equals sign, in lower case, and what follows. -/
def readPart (part : List Char) : Option (List Char × List Char) :=
  let stripped := stripText part
  if '=' ∈ stripped then
    some ((stripped.takeWhile (· != '=')).map Char.toLower,
      (stripped.dropWhile (· != '=')).drop 1)
  else none

/-- `parse_event_fields`. A key that occurs twice has its last value. -/
def parseEventFields (message : List Char) : Dict (List Char) (List Char) :=
  if eventTypeKey ++ ['='] <+: message then
    Dict.assign ((splitBoundaries message).filterMap readPart) Dict.empty
  else Dict.empty

/-! ## Boundaries of a text -/

/-- No boundary lies inside the text. -/
def BoundaryFree (text : List Char) : Prop := ∀ suffix, suffix <:+ text → isBoundary suffix = false

theorem BoundaryFree.of_cons {c : Char} {text : List Char} (h : BoundaryFree (c :: text)) :
    BoundaryFree text := fun suffix hs ↦ h suffix (hs.trans (List.suffix_cons c text))

theorem startsKey_append_space (text rest : List Char) :
    startsKey (text ++ ' ' :: rest) = startsKey text := by
  cases text with
  | nil => rfl
  | cons c text =>
    have hhead : (((text ++ ' ' :: rest).dropWhile isKeyChar).head? == some '=') =
        ((text.dropWhile isKeyChar).head? == some '=') := by
      induction text with
      | nil => rfl
      | cons d text ih =>
        rw [List.cons_append, List.dropWhile_cons, List.dropWhile_cons]
        split
        · exact ih
        · rfl
    rw [List.cons_append, startsKey, startsKey, hhead]

theorem splitBoundaries_of_free {text : List Char} (h : BoundaryFree text) :
    splitBoundaries text = [text] := by
  induction text with
  | nil => rfl
  | cons c rest ih =>
    rw [splitBoundaries, ih h.of_cons]
    simp [h _ (List.suffix_refl _)]

/-- A text without boundaries, followed by a boundary that begins with a space, is a part of its
own. -/
theorem splitBoundaries_append {text rest part : List Char} {parts : List (List Char)}
    (h : BoundaryFree text) (hrest : startsKey rest = true)
    (hparts : splitBoundaries rest = part :: parts) :
    splitBoundaries (text ++ ' ' :: rest) = text :: (' ' :: part) :: parts := by
  induction text with
  | nil =>
    have hboundary : isBoundary (' ' :: rest) = true := by
      simpa [isBoundary, isSpaceChar] using hrest
    rw [List.nil_append, splitBoundaries, hparts]
    simp [hboundary]
  | cons c text ih =>
    have hboundary : isBoundary (c :: (text ++ ' ' :: rest)) = false := by
      rw [isBoundary, startsKey_append_space]
      exact h _ (List.suffix_refl _)
    rw [List.cons_append, splitBoundaries, ih h.of_cons]
    simp [hboundary]

/-- Whether a text is free of whitespace can be computed. -/
theorem isSpaceChar_of_all {text : List Char} (h : text.all (fun c ↦ !isSpaceChar c) = true) :
    ∀ c ∈ text, isSpaceChar c = false := fun c hc ↦ by simpa using List.all_eq_true.mp h c hc

theorem BoundaryFree.append {front text : List Char} (h : BoundaryFree text)
    (hfront : ∀ c ∈ front, isSpaceChar c = false) : BoundaryFree (front ++ text) := by
  induction front with
  | nil => exact h
  | cons c front ih =>
    intro suffix hs
    rcases List.suffix_cons_iff.mp hs with rfl | hs
    · rw [isBoundary, hfront c List.mem_cons_self]
      rfl
    · exact ih (fun d hd ↦ hfront d (List.mem_cons_of_mem c hd)) suffix hs

theorem boundaryFree_of_no_space {text : List Char} (h : ∀ c ∈ text, isSpaceChar c = false) :
    BoundaryFree text := by
  have hnil : BoundaryFree [] := by
    intro suffix hs
    rw [List.suffix_nil.mp hs]
    rfl
  simpa using hnil.append h

/-! ## Keys -/

/-- A key as `format_event` writes it. -/
structure IsKey (key : List Char) : Prop where
  head : ∃ c rest, key = c :: rest ∧ c.isUpper = true
  keyChars : ∀ c ∈ key, isKeyChar c = true

instance (key : List Char) : Decidable (IsKey key) :=
  match key with
  | [] => isFalse fun ⟨⟨_, _, h, _⟩, _⟩ ↦ by cases h
  | c :: rest =>
    decidable_of_iff (c.isUpper = true ∧ (c :: rest).all isKeyChar = true)
      ⟨fun h ↦ ⟨⟨c, rest, rfl, h.1⟩, List.all_eq_true.mp h.2⟩, fun ⟨⟨_, _, heq, hc⟩, hall⟩ ↦ by
        cases heq
        exact ⟨hc, List.all_eq_true.mpr hall⟩⟩

theorem isSpaceChar_of_isKeyChar {c : Char} (h : isKeyChar c = true) : isSpaceChar c = false := by
  have hupper : c.isUpper = decide (c.val ≥ 65 ∧ c.val ≤ 90) := rfl
  have hrange : (65 ≤ c.toNat ∧ c.toNat ≤ 90) ∨ (48 ≤ c.toNat ∧ c.toNat ≤ 57) ∨ c = '_' := by
    simpa [isKeyChar, hupper, Char.isDigit, UInt32.le_iff_toNat_le, or_assoc] using h
  unfold isSpaceChar
  rcases hrange with h | h | rfl
  · simp only [Bool.or_eq_false_iff, Bool.and_eq_false_iff, decide_eq_false_iff_not,
      beq_eq_false_iff_ne]
    omega
  · simp only [Bool.or_eq_false_iff, Bool.and_eq_false_iff, decide_eq_false_iff_not,
      beq_eq_false_iff_ne]
    omega
  · rfl

theorem IsKey.ne_equals {key : List Char} (h : IsKey key) {c : Char} (hc : c ∈ key) : c ≠ '=' := by
  rintro rfl
  exact absurd (h.keyChars _ hc) (by decide)

/-- A key and an equals sign start a field. -/
theorem IsKey.startsKey {key : List Char} (h : IsKey key) (value : List Char) :
    startsKey (key ++ '=' :: value) = true := by
  obtain ⟨c, rest, rfl, hc⟩ := h.head
  have hrest : ∀ d ∈ rest, isKeyChar d = true := fun d hd ↦ h.keyChars d (List.mem_cons_of_mem c hd)
  rw [List.cons_append, Nipxi.startsKey, hc, List.dropWhile_append_of_pos hrest]
  rfl

theorem IsKey.no_space {key : List Char} (h : IsKey key) :
    ∀ c ∈ key ++ ['='], isSpaceChar c = false := by
  intro c hc
  rcases List.mem_append.mp hc with hc | hc
  · exact isSpaceChar_of_isKeyChar (h.keyChars c hc)
  · rw [List.mem_singleton.mp hc]
    rfl

/-- A key in front of a text adds no boundary. -/
theorem IsKey.boundaryFree_field {key value : List Char} (h : IsKey key)
    (hvalue : BoundaryFree value) : BoundaryFree (key ++ '=' :: value) := by
  have happend := hvalue.append h.no_space
  rwa [List.append_assoc] at happend

/-! ## The round trip -/

/-- The whitespace at the end of a text goes. -/
def stripEnd (text : List Char) : List Char := (text.reverse.dropWhile isSpaceChar).reverse

/-- Text that begins and ends without whitespace stops the stripping. -/
theorem stripEnd_append {front : List Char} (text : List Char) (hne : front ≠ [])
    (hlast : isSpaceChar (front.getLast hne) = false) :
    stripEnd (front ++ text) = front ++ stripEnd text := by
  have hfront : front.reverse.dropWhile isSpaceChar = front.reverse := by
    obtain ⟨l, c, hlc⟩ := (List.eq_nil_or_concat front).resolve_left hne
    rw [List.concat_eq_append] at hlc
    subst hlc
    rw [List.getLast_concat] at hlast
    rw [List.reverse_append, List.reverse_singleton, List.singleton_append, List.dropWhile_cons,
      hlast]
    rfl
  have happend (l : List Char) : (l ++ front.reverse).dropWhile isSpaceChar =
      l.dropWhile isSpaceChar ++ front.reverse := by
    induction l with
    | nil => exact hfront
    | cons c l ih =>
      rw [List.cons_append, List.dropWhile_cons, List.dropWhile_cons]
      split
      · exact ih
      · rfl
  rw [stripEnd, List.reverse_append, happend, List.reverse_append, List.reverse_reverse, stripEnd]

theorem readPart_field {key value : List Char} (space : List Char) (h : IsKey key)
    (hspace : ∀ c ∈ space, isSpaceChar c = true) :
    readPart (space ++ (key ++ '=' :: value)) = some (key.map Char.toLower, stripEnd value) := by
  have hstrip : stripText (space ++ (key ++ '=' :: value)) = key ++ '=' :: stripEnd value := by
    obtain ⟨c, rest, rfl, -⟩ := h.head
    have hc : isSpaceChar c = false := isSpaceChar_of_isKeyChar (h.keyChars c List.mem_cons_self)
    have hfront : (space ++ (c :: rest ++ '=' :: value)).dropWhile isSpaceChar =
        c :: rest ++ '=' :: value := by
      rw [List.dropWhile_append_of_pos hspace, List.cons_append, List.dropWhile_cons, hc]
      rfl
    have hequals : c :: rest ++ '=' :: value = (c :: rest ++ ['=']) ++ value := by
      rw [List.append_assoc]
      rfl
    have hkey : c :: rest ++ ['='] ≠ [] :=
      List.append_ne_nil_of_right_ne_nil (c :: rest) (List.cons_ne_nil '=' [])
    have hend := stripEnd_append value hkey (by simp [isSpaceChar])
    rw [stripText, hfront, hequals]
    exact hend.trans (List.append_assoc ..)
  have hkey : ∀ c ∈ key, (c != '=') = true := fun c hc ↦ bne_iff_ne.mpr (h.ne_equals hc)
  have hmem : '=' ∈ key ++ '=' :: stripEnd value :=
    List.mem_append_right _ List.mem_cons_self
  simp only [readPart, hstrip, if_pos hmem, List.takeWhile_append_of_pos hkey,
    List.dropWhile_append_of_pos hkey]
  simp

/-- The fields that `format_event` writes, with the keys as they are read back. -/
def writtenFields (fields : List EventField) : List (List Char × List Char) :=
  fields.filterMap fun field ↦
    field.2.map fun value ↦ ((field.1.map Char.toUpper).map Char.toLower, stripEnd value)

/-- The fields of a message after its first part: each is a part, with the space before it. -/
theorem splitBoundaries_fields (fields : List EventField)
    (h : ∀ field ∈ fields, IsKey (field.1.map Char.toUpper) ∧ ∀ value ∈ field.2, BoundaryFree value)
    {front : List Char} (hfront : BoundaryFree front) :
    splitBoundaries (front ++ fields.flatMap fun field ↦
        match field.2 with
        | some value => ' ' :: (field.1.map Char.toUpper ++ '=' :: value)
        | none => []) =
      front :: fields.filterMap fun field ↦
        field.2.map fun value ↦ ' ' :: (field.1.map Char.toUpper ++ '=' :: value) := by
  induction fields generalizing front with
  | nil =>
    rw [List.flatMap_nil, List.append_nil]
    exact splitBoundaries_of_free hfront
  | cons field fields ih =>
    obtain ⟨hkey, hvalue⟩ := h field List.mem_cons_self
    have hrest : ∀ f ∈ fields, IsKey (f.1.map Char.toUpper) ∧ ∀ v ∈ f.2, BoundaryFree v :=
      fun f hf ↦ h f (List.mem_cons_of_mem field hf)
    obtain ⟨key, value⟩ := field
    cases value with
    | none => simpa using ih hrest hfront
    | some value =>
      have hparts := ih hrest (hkey.boundaryFree_field (hvalue value rfl))
      rw [List.append_assoc] at hparts
      simpa using splitBoundaries_append hfront (hkey.startsKey _) hparts

theorem isPrefix_formatEvent {eventType : List Char} {fields : List EventField} :
    eventTypeKey ++ ['='] <+: formatEvent eventType fields := by
  have hequals : eventTypeKey ++ '=' :: eventType = (eventTypeKey ++ ['=']) ++ eventType :=
    (List.append_assoc eventTypeKey ['='] eventType).symm
  rw [formatEvent, hequals, List.append_assoc]
  exact List.prefix_append _ _

/-- **The round trip.** A formatted event is read back field by field: later fields overwrite
earlier ones with the same key, and whitespace at the end of a value is lost. -/
theorem parse_format {eventType : List Char} {fields : List EventField}
    (htype : BoundaryFree eventType)
    (h : ∀ field ∈ fields,
      IsKey (field.1.map Char.toUpper) ∧ ∀ value ∈ field.2, BoundaryFree value) :
    parseEventFields (formatEvent eventType fields) =
      Dict.assign ((eventTypeField, stripEnd eventType) :: writtenFields fields) Dict.empty := by
  have hkey : IsKey eventTypeKey := by decide
  have hfirst : BoundaryFree (eventTypeKey ++ '=' :: eventType) := hkey.boundaryFree_field htype
  have hread : readPart (eventTypeKey ++ '=' :: eventType) =
      some (eventTypeField, stripEnd eventType) :=
    readPart_field [] hkey nofun
  have hfields : (fields.filterMap fun field ↦ field.2.map fun value ↦
      ' ' :: (field.1.map Char.toUpper ++ '=' :: value)).filterMap readPart =
        writtenFields fields := by
    rw [List.filterMap_filterMap, writtenFields]
    refine List.filterMap_congr fun field hf ↦ ?_
    cases field.2 with
    | none => rfl
    | some value =>
      exact readPart_field [' '] (h field hf).1 (by simp [isSpaceChar])
  rw [parseEventFields, if_pos isPrefix_formatEvent, formatEvent,
    splitBoundaries_fields fields h hfirst, List.filterMap_cons, hread, hfields]

/-! ## What an event is read as -/

/-- Fields whose keys are lower-case, all different and none the key of the type. -/
structure ProperFields (fields : List EventField) : Prop where
  keys : ∀ field ∈ fields, IsKey (field.1.map Char.toUpper)
  lower : ∀ field ∈ fields, (field.1.map Char.toUpper).map Char.toLower = field.1
  nodup : (fields.map Prod.fst).Nodup
  notType : eventTypeField ∉ fields.map Prod.fst

theorem ProperFields.mem_writtenFields {fields : List EventField} (h : ProperFields fields)
    {key value : List Char} : (key, value) ∈ writtenFields fields ↔
      ∃ text, (key, some text) ∈ fields ∧ value = stripEnd text := by
  rw [writtenFields, List.mem_filterMap]
  constructor
  · rintro ⟨field, hfield, hmap⟩
    obtain ⟨text, htext, heq⟩ := Option.map_eq_some_iff.mp hmap
    obtain ⟨hkey, rfl⟩ := Prod.mk.inj heq
    rw [h.lower field hfield] at hkey
    exact ⟨text, by rw [← hkey, ← htext]; exact hfield, rfl⟩
  · rintro ⟨text, hfield, rfl⟩
    exact ⟨_, hfield, by rw [Option.map_some, h.lower _ hfield]⟩

/-- No two fields of an event with different texts have one key. -/
theorem ProperFields.eq_of_mem {fields : List EventField} (h : ProperFields fields)
    {key : List Char} {a b : Option (List Char)} (ha : (key, a) ∈ fields)
    (hb : (key, b) ∈ fields) : a = b :=
  (Prod.mk.inj (List.inj_on_of_nodup_map h.nodup ha hb rfl)).2

/-- **What a formatted event is read as**: its type and its fields, and nothing else, each without
the whitespace at its end. -/
theorem get?_parse_format {eventType : List Char} {fields : List EventField}
    (htype : BoundaryFree eventType) (h : ProperFields fields)
    (hfree : ∀ field ∈ fields, ∀ value ∈ field.2, BoundaryFree value) {key value : List Char} :
    (parseEventFields (formatEvent eventType fields)).get? key = some value ↔
      key = eventTypeField ∧ value = stripEnd eventType ∨
        ∃ text, (key, some text) ∈ fields ∧ value = stripEnd text := by
  rw [parse_format htype fun field hf ↦ ⟨h.keys field hf, hfree field hf⟩, Dict.get?_assign_iff,
    List.mem_cons, h.mem_writtenFields, Prod.mk.injEq]
  rintro k a b ha hb
  rw [List.mem_cons, h.mem_writtenFields, Prod.mk.injEq] at ha hb
  rcases ha with ⟨rfl, rfl⟩ | ⟨s, hs, rfl⟩
  · rcases hb with ⟨-, rfl⟩ | ⟨t, ht, -⟩
    · rfl
    · exact absurd (List.mem_map_of_mem ht) h.notType
  · rcases hb with ⟨rfl, -⟩ | ⟨t, ht, rfl⟩
    · exact absurd (List.mem_map_of_mem hs) h.notType
    · obtain rfl := Option.some.inj (h.eq_of_mem hs ht)
      rfl

/-! ## Texts with boundaries -/

theorem splitBoundaries_cons {c : Char} {rest part : List Char} {parts : List (List Char)}
    (h : splitBoundaries rest = part :: parts) : splitBoundaries (c :: rest) =
      if isBoundary (c :: rest) then [] :: (c :: part) :: parts else (c :: part) :: parts := by
  rw [splitBoundaries, h]

theorem exists_splitBoundaries (text : List Char) :
    ∃ part parts, splitBoundaries text = part :: parts := by
  induction text with
  | nil => exact ⟨_, _, rfl⟩
  | cons c rest ih =>
    obtain ⟨part, parts, hsplit⟩ := ih
    rw [splitBoundaries_cons hsplit]
    split
    · exact ⟨_, _, rfl⟩
    · exact ⟨_, _, rfl⟩

theorem flatten_splitBoundaries (text : List Char) : (splitBoundaries text).flatten = text := by
  induction text with
  | nil => rfl
  | cons c rest ih =>
    obtain ⟨part, parts, hsplit⟩ := exists_splitBoundaries rest
    rw [hsplit, List.flatten_cons] at ih
    rw [splitBoundaries_cons hsplit]
    split
    · rw [List.flatten_cons, List.flatten_cons, List.nil_append, List.cons_append, ih]
    · rw [List.flatten_cons, List.cons_append, ih]

theorem ne_nil_of_mem_parts {text part : List Char} {parts : List (List Char)}
    (h : splitBoundaries text = part :: parts) : ∀ p ∈ parts, p ≠ [] := by
  induction text generalizing part parts with
  | nil =>
    obtain ⟨-, rfl⟩ := List.cons.inj h
    exact fun _ hp ↦ absurd hp List.not_mem_nil
  | cons c rest ih =>
    obtain ⟨first, more, hsplit⟩ := exists_splitBoundaries rest
    rw [splitBoundaries_cons hsplit] at h
    split at h
    · obtain ⟨-, rfl⟩ := List.cons.inj h
      exact List.forall_mem_cons.mpr ⟨List.cons_ne_nil _ _, ih hsplit⟩
    · obtain ⟨-, rfl⟩ := List.cons.inj h
      exact ih hsplit

theorem boundaryFree_of_splitBoundaries {text part : List Char}
    (h : splitBoundaries text = [part]) : BoundaryFree text := by
  induction text generalizing part with
  | nil =>
    intro suffix hs
    rw [List.suffix_nil.mp hs]
    rfl
  | cons c rest ih =>
    obtain ⟨first, parts, hsplit⟩ := exists_splitBoundaries rest
    rw [splitBoundaries_cons hsplit] at h
    split at h
    · cases h
    · next hboundary =>
      obtain ⟨-, rfl⟩ := List.cons.inj h
      intro suffix hs
      rcases List.suffix_cons_iff.mp hs with rfl | hs
      · exact (Bool.not_eq_true _).mp hboundary
      · exact ih hsplit suffix hs

/-- Text without whitespace stays in front of the first part. -/
theorem splitBoundaries_front {front text part : List Char} {parts : List (List Char)}
    (hfront : ∀ c ∈ front, isSpaceChar c = false) (h : splitBoundaries text = part :: parts) :
    splitBoundaries (front ++ text) = (front ++ part) :: parts := by
  induction front with
  | nil => exact h
  | cons c front ih =>
    have hc : isBoundary (c :: (front ++ text)) = false := by
      rw [isBoundary, hfront c List.mem_cons_self]
      rfl
    rw [List.cons_append, splitBoundaries, ih fun d hd ↦ hfront d (List.mem_cons_of_mem c hd)]
    simp [hc]

theorem length_dropWhile_le (p : Char → Bool) (text : List Char) :
    (text.dropWhile p).length ≤ text.length :=
  (List.dropWhile_sublist p).length_le

theorem length_stripEnd_le (text : List Char) : (stripEnd text).length ≤ text.length := by
  rw [stripEnd, List.length_reverse]
  exact (length_dropWhile_le _ _).trans_eq List.length_reverse

theorem length_lt_of_readPart {part key value : List Char}
    (h : readPart part = some (key, value)) : value.length < part.length := by
  simp only [readPart] at h
  split at h
  · next hmem =>
    obtain ⟨-, rfl⟩ := Prod.mk.inj (Option.some.inj h)
    have hne : (stripText part).dropWhile (· != '=') ≠ [] := by
      intro hnil
      have hall := List.dropWhile_eq_nil_iff.mp hnil '=' hmem
      simp at hall
    have hpos := List.length_pos_iff.mpr hne
    have hstrip : (stripText part).length ≤ part.length :=
      (length_stripEnd_le _).trans (length_dropWhile_le _ _)
    have hdrop := length_dropWhile_le (· != '=') (stripText part)
    rw [List.length_drop]
    omega
  · cases h

/-- The parts of a message whose last field has any text. -/
theorem splitBoundaries_fields_append (fields : List EventField)
    (h : ∀ field ∈ fields, IsKey (field.1.map Char.toUpper) ∧ ∀ value ∈ field.2, BoundaryFree value)
    {front rest part : List Char} {parts : List (List Char)} (hfront : BoundaryFree front)
    (hrest : startsKey rest = true) (hparts : splitBoundaries rest = part :: parts) :
    splitBoundaries (front ++ ((fields.flatMap fun field ↦
        match field.2 with
        | some value => ' ' :: (field.1.map Char.toUpper ++ '=' :: value)
        | none => []) ++ ' ' :: rest)) =
      front :: ((fields.filterMap fun field ↦
        field.2.map fun value ↦ ' ' :: (field.1.map Char.toUpper ++ '=' :: value)) ++
          (' ' :: part) :: parts) := by
  induction fields generalizing front with
  | nil => exact splitBoundaries_append hfront hrest hparts
  | cons field fields ih =>
    obtain ⟨hkey, hvalue⟩ := h field List.mem_cons_self
    have htail : ∀ f ∈ fields, IsKey (f.1.map Char.toUpper) ∧ ∀ v ∈ f.2, BoundaryFree v :=
      fun f hf ↦ h f (List.mem_cons_of_mem field hf)
    obtain ⟨key, value⟩ := field
    cases value with
    | none => simpa using ih htail hfront
    | some value =>
      have hsplit := ih htail (hkey.boundaryFree_field (hvalue value rfl))
      rw [List.append_assoc] at hsplit
      simpa using splitBoundaries_append hfront (hkey.startsKey _) hsplit

theorem ProperFields.ne_last {fields : List EventField} {last : EventField}
    (h : ProperFields (fields ++ [last])) {other : EventField} (hother : other ∈ fields) :
    other.1 ≠ last.1 := by
  intro hsame
  have hnodup := h.nodup
  rw [List.map_append, List.nodup_append'] at hnodup
  have hmem : other.1 ∈ fields.map Prod.fst := List.mem_map_of_mem hother
  exact hnodup.2.2 (hsame ▸ hmem) List.mem_cons_self

theorem ProperFields.ne_eventTypeField {fields : List EventField} (h : ProperFields fields)
    {field : EventField} (hfield : field ∈ fields) : field.1 ≠ eventTypeField := by
  intro hsame
  exact h.notType (hsame ▸ List.mem_map_of_mem hfield)

/-- Where a text has a boundary, whatever is read from one of the parts it comes to is shorter than
the text: the first part lacks the others, and each of the others lacks the first of them. -/
theorem length_lt_of_readPart_last {key part text : List Char} {parts : List (List Char)}
    (hkey : IsKey (key.map Char.toUpper)) (hsplit : splitBoundaries text = part :: parts)
    (htext : ¬BoundaryFree text) {p : List Char} {field : List Char × List Char}
    (hp : p ∈ (' ' :: (key.map Char.toUpper ++ '=' :: part)) :: parts)
    (hread : readPart p = some field) : field.2.length < text.length := by
  have hspace : ∀ c ∈ [' '], isSpaceChar c = true := by simp [isSpaceChar]
  have hlength : part.length + parts.flatten.length = text.length := by
    rw [← List.length_append, ← List.flatten_cons, ← hsplit, flatten_splitBoundaries]
  rcases List.mem_cons.mp hp with rfl | hp
  · have hflat : 0 < parts.flatten.length := by
      cases parts with
      | nil => exact absurd (boundaryFree_of_splitBoundaries hsplit) htext
      | cons q parts =>
        rw [List.flatten_cons, List.length_append]
        exact Nat.add_pos_left
          (List.length_pos_iff.mpr (ne_nil_of_mem_parts hsplit q List.mem_cons_self)) _
    have heq := (readPart_field [' '] hkey hspace).symm.trans hread
    have hvalue := congrArg Prod.snd (Option.some.inj heq)
    have hshort := length_stripEnd_le part
    rw [← hvalue]
    dsimp only
    omega
  · have hshort := length_lt_of_readPart hread
    have hle : p.length ≤ parts.flatten.length := (List.sublist_flatten_of_mem hp).length_le
    omega

/-- **Only a text without boundaries comes back.** The last field of an event is read as it was
written exactly if its text has no boundary and no whitespace at its end: otherwise every value
read under its key is shorter. -/
theorem get?_last_field_iff {eventType key text : List Char} {fields : List EventField}
    (htype : BoundaryFree eventType) (h : ProperFields (fields ++ [(key, some text)]))
    (hfree : ∀ field ∈ fields, ∀ value ∈ field.2, BoundaryFree value) :
    (parseEventFields (formatEvent eventType (fields ++ [(key, some text)]))).get? key = some text ↔
      BoundaryFree text ∧ stripEnd text = text := by
  have hlast : (key, some text) ∈ fields ++ [(key, some text)] :=
    List.mem_append_right _ List.mem_cons_self
  have hkey : key ≠ eventTypeField := h.ne_eventTypeField hlast
  by_cases htext : BoundaryFree text
  · have hall : ∀ field ∈ fields ++ [(key, some text)], ∀ value ∈ field.2, BoundaryFree value := by
      intro field hfield value hvalue
      rcases List.mem_append.mp hfield with hfield | hfield
      · exact hfree field hfield value hvalue
      · obtain rfl := List.mem_singleton.mp hfield
        obtain rfl := Option.mem_some_iff.mp hvalue
        exact htext
    rw [get?_parse_format htype h hall]
    constructor
    · rintro (⟨heq, -⟩ | ⟨value, hvalue, hstrip⟩)
      · exact absurd heq hkey
      · obtain rfl := Option.some.inj (h.eq_of_mem hlast hvalue)
        exact ⟨htext, hstrip.symm⟩
    · rintro ⟨-, hstrip⟩
      exact Or.inr ⟨text, hlast, hstrip.symm⟩
  · refine iff_of_false (fun hget ↦ ?_) fun hfree ↦ htext hfree.1
    have hisKey := h.keys _ hlast
    obtain ⟨part, parts, hsplit⟩ := exists_splitBoundaries text
    have hrest : splitBoundaries (key.map Char.toUpper ++ '=' :: text) =
        (key.map Char.toUpper ++ '=' :: part) :: parts := by
      have hfront := splitBoundaries_front hisKey.no_space hsplit
      rwa [List.append_assoc, List.append_assoc] at hfront
    have hmessage : formatEvent eventType (fields ++ [(key, some text)]) =
        (eventTypeKey ++ '=' :: eventType) ++ ((fields.flatMap fun field ↦
          match field.2 with
          | some value => ' ' :: (field.1.map Char.toUpper ++ '=' :: value)
          | none => []) ++ ' ' :: (key.map Char.toUpper ++ '=' :: text)) := by
      simp [formatEvent, List.flatMap_append]
    have htypeKey : IsKey eventTypeKey := by decide
    have hspace : ∀ c ∈ [' '], isSpaceChar c = true := by simp [isSpaceChar]
    have hfields : ∀ field ∈ fields, IsKey (field.1.map Char.toUpper) ∧
        ∀ value ∈ field.2, BoundaryFree value := fun field hfield ↦
      ⟨h.keys field (List.mem_append_left _ hfield), hfree field hfield⟩
    rw [parseEventFields, if_pos isPrefix_formatEvent, hmessage,
      splitBoundaries_fields_append fields hfields (htypeKey.boundaryFree_field htype)
        (hisKey.startsKey _) hrest] at hget
    -- whatever is read under the key is shorter than the text
    have hmem := (Dict.mem_of_mem_assign (Dict.mem_items_iff.mpr hget)).resolve_right
      List.not_mem_nil
    obtain ⟨p, hp, hread⟩ := List.mem_filterMap.mp hmem
    rcases List.mem_cons.mp hp with rfl | hp
    · have heq := (readPart_field [] htypeKey nofun).symm.trans hread
      exact hkey (Prod.mk.inj (Option.some.inj heq)).1.symm
    · rcases List.mem_append.mp hp with hp | hp
      · obtain ⟨field, hfield, hmap⟩ := List.mem_filterMap.mp hp
        obtain ⟨value, -, rfl⟩ := Option.map_eq_some_iff.mp hmap
        have heq := (readPart_field [' '] (hfields field hfield).1 hspace).symm.trans hread
        have hsame := (Prod.mk.inj (Option.some.inj heq)).1
        rw [h.lower field (List.mem_append_left _ hfield)] at hsame
        exact h.ne_last hfield hsame
      · exact absurd (length_lt_of_readPart_last hisKey hsplit htext hp hread) (lt_irrefl _)

/-! ## Lower-case keys -/

/-- The characters of a lower-case key after its first. -/
def isFieldChar (c : Char) : Bool := c.isLower || c.isDigit || c == '_'

/-- A key as callers pass it: a lower-case identifier that starts with a letter. -/
structure IsFieldName (key : List Char) : Prop where
  head : ∃ c rest, key = c :: rest ∧ c.isLower = true
  fieldChars : ∀ c ∈ key, isFieldChar c = true

instance (key : List Char) : Decidable (IsFieldName key) :=
  match key with
  | [] => isFalse fun ⟨⟨_, _, h, _⟩, _⟩ ↦ by cases h
  | c :: rest =>
    decidable_of_iff (c.isLower = true ∧ (c :: rest).all isFieldChar = true)
      ⟨fun h ↦ ⟨⟨c, rest, rfl, h.1⟩, List.all_eq_true.mp h.2⟩, fun ⟨⟨_, _, heq, hc⟩, hall⟩ ↦ by
        cases heq
        exact ⟨hc, List.all_eq_true.mpr hall⟩⟩

/-- What holds of the lower-case letters one by one. -/
theorem forall_isLower {P : Char → Prop} (h : ∀ n, n < 26 → P (Char.ofNat (97 + n))) {c : Char}
    (hc : c.isLower = true) : P c := by
  have hval : (decide (c.val ≥ 'a'.val) && decide (c.val ≤ 'z'.val)) = true := hc
  have hrange : 97 ≤ c.toNat ∧ c.toNat ≤ 122 := by
    simpa [UInt32.le_iff_toNat_le] using hval
  have hp := h (c.toNat - 97) (by omega)
  rwa [Nat.add_sub_cancel' hrange.1, Char.ofNat_toNat] at hp

/-- What holds of the characters of a lower-case key one by one. -/
theorem forall_isFieldChar {P : Char → Prop} (hlower : ∀ n, n < 26 → P (Char.ofNat (97 + n)))
    (hdigit : ∀ n, n < 10 → P (Char.ofNat (48 + n))) (hunderscore : P '_') {c : Char}
    (hc : isFieldChar c = true) : P c := by
  rw [isFieldChar, Bool.or_eq_true, Bool.or_eq_true] at hc
  rcases hc with (hc | hc) | hc
  · exact forall_isLower hlower hc
  · have hrange : 48 ≤ c.toNat ∧ c.toNat ≤ 57 := by
      simpa [Char.isDigit, UInt32.le_iff_toNat_le] using hc
    have hp := hdigit (c.toNat - 48) (by omega)
    rwa [Nat.add_sub_cancel' hrange.1, Char.ofNat_toNat] at hp
  · rwa [eq_of_beq hc]

/-- Written in upper case, a lower-case key is a key. -/
theorem IsFieldName.isKey {key : List Char} (h : IsFieldName key) :
    IsKey (key.map Char.toUpper) where
  head := by
    obtain ⟨c, rest, rfl, hc⟩ := h.head
    exact ⟨c.toUpper, rest.map Char.toUpper, rfl,
      forall_isLower (P := fun c ↦ c.toUpper.isUpper = true) (by decide) hc⟩
  keyChars := by
    intro c hc
    obtain ⟨d, hd, rfl⟩ := List.mem_map.mp hc
    exact forall_isFieldChar (P := fun d ↦ isKeyChar d.toUpper = true) (by decide) (by decide)
      (by decide) (h.fieldChars d hd)

/-- A lower-case key is read back from upper case. -/
theorem IsFieldName.lower {key : List Char} (h : IsFieldName key) :
    (key.map Char.toUpper).map Char.toLower = key := by
  have hchar : ∀ c ∈ key, (Char.toLower ∘ Char.toUpper) c = c := fun c hc ↦
    forall_isFieldChar (P := fun c ↦ c.toUpper.toLower = c) (by decide) (by decide) (by decide)
      (h.fieldChars c hc)
  rw [List.map_map]
  exact (List.map_congr_left hchar).trans (List.map_id' key)

/-- No whitespace at either end. -/
structure Trimmed (text : List Char) : Prop where
  head : ∀ c ∈ text.head?, isSpaceChar c = false
  last : ∀ c ∈ text.getLast?, isSpaceChar c = false

theorem Trimmed.stripEnd {text : List Char} (h : Trimmed text) : stripEnd text = text := by
  rcases List.eq_nil_or_concat text with rfl | ⟨front, c, rfl⟩
  · rfl
  · have hc : isSpaceChar c = false := h.last c (by simp)
    rw [Nipxi.stripEnd, List.concat_eq_append, List.reverse_append, List.reverse_singleton,
      List.singleton_append, List.dropWhile_cons, hc]
    simp

/-- Text without whitespace has none at its ends. -/
theorem trimmed_of_no_space {text : List Char} (h : ∀ c ∈ text, isSpaceChar c = false) :
    Trimmed text where
  head c hc := h c (List.mem_of_mem_head? hc)
  last c hc := h c (List.mem_of_mem_getLast? hc)

/-- **Formatting and parsing are inverse.** An event whose type has no whitespace, with different
lower-case keys and values without boundaries and without whitespace at their ends, is read back as
its type and the fields that are not `None`, in their order. -/
theorem items_parse_format {eventType : List Char} {fields : List EventField}
    (htype : ∀ c ∈ eventType, isSpaceChar c = false) (hnodup : (fields.map Prod.fst).Nodup)
    (hkeys : ∀ field ∈ fields, IsFieldName field.1 ∧ field.1 ≠ eventTypeField)
    (hvalues : ∀ field ∈ fields, ∀ value ∈ field.2, BoundaryFree value ∧ Trimmed value) :
    (parseEventFields (formatEvent eventType fields)).items =
      (eventTypeField, eventType) :: fields.filterMap fun field ↦
        field.2.map fun value ↦ (field.1, value) := by
  have hwritten : writtenFields fields =
      fields.filterMap fun field ↦ field.2.map fun value ↦ (field.1, value) := by
    refine List.filterMap_congr fun field hfield ↦ Option.map_congr fun value hvalue ↦ ?_
    rw [(hkeys field hfield).1.lower, (hvalues field hfield value hvalue).2.stripEnd]
  have hsublist : ((fields.filterMap fun field ↦
      field.2.map fun value ↦ (field.1, value)).map Prod.fst).Sublist (fields.map Prod.fst) := by
    clear hnodup hkeys hvalues hwritten
    induction fields with
    | nil => exact .slnil
    | cons field fields ih =>
      obtain ⟨key, _ | value⟩ := field
      · exact ih.cons _
      · exact ih.cons_cons _
  have hfresh : eventTypeField ∉ fields.map Prod.fst := by
    intro hmem
    obtain ⟨field, hfield, hkey⟩ := List.mem_map.mp hmem
    exact (hkeys field hfield).2 hkey
  rw [parse_format (boundaryFree_of_no_space htype) fun field hfield ↦
      ⟨(hkeys field hfield).1.isKey, fun value hvalue ↦ (hvalues field hfield value hvalue).1⟩,
    (trimmed_of_no_space htype).stripEnd, hwritten]
  refine Dict.items_assign ?_
  rw [List.map_cons, List.nodup_cons]
  exact ⟨fun hmem ↦ hfresh (hsublist.subset hmem), hnodup.sublist hsublist⟩

/-- A reason with an equals sign, spaces, and an upper-case key without whitespace before it, and a
field that is left out. -/
theorem items_parse_format_reason :
    (parseEventFields (formatEvent "RELAY_OPEN".toList
      [("port".toList, none), ("reason".toList, some "a=b, (R=1) v=2".toList)])).items =
      [(eventTypeField, "RELAY_OPEN".toList), ("reason".toList, "a=b, (R=1) v=2".toList)] := by
  have hsplit : splitBoundaries "a=b, (R=1) v=2".toList = ["a=b, (R=1) v=2".toList] := by
    decide +kernel
  have htype : "RELAY_OPEN".toList.all (!isSpaceChar ·) = true := by decide +kernel
  refine items_parse_format (fun c hc ↦ (Bool.not_eq_true' _).mp (List.all_eq_true.mp htype c hc))
    (by decide +kernel) (by decide +kernel) fun field hfield value hvalue ↦ ?_
  rcases List.mem_cons.mp hfield with rfl | hfield
  · cases hvalue
  · obtain rfl := List.mem_singleton.mp hfield
    obtain rfl := Option.mem_some_iff.mp hvalue
    refine ⟨boundaryFree_of_splitBoundaries hsplit, fun c hc ↦ ?_, fun c hc ↦ ?_⟩
    · obtain rfl : 'a' = c := Option.some.inj hc
      decide
    · obtain rfl : '2' = c := Option.some.inj hc
      decide

end Nipxi
