import SchemaTrail.Column.Rendering
import SchemaTrail.Proofs.Literals

/-!
# Encoded text

The charset of a column says how the characters of a text are laid out in bytes, a `Layout`.  The
encoders here go from a character to its bytes, and have nothing in common with the decoders.  A
decoder that meets the bytes of a character gives the character and goes on behind them, so that
each text a layout covers is what is written for its bytes, and no other bytes are refused either
(`Column.valueToJson_encoded`).
-/

namespace SchemaTrail.Text.Encoding

/-! ## Encoders -/

/-- The units of a character in UTF-16.  A character beyond the first plane has two, the surrogates
of the upper and of the lower ten bits of its place there. -/
def utf16Encode (c : Char) : List Nat :=
  if c.toNat < 0x10000 then [c.toNat]
  else [0xd800 + (c.toNat - 0x10000) / 0x400, 0xdc00 + (c.toNat - 0x10000) % 0x400]

/-- The bytes of a unit with the high one first. -/
def bigEndian (w : Nat) : List UInt8 :=
  [.ofNat (w / 256), .ofNat (w % 256)]

/-- The bytes of a unit with the low one first. -/
def littleEndian (w : Nat) : List UInt8 :=
  [.ofNat (w % 256), .ofNat (w / 256)]

/-- The four bytes of a character in UTF-32 with the highest one first. -/
def utf32Encode (c : Char) : List UInt8 :=
  [.ofNat (c.toNat / 0x1000000), .ofNat (c.toNat / 0x10000 % 256), .ofNat (c.toNat / 0x100 % 256),
    .ofNat (c.toNat % 256)]

/-- How the characters of a text are laid out in bytes. -/
inductive Layout where
  | utf8
  | utf16
  | utf16le
  | utf32
  | latin1
  | ascii
  deriving DecidableEq, Repr

namespace Layout

/-- The charsets with a layout, in lower case. -/
def charsets : Layout → List String
  | utf8 => ["utf8", "utf8mb3", "utf8mb4"]
  | utf16 => ["ucs2", "utf16"]
  | utf16le => ["utf16le"]
  | utf32 => ["utf32"]
  | latin1 => ["latin1"]
  | ascii => ["ascii"]

/-- Whether a charset has the layout, in any case of its letters.  Where none is named the layout
is UTF-8. -/
def IsOf (layout : Layout) : Option String → Prop
  | none => layout = utf8
  | some charset => asciiLower charset ∈ layout.charsets

instance (layout : Layout) : ∀ charset, Decidable (layout.IsOf charset)
  | none => inferInstanceAs (Decidable (layout = utf8))
  | some charset => inferInstanceAs (Decidable (asciiLower charset ∈ layout.charsets))

/-- Whether a character has bytes in the layout. -/
def Covers : Layout → Char → Prop
  | latin1, c => c.toNat < 0x100
  | ascii, c => c.toNat < 0x80
  | utf8, _ | utf16, _ | utf16le, _ | utf32, _ => True

instance : ∀ (layout : Layout) c, Decidable (layout.Covers c)
  | latin1, c => inferInstanceAs (Decidable (c.toNat < 0x100))
  | ascii, c => inferInstanceAs (Decidable (c.toNat < 0x80))
  | utf8, _ | utf16, _ | utf16le, _ | utf32, _ => inferInstanceAs (Decidable True)

/-- The bytes of a text. -/
def encode (layout : Layout) (s : String) : List UInt8 :=
  match layout with
  | utf8 => s.toUTF8.toList
  | utf16 => (s.toList.flatMap utf16Encode).flatMap bigEndian
  | utf16le => (s.toList.flatMap utf16Encode).flatMap littleEndian
  | utf32 => s.toList.flatMap utf32Encode
  | latin1 | ascii => s.toList.map fun c => .ofNat c.toNat

/-- The decoder of a layout. -/
def decode : Layout → List UInt8 → String
  | utf8 => Encoding.utf8
  | utf16 => utf16BigEndian
  | utf16le => utf16LittleEndian
  | utf32 => Encoding.utf32
  | latin1 | ascii => singleByte

end Layout

/-! ## One after another -/

variable {α β : Type}

/-- What reads an item off the front of its code, whatever follows, reads a list of them. -/
theorem decode_flatMap {encode : α → List β} {decode : List β → List α} (hnil : decode [] = [])
    {items : List α}
    (hcons : ∀ a ∈ items, ∀ rest, decode (encode a ++ rest) = a :: decode rest) :
    decode (items.flatMap encode) = items := by
  induction items with
  | nil => exact hnil
  | cons a items ih =>
    rw [List.forall_mem_cons] at hcons
    rw [List.flatMap_cons, hcons.1, ih hcons.2]

/-! ## UTF-8 -/

section Utf8

variable {b : UInt8} {value missing low high v : Nat} {rest : List UInt8}

theorem utf8After_single (h : b.toNat < 0x80) :
    utf8After 0 0 0 0 (b :: rest) = Char.ofNat b.toNat :: utf8After 0 0 0 0 rest := by
  simp [utf8After, h]

theorem utf8After_leading (h : ¬b.toNat < 0x80)
    (hb : leadingByte? b = some (missing, low, high)) :
    utf8After 0 0 0 0 (b :: rest) =
      utf8After (if missing = 1 then b.toNat % 32 else if missing = 2 then b.toNat % 16
        else b.toNat % 8) missing low high rest := by
  simp [utf8After, h, hb]

theorem utf8After_next (hb : between low high b = true) :
    utf8After value (missing + 2) low high (b :: rest) =
      utf8After (extend value b) (missing + 1) 0x80 0xbf rest := by
  simp [utf8After, hb]

theorem utf8After_last (hb : between low high b = true) :
    utf8After value 1 low high (b :: rest) =
      Char.ofNat (extend value b) :: utf8After 0 0 0 0 rest := by
  simp [utf8After, hb]

theorem toNat_ofNat (h : v < 0x100) : (UInt8.ofNat v).toNat = v :=
  UInt8.toNat_ofNat_of_lt' h

theorem toNat_continuation (v : Nat) : (UInt8.ofNat (v % 64 + 128)).toNat = v % 64 + 128 :=
  toNat_ofNat (by omega)

theorem between_continuation : between 0x80 0xbf (.ofNat (v % 64 + 128)) = true := by
  rw [between, toNat_continuation]
  simp
  omega

theorem extend_continuation : extend value (.ofNat (v % 64 + 128)) = value * 64 + v % 64 := by
  rw [extend, toNat_continuation]
  omega

theorem leadingByte?_two (hlow : 0xc2 ≤ b.toNat) (hhigh : b.toNat ≤ 0xdf) :
    leadingByte? b = some (1, 0x80, 0xbf) := by
  simp [leadingByte?, between, hlow, hhigh]

/-- The bounds of the second of three bytes keep out the codes of fewer bytes and the surrogates. -/
theorem leadingByte?_three (hlow : 0x800 ≤ v) (hhigh : v < 0x10000) (hv : v.isValidChar)
    (hb : b.toNat = v / 0x1000 + 0xe0) : ∃ low high, leadingByte? b = some (2, low, high) ∧
      between low high (.ofNat (v / 64 % 64 + 128)) = true := by
  by_cases hfirst : b.toNat = 0xe0
  · refine ⟨0xa0, 0xbf, by simp [leadingByte?, between, hfirst], ?_⟩
    rw [between, toNat_continuation]
    simp
    omega
  by_cases hsurrogate : b.toNat = 0xed
  · refine ⟨0x80, 0x9f, by simp [leadingByte?, between, hsurrogate], ?_⟩
    rw [between, toNat_continuation]
    simp
    omega
  · refine ⟨0x80, 0xbf, ?_, between_continuation⟩
    simp only [leadingByte?, between, Bool.and_eq_true, decide_eq_true_eq]
    rw [if_neg (by omega), if_neg hfirst, if_neg hsurrogate, if_pos (by omega)]

/-- The bounds of the second of four bytes keep out the codes of fewer bytes and what is beyond the
last character. -/
theorem leadingByte?_four (hlow : 0x10000 ≤ v) (hv : v.isValidChar)
    (hb : b.toNat = v / 0x40000 + 0xf0) : ∃ low high, leadingByte? b = some (3, low, high) ∧
      between low high (.ofNat (v / 0x1000 % 64 + 128)) = true := by
  by_cases hfirst : b.toNat = 0xf0
  · refine ⟨0x90, 0xbf, by simp [leadingByte?, between, hfirst], ?_⟩
    rw [between, toNat_continuation]
    simp
    omega
  by_cases hlast : b.toNat = 0xf4
  · refine ⟨0x80, 0x8f, by simp [leadingByte?, between, hlast], ?_⟩
    rw [between, toNat_continuation]
    simp
    omega
  · refine ⟨0x80, 0xbf, ?_, between_continuation⟩
    simp only [leadingByte?, between, Bool.and_eq_true, decide_eq_true_eq]
    rw [if_neg (by omega), if_neg (by omega), if_neg (by omega), if_neg (by omega), if_neg hfirst,
      if_pos (by omega)]

theorem isValidChar_toNat (c : Char) : c.toNat.isValidChar :=
  c.valid

/-- The bytes of a character are read as the character, and what follows them is read afresh. -/
theorem utf8After_encode (c : Char) (rest : List UInt8) :
    utf8After 0 0 0 0 (String.utf8EncodeChar c ++ rest) = c :: utf8After 0 0 0 0 rest := by
  have hvalid := isValidChar_toNat c
  obtain ⟨v, hv⟩ : ∃ v, v = c.toNat := ⟨_, rfl⟩
  have hc : Char.ofNat v = c := hv ▸ Char.ofNat_toNat c
  rw [String.utf8EncodeChar, show c.val.toNat = v from hv.symm]
  rw [← hv] at hvalid
  by_cases hone : v ≤ 127
  · rw [if_pos hone, List.singleton_append, utf8After_single, toNat_ofNat (by omega), hc]
    rw [toNat_ofNat (by omega)]
    omega
  by_cases htwo : v ≤ 2047
  · have hb : (UInt8.ofNat (v / 64 % 32 + 192)).toNat = v / 64 % 32 + 192 :=
      toNat_ofNat (by omega)
    have hbits : (v / 64 % 32 + 192) % 32 * 64 + v % 64 = v := by omega
    rw [if_neg hone, if_pos htwo, List.cons_append, List.singleton_append,
      utf8After_leading (by omega) (leadingByte?_two (by omega) (by omega)), if_pos rfl,
      utf8After_last between_continuation, extend_continuation, hb, hbits, hc]
  by_cases hthree : v ≤ 65535
  · have hb : (UInt8.ofNat (v / 4096 % 16 + 224)).toNat = v / 4096 % 16 + 224 :=
      toNat_ofNat (by omega)
    obtain ⟨low, high, hleading, hsecond⟩ :=
      leadingByte?_three (v := v) (by omega) (by omega) hvalid (hb.trans (by omega))
    have hbits : ((v / 4096 % 16 + 224) % 16 * 64 + v / 64 % 64) * 64 + v % 64 = v := by omega
    simp only [if_neg hone, if_neg htwo, if_pos hthree, List.cons_append, List.nil_append]
    rw [utf8After_leading (by omega) hleading, utf8After_next hsecond,
      utf8After_last between_continuation, extend_continuation, extend_continuation, hb]
    simp only [Nat.reduceEqDiff, if_false, if_true, hbits, hc]
  · have hb : (UInt8.ofNat (v / 262144 % 8 + 240)).toNat = v / 262144 % 8 + 240 :=
      toNat_ofNat (by omega)
    obtain ⟨low, high, hleading, hsecond⟩ :=
      leadingByte?_four (v := v) (by omega) hvalid (hb.trans (by omega))
    have hbits : (((v / 262144 % 8 + 240) % 8 * 64 + v / 4096 % 64) * 64 + v / 64 % 64) * 64 +
        v % 64 = v := by omega
    simp only [if_neg hone, if_neg htwo, if_neg hthree, List.cons_append, List.nil_append]
    rw [utf8After_leading (by omega) hleading, utf8After_next hsecond,
      utf8After_next between_continuation, utf8After_last between_continuation,
      extend_continuation, extend_continuation, extend_continuation, hb]
    simp only [Nat.reduceEqDiff, if_false, hbits, hc]

end Utf8

/-! ## UTF-16 -/

section Utf16

variable {w : Nat} {ws : List Nat}

/-- A unit that is no surrogate stands for itself, whatever follows. -/
theorem utf16Units_plain (h : w < 0xd800 ∨ 0xe000 ≤ w) :
    utf16Units (w :: ws) = Char.ofNat w :: utf16Units ws := by
  cases ws with
  | nil => simp [utf16Units, h]
  | cons v ws => rw [utf16Units, if_pos h]

theorem utf16Units_pair {high low : Nat} (hhigh : high < 0x400) (hlow : low < 0x400) :
    utf16Units ((0xd800 + high) :: (0xdc00 + low) :: ws) =
      Char.ofNat (0x10000 + high * 0x400 + low) :: utf16Units ws := by
  rw [utf16Units, if_neg (by omega), if_pos (by omega), Nat.add_sub_cancel_left,
    Nat.add_sub_cancel_left]

theorem utf16Units_encode (c : Char) (ws : List Nat) :
    utf16Units (utf16Encode c ++ ws) = c :: utf16Units ws := by
  have hvalid := isValidChar_toNat c
  rw [utf16Encode]
  by_cases hplane : c.toNat < 0x10000
  · rw [if_pos hplane, List.singleton_append, utf16Units_plain (by omega), Char.ofNat_toNat]
  · have hcode : 0x10000 + (c.toNat - 0x10000) / 0x400 * 0x400 + (c.toNat - 0x10000) % 0x400 =
        c.toNat := by omega
    rw [if_neg hplane, List.cons_append, List.singleton_append,
      utf16Units_pair (by omega) (by omega), hcode, Char.ofNat_toNat]

/-- The units of characters have two bytes. -/
theorem utf16Encode_lt {c : Char} (h : w ∈ utf16Encode c) : w < 0x10000 := by
  have hvalid := isValidChar_toNat c
  rw [utf16Encode] at h
  split at h <;> simp at h <;> omega

theorem wordsBigEndian_encode (h : w < 0x10000) (rest : List UInt8) :
    wordsBigEndian (bigEndian w ++ rest) = w :: wordsBigEndian rest := by
  rw [bigEndian, List.cons_append, List.singleton_append, wordsBigEndian, toNat_ofNat (by omega),
    toNat_ofNat (by omega), Nat.div_add_mod']

theorem wordsLittleEndian_encode (h : w < 0x10000) (rest : List UInt8) :
    wordsLittleEndian (littleEndian w ++ rest) = w :: wordsLittleEndian rest := by
  rw [littleEndian, List.cons_append, List.singleton_append, wordsLittleEndian,
    toNat_ofNat (by omega), toNat_ofNat (by omega), Nat.div_add_mod']

end Utf16

/-! ## UTF-32 -/

theorem utf32Chars_encode (c : Char) (rest : List UInt8) :
    utf32Chars (utf32Encode c ++ rest) = c :: utf32Chars rest := by
  have hvalid := isValidChar_toNat c
  have hcode : ((c.toNat / 0x1000000 * 256 + c.toNat / 0x10000 % 256) * 256 +
      c.toNat / 0x100 % 256) * 256 + c.toNat % 256 = c.toNat := by omega
  rw [utf32Encode]
  simp only [List.cons_append, List.nil_append, utf32Chars]
  rw [toNat_ofNat (by omega), toNat_ofNat (by omega), toNat_ofNat (by omega),
    toNat_ofNat (by omega), hcode, codePoint, if_pos hvalid, Char.ofNat_toNat]

/-! ## Layouts -/

namespace Layout

variable {layout : Layout} {s : String}

theorem singleByte_encode (h : ∀ c ∈ s.toList, c.toNat < 0x100) :
    singleByte (s.toList.map fun c => .ofNat c.toNat) = s := by
  have hsame : ∀ c ∈ s.toList, Char.ofNat (UInt8.ofNat c.toNat).toNat = id c := by
    intro c hc
    rw [toNat_ofNat (h c hc), Char.ofNat_toNat, id]
  rw [singleByte, List.map_map]
  exact (congrArg String.ofList ((List.map_congr_left hsame).trans (List.map_id _))).trans
    String.ofList_toList

/-- What is decoded from the bytes of a text is the text. -/
theorem decode_encode (h : ∀ c ∈ s.toList, layout.Covers c) :
    layout.decode (layout.encode s) = s := by
  have hunits : ∀ w ∈ s.toList.flatMap utf16Encode, w < 0x10000 := by
    intro w hw
    obtain ⟨c, -, hw⟩ := List.mem_flatMap.1 hw
    exact utf16Encode_lt hw
  have hutf16 : utf16Units (s.toList.flatMap utf16Encode) = s.toList :=
    decode_flatMap rfl fun c _ => utf16Units_encode c
  cases layout with
  | utf8 =>
    have hbytes := toList_toUTF8 s.toList
    rw [String.ofList_toList] at hbytes
    rw [encode, decode, hbytes, Encoding.utf8, decode_flatMap rfl fun c _ => utf8After_encode c,
      String.ofList_toList]
  | utf16 =>
    rw [encode, decode, utf16BigEndian,
      decode_flatMap rfl fun w hw => wordsBigEndian_encode (hunits w hw), hutf16,
      String.ofList_toList]
  | utf16le =>
    rw [encode, decode, utf16LittleEndian,
      decode_flatMap rfl fun w hw => wordsLittleEndian_encode (hunits w hw), hutf16,
      String.ofList_toList]
  | utf32 =>
    rw [encode, decode, Encoding.utf32, decode_flatMap rfl fun c _ => utf32Chars_encode c,
      String.ofList_toList]
  | latin1 => exact singleByte_encode h
  | ascii => exact singleByte_encode fun c hc => Nat.lt_trans (h c hc) (by decide)

theorem decoder?_eq {charset : String} (h : charset ∈ layout.charsets) :
    decoder? charset = some layout.decode := by
  cases layout <;> simp only [charsets, List.mem_cons, List.not_mem_nil, or_false] at h
  case utf8 => obtain rfl | rfl | rfl := h <;> rfl
  case utf16 => obtain rfl | rfl := h <;> rfl
  all_goals subst h; rfl

end Layout

end SchemaTrail.Text.Encoding

namespace SchemaTrail.Column

open Text.Encoding

variable {c : Column} {size : StringSize} {charset : Option String} {layout : Layout}

theorem decode_of_isOf (h : layout.IsOf charset) (bytes : List UInt8) :
    c.decode charset bytes = .ok (layout.decode bytes) := by
  cases charset with
  | none =>
    obtain rfl : layout = .utf8 := h
    rfl
  | some charset =>
    rw [decode, Option.getD_some]
    simp only [Layout.decoder?_eq h]

/-- The charset of bytes that are no text has no layout. -/
theorem ne_binary_of_isOf (h : layout.IsOf charset) : charset ≠ some binaryCharset := by
  rintro rfl
  revert h
  cases layout <;> decide

theorem valueToJson_text (hkind : c.kind = .text size charset) (h : layout.IsOf charset)
    (bytes : List UInt8) :
    c.valueToJson (.bytes bytes) = .ok (.string (layout.decode bytes)) := by
  have hmeaning : c.interpret (.bytes bytes) = .ok (.text (layout.decode bytes)) := by
    simp only [interpret, hkind, if_neg (ne_binary_of_isOf h), decode_of_isOf h]
    rfl
  rw [valueToJson, hmeaning]
  rfl

/-- The bytes of a text in the layout of the charset of its column are written as the text.  There
are no bytes at all that these charsets refuse. -/
theorem valueToJson_encoded (c : Column) (size : StringSize) (charset : Option String)
    (layout : Layout) (hkind : c.kind = .text size charset) (h : layout.IsOf charset) :
    (∀ s : String, (∀ ch ∈ s.toList, layout.Covers ch) →
      c.valueToJson (.bytes (layout.encode s)) = .ok (.string s)) ∧
    ∀ bytes, ∃ s, c.valueToJson (.bytes bytes) = .ok (.string s) := by
  refine ⟨fun s hs => ?_, fun bytes => ⟨_, valueToJson_text hkind h bytes⟩⟩
  rw [valueToJson_text hkind h, Layout.decode_encode hs]

/-- The clef is beyond the first plane, so that it has two surrogates in UTF-16. -/
theorem valueToJson_encoded_surrogates :
    let title : Column := ⟨"title", .text .varying (some "Utf16LE"), 0⟩
    let note : Column := ⟨"note", .text .medium (some "LATIN1"), 1⟩
    title.valueToJson (.bytes [0x34, 0xd8, 0x1e, 0xdd, 0xff, 0xff]) = .ok (.string "𝄞\uffff") ∧
      note.valueToJson (.bytes [0x66, 0xff]) = .ok (.string "fÿ") := by
  intro title note
  have htitle := (valueToJson_encoded title .varying (some "Utf16LE") .utf16le rfl
    (by decide)).1 "𝄞\uffff" (fun _ _ => trivial)
  have hnote := (valueToJson_encoded note .medium (some "LATIN1") .latin1 rfl (by decide)).1
    "fÿ" (by simp [Layout.Covers])
  exact ⟨htitle, hnote⟩

end SchemaTrail.Column
