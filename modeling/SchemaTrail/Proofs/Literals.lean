import SchemaTrail.Proofs.CapturedTypes

/-!
# Literals that are written

A value is written so that the lexer reads it back: the literal of a text is one token with this
text, whatever characters it consists of, and the literal of bytes is one token with these bytes.
Nothing follows but the end of the statement (`Column.tokenize_valueToSql`).
-/

namespace SchemaTrail

/-! ## Bytes -/

namespace Text

theorem toList_loop (bytes : ByteArray) (i : Nat) (front : List UInt8) :
    ByteArray.toList.loop bytes i front = front.reverse ++ bytes.data.toList.drop i := by
  fun_induction ByteArray.toList.loop bytes i front with
  | case1 i front hi ih =>
    have hlength : i < bytes.data.toList.length := by simpa using hi
    have hget : bytes.get! i = bytes.data.toList[i] := by
      simp [ByteArray.get!, getElem!_pos, hi]
    rw [ih, List.reverse_cons, List.append_assoc, hget, List.singleton_append,
      List.getElem_cons_drop]
  | case2 i front hi =>
    have hlength : bytes.data.toList.length ≤ i := by simpa using hi
    rw [List.drop_eq_nil_of_le hlength, List.append_nil]

/-- The bytes of a text are those of its characters. -/
theorem toList_toUTF8 (cs : List Char) :
    (String.ofList cs).toUTF8.toList = cs.flatMap String.utf8EncodeChar := by
  show ByteArray.toList.loop _ 0 [] = _
  rw [toList_loop]
  simp [String.toUTF8, List.utf8Encode]

namespace Hex

/-- The bytes of a digit are one byte, which is read as the digit. -/
theorem map_digitValue?_digit :
    ∀ n < 16, (String.utf8EncodeChar (digit n)).map digitValue? = [some n] := by
  decide

theorem digit_ne_quote : ∀ n < 16, digit n ≠ '\'' := by
  decide

theorem exists_encodeByte (b : UInt8) :
    ∃ high low, (encodeByte b).flatMap String.utf8EncodeChar = [high, low] ∧
      digitValue? high = some (b.toNat / 16) ∧ digitValue? low = some (b.toNat % 16) := by
  have hb := b.toNat_lt
  obtain ⟨high, hhigh, hhighValue⟩ :=
    List.map_eq_singleton_iff.1 (map_digitValue?_digit (b.toNat / 16) (by omega))
  obtain ⟨low, hlow, hlowValue⟩ :=
    List.map_eq_singleton_iff.1 (map_digitValue?_digit (b.toNat % 16) (by omega))
  exact ⟨high, low, by simp [encodeByte, hhigh, hlow], hhighValue, hlowValue⟩

/-- The digits that are written for bytes are read as these bytes. -/
theorem decodePairs_encode (index : Nat) (bytes : List UInt8) :
    decodePairs index ((bytes.flatMap encodeByte).flatMap String.utf8EncodeChar) = .ok bytes := by
  induction bytes generalizing index with
  | nil => rfl
  | cons b bytes ih =>
    obtain ⟨high, low, hbytes, hhigh, hlow⟩ := exists_encodeByte b
    have hb : UInt8.ofNat (b.toNat / 16 * 16 + b.toNat % 16) = b := by
      rw [Nat.div_add_mod']
      exact UInt8.ofNat_toNat
    rw [List.flatMap_cons, List.flatMap_append, hbytes]
    simp only [List.cons_append, List.nil_append, decodePairs, hhigh, hlow, ih, hb]
    rfl

theorem length_encode (bytes : List UInt8) :
    ((bytes.flatMap encodeByte).flatMap String.utf8EncodeChar).length = 2 * bytes.length := by
  induction bytes with
  | nil => rfl
  | cons b bytes ih =>
    obtain ⟨high, low, hbytes, -, -⟩ := exists_encodeByte b
    rw [List.flatMap_cons, List.flatMap_append, hbytes, List.length_append, ih, List.length_cons]
    simp
    omega

theorem decode_encode (bytes : List UInt8) : decode (encode bytes) = .ok bytes := by
  rw [decode, encode, toList_toUTF8, decodePairs_encode, if_neg]
  rw [length_encode]
  omega

theorem quote_not_mem_encode (bytes : List UInt8) : '\'' ∉ (encode bytes).toList := by
  rw [encode, String.toList_ofList, List.mem_flatMap]
  rintro ⟨b, -, hb⟩
  have hbyte := b.toNat_lt
  simp only [encodeByte, List.mem_cons, List.not_mem_nil, or_false] at hb
  rcases hb with hb | hb
  · exact digit_ne_quote _ (by omega) hb.symm
  · exact digit_ne_quote _ (by omega) hb.symm

end Hex

end Text

/-! ## Tokens -/

namespace Token

theorem scan_sqlText (s : String) :
    scan '\'' (s.toList.flatMap sqlChar ++ ['\'']) = (.string s, []) := by
  have hbody : stringBody? '\'' (s.toList.flatMap sqlChar ++ ['\'']) = some (s.toList, []) :=
    stringBody?_flatMap_sqlChar s.toList (by simp)
  simp [scan, scanString, hbody]

theorem scanHex_encode (bytes : List UInt8) :
    scanHex ((Text.Hex.encode bytes).toList ++ ['\'']) = (.hexLiteral bytes, []) := by
  have hdigits : ∀ c ∈ (Text.Hex.encode bytes).toList, decide (c ≠ '\'') = true := fun c hc =>
    decide_eq_true fun heq => Text.Hex.quote_not_mem_encode bytes (heq ▸ hc)
  rw [scanHex, List.dropWhile_append_of_pos hdigits, List.takeWhile_append_of_pos hdigits]
  simp [hexKind, Text.Hex.decode_encode]

theorem scan_encode (bytes : List UInt8) :
    scan 'x' ('\'' :: ((Text.Hex.encode bytes).toList ++ ['\''])) = (.hexLiteral bytes, []) := by
  simpa [scan] using scanHex_encode bytes

end Token

/-! ## Values -/

/-- The token of a meaning that is written as a text or as bytes. -/
def Meaning.literal? : Meaning → Option Token.Kind
  | .text s | .document s => some (.string s)
  | .members ms => some (.string (",".intercalate ms))
  | .bytes b => some (.hexLiteral b)
  | .null | .integer _ | .number _ => none

/-- The two tokens of a statement that is one token from its first byte to its last. -/
def Token.whole (k : Token.Kind) (statement : String) : List Token :=
  let size := Token.byteSize statement.toList
  [⟨k, ⟨0, size⟩, statement⟩, ⟨.eof, ⟨size, size⟩, ""⟩]

theorem Meaning.tokenize_toSql {m : Meaning} {k : Token.Kind} (h : m.literal? = some k) :
    Token.tokenize m.toSql = Token.whole k m.toSql := by
  have htext (s : String) : Token.tokenize (sqlText s) = Token.whole (.string s) (sqlText s) := by
    rw [sqlText, List.cons_append,
      Token.tokenize_of_scan (by decide) (by decide) (Token.scan_sqlText s)]
    simp [Token.whole]
  have hbytes (b : List UInt8) : "x'" ++ Text.Hex.encode b ++ "'" =
      String.ofList ('x' :: '\'' :: ((Text.Hex.encode b).toList ++ ['\''])) := by
    rw [← String.toList_inj]
    simp
  cases m with
  | null | integer _ | number _ => cases h
  | text s | document s => cases h; exact htext s
  | members ms => cases h; exact htext _
  | bytes b =>
    cases h
    rw [toSql, hbytes, Token.tokenize_of_scan (by decide) (by decide) (Token.scan_encode b)]
    simp [Token.whole]

/-- The literal of a value that is a text or bytes is one token, from its first byte to its last,
with this text or these bytes. -/
theorem Column.tokenize_valueToSql {c : Column} {v : Value} {m : Meaning} {k : Token.Kind}
    (hm : c.interpret v = .ok m) (hk : m.literal? = some k) :
    ∃ sql, c.valueToSql v = .ok sql ∧ Token.tokenize sql = Token.whole k sql :=
  ⟨m.toSql, by rw [valueToSql, hm]; rfl, Meaning.tokenize_toSql hk⟩

/-- A text with quotes, escapes, the opener of a comment and a character of two bytes, the members
of a set with a comma, and bytes. -/
theorem Column.tokenize_valueToSql_escapes :
    let latin1 : Column := ⟨"c", .text .varying (some "latin1"), 0⟩
    let set : Column := ⟨"c", .set ["a'", "b,", "c"], 0⟩
    let binary : Column := ⟨"c", .bytes .regular, 0⟩
    (∃ sql, latin1.valueToSql (.bytes [0x27, 0x5C, 0x25, 0x5C, 0, 0x1A, 0x2F, 0x2A, 0xE9, 0x5C]) =
      .ok sql ∧ Token.tokenize sql = Token.whole (.string "'\\%\\\x00\x1a/*é\\") sql) ∧
    (∃ sql, set.valueToSql (.integer 3) = .ok sql ∧
      Token.tokenize sql = Token.whole (.string "a',b,") sql) ∧
    (∃ sql, binary.valueToSql (.bytes [0xDE, 0xAD]) = .ok sql ∧
      Token.tokenize sql = Token.whole (.hexLiteral [0xDE, 0xAD]) sql) :=
  ⟨tokenize_valueToSql rfl rfl, tokenize_valueToSql rfl rfl, tokenize_valueToSql rfl rfl⟩

end SchemaTrail
