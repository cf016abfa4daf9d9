/-!
# Encodings of text

Decoders from bytes to text for the encodings of Unicode and for single bytes.  None of them fails:
bytes that stand for no character become the replacement character, and an incomplete unit at the
end is dropped, except in UTF-8, where it is replaced too.
-/

namespace SchemaTrail.Text.Encoding

/-- The character that takes the place of bytes which stand for none. -/
def replacement : Char := '\uFFFD'

/-! ## UTF-8 -/

/-- Whether a byte lies between two bounds. -/
def between (low high : Nat) (b : UInt8) : Bool :=
  low ≤ b.toNat && b.toNat ≤ high

/-- For the first byte of a character: how many bytes follow, and the bounds of the next one. -/
def leadingByte? (b : UInt8) : Option (Nat × Nat × Nat) :=
  if between 0xc2 0xdf b then some (1, 0x80, 0xbf)
  else if b.toNat = 0xe0 then some (2, 0xa0, 0xbf)
  else if b.toNat = 0xed then some (2, 0x80, 0x9f)
  else if between 0xe1 0xef b then some (2, 0x80, 0xbf)
  else if b.toNat = 0xf0 then some (3, 0x90, 0xbf)
  else if between 0xf1 0xf3 b then some (3, 0x80, 0xbf)
  else if b.toNat = 0xf4 then some (3, 0x80, 0x8f)
  else none

/-- The value with the six bits of a continuation byte appended. -/
def extend (value : Nat) (b : UInt8) : Nat :=
  value * 64 + b.toNat % 64

/-- Decodes UTF-8.  `value` is what has been read of a character that lacks `missing` bytes, the
next of them between `low` and `high`. -/
def utf8After (value missing low high : Nat) : List UInt8 → List Char
  | [] => if missing = 0 then [] else [replacement]
  | b :: rest =>
    if 0 < missing ∧ between low high b then
      if missing = 1 then Char.ofNat (extend value b) :: utf8After 0 0 0 0 rest
      else utf8After (extend value b) (missing - 1) 0x80 0xbf rest
    else
      let front := if missing = 0 then [] else [replacement]
      if b.toNat < 0x80 then front ++ Char.ofNat b.toNat :: utf8After 0 0 0 0 rest
      else match leadingByte? b with
        | some (n, low, high) =>
          let bits := if n = 1 then b.toNat % 32 else if n = 2 then b.toNat % 16 else b.toNat % 8
          front ++ utf8After bits n low high rest
        | none => front ++ replacement :: utf8After 0 0 0 0 rest

/-- Decodes UTF-8.  The longest part of a character that occurs is replaced as one. -/
def utf8 (bytes : List UInt8) : String :=
  String.ofList (utf8After 0 0 0 0 bytes)

/-! ## Single bytes -/

/-- Decodes bytes each of which is the code of a character. -/
def singleByte (bytes : List UInt8) : String :=
  String.ofList (bytes.map fun b => Char.ofNat b.toNat)

/-! ## UTF-16 -/

/-- The units of two bytes, the high byte first. -/
def wordsBigEndian : List UInt8 → List Nat
  | a :: b :: rest => (a.toNat * 256 + b.toNat) :: wordsBigEndian rest
  | _ => []

/-- The units of two bytes, the low byte first. -/
def wordsLittleEndian : List UInt8 → List Nat
  | a :: b :: rest => (b.toNat * 256 + a.toNat) :: wordsLittleEndian rest
  | _ => []

/-- Decodes UTF-16.  A surrogate without its counterpart is replaced. -/
def utf16Units : List Nat → List Char
  | [] => []
  | [w] => [if w < 0xd800 ∨ 0xe000 ≤ w then Char.ofNat w else replacement]
  | w :: v :: rest =>
    if w < 0xd800 ∨ 0xe000 ≤ w then Char.ofNat w :: utf16Units (v :: rest)
    else if w < 0xdc00 ∧ 0xdc00 ≤ v ∧ v < 0xe000 then
      Char.ofNat (0x10000 + (w - 0xd800) * 0x400 + (v - 0xdc00)) :: utf16Units rest
    else replacement :: utf16Units (v :: rest)

/-- Decodes UTF-16 with the high byte of a unit first. -/
def utf16BigEndian (bytes : List UInt8) : String :=
  String.ofList (utf16Units (wordsBigEndian bytes))

/-- Decodes UTF-16 with the low byte of a unit first. -/
def utf16LittleEndian (bytes : List UInt8) : String :=
  String.ofList (utf16Units (wordsLittleEndian bytes))

/-! ## UTF-32 -/

/-- The character of a code point, replaced if there is none. -/
def codePoint (n : Nat) : Char :=
  if n.isValidChar then Char.ofNat n else replacement

/-- Decodes units of four bytes, the highest first. -/
def utf32Chars : List UInt8 → List Char
  | a :: b :: c :: d :: rest =>
    codePoint (((a.toNat * 256 + b.toNat) * 256 + c.toNat) * 256 + d.toNat) :: utf32Chars rest
  | _ => []

/-- Decodes UTF-32 with the highest byte of a unit first. -/
def utf32 (bytes : List UInt8) : String :=
  String.ofList (utf32Chars bytes)

end SchemaTrail.Text.Encoding
