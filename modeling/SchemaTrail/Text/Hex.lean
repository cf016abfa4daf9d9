/-!
# Bytes as hexadecimal digits

`Hex.encode` writes two lower-case digits for every byte, `Hex.decode` reads digits of either case
and says where it fails.
-/

namespace SchemaTrail.Text.Hex

/-- Why a text is not a sequence of bytes. -/
inductive Fault where
  /-- The number of digits is odd. -/
  | oddLength
  /-- The byte `value` at byte offset `index` is not a digit. -/
  | notADigit (value : UInt8) (index : Nat)
  deriving DecidableEq, Repr

/-- The digit of a value below sixteen. -/
def digit (n : Nat) : Char :=
  if n < 10 then Char.ofNat (0x30 + n) else Char.ofNat (0x57 + n)

/-- The value of a digit. -/
def digitValue? (b : UInt8) : Option Nat :=
  let n := b.toNat
  if 0x30 ≤ n ∧ n ≤ 0x39 then some (n - 0x30)
  else if 0x41 ≤ n ∧ n ≤ 0x46 then some (n - 0x37)
  else if 0x61 ≤ n ∧ n ≤ 0x66 then some (n - 0x57)
  else none

/-- The digits of a byte, the high one first. -/
def encodeByte (b : UInt8) : List Char :=
  [digit (b.toNat / 16), digit (b.toNat % 16)]

/-- The digits of a sequence of bytes. -/
def encode (bytes : List UInt8) : String :=
  String.ofList (bytes.flatMap encodeByte)

/-- Reads pairs of digits, the first of which stands at offset `index`. -/
def decodePairs (index : Nat) : List UInt8 → Except Fault (List UInt8)
  | [] => .ok []
  | [_] => .error .oddLength
  | a :: b :: rest =>
    match digitValue? a, digitValue? b with
    | none, _ => .error (.notADigit a index)
    | some _, none => .error (.notADigit b (index + 1))
    | some high, some low =>
      (decodePairs (index + 2) rest).map (UInt8.ofNat (high * 16 + low) :: ·)

/-- The bytes that a text of digits stands for.  An odd number of digits is found before a wrong
digit. -/
def decode (digits : String) : Except Fault (List UInt8) :=
  let bytes := digits.toUTF8.toList
  if bytes.length % 2 = 1 then .error .oddLength else decodePairs 0 bytes

end SchemaTrail.Text.Hex
