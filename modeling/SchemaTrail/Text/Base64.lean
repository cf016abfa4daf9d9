/-!
# Bytes in base 64

Three bytes are four digits of the alphabet `A`–`Z`, `a`–`z`, `0`–`9`, `+`, `/`; the last group is
filled up with `=`.
-/

namespace SchemaTrail.Text.Base64

/-- The digit of a value below sixty-four. -/
def digit (n : Nat) : Char :=
  if n < 26 then Char.ofNat (0x41 + n)
  else if n < 52 then Char.ofNat (0x61 + (n - 26))
  else if n < 62 then Char.ofNat (0x30 + (n - 52))
  else if n = 62 then '+' else '/'

/-- The digits of a sequence of bytes. -/
def encodeList : List UInt8 → List Char
  | [] => []
  | [a] =>
    let n := a.toNat * 16
    [digit (n / 64), digit (n % 64), '=', '=']
  | [a, b] =>
    let n := (a.toNat * 256 + b.toNat) * 4
    [digit (n / 4096), digit (n / 64 % 64), digit (n % 64), '=']
  | a :: b :: c :: rest =>
    let n := (a.toNat * 256 + b.toNat) * 256 + c.toNat
    digit (n / 262144) :: digit (n / 4096 % 64) :: digit (n / 64 % 64) :: digit (n % 64)
      :: encodeList rest

/-- The digits of a sequence of bytes. -/
def encode (bytes : List UInt8) : String :=
  String.ofList (encodeList bytes)

end SchemaTrail.Text.Base64
