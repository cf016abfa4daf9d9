import SchemaTrail.Decimal.Numeral

/-!
# Binary floating-point numbers

A `Binary` is a number of a floating-point format: a significand times a power of two, an infinity
or not a number.  `Format.round` takes a ratio of naturals to the nearest number of a format, half
way to the even one; reading a numeral, multiplying and dividing are roundings of the exact result.
-/

namespace SchemaTrail.Decimal

/-- A format: the number of significant bits and the least and greatest exponent of the last one. -/
structure Format where
  precision : Nat
  leastExponent : Int
  greatestExponent : Int

/-- The format of 64 bits. -/
def Format.double : Format := ⟨53, -1074, 971⟩

/-- The format of 32 bits. -/
def Format.single : Format := ⟨24, -149, 104⟩

/-- A floating-point number; a finite one is `± significand × 2 ^ exponent`. -/
inductive Binary where
  | notANumber
  | infinite (negative : Bool)
  | finite (negative : Bool) (significand : Nat) (exponent : Int)
  deriving DecidableEq, Repr

/-- Whether the number is finite. -/
def Binary.isFinite : Binary → Bool
  | .finite .. => true
  | _ => false

/-- Whether the number is a zero. -/
def Binary.isZero : Binary → Bool
  | .finite _ m _ => m = 0
  | _ => false

/-! ## Rounding -/

/-- The ratio `num / (den × 2 ^ e)`, as a pair of naturals. -/
def scaleDown (num den : Nat) (e : Int) : Nat × Nat :=
  (num * Nat.pow 2 (-e).toNat, den * Nat.pow 2 e.toNat)

/-- The natural nearest to `num / den`, and the even one of two. -/
def roundHalfEven (num den : Nat) : Nat :=
  let q := num / den
  let r := num % den
  if den < 2 * r ∨ (2 * r = den ∧ q % 2 = 1) then q + 1 else q

/-- The number of the format nearest to `± num / den`. -/
def Format.round (f : Format) (negative : Bool) (num den : Nat) : Binary :=
  if num = 0 then .finite negative 0 f.leastExponent
  else
    let guess := max f.leastExponent ((num.log2 : Int) - den.log2 - f.precision)
    let (n, d) := scaleDown num den guess
    let e := if n / d < Nat.pow 2 f.precision then guess else guess + 1
    let (n, d) := scaleDown num den e
    let m := roundHalfEven n d
    let (m, e) := if m = Nat.pow 2 f.precision then (m / 2, e + 1) else (m, e)
    if f.greatestExponent < e then .infinite negative else .finite negative m e

/-- The number of the format nearest to `± n × 10 ^ e`.  What is far beyond the range of every
format is not computed. -/
def Format.ofDecimal (f : Format) (negative : Bool) (n : Nat) (e : Int) : Binary :=
  if n = 0 then .finite negative 0 f.leastExponent
  else
    let size := ((Nat.toDigits 10 n).length : Int) + e
    if 400 < size then .infinite negative
    else if size < -400 then .finite negative 0 f.leastExponent
    else f.round negative (n * Nat.pow 10 e.toNat) (Nat.pow 10 (-e).toNat)

/-- The number of the format nearest to a numeral. -/
def Format.ofNumeral (f : Format) (x : Numeral) : Binary :=
  f.ofDecimal x.negative (Nat.ofDigitChars 10 (x.whole ++ x.fraction) 0)
    (x.exponent - x.fraction.length)

/-- Reads a numeral, or the name of an infinity or of not-a-number in any letter case. -/
def Format.read? (f : Format) (text : String) : Option Binary :=
  let (negative, unsigned) := takeSign text.toList
  let name := String.ofList (unsigned.map Char.toLower)
  if name = "inf" ∨ name = "infinity" then some (.infinite negative)
  else if name = "nan" then some .notANumber
  else (Numeral.read? text.toList).map f.ofNumeral

/-! ## Arithmetic -/

/-- The rounded product of two finite numbers. -/
def Format.mul (f : Format) : Binary → Binary → Binary
  | .finite s m e, .finite t n d =>
    let k := e + d
    f.round (s != t) (m * n * Nat.pow 2 k.toNat) (Nat.pow 2 (-k).toNat)
  | _, _ => .notANumber

/-- The rounded quotient of two finite numbers, the second not zero. -/
def Format.div (f : Format) : Binary → Binary → Binary
  | .finite s m e, .finite t n d =>
    let k := e - d
    if n = 0 then .notANumber
    else f.round (s != t) (m * Nat.pow 2 k.toNat) (n * Nat.pow 2 (-k).toNat)
  | _, _ => .notANumber

end SchemaTrail.Decimal
