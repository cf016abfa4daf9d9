/-!
# Decimal numerals

`readNat?` reads a sequence of digits.  `Numeral` is a signed number in decimal notation, with an
optional fraction and exponent, taken apart but not yet evaluated.
-/

namespace SchemaTrail.Decimal

/-- The value of a non-empty sequence of digits. -/
def readNat? (cs : List Char) : Option Nat :=
  if cs ≠ [] ∧ cs.all Char.isDigit then some (Nat.ofDigitChars 10 cs 0) else none

theorem readNat?_toDigits (n : Nat) : readNat? (Nat.toDigits 10 n) = some n := by
  have hall : ∀ c ∈ Nat.toDigits 10 n, c.isDigit = true := fun c hc =>
    Nat.isDigit_of_mem_toDigits (by decide) (by decide) hc
  rw [readNat?, if_pos ⟨Nat.toDigits_ne_nil, by simpa [List.all_eq_true] using hall⟩,
    Nat.ofDigitChars_ten_toDigits]

/-- The number `± whole.fraction × 10 ^ exponent`. -/
structure Numeral where
  negative : Bool
  whole : List Char
  fraction : List Char
  exponent : Int
  deriving DecidableEq, Repr

/-- Splits off a sign. -/
def takeSign : List Char → Bool × List Char
  | '-' :: rest => (true, rest)
  | '+' :: rest => (false, rest)
  | cs => (false, cs)

/-- Reads what may follow the digits of a numeral: nothing, or a mark and an exponent. -/
def readExponent? : List Char → Option Int
  | [] => some 0
  | mark :: rest =>
    if mark = 'e' ∨ mark = 'E' then
      let (negative, digits) := takeSign rest
      (readNat? digits).map fun n => if negative then -(n : Int) else n
    else none

/-- Reads a whole text as a numeral.  The point may stand at either end, but not alone. -/
def Numeral.read? (cs : List Char) : Option Numeral :=
  let (negative, unsigned) := takeSign cs
  let whole := unsigned.takeWhile Char.isDigit
  let afterWhole := unsigned.dropWhile Char.isDigit
  let (fraction, rest) := match afterWhole with
    | '.' :: tail => (tail.takeWhile Char.isDigit, tail.dropWhile Char.isDigit)
    | tail => ([], tail)
  if whole = [] ∧ fraction = [] then none
  else (readExponent? rest).map fun e => ⟨negative, whole, fraction, e⟩

end SchemaTrail.Decimal
