import SchemaTrail.Decimal.Shortest

/-!
# Layout of decimal numbers

A `Layout` says how the digits of a number are written: where positional notation ends, whether a
whole number keeps a point and a zero, and how an exponent is marked.
-/

namespace SchemaTrail.Decimal

/-- How a number is written. -/
structure Layout where
  /-- Whether a number whose first digit has weight `10 ^ e` is written positionally. -/
  positional : Int → Bool
  /-- Whether a whole number in positional notation ends in `.0`. -/
  pointZero : Bool
  /-- Whether a positive exponent has a sign. -/
  plusSign : Bool
  /-- Which of two equally near decimals is written. -/
  tie : Tie

/-- Digits without an exponent, the point after the first `point` of them. -/
def positionalDigits (pointZero : Bool) (digits : List Char) (point : Int) : List Char :=
  if point ≤ 0 then ['0', '.'] ++ List.replicate (-point).toNat '0' ++ digits
  else if digits.length ≤ point.toNat then
    digits ++ List.replicate (point.toNat - digits.length) '0' ++
      (if pointZero then ['.', '0'] else [])
  else digits.take point.toNat ++ ['.'] ++ digits.drop point.toNat

/-- Digits with the point after the first of them and an exponent. -/
def scientificDigits (plusSign : Bool) (digits : List Char) (exponent : Int) : List Char :=
  let sign := if exponent < 0 then ['-'] else if plusSign then ['+'] else []
  digits.take 1 ++ (if digits.length ≤ 1 then [] else '.' :: digits.drop 1) ++ ['e'] ++ sign ++
    Nat.toDigits 10 exponent.natAbs

/-- The text of a number of the format. -/
def Layout.write (l : Layout) (f : Format) : Binary → String
  | .notANumber => "NaN"
  | .infinite negative => if negative then "-inf" else "inf"
  | .finite negative m e =>
    let sign := if negative then ['-'] else []
    let body :=
      if m = 0 then if l.pointZero then ['0', '.', '0'] else ['0']
      else
        let shortest := f.shortest l.tie m e
        let all := Nat.toDigits 10 shortest.coefficient
        let digits := (all.reverse.dropWhile (· = '0')).reverse
        let point := all.length + shortest.exponent
        if l.positional (point - 1) then positionalDigits l.pointZero digits point
        else scientificDigits l.plusSign digits (point - 1)
    String.ofList (sign ++ body)

end SchemaTrail.Decimal
