import SchemaTrail.Decimal.Layout
import SchemaTrail.Json.Lexer
import SchemaTrail.Json.Printer

/-!
# Numbers as they are passed on

A number of a JSON text is passed on as it is if it is an integer of 64 bits.  Any other becomes a
floating-point number by a quick computation: its digits are collected as long as they fit into 64
bits, and the rounded result is scaled by a rounded power of ten.  `Json.normalize?` does this to
all numbers of a value and puts the fields of objects in order.
-/

namespace SchemaTrail.Json

open Decimal (Binary Format Numeral)

/-- Floating-point numbers have at least one place, and an exponent from `10 ^ 16` on and below
`10 ^ -5`. -/
def floatLayout : Decimal.Layout :=
  ⟨fun e => -5 ≤ e && e < 16, true, true, .toEven⟩

/-! ## Collecting digits -/

/-- Digits collected so far: their value, the power of ten it is to be multiplied by, and whether no
further digit fits. -/
structure Collected where
  significand : Nat
  exponent : Int
  full : Bool

/-- Takes a digit before the point.  From the first that does not fit, digits only count. -/
def Collected.takeWhole (d : Collected) (c : Char) : Collected :=
  let next := d.significand * 10 + (c.toNat - 0x30)
  if !d.full && next < Nat.pow 2 64 then { d with significand := next }
  else { d with exponent := d.exponent + 1, full := true }

/-- Takes a digit after the point.  From the first that does not fit, digits are left out. -/
def Collected.takeFraction (d : Collected) (c : Char) : Collected :=
  let next := d.significand * 10 + (c.toNat - 0x30)
  if !d.full && next < Nat.pow 2 64 then
    { d with significand := next, exponent := d.exponent - 1 }
  else { d with full := true }

/-- The digits of a numeral. -/
def collect (x : Numeral) : Collected :=
  let whole := x.whole.foldl Collected.takeWhole ⟨0, 0, false⟩
  x.fraction.foldl Collected.takeFraction { whole with full := false }

/-! ## Scaling -/

/-- A power of ten, rounded. -/
def powerOfTen (e : Nat) : Binary :=
  Format.double.ofDecimal false 1 e

/-- Multiplies by a power of ten, in steps that the format can hold.  Nothing if the result is too
large. -/
def scaleByTen (x : Binary) (e : Int) : Option Binary :=
  if e < -308 then
    if x.isZero then some x else scaleByTen (Format.double.div x (powerOfTen 308)) (e + 308)
  else if e < 0 then some (Format.double.div x (powerOfTen e.natAbs))
  else if e ≤ 308 then
    let product := Format.double.mul x (powerOfTen e.natAbs)
    if product.isFinite then some product else none
  else if x.isZero then some x else none
termination_by e.natAbs
decreasing_by omega

/-- The greatest exponent that can be written. -/
def exponentLimit : Nat := 2147483647

/-- The floating-point number that a numeral becomes.  Nothing if it is too large. -/
def approximate? (x : Numeral) : Option Binary :=
  let d := collect x
  let zero := Format.double.ofDecimal false 0 0
  let magnitude :=
    if exponentLimit < x.exponent.natAbs then
      if d.significand = 0 ∨ x.exponent < 0 then some zero else none
    else scaleByTen (Format.double.ofDecimal false d.significand 0) (d.exponent + x.exponent)
  magnitude.map fun
    | .finite _ m e => .finite x.negative m e
    | other => other

/-! ## Values -/

/-- The number that is passed on for one that is written. -/
def normalizeNumber? (literal : String) : Option Json :=
  let whole := (Json.number literal).intBetween? (-Nat.pow 2 63) (Nat.pow 2 64 - 1)
  if whole.isSome then some (.number literal)
  else do
    let x ← Numeral.read? literal.toList
    let approximation ← approximate? x
    return .number (floatLayout.write .double approximation)

/-- The number that a text consists of. -/
def ofNumeral? (text : String) : Option Json :=
  match Token.number? text.toList with
  | some (_, []) => normalizeNumber? text
  | _ => none

mutual

/-- The value with its numbers as they are passed on. -/
def normalizeNumbers? : Json → Option Json
  | .number literal => normalizeNumber? literal
  | .array items => (normalizeItems? items).map .array
  | .object fields => (normalizeFields? fields).map .object
  | .flawed => none
  | j => some j

/-- The items with their numbers as they are passed on. -/
def normalizeItems? : List Json → Option (List Json)
  | [] => some []
  | x :: xs => do return (← normalizeNumbers? x) :: (← normalizeItems? xs)

/-- The fields with their numbers as they are passed on. -/
def normalizeFields? : List (String × Json) → Option (List (String × Json))
  | [] => some []
  | (k, v) :: fs => do return (k, ← normalizeNumbers? v) :: (← normalizeFields? fs)

end

/-- The value with its numbers as they are passed on and the fields of objects in order. -/
def normalize? (j : Json) : Option Json :=
  (normalizeNumbers? j).map sortKeys

end SchemaTrail.Json
