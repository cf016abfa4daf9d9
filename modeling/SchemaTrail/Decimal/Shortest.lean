import SchemaTrail.Decimal.Binary

/-!
# Shortest decimal digits

`Format.shortest` finds, for a finite number of a format, the fewest decimal digits that are read
back as that number, and of those the nearest to it.  The numbers that are read back as
`m × 2 ^ e` form an interval around it; for one digit, two digits and so on, the two neighbours of
the number on the grid of that many digits are compared with the ends of the interval.
-/

namespace SchemaTrail.Decimal

/-- Which of two equally near decimals is taken. -/
inductive Tie where
  | up
  | toEven
  deriving DecidableEq, Repr

/-- The number `coefficient × 10 ^ exponent`. -/
structure Digits where
  coefficient : Nat
  exponent : Int
  deriving DecidableEq, Repr

/-- The interval of reals that round to `m × 2 ^ e`, measured on the grid `10 ^ k`: a point `c` of
the grid stands for `c * unit`, the number itself for `value`. -/
structure Interval where
  unit : Nat
  low : Nat
  value : Nat
  high : Nat
  closed : Bool

/-- The interval around `m × 2 ^ e` on the grid `10 ^ k`.  Below a power of two the neighbours are
twice as close. -/
def Format.interval (f : Format) (m : Nat) (e k : Int) : Interval :=
  let unit := 4 * Nat.pow 10 k.toNat * Nat.pow 2 (-e).toNat
  let quarter := Nat.pow 2 e.toNat * Nat.pow 10 (-k).toNat
  let below := if m = Nat.pow 2 (f.precision - 1) ∧ f.leastExponent < e then 1 else 2
  ⟨unit, (4 * m - below) * quarter, 4 * m * quarter, (4 * m + 2) * quarter, m % 2 = 0⟩

/-- Whether a point of the grid lies in the interval. -/
def Interval.contains (i : Interval) (c : Nat) : Bool :=
  if i.closed then i.low ≤ c * i.unit && c * i.unit ≤ i.high
  else i.low < c * i.unit && c * i.unit < i.high

/-- The neighbour of the value on the grid that lies in the interval, the nearer one if both do. -/
def Interval.nearest? (i : Interval) (tie : Tie) : Option Nat :=
  let c := i.value / i.unit
  let below := i.value - c * i.unit
  let above := (c + 1) * i.unit - i.value
  match i.contains c, i.contains (c + 1) with
  | false, false => none
  | true, false => some c
  | false, true => some (c + 1)
  | true, true =>
    if below < above then some c
    else if above < below then some (c + 1)
    else match tie with
      | .up => some (c + 1)
      | .toEven => if c % 2 = 0 then some c else some (c + 1)

/-- The number of digits before the decimal point of `m × 2 ^ e`; not positive for a number whose
first digit comes after it. -/
def magnitude (m : Nat) (e : Int) : Int :=
  let guess := ((m.log2 : Int) + e) * 30103 / 100000 - 1
  let fits (k : Int) : Bool :=
    m * Nat.pow 2 e.toNat * Nat.pow 10 (-k).toNat < Nat.pow 10 k.toNat * Nat.pow 2 (-e).toNat
  (([0, 1, 2, 3].map (guess + ·)).find? fits).getD (guess + 4)

/-- The fewest digits that are read back as `m × 2 ^ e`. -/
def Format.shortest (f : Format) (tie : Tie) (m : Nat) (e : Int) : Digits :=
  let size := magnitude m e
  let onGrid (n : Nat) : Option Digits :=
    let k := size - (n + 1)
    ((f.interval m e k).nearest? tie).map fun c => ⟨c, k⟩
  ((List.range 17).findSome? onGrid).getD ⟨m, e⟩

end SchemaTrail.Decimal
