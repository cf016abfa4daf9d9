import SchemaTrail.Decimal.Numeral
import SchemaTrail.Json.Value
import SchemaTrail.Text.Split

/-!
# Positions in the log

A position is a byte offset in a file of the log.  Files that are numbered after a common base name
are in the order of their numbers, however many zeros these begin with.
-/

namespace SchemaTrail

/-- A position in the log. -/
structure Position where
  file : String
  offset : Nat
  deriving DecidableEq, Repr

namespace Position

/-- The position as a text. -/
def text (p : Position) : String :=
  p.file ++ ":" ++ toString p.offset

/-- Reads a number of 64 bits that may have a plus sign. -/
def readOffset? (s : String) : Option Nat :=
  let digits := match s.toList with
    | '+' :: rest => rest
    | cs => cs
  (Decimal.readNat? digits).filter (· < Nat.pow 2 64)

/-- Reads a position: a file, which has a name, and an offset after the last colon. -/
def ofText? (s : String) : Option Position := do
  let (file, offset) ← Text.splitLast? ':' s
  let offset ← readOffset? offset
  if file = "" then none else return ⟨file, offset⟩

/-- The base name of the file and the number after its last point.  A file without such a number of
64 bits is its own base. -/
def sequence (p : Position) : String × Option Nat :=
  match Text.splitLast? '.' p.file with
  | none => (p.file, none)
  | some (base, number) =>
    match (Decimal.readNat? number.toList).filter (· < Nat.pow 2 64) with
    | some n => (base, some n)
    | none => (p.file, none)

/-- Compares two positions: by base name, by number, by file name and by offset. -/
def compare (p q : Position) : Ordering :=
  (Ord.compare p.sequence.1 q.sequence.1).then <|
    (Ord.compare p.sequence.2 q.sequence.2).then <|
      (Ord.compare p.file q.file).then (Ord.compare p.offset q.offset)

/-- Whether `p` comes before `q`. -/
def before (p q : Position) : Bool :=
  p.compare q = .lt

/-- The position in JSON. -/
def toJson (p : Position) : Json :=
  .string p.text

/-- Reads a position. -/
def ofJson? (j : Json) : Option Position :=
  j.string?.bind ofText?

end Position

end SchemaTrail
