import SchemaTrail.Ledger.Entry
import SchemaTrail.Ledger.Error
import SchemaTrail.Text.Lines

/-!
# Ledgers

A `Ledger` is a text with an entry in every line, in the order of their positions.  It only grows,
at its end, and `Ledger.replay` gives the schema at any of its positions without reading the
statements again.
-/

namespace SchemaTrail

/-- A ledger. -/
structure Ledger where
  /-- The text of the ledger. -/
  text : String
  /-- The entries that the lines of the text hold. -/
  entries : List Entry
  deriving DecidableEq, Repr

namespace Ledger

/-- The ledger without entries. -/
def empty : Ledger := ⟨"", []⟩

/-- The position of the last entry. -/
def last? (l : Ledger) : Option Position :=
  l.entries.getLast?.map Entry.position

/-! ## Reading -/

/-- Checks that the entry in line `number` comes after the one before it. -/
def checkOrder (number : Nat) (previous : Option Position) (e : Entry) : Except LedgerError Unit :=
  match previous with
  | none => .ok ()
  | some p =>
    if p.before e.position then .ok () else .error (.line number (.outOfOrder e.position p))

/-- The entries of lines, of which the first has the given number.  Blank lines are passed over. -/
def readLines (number : Nat) (previous : Option Position) :
    List String → Except LedgerError (List Entry)
  | [] => .ok []
  | line :: rest =>
    if Text.isBlankLine line then readLines (number + 1) previous rest
    else match Entry.ofLine? line with
      | none => .error (.line number .unreadable)
      | some e => do
        checkOrder number previous e
        return e :: (← readLines (number + 1) (some e.position) rest)

/-- Reads a ledger. -/
def ofText (text : String) : Except LedgerError Ledger :=
  (readLines 1 none (Text.lines text)).map fun entries => ⟨text, entries⟩

/-! ## Extending -/

/-- Checks that a position comes after all entries. -/
def check (l : Ledger) (position : Position) : Except LedgerError Unit :=
  match l.last? with
  | none => .ok ()
  | some p => if p.before position then .ok () else .error (.notAfter position p)

/-- The ledger with one more entry, which has to come after all others. -/
def append (l : Ledger) (e : Entry) : Except LedgerError Ledger := do
  l.check e.position
  return ⟨l.text ++ e.line, l.entries ++ [e]⟩

/-! ## Replaying -/

/-- The entries up to a position and with it, all of them if there is none. -/
def entriesUntil (l : Ledger) : Option Position → List Entry
  | none => l.entries
  | some p => l.entries.takeWhile fun e => !p.before e.position

/-- The schema after the entries up to a position, if `base` is that before all entries. -/
def replay (l : Ledger) (base : Schema) (last : Option Position) : Except InvariantError Schema :=
  base.applyAll ((l.entriesUntil last).flatMap Entry.changes)

end Ledger

end SchemaTrail
