import SchemaTrail.Ledger.Position
import SchemaTrail.Tracker.Error

/-!
# Errors of ledgers

The causes for which a position, a ledger or a statement to be recorded is refused.
-/

namespace SchemaTrail

/-- What is wrong with a line of a ledger. -/
inductive LineFault where
  /-- The line holds no entry. -/
  | unreadable
  /-- The position does not come after that of the entry before. -/
  | outOfOrder (position previous : Position)
  deriving DecidableEq, Repr

/-- An error in reading or extending a ledger. -/
inductive LedgerError where
  /-- A text is not a position. -/
  | malformedPosition (text : String)
  /-- A position does not come after the last one that is recorded. -/
  | notAfter (position previous : Position)
  /-- A line of a ledger is at fault, counted from one. -/
  | line (number : Nat) (fault : LineFault)
  /-- A recorded change does not fit the schema. -/
  | invariant (error : InvariantError)
  /-- A statement could not be followed. -/
  | statement (error : StatementError)
  deriving DecidableEq, Repr

/-- That a position does not come after another. -/
def notAfterText (position previous : Position) : String :=
  position.text ++ " does not follow " ++ previous.text

/-- The message of a fault. -/
def LineFault.message : LineFault → String
  | .unreadable => "the line holds no entry"
  | .outOfOrder position previous => "position " ++ notAfterText position previous

namespace LedgerError

/-- The message of an error in the ledger that is kept at a path. -/
def message (path : String) : LedgerError → String
  | .malformedPosition text => "Invalid binlog position '" ++ text ++ "', expected file:offset"
  | .notAfter position previous => "Position " ++ notAfterText position previous
  | .line number fault =>
    "Invalid history file '" ++ path ++ "' at line " ++ toString number ++ ": " ++ fault.message
  | .invariant e => e.message
  | .statement e => e.message

end LedgerError

/-- Reads a position.  Fails for a text that is none. -/
def Position.parse (text : String) : Except LedgerError Position :=
  match Position.ofText? text with
  | some p => .ok p
  | none => .error (.malformedPosition text)

end SchemaTrail
