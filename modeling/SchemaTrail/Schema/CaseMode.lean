import SchemaTrail.Json.Value
import SchemaTrail.Text.LetterCase

/-!
# Letter case of names

Whether the names of databases and tables are compared with their letter case is a setting of the
server, a `CaseMode`.  The names of columns are always compared without it.
-/

namespace SchemaTrail

/-- How names of databases and tables are stored and compared. -/
inductive CaseMode where
  /-- As they are. -/
  | sensitive
  /-- Stored in lower case, and compared without letter case. -/
  | lowered
  /-- Stored as they are, and compared without letter case. -/
  | insensitive
  deriving DecidableEq, Repr

namespace CaseMode

/-- The mode that a server with a value of `lower_case_table_names` is in. -/
def ofServerSetting? : Nat → Option CaseMode
  | 0 => some .sensitive
  | 1 => some .lowered
  | 2 => some .insensitive
  | _ => none

/-- The modes with their names in documents. -/
def names : List (String × CaseMode) :=
  [("case-sensitive", .sensitive), ("convert-to-lower", .lowered),
    ("convert-on-compare", .insensitive)]

/-- The name of a mode in documents. -/
def name : CaseMode → String
  | .sensitive => "case-sensitive"
  | .lowered => "convert-to-lower"
  | .insensitive => "convert-on-compare"

/-- Whether two names are the same.  Without letter case, a first name that is ASCII is the same as
only the names that differ in the case of the letters `A` to `Z`. -/
def namesEqual (mode : CaseMode) (a b : String) : Bool :=
  match mode with
  | .sensitive => a == b
  | .lowered | .insensitive =>
    Text.equalIgnoringCase a b || (!Text.isAscii a && Text.lower a == Text.lower b)

/-- The name that a new database or table is stored with. -/
def storedName (mode : CaseMode) (name : String) : String :=
  match mode with
  | .lowered => Text.lower name
  | .sensitive | .insensitive => name

end CaseMode

/-- Whether two names of columns are the same. -/
def columnNamesEqual (a b : String) : Bool :=
  Text.equalIgnoringCase a b ||
    (!(Text.isAscii a && Text.isAscii b) && Text.lower a == Text.lower b)

end SchemaTrail
