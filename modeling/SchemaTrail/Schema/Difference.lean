import SchemaTrail.Schema.Basic
import SchemaTrail.Text.Quoted

/-!
# Differences of schemas

`Schema.diff` lists what two schemas differ in: first what the left one has, in its order, then what
only the right one has.  `Discrepancy.describe` writes one of them as a line of text.
-/

namespace SchemaTrail

/-- One of the two schemas that are compared. -/
inductive Side where
  | left
  | right
  deriving DecidableEq, Repr

/-- An attribute of a column that differs. -/
inductive AttributeMismatch where
  | charset (left right : Option String)
  | signedness (left right : Option Bool)
  | values (left right : Option (List String))
  | precision (left right : Option Precision)
  deriving DecidableEq, Repr

/-- Something that two schemas differ in. -/
inductive Discrepancy where
  | missingDatabase (database : String) (side : Side)
  | databaseCharset (database left right : String)
  | missingTable (database table : String) (side : Side)
  | tableCharset (database table left right : String)
  | primaryKey (database table : String) (left right : List String)
  | missingColumn (database table column : String) (side : Side)
  | columnType (database table column left right : String)
  | columnPosition (database table column : String) (left right : Nat)
  | columnAttribute (database table column : String) (mismatch : AttributeMismatch)
  deriving DecidableEq, Repr

/-! ## Comparing -/

/-- The item, if a condition does not hold. -/
def unlessHolds {α : Type} (condition : Bool) (item : α) : List α :=
  if condition then [] else [item]

/-- Whether two charsets are the same. -/
def sameCharset : Option String → Option String → Bool
  | some a, some b => Text.equalIgnoringCase a b
  | none, none => true
  | _, _ => false

/-- Whether two primary keys are the same. -/
def sameKey : List String → List String → Bool
  | [], [] => true
  | a :: as, b :: bs => columnNamesEqual a b && sameKey as bs
  | _, _ => false

namespace ColumnKind

/-- The attributes in which two kinds of the same type differ. -/
def mismatches (left right : ColumnKind) : List AttributeMismatch :=
  unlessHolds (sameCharset left.charset? right.charset?) (.charset left.charset? right.charset?) ++
    unlessHolds (left.signed? = right.signed?) (.signedness left.signed? right.signed?) ++
    unlessHolds (left.values? = right.values?) (.values left.values? right.values?) ++
    unlessHolds (left.precision? = right.precision?) (.precision left.precision? right.precision?)

end ColumnKind

namespace Table

/-- What two columns of one name differ in.  Of columns of different types nothing else is
compared. -/
def diffColumn (t : Table) (left right : Column) : List Discrepancy :=
  if left.typeName ≠ right.typeName then
    [.columnType t.database t.name left.name left.typeName right.typeName]
  else
    unlessHolds (left.position = right.position)
        (.columnPosition t.database t.name left.name left.position right.position) ++
      (left.kind.mismatches right.kind).map (.columnAttribute t.database t.name left.name)

/-- What two tables differ in. -/
def diff (left right : Table) : List Discrepancy :=
  unlessHolds (Text.equalIgnoringCase left.charset right.charset)
      (.tableCharset left.database left.name left.charset right.charset) ++
    unlessHolds (sameKey left.primaryKey right.primaryKey)
      (.primaryKey left.database left.name left.primaryKey right.primaryKey) ++
    (left.columns.toList.flatMap fun c =>
      match right.column? c.name with
      | none => [.missingColumn left.database left.name c.name .right]
      | some other => left.diffColumn c other) ++
    (right.columns.toList.filter fun c => (left.column? c.name).isNone).map fun c =>
      .missingColumn left.database left.name c.name .left

end Table

/-- What two databases differ in, where the names of tables are compared as `mode` says. -/
def Database.diff (mode : CaseMode) (left right : Database) : List Discrepancy :=
  unlessHolds (Text.equalIgnoringCase left.charset right.charset)
      (.databaseCharset left.name left.charset right.charset) ++
    (left.tables.flatMap fun t =>
      match right.table? mode t.name with
      | none => [.missingTable left.name t.name .right]
      | some other => t.diff other) ++
    (right.tables.filter fun t => !left.hasTable mode t.name).map fun t =>
      .missingTable left.name t.name .left

/-- What two schemas differ in. -/
def Schema.diff (left right : Schema) : List Discrepancy :=
  (left.databases.flatMap fun d =>
      match right.database? d.name with
      | none => [.missingDatabase d.name .right]
      | some other => d.diff left.caseMode other) ++
    (right.databases.filter fun d => !left.hasDatabase d.name).map fun d =>
      .missingDatabase d.name .left

/-! ## Describing -/

/-- A value that may be absent, for messages. -/
def optionText {α : Type} (text : α → String) : Option α → String
  | none => "None"
  | some a => "Some(" ++ text a ++ ")"

namespace AttributeMismatch

/-- What the attribute is called. -/
def name : AttributeMismatch → String
  | .charset .. => "charset"
  | .signedness .. => "signedness"
  | .values .. => "enum values"
  | .precision .. => "precision"

/-- The left and the right value of the attribute. -/
def texts : AttributeMismatch → String × String
  | .charset l r => (optionText Text.quoted l, optionText Text.quoted r)
  | .signedness l r => (optionText toString l, optionText toString r)
  | .values l r => (optionText Text.quotedList l, optionText Text.quotedList r)
  | .precision l r => (optionText (toString ·.val) l, optionText (toString ·.val) r)

end AttributeMismatch

namespace Discrepancy

/-- A table, for messages. -/
def tableText (database table : String) : String :=
  backquoted database ++ "." ++ backquoted table

/-- A column, for messages. -/
def columnText (database table column : String) : String :=
  tableText database table ++ "." ++ backquoted column

/-- Two charsets, for messages. -/
def charsetText (left right leftName rightName : String) : String :=
  " had different charset: " ++ left ++ " in " ++ leftName ++ ", " ++ right ++ " in " ++ rightName

/-- A mismatch of two columns, for messages. -/
def mismatchText (what left right rightName : String) : String :=
  " has a " ++ what ++ " mismatch, " ++ left ++ " vs " ++ right ++ " in " ++ rightName

/-- The discrepancy in a line of text, where the two schemas are called `leftName` and
`rightName`. -/
def describe (leftName rightName : String) (d : Discrepancy) : String :=
  let label : Side → String
    | .left => leftName
    | .right => rightName
  match d with
  | .missingDatabase database side =>
    "-- Database " ++ database ++ " did not exist in " ++ label side
  | .databaseCharset database l r =>
    "-- Database " ++ database ++ charsetText l r leftName rightName
  | .missingTable database table side =>
    "database " ++ database ++ " did not contain table " ++ table ++ " in " ++ label side
  | .tableCharset database table l r =>
    tableText database table ++ charsetText l r leftName rightName
  | .primaryKey database table l r =>
    tableText database table ++ " has a primary key mismatch, (" ++ ", ".intercalate l ++ ") in " ++
      leftName ++ " vs (" ++ ", ".intercalate r ++ ") in " ++ rightName
  | .missingColumn database table column side =>
    tableText database table ++ " is missing column " ++ column ++ " in " ++ label side
  | .columnType database table column l r =>
    columnText database table column ++ mismatchText "type" l r rightName
  | .columnPosition database table column l r =>
    columnText database table column ++ mismatchText "position" (toString l) (toString r) rightName
  | .columnAttribute database table column m =>
    columnText database table column ++ mismatchText m.name m.texts.1 m.texts.2 rightName

/-- The discrepancies, each in a line that ends with a line break. -/
def describeAll (leftName rightName : String) (ds : List Discrepancy) : String :=
  String.join (ds.map fun d => d.describe leftName rightName ++ "\n")

end Discrepancy

end SchemaTrail
