import SchemaTrail.Statement.Cursor
import SchemaTrail.Statement.Request

/-!
# Names in statements

The readers of names of databases, tables, columns and charsets, and of the guards before them.  A
keyword is a name if it is not reserved; after a point, every keyword and every number is one.
-/

namespace SchemaTrail.Statement

/-- The name that a token is. -/
def nameOf (afterPoint : Bool) : Token.Kind → String → Option String
  | .identifier name, _ | .doubleQuoted name, _ => some name
  | .keyword k, text => if afterPoint || !k.isReserved then some text else none
  | .integer _, text => if afterPoint then some text else none
  | _, _ => none

/-- Reads a name. -/
def readName (afterPoint : Bool) (what : String) : Reader String :=
  readAs (nameOf afterPoint) what

/-- The selected database.  Fails if there is none. -/
def requireDatabase (selected : Option String) : Reader String := do
  match selected with
  | some database => return database
  | none => fail fun c => .syntactic ⟨.noDatabase, c.previous⟩

/-- The name of a table of the selected database. -/
def inSelected (selected : Option String) (table : String) : Reader TableName :=
  return ⟨← requireDatabase selected, table⟩

/-- Reads the name of a table, with or without its database. -/
def readTableName (selected : Option String) : Reader TableName := do
  if ← takeSymbol .dot then
    inSelected selected (← readName true "table name")
  else
    let first ← readName false "table name"
    if ← takeSymbol .dot then return ⟨first, ← readName true "table name"⟩
    else inSelected selected first

/-- Reads a name behind a point, if one is next. -/
def readNextName : Reader (Option String) :=
  readBehind .dot (readName true "column name")

/-- Reads the name of a column, and drops the names of its table and database before it. -/
def readColumnName : Reader String := do
  let first ← readName false "column name"
  return (← many readNextName).getLastD first

/-- The name of a charset or collation that a token is. -/
def optionNameOf : Token.Kind → String → Option String
  | .identifier s, _ | .string s, _ | .doubleQuoted s, _ => some (Text.asciiLower s)
  | .keyword k, _ => some (Text.asciiLower k.spelling)
  | _, _ => none

/-- Reads the name of a charset or collation, after an optional equals sign. -/
def readOptionName : Reader String := do
  discard <| takeSymbol .eq
  readAs optionNameOf "charset name"

/-- Reads what follows `CHARACTER`. -/
def readSetName : Reader String := do
  expectKeyword .set
  readOptionName

/-- The charset that a collation belongs to: the part of its name before the first underscore. -/
def charsetOfCollation (collation : String) : String :=
  Text.asciiLower (String.ofList (collation.toList.takeWhile (· ≠ '_')))

/-- Reads `IF EXISTS`, if it is next. -/
def takeIfExists : Reader Bool := do
  if ← takeKeyword .ifWord then
    expectKeyword .exists
    return true
  else return false

/-- Reads `IF NOT EXISTS`, if it is next. -/
def takeIfNotExists : Reader Bool := do
  if ← takeKeyword .ifWord then
    expectKeyword .not
    expectKeyword .exists
    return true
  else return false

/-! ## Charset options -/

/-- A charset or collation that is set. -/
inductive CharsetOption where
  | charset (name : String)
  | collation (name : String)
  deriving DecidableEq, Repr

/-- The charset that options set: the last that is named, or that of the last collation. -/
def charsetOf (options : List CharsetOption) : Option String :=
  let charset := options.reverse.findSome? fun
    | .charset name => some name
    | .collation _ => none
  let collation := options.reverse.findSome? fun
    | .charset _ => none
    | .collation name => some (charsetOfCollation name)
  charset.or collation

/-- Reads a charset or collation option, if one is next. -/
def takeCharsetOption : Reader (Option CharsetOption) := do
  if ← takeKeyword .character then return some (.charset (← readSetName))
  else if ← takeKeyword .charset then return some (.charset (← readOptionName))
  else if ← takeKeyword .collate then return some (.collation (← readOptionName))
  else return none

end SchemaTrail.Statement
