import SchemaTrail.Statement.Names

/-!
# Column definitions in statements

The readers of a column definition: its type with the numbers or values between parentheses, the
attributes after it, and the place it is to have.
-/

namespace SchemaTrail.Statement

/-- A column, and whether its definition makes it the primary key. -/
structure ColumnDefinition where
  column : Column
  isPrimaryKey : Bool

/-! ## Types -/

/-- A type as it is written. -/
structure DeclaredType where
  name : String
  charset : Option String
  length : Option Nat
  values : List String

/-- The value of an enumeration or set that a token is. -/
def valueOf : Token.Kind → String → Option String
  | .string value, _ | .doubleQuoted value, _ => some value
  | _, _ => none

/-- Reads a value of an enumeration or set. -/
def readValue : Reader String :=
  readAs valueOf "quoted value"

/-- Reads the values of an enumeration or set. -/
def readValues : Reader (List String) := do
  expectSymbol .leftParen
  readGroup readValue

/-- The number that a token is. -/
def numberOf : Token.Kind → String → Option Nat
  | .integer n, _ => some n
  | _, _ => none

/-- Reads a number after a type. -/
def readNumber : Reader Nat :=
  readAs numberOf "length"

/-- Reads the numbers after a type and gives the first. -/
def readLength : Reader (Option Nat) := do
  expectSymbol .leftParen
  return (← readGroup readNumber).head?

/-- The first word of a type that a token is. -/
def typeWordOf : Token.Kind → String → Option String
  | .identifier word, _ => some (Text.asciiLower word)
  | .keyword .character, _ => some "character"
  | .keyword .binary, _ => some "binary"
  | .keyword .set, _ => some "set"
  | _, _ => none

/-- Reads the first word of a type. -/
def readTypeWord : Reader String :=
  readAs typeWordOf "column type"

/-- Reads the further words of a type. -/
def readTypeName (word : String) : Reader String := do
  match word with
  | "double" => return if ← takeKeyword .precision then "double precision" else word
  | "character" | "char" | "nchar" =>
    if ← takeKeyword .varying then return "varchar"
    else return if ← takeWord "varchar" then "varchar" else word
  | "long" =>
    if ← takeWord "varchar" then return "long varchar"
    else return if ← takeWord "varbinary" then "long varbinary" else word
  | _ => return word

/-- Reads a type. -/
def readType : Reader DeclaredType := do
  let national ← takeKeyword .national
  let name ← readTypeName (← readTypeWord)
  let charset :=
    if national || name = "nchar" || name = "nvarchar" then some "utf8" else none
  if (← kind) = .symbol .leftParen then
    if name = "enum" || name = "set" then return ⟨name, charset, none, ← readValues⟩
    else return ⟨name, charset, ← readLength, []⟩
  else return ⟨name, charset, none, []⟩

/-! ## Attributes -/

/-- An attribute of a column. -/
inductive ColumnAttribute where
  | unsigned
  | byte
  | charset (name : String)
  | collation (name : String)
  | primaryKey
  /-- An attribute that is of no interest. -/
  | other
  deriving DecidableEq, Repr

/-- Reads the attribute that a word is, or passes over the word. -/
def readAttributeWord (word : String) : Reader ColumnAttribute := do
  advance
  return if Text.equalIgnoringCase word "byte" then .byte
    else if Text.equalIgnoringCase word "unicode" then .charset "ucs2"
    else if Text.equalIgnoringCase word "ascii" then .charset "latin1"
    else .other

/-- Reads an attribute of a column, unless the definition ends. -/
def readAttribute : Reader (Option ColumnAttribute) := do
  match ← kind with
  | .keyword .first | .keyword .after => return none
  | .keyword .unsigned | .keyword .zerofill => afterAdvance (return some .unsigned)
  | .identifier word => some <$> readAttributeWord word
  | .keyword .character => afterAdvance (return some (.charset (← readSetName)))
  | .keyword .charset => afterAdvance (return some (.charset (← readOptionName)))
  | .keyword .collate => afterAdvance (return some (.collation (← readOptionName)))
  | .keyword .primary => afterAdvance do
      expectKeyword .key
      return some .primaryKey
  | .keyword .key => afterAdvance (return some .primaryKey)
  | .keyword .unique => afterAdvance do
      discard <| takeKeyword .key
      return some .other
  | .keyword .default | .keyword .comment => afterAdvance do
      skipValue
      return some .other
  | .keyword .on => afterAdvance do
      if ← takeKeyword .update then skipValue
      return some .other
  | .symbol .leftParen =>
    skipGroup
    return some .other
  | k =>
    if endsClause k then return none
    else
      skipToken
      return some .other

/-- The last charset that attributes name, or that of the type, or that of the last collation. -/
def attributedCharset (declared : Option String) (attributes : List ColumnAttribute) :
    Option String :=
  let charset := attributes.reverse.findSome? fun
    | .charset name => some name
    | _ => none
  let collation := attributes.reverse.findSome? fun
    | .collation name => some (charsetOfCollation name)
    | _ => none
  (charset.or declared).or collation

/-- A column definition as it is written. -/
structure WrittenColumn where
  name : String
  type : DeclaredType
  attributes : List ColumnAttribute

/-- What a written definition declares besides its type. -/
def WrittenColumn.declared (written : WrittenColumn) : Attributes where
  signed := !written.attributes.contains .unsigned
  charset := attributedCharset written.type.charset written.attributes
  length := written.type.length
  values := written.type.values
  byte := written.attributes.contains .byte

/-- What is defined. -/
def WrittenColumn.definition (written : WrittenColumn) : Except SchemaError ColumnDefinition :=
  (Column.declare written.name written.type.name 0 written.declared).map
    (⟨·, written.attributes.contains .primaryKey⟩)

/-- Reads a column definition. -/
def readColumn : Reader ColumnDefinition := do
  ofResult (WrittenColumn.definition ⟨← readColumnName, ← readType, ← many readAttribute⟩)

/-- Reads the place that a column is to have. -/
def readPlacement : Reader Placement := do
  if ← takeKeyword .first then return .first
  else if ← takeKeyword .after then return .after (← readColumnName)
  else return .standard

/-! ## Keys -/

/-- Passes over a token in front of the columns of a key, unless it opens them. -/
def seekColumns : Reader (Option Unit) := do
  let k ← kind
  if k = .symbol .leftParen then return none
  else if endsStatement k then unexpected "key column list"
  else some <$> skipToken

/-- Passes over the tokens up to the parenthesis that opens the columns of a key, and over this. -/
def openColumns : Reader Unit := do
  discard <| many seekColumns
  advance

/-- Reads a column of a key. -/
def readKeyColumn : Reader String := do
  let name ← readColumnName
  skipGroupIfNext
  discard <| takeEither .asc .desc
  return name

/-- Reads the columns of a key, up to which all tokens are passed over. -/
def readKeyColumns : Reader (List String) := do
  openColumns
  readGroup readKeyColumn

end SchemaTrail.Statement
