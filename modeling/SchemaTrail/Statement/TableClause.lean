import SchemaTrail.Statement.ColumnClause

/-!
# Clauses of table statements

A `CREATE TABLE` statement consists of elements and options, an `ALTER TABLE` statement of clauses.
Each is read on its own, and what the statement asks for is put together from them afterwards, so
that no clause has an effect on the reading of another.
-/

namespace SchemaTrail.Statement

/-! ## Constraints -/

/-- Whether a token says what a constraint is. -/
def beginsConstraint : Token.Kind → Bool
  | .keyword .primary | .keyword .unique | .keyword .foreign | .keyword .check => true
  | _ => false

/-- Reads the name of a constraint, unless the constraint has none. -/
def skipConstraintName : Reader Unit := do
  unless beginsConstraint (← kind) do discard <| readName false "constraint name"

/-- Passes over `CONSTRAINT` and the name of a constraint, if they are next. -/
def skipConstraint : Reader (Option Unit) := do
  if ← takeKeyword .constraint then some <$> skipConstraintName else return none

/-- Passes over `CONSTRAINT` and the names of constraints. -/
def skipConstraintNames : Reader Unit :=
  discard <| many skipConstraint

/-- Reads what follows `PRIMARY`, up to the end of the clause. -/
def readPrimaryKey : Reader (List String) := do
  expectKeyword .key
  let columns ← readKeyColumns
  skipClause
  return columns

/-! ## Creating a table -/

/-- An element of a new table. -/
inductive TableElement where
  | column (definition : ColumnDefinition)
  | primaryKey (columns : List String)
  /-- An index or a constraint. -/
  | other

/-- Reads an element of a new table. -/
def readElement : Reader TableElement := do
  skipConstraintNames
  match ← kind with
  | .keyword .primary => afterAdvance (return .primaryKey (← readPrimaryKey))
  | .keyword .key | .keyword .index | .keyword .unique | .keyword .fulltext | .keyword .spatial
  | .keyword .foreign | .keyword .check =>
    skipClause
    return .other
  | _ => return .column (← readColumn)

/-- The columns among the elements. -/
def elementColumns (elements : List TableElement) : List Column :=
  elements.filterMap fun
    | .column d => some d.column
    | _ => none

/-- The primary key that the elements define, of several the last. -/
def elementKey (elements : List TableElement) : List String :=
  let keys := elements.filterMap fun
    | .column d => if d.isPrimaryKey then some [d.column.name] else none
    | .primaryKey columns => some columns
    | .other => none
  keys.getLastD []

/-- Reads the elements of a new table, up to the parenthesis that closes their group. -/
def readElements : Reader TableSource := do
  let elements ← readGroup readElement
  return .columns (elementColumns elements) (elementKey elements)

/-- Reads the name of the table that a new one is like, up to a closing parenthesis. -/
def readSourceName (selected : Option String) : Reader TableSource := do
  let source ← readTableName selected
  expectSymbol .rightParen
  return .like source

/-- Reads what a new table consists of. -/
def readTableSource (selected : Option String) : Reader TableSource := do
  if ← takeKeyword .like then return .like (← readTableName selected)
  else if ← takeSymbol .leftParen then
    if ← takeKeyword .like then readSourceName selected
    else readElements
  else unexpected "column list or LIKE"

/-- Reads a table option that is not about charsets, unless the statement ends.  A partition clause
reaches to the end. -/
def skipTableOption : Reader (Option (List CharsetOption)) := do
  match ← kind with
  | .keyword .partition =>
    skipAll
    return some []
  | .keyword .asWord | .keyword .select | .keyword .ignore | .keyword .replace =>
    unexpected "table option"
  | .symbol .leftParen =>
    skipGroup
    return some []
  | k =>
    if endsStatement k then return none
    else
      skipToken
      return some []

/-- Passes over a database option that is not about charsets, unless the statement ends. -/
def skipDatabaseOption : Reader (Option (List CharsetOption)) := do
  if endsStatement (← kind) then return none
  else
    skipToken
    return some []

/-- The charset option that is read, or what is read without one. -/
def optionOr (skip : Reader (Option (List CharsetOption))) :
    Option CharsetOption → Reader (Option (List CharsetOption))
  | some option => return some [option]
  | none => skip

/-- Reads an option: one about charsets, or one of the others, which are passed over. -/
def readOption (skip : Reader (Option (List CharsetOption))) :
    Reader (Option (List CharsetOption)) := do
  optionOr skip (← takeCharsetOption)

/-- Reads options and gives the charset that they set. -/
def readOptions (skip : Reader (Option (List CharsetOption))) : Reader (Option String) :=
  return charsetOf (← many (readOption skip)).flatten

/-- Reads the options of a new table and gives the charset that they set. -/
def readTableOptions : Reader (Option String) :=
  readOptions skipTableOption

/-- Reads the options of a database and gives the charset that they set. -/
def readDatabaseOptions : Reader (Option String) :=
  readOptions skipDatabaseOption

/-! ## Altering a table -/

/-- What a clause asks for. -/
inductive AlterPart where
  | column (edit : ColumnEdit)
  | primaryKey (columns : List String)
  | newName (name : TableName)
  | convertTo (charset : String)
  | charset (name : String)
  /-- A collation, which sets the charset unless one is set. -/
  | collation (name : String)
  /-- Partitions are changed. -/
  | partitions
  deriving DecidableEq, Repr

/-- The edit together with what one more part asks for. -/
def addPart (e : TableEdit) : AlterPart → TableEdit
  | .column edit => { e with columns := e.columns ++ [edit] }
  | .primaryKey columns => { e with primaryKey := some columns }
  | .newName name => { e with newName := some name }
  | .convertTo charset => { e with convertTo := some charset }
  | .charset name => { e with charset := some name }
  | .collation name => { e with charset := e.charset.or (some (charsetOfCollation name)) }
  | .partitions => e

/-- The edit that all parts together ask for. -/
def editOf (parts : List AlterPart) : TableEdit :=
  parts.foldl addPart .empty

/-- The part for a primary key, if a definition makes its column one. -/
def keyPart (d : ColumnDefinition) : List AlterPart :=
  if d.isPrimaryKey then [.primaryKey [d.column.name]] else []

/-- Skips a clause that asks for nothing. -/
def ignoreClause : Reader (List AlterPart) := do
  skipClause
  return []

/-- Skips a clause about partitions. -/
def ignorePartitions : Reader (List AlterPart) := do
  skipClause
  return [.partitions]

/-- The parts for a column that is added. -/
def addedParts (d : ColumnDefinition) (placement : Placement) (guarded : Bool) : List AlterPart :=
  keyPart d ++ [.column (.add d.column placement guarded)]

/-- Reads a column that is added, with its place. -/
def readAddedColumn : Reader (List AlterPart) := do
  let guarded ← takeIfNotExists
  let d ← readColumn
  let placement ← readPlacement
  return addedParts d placement guarded

/-- Reads the columns that are added, one with its place or several between parentheses. -/
def readAddedColumns : Reader (List AlterPart) := do
  if ← takeSymbol .leftParen then
    return (← readGroup readColumn).flatMap fun d => addedParts d .standard false
  else readAddedColumn

/-- Reads what follows `ADD`. -/
def readAdd : Reader (List AlterPart) := do
  skipConstraintNames
  if ← takeKeyword .column then readAddedColumns
  else match ← kind with
    | .keyword .primary => afterAdvance (return [.primaryKey (← readPrimaryKey)])
    | .keyword .index | .keyword .key | .keyword .unique | .keyword .fulltext | .keyword .spatial
    | .keyword .foreign | .keyword .check => ignoreClause
    | .keyword .partition => ignorePartitions
    | _ => readAddedColumns

/-- Reads what follows the name of a column that is changed. -/
def readChanged (guarded : Bool) (name : Option String) : Reader (List AlterPart) := do
  let d ← readColumn
  let placement ← readPlacement
  return keyPart d ++ [.column (.change (name.getD d.column.name) d.column placement guarded)]

/-- Reads what follows `CHANGE`. -/
def readChange : Reader (List AlterPart) := do
  discard <| takeKeyword .column
  let guarded ← takeIfExists
  let name ← readColumnName
  readChanged guarded (some name)

/-- Reads what follows `MODIFY`. -/
def readModify : Reader (List AlterPart) := do
  discard <| takeKeyword .column
  let guarded ← takeIfExists
  readChanged guarded none

/-- Reads a column that is removed. -/
def readRemovedColumn : Reader (List AlterPart) := do
  discard <| takeKeyword .column
  let guarded ← takeIfExists
  let name ← readColumnName
  discard <| takeEither .restrict .cascade
  return [.column (.remove name guarded)]

/-- Reads what follows `DROP`. -/
def readDrop : Reader (List AlterPart) := do
  match ← kind with
  | .keyword .primary => afterAdvance do
      expectKeyword .key
      return [.primaryKey []]
  | .keyword .index | .keyword .key | .keyword .foreign | .keyword .check | .keyword .constraint =>
    ignoreClause
  | .keyword .partition => ignorePartitions
  | _ => readRemovedColumn

/-- Reads the names of a column that is renamed. -/
def readRenamedColumn : Reader (List AlterPart) := do
  let name ← readColumnName
  expectKeyword .to
  return [.column (.rename name (← readColumnName))]

/-- Reads the new name of the table. -/
def readNewName (selected : Option String) : Reader (List AlterPart) := do
  discard <| takeEither .to .asWord
  return [.newName (← readTableName selected)]

/-- Reads what follows `RENAME`. -/
def readRename (selected : Option String) : Reader (List AlterPart) := do
  match ← kind with
  | .keyword .column => afterAdvance readRenamedColumn
  | .keyword .index | .keyword .key => ignoreClause
  | _ => readNewName selected

/-- Reads a charset with the words before it, of which one has to be next. -/
def expectCharset : Reader String := do
  if ← takeKeyword .character then readSetName
  else
    expectKeyword .charset
    readOptionName

/-- Reads what follows `CONVERT`. -/
def readConvert : Reader (List AlterPart) := do
  expectKeyword .to
  let charset ← expectCharset
  skipClause
  return [.convertTo charset]

/-- Reads a charset with the words before it, if one of these is next. -/
def readCharsetPart : Reader (List AlterPart) := do
  match ← kind with
  | .keyword .character => afterAdvance (return [.charset (← readSetName)])
  | .keyword .charset => afterAdvance (return [.charset (← readOptionName)])
  | _ => return []

/-- Reads a collation with the word before it, if this is next. -/
def readCollationPart : Reader (List AlterPart) := do
  if ← takeKeyword .collate then return [.collation (← readOptionName)] else return []

/-- Reads a charset with a collation, or a collation alone.  Empty if none is next. -/
def readCharsetClause : Reader (List AlterPart) :=
  return (← readCharsetPart) ++ (← readCollationPart)

/-- Whether a token begins a charset clause. -/
def beginsCharset : Token.Kind → Bool
  | .keyword .character | .keyword .charset | .keyword .collate => true
  | _ => false

/-- The words that begin clauses about partitions. -/
def partitionWords : List String :=
  ["analyze", "coalesce", "discard", "exchange", "import", "optimize", "rebuild", "remove",
    "reorganize", "repair", "truncate"]

/-- Whether a token begins a clause about partitions. -/
def beginsPartitions : Token.Kind → Bool
  | .keyword .check => true
  | .identifier word => partitionWords.any (Text.equalIgnoringCase word)
  | _ => false

/-- Reads what follows `DEFAULT`. -/
def readDefault : Reader (List AlterPart) := do
  if beginsCharset (← kind) then readCharsetClause
  else unexpected "CHARACTER SET or COLLATE"

/-- Reads one clause of an `ALTER TABLE` statement.  A partition clause reaches to the end. -/
def readAlterClause (selected : Option String) : Reader (List AlterPart) := do
  match ← kind with
  | .keyword .add => afterAdvance readAdd
  | .keyword .change => afterAdvance readChange
  | .keyword .modify => afterAdvance readModify
  | .keyword .drop => afterAdvance readDrop
  | .keyword .rename => afterAdvance (readRename selected)
  | .keyword .convert => afterAdvance readConvert
  | .keyword .default => afterAdvance readDefault
  | .keyword .partition =>
    skipAll
    return [.partitions]
  | k =>
    if beginsCharset k then readCharsetClause
    else if beginsPartitions k then ignorePartitions
    else ignoreClause

/-- Reads a clause, unless the statement ends. -/
def readClauseIfAny (selected : Option String) : Reader (Option (List AlterPart)) := do
  if endsStatement (← kind) then return none else some <$> readAlterClause selected

/-- Reads another clause behind a comma, unless the statement ends. -/
def readNextClause (selected : Option String) : Reader (Option (List AlterPart)) := do
  if ← takeSymbol .comma then readClauseIfAny selected else return none

/-- Reads all clauses behind the first. -/
def readMoreClauses (selected : Option String) : Reader (List AlterPart) :=
  List.flatten <$> many (readNextClause selected)

/-- Reads the clauses of an `ALTER TABLE` statement. -/
def readAlterClauses (selected : Option String) : Reader (List AlterPart) := do
  if endsStatement (← kind) then return []
  else return (← readAlterClause selected) ++ (← readMoreClauses selected)

end SchemaTrail.Statement
