import SchemaTrail.Statement.TableClause

/-!
# Readers of statements

The readers of the kinds of statements, each with what follows its first words, and of a whole
statement up to its end (`Statement.readRequests`).
-/

namespace SchemaTrail.Statement

/-! ## Databases -/

/-- Reads what follows `CREATE DATABASE`. -/
def readCreateDatabase : Reader Request := do
  let guarded ← takeIfNotExists
  let database ← readName false "database name"
  return .createDatabase database (← readDatabaseOptions) guarded

/-- The name of a database that a token is, unless it begins an option. -/
def databaseNameOf (k : Token.Kind) (text : String) : Option String :=
  if k = .keyword .charset then none else nameOf false k text

/-- Reads the name of a database.  Without one it is the selected database. -/
def readDatabaseName (selected : Option String) : Reader String :=
  readAsOr databaseNameOf (requireDatabase selected)

/-- Reads what follows `ALTER DATABASE`. -/
def readAlterDatabase (selected : Option String) : Reader Request :=
  return .alterDatabase (← readDatabaseName selected) (← readDatabaseOptions)

/-- Reads what follows `DROP DATABASE`. -/
def readDropDatabase : Reader Request := do
  let guarded ← takeIfExists
  return .dropDatabase (← readName false "database name") guarded

/-! ## Tables -/

/-- Reads what follows `CREATE TABLE`. -/
def readCreateTable (selected : Option String) : Reader Request := do
  let guarded ← takeIfNotExists
  let name ← readTableName selected
  let source ← readTableSource selected
  return .createTable name source (← readTableOptions) guarded

/-- The request to alter a table, none if only partitions are changed. -/
def alterRequest? (name : TableName) (parts : List AlterPart) : Option Request :=
  if parts.contains .partitions && (editOf parts).isEmpty then none
  else some (.alterTable name (editOf parts))

/-- Reads what follows `ALTER TABLE`. -/
def readAlterTable (selected : Option String) : Reader (Option Request) :=
  return alterRequest? (← readTableName selected) (← readAlterClauses selected)

/-- Reads what follows `DROP TABLE`. -/
def readDropTable (selected : Option String) : Reader (List Request) := do
  let guarded ← takeIfExists
  let names ← separated (readTableName selected)
  discard <| takeEither .restrict .cascade
  return names.map fun name => .dropTable name guarded

/-- Reads the name of a table and its new name. -/
def readRenamePair (selected : Option String) : Reader (TableName × TableName) := do
  let source ← readTableName selected
  expectKeyword .to
  return (source, ← readTableName selected)

/-- Reads what follows `RENAME TABLE`. -/
def readRenameTables (selected : Option String) : Reader Request :=
  return .renameTables (← separated (readRenamePair selected))

/-! ## Statements -/

/-- Whether a token is `DATABASE` or `SCHEMA`. -/
def namesDatabase (k : Token.Kind) : Bool :=
  k = .keyword .database || k = .keyword .schema

/-- Reads what follows the word for a table or a database.  Gives nothing if neither is next. -/
def readObject (table database : Reader (Option (List Request))) :
    Reader (Option (List Request)) := do
  if ← takeKeyword .table then table
  else if ← takeIf namesDatabase then database
  else return none

/-- Reads what follows `CREATE`. -/
def readCreate (selected : Option String) : Reader (Option (List Request)) :=
  readObject (return some [← readCreateTable selected]) (return some [← readCreateDatabase])

/-- Whether a token may stand between `ALTER` and the word for a table or a database. -/
def isAlterOption (k : Token.Kind) : Bool :=
  k = .keyword .online || k = .keyword .offline || k = .keyword .ignore

/-- Reads what follows `ALTER`. -/
def readAlter (selected : Option String) : Reader (Option (List Request)) := do
  skipWhile isAlterOption
  readObject (return (← readAlterTable selected).map fun r => [r])
    (return some [← readAlterDatabase selected])

/-- Reads what follows `DROP`. -/
def readDropStatement (selected : Option String) : Reader (Option (List Request)) :=
  readObject (return some (← readDropTable selected)) (return some [← readDropDatabase])

/-- Reads what follows `RENAME`. -/
def readRenameStatement (selected : Option String) : Reader (Option (List Request)) := do
  if ← takeKeyword .table then return some [← readRenameTables selected]
  else return none

/-- Reads a statement up to its end. -/
def readStatement (selected : Option String) : Reader (Option (List Request)) := do
  match ← kind with
  | .keyword .create => afterAdvance (readCreate selected)
  | .keyword .alter => afterAdvance (readAlter selected)
  | .keyword .drop => afterAdvance (readDropStatement selected)
  | .keyword .rename => afterAdvance (readRenameStatement selected)
  | .error _ => unexpected "statement"
  | _ => return none

/-- Takes an optional semicolon, after which the statement has to end. -/
def expectEnd : Reader Unit := do
  discard <| takeSymbol .semicolon
  unless (← kind) = .eof do unexpected "end of statement"

/-- Reads a statement, and its end if the statement is about databases and tables.  What follows
another one is not looked at. -/
def readRequests (selected : Option String) : Reader (List Request) := do
  match ← readStatement selected with
  | some requests =>
    expectEnd
    return requests
  | none => return []

end SchemaTrail.Statement
