import SchemaTrail.Change.Basic
import SchemaTrail.Change.ColumnEdits
import SchemaTrail.Config

/-!
# Resolving requests

`Request.resolve` turns a request into the change that it means for a schema.  There is no change if
a guard makes the request pass over what is there or is not, or if nothing is asked for.
-/

namespace SchemaTrail

/-- The first column that has the name of one before it, where `before` are those before. -/
def firstRepeated? (before : List Column) : List Column → Option Column
  | [] => none
  | c :: cs =>
    if before.any fun b => columnNamesEqual b.name c.name then some c
    else firstRepeated? (before ++ [c]) cs

/-- The tables of a database that follow it to another charset: those that have its charset. -/
def Database.followers (d : Database) (charset : String) : List String :=
  (d.tables.filter fun t => Text.equalIgnoringCase t.charset d.charset &&
    !Text.equalIgnoringCase t.charset charset).map Table.name

namespace Request

variable (config : Config) (s : Schema)

/-- Resolves a new database. -/
def resolveCreateDatabase (database : String) (charset : Option String) (guarded : Bool) :
    Except InvariantError (Option Change) :=
  if s.hasDatabase database then
    if guarded then .ok none else .error (.databaseExists database)
  else
    .ok (some (.createDatabase (config.caseMode.storedName database) (charset.getD s.charset)))

/-- Resolves a new charset of a database. -/
def resolveAlterDatabase (database : String) (charset : Option String) :
    Except InvariantError (Option Change) := do
  let d ← s.requireDatabase database
  return charset.map fun charset =>
    let tables := match config.cascade with
      | .never => []
      | .inheriting => d.followers charset
    .alterDatabase d.name charset tables

/-- Resolves a database that is dropped. -/
def resolveDropDatabase (database : String) (guarded : Bool) :
    Except InvariantError (Option Change) :=
  match s.database? database with
  | some d => .ok (some (.dropDatabase d.name))
  | none => if guarded then .ok none else .error (.databaseNotFound database)

/-- A new table of a database. -/
def newTable (d : Database) (written : TableName) (source : TableSource) (charset : Option String) :
    Except InvariantError Table :=
  let name := config.caseMode.storedName written.table
  match source with
  | .like other => (s.requireTable other.database other.table).map fun t => t.relocated d.name name
  | .columns columns primaryKey =>
    match firstRepeated? [] columns with
    | some c => .error (.columnExists written.database written.table c.name)
    | none => .ok (.create d.name name (charset.getD d.charset) columns primaryKey)

/-- Resolves a new table. -/
def resolveCreateTable (written : TableName) (source : TableSource) (charset : Option String)
    (guarded : Bool) : Except InvariantError (Option Change) := do
  let d ← s.requireDatabase written.database
  if d.hasTable s.caseMode written.table then
    if guarded then return none
    else throw (.tableExists written.database written.table)
  else
    let t ← newTable config s d written source charset
    return some (.createTable d.name t.name t)

/-- The database and name under which a table that is renamed is stored.  There must be a database
but no table of that name. -/
def newPlace (written : TableName) : Except InvariantError TableName := do
  let d ← s.requireDatabase written.database
  if d.hasTable s.caseMode written.table then
    throw (.tableExists written.database written.table)
  return ⟨d.name, config.caseMode.storedName written.table⟩

/-- The table under the new name that an edit gives it, if it is another. -/
def renamedTable (old : Table) (newName : Option TableName) : Except InvariantError Table := do
  match newName with
  | none => return old
  | some written =>
    if s.caseMode.namesEqual written.database old.database &&
        s.caseMode.namesEqual written.table old.name then return old
    else
      let place ← newPlace config s written
      return old.relocated place.database place.table

/-- The table after an edit. -/
def editedTable (old : Table) (edit : TableEdit) : Except InvariantError Table := do
  let renamed ← renamedTable config s old edit.newName
  let recharged := { renamed with charset := edit.charset.getD renamed.charset }
  let edited ← recharged.editColumns ⟨old.database, old.name⟩ edit.columns
  let converted := edit.convertTo.elim edited edited.convertTo
  return { converted with primaryKey := edit.primaryKey.getD converted.primaryKey }

/-- Resolves an edit of a table. -/
def resolveAlterTable (written : TableName) (edit : TableEdit) :
    Except InvariantError (Option Change) := do
  let old ← s.requireTable written.database written.table
  let new ← editedTable config s old edit
  return some (.alterTable old.database old.name old new)

/-- Resolves a table that is dropped. -/
def resolveDropTable (written : TableName) (guarded : Bool) :
    Except InvariantError (Option Change) :=
  match s.requireTable written.database written.table with
  | .ok t => .ok (some (.dropTable t.database t.name))
  | .error e => if guarded then .ok none else .error e

/-- Resolves one table that is renamed. -/
def resolveRename (source target : TableName) : Except InvariantError Rename := do
  let t ← s.requireTable source.database source.table
  let place ← newPlace config s target
  return ⟨t.database, t.name, t.relocated place.database place.table⟩

/-- Resolves tables that are renamed, each in the schema that the one before has left. -/
def resolveRenames (s : Schema) : List (TableName × TableName) → Except InvariantError (List Rename)
  | [] => .ok []
  | (source, target) :: rest => do
    let r ← resolveRename config s source target
    let next ← s.rename r
    let others ← resolveRenames next rest
    return r :: others

/-- The change that a request means for a schema. -/
def resolve : Request → Except InvariantError (Option Change)
  | .createDatabase database charset guarded =>
    resolveCreateDatabase config s database charset guarded
  | .alterDatabase database charset => resolveAlterDatabase config s database charset
  | .dropDatabase database guarded => resolveDropDatabase s database guarded
  | .createTable name source charset guarded =>
    resolveCreateTable config s name source charset guarded
  | .alterTable name edit => resolveAlterTable config s name edit
  | .dropTable name guarded => resolveDropTable s name guarded
  | .renameTables renames =>
    (resolveRenames config s renames).map fun resolved => some (.renameTables resolved)

end Request

end SchemaTrail
