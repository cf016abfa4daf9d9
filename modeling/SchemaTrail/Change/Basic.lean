import SchemaTrail.Schema.Basic

/-!
# Changes

A `Change` holds all that is needed to apply it: whole tables instead of single edits, and the names
under which things are stored.  The statement that it came from is not needed again, so that changes
can be kept and applied later.  `Change.apply` checks once more that the change fits the schema.
-/

namespace SchemaTrail

/-- A table that is renamed. -/
structure Rename where
  /-- The database of the table before. -/
  database : String
  /-- The name of the table before. -/
  table : String
  /-- The table with its new name and database. -/
  definition : Table
  deriving DecidableEq, Repr

/-- A change of a schema. -/
inductive Change where
  | createDatabase (database charset : String)
  /-- A new charset of a database and of those of its tables that follow it. -/
  | alterDatabase (database charset : String) (tables : List String)
  | dropDatabase (database : String)
  | createTable (database table : String) (definition : Table)
  /-- A table that is replaced by another, perhaps under another name. -/
  | alterTable (database table : String) (old definition : Table)
  | dropTable (database table : String)
  /-- Tables that are renamed one after the other. -/
  | renameTables (renames : List Rename)
  deriving DecidableEq, Repr

namespace Change

/-- What the change is called in documents. -/
def kind : Change → String
  | .createDatabase .. => "database-create"
  | .alterDatabase .. => "database-alter"
  | .dropDatabase .. => "database-drop"
  | .createTable .. => "table-create"
  | .alterTable .. => "table-alter"
  | .dropTable .. => "table-drop"
  | .renameTables .. => "table-rename"

/-- The database that is changed, of several the first. -/
def database? : Change → Option String
  | .createDatabase database _ | .alterDatabase database _ _ | .dropDatabase database
  | .createTable database _ _ | .alterTable database _ _ _ | .dropTable database _ => some database
  | .renameTables renames => renames.head?.map Rename.database

/-- The table that is changed, of several the first. -/
def table? : Change → Option String
  | .createDatabase .. | .alterDatabase .. | .dropDatabase .. => none
  | .createTable _ table _ | .alterTable _ table _ _ | .dropTable _ table => some table
  | .renameTables renames => renames.head?.map Rename.table

/-- What the change is about. -/
def target (c : Change) : Target :=
  ⟨c.database?.getD "", c.table?⟩

end Change

/-! ## Applying -/

namespace Schema

/-- Adds a table, of whose name there is none yet, to its database. -/
def insertTable (s : Schema) (t : Table) : Except InvariantError Schema :=
  s.updateDatabase t.database fun d =>
    if d.hasTable s.caseMode t.name then .error (.tableExists t.database t.name)
    else .ok (d.addTable t)

/-- Puts `new` in the place of a table.  If `new` belongs to another database it is moved there,
behind the tables that are there already. -/
def replaceTable (s : Schema) (database table : String) (new : Table) :
    Except InvariantError Schema := do
  discard <| s.requireTable database table
  let sameDatabase := s.caseMode.namesEqual database new.database
  let sameName := sameDatabase && s.caseMode.namesEqual table new.name
  if !sameName && s.hasTable new.database new.name then
    throw (.tableExists new.database new.name)
  if sameDatabase then s.updateTable database table fun _ => [new]
  else
    discard <| s.requireDatabase new.database
    let without ← s.updateTable database table fun _ => []
    without.addTable new

/-- Renames a table. -/
def rename (s : Schema) (r : Rename) : Except InvariantError Schema :=
  s.replaceTable r.database r.table r.definition

/-- Gives the first table with a name another charset. -/
def setTableCharset (s : Schema) (database charset : String) (d : Database) (table : String) :
    Except InvariantError Database :=
  d.updateTable s.caseMode table (.tableNotFound database table) fun t => [{ t with charset }]

end Schema

/-- The schema after a change.  Fails if the change does not fit. -/
def Change.apply (s : Schema) : Change → Except InvariantError Schema
  | .createDatabase database charset =>
    if s.hasDatabase database then .error (.databaseExists database)
    else .ok (s.addDatabase ⟨database, charset, []⟩)
  | .alterDatabase database charset tables =>
    s.updateDatabase database fun d =>
      tables.foldlM (s.setTableCharset database charset) { d with charset }
  | .dropDatabase database => s.removeDatabase database
  | .createTable _ _ definition => s.insertTable definition
  | .alterTable database table _ definition => s.replaceTable database table definition
  | .dropTable database table => s.updateTable database table fun _ => []
  | .renameTables renames => renames.foldlM Schema.rename s

/-- The schema after several changes. -/
def Schema.applyAll (s : Schema) (changes : List Change) : Except InvariantError Schema :=
  changes.foldlM Change.apply s

end SchemaTrail
