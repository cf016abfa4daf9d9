import SchemaTrail.Schema.Database
import SchemaTrail.Schema.Target

/-!
# Schemas

A `Schema` holds all databases that are tracked.  It is a plain value: a change gives a new schema
and leaves the old one as it is.
-/

namespace SchemaTrail

/-- The databases of a server. -/
structure Schema where
  /-- The charset of new databases. -/
  charset : String
  /-- How the names of databases and tables are compared. -/
  caseMode : CaseMode
  databases : List Database
  deriving DecidableEq, Repr

namespace Schema

/-- The schema without databases. -/
def empty (charset : String) (caseMode : CaseMode) : Schema :=
  ⟨charset, caseMode, []⟩

/-! ## Looking up -/

/-- The names of the databases. -/
def databaseNames (s : Schema) : List String :=
  s.databases.map Database.name

/-- The index of the first database with a name. -/
def databaseIndex? (s : Schema) (name : String) : Option Nat :=
  s.databases.findIdx? fun d => s.caseMode.namesEqual d.name name

/-- The first database with a name. -/
def database? (s : Schema) (name : String) : Option Database :=
  s.databases.find? fun d => s.caseMode.namesEqual d.name name

/-- Whether there is a database with a name. -/
def hasDatabase (s : Schema) (name : String) : Bool :=
  s.databases.any fun d => s.caseMode.namesEqual d.name name

/-- The database with a name, which has to exist. -/
def requireDatabase (s : Schema) (name : String) : Except InvariantError Database :=
  match s.database? name with
  | some d => .ok d
  | none => .error (.databaseNotFound name)

/-- The table with a name. -/
def table? (s : Schema) (database table : String) : Option Table :=
  (s.database? database).bind (·.table? s.caseMode table)

/-- Whether there is a table with a name. -/
def hasTable (s : Schema) (database table : String) : Bool :=
  (s.table? database table).isSome

/-- The table with a name, which has to exist. -/
def requireTable (s : Schema) (database table : String) : Except InvariantError Table := do
  let d ← s.requireDatabase database
  match d.table? s.caseMode table with
  | some t => return t
  | none => throw (.tableNotFound database table)

/-! ## Changing -/

/-- Adds a database at the end. -/
def addDatabase (s : Schema) (d : Database) : Schema :=
  { s with databases := s.databases ++ [d] }

/-- Removes the first database with a name. -/
def removeDatabase (s : Schema) (name : String) : Except InvariantError Schema :=
  (updateFirst (fun d => s.caseMode.namesEqual d.name name) (.databaseNotFound name)
    (fun _ => .ok []) s.databases).map fun databases => { s with databases }

/-- Changes the first database with a name. -/
def updateDatabase (s : Schema) (name : String)
    (change : Database → Except InvariantError Database) : Except InvariantError Schema :=
  (updateFirst (fun d => s.caseMode.namesEqual d.name name) (.databaseNotFound name)
    (fun d => (change d).map ([·])) s.databases).map fun databases => { s with databases }

/-- Puts other tables in the place of the first table with a name. -/
def updateTable (s : Schema) (database table : String) (change : Table → List Table) :
    Except InvariantError Schema :=
  s.updateDatabase database fun d =>
    d.updateTable s.caseMode table (.tableNotFound database table) change

/-- Adds a table to the database that it names. -/
def addTable (s : Schema) (t : Table) : Except InvariantError Schema :=
  s.updateDatabase t.database fun d => .ok (d.addTable t)

/-! ## Summaries -/

/-- What the schema has where a target is looked for. -/
def surroundings (s : Schema) (target : Target) : List String :=
  match s.database? target.database with
  | none => ["no database " ++ backquoted target.database]
  | some d =>
    let tables := backquoted d.name ++ " tables [" ++ ", ".intercalate d.tableNames ++ "]"
    match target.table.bind (d.table? s.caseMode) with
    | none => [tables]
    | some t => [tables, backquoted d.name ++ "." ++ backquoted t.name ++ " columns [" ++
        t.summary ++ "]"]

/-- A line about the schema and what it has where a target is looked for, for messages. -/
def summary (s : Schema) (target : Option Target) : String :=
  "; ".intercalate <|
    (toString s.databases.length ++ " databases") :: (target.elim [] s.surroundings)

end Schema

end SchemaTrail
