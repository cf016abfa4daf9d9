import SchemaTrail.Error
import SchemaTrail.Schema.FirstMatch
import SchemaTrail.Schema.Table

/-!
# Databases

A database holds its tables in the order of their creation.  How their names are compared is a
setting of the schema and therefore an argument here.
-/

namespace SchemaTrail

/-- A database. -/
structure Database where
  name : String
  /-- The charset of new tables. -/
  charset : String
  tables : List Table
  deriving DecidableEq, Repr

namespace Database

/-- The names of the tables. -/
def tableNames (d : Database) : List String :=
  d.tables.map Table.name

/-- The index of the first table with a name. -/
def tableIndex? (d : Database) (mode : CaseMode) (name : String) : Option Nat :=
  d.tables.findIdx? fun t => mode.namesEqual t.name name

/-- The first table with a name. -/
def table? (d : Database) (mode : CaseMode) (name : String) : Option Table :=
  d.tables.find? fun t => mode.namesEqual t.name name

/-- Whether there is a table with a name. -/
def hasTable (d : Database) (mode : CaseMode) (name : String) : Bool :=
  d.tables.any fun t => mode.namesEqual t.name name

/-- Adds a table at the end. -/
def addTable (d : Database) (t : Table) : Database :=
  { d with tables := d.tables ++ [t] }

/-- Puts other tables in the place of the first table with a name; `missing` is the error if there
is none. -/
def updateTable (d : Database) (mode : CaseMode) (name : String) (missing : InvariantError)
    (change : Table → List Table) : Except InvariantError Database :=
  (updateFirst (fun t => mode.namesEqual t.name name) missing (fun t => .ok (change t))
    d.tables).map fun tables => { d with tables }

end Database

end SchemaTrail
