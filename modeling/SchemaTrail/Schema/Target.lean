/-!
# Names of tables and targets

A table is named by its database and its own name.  Errors and changes are about a `Target`, which
is a database as a whole or one of its tables.
-/

namespace SchemaTrail

/-- The name of a table with its database. -/
structure TableName where
  database : String
  table : String
  deriving DecidableEq, Repr

/-- What an error is about: a database, or a table of it. -/
structure Target where
  database : String
  table : Option String
  deriving DecidableEq, Repr

/-- A name between backquotes. -/
def backquoted (name : String) : String :=
  "\x60" ++ name ++ "\x60"

/-- The target as a text. -/
def Target.text (t : Target) : String :=
  match t.table with
  | none => backquoted t.database
  | some table => backquoted t.database ++ "." ++ backquoted table

/-- The table as a target. -/
def TableName.target (t : TableName) : Target :=
  ⟨t.database, some t.table⟩

end SchemaTrail
