import SchemaTrail.Column.Basic
import SchemaTrail.Exclusions
import SchemaTrail.Schema.Target

/-!
# Requests

A `Request` is what a statement asks for, with nothing looked up: names are as they are written, and
the place of a column is said relative to another one.
-/

namespace SchemaTrail

/-- The place that an added or changed column is to have. -/
inductive Placement where
  /-- The last place, or the place that a changed column has. -/
  | standard
  | first
  | after (column : String)
  deriving DecidableEq, Repr

/-- The place as a text. -/
def Placement.text : Placement → String
  | .standard => "DEFAULT"
  | .first => "FIRST"
  | .after column => "AFTER " ++ column

/-- What is to be done to the columns of a table.  A guarded edit is passed over if it does not
apply. -/
inductive ColumnEdit where
  | add (column : Column) (placement : Placement) (guarded : Bool)
  /-- Puts another column in the place of a column with a name. -/
  | change (name : String) (column : Column) (placement : Placement) (guarded : Bool)
  | remove (name : String) (guarded : Bool)
  | rename (name newName : String)
  deriving DecidableEq, Repr

/-- What is to be done to a table. -/
structure TableEdit where
  columns : List ColumnEdit
  newName : Option TableName
  /-- The charset that the texts of the table are converted to. -/
  convertTo : Option String
  /-- The charset for columns to come. -/
  charset : Option String
  /-- The columns of the new primary key. -/
  primaryKey : Option (List String)
  deriving DecidableEq, Repr

/-- The edit that does nothing. -/
def TableEdit.empty : TableEdit := ⟨[], none, none, none, none⟩

/-- Whether nothing is done to columns, keys, charsets or the name. -/
def TableEdit.isEmpty (e : TableEdit) : Bool :=
  e = .empty

/-- What a new table consists of. -/
inductive TableSource where
  | columns (columns : List Column) (primaryKey : List String)
  /-- The columns and the key of another table. -/
  | like (table : TableName)
  deriving DecidableEq, Repr

/-- What a statement asks for.  A guarded request is passed over if what it creates is there, or
what it drops is not. -/
inductive Request where
  | createDatabase (database : String) (charset : Option String) (guarded : Bool)
  | alterDatabase (database : String) (charset : Option String)
  | dropDatabase (database : String) (guarded : Bool)
  | createTable (name : TableName) (source : TableSource) (charset : Option String)
      (guarded : Bool)
  | alterTable (name : TableName) (edit : TableEdit)
  | dropTable (name : TableName) (guarded : Bool)
  /-- Renames tables one after the other. -/
  | renameTables (renames : List (TableName × TableName))
  deriving DecidableEq, Repr

namespace Request

/-- What the request is about. -/
def target : Request → Target
  | .createDatabase database .. | .alterDatabase database _ | .dropDatabase database _ =>
    ⟨database, none⟩
  | .createTable name .. | .alterTable name _ | .dropTable name _ => name.target
  | .renameTables [] => ⟨"", none⟩
  | .renameTables ((source, _) :: _) => source.target

/-- Whether the table of the request is excluded; of several renames, all of their tables.  Requests
about databases are never excluded. -/
def isExcluded (x : Exclusions) : Request → Bool
  | .createDatabase .. | .alterDatabase .. | .dropDatabase .. => false
  | .createTable name .. | .alterTable name _ | .dropTable name _ =>
    x.hasTable name.database name.table
  | .renameTables renames =>
    !renames.isEmpty && renames.all fun r => x.hasTable r.1.database r.1.table

end Request

end SchemaTrail
