import SchemaTrail.Text.LetterCase
import SchemaTrail.Text.Split

/-!
# Excluded databases and tables

`Exclusions` lists databases and single tables that are not tracked.  Their names are compared
without letter case.
-/

namespace SchemaTrail

/-- The databases and tables that are excluded, in lower case. -/
structure Exclusions where
  databases : List String
  tables : List (String × String)
  deriving DecidableEq, Repr

namespace Exclusions

/-- Excludes nothing. -/
def empty : Exclusions := ⟨[], []⟩

/-- Excludes a whole database. -/
def excludeDatabase (x : Exclusions) (database : String) : Exclusions :=
  { x with databases := Text.lower database :: x.databases }

/-- Excludes one table. -/
def excludeTable (x : Exclusions) (database table : String) : Exclusions :=
  { x with tables := (Text.lower database, Text.lower table) :: x.tables }

/-- Excludes what an entry names: a database, or a table after the database and a point. -/
def excludeEntry (x : Exclusions) (entry : String) : Exclusions :=
  match Text.splitFirst? '.' entry with
  | some (database, table) => x.excludeTable database table
  | none => x.excludeDatabase entry

/-- Excludes what a list of entries names. -/
def ofEntries (entries : List String) : Exclusions :=
  entries.foldl excludeEntry empty

/-- Whether all tables of a database are excluded. -/
def hasDatabase (x : Exclusions) (database : String) : Bool :=
  x.databases.contains (Text.lower database)

/-- Whether a table is excluded, by itself or with its database. -/
def hasTable (x : Exclusions) (database table : String) : Bool :=
  x.hasDatabase database || x.tables.contains (Text.lower database, Text.lower table)

end Exclusions

end SchemaTrail
