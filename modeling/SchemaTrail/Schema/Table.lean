import SchemaTrail.Schema.ColumnList

/-!
# Tables

A table knows the name of its database.  Its charset is the one that columns of texts without a
charset take when they are added.
-/

namespace SchemaTrail

/-- A table of a database. -/
structure Table where
  database : String
  name : String
  charset : String
  /-- The names of the columns of the primary key, in the order of the key. -/
  primaryKey : List String
  columns : ColumnList
  deriving DecidableEq, Repr

namespace Table

/-- A new table.  Columns of texts without a charset take that of the table. -/
def create (database name charset : String) (columns : List Column) (primaryKey : List String) :
    Table :=
  ⟨database, name, charset, primaryKey, .ofList (columns.map (·.inheritCharset charset))⟩

/-- The first column with a name. -/
def column? (t : Table) (name : String) : Option Column :=
  t.columns.find? name

/-- Whether a column belongs to the primary key. -/
def isKeyColumn (t : Table) (column : String) : Bool :=
  t.primaryKey.any fun key => columnNamesEqual key column

/-- The table under another name, perhaps in another database. -/
def relocated (t : Table) (database name : String) : Table :=
  { t with database, name }

/-- The columns with their types, for messages. -/
def summary (t : Table) : String :=
  ", ".intercalate (t.columns.toList.map fun c => c.name ++ " " ++ c.typeName)

/-- Gives the table and its columns of texts another charset. -/
def convertTo (t : Table) (charset : String) : Table :=
  { t with charset, columns := t.columns.map (·.convertCharset charset) }

/-- Follows the renaming of a column in the primary key. -/
def renameKeyColumn (t : Table) (old new : String) : Table :=
  { t with primaryKey := t.primaryKey.map fun key => if columnNamesEqual key old then new else key }

/-- Drops a column from the primary key. -/
def dropKeyColumn (t : Table) (column : String) : Table :=
  { t with primaryKey := t.primaryKey.filter fun key => !columnNamesEqual key column }

end Table

end SchemaTrail
