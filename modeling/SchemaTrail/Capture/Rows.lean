import SchemaTrail.Json.Record

/-!
# Captured rows

What a server says about its databases comes as rows: one for each database, table, column, and
column of a primary key.  `Capture` holds them as they were read.
-/

namespace SchemaTrail

/-- The row of a database. -/
structure CapturedDatabase where
  name : String
  charset : String
  deriving DecidableEq, Repr

/-- The row of a table. -/
structure CapturedTable where
  database : String
  name : String
  charset : String
  deriving DecidableEq, Repr

/-- The row of a column. -/
structure CapturedColumn where
  database : String
  table : String
  name : String
  /-- The position in the table, counted from one. -/
  ordinal : Nat
  /-- The bare name of the type. -/
  dataType : String
  /-- The type with all that belongs to it, such as the values of an enumeration. -/
  columnType : String
  charset : Option String
  precision : Option Nat
  deriving DecidableEq, Repr

/-- The row of a column of a primary key. -/
structure CapturedKey where
  database : String
  table : String
  column : String
  /-- The position in the key, counted from one. -/
  ordinal : Nat
  deriving DecidableEq, Repr

/-- All rows that were read. -/
structure Capture where
  serverCharset : String
  databases : List CapturedDatabase
  tables : List CapturedTable
  columns : List CapturedColumn
  keys : List CapturedKey
  deriving DecidableEq, Repr

/-! ## JSON -/

namespace CapturedDatabase

/-- The row in JSON. -/
def toJson (d : CapturedDatabase) : Json :=
  .object [("name", .string d.name), ("charset", .string d.charset)]

/-- Reads a row. -/
def ofJson? (j : Json) : Option CapturedDatabase := do
  let r ← j.record? ["name", "charset"]
  let name ← r.required? "name" Json.string?
  let charset ← r.required? "charset" Json.string?
  return ⟨name, charset⟩

end CapturedDatabase

namespace CapturedTable

/-- The row in JSON. -/
def toJson (t : CapturedTable) : Json :=
  .object [("database", .string t.database), ("name", .string t.name),
    ("charset", .string t.charset)]

/-- Reads a row. -/
def ofJson? (j : Json) : Option CapturedTable := do
  let r ← j.record? ["database", "name", "charset"]
  let database ← r.required? "database" Json.string?
  let name ← r.required? "name" Json.string?
  let charset ← r.required? "charset" Json.string?
  return ⟨database, name, charset⟩

end CapturedTable

namespace CapturedColumn

/-- The row in JSON. -/
def toJson (c : CapturedColumn) : Json :=
  .object [("database", .string c.database), ("table", .string c.table), ("name", .string c.name),
    ("ordinal-position", .ofNat c.ordinal), ("data-type", .string c.dataType),
    ("column-type", .string c.columnType), ("charset", .ofString? c.charset),
    ("datetime-precision", c.precision.elim .null .ofNat)]

/-- Reads a row. -/
def ofJson? (j : Json) : Option CapturedColumn := do
  let r ← j.record? ["database", "table", "name", "ordinal-position", "data-type", "column-type",
    "charset", "datetime-precision"]
  let database ← r.required? "database" Json.string?
  let table ← r.required? "table" Json.string?
  let name ← r.required? "name" Json.string?
  let ordinal ← r.required? "ordinal-position" (Json.word? 64)
  let dataType ← r.required? "data-type" Json.string?
  let columnType ← r.required? "column-type" Json.string?
  let charset ← r.optional? "charset" Json.string?
  let precision ← r.optional? "datetime-precision" (Json.word? 64)
  return ⟨database, table, name, ordinal, dataType, columnType, charset, precision⟩

end CapturedColumn

namespace CapturedKey

/-- The row in JSON. -/
def toJson (k : CapturedKey) : Json :=
  .object [("database", .string k.database), ("table", .string k.table),
    ("column", .string k.column), ("ordinal-position", .ofNat k.ordinal)]

/-- Reads a row. -/
def ofJson? (j : Json) : Option CapturedKey := do
  let r ← j.record? ["database", "table", "column", "ordinal-position"]
  let database ← r.required? "database" Json.string?
  let table ← r.required? "table" Json.string?
  let column ← r.required? "column" Json.string?
  let ordinal ← r.required? "ordinal-position" (Json.word? 64)
  return ⟨database, table, column, ordinal⟩

end CapturedKey

namespace Capture

/-- The rows in JSON. -/
def toJson (c : Capture) : Json :=
  .object [("server-charset", .string c.serverCharset),
    ("databases", .array (c.databases.map CapturedDatabase.toJson)),
    ("tables", .array (c.tables.map CapturedTable.toJson)),
    ("columns", .array (c.columns.map CapturedColumn.toJson)),
    ("primary-keys", .array (c.keys.map CapturedKey.toJson))]

/-- Reads rows; what is missing is empty. -/
def ofJson? (j : Json) : Option Capture := do
  let r ← j.record? ["server-charset", "databases", "tables", "columns", "primary-keys"]
  let serverCharset ← r.orElse? "server-charset" "" Json.string?
  let databases ← r.orElse? "databases" [] (Json.list? CapturedDatabase.ofJson?)
  let tables ← r.orElse? "tables" [] (Json.list? CapturedTable.ofJson?)
  let columns ← r.orElse? "columns" [] (Json.list? CapturedColumn.ofJson?)
  let keys ← r.orElse? "primary-keys" [] (Json.list? CapturedKey.ofJson?)
  return ⟨serverCharset, databases, tables, columns, keys⟩

end Capture

end SchemaTrail
