import SchemaTrail.Column.Document
import SchemaTrail.Schema.Basic

/-!
# Schemas in JSON

Tables, databases and schemas are records in JSON.  The columns of a table are numbered when they
are read, in the order in which they stand.
-/

namespace SchemaTrail

/-- The columns in JSON. -/
def ColumnList.toJson (l : ColumnList) : Json :=
  .array (l.toList.map Column.toJson)

/-- Reads columns. -/
def ColumnList.ofJson? (j : Json) : Option ColumnList :=
  (j.list? Column.ofJson?).map ColumnList.ofList

namespace Table

/-- The table in JSON. -/
def toJson (t : Table) : Json :=
  .object [("database", .string t.database), ("table", .string t.name),
    ("charset", .string t.charset), ("primary-key", .ofStrings t.primaryKey),
    ("columns", t.columns.toJson)]

/-- Reads a table. -/
def ofJson? (j : Json) : Option Table := do
  let r ← j.record? ["database", "table", "charset", "primary-key", "columns"]
  let database ← r.required? "database" Json.string?
  let name ← r.required? "table" Json.string?
  let charset ← r.required? "charset" Json.string?
  let primaryKey ← r.orElse? "primary-key" [] (Json.list? Json.string?)
  let columns ← r.required? "columns" ColumnList.ofJson?
  return ⟨database, name, charset, primaryKey, columns⟩

end Table

namespace Database

/-- The database in JSON. -/
def toJson (d : Database) : Json :=
  .object [("name", .string d.name), ("charset", .string d.charset),
    ("tables", .array (d.tables.map Table.toJson))]

/-- Reads a database. -/
def ofJson? (j : Json) : Option Database := do
  let r ← j.record? ["name", "charset", "tables"]
  let name ← r.required? "name" Json.string?
  let charset ← r.required? "charset" Json.string?
  let tables ← r.orElse? "tables" [] (Json.list? Table.ofJson?)
  return ⟨name, charset, tables⟩

end Database

namespace Schema

/-- The schema in JSON. -/
def toJson (s : Schema) : Json :=
  .object [("charset", .string s.charset), ("case-sensitivity", .string s.caseMode.name),
    ("databases", .array (s.databases.map Database.toJson))]

/-- Reads a schema. -/
def ofJson? (j : Json) : Option Schema := do
  let r ← j.record? ["charset", "case-sensitivity", "databases"]
  let charset ← r.required? "charset" Json.string?
  let caseMode ← r.orElse? "case-sensitivity" .sensitive (Json.oneOf? CaseMode.names)
  let databases ← r.orElse? "databases" [] (Json.list? Database.ofJson?)
  return ⟨charset, caseMode, databases⟩

end Schema

end SchemaTrail
