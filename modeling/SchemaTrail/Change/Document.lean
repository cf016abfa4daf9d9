import SchemaTrail.Change.Basic
import SchemaTrail.Json.Approximation
import SchemaTrail.Schema.Document

/-!
# Changes in JSON

A change is written as a record with its kind in the field `type`.  It is read from an object with
that field in any place, or from an array of the kind and the components.  Nothing in the value may
be flawed, not even in fields that are passed over.
-/

namespace SchemaTrail

namespace Rename

/-- The renamed table in JSON. -/
def toJson (r : Rename) : Json :=
  .object [("database", .string r.database), ("table", .string r.table),
    ("def", r.definition.toJson)]

/-- Reads a renamed table. -/
def ofJson? (j : Json) : Option Rename := do
  let r ← j.record? ["database", "table", "def"]
  let database ← r.required? "database" Json.string?
  let table ← r.required? "table" Json.string?
  let definition ← r.required? "def" Table.ofJson?
  return ⟨database, table, definition⟩

end Rename

namespace Change

/-- The components of a change, without its kind. -/
def components : Change → Record
  | .createDatabase database charset =>
    [("database", .string database), ("charset", .string charset)]
  | .alterDatabase database charset tables =>
    [("database", .string database), ("charset", .string charset)] ++
      if tables.isEmpty then [] else [("tables", .ofStrings tables)]
  | .dropDatabase database => [("database", .string database)]
  | .createTable database table definition =>
    [("database", .string database), ("table", .string table), ("def", definition.toJson)]
  | .alterTable database table old definition =>
    [("database", .string database), ("table", .string table), ("old", old.toJson),
      ("def", definition.toJson)]
  | .dropTable database table => [("database", .string database), ("table", .string table)]
  | .renameTables renames => [("renames", .array (renames.map Rename.toJson))]

/-- The kind and the components of a change, as fields. -/
def fields (c : Change) : Record :=
  ("type", .string c.kind) :: c.components

/-- The change in JSON. -/
def toJson (c : Change) : Json :=
  .object c.fields

/-- The names of the kinds, in the order in which they are counted. -/
def kinds : List String :=
  ["database-create", "database-alter", "database-drop", "table-create", "table-alter",
    "table-drop", "table-rename"]

/-- Reads a change of a kind from its components. -/
def ofComponents? (kind : String) (j : Json) : Option Change :=
  match kind with
  | "database-create" => do
    let r ← j.record? ["database", "charset"]
    let database ← r.required? "database" Json.string?
    let charset ← r.required? "charset" Json.string?
    return .createDatabase database charset
  | "database-alter" => do
    let r ← j.record? ["database", "charset", "tables"]
    let database ← r.required? "database" Json.string?
    let charset ← r.required? "charset" Json.string?
    let tables ← r.orElse? "tables" [] (Json.list? Json.string?)
    return .alterDatabase database charset tables
  | "database-drop" => do
    let r ← j.record? ["database"]
    let database ← r.required? "database" Json.string?
    return .dropDatabase database
  | "table-create" => do
    let r ← j.record? ["database", "table", "def"]
    let database ← r.required? "database" Json.string?
    let table ← r.required? "table" Json.string?
    let definition ← r.required? "def" Table.ofJson?
    return .createTable database table definition
  | "table-alter" => do
    let r ← j.record? ["database", "table", "old", "def"]
    let database ← r.required? "database" Json.string?
    let table ← r.required? "table" Json.string?
    let old ← r.required? "old" Table.ofJson?
    let definition ← r.required? "def" Table.ofJson?
    return .alterTable database table old definition
  | "table-drop" => do
    let r ← j.record? ["database", "table"]
    let database ← r.required? "database" Json.string?
    let table ← r.required? "table" Json.string?
    return .dropTable database table
  | "table-rename" => do
    let r ← j.record? ["renames"]
    let renames ← r.required? "renames" (Json.list? Rename.ofJson?)
    return .renameTables renames
  | _ => none

/-- Reads a change from an object that says its kind in exactly one field, where `kindOf?` reads the
kind. -/
def ofFields? (kindOf? : Json → Option String) (fields : Record) : Option Change := do
  let kind ← match fields.filter (·.1 = "type") with
    | [(_, kind)] => kindOf? kind
    | _ => none
  ofComponents? kind (.object (fields.filter (·.1 ≠ "type")))

/-- Reads a change. -/
def ofJson? (j : Json) : Option Change := do
  match ← j.normalizeNumbers? with
  | .object fields => ofFields? Json.string? fields
  | .array (.string kind :: components) => ofComponents? kind (.array components)
  | _ => none

end Change

end SchemaTrail
