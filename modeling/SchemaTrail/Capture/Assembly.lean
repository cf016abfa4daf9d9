import SchemaTrail.Capture.Rows
import SchemaTrail.Schema.Basic
import SchemaTrail.Text.Occurrence
import SchemaTrail.Text.Split
import SchemaTrail.Token.Lexer

/-!
# Assembling a schema

`Capture.schema` puts captured rows together to a schema.  Types are classified like those of
statements, so that a captured schema can be compared with one that was tracked.
-/

namespace SchemaTrail

/-- The databases that the server keeps for itself. -/
def systemDatabases : List String :=
  ["information_schema", "performance_schema"]

/-- Whether a database is one that the server keeps for itself. -/
def isSystemDatabase (name : String) : Bool :=
  systemDatabases.any fun s => Text.equalIgnoringCase s name

/-! ## Columns -/

/-- What stands between the first opening and the last closing parenthesis of a type.  A closing
parenthesis may be missing, but there is none before the opening one only. -/
def betweenParentheses (columnType : String) : String :=
  match Text.splitFirst? '(' columnType with
  | none => ""
  | some (front, rest) =>
    match Text.splitLast? ')' rest with
    | some (inner, _) => inner
    | none => if front.toList.contains ')' then "" else rest

/-- The values that a type lists between quotes. -/
def writtenValues (columnType : String) : List String :=
  (Token.tokenize (betweenParentheses columnType)).filterMap fun t =>
    match t.kind with
    | .string value => some value
    | _ => none

/-- What a row says about a column besides the name of the type. -/
def CapturedColumn.attributes (c : CapturedColumn) : Attributes where
  signed := !Text.occursIn "unsigned".toList (Text.asciiLower c.columnType).toList
  charset := c.charset
  length := c.precision
  values := writtenValues c.columnType
  byte := false

/-- The column that a row describes. -/
def CapturedColumn.column (c : CapturedColumn) : Except SchemaError Column :=
  Column.declare c.name c.dataType (c.ordinal - 1) c.attributes

/-! ## Tables -/

/-- A schema that is being assembled, with the rows that no table has claimed yet. -/
structure Assembly where
  schema : Schema
  columns : List CapturedColumn
  keys : List CapturedKey

/-- Whether a column belongs to a table. -/
def CapturedTable.hasColumn (t : CapturedTable) (c : CapturedColumn) : Bool :=
  c.database = t.database && c.table = t.name

/-- Whether a column of a primary key belongs to a table. -/
def CapturedTable.hasKey (t : CapturedTable) (k : CapturedKey) : Bool :=
  k.database = t.database && k.table = t.name

/-- The table of a row with the given columns and primary key, each in the order of their
positions. -/
def CapturedTable.table (t : CapturedTable) (columns : List CapturedColumn)
    (keys : List CapturedKey) : Except SchemaError Table := do
  let ordered := columns.mergeSort fun a b => a.ordinal ≤ b.ordinal
  let columns ← ordered.mapM CapturedColumn.column
  let key := (keys.mergeSort fun a b => a.ordinal ≤ b.ordinal).map CapturedKey.column
  return .create t.database t.name t.charset columns key

/-- Adds the table of a row with its columns and its primary key. -/
def Assembly.addTable (a : Assembly) (row : CapturedTable) : Except SchemaError Assembly := do
  let t ← row.table (a.columns.filter row.hasColumn) (a.keys.filter row.hasKey)
  let schema ← (a.schema.addTable t).mapError .invariant
  return ⟨schema, a.columns.filter fun c => !row.hasColumn c, a.keys.filter fun k => !row.hasKey k⟩

/-- The schema that rows describe.  Databases of the server itself are passed over.  Fails for a
column of a table that has no row. -/
def Capture.schema (rows : Capture) (mode : CaseMode) : Except SchemaError Schema := do
  let databases := (rows.databases.filter fun d => !isSystemDatabase d.name).map fun d =>
    (⟨d.name, d.charset, []⟩ : Database)
  let start : Assembly := ⟨⟨rows.serverCharset, mode, databases⟩,
    rows.columns.filter fun c => !isSystemDatabase c.database,
    rows.keys.filter fun k => !isSystemDatabase k.database⟩
  let tables := rows.tables.filter fun t => !isSystemDatabase t.database
  let assembled ← tables.foldlM Assembly.addTable start
  match assembled.columns with
  | [] => return assembled.schema
  | c :: _ => throw (.invariant (.tableNotFound c.database c.table))

end SchemaTrail
