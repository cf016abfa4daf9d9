import SchemaTrail.Schema.Basic
import SchemaTrail.Statement.Request

/-!
# Editing the columns of a table

`Table.editColumn` does one column edit to a table, `Table.editColumns` several, each to the columns
that the one before has left.  The primary key follows the columns.
-/

namespace SchemaTrail

/-- The index that a placement means in a list of columns; `standard` is that of the standard
placement. -/
def Placement.index (p : Placement) (here : TableName) (columns : ColumnList) (standard : Nat) :
    Except InvariantError Nat :=
  match p with
  | .standard => .ok standard
  | .first => .ok 0
  | .after name =>
    match columns.indexOf? name with
    | some index => .ok (index + 1)
    | none => .error (.columnNotFound here.database here.table name)

namespace Table

/-- Adds a column, whose texts take the charset of the table if they have none. -/
def insertColumn (t : Table) (index : Nat) (column : Column) : Table :=
  { t with columns := t.columns.insert index (column.inheritCharset t.charset) }

/-- Takes out the column at an index. -/
def eraseColumn (t : Table) (index : Nat) : Table :=
  { t with columns := t.columns.erase index }

/-- Gives the column at an index another name. -/
def renameColumn (t : Table) (index : Nat) (name : String) : Table :=
  { t with columns := t.columns.modify index (·.renamed name) }

variable (here : TableName) (t : Table)

/-- Adds a column that there is not yet. -/
def addColumn (column : Column) (placement : Placement) (guarded : Bool) :
    Except InvariantError Table := do
  if t.columns.contains column.name then
    if guarded then return t
    else throw (.columnExists here.database here.table column.name)
  else
    let index ← placement.index here t.columns t.columns.size
    return t.insertColumn index column

/-- Puts a column in the place of another, perhaps under another name. -/
def changeColumn (name : String) (column : Column) (placement : Placement) (guarded : Bool) :
    Except InvariantError Table := do
  match t.columns.indexOf? name with
  | none =>
    if guarded then return t
    else throw (.columnNotFound here.database here.table name)
  | some current =>
    let renamed := !columnNamesEqual name column.name
    if renamed && t.columns.contains column.name then
      throw (.columnExists here.database here.table column.name)
    let without := t.eraseColumn current
    let index ← placement.index here without.columns current
    let changed := without.insertColumn index column
    return if renamed then changed.renameKeyColumn name column.name else changed

/-- Removes a column. -/
def removeColumn (name : String) (guarded : Bool) : Except InvariantError Table :=
  match t.columns.indexOf? name with
  | some index => .ok ((t.eraseColumn index).dropKeyColumn name)
  | none =>
    if guarded then .ok t
    else .error (.columnNotFound here.database here.table name)

/-- Gives a column another name, which no other column has. -/
def renameColumnTo (name newName : String) : Except InvariantError Table :=
  match t.columns.indexOf? name with
  | none => .error (.columnNotFound here.database here.table name)
  | some index =>
    if !columnNamesEqual name newName && t.columns.contains newName then
      .error (.columnExists here.database here.table newName)
    else .ok ((t.renameColumn index newName).renameKeyColumn name newName)

/-- Does one edit.  Errors name the table as `here`. -/
def editColumn : ColumnEdit → Except InvariantError Table
  | .add column placement guarded => t.addColumn here column placement guarded
  | .change name column placement guarded => t.changeColumn here name column placement guarded
  | .remove name guarded => t.removeColumn here name guarded
  | .rename name newName => t.renameColumnTo here name newName

/-- Does edits one after the other. -/
def editColumns (edits : List ColumnEdit) : Except InvariantError Table :=
  edits.foldlM (editColumn here) t

end Table

end SchemaTrail
