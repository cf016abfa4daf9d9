import SchemaTrail.Column.Kind
import SchemaTrail.Error

/-!
# Columns

A column has a name, a kind, and its position in the table, counted from zero.  `Column.declare`
makes one from a declaration.
-/

namespace SchemaTrail

/-- A column of a table. -/
structure Column where
  name : String
  kind : ColumnKind
  position : Nat
  deriving DecidableEq, Repr

namespace Column

/-- The column that is declared.  Fails for a type that there is not. -/
def declare (name declared : String) (position : Nat) (a : Attributes) :
    Except SchemaError Column :=
  match ColumnKind.declare? declared a with
  | some kind => .ok ⟨name, kind, position⟩
  | none => .error (.unsupportedType name (canonicalTypeName declared a.byte a.length))

/-- The canonical name of the type. -/
def typeName (c : Column) : String :=
  c.kind.typeName

/-- The column with another name. -/
def renamed (c : Column) (name : String) : Column :=
  { c with name }

/-- The column at another position. -/
def movedTo (c : Column) (position : Nat) : Column :=
  { c with position }

/-- The column with the charset of its table, if it is one of texts without a charset. -/
def inheritCharset (tableCharset : String) (c : Column) : Column :=
  { c with kind := c.kind.inheritCharset tableCharset }

/-- The column with another charset, if it is one of texts. -/
def convertCharset (charset : String) (c : Column) : Column :=
  { c with kind := c.kind.convertCharset charset }

end Column

end SchemaTrail
