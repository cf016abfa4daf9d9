import SchemaTrail.Column.Wire
import SchemaTrail.Schema.Basic

/-!
# Layouts of rows

The log says of every row which types its columns have.  `Schema.layoutMismatches` compares that
with the columns of the table.
-/

namespace SchemaTrail

/-- Something in which a row and its table differ. -/
inductive LayoutMismatch where
  /-- The numbers of columns differ. -/
  | columnCount (tracked row : Nat)
  /-- A code of the row does not belong to the type of its column. -/
  | wireType (column : Column) (code : Nat)
  deriving DecidableEq, Repr

/-- The message of a mismatch. -/
def LayoutMismatch.message : LayoutMismatch → String
  | .columnCount tracked row =>
    "tracked " ++ toString tracked ++ " columns, row has " ++ toString row
  | .wireType column code =>
    "column " ++ column.name ++ " at " ++ toString column.position ++ " is " ++ column.typeName ++
      ", row has type code " ++ toString code

/-- Whether a code can belong to a column. -/
def Column.acceptsCode (c : Column) (code : Nat) : Bool :=
  (WireType.ofCode? code).any c.accepts

/-- What a row with the given codes and a table differ in.  Columns without a code are not
compared. -/
def Table.layoutMismatches (t : Table) (codes : List Nat) : List LayoutMismatch :=
  (if t.columns.size = codes.length then [] else [.columnCount t.columns.size codes.length]) ++
    ((t.columns.toList.zip codes).filter fun p => !p.1.acceptsCode p.2).map fun p =>
      .wireType p.1 p.2

/-- What a row with the given codes and its table differ in. -/
def Schema.layoutMismatches (s : Schema) (database table : String) (codes : List Nat) :
    Except InvariantError (List LayoutMismatch) :=
  (s.requireTable database table).map fun t => t.layoutMismatches codes

end SchemaTrail
