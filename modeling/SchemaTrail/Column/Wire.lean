import SchemaTrail.Column.Basic

/-!
# Types on the wire

The log describes the columns of a row by codes.  `WireType` lists the types that have a code, and
`Column.accepts` says which of them can belong to a column; any other shows that the schema is out
of date.
-/

namespace SchemaTrail

/-- A type of the log. -/
inductive WireType where
  | decimal | tiny | short | long | float | double | null | timestamp | longLong | int24
  | date | time | dateTime | year | newDate | varchar | bit | timestamp2 | dateTime2 | time2
  | json | newDecimal | enum | set | tinyBlob | mediumBlob | longBlob | blob | varString
  | string | geometry
  deriving DecidableEq, Repr

namespace WireType

/-- All types with their codes and names. -/
def all : List (WireType × Nat × String) :=
  [(.decimal, 0, "Decimal"), (.tiny, 1, "Tiny"), (.short, 2, "Short"), (.long, 3, "Long"),
    (.float, 4, "Float"), (.double, 5, "Double"), (.null, 6, "Null"),
    (.timestamp, 7, "Timestamp"), (.longLong, 8, "LongLong"), (.int24, 9, "Int24"),
    (.date, 10, "Date"), (.time, 11, "Time"), (.dateTime, 12, "DateTime"), (.year, 13, "Year"),
    (.newDate, 14, "NewDate"), (.varchar, 15, "Varchar"), (.bit, 16, "Bit"),
    (.timestamp2, 17, "Timestamp2"), (.dateTime2, 18, "DateTime2"), (.time2, 19, "Time2"),
    (.json, 245, "Json"), (.newDecimal, 246, "NewDecimal"), (.enum, 247, "Enum"),
    (.set, 248, "Set"), (.tinyBlob, 249, "TinyBlob"), (.mediumBlob, 250, "MediumBlob"),
    (.longBlob, 251, "LongBlob"), (.blob, 252, "Blob"), (.varString, 253, "VarString"),
    (.string, 254, "String"), (.geometry, 255, "Geometry")]

/-- The type with a code. -/
def ofCode? (code : Nat) : Option WireType :=
  (all.find? (·.2.1 = code)).map (·.1)

/-- The code and the name of a type. -/
def entry (w : WireType) : Nat × String :=
  ((all.find? (·.1 = w)).map (·.2)).getD (0, "")

/-- The code of a type. -/
def code (w : WireType) : Nat :=
  w.entry.1

/-- The name of a type. -/
def name (w : WireType) : String :=
  w.entry.2

end WireType

/-- The type that an integer of a size has in the log. -/
def IntegerSize.wireType : IntegerSize → WireType
  | .tiny => .tiny
  | .small => .short
  | .medium => .int24
  | .regular => .long
  | .big => .longLong

/-- The types that a column of a kind can have in the log. -/
def ColumnKind.wireTypes : ColumnKind → List WireType
  | .integer size _ => [size.wireType]
  | .text .. | .bytes _ =>
    [.varchar, .varString, .string, .tinyBlob, .mediumBlob, .longBlob, .blob]
  | .float => [.float]
  | .double => [.double]
  | .decimal => [.decimal, .newDecimal]
  | .timestamp _ => [.timestamp, .timestamp2]
  | .datetime _ => [.dateTime, .dateTime2]
  | .date => [.date, .newDate]
  | .time _ => [.time, .time2]
  | .year => [.year]
  | .bit => [.bit]
  | .enum _ => [.enum, .string]
  | .set _ => [.set, .string]
  | .spatial _ => [.geometry]
  | .json => [.json]

/-- Whether a column of the log can belong to a column. -/
def Column.accepts (c : Column) (w : WireType) : Bool :=
  c.kind.wireTypes.contains w

end SchemaTrail
