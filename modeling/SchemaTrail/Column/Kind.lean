import SchemaTrail.Text.Blank
import SchemaTrail.Text.LetterCase

/-!
# Kinds of columns

A declared type is taken to its canonical name by `canonicalTypeName`, which knows the aliases, and
the canonical name with the attributes of the declaration to a `ColumnKind` by
`ColumnKind.declare?`. A kind determines the canonical name (`ColumnKind.typeName`) and holds the
attributes that matter for it.
-/

namespace SchemaTrail

/-! ## Canonical type names -/

/-- The smallest type of a family of texts or bytes that holds `length` bytes. -/
def sizedTypeName (family : String) (length : Nat) : String :=
  if length < Nat.pow 2 8 then "tiny" ++ family
  else if length < Nat.pow 2 16 then family
  else if length < Nat.pow 2 24 then "medium" ++ family
  else "long" ++ family

/-- The canonical name of a type in lower case.  A length picks the size of `text` and `blob`. -/
def resolveAlias (name : String) (length : Option Nat) : String :=
  match name with
  | "character" | "nchar" | "national char" | "national character" => "char"
  | "nvarchar" | "varying" | "character varying" | "char varying" | "nchar varying"
  | "national varchar" | "national character varying" | "national char varying" => "varchar"
  | "bool" | "boolean" | "int1" => "tinyint"
  | "int2" => "smallint"
  | "int3" | "middleint" => "mediumint"
  | "int4" | "integer" => "int"
  | "int8" | "serial" => "bigint"
  | "float4" => "float"
  | "real" | "float8" | "double precision" => "double"
  | "numeric" | "fixed" | "dec" => "decimal"
  | "long" | "long varchar" | "long char varying" => "mediumtext"
  | "long varbinary" => "mediumblob"
  | "geomcollection" => "geometrycollection"
  | "text" => length.elim "text" (sizedTypeName "text")
  | "blob" => length.elim "blob" (sizedTypeName "blob")
  | other => other

/-- The type of byte strings that corresponds to a type of texts. -/
def bytesTypeName (name : String) : String :=
  match name with
  | "char" => "binary"
  | "varchar" => "varbinary"
  | "tinytext" => "tinyblob"
  | "text" => "blob"
  | "mediumtext" => "mediumblob"
  | "longtext" => "longblob"
  | other => other

/-- The canonical name of a declared type; `byte` asks for byte strings. -/
def canonicalTypeName (declared : String) (byte : Bool) (length : Option Nat) : String :=
  let base := resolveAlias (Text.asciiLower (Text.trim declared)) length
  if byte then bytesTypeName base else base

/-! ## Kinds -/

/-- The size of an integer type. -/
inductive IntegerSize where
  | tiny | small | medium | regular | big
  deriving DecidableEq, Repr

/-- The size of a type of texts or byte strings. -/
inductive StringSize where
  | fixed | varying | tiny | regular | medium | long
  deriving DecidableEq, Repr

/-- The shape of a spatial type. -/
inductive Shape where
  | geometry | geometryCollection | lineString | multiLineString | multiPoint | multiPolygon
  | polygon | point
  deriving DecidableEq, Repr

/-- The number of digits of fractional seconds. -/
abbrev Precision := Fin 7

/-- The kind of a column. -/
inductive ColumnKind where
  | integer (size : IntegerSize) (signed : Bool)
  /-- Texts.  Without a charset the column takes that of its table. -/
  | text (size : StringSize) (charset : Option String)
  | bytes (size : StringSize)
  | float
  | double
  | decimal
  | date
  | datetime (precision : Precision)
  | timestamp (precision : Precision)
  | time (precision : Precision)
  | year
  | bit
  | enum (values : List String)
  | set (values : List String)
  | spatial (shape : Shape)
  | json
  deriving DecidableEq, Repr

/-- The charset of byte strings. -/
def binaryCharset : String := "binary"

/-- The number of bits of an integer. -/
def IntegerSize.bits : IntegerSize → Nat
  | .tiny => 8
  | .small => 16
  | .medium => 24
  | .regular => 32
  | .big => 64

/-- The canonical name of an integer type. -/
def IntegerSize.typeName : IntegerSize → String
  | .tiny => "tinyint"
  | .small => "smallint"
  | .medium => "mediumint"
  | .regular => "int"
  | .big => "bigint"

/-- The canonical name of a type of texts. -/
def StringSize.textName : StringSize → String
  | .fixed => "char"
  | .varying => "varchar"
  | .tiny => "tinytext"
  | .regular => "text"
  | .medium => "mediumtext"
  | .long => "longtext"

/-- The canonical name of a type of byte strings. -/
def StringSize.bytesName : StringSize → String
  | .fixed => "binary"
  | .varying => "varbinary"
  | .tiny => "tinyblob"
  | .regular => "blob"
  | .medium => "mediumblob"
  | .long => "longblob"

/-- The canonical name of a spatial type. -/
def Shape.typeName : Shape → String
  | .geometry => "geometry"
  | .geometryCollection => "geometrycollection"
  | .lineString => "linestring"
  | .multiLineString => "multilinestring"
  | .multiPoint => "multipoint"
  | .multiPolygon => "multipolygon"
  | .polygon => "polygon"
  | .point => "point"

namespace ColumnKind

/-- The canonical name of the type. -/
def typeName : ColumnKind → String
  | .integer size _ => size.typeName
  | .text size _ => size.textName
  | .bytes size => size.bytesName
  | .float => "float"
  | .double => "double"
  | .decimal => "decimal"
  | .date => "date"
  | .datetime _ => "datetime"
  | .timestamp _ => "timestamp"
  | .time _ => "time"
  | .year => "year"
  | .bit => "bit"
  | .enum _ => "enum"
  | .set _ => "set"
  | .spatial shape => shape.typeName
  | .json => "json"

/-- Whether an integer has a sign. -/
def signed? : ColumnKind → Option Bool
  | .integer _ signed => some signed
  | _ => none

/-- The charset of texts and byte strings. -/
def charset? : ColumnKind → Option String
  | .text _ charset => charset
  | .bytes _ => some binaryCharset
  | _ => none

/-- The values of an enumeration or set. -/
def values? : ColumnKind → Option (List String)
  | .enum values => some values
  | .set values => some values
  | _ => none

/-- The number of digits of fractional seconds of a temporal type. -/
def precision? : ColumnKind → Option Precision
  | .datetime p => some p
  | .timestamp p => some p
  | .time p => some p
  | _ => none

/-- Whether the values are byte strings. -/
def isBinary (k : ColumnKind) : Bool :=
  k.charset? = some binaryCharset

/-- Gives texts without a charset that of their table. -/
def inheritCharset (tableCharset : String) : ColumnKind → ColumnKind
  | .text size none => .text size (some tableCharset)
  | k => k

/-- Gives texts another charset.  Byte strings stay as they are. -/
def convertCharset (charset : String) (k : ColumnKind) : ColumnKind :=
  match k with
  | .text size _ => if k.isBinary then k else .text size (some charset)
  | _ => k

end ColumnKind

/-! ## Declarations -/

/-- What a declaration says besides the name of the type. -/
structure Attributes where
  /-- Whether the type is not declared unsigned. -/
  signed : Bool
  charset : Option String
  /-- The first number between the parentheses after the type. -/
  length : Option Nat
  /-- The values of an enumeration or set. -/
  values : List String
  /-- Whether texts are to be byte strings. -/
  byte : Bool
  deriving DecidableEq, Repr

/-- The number of digits of fractional seconds for a declared length. -/
def precisionOf (length : Option Nat) : Precision :=
  ⟨min (length.getD 0) 6, by omega⟩

/-- The kind of a type with a canonical name. -/
def ColumnKind.ofTypeName? (name : String) (signed : Bool) (charset : Option String)
    (length : Option Nat) (values : List String) : Option ColumnKind :=
  match name with
  | "tinyint" => some (.integer .tiny signed)
  | "smallint" => some (.integer .small signed)
  | "mediumint" => some (.integer .medium signed)
  | "int" => some (.integer .regular signed)
  | "bigint" => some (.integer .big signed)
  | "char" => some (.text .fixed charset)
  | "varchar" => some (.text .varying charset)
  | "tinytext" => some (.text .tiny charset)
  | "text" => some (.text .regular charset)
  | "mediumtext" => some (.text .medium charset)
  | "longtext" => some (.text .long charset)
  | "binary" => some (.bytes .fixed)
  | "varbinary" => some (.bytes .varying)
  | "tinyblob" => some (.bytes .tiny)
  | "blob" => some (.bytes .regular)
  | "mediumblob" => some (.bytes .medium)
  | "longblob" => some (.bytes .long)
  | "geometry" => some (.spatial .geometry)
  | "geometrycollection" => some (.spatial .geometryCollection)
  | "linestring" => some (.spatial .lineString)
  | "multilinestring" => some (.spatial .multiLineString)
  | "multipoint" => some (.spatial .multiPoint)
  | "multipolygon" => some (.spatial .multiPolygon)
  | "polygon" => some (.spatial .polygon)
  | "point" => some (.spatial .point)
  | "float" => some .float
  | "double" => some .double
  | "decimal" => some .decimal
  | "date" => some .date
  | "datetime" => some (.datetime (precisionOf length))
  | "timestamp" => some (.timestamp (precisionOf length))
  | "time" => some (.time (precisionOf length))
  | "year" => some .year
  | "bit" => some .bit
  | "enum" => some (.enum values)
  | "set" => some (.set values)
  | "json" => some .json
  | _ => none

/-- The kind that is declared.  `serial` is unsigned, whatever the attributes say; charsets are kept
in lower case. -/
def ColumnKind.declare? (declared : String) (a : Attributes) : Option ColumnKind :=
  ColumnKind.ofTypeName? (canonicalTypeName declared a.byte a.length)
    (a.signed && !Text.equalIgnoringCase declared "serial") (a.charset.map Text.asciiLower)
    a.length a.values

end SchemaTrail
