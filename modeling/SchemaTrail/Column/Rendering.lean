import SchemaTrail.Column.Basic
import SchemaTrail.Json.Approximation
import SchemaTrail.Json.Reader
import SchemaTrail.Text.Base64
import SchemaTrail.Text.Encoding

/-!
# Writing row values

`Column.interpret` takes a row value to what it means in a column, a `Meaning`.  From there
`Column.toSql` writes a literal of SQL and `Column.toJson` a value of JSON.
-/

namespace SchemaTrail

/-- What a row value means in its column. -/
inductive Meaning where
  | null
  | integer (value : Int)
  | number (digits : String)
  | text (text : String)
  | bytes (bytes : List UInt8)
  | members (members : List String)
  | document (text : String)
  deriving DecidableEq, Repr

/-! ## Numbers -/

/-- Numbers in SQL have no exponent. -/
def sqlLayout : Decimal.Layout :=
  ⟨fun _ => true, false, false, .up⟩

/-- A raw integer of `size`, negative ones taken as large if there is no sign. -/
def IntegerSize.reinterpret (size : IntegerSize) (signed : Bool) (v : Int) : Int :=
  if signed || 0 ≤ v then v else v + Nat.pow 2 size.bits

/-- The integer that a raw one stands for, worked out over words of 64 bits; none if a sum leaves
them.  The widest integers without a sign are read off the bits of the word. -/
def IntegerSize.meantByWord? (size : IntegerSize) (signed : Bool) (v : BitVec 64) : Option Int :=
  if signed then some v.toInt
  else if size = .big then some v.toNat
  else if 0 ≤ v.toInt then some v.toInt
  else if v.saddOverflow (1#64 <<< size.bits) then none
  else some (v + 1#64 <<< size.bits).toInt

/-! ## Enumerations and sets -/

/-- The member of an enumeration with a place, counted from one.  Place zero is the empty text. -/
def memberAt? (values : List String) (place : Int) : Option String :=
  if place = 0 then some ""
  else if place < 0 then none
  else values[place.toNat - 1]?

/-- The members of a set whose bit is set in a mask, where `place` is the bit of the first.  A mask
has sixty-four bits. -/
def maskedFrom (mask : Int) (place : Nat) : List String → List String
  | [] => []
  | v :: vs =>
    if place < 64 ∧ mask / Nat.pow 2 place % 2 = 1 then v :: maskedFrom mask (place + 1) vs
    else maskedFrom mask (place + 1) vs

/-! ## Interpretation -/

/-- The decoder of a charset. -/
def decoder? (charset : String) : Option (List UInt8 → String) :=
  match charset with
  | "utf8" | "utf8mb3" | "utf8mb4" => some Text.Encoding.utf8
  | "latin1" | "ascii" => some Text.Encoding.singleByte
  | "ucs2" | "utf16" => some Text.Encoding.utf16BigEndian
  | "utf16le" => some Text.Encoding.utf16LittleEndian
  | "utf32" => some Text.Encoding.utf32
  | _ => none

namespace Column

/-- The text that bytes in the charset of the column stand for. -/
def decode (c : Column) (charset : Option String) (bytes : List UInt8) :
    Except SchemaError String :=
  let charset := Text.asciiLower (charset.getD "utf8")
  match decoder? charset with
  | some decode => .ok (decode bytes)
  | none => .error (.unsupportedCharset c.name charset)

/-- The error of a value that does not fit the column. -/
def misfit (c : Column) (v : Value) : SchemaError :=
  .invalidValue c.name c.typeName v

/-- What a value means in the column. -/
def interpret (c : Column) (v : Value) : Except SchemaError Meaning :=
  match c.kind, v with
  | _, .null => .ok .null
  | .integer size signed, .integer n => .ok (.integer (size.reinterpret signed n))
  | .year, .integer n => .ok (.integer n)
  | .float, .float x | .double, .float x =>
    if x.isFinite then .ok (.number (sqlLayout.write .single x)) else .error (c.misfit v)
  | .float, .double x | .double, .double x =>
    if x.isFinite then .ok (.number (sqlLayout.write .double x)) else .error (c.misfit v)
  | .decimal, .decimal text => .ok (.number text)
  | .bytes _, .bytes bytes | .spatial _, .bytes bytes => .ok (.bytes bytes)
  | .text _ charset, .bytes bytes =>
    if charset = some binaryCharset then .ok (.bytes bytes)
    else (c.decode charset bytes).map .text
  | .date, .date d => .ok (.text d.text)
  | .datetime p, .datetime d t | .timestamp p, .datetime d t =>
    .ok (.text (d.text ++ " " ++ t.text p.val))
  | .time p, .time t => .ok (.text (t.text p.val))
  | .bit, .bits n => .ok (.integer n)
  | .enum values, .integer place =>
    (memberAt? values place).elim (.error (c.misfit v)) fun member => .ok (.text member)
  | .set values, .integer mask => .ok (.members (maskedFrom mask 0 values))
  | .set _, .members members => .ok (.members members)
  | .text _ _, .text s | .bytes _, .text s | .date, .text s | .datetime _, .text s
  | .timestamp _, .text s | .time _, .text s | .enum _, .text s | .set _, .text s =>
    .ok (.text s)
  | .json, .text s => .ok (.document s)
  | _, _ => .error (c.misfit v)

end Column

/-! ## SQL -/

/-- A character within a text of SQL. -/
def sqlChar : Char → List Char
  | '\'' => ['\'', '\'']
  | '\\' => ['\\', '\\']
  | '\n' => ['\\', 'n']
  | '\r' => ['\\', 'r']
  | '\t' => ['\\', 't']
  | '\x00' => ['\\', '0']
  | '\x1a' => ['\\', 'Z']
  | c => [c]

/-- A text as a literal of SQL. -/
def sqlText (s : String) : String :=
  String.ofList ('\'' :: s.toList.flatMap sqlChar ++ ['\''])

/-- The literal of SQL for a meaning. -/
def Meaning.toSql : Meaning → String
  | .null => "NULL"
  | .integer n => toString n
  | .number digits => digits
  | .text s | .document s => sqlText s
  | .bytes b => "x'" ++ Text.Hex.encode b ++ "'"
  | .members ms => sqlText (",".intercalate ms)

/-- The value of JSON for a meaning.  Nothing for a document that cannot be read. -/
def Meaning.toJson? : Meaning → Option Json
  | .null => some .null
  | .integer n => some (.ofInt n)
  | .number digits => some ((Json.ofNumeral? digits).getD (.string digits))
  | .text s => some (.string s)
  | .bytes b => some (.string (Text.Base64.encode b))
  | .members ms => some (.ofStrings ms)
  | .document s => (Json.read? s).bind Json.normalize?

namespace Column

/-- Writes a value as a literal of SQL. -/
def valueToSql (c : Column) (v : Value) : Except SchemaError String :=
  (c.interpret v).map Meaning.toSql

/-- Writes a value as a value of JSON. -/
def valueToJson (c : Column) (v : Value) : Except SchemaError Json :=
  (c.interpret v).bind fun m =>
    match m.toJson? with
    | some j => .ok j
    | none => .error (c.misfit v)

end Column

end SchemaTrail
