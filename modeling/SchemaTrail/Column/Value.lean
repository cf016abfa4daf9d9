import SchemaTrail.Calendar.Basic
import SchemaTrail.Decimal.Binary

/-!
# Row values

A `Value` is a value of a row as it is read from the log, before the column it belongs to is taken
into account.
-/

namespace SchemaTrail

/-- A value of a row. -/
inductive Value where
  | null
  /-- An integer, taken as signed whatever the column says; also a year, the place of a member in an
  enumeration, or the members of a set as bits. -/
  | integer (value : Int)
  /-- A number of the format of 32 bits. -/
  | float (value : Decimal.Binary)
  /-- A number of the format of 64 bits. -/
  | double (value : Decimal.Binary)
  | decimal (text : String)
  /-- Bytes in the charset of the column. -/
  | bytes (bytes : List UInt8)
  | text (text : String)
  | date (date : Date)
  | datetime (date : Date) (time : TimeOfDay)
  | time (time : TimeOfDay)
  | bits (value : Nat)
  | members (members : List String)
  deriving DecidableEq, Repr

/-- What a value is called in messages. -/
def Value.describe : Value → String
  | .null => "NULL"
  | .integer _ => "an integer"
  | .float _ | .double _ => "a float"
  | .decimal _ => "a decimal"
  | .bytes _ => "bytes"
  | .text _ => "text"
  | .date _ => "a date"
  | .datetime _ _ => "a datetime"
  | .time _ => "a time"
  | .bits _ => "a bit field"
  | .members _ => "a set"

end SchemaTrail
