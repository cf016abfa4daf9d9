import SchemaTrail.Json.Lexer

/-!
# Reading JSON

`Json.read?` reads a text that holds exactly one value.  A `Builder` takes one token after the other
and holds the arrays and objects that are still open, the innermost first.  A value nested deeper
than `depthLimit` is flawed, and so is an object with a flawed key.
-/

namespace SchemaTrail.Json

/-- An array or object that is still open, with what it holds so far, last first. -/
inductive Frame where
  | array (items : List Json)
  /-- An object with the key whose value is awaited, and whether all its keys denote texts. -/
  | object (key : String) (fields : List (String × Json)) (sound : Bool)

/-- What has been read so far. -/
inductive Builder where
  /-- A value has to follow. -/
  | value (frames : List Frame)
  /-- An array was opened: its first item or its end follows. -/
  | firstItem (frames : List Frame)
  /-- An object was opened: its first key or its end follows. -/
  | firstKey (frames : List Frame)
  /-- A key has to follow. -/
  | key (fields : List (String × Json)) (sound : Bool) (frames : List Frame)
  /-- A key was read. -/
  | colon (frames : List Frame)
  /-- A value is complete. -/
  | complete (value : Json) (frames : List Frame)

/-- The deepest nesting of a value that can be taken as it is. -/
def depthLimit : Nat := 127

/-- An array or object that lies within `frames`. -/
def within (frames : List Frame) (j : Json) : Json :=
  if frames.length < depthLimit then j else .flawed

/-- Takes the first token of a value. -/
def startValue (frames : List Frame) : Token → Option Builder
  | .openArray => some (.firstItem frames)
  | .openObject => some (.firstKey frames)
  | .null => some (.complete .null frames)
  | .bool b => some (.complete (.bool b) frames)
  | .number n => some (.complete (.number n) frames)
  | .string s => some (.complete (.string s) frames)
  | .flawed => some (.complete .flawed frames)
  | _ => none

/-- Takes the key of a field. -/
def startField (fields : List (String × Json)) (sound : Bool) (frames : List Frame) :
    Token → Option Builder
  | .string k => some (.colon (.object k fields sound :: frames))
  | .flawed => some (.colon (.object "" fields false :: frames))
  | _ => none

/-- Takes what follows a complete value. -/
def afterValue (v : Json) : List Frame → Token → Option Builder
  | .array items :: frames, .comma => some (.value (.array (v :: items) :: frames))
  | .array items :: frames, .closeArray =>
    some (.complete (within frames (.array (v :: items).reverse)) frames)
  | .object k fields sound :: frames, .comma => some (.key ((k, v) :: fields) sound frames)
  | .object k fields sound :: frames, .closeObject =>
    let fields := ((k, v) :: fields).reverse
    some (.complete (within frames (if sound then .object fields else .flawed)) frames)
  | _, _ => none

/-- Takes one token. -/
def Builder.step : Builder → Token → Option Builder
  | .value frames, t => startValue frames t
  | .firstItem frames, .closeArray => some (.complete (within frames (.array [])) frames)
  | .firstItem frames, t => startValue (.array [] :: frames) t
  | .firstKey frames, .closeObject => some (.complete (within frames (.object [])) frames)
  | .firstKey frames, t => startField [] true frames t
  | .key fields sound frames, t => startField fields sound frames t
  | .colon frames, .colon => some (.value frames)
  | .colon _, _ => none
  | .complete v frames, t => afterValue v frames t

/-- The value that has been read, if nothing is missing. -/
def Builder.result? : Builder → Option Json
  | .complete v [] => some v
  | _ => none

/-- The value that a sequence of tokens makes up. -/
def build? (tokens : List Token) : Option Json :=
  (tokens.foldlM Builder.step (.value [])).bind Builder.result?

/-- The value that a text holds. -/
def read? (text : String) : Option Json :=
  (Token.readAll? text.toList).bind build?

end SchemaTrail.Json
