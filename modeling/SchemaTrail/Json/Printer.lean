import SchemaTrail.Json.Value

/-!
# Writing JSON

`Json.compress` writes a value without blanks, `Json.pretty` with two blanks of indentation for
every level.  Fields are written in the order in which they stand; `Json.sortKeys` puts them in
increasing order first.
-/

namespace SchemaTrail.Json

/-- A character within a string. -/
def escapeChar (c : Char) : List Char :=
  match c with
  | '"' => ['\\', '"']
  | '\\' => ['\\', '\\']
  | '\n' => ['\\', 'n']
  | '\r' => ['\\', 'r']
  | '\t' => ['\\', 't']
  | '\x08' => ['\\', 'b']
  | '\x0c' => ['\\', 'f']
  | c =>
    if c.toNat < 0x20 then
      ['\\', 'u', '0', '0', Nat.digitChar (c.toNat / 16), Nat.digitChar (c.toNat % 16)]
    else [c]

/-- A string between quotes. -/
def quote (s : String) : List Char :=
  '"' :: s.toList.flatMap escapeChar ++ ['"']

mutual

/-- The characters of a value, without blanks. -/
def chars : Json → List Char
  | .null => ['n', 'u', 'l', 'l']
  | .bool true => ['t', 'r', 'u', 'e']
  | .bool false => ['f', 'a', 'l', 's', 'e']
  | .number literal => literal.toList
  | .string s => quote s
  | .array [] => ['[', ']']
  | .array (x :: xs) => '[' :: chars x ++ itemChars xs ++ [']']
  | .object [] => ['{', '}']
  | .object ((k, v) :: fs) => '{' :: quote k ++ [':'] ++ chars v ++ fieldChars fs ++ ['}']
  | .flawed => []

/-- The characters of the items after the first. -/
def itemChars : List Json → List Char
  | [] => []
  | x :: xs => ',' :: chars x ++ itemChars xs

/-- The characters of the fields after the first. -/
def fieldChars : List (String × Json) → List Char
  | [] => []
  | (k, v) :: fs => ',' :: quote k ++ [':'] ++ chars v ++ fieldChars fs

end

/-- The text of a value, without blanks. -/
def compress (j : Json) : String :=
  String.ofList j.chars

/-! ## Indentation -/

/-- The start of a line, `depth` levels deep. -/
def lineStart (depth : Nat) : List Char :=
  '\n' :: List.replicate (2 * depth) ' '

mutual

/-- The characters of a value `depth` levels deep, an item or field on a line. -/
def prettyChars (depth : Nat) : Json → List Char
  | .array (x :: xs) =>
    '[' :: lineStart (depth + 1) ++ prettyChars (depth + 1) x ++ prettyItems (depth + 1) xs ++
      lineStart depth ++ [']']
  | .object ((k, v) :: fs) =>
    '{' :: lineStart (depth + 1) ++ quote k ++ [':', ' '] ++ prettyChars (depth + 1) v ++
      prettyFields (depth + 1) fs ++ lineStart depth ++ ['}']
  | j => chars j

/-- The lines of the items after the first. -/
def prettyItems (depth : Nat) : List Json → List Char
  | [] => []
  | x :: xs => ',' :: lineStart depth ++ prettyChars depth x ++ prettyItems depth xs

/-- The lines of the fields after the first. -/
def prettyFields (depth : Nat) : List (String × Json) → List Char
  | [] => []
  | (k, v) :: fs =>
    ',' :: lineStart depth ++ quote k ++ [':', ' '] ++ prettyChars depth v ++ prettyFields depth fs

end

/-- The text of a value, indented. -/
def pretty (j : Json) : String :=
  String.ofList (prettyChars 0 j)

/-! ## Order of fields -/

/-- Puts a field into a list in increasing order of names, in place of one of the same name. -/
def insertField (name : String) (value : Json) : List (String × Json) → List (String × Json)
  | [] => [(name, value)]
  | (k, v) :: fs =>
    if name = k then (name, value) :: fs
    else if name < k then (name, value) :: (k, v) :: fs
    else (k, v) :: insertField name value fs

mutual

/-- The value with the fields of all objects in increasing order of names; of fields of one name the
last is kept. -/
def sortKeys : Json → Json
  | .array items => .array (sortItems items)
  | .object fields => .object (sortFields fields [])
  | j => j

/-- The items, each with its fields in order. -/
def sortItems : List Json → List Json
  | [] => []
  | x :: xs => sortKeys x :: sortItems xs

/-- Moves fields, each value with its own fields in order, to a list in increasing order. -/
def sortFields : List (String × Json) → List (String × Json) → List (String × Json)
  | [], sorted => sorted
  | (k, v) :: fs, sorted => sortFields fs (insertField k (sortKeys v) sorted)

end

end SchemaTrail.Json
