import SchemaTrail.Capture.Assembly
import SchemaTrail.Column.Rendering
import SchemaTrail.Proofs.Documents
import SchemaTrail.Proofs.ScannedWords

/-!
# Types of captured columns

A server writes the type of a column with all that belongs to it: `unsigned` after an integer, and
the values of an enumeration or set as texts of SQL between parentheses.  What is read from there is
the kind of the column again, with its charset in lower case (`Column.column_captured`), whatever
quotes, commas, parentheses or backslashes the values contain.
-/

namespace SchemaTrail

/-! ## Texts of SQL -/

namespace Token

theorem stringBody?_plain {quote c : Char} (hquote : c ≠ quote) (hescape : c ≠ '\\')
    (rest : List Char) :
    stringBody? quote (c :: rest) = (stringBody? quote rest).map fun r => (c :: r.1, r.2) := by
  rw [stringBody?.eq_def]
  simp only [if_neg hquote, if_neg hescape]

/-- A character that is written within a text is read as itself. -/
theorem stringBody?_sqlChar (c : Char) (rest : List Char) :
    stringBody? '\'' (sqlChar c ++ rest) =
      (stringBody? '\'' rest).map fun r => (c :: r.1, r.2) := by
  unfold sqlChar
  split
  case h_8 hquote hescape _ _ _ _ _ => exact stringBody?_plain hquote hescape rest
  all_goals simp [stringBody?, unescape]

/-- A text that is written is read up to its closing quote. -/
theorem stringBody?_flatMap_sqlChar (cs : List Char) {rest : List Char}
    (hrest : rest.head? ≠ some '\'') :
    stringBody? '\'' (cs.flatMap sqlChar ++ '\'' :: rest) = some (cs, rest) := by
  induction cs with
  | nil =>
    cases rest with
    | nil => rfl
    | cons d rest => simp_all [stringBody?]
  | cons c cs ih =>
    rw [List.flatMap_cons, List.append_assoc, stringBody?_sqlChar, ih]
    rfl

theorem scan_comma (rest : List Char) : scan ',' rest = (.symbol .comma, rest) :=
  scan_eq_scanSymbol (by decide) (by decide) rest

/-- A text in quotes at the start of a list is one token. -/
theorem kinds_sqlText (s : String) {rest : List Char} (hrest : rest.head? ≠ some '\'') :
    kinds 0 ((sqlText s).toList ++ rest) = .string s :: kinds 0 rest := by
  have hscan : scan '\'' (s.toList.flatMap sqlChar ++ '\'' :: rest) = (.string s, rest) := by
    simp [scan, scanString, stringBody?_flatMap_sqlChar _ hrest]
  have htext : (sqlText s).toList ++ rest = '\'' :: (s.toList.flatMap sqlChar ++ '\'' :: rest) := by
    simp [sqlText]
  rw [htext, kinds_cons (by decide) (by decide), hscan]

/-- The text of a token of a text in quotes. -/
def Kind.string? : Kind → Option String
  | .string value => some value
  | _ => none

/-- The texts that stand in a list are read, and nothing else. -/
theorem filterMap_kinds_intercalate (values : List String) :
    (kinds 0 (",".intercalate (values.map sqlText)).toList).filterMap Kind.string? = values := by
  rw [String.toList_intercalate, List.map_map]
  induction values with
  | nil => rw [List.map_nil, List.intercalate_nil, kinds_nil]; rfl
  | cons v values ih =>
    cases values with
    | nil =>
      have hlast := @kinds_sqlText v [] (by simp)
      rw [List.append_nil] at hlast
      rw [List.map_singleton, List.intercalate_singleton, Function.comp_apply, hlast, kinds_nil]
      rfl
    | cons w values =>
      rw [List.map_cons, List.map_cons, List.intercalate_cons_cons, ← List.map_cons,
        List.append_assoc, Function.comp_apply, kinds_sqlText v (by simp)]
      show (_ :: kinds 0 (',' :: _)).filterMap Kind.string? = _
      rw [kinds_cons (by decide) (by decide), scan_comma, List.filterMap_cons, List.filterMap_cons]
      exact congrArg (v :: ·) ih

end Token

/-! ## Between parentheses -/

namespace Text

theorem splitFirst?_append {separator : Char} {front : List Char} (h : separator ∉ front)
    (rest : List Char) : splitFirst? separator (String.ofList (front ++ separator :: rest)) =
      some (String.ofList front, String.ofList rest) := by
  have hfront : ∀ c ∈ front, decide (c ≠ separator) = true := fun c hc =>
    decide_eq_true fun heq => h (heq ▸ hc)
  rw [splitFirst?, String.toList_ofList, List.dropWhile_append_of_pos hfront,
    List.takeWhile_append_of_pos hfront]
  simp

theorem splitLast?_concat (separator : Char) (front : List Char) :
    splitLast? separator (String.ofList (front ++ [separator])) =
      some (String.ofList front, "") := by
  simp [splitLast?]

end Text

/-- What a type lists between parentheses, whatever parentheses stand in there. -/
theorem betweenParentheses_listed {name : String} (hname : '(' ∉ name.toList) (inner : String) :
    betweenParentheses (name ++ "(" ++ inner ++ ")") = inner := by
  have htext : name ++ "(" ++ inner ++ ")" =
      String.ofList (name.toList ++ '(' :: (inner.toList ++ [')'])) := by
    rw [← String.toList_inj]
    simp
  rw [betweenParentheses, htext, Text.splitFirst?_append hname]
  simp only [Text.splitLast?_concat, String.ofList_toList]

theorem writtenValues_listed (name : String) (hname : '(' ∉ name.toList) (values : List String) :
    writtenValues (name ++ "(" ++ ",".intercalate (values.map sqlText) ++ ")") = values := by
  rw [writtenValues, betweenParentheses_listed hname]
  have hkinds := Token.filterMap_kinds_intercalate values
  rw [← Token.map_kind_tokenize, List.filterMap_map] at hkinds
  exact hkinds

/-! ## Columns -/

namespace ColumnKind

/-- The type as a server writes it, with all that belongs to it. -/
def columnType (k : ColumnKind) : String :=
  match k with
  | .integer _ false => k.typeName ++ " unsigned"
  | .enum values | .set values => k.typeName ++ "(" ++ ",".intercalate (values.map sqlText) ++ ")"
  | _ => k.typeName

/-- An integer is unsigned if the word stands in its type. -/
theorem occursIn_columnType (size : IntegerSize) (signed : Bool) :
    Text.occursIn "unsigned".toList (Text.asciiLower (integer size signed).columnType).toList =
      !signed := by
  cases size <;> cases signed <;> decide

theorem writtenValues_columnType {k : ColumnKind} {values : List String}
    (h : k.values? = some values) : writtenValues k.columnType = values := by
  cases k with
  | enum listed =>
    cases h
    exact writtenValues_listed "enum" (by decide) values
  | set listed =>
    cases h
    exact writtenValues_listed "set" (by decide) values
  | _ => cases h

end ColumnKind

namespace Column

/-- The row of a column of a table. -/
def captured (database table : String) (c : Column) : CapturedColumn where
  database := database
  table := table
  name := c.name
  ordinal := c.position + 1
  dataType := c.typeName
  columnType := c.kind.columnType
  charset := c.kind.charset?
  precision := c.kind.precision?.map (·.val)

variable (database table : String) (c : Column)

theorem attributes_captured : (c.captured database table).attributes.Describe c.kind where
  byte := rfl
  length := rfl
  charset := rfl
  signed signed h := by
    cases hkind : c.kind with
    | integer size declared =>
      rw [hkind] at h
      cases h
      have htype : (c.captured database table).columnType =
          (ColumnKind.integer size signed).columnType := congrArg ColumnKind.columnType hkind
      simp only [CapturedColumn.attributes, htype, ColumnKind.occursIn_columnType, Bool.not_not]
    | _ =>
      rw [hkind] at h
      cases h
  values _ h := ColumnKind.writtenValues_columnType h

/-- A column is read from its row with its charset in lower case. -/
theorem column_captured : (c.captured database table).column = .ok c.lowered := by
  have hkind : ColumnKind.declare? c.kind.typeName (c.captured database table).attributes =
      some c.kind.lowered := ColumnKind.declare?_typeName (c.attributes_captured database table)
  show declare c.name c.kind.typeName c.position _ = _
  rw [declare, hkind]
  rfl

end Column

end SchemaTrail
