import SchemaTrail.Decimal.Numeral

/-!
# JSON values

`Json` is a JSON value.  Numbers keep the text they are written with, so that `1` and `1.0` can be
told apart, and objects keep their fields in order, repeated ones included.  `Json.flawed` stands
for a value that is well formed as a text but denotes nothing: a string with half a surrogate pair,
an object with such a key, or a value nested too deep.
-/

namespace SchemaTrail

/-- A JSON value. -/
inductive Json where
  | null
  | bool (value : Bool)
  | number (literal : String)
  | string (text : String)
  | array (items : List Json)
  | object (fields : List (String × Json))
  | flawed
  deriving Inhabited, Repr

namespace Json

/-- A natural number. -/
def ofNat (n : Nat) : Json :=
  .number (String.ofList (Nat.toDigits 10 n))

/-- An integer. -/
def ofInt : Int → Json
  | .ofNat n => ofNat n
  | .negSucc n => .number (String.ofList ('-' :: Nat.toDigits 10 (n + 1)))

/-- A text, or `null`. -/
def ofString? : Option String → Json
  | none => .null
  | some s => .string s

/-- A list of texts. -/
def ofStrings (xs : List String) : Json :=
  .array (xs.map .string)

/-- The integer that is written, a minus sign before zero excepted. -/
def int? : Json → Option Int
  | .number literal =>
    match literal.toList with
    | '-' :: digits =>
      (Decimal.readNat? digits).bind fun n => if n = 0 then none else some (-(n : Int))
    | digits => (Decimal.readNat? digits).map Int.ofNat
  | _ => none

/-- The integer that is written, if it lies between the given bounds. -/
def intBetween? (low high : Int) (j : Json) : Option Int :=
  j.int?.filter fun n => low ≤ n && n ≤ high

/-- The natural number below `2 ^ bits` that is written. -/
def word? (bits : Nat) (j : Json) : Option Nat :=
  (j.intBetween? 0 (Nat.pow 2 bits - 1)).map Int.toNat

/-- The text of a string. -/
def string? : Json → Option String
  | .string s => some s
  | _ => none

/-- The truth value that is written. -/
def bool? : Json → Option Bool
  | .bool b => some b
  | _ => none

/-- The elements of an array, each read by `read`. -/
def list? {α : Type} (read : Json → Option α) : Json → Option (List α)
  | .array items => items.mapM read
  | _ => none

/-- `null`, or a value read by `read`. -/
def optional? {α : Type} (read : Json → Option α) : Json → Option (Option α)
  | .null => some none
  | j => (read j).map some

/-- One of several named constants, written as its name or as an object with its name and `null`. -/
def oneOf? {α : Type} (constants : List (String × α)) : Json → Option α
  | .string name => constants.lookup name
  | .object [(name, .null)] => constants.lookup name
  | _ => none

/-- The last field of an object with the given name. -/
def field? (name : String) : Json → Option Json
  | .object fields => (fields.reverse.find? (·.1 = name)).map (·.2)
  | _ => none

/-- The last field of an object with the given name; a missing one is `null`. -/
def get (j : Json) (name : String) : Json :=
  (j.field? name).getD .null

theorem word?_ofNat {bits n : Nat} (h : n < Nat.pow 2 bits) : (ofNat n).word? bits = some n := by
  have hint : (ofNat n).int? = some (n : Int) := by
    have hne : ∀ ds, Nat.toDigits 10 n = '-' :: ds → False := by
      intro ds heq
      have := Nat.isDigit_of_mem_toDigits (b := 10) (n := n) (c := '-') (by decide) (by decide)
        (by simp [heq])
      simp at this
    simp [ofNat, int?, Decimal.readNat?_toDigits]
  have hfits : (0 ≤ (n : Int) && (n : Int) ≤ Nat.pow 2 bits - 1) = true := by
    rw [Bool.and_eq_true, decide_eq_true_iff, decide_eq_true_iff]
    omega
  simp only [word?, intBetween?, hint, Option.filter, hfits, if_true, Option.map_some,
    Int.toNat_natCast]

end Json

end SchemaTrail
