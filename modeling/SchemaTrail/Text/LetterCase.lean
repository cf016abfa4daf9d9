import SchemaTrail.Text.CodeRange
import SchemaTrail.Text.LetterCaseTable

/-!
# Letter case

Two ways to disregard letter case: `asciiLower` changes the letters `A` to `Z` alone, and `lower`
maps every letter of every script to its lower-case form.  The capital dotted I becomes two
characters, and a capital sigma takes its final form at the end of a word.
-/

namespace SchemaTrail.Text

/-! ## The letters `A` to `Z` -/

/-- The text with the letters `A` to `Z` in lower case. -/
def asciiLower (s : String) : String :=
  String.ofList (s.toList.map Char.toLower)

/-- The text with the letters `a` to `z` in upper case. -/
def asciiUpper (s : String) : String :=
  String.ofList (s.toList.map Char.toUpper)

/-- Equality up to the case of the letters `A` to `Z`. -/
def equalIgnoringCase (a b : String) : Bool :=
  asciiLower a == asciiLower b

/-- Whether all characters are ASCII. -/
def isAscii (s : String) : Bool :=
  s.toList.all fun c => c.toNat < 0x80

/-! ## All letters -/

/-- The lower-case form of a character within a run. -/
def LowerRun.lower? (r : LowerRun) (c : Nat) : Option Nat :=
  if r.first ≤ c ∧ c ≤ r.last ∧ (c - r.first) % r.step = 0 then some (r.lower + (c - r.first))
  else none

/-- The lower-case form of one character, apart from its neighbours. -/
def lowerChar (c : Char) : List Char :=
  if c.toNat < 0x80 then [c.toLower]
  else if c = 'İ' then ['i', '\u0307']
  else [(lowerRuns.findSome? (LowerRun.lower? · c.toNat)).elim c Char.ofNat]

/-- Whether a letter follows, characters that do not end a word passed over. -/
def casedFollows (cs : List Char) : Bool :=
  match cs.dropWhile (inRanges caseIgnorableRanges) with
  | [] => false
  | c :: _ => inRanges casedRanges c

/-- The lower-case form of a text, where `before` is what precedes it, last character first.  A
capital sigma is final if a letter comes before it and none after it. -/
def lowerAfter (before : List Char) : List Char → List Char
  | [] => []
  | c :: rest =>
    let image := if c = 'Σ' then
        if casedFollows before && !casedFollows rest then ['ς'] else ['σ']
      else lowerChar c
    image ++ lowerAfter (c :: before) rest

/-- The text with all letters in lower case. -/
def lower (s : String) : String :=
  String.ofList (lowerAfter [] s.toList)

end SchemaTrail.Text
