import SchemaTrail.Text.Blank
import SchemaTrail.Text.WordTable
import SchemaTrail.Token.Lexer

/-!
# Statements that are not tracked

`isUntracked` recognises statements that never change a schema by the words they begin with, once
their comments are gone.  `uncomment` keeps what an executable comment holds and removes all other
comments.  It does not know about texts between quotes, so it must not be used for anything else.
-/

namespace SchemaTrail.Statement

/-! ## Comments -/

/-- What a comment holds and what follows it, given what follows its opener. -/
def splitBlock? : List Char → Option (List Char × List Char)
  | [] => none
  | '*' :: '/' :: rest => some ([], rest)
  | c :: rest => (splitBlock? rest).map fun r => (c :: r.1, r.2)

theorem length_splitBlock? {cs : List Char} {r : List Char × List Char}
    (h : splitBlock? cs = some r) : r.2.length < cs.length := by
  fun_induction splitBlock? cs generalizing r with
  | case1 => simp at h
  | case2 rest => cases h; simp only [List.length_cons]; omega
  | case3 c rest _ ih =>
    obtain ⟨r', hr', rfl⟩ := Option.map_eq_some_iff.1 h
    have := ih hr'
    simp only [List.length_cons]
    omega

/-- What follows the mark of an executable comment, its version and the blanks after that. -/
def executableBody? : List Char → Option (List Char)
  | '!' :: rest => some ((rest.dropWhile (Text.inRanges Text.digitRanges)).dropWhile Text.isBlank)
  | 'M' :: '!' :: rest =>
    some ((rest.dropWhile (Text.inRanges Text.digitRanges)).dropWhile Text.isBlank)
  | _ => none

theorem length_executableBody? {cs body : List Char} (h : executableBody? cs = some body) :
    body.length ≤ cs.length := by
  unfold executableBody? at h
  split at h <;> cases h
  all_goals
    refine Nat.le_trans (List.dropWhile_sublist _).length_le ?_
    refine Nat.le_trans (List.dropWhile_sublist _).length_le ?_
    simp only [List.length_cons]
    omega

/-- Puts what executable comments hold in their place. -/
def unwrapExecutable (cs : List Char) : List Char :=
  match cs with
  | [] => []
  | '/' :: '*' :: rest =>
    match h : (executableBody? rest).bind fun body => splitBlock? body with
    | some r =>
      have : r.2.length < rest.length + 1 := by
        obtain ⟨body, hbody, hr⟩ := Option.bind_eq_some_iff.1 h
        have := length_executableBody? hbody
        have := length_splitBlock? hr
        omega
      r.1 ++ unwrapExecutable r.2
    | none => '/' :: unwrapExecutable ('*' :: rest)
  | c :: rest => c :: unwrapExecutable rest
termination_by cs.length
decreasing_by all_goals (simp_wf <;> omega)

/-- Removes comments from an opener to an end. -/
def removeBlocks (cs : List Char) : List Char :=
  match cs with
  | [] => []
  | '/' :: '*' :: rest =>
    match h : splitBlock? rest with
    | some r =>
      have := length_splitBlock? h
      removeBlocks r.2
    | none => '/' :: removeBlocks ('*' :: rest)
  | c :: rest => c :: removeBlocks rest
termination_by cs.length
decreasing_by all_goals (simp_wf <;> omega)

/-- Removes comments from two dashes to the end of the line. -/
def removeLines (cs : List Char) : List Char :=
  match cs with
  | [] => []
  | '-' :: '-' :: rest =>
    have := (Token.skipLine_suffix rest).length_le
    removeLines (Token.skipLine rest)
  | c :: rest => c :: removeLines rest
termination_by cs.length
decreasing_by all_goals (simp_wf <;> omega)

/-- The statement without comments, but with what executable comments hold. -/
def uncomment (statement : String) : String :=
  String.ofList (removeLines (removeBlocks (unwrapExecutable statement.toList)))

/-! ## Beginnings -/

/-- A form that the beginning of a text may have; gives what follows it. -/
abbrev Beginning := List Char → Option (List Char)

namespace Beginning

/-- Whether a character is the given capital letter in any case.  The long s and the sign of the
kelvin are letters too. -/
def isLetter (capital c : Char) : Bool :=
  c.toUpper = capital || (capital = 'S' && c = 'ſ') || (capital = 'K' && c = '\u212A')

/-- The letters of a word in any case. -/
def letters : List Char → Beginning
  | [], cs => some cs
  | _ :: _, [] => none
  | l :: ls, c :: cs => if isLetter l c then letters ls cs else none

/-- One of several words. -/
def oneOf (words : List String) : Beginning := fun cs =>
  words.findSome? fun w => letters w.toList cs

/-- At least one blank. -/
def blanks : Beginning
  | [] => none
  | c :: cs => if Text.isBlank c then some (cs.dropWhile Text.isBlank) else none

/-- At least one character that is not blank. -/
def solid : Beginning
  | [] => none
  | c :: cs => if Text.isBlank c then none else some (cs.dropWhile fun d => !Text.isBlank d)

/-- The end of a word. -/
def wordEnd : Beginning
  | [] => some []
  | c :: cs => if Text.inRanges Text.wordRanges c then none else some (c :: cs)

/-- A single character after any blanks, and any blanks after it. -/
def sign (c : Char) : Beginning := fun cs =>
  match cs.dropWhile Text.isBlank with
  | [] => none
  | d :: rest => if d = c then some (rest.dropWhile Text.isBlank) else none

/-- Forms one after the other. -/
def sequence (forms : List Beginning) : Beginning := fun cs =>
  forms.foldlM (fun rest form => form rest) cs

/-- A form, or nothing. -/
def optional (form : Beginning) : Beginning := fun cs =>
  some ((form cs).getD cs)

/-- A form as often as it occurs. -/
def repeated (form : Beginning) (cs : List Char) : Option (List Char) :=
  match form cs with
  | none => some cs
  | some rest => if rest.length < cs.length then repeated form rest else some cs
termination_by cs.length

/-- One of several words, and blanks. -/
def wordOf (words : List String) : Beginning :=
  sequence [oneOf words, blanks]

/-- One of several words, which is not part of a longer one. -/
def lastWordOf (words : List String) : Beginning :=
  sequence [oneOf words, wordEnd]

/-- The name of a definer, after its word and an equals sign. -/
def definer : Beginning :=
  sequence [oneOf ["DEFINER"], sign '=', solid, blanks]

/-- How statements that are not tracked begin. -/
def untracked : List Beginning :=
  [lastWordOf ["BEGIN", "COMMIT", "FLUSH", "GRANT", "REVOKE", "SAVEPOINT", "TRUNCATE", "OPTIMIZE",
      "REPAIR"],
    sequence [wordOf ["CREATE"], optional (wordOf ["AGGREGATE"]), lastWordOf ["FUNCTION"]],
    sequence [wordOf ["ALTER", "CREATE"], optional definer,
      lastWordOf ["EVENT", "FUNCTION", "TRIGGER", "PROCEDURE", "ALGORITHM"]],
    sequence [wordOf ["DROP"], lastWordOf ["EVENT", "FUNCTION", "TRIGGER", "PROCEDURE", "VIEW"]],
    sequence [wordOf ["ALTER", "CREATE", "DROP"],
      repeated (wordOf ["ONLINE", "OFFLINE", "UNIQUE", "FULLTEXT", "SPATIAL"]),
      lastWordOf ["INDEX"]],
    sequence [wordOf ["ANALYZE"], lastWordOf ["TABLE"]],
    sequence [wordOf ["SET"], lastWordOf ["PASSWORD"]],
    sequence [wordOf ["ALTER", "CREATE", "DROP", "RENAME"], lastWordOf ["USER"]],
    sequence [wordOf ["CREATE"], wordOf ["TEMPORARY"], lastWordOf ["TABLE"]]]

end Beginning

/-- Whether a statement begins like one that is not tracked. -/
def isUntracked (statement : String) : Bool :=
  let start := (uncomment statement).toList.dropWhile Text.isBlank
  Beginning.untracked.any fun form => (form start).isSome

end SchemaTrail.Statement
