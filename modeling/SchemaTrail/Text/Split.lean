/-!
# Splitting a text at a character

`splitFirst?` splits at the first occurrence of a separator and `splitLast?` at the last.
-/

namespace SchemaTrail.Text

/-- The parts before and after the first occurrence of a separator. -/
def splitFirst? (separator : Char) (s : String) : Option (String × String) :=
  let front := s.toList.takeWhile (· ≠ separator)
  match s.toList.dropWhile (· ≠ separator) with
  | [] => none
  | _ :: rest => some (String.ofList front, String.ofList rest)

/-- The parts before and after the last occurrence of a separator. -/
def splitLast? (separator : Char) (s : String) : Option (String × String) :=
  let tail := (s.toList.reverse.takeWhile (· ≠ separator)).reverse
  match s.toList.reverse.dropWhile (· ≠ separator) with
  | [] => none
  | _ :: front => some (String.ofList front.reverse, String.ofList tail)

end SchemaTrail.Text
