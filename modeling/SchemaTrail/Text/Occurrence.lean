/-!
# Occurrences of a word in a text

`occursIn` tells whether the characters of a word stand next to each other anywhere in a text.
-/

namespace SchemaTrail.Text

/-- Whether a word occurs in a text. -/
def occursIn (word : List Char) : List Char → Bool
  | [] => word.isEmpty
  | c :: cs => word.isPrefixOf (c :: cs) || occursIn word cs

theorem occursIn_iff {word cs : List Char} : occursIn word cs = true ↔ word <:+: cs := by
  induction cs with
  | nil => rw [occursIn, List.isEmpty_iff, List.infix_nil]
  | cons c cs ih =>
    rw [occursIn, Bool.or_eq_true, List.isPrefixOf_iff_prefix, ih, List.infix_cons_iff]

theorem occursIn_eq_false_iff {word cs : List Char} :
    occursIn word cs = false ↔ ¬word <:+: cs := by
  rw [← occursIn_iff, Bool.not_eq_true]

end SchemaTrail.Text
