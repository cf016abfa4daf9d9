import SchemaTrail.Statement.Untracked
import SchemaTrail.Token.Keyword

/-!
# Forms of beginnings

Statements that are not tracked begin with words of which none is the beginning of another
(`Statement.Beginning.Apart`).  A text that begins with one of the words for a change of the schema,
and goes on with a text that none of the forms goes on with (`Statement.Beginning.Refused`), has
none of the forms (`Statement.Beginning.Refused.untracked_eq_none`).
-/

namespace SchemaTrail.Statement.Beginning

/-! ## Words -/

variable {l d c : Char} {word capitals u t : List Char}

theorem letters_eq_none (h : ∀ c ∈ u.head?, isLetter l c = false) (ls : List Char) :
    letters (l :: ls) u = none := by
  cases u with
  | nil => rfl
  | cons c cs => rw [letters, if_neg (by simp [h c rfl])]

/-- A letter of ASCII is the letter that it is in capitals, and no other. -/
theorem isLetter_of_toUpper (hc : c.toUpper = d) (hd : d.isUpper = true) :
    isLetter l c = decide (l = d) := by
  have hne : ∀ special : Char, special.toUpper.isUpper = false → c ≠ special := by
    rintro special hspecial rfl
    rw [hc, hd] at hspecial
    cases hspecial
  simp [isLetter, hc, hne 'ſ' (by decide), hne '\u212A' (by decide), eq_comm]

/-- Words of which none begins another. -/
def Apart (v w : List Char) : Prop :=
  v = w ∨ ¬v <+: w ∧ ¬w <+: v

instance (v w : List Char) : Decidable (Apart v w) :=
  inferInstanceAs (Decidable (v = w ∨ ¬v <+: w ∧ ¬w <+: v))

/-- A word is read as itself, and not as a word that is apart from it. -/
theorem letters_append (hword : word.map Char.toUpper = capitals)
    (hcapitals : ∀ d ∈ capitals, d.isUpper = true) {wanted : List Char}
    (happart : Apart wanted capitals) (t : List Char) :
    letters wanted (word ++ t) = if wanted = capitals then some t else none := by
  induction wanted generalizing word capitals with
  | nil =>
    have hnil : capitals = [] := by
      rcases happart with h | h
      · exact h.symm
      · exact absurd List.nil_prefix h.1
    subst hnil
    rw [List.map_eq_nil_iff.1 hword]
    rfl
  | cons l wanted ih =>
    cases capitals with
    | nil =>
      rcases happart with h | h
      · cases h
      · exact absurd List.nil_prefix h.2
    | cons d capitals =>
      obtain ⟨c, front, rfl, hc, hfront⟩ := List.map_eq_cons_iff.1 hword
      rw [List.forall_mem_cons] at hcapitals
      rw [List.cons_append, letters, isLetter_of_toUpper hc hcapitals.1]
      by_cases hl : l = d
      · subst hl
        have happart : Apart wanted capitals := by
          simpa [Apart, List.cons_prefix_cons] using happart
        simp [ih hfront hcapitals.2 happart]
      · simp [hl]

/-! ## Forms -/

theorem oneOf_eq_none {words : List String} (h : ∀ w ∈ words, letters w.toList u = none) :
    oneOf words u = none :=
  List.findSome?_eq_none_iff.2 h

theorem sequence_eq_none {form : Beginning} (h : form u = none) (forms : List Beginning) :
    sequence (form :: forms) u = none := by
  rw [sequence, List.foldlM_cons, h]
  rfl

theorem wordOf_eq_none {words : List String} (h : ∀ w ∈ words, letters w.toList u = none) :
    wordOf words u = none :=
  sequence_eq_none (oneOf_eq_none h) _

theorem lastWordOf_eq_none {words : List String} (h : ∀ w ∈ words, letters w.toList u = none) :
    lastWordOf words u = none :=
  sequence_eq_none (oneOf_eq_none h) _

/-- The words that statements that are not tracked begin with. -/
def firstWords : List String :=
  ["BEGIN", "COMMIT", "FLUSH", "GRANT", "REVOKE", "SAVEPOINT", "TRUNCATE", "OPTIMIZE", "REPAIR",
    "CREATE", "ALTER", "DROP", "ANALYZE", "SET", "RENAME"]

theorem untracked_eq_none_of_first (h : ∀ w ∈ firstWords, letters w.toList u = none) :
    ∀ form ∈ untracked, form u = none := by
  have hlast {words : List String} (hwords : ∀ w ∈ words, w ∈ firstWords) :
      lastWordOf words u = none := lastWordOf_eq_none fun w hw => h w (hwords w hw)
  have hword {words : List String} (hwords : ∀ w ∈ words, w ∈ firstWords) (forms : List Beginning) :
      sequence (wordOf words :: forms) u = none :=
    sequence_eq_none (wordOf_eq_none fun w hw => h w (hwords w hw)) forms
  simp only [untracked, List.forall_mem_cons]
  exact ⟨hlast (by decide), hword (by decide) _, hword (by decide) _, hword (by decide) _,
    hword (by decide) _, hword (by decide) _, hword (by decide) _, hword (by decide) _,
    hword (by decide) _, List.forall_mem_nil _⟩

theorem sequence_cons (form : Beginning) (forms : List Beginning) (u : List Char) :
    sequence (form :: forms) u = (form u).bind (sequence forms) :=
  List.foldlM_cons

theorem sequence_optional {form : Beginning} (h : form u = none) (forms : List Beginning) :
    sequence (optional form :: forms) u = sequence forms u := by
  rw [sequence_cons, optional, h]
  rfl

theorem blanks_cases (t : List Char) :
    blanks t = none ∨ blanks t = some (t.dropWhile Text.isBlank) := by
  cases t with
  | nil => exact .inl rfl
  | cons c cs => by_cases hc : Text.isBlank c = true <;> simp [blanks, hc]

/-! ## What follows the first word -/

/-- The words that may stand in front of `INDEX`. -/
def indexOptions : List String :=
  ["ONLINE", "OFFLINE", "UNIQUE", "FULLTEXT", "SPATIAL"]

/-- The words that statements that are not tracked go on with, except for those about an index. -/
def secondWords : List String :=
  ["AGGREGATE", "FUNCTION", "DEFINER", "EVENT", "TRIGGER", "PROCEDURE", "ALGORITHM", "VIEW",
    "USER", "TEMPORARY"]

/-- The words that statements that are not tracked go on with. -/
def laterWords : List String :=
  secondWords ++ "INDEX" :: indexOptions

/-- The words that stand where statements about tables and databases have theirs. -/
def formWords : List String :=
  firstWords ++ laterWords

/-- The words that may stand in front of the word for a table or a database. -/
def leadingWords : List Keyword :=
  [.create, .alter, .drop, .rename, .online, .offline, .ignore]

/-- The words that statements about tables and databases begin with. -/
def openingWords : List Keyword :=
  leadingWords ++ [.table, .database, .schema]

theorem apart_of_mem : ∀ k ∈ openingWords, k.spelling.toList.all Char.isUpper = true ∧
    ∀ w ∈ formWords, Apart w.toList k.spelling.toList := by
  decide

section Opening

variable {k : Keyword} (hk : k ∈ openingWords) (hword : word.map Char.toUpper = k.spelling.toList)
include hk hword

theorem letters_opening {w : String} (hw : w ∈ formWords) (t : List Char) :
    letters w.toList (word ++ t) = if w = k.spelling then some t else none := by
  rw [letters_append hword (List.all_eq_true.1 (apart_of_mem k hk).1) ((apart_of_mem k hk).2 w hw)]
  simp only [String.toList_inj]

theorem oneOf_opening {words : List String} (hwords : ∀ w ∈ words, w ∈ formWords) (t : List Char) :
    oneOf words (word ++ t) = none ∨ oneOf words (word ++ t) = some t := by
  induction words with
  | nil => exact .inl rfl
  | cons w words ih =>
    rw [List.forall_mem_cons] at hwords
    rw [oneOf, List.findSome?_cons, letters_opening hk hword hwords.1]
    by_cases hw : w = k.spelling
    · rw [if_pos hw]
      exact .inr rfl
    · rw [if_neg hw]
      exact ih hwords.2

theorem wordOf_opening {words : List String} (hwords : ∀ w ∈ words, w ∈ formWords) (t : List Char) :
    wordOf words (word ++ t) = none ∨
      wordOf words (word ++ t) = some (t.dropWhile Text.isBlank) := by
  have hblanks : sequence [blanks] t = blanks t := by
    rw [sequence_cons]
    cases blanks t <;> rfl
  rw [wordOf, sequence_cons]
  rcases oneOf_opening hk hword hwords t with hnone | hsome
  · exact .inl (by rw [hnone, Option.bind_none])
  · rw [hsome, Option.bind_some, hblanks]
    exact blanks_cases t

/-- A form that begins with a word goes on behind the blanks that follow it. -/
theorem sequence_wordOf_eq_none {words : List String} (hwords : ∀ w ∈ words, w ∈ formWords)
    {forms : List Beginning} (h : sequence forms (t.dropWhile Text.isBlank) = none) :
    sequence (wordOf words :: forms) (word ++ t) = none := by
  rw [sequence_cons]
  rcases wordOf_opening hk hword hwords t with hnone | hsome
  · rw [hnone, Option.bind_none]
  · rw [hsome, Option.bind_some, h]

end Opening

/-- A text that no statement goes on with that is not tracked. -/
structure Refused (u : List Char) : Prop where
  words : ∀ w ∈ secondWords, letters w.toList u = none
  index : sequence [Beginning.repeated (wordOf indexOptions), lastWordOf ["INDEX"]] u = none

theorem index_eq_none (hoptions : Beginning.repeated (wordOf indexOptions) u = some t)
    (h : letters "INDEX".toList t = none) :
    sequence [Beginning.repeated (wordOf indexOptions), lastWordOf ["INDEX"]] u = none := by
  rw [sequence_cons, hoptions, Option.bind_some]
  exact sequence_eq_none (lastWordOf_eq_none (by simpa using h)) _

theorem repeated_of_none {form : Beginning} (h : form u = none) :
    Beginning.repeated form u = some u := by
  rw [Beginning.repeated, h]

theorem refused_of_letters
    (h : ∀ w ∈ laterWords, letters w.toList u = none) : Refused u where
  words w hw := h w (List.mem_append_left _ hw)
  index := by
    have hoptions : wordOf indexOptions u = none :=
      wordOf_eq_none fun w hw => h w (List.mem_append_right _ (List.mem_cons_of_mem _ hw))
    exact index_eq_none (repeated_of_none hoptions) (h "INDEX" (by decide))

/-- No word of a form begins like a comment. -/
theorem letters_eq_none_of_head (hu : ∀ c ∈ u.head?, c ∈ "#*/-".toList) :
    ∀ w ∈ formWords, letters w.toList u = none := by
  have hfirst : ∀ w ∈ formWords,
      (w.toList.head?.any fun l => "#*/-".toList.all fun c => !isLetter l c) = true := by decide
  intro w hw
  obtain ⟨l, hl, hnone⟩ := (Option.any_eq_true _ _).1 (hfirst w hw)
  obtain ⟨ls, heq⟩ := List.head?_eq_some_iff.1 hl
  rw [heq]
  refine letters_eq_none (fun c hc => ?_) ls
  simpa using List.all_eq_true.1 hnone c (hu c hc)

section Opening

variable {k : Keyword} (hword : word.map Char.toUpper = k.spelling.toList)
include hword

theorem refused_object (hk : k ∈ [Keyword.table, .database, .schema]) (t : List Char) :
    Refused (word ++ t) := by
  have hwords : ∀ k ∈ [Keyword.table, .database, .schema], k ∈ openingWords ∧
      ∀ w ∈ laterWords, w ∈ formWords ∧ w ≠ k.spelling := by decide
  obtain ⟨hopening, hwords⟩ := hwords k hk
  refine refused_of_letters fun w hw => ?_
  rw [letters_opening hopening hword (hwords w hw).1, if_neg (hwords w hw).2]

theorem Refused.option (hk : k ∈ [Keyword.online, .offline, .ignore])
    (h : Refused (t.dropWhile Text.isBlank)) : Refused (word ++ t) := by
  have hwords : ∀ k ∈ [Keyword.online, .offline, .ignore], k ∈ openingWords ∧
      ∀ w ∈ "INDEX" :: secondWords, w ∈ formWords ∧ w ≠ k.spelling := by decide
  obtain ⟨hopening, hwords⟩ := hwords k hk
  have hletters : ∀ w ∈ "INDEX" :: secondWords, letters w.toList (word ++ t) = none :=
    fun w hw => by rw [letters_opening hopening hword (hwords w hw).1, if_neg (hwords w hw).2]
  rw [List.forall_mem_cons] at hletters
  refine ⟨hletters.2, ?_⟩
  have hoptions : ∀ w ∈ indexOptions, w ∈ formWords := by decide
  rcases wordOf_opening hopening hword hoptions t with hnone | hsome
  · exact index_eq_none (repeated_of_none hnone) hletters.1
  · have hne : ∀ k ∈ openingWords, 0 < k.spelling.toList.length := by decide
    have hlength : (t.dropWhile Text.isBlank).length < (word ++ t).length := by
      have hdrop := (List.dropWhile_sublist Text.isBlank (l := t)).length_le
      have hpos := hne k hopening
      rw [← hword, List.length_map] at hpos
      rw [List.length_append]
      omega
    have hrepeated : Beginning.repeated (wordOf indexOptions) (word ++ t) =
        Beginning.repeated (wordOf indexOptions) (t.dropWhile Text.isBlank) := by
      rw [Beginning.repeated, hsome]
      exact if_pos hlength
    have hindex := h.index
    rw [sequence_cons, ← hrepeated, ← sequence_cons] at hindex
    exact hindex

/-- A statement that begins with a word for a change of the schema and goes on with a text that is
refused is tracked. -/
theorem Refused.untracked_eq_none (hk : k ∈ [Keyword.create, .alter, .drop, .rename])
    (h : Refused (t.dropWhile Text.isBlank)) : ∀ form ∈ untracked, form (word ++ t) = none := by
  have hothers : ∀ k ∈ [Keyword.create, .alter, .drop, .rename], k ∈ openingWords ∧
      ∀ w ∈ ["BEGIN", "COMMIT", "FLUSH", "GRANT", "REVOKE", "SAVEPOINT", "TRUNCATE", "OPTIMIZE",
        "REPAIR", "ANALYZE", "SET"], w ∈ formWords ∧ w ≠ k.spelling := by decide
  obtain ⟨hopening, hothers⟩ := hothers k hk
  have hother : ∀ w ∈ ["BEGIN", "COMMIT", "FLUSH", "GRANT", "REVOKE", "SAVEPOINT", "TRUNCATE",
      "OPTIMIZE", "REPAIR", "ANALYZE", "SET"], letters w.toList (word ++ t) = none :=
    fun w hw => by rw [letters_opening hopening hword (hothers w hw).1, if_neg (hothers w hw).2]
  have hsecond {words : List String} (hw : ∀ w ∈ words, w ∈ secondWords) :
      ∀ w ∈ words, letters w.toList (t.dropWhile Text.isBlank) = none :=
    fun w hmem => h.words w (hw w hmem)
  have hgoOn {words : List String} (hw : ∀ w ∈ words, w ∈ formWords) {forms : List Beginning}
      (hforms : sequence forms (t.dropWhile Text.isBlank) = none) :
      sequence (wordOf words :: forms) (word ++ t) = none :=
    sequence_wordOf_eq_none hopening hword hw hforms
  simp only [untracked, List.forall_mem_cons]
  refine ⟨lastWordOf_eq_none fun w hw => hother w (List.mem_append_left ["ANALYZE", "SET"] hw),
    hgoOn (by decide) ?_, hgoOn (by decide) ?_, hgoOn (by decide) ?_, hgoOn (by decide) h.index,
    sequence_eq_none (wordOf_eq_none ?_) _, sequence_eq_none (wordOf_eq_none ?_) _,
    hgoOn (by decide) ?_, hgoOn (by decide) ?_, List.forall_mem_nil _⟩
  · rw [sequence_optional (wordOf_eq_none (hsecond (by decide)))]
    exact sequence_eq_none (lastWordOf_eq_none (hsecond (by decide))) _
  · have hdefiner : definer (t.dropWhile Text.isBlank) = none :=
      sequence_eq_none (oneOf_eq_none (hsecond (by decide))) _
    rw [sequence_optional hdefiner]
    exact sequence_eq_none (lastWordOf_eq_none (hsecond (by decide))) _
  · exact sequence_eq_none (lastWordOf_eq_none (hsecond (by decide))) _
  · exact fun w hw => hother w (by simp_all)
  · exact fun w hw => hother w (by simp_all)
  · exact sequence_eq_none (lastWordOf_eq_none (hsecond (by decide))) _
  · exact sequence_eq_none (wordOf_eq_none (hsecond (by decide))) _

end Opening

end SchemaTrail.Statement.Beginning
