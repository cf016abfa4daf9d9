import SchemaTrail.Statement.Untracked

/-!
# Comments that are removed

What `splitBlock?`, `unwrapExecutable`, `removeBlocks` and `removeLines` do to a text, as equations:
each leaves characters alone that open no comment, and takes away the comment at whose opener it
stands.
-/

namespace SchemaTrail.Statement

open Token (skipBlock skipLine skipVersion?)

variable {c : Char} {cs body rest line : List Char}

/-! ## Ends of comments -/

theorem splitBlock?_cons (h : c = '*' → cs.head? ≠ some '/') :
    splitBlock? (c :: cs) = (splitBlock? cs).map fun r => (c :: r.1, r.2) := by
  rw [splitBlock?]
  rintro cs' rfl rfl
  exact h rfl rfl

theorem splitBlock?_append_of_not_mem {front : List Char} (h : '*' ∉ front) :
    splitBlock? (front ++ cs) = (splitBlock? cs).map fun r => (front ++ r.1, r.2) := by
  induction front with
  | nil => cases h : splitBlock? cs <;> simp [h]
  | cons c front ih =>
    rw [List.mem_cons, not_or] at h
    rw [List.cons_append, splitBlock?_cons fun hc => absurd hc.symm h.1, ih h.2, Option.map_map]
    rfl

/-- The end of a comment is where it is found first, whatever follows. -/
theorem eq_append_of_splitBlock? (h : splitBlock? cs = some (body, rest)) :
    cs = body ++ '*' :: '/' :: rest ∧
      ∀ after, splitBlock? (body ++ '*' :: '/' :: after) = some (body, after) := by
  fun_induction splitBlock? cs generalizing body with
  | case1 => cases h
  | case2 rest =>
    cases h
    exact ⟨rfl, fun _ => rfl⟩
  | case3 c cs hend ih =>
    obtain ⟨⟨body, rest⟩, hsplit, hr⟩ := Option.map_eq_some_iff.1 h
    cases hr
    obtain ⟨rfl, hafter⟩ := ih hsplit
    refine ⟨rfl, fun after => ?_⟩
    rw [List.cons_append, splitBlock?_cons, hafter, Option.map_some]
    -- A star in front of the end is not followed by the slash of the end, but by its star.
    rintro rfl
    cases body with
    | nil => simp
    | cons d body =>
      rintro hd
      cases hd
      exact hend _ rfl rfl

theorem skipBlock_of_splitBlock? (h : splitBlock? cs = some (body, rest)) :
    skipBlock cs = rest := by
  fun_induction splitBlock? cs generalizing body with
  | case1 => cases h
  | case2 rest =>
    cases h
    rfl
  | case3 c cs hend ih =>
    obtain ⟨⟨body, rest⟩, hsplit, hr⟩ := Option.map_eq_some_iff.1 h
    cases hr
    rw [skipBlock]
    · exact ih hsplit
    · exact hend

theorem splitBlock?_eq_none_of_suffix {tail : List Char} (h : splitBlock? cs = none)
    (htail : tail <:+ cs) : splitBlock? tail = none := by
  obtain ⟨front, rfl⟩ := htail
  induction front with
  | nil => exact h
  | cons c front ih =>
    refine ih ?_
    rw [List.cons_append, splitBlock?.eq_def] at h
    split at h
    case h_1 heq => cases heq
    case h_2 => cases h
    case h_3 heq =>
      cases heq
      exact Option.map_eq_none_iff.1 h

/-- A text without an end of a comment is a part of the comment that goes on behind it. -/
theorem splitBlock?_append (hline : splitBlock? line = none) (hcs : cs.head? ≠ some '/') :
    splitBlock? (line ++ cs) = (splitBlock? cs).map fun r => (line ++ r.1, r.2) := by
  induction line with
  | nil => cases h : splitBlock? cs <;> simp [h]
  | cons c line ih =>
    have hhead : c = '*' → (line ++ cs).head? ≠ some '/' := by
      rintro rfl
      cases line with
      | nil => exact hcs
      | cons d line =>
        intro hd
        cases hd
        cases hline
    have hrest := ih (splitBlock?_eq_none_of_suffix hline (List.suffix_cons c line))
    rw [List.cons_append, splitBlock?_cons hhead, hrest, Option.map_map]
    rfl

/-! ## Executable comments -/

/-- Whether a text begins with the opener of an executable comment. -/
def opensExecutable : List Char → Bool
  | '/' :: '*' :: rest => (skipVersion? rest).isSome
  | _ => false

/-- Whether an executable comment opens in front of the next end of a comment. -/
def holdsExecutable : List Char → Bool
  | [] => false
  | '*' :: '/' :: _ => false
  | c :: rest => opensExecutable (c :: rest) || holdsExecutable rest

theorem executableBody?_eq_none (h : skipVersion? cs = none) : executableBody? cs = none := by
  unfold skipVersion? at h
  split at h <;> try cases h
  rw [executableBody?] <;> assumption

/-- A decimal digit is one of ASCII, or neither of ASCII nor a blank. -/
theorem isDigit_of_digitRanges (h : Text.inRanges Text.digitRanges c = true) :
    c.isDigit = true ∨ 0x80 ≤ c.toNat ∧ Text.isBlank c = false := by
  have htable : ∀ r ∈ Text.digitRanges, r = (0x30, 0x39) ∨
      0x80 ≤ r.1 ∧ ∀ b ∈ Text.blankRanges, r.2 < b.1 ∨ b.2 < r.1 := by decide
  obtain ⟨r, hr, hfirst, hlast⟩ := Text.inRanges_iff.1 h
  rcases htable r hr with rfl | ⟨hhigh, hblank⟩
  · exact .inl (Char.isDigit_iff_toNat.2 ⟨hfirst, hlast⟩)
  · refine .inr ⟨by omega, Bool.eq_false_iff.2 fun h => ?_⟩
    obtain ⟨b, hb, hfirst', hlast'⟩ := Text.inRanges_iff.1 h
    have := hblank b hb
    omega

theorem executableBody?_eq_append (h : executableBody? cs = some body) :
    ∃ front, cs = front ++ body ∧ '*' ∉ front := by
  have happend (r : List Char) : ∃ front, r = front ++
      (r.dropWhile (Text.inRanges Text.digitRanges)).dropWhile Text.isBlank ∧ '*' ∉ front := by
    refine ⟨r.takeWhile (Text.inRanges Text.digitRanges) ++
      (r.dropWhile (Text.inRanges Text.digitRanges)).takeWhile Text.isBlank, ?_, fun hmem => ?_⟩
    · rw [List.append_assoc, List.takeWhile_append_dropWhile, List.takeWhile_append_dropWhile]
    · rcases List.mem_append.1 hmem with hdigit | hblank
      · exact absurd (List.all_eq_true.1 List.all_takeWhile _ hdigit) (by decide)
      · exact absurd (List.all_eq_true.1 List.all_takeWhile _ hblank) (by decide)
  unfold executableBody? at h
  split at h <;> cases h
  next r =>
    obtain ⟨front, heq, hstar⟩ := happend r
    exact ⟨'!' :: front, congrArg _ heq, by simp [hstar]⟩
  next r =>
    obtain ⟨front, heq, hstar⟩ := happend r
    exact ⟨'M' :: '!' :: front, congrArg _ (congrArg _ heq), by simp [hstar]⟩

/-- Behind the version and the blanks after it, an executable comment holds the code that the lexer
sees, unless that begins with a digit of another script. -/
theorem executableBody?_of_skipVersion? {code : List Char} (h : skipVersion? cs = some code) :
    (∃ c ∈ code.head?, 0x80 ≤ c.toNat ∧ Text.isBlank c = false) ∨
      executableBody? cs = some (code.dropWhile Text.isBlank) := by
  have hdigits (r : List Char) :
      (∃ c ∈ (r.dropWhile Char.isDigit).head?, 0x80 ≤ c.toNat ∧ Text.isBlank c = false) ∨
        r.dropWhile (Text.inRanges Text.digitRanges) = r.dropWhile Char.isDigit := by
    induction r with
    | nil => exact .inr rfl
    | cons c r ih =>
      by_cases hascii : c.isDigit = true
      · have hdigit : Text.inRanges Text.digitRanges c = true :=
          Text.inRanges_iff.2 ⟨_, List.mem_cons_self, Char.isDigit_iff_toNat.1 hascii⟩
        rwa [List.dropWhile_cons_of_pos hascii, List.dropWhile_cons_of_pos hdigit]
      · rw [List.dropWhile_cons_of_neg hascii]
        by_cases hdigit : Text.inRanges Text.digitRanges c = true
        · exact .inl ⟨c, rfl, (isDigit_of_digitRanges hdigit).resolve_left hascii⟩
        · exact .inr (List.dropWhile_cons_of_neg hdigit)
  unfold skipVersion? at h
  split at h <;> cases h
  next r => exact (hdigits r).imp_right fun heq => by rw [executableBody?, heq]
  next r => exact (hdigits r).imp_right fun heq => by rw [executableBody?, heq]

theorem unwrapExecutable_cons (h : opensExecutable (c :: cs) = false) :
    unwrapExecutable (c :: cs) = c :: unwrapExecutable cs := by
  rw [unwrapExecutable.eq_def]
  split
  next heq => cases heq
  next rest heq =>
    cases heq
    have hversion : skipVersion? rest = none := by simpa [opensExecutable] using h
    split
    next hbody =>
      rw [executableBody?_eq_none hversion] at hbody
      cases hbody
    next => rfl
  next heq => cases heq; rfl

theorem unwrapExecutable_of_executableBody? {code after : List Char}
    (hcode : executableBody? rest = some code) (hsplit : splitBlock? code = some (body, after)) :
    unwrapExecutable ('/' :: '*' :: rest) = body ++ unwrapExecutable after := by
  rw [unwrapExecutable]
  split
  next r hr =>
    rw [hcode, Option.bind_some, hsplit] at hr
    cases hr
    rfl
  next hr =>
    rw [hcode, Option.bind_some, hsplit] at hr
    cases hr

/-- Without an end of a comment there is nothing to unwrap. -/
theorem unwrapExecutable_of_splitBlock?_eq_none (h : splitBlock? cs = none) :
    unwrapExecutable cs = cs := by
  fun_induction unwrapExecutable cs with
  | case1 => rfl
  | case2 rest r hr =>
    obtain ⟨code, hcode, hsplit⟩ := Option.bind_eq_some_iff.1 hr
    obtain ⟨front, rfl, -⟩ := executableBody?_eq_append hcode
    have hsuffix : code <:+ '/' :: '*' :: (front ++ code) := ⟨'/' :: '*' :: front, rfl⟩
    rw [splitBlock?_eq_none_of_suffix h hsuffix] at hsplit
    cases hsplit
  | case3 rest hr ih => rw [ih (splitBlock?_eq_none_of_suffix h (List.suffix_cons _ _))]
  | case4 c rest hc ih => rw [ih (splitBlock?_eq_none_of_suffix h (List.suffix_cons _ _))]

/-- A comment in which no executable comment opens is left as it is. -/
theorem unwrapExecutable_of_splitBlock? (h : splitBlock? cs = some (body, rest))
    (hholds : holdsExecutable cs = false) (hrest : rest.head? ≠ some '*') :
    unwrapExecutable cs = body ++ '*' :: '/' :: unwrapExecutable rest := by
  fun_induction splitBlock? cs generalizing body with
  | case1 => cases h
  | case2 rest =>
    cases h
    -- The slash of the end would open a comment with a star that follows it.
    have hslash : opensExecutable ('/' :: rest) = false := by
      cases rest with
      | nil => rfl
      | cons d rest =>
        rw [opensExecutable]
        rintro _ hd
        cases hd
        exact hrest rfl
    rw [unwrapExecutable_cons rfl, unwrapExecutable_cons hslash]
    rfl
  | case3 c cs hend ih =>
    obtain ⟨⟨body, rest⟩, hsplit, hr⟩ := Option.map_eq_some_iff.1 h
    cases hr
    rw [holdsExecutable, Bool.or_eq_false_iff] at hholds
    · rw [unwrapExecutable_cons hholds.1, ih hsplit hholds.2]
      rfl
    · exact hend

/-! ## Other comments -/

theorem removeBlocks_cons (h : c = '/' → cs.head? ≠ some '*') :
    removeBlocks (c :: cs) = c :: removeBlocks cs := by
  rw [removeBlocks]
  rintro cs' rfl rfl
  exact h rfl rfl

theorem removeBlocks_of_splitBlock? (h : splitBlock? cs = some (body, rest)) :
    removeBlocks ('/' :: '*' :: cs) = removeBlocks rest := by
  rw [removeBlocks]
  split
  next hr =>
    rw [h] at hr
    cases hr
    rfl
  next hr =>
    rw [h] at hr
    cases hr

theorem removeLines_cons (h : c = '-' → cs.head? ≠ some '-') :
    removeLines (c :: cs) = c :: removeLines cs := by
  rw [removeLines]
  rintro cs' rfl rfl
  exact h rfl rfl

/-- The text without comments from an opener to an end and without comments to the end of a line. -/
def clean (cs : List Char) : List Char :=
  removeLines (removeBlocks cs)

theorem clean_cons (hc : c ∉ "-*/".toList) : clean (c :: cs) = c :: clean cs := by
  have hne : c ≠ '-' ∧ c ≠ '*' ∧ c ≠ '/' := by simpa using hc
  rw [clean, removeBlocks_cons fun h => absurd h hne.2.2,
    removeLines_cons fun h => absurd h hne.1, clean]

theorem clean_append {front : List Char} (hfront : ∀ c ∈ front, c ∉ "-*/".toList) :
    clean (front ++ cs) = front ++ clean cs := by
  induction front with
  | nil => rfl
  | cons c front ih =>
    rw [List.forall_mem_cons] at hfront
    rw [List.cons_append, clean_cons hfront.1, ih hfront.2, List.cons_append]

/-- A comment without an end is left as it is. -/
theorem head?_clean_of_splitBlock?_eq_none (h : splitBlock? cs = none) :
    (clean ('/' :: '*' :: cs)).head? = some '/' := by
  have hblocks : ∃ tail, removeBlocks ('/' :: '*' :: cs) = '/' :: tail := by
    rw [removeBlocks]
    split
    next hr =>
      rw [h] at hr
      cases hr
    next => exact ⟨_, rfl⟩
  obtain ⟨tail, htail⟩ := hblocks
  rw [clean, htail, removeLines_cons fun h => absurd h (by decide)]
  rfl

/-- What leaves characters alone that open no comment leaves a line alone in which none opens. -/
theorem map_line {f : List Char → List Char}
    (hf : ∀ {c cs}, (c = '/' → cs.head? ≠ some '*') → f (c :: cs) = c :: f cs)
    (hline : ¬['/', '*'] <:+: line) (hcs : cs.head? ≠ some '*') :
    f (line ++ cs) = line ++ f cs := by
  induction line with
  | nil => rfl
  | cons c line ih =>
    have hhead : c = '/' → (line ++ cs).head? ≠ some '*' := by
      rintro rfl
      cases line with
      | nil => exact hcs
      | cons d line =>
        intro hd
        cases hd
        exact hline ⟨[], line, rfl⟩
    have hrest := ih fun h => hline (h.trans (List.suffix_cons c line).isInfix)
    rw [List.cons_append, hf hhead, hrest, List.cons_append]

theorem unwrapExecutable_line (hline : ¬['/', '*'] <:+: line) (hcs : cs.head? ≠ some '*') :
    unwrapExecutable (line ++ cs) = line ++ unwrapExecutable cs := by
  refine map_line (fun {c cs} h => unwrapExecutable_cons ?_) hline hcs
  rw [opensExecutable]
  rintro cs' heq
  cases heq
  exact h rfl rfl

/-- Nothing is left of a line behind two dashes if no comment is removed from it before. -/
theorem clean_dashes (hblocks : removeBlocks (line ++ cs) = line ++ removeBlocks cs)
    (hend : '\n' ∉ line) (hcs : ∀ c ∈ cs.head?, c = '\n') :
    clean ('-' :: '-' :: line ++ cs) = clean cs := by
  have hskip : skipLine (line ++ removeBlocks cs) = removeBlocks cs := by
    rw [skipLine, List.dropWhile_append_of_pos]
    · cases cs with
      | nil => rw [removeBlocks, List.dropWhile_nil]
      | cons c cs =>
        obtain rfl : c = '\n' := hcs c rfl
        rw [removeBlocks_cons (by simp), List.dropWhile_cons_of_neg (by simp)]
    · exact fun c hc => decide_eq_true fun h => hend (h ▸ hc)
  rw [clean, List.cons_append, List.cons_append, removeBlocks_cons (by simp),
    removeBlocks_cons (by simp), hblocks, removeLines, hskip, clean]

theorem head?_ne_of_lineEnd {d : Char} (hd : d ≠ '\n') (hcs : ∀ c ∈ cs.head?, c = '\n') :
    cs.head? ≠ some d :=
  fun h => hd (hcs d h)

theorem clean_line (hline : ¬['/', '*'] <:+: line) (hend : '\n' ∉ line)
    (hcs : ∀ c ∈ cs.head?, c = '\n') : clean ('-' :: '-' :: line ++ cs) = clean cs :=
  clean_dashes (map_line removeBlocks_cons hline (head?_ne_of_lineEnd (by decide) hcs)) hend hcs

/-- If the end of a comment stands on the line, nothing is left of what stands around it either. -/
theorem clean_line_of_end {front back : List Char}
    (hline : ¬['/', '*'] <:+: front ++ '*' :: '/' :: back)
    (hend : '\n' ∉ front ++ '*' :: '/' :: back) (hcs : ∀ c ∈ cs.head?, c = '\n') :
    clean ('-' :: '-' :: (front ++ back) ++ cs) = clean cs := by
  have hfront : ¬['/', '*'] <:+: front := fun h => hline (h.trans ⟨[], _, rfl⟩)
  have hback : ¬['/', '*'] <:+: back :=
    fun h => hline (h.trans ⟨front ++ ['*', '/'], [], by simp⟩)
  have hnext : (back ++ cs).head? ≠ some '*' := by
    cases back with
    | nil => exact head?_ne_of_lineEnd (by decide) hcs
    | cons c back =>
      intro hc
      cases hc
      exact hline ⟨front ++ ['*'], back, by simp⟩
  have hblocks : removeBlocks (front ++ back ++ cs) = front ++ back ++ removeBlocks cs := by
    rw [List.append_assoc, map_line removeBlocks_cons hfront hnext,
      map_line removeBlocks_cons hback (head?_ne_of_lineEnd (by decide) hcs), List.append_assoc]
  exact clean_dashes hblocks (fun h => hend (by simp_all)) hcs

end SchemaTrail.Statement
