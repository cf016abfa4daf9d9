import SchemaTrail.Proofs.Lexemes

/-!
# Words that are scanned

A keyword is the token of a word and of nothing else (`Token.scan_cases`), and is spelled in the
letters of the word (`Token.wordKind_eq_keyword`).  Operators are scanned as they stand
(`Token.scan_eq_scanSymbol`), and what begins like a word is at fault only if a digit or a quote
makes it something else (`Token.quote_of_scan_eq_error`).
-/

namespace SchemaTrail.Token

variable {c : Char} {rest : List Char} {k : Keyword} {fault : Fault}

/-- Whether a token is neither a keyword nor the end of the statement. -/
def isPlain : Kind → Bool
  | .keyword _ | .eof => false
  | _ => true

theorem isPlain_hexKind (digits : List Char) : isPlain (hexKind digits) = true := by
  unfold hexKind
  split <;> rfl

theorem isPlain_scanString (quote : Char) (cs : List Char) :
    isPlain (scanString quote cs).1 = true := by
  unfold scanString
  split
  · rfl
  · dsimp only
    split <;> rfl

theorem isPlain_scanName (cs : List Char) : isPlain (scanName cs).1 = true := by
  unfold scanName
  split <;> rfl

theorem isPlain_scanHex (cs : List Char) : isPlain (scanHex cs).1 = true := by
  unfold scanHex
  split
  · rfl
  · exact isPlain_hexKind _

theorem isPlain_scanBits (cs : List Char) : isPlain (scanBits cs).1 = true := by
  unfold scanBits
  split
  · rfl
  · dsimp only
    split <;> rfl

theorem isPlain_scanSymbol (c : Char) (rest : List Char) :
    isPlain (scanSymbol c rest).1 = true := by
  unfold scanSymbol
  split <;> rfl

theorem isPlain_prefixed? {radix : Char} {cs : List Char} {r : Kind × List Char}
    (h : prefixed? radix cs = some r) : isPlain r.1 = true := by
  simp only [prefixed?] at h
  repeat' split at h
  all_goals cases h
  · exact isPlain_hexKind _
  · exact isPlain_hexKind _
  · rfl

theorem isPlain_numberKind (digits fraction exponent : List Char) :
    isPlain (numberKind digits fraction exponent) = true := by
  unfold numberKind
  split
  · dsimp only
    split <;> rfl
  · split <;> rfl

theorem scanNumber_cases (cs : List Char) :
    scanNumber cs = scanWord cs ∨ isPlain (scanNumber cs).1 = true := by
  unfold scanNumber
  dsimp only
  split
  · exact .inl rfl
  · exact .inr (isPlain_numberKind _ _ _)

theorem scan_cases (c : Char) (rest : List Char) :
    isWordChar c = true ∧ scan c rest = scanWord (c :: rest) ∨ isPlain (scan c rest).1 = true := by
  have hnumber (h : c.isDigit = true) : isWordChar c = true ∧
      scanNumber (c :: rest) = scanWord (c :: rest) ∨ isPlain (scanNumber (c :: rest)).1 = true :=
    (scanNumber_cases _).imp_left fun heq => ⟨isWordChar_of_isDigit h, heq⟩
  have hprefixed (radix : Char) (digits : List Char) (h : c.isDigit = true) : isWordChar c = true ∧
      (prefixed? radix digits).getD (scanNumber (c :: rest)) = scanWord (c :: rest) ∨
      isPlain ((prefixed? radix digits).getD (scanNumber (c :: rest))).1 = true := by
    cases hp : prefixed? radix digits with
    | none => exact hnumber h
    | some r => exact .inr (isPlain_prefixed? hp)
  unfold scan
  split
  · exact .inr (isPlain_scanString _ _)
  split
  · exact .inr (isPlain_scanName _)
  split
  · split
    · exact .inr (isPlain_scanHex _)
    split
    · exact .inr (isPlain_scanBits _)
    split
    next h => exact hnumber h
    split
    next h => exact .inl ⟨h, rfl⟩
    exact .inr (isPlain_scanSymbol _ _)
  · split
    next h =>
      split
      · exact hprefixed _ _ h
      · exact hprefixed _ _ h
      · exact hnumber h
    split
    next h => exact .inl ⟨h, rfl⟩
    exact .inr (isPlain_scanSymbol _ _)

theorem wordKind_eq_keyword {word : String} (h : wordKind word = .keyword k) :
    word.toList.map Char.toUpper = k.spelling.toList := by
  unfold wordKind at h
  split at h
  next w hw =>
    cases h
    have hspelling := List.find?_some hw
    rw [decide_eq_true_iff] at hspelling
    rw [hspelling, Text.asciiUpper, String.toList_ofList]
  next => cases h

theorem wordKind_ne_error (word : String) : wordKind word ≠ .error fault := by
  unfold wordKind
  split <;> simp

theorem scanWord_ne_error (cs : List Char) : (scanWord cs).1 ≠ .error fault := by
  rw [scanWord]
  dsimp only
  exact wordKind_ne_error _

theorem scan_ne_eof (c : Char) (rest : List Char) : (scan c rest).1 ≠ .eof := by
  intro heof
  rcases scan_cases c rest with ⟨-, hword⟩ | hplain
  · rw [hword, scanWord, wordKind] at heof
    split at heof <;> cases heof
  · rw [heof] at hplain
    cases hplain

/-- Characters that begin neither a word nor anything between quotes begin an operator, if any. -/
theorem scan_eq_scanSymbol (hquote : c ∉ "'\"\x60".toList) (hc : isWordChar c = false)
    (rest : List Char) : scan c rest = scanSymbol c rest := by
  have hne : (c ≠ '\'' ∧ c ≠ '"') ∧ c ≠ '\x60' := by
    simpa [and_assoc] using hquote
  have hword : ∀ d, isWordChar d = true → c ≠ d := by
    rintro d hd rfl
    rw [hc] at hd
    cases hd
  have hdigit : c.isDigit = false := Bool.eq_false_iff.2 fun h => by
    rw [isWordChar_of_isDigit h] at hc
    cases hc
  unfold scan
  rw [if_neg (by simp [hne.1]), if_neg hne.2]
  split
  · rw [if_neg (by simp [hword 'x' rfl, hword 'X' rfl]),
      if_neg (by simp [hword 'b' rfl, hword 'B' rfl]), if_neg (by simp [hdigit]),
      if_neg (by simp [hc])]
  · rw [if_neg (by simp [hdigit]), if_neg (by simp [hc])]

/-- A word begins a word, unless it is the letter of a literal or begins with a digit. -/
theorem scan_eq_scanWord (hc : isWordChar c = true) (hdigit : c.isDigit = false)
    (hrest : rest.head? ≠ some '\'') : scan c rest = scanWord (c :: rest) := by
  have hne (d : Char) (hd : isWordChar d = false) : c ≠ d := by
    rintro rfl
    rw [hc] at hd
    cases hd
  unfold scan
  rw [if_neg (by simp [hne '\'' rfl, hne '"' rfl]), if_neg (hne '\x60' rfl)]
  split
  · simp at hrest
  · rw [if_neg (by simp [hdigit]), if_pos hc]

theorem scanWord_append {word : List Char} (hword : ∀ d ∈ word, isWordChar d = true)
    (hrest : ∀ d ∈ rest.head?, isWordChar d = false) :
    scanWord (word ++ rest) = (wordKind (String.ofList word), rest) := by
  have htake : rest.takeWhile isWordChar = [] ∧ rest.dropWhile isWordChar = rest := by
    cases rest with
    | nil => simp
    | cons d rest => simp [hrest d rfl]
  rw [scanWord, List.takeWhile_append_of_pos hword, List.dropWhile_append_of_pos hword, htake.1,
    htake.2, List.append_nil]

/-- What begins like a comment but is none is a symbol. -/
theorem scan_of_mem (hc : c ∈ "-*/".toList) (rest : List Char) :
    ∃ s, (scan c rest).1 = .symbol s := by
  have hcases : c = '-' ∨ c = '*' ∨ c = '/' := by simpa using hc
  rcases hcases with rfl | rfl | rfl <;> rw [scan_eq_scanSymbol (by decide) (by decide)]
  · exact ⟨.minus, rfl⟩
  · exact ⟨.star, rfl⟩
  · exact ⟨.slash, rfl⟩

/-- A fault that begins like a word is a number, or the letter of a literal and a quote. -/
theorem quote_of_scan_eq_error (h : (scan c rest).1 = .error fault) (hc : isWordChar c = true) :
    c.isDigit = true ∨ c ∈ "bBxX".toList ∧ rest.head? = some '\'' := by
  unfold scan at h
  split at h
  next hquote => rcases hquote with rfl | rfl <;> cases hc
  split at h
  next hquote =>
    subst hquote
    cases hc
  split at h
  · split at h
    next hx => exact .inr ⟨by rcases hx with rfl | rfl <;> decide, rfl⟩
    split at h
    next hb => exact .inr ⟨by rcases hb with rfl | rfl <;> decide, rfl⟩
    split at h
    next hdigit => exact .inl hdigit
    exact absurd h (scanWord_ne_error _)
  · split at h
    next hdigit => exact .inl hdigit
    exact absurd h (scanWord_ne_error _)

theorem nameBody?_plain (hc : c ≠ '\x60') (rest : List Char) :
    nameBody? (c :: rest) = (nameBody? rest).map fun r => (c :: r.1, r.2) := by
  rw [nameBody?.eq_def]
  split <;> simp_all

/-! ## The code of a text -/

theorem isBlank_of_skipGap {opened : Nat} {cs : List Char} (h : (skipGap opened cs).2 = c :: rest) :
    Text.isBlank c = false := by
  fun_induction skipGap opened cs with
  | case4 => cases h; decide
  | case8 opened c rest _ _ _ _ hblank => cases h; exact Bool.eq_false_iff.2 hblank
  | case9 => cases h
  | case1 _ _ _ ih | case2 _ _ _ ih | case3 _ _ _ ih | case5 _ _ _ _ _ ih | case6 _ _ _ _ ih
  | case7 _ _ _ _ _ _ _ _ ih => exact ih h

variable {opened : Nat} {cs : List Char} {ks : List Kind}

/-- The kinds of the tokens of a text, without its end. -/
def code (opened : Nat) (cs : List Char) : List Kind :=
  (kinds opened cs).filter (· ≠ .eof)

theorem code_of_codeAfter_nil (h : codeAfter opened cs = []) : code opened cs = [] := by
  rw [code, kinds_of_codeAfter_nil h]
  rfl

theorem code_of_codeAfter_cons (h : codeAfter opened cs = c :: rest) :
    code opened cs = (scan c rest).1 :: code (skipGap opened cs).1 (scan c rest).2 := by
  rw [code, kinds_of_codeAfter_cons h, List.filter_cons_of_pos (by simpa using scan_ne_eof c rest),
    code]

theorem skipGap_eq_of_codeAfter (h : codeAfter opened cs = c :: rest) (hc : c ≠ '\'') :
    (skipGap opened cs).2 = c :: rest := by
  unfold codeAfter dropNational at h
  split at h
  · exact absurd (List.cons.inj h).1.symm hc
  · exact absurd (List.cons.inj h).1.symm hc
  · exact h

/-- A keyword is the word that the code begins with. -/
theorem code_eq_keyword_cons (h : code opened cs = .keyword k :: ks) :
    ∃ c rest word, codeAfter opened cs = c :: rest ∧ (scan c rest).1 = .keyword k ∧
      code (skipGap opened cs).1 (scan c rest).2 = ks ∧
      (skipGap opened cs).2 = word ++ (scan c rest).2 ∧ (∀ d ∈ word, isWordChar d = true) ∧
      word.map Char.toUpper = k.spelling.toList := by
  cases hcode : codeAfter opened cs with
  | nil =>
    rw [code_of_codeAfter_nil hcode] at h
    cases h
  | cons c rest =>
    rw [code_of_codeAfter_cons hcode, List.cons.injEq] at h
    rcases scan_cases c rest with ⟨hc, hword⟩ | hplain
    · have hgap : (skipGap opened cs).2 = c :: rest := by
        refine skipGap_eq_of_codeAfter hcode ?_
        rintro rfl
        cases hc
      have hall : ∀ d ∈ (c :: rest).takeWhile isWordChar, isWordChar d = true :=
        List.all_eq_true.1 List.all_takeWhile
      have hsplit : (skipGap opened cs).2 =
          (c :: rest).takeWhile isWordChar ++ (scan c rest).2 := by
        rw [hgap, hword, scanWord, List.takeWhile_append_dropWhile]
      have hkeyword := h.1
      rw [hword, scanWord] at hkeyword
      dsimp only at hkeyword
      have hspelling := wordKind_eq_keyword hkeyword
      rw [String.toList_ofList] at hspelling
      exact ⟨c, rest, _, rfl, h.1, h.2, hsplit, hall, hspelling⟩
    · rw [h.1] at hplain
      cases hplain

/-- A fault begins neither like a comment nor like a word, unless the word is a number or the letter
of a literal. -/
theorem code_eq_error_cons (h : code opened cs = .error fault :: ks) :
    ∃ c rest, (skipGap opened cs).2 = c :: rest ∧ c ∉ "-*/".toList ∧ (isWordChar c = true →
      c.isDigit = true ∨ c ∈ "bBnNxX".toList ∧ rest.head? = some '\'') := by
  cases hcode : codeAfter opened cs with
  | nil =>
    rw [code_of_codeAfter_nil hcode] at h
    cases h
  | cons c rest =>
    rw [code_of_codeAfter_cons hcode, List.cons.injEq] at h
    unfold codeAfter dropNational at hcode
    split at hcode
    next national heq => exact ⟨'n', _, heq, by decide, fun _ => .inr ⟨by decide, rfl⟩⟩
    next national heq => exact ⟨'N', _, heq, by decide, fun _ => .inr ⟨by decide, rfl⟩⟩
    refine ⟨c, rest, hcode, fun hmem => ?_, fun hc => ?_⟩
    · obtain ⟨s, hs⟩ := scan_of_mem hmem rest
      rw [hs] at h
      cases h.1
    · have hletters : "bBxX".toList.Sublist "bBnNxX".toList := by decide
      exact (quote_of_scan_eq_error h.1 hc).imp_right (And.imp_left fun h => hletters.subset h)

end SchemaTrail.Token
