import SchemaTrail.Proofs.StringLiterals

/-!
# Where tokens end

Whether a text is a token that ends in front of a space does not depend on what follows the space
(`Token.firstToken?_cuts`), and if it is one, it is the same token at the end of a text.  Only what
is open to the end of a text takes a space that follows: a text or name between quotes, and digits
between quotes.
-/

namespace SchemaTrail.Token

variable {c quote : Char} {k : Kind} {w u v : List Char}

/-- A text is empty or begins with a space. -/
def IsSpaced (v : List Char) : Prop :=
  ∀ c ∈ v.head?, c = ' '

theorem isSpaced_nil : IsSpaced [] :=
  nofun

theorem isSpaced_space (v : List Char) : IsSpaced (' ' :: v) := by
  rintro c ⟨⟩
  rfl

theorem IsSpaced.cases (h : IsSpaced v) : v = [] ∨ ∃ rest, v = ' ' :: rest := by
  cases v with
  | nil => exact .inl rfl
  | cons c rest =>
    cases h c rfl
    exact .inr ⟨rest, rfl⟩

/-- Where what is scanned ends in front of a space, it ends whatever follows the space, and if
nothing follows. -/
def Cuts (f : List Char → Kind × List Char) (w : List Char) : Prop :=
  ∀ k u, f (w ++ [' ']) = (k, u ++ [' ']) → ∀ v, IsSpaced v → f (w ++ v) = (k, u ++ v)

variable {f g : List Char → Kind × List Char}

/-- What is scanned ends in front of every space. -/
theorem cuts_of_forall (h : ∀ v, IsSpaced v → f (w ++ v) = (k, u ++ v)) : Cuts f w := by
  intro l t hspace v hv
  rw [h _ (isSpaced_space [])] at hspace
  obtain ⟨rfl, ht⟩ := Prod.mk.inj hspace
  rw [h v hv, List.append_cancel_right ht]

theorem Cuts.congr {w' : List Char} (h : Cuts g w')
    (heq : ∀ v, IsSpaced v → f (w ++ v) = g (w' ++ v)) : Cuts f w := by
  intro k u hspace v hv
  rw [heq _ (isSpaced_space [])] at hspace
  rw [heq v hv]
  exact h k u hspace v hv

/-- Nothing is scanned up to the end of the text. -/
theorem ne_nil_of_append_space : u ++ [' '] ≠ [] :=
  List.append_ne_nil_of_right_ne_nil u (List.cons_ne_nil _ _)

/-! ## Characters up to a space -/

section

variable {p : Char → Bool} (hp : p ' ' = false)

include hp

theorem eq_false_of_spaced (hv : IsSpaced v) : ∀ c ∈ v.head?, p c = false := by
  rintro c hc
  rw [hv c hc, hp]

theorem takeWhile_append_spaced (w : List Char) (hv : IsSpaced v) :
    (w ++ v).takeWhile p = w.takeWhile p :=
  (takeWhile_append_of_head? w (eq_false_of_spaced hp hv)).1

theorem dropWhile_append_spaced (w : List Char) (hv : IsSpaced v) :
    (w ++ v).dropWhile p = w.dropWhile p ++ v :=
  (takeWhile_append_of_head? w (eq_false_of_spaced hp hv)).2

end

theorem head?_spaced {d : Char} (hd : d ≠ ' ') (hv : IsSpaced v) (h : w.head? ≠ some d) :
    (w ++ v).head? ≠ some d := by
  cases w with
  | nil => exact fun hmem => hd (hv d hmem)
  | cons c w => exact h

theorem head?_of_append {d : Char} (h : (w ++ v).head? ≠ some d) : w.head? ≠ some d := by
  cases w with
  | nil => nofun
  | cons c w => exact h

/-! ## Texts between quotes -/

theorem scanString_cuts (hquote : quote = '\'' ∨ quote = '"') (w : List Char) :
    Cuts (scanString quote) w := by
  intro k u hspace v hv
  have hne : quote ≠ ' ' := by rcases hquote with rfl | rfl <;> decide
  obtain ⟨token, kind, htoken⟩ := exists_textToken quote (w ++ [' '])
  obtain ⟨rest, heq, hscan⟩ := htoken.scan hquote
  rw [scan_quote hquote, hspace] at hscan
  obtain ⟨rfl, rfl⟩ := Prod.mk.inj hscan
  generalize hcs : w ++ [' '] = cs at htoken heq
  cases htoken with
  | @closed body value rest hbody hrest =>
    obtain rfl : rest = u ++ [' '] := by simpa using heq
    have hw : w = body ++ quote :: u := by
      have hcancel : w ++ [' '] = (body ++ quote :: u) ++ [' '] := by simpa using hcs
      exact List.append_cancel_right hcancel
    have hclosed : TextToken quote (body ++ quote :: (u ++ v)) _ _ :=
      .closed hbody (head?_spaced hne hv (head?_of_append hrest))
    obtain ⟨rest', heq', hscan'⟩ := hclosed.scan hquote
    obtain rfl : u ++ v = rest' := by simpa using heq'
    rw [scan_quote hquote] at hscan'
    rw [hw, List.append_assoc, List.cons_append, hscan']
  | backslash => simp at heq
  | unterminated => simp at heq

theorem nameBody?_quote {rest : List Char} (hrest : rest.head? ≠ some '\x60') :
    nameBody? ('\x60' :: rest) = some ([], rest) := by
  cases rest with
  | nil => rfl
  | cons d rest =>
    have hd : d ≠ '\x60' := fun heq => hrest (by rw [heq, List.head?_cons])
    simp [nameBody?, hd]

theorem nameBody?_cuts {r : List Char × List Char} (h : nameBody? (w ++ [' ']) = some r)
    (hrest : r.2 = u ++ [' ']) (hv : IsSpaced v) : nameBody? (w ++ v) = some (r.1, u ++ v) := by
  fun_induction nameBody? w generalizing r with
  | case1 => cases h
  | case2 rest ih =>
    obtain ⟨r, hr, rfl⟩ := Option.map_eq_some_iff.1 h
    exact Option.map_eq_some_iff.2 ⟨_, ih hr hrest, rfl⟩
  | case3 rest hdoubled =>
    have hhead : (rest ++ [' ']).head? ≠ some '\x60' := by
      cases rest with
      | nil => simp
      | cons d rest => exact fun heq => hdoubled rest (by rw [Option.some.inj heq])
    rw [List.cons_append, nameBody?_quote hhead] at h
    cases h
    rw [List.cons_append, nameBody?_quote (head?_spaced (by decide) hv (head?_of_append hhead)),
      List.append_cancel_right hrest]
  | case4 c rest _ hquote ih =>
    have hc : c ≠ '\x60' := hquote
    rw [List.cons_append, nameBody?_plain hc] at h ⊢
    obtain ⟨r, hr, rfl⟩ := Option.map_eq_some_iff.1 h
    exact Option.map_eq_some_iff.2 ⟨_, ih hr hrest, rfl⟩

theorem scanName_cuts (w : List Char) : Cuts scanName w := by
  intro k u hspace v hv
  unfold scanName at hspace
  split at hspace
  next => exact absurd (Prod.mk.inj hspace).2.symm ne_nil_of_append_space
  next name rest hname =>
    obtain ⟨rfl, hrest⟩ := Prod.mk.inj hspace
    rw [scanName, nameBody?_cuts hname hrest hv]

/-! ## Bytes and bits -/

/-- Behind a character that is not taken stands nothing that is taken. -/
theorem takeWhile_append_of_dropWhile {p : Char → Bool} {rest : List Char}
    (h : w.dropWhile p = c :: rest) (v : List Char) :
    (w ++ v).takeWhile p = w.takeWhile p := by
  rw [List.takeWhile_append, if_neg fun hall => ?_]
  have hlength := congrArg List.length (List.takeWhile_append_dropWhile (p := p) (l := w))
  simp [h, hall] at hlength

theorem scanHex_cuts (w : List Char) : Cuts scanHex w := by
  intro k u hspace v hv
  unfold scanHex at hspace ⊢
  rw [List.dropWhile_append] at hspace ⊢
  cases hw : w.dropWhile (· ≠ '\'') with
  | nil =>
    rw [hw] at hspace
    exact absurd (Prod.mk.inj hspace).2.symm ne_nil_of_append_space
  | cons c rest =>
    have htake := takeWhile_append_of_dropWhile hw
    rw [hw, htake] at hspace
    obtain ⟨rfl, hrest⟩ := Prod.mk.inj hspace
    rw [htake, ← List.append_cancel_right hrest]
    rfl

theorem scanBits_cuts (w : List Char) : Cuts scanBits w := by
  intro k u hspace v hv
  unfold scanBits at hspace ⊢
  rw [dropWhile_append_spaced rfl w (isSpaced_space [])] at hspace
  rw [dropWhile_append_spaced rfl w hv]
  cases hw : w.dropWhile isBit with
  | nil =>
    rw [hw] at hspace
    exact absurd (Prod.mk.inj hspace).2.symm ne_nil_of_append_space
  | cons c rest =>
    rw [hw] at hspace
    rw [takeWhile_append_spaced rfl w (isSpaced_space [])] at hspace
    obtain ⟨rfl, hrest⟩ := Prod.mk.inj hspace
    rw [takeWhile_append_spaced rfl w hv, List.append_cancel_right hrest]
    rfl

/-! ## Words and numbers -/

theorem scanWord_spaced (w : List Char) (hv : IsSpaced v) :
    scanWord (w ++ v) =
      (wordKind (String.ofList (w.takeWhile isWordChar)), w.dropWhile isWordChar ++ v) := by
  rw [scanWord, takeWhile_append_spaced rfl w hv, dropWhile_append_spaced rfl w hv]

theorem exponentFollows_spaced (w : List Char) (hv : IsSpaced v) :
    exponentFollows (w ++ v) = exponentFollows w := by
  match w with
  | [] => obtain rfl | ⟨v, rfl⟩ := hv.cases <;> rfl
  | [c] => obtain rfl | ⟨v, rfl⟩ := hv.cases <;> rfl
  | _ :: _ :: _ => rfl

theorem wordFollows_spaced (w : List Char) (hv : IsSpaced v) :
    wordFollows (w ++ v) = wordFollows w := by
  cases w with
  | nil => obtain rfl | ⟨v, rfl⟩ := hv.cases <;> rfl
  | cons c w => rw [List.cons_append, wordFollows, wordFollows, exponentFollows_spaced w hv]

theorem takeFraction_of_ne (hc : c ≠ '.') (rest : List Char) :
    takeFraction (c :: rest) = ([], c :: rest) := by
  rw [takeFraction.eq_def]
  split <;> simp_all

theorem takeFraction_spaced (w : List Char) (hv : IsSpaced v) :
    takeFraction (w ++ v) = ((takeFraction w).1, (takeFraction w).2 ++ v) := by
  cases w with
  | nil => obtain rfl | ⟨v, rfl⟩ := hv.cases <;> rfl
  | cons c w =>
    by_cases hc : c = '.'
    · subst hc
      cases w with
      | nil => obtain rfl | ⟨v, rfl⟩ := hv.cases <;> rfl
      | cons d w =>
        have htake := takeWhile_append_spaced (p := Char.isDigit) rfl (d :: w) hv
        have hdrop := dropWhile_append_spaced (p := Char.isDigit) rfl (d :: w) hv
        rw [List.cons_append] at htake hdrop
        rw [List.cons_append, List.cons_append, takeFraction, takeFraction, htake, hdrop]
        repeat' split
        all_goals rfl
    · rw [List.cons_append, takeFraction_of_ne hc, takeFraction_of_ne hc]
      rfl

theorem takeExponent_spaced (w : List Char) (hv : IsSpaced v) :
    takeExponent (w ++ v) = ((takeExponent w).1, (takeExponent w).2 ++ v) := by
  match w with
  | [] => obtain rfl | ⟨v, rfl⟩ := hv.cases <;> rfl
  | [c] =>
    obtain rfl | ⟨v, rfl⟩ := hv.cases
    · rw [List.append_nil, List.append_nil]
    · show takeExponent (c :: ' ' :: v) = _
      unfold takeExponent
      dsimp only
      split <;> rfl
  | c :: d :: w =>
    have htake (w : List Char) := takeWhile_append_spaced (p := Char.isDigit) rfl w hv
    have hdrop (w : List Char) := dropWhile_append_spaced (p := Char.isDigit) rfl w hv
    show takeExponent (c :: d :: (w ++ v)) = _
    unfold takeExponent
    dsimp only
    rw [← List.cons_append, htake, htake, hdrop, hdrop]
    repeat' split
    all_goals rfl

theorem scanNumber_spaced (w : List Char) (hv : IsSpaced v) :
    scanNumber (w ++ v) = ((scanNumber w).1, (scanNumber w).2 ++ v) := by
  unfold scanNumber
  rw [dropWhile_append_spaced rfl w hv, takeWhile_append_spaced rfl w hv]
  dsimp only
  rw [wordFollows_spaced _ hv]
  split
  · rw [scanWord_spaced w hv]
    rfl
  · rw [takeFraction_spaced _ hv]
    dsimp only
    rw [takeExponent_spaced _ hv]

theorem prefixed?_spaced (radix : Char) (w : List Char) (hv : IsSpaced v) :
    prefixed? radix (w ++ v) = (prefixed? radix w).map fun r => (r.1, r.2 ++ v) := by
  unfold prefixed?
  rw [dropWhile_append_spaced rfl w hv, takeWhile_append_spaced rfl w hv]
  dsimp only
  repeat' split
  all_goals rfl

/-! ## Operators -/

/-- The characters that are operators whatever follows. -/
def singleMarks : List (Char × Symbol) :=
  [('(', .leftParen), (')', .rightParen), (',', .comma), (';', .semicolon), ('.', .dot),
    (':', .colon), ('?', .question), ('@', .at), ('+', .plus), ('-', .minus), ('*', .star),
    ('/', .slash), ('%', .percent), ('^', .caret), ('~', .bitNot), ('&', .bitAnd), ('|', .bitOr),
    ('=', .eq)]

theorem symbol?_single :
    ∀ mark ∈ singleMarks, ∀ rest, symbol? (mark.1 :: rest) = some (mark.2, rest) := by
  simp only [singleMarks, List.forall_mem_cons]
  and_intros
  all_goals first
    | exact fun _ => rfl
    | nofun

theorem symbol?_none (hsingle : c ∉ singleMarks.map Prod.fst) (hc : c ∉ ['!', '<', '>'])
    (rest : List Char) : symbol? (c :: rest) = none := by
  rw [symbol?.eq_def]
  split
  all_goals first
    | rfl
    | next heq => cases heq; exact absurd (by decide) hsingle
    | next heq => cases heq; exact absurd (by decide) hc

theorem symbol?_spaced (c : Char) (w : List Char) (hv : IsSpaced v) :
    symbol? (c :: (w ++ v)) = (symbol? (c :: w)).map fun r => (r.1, r.2 ++ v) := by
  by_cases hsingle : c ∈ singleMarks.map Prod.fst
  · obtain ⟨⟨c, s⟩, hmark, rfl⟩ := List.mem_map.1 hsingle
    rw [symbol?_single _ hmark, symbol?_single _ hmark]
    rfl
  by_cases hc : c ∈ ['!', '<', '>']
  · have hcases : c = '!' ∨ c = '<' ∨ c = '>' := by simpa using hc
    cases w with
    | nil =>
      obtain rfl | ⟨v, rfl⟩ := hv.cases <;> rcases hcases with rfl | rfl | rfl <;> rfl
    | cons d w =>
      by_cases hd : d ∈ ['=', '>']
      · have hd : d = '=' ∨ d = '>' := by simpa using hd
        rcases hcases with rfl | rfl | rfl <;> rcases hd with rfl | rfl <;> rfl
      · have hd : d ≠ '=' ∧ d ≠ '>' := by simpa using hd
        rcases hcases with rfl | rfl | rfl <;> simp [symbol?, hd]
  · rw [symbol?_none hsingle hc, symbol?_none hsingle hc]
    rfl

theorem scanSymbol_spaced (c : Char) (w : List Char) (hv : IsSpaced v) :
    scanSymbol c (w ++ v) = ((scanSymbol c w).1, (scanSymbol c w).2 ++ v) := by
  unfold scanSymbol
  rw [symbol?_spaced c w hv]
  cases symbol? (c :: w) <;> rfl

/-! ## Tokens -/

/-- Digits are a number, unless they begin one with another radix. -/
theorem scan_number {rest : List Char} (hdigit : c.isDigit = true)
    (hradix : c = '0' → ∀ radix ∈ ['x', 'b'], rest.head? ≠ some radix) :
    scan c rest = scanNumber (c :: rest) := by
  have hne (d : Char) (hd : d.isDigit = false) : c ≠ d := by
    rintro rfl
    rw [hdigit] at hd
    cases hd
  unfold scan
  rw [if_neg (by simp [hne '\'' rfl, hne '"' rfl]), if_neg (hne '\x60' rfl)]
  split
  · rw [if_neg (by simp [hne 'x' rfl, hne 'X' rfl]), if_neg (by simp [hne 'b' rfl, hne 'B' rfl]),
      if_pos hdigit]
  · rw [if_pos hdigit]
    split
    · exact absurd rfl (hradix rfl 'x' (by simp))
    · exact absurd rfl (hradix rfl 'b' (by simp))
    · rfl

theorem scan_prefixed {radix : Char} (hradix : radix ∈ ['x', 'b']) (digits : List Char) :
    scan '0' (radix :: digits) =
      (prefixed? radix digits).getD (scanNumber ('0' :: radix :: digits)) := by
  have hcases : radix = 'x' ∨ radix = 'b' := by simpa using hradix
  rcases hcases with rfl | rfl <;> rfl

/-- A word begins a word, unless it begins with a digit or is the letter of a literal. -/
theorem scan_word {rest : List Char} (hc : isWordChar c = true) (hdigit : c.isDigit = false)
    (hliteral : c ∈ ['x', 'X', 'b', 'B'] → rest.head? ≠ some '\'') :
    scan c rest = scanWord (c :: rest) := by
  by_cases hrest : rest.head? = some '\''
  · have hletter : c ∉ ['x', 'X', 'b', 'B'] := fun hmem => hliteral hmem hrest
    have hne (d : Char) (hd : isWordChar d = false) : c ≠ d := by
      rintro rfl
      rw [hc] at hd
      cases hd
    obtain ⟨body, rfl⟩ := List.head?_eq_some_iff.1 hrest
    unfold scan
    rw [if_neg (by simp [hne '\'' rfl, hne '"' rfl]), if_neg (hne '\x60' rfl)]
    simp_all
  · exact scan_eq_scanWord hc hdigit hrest

theorem scan_hex (hc : c ∈ ['x', 'X']) (body : List Char) :
    scan c ('\'' :: body) = scanHex body := by
  have hcases : c = 'x' ∨ c = 'X' := by simpa using hc
  rcases hcases with rfl | rfl <;> rfl

theorem scan_bits (hc : c ∈ ['b', 'B']) (body : List Char) :
    scan c ('\'' :: body) = scanBits body := by
  have hcases : c = 'b' ∨ c = 'B' := by simpa using hc
  rcases hcases with rfl | rfl <;> rfl

theorem scan_cuts (c : Char) (w : List Char) : Cuts (scan c) w := by
  by_cases hquote : c = '\'' ∨ c = '"'
  · exact (scanString_cuts hquote w).congr fun _ _ => scan_quote hquote _
  by_cases hname : c = '\x60'
  · subst hname
    exact (scanName_cuts w).congr fun _ _ => rfl
  by_cases hdigit : c.isDigit = true
  · by_cases hradix : c = '0' ∧ ∃ radix ∈ ['x', 'b'], w.head? = some radix
    · obtain ⟨rfl, radix, hmem, hhead⟩ := hradix
      obtain ⟨digits, rfl⟩ := List.head?_eq_some_iff.1 hhead
      cases hprefixed : prefixed? radix digits with
      | none =>
        refine (cuts_of_forall fun _ hv => scanNumber_spaced ('0' :: radix :: digits) hv).congr
          fun v hv => ?_
        rw [List.cons_append, scan_prefixed hmem, prefixed?_spaced radix digits hv, hprefixed]
        rfl
      | some r =>
        refine cuts_of_forall (k := r.1) (u := r.2) fun v hv => ?_
        rw [List.cons_append, scan_prefixed hmem, prefixed?_spaced radix digits hv, hprefixed]
        rfl
    · refine (cuts_of_forall fun _ hv => scanNumber_spaced (c :: w) hv).congr fun v hv =>
        scan_number hdigit fun hzero radix hmem => head?_spaced ?_ hv fun hhead =>
          hradix ⟨hzero, radix, hmem, hhead⟩
      rintro rfl
      simp at hmem
  by_cases hword : isWordChar c = true
  · by_cases hliteral : c ∈ ['x', 'X', 'b', 'B'] ∧ w.head? = some '\''
    · obtain ⟨hletter, hhead⟩ := hliteral
      obtain ⟨body, rfl⟩ := List.head?_eq_some_iff.1 hhead
      have hcases : c ∈ ['x', 'X'] ∨ c ∈ ['b', 'B'] := List.mem_append.1 hletter
      rcases hcases with hx | hb
      · exact (scanHex_cuts body).congr fun _ _ => scan_hex hx _
      · exact (scanBits_cuts body).congr fun _ _ => scan_bits hb _
    · exact (cuts_of_forall fun _ hv => scanWord_spaced (c :: w) hv).congr fun v hv =>
        scan_word hword (Bool.eq_false_iff.2 hdigit) fun hletter => head?_spaced (by decide) hv
          fun hhead => hliteral ⟨hletter, hhead⟩
  · have hnone : c ∉ "'\"\x60".toList := by
      simpa [and_assoc] using And.intro (not_or.1 hquote) hname
    exact (cuts_of_forall fun _ hv => scanSymbol_spaced c w hv).congr fun _ _ =>
      scan_eq_scanSymbol hnone (Bool.eq_false_iff.2 hword) _

theorem dropNational_of_head? {rest : List Char}
    (h : c ∈ ['n', 'N'] → rest.head? ≠ some '\'') : dropNational (c :: rest) = c :: rest := by
  unfold dropNational
  split <;> simp_all

/-- The first token of a text that begins with one, and what follows it. -/
def firstToken? (cs : List Char) : Option (Kind × List Char) :=
  match dropNational cs with
  | [] => none
  | c :: rest => some (scan c rest)

theorem firstToken?_eq {cs rest : List Char} (h : dropNational cs = c :: rest) :
    firstToken? cs = some (scan c rest) := by
  rw [firstToken?, h]

/-- A token that ends in front of a space ends there whatever follows the space, and if nothing
follows. -/
theorem firstToken?_cuts (h : firstToken? (w ++ [' ']) = some (k, u ++ [' '])) (hv : IsSpaced v) :
    firstToken? (w ++ v) = some (k, u ++ v) := by
  cases w with
  | nil => exact absurd (Prod.mk.inj (Option.some.inj h)).2.symm ne_nil_of_append_space
  | cons c w =>
    by_cases hnational : c ∈ ['n', 'N'] ∧ w.head? = some '\''
    · obtain ⟨hletter, hhead⟩ := hnational
      obtain ⟨body, rfl⟩ := List.head?_eq_some_iff.1 hhead
      have hdrop (v : List Char) : dropNational (c :: '\'' :: body ++ v) = '\'' :: (body ++ v) := by
        have hcases : c = 'n' ∨ c = 'N' := by simpa using hletter
        rcases hcases with rfl | rfl <;> rfl
      rw [firstToken?_eq (hdrop _)] at h ⊢
      exact congrArg some (scan_cuts '\'' body k u (Option.some.inj h) v hv)
    · have hdrop (v : List Char) (hv : IsSpaced v) :
          dropNational (c :: w ++ v) = c :: (w ++ v) :=
        dropNational_of_head? fun hletter => head?_spaced (by decide) hv fun hhead =>
          hnational ⟨hletter, hhead⟩
      rw [firstToken?_eq (hdrop _ (isSpaced_space []))] at h
      rw [firstToken?_eq (hdrop v hv)]
      exact congrArg some (scan_cuts c w k u (Option.some.inj h) v hv)

end SchemaTrail.Token
