import SchemaTrail.Proofs.Coverage
import SchemaTrail.Proofs.ScannedNumbers

/-!
# Tokens alone

A token does not depend on what stands around it.  If its text is all that there is, the same token
is scanned (`Token.scan_alone`), and the text begins with no gap and with no letter that is dropped
(`Token.codeAfter_alone`), so that it is split into this one token and the end of the statement
(`Token.tokenize_alone`).
-/

namespace SchemaTrail.Token

variable {c d quote : Char} {k : Kind} {v w rest body : List Char}

/-! ## Texts between quotes -/

theorem scanString_alone (hquote : quote = '\'' ∨ quote = '"') (w : List Char) :
    ScansAlone (scanString quote) w := by
  intro k v h
  obtain ⟨token, kind, htoken⟩ := exists_textToken quote (w ++ v)
  obtain ⟨rest, heq, hscan⟩ := htoken.scan hquote
  rw [scan_quote hquote, h] at hscan
  obtain ⟨rfl, rfl⟩ := Prod.mk.inj hscan
  have hend (hnil : v = []) : scanString quote w = (k, []) := by
    rwa [hnil, List.append_nil] at h
  generalize hcs : w ++ v = cs at htoken heq
  cases htoken with
  | @closed body value rest hbody hrest =>
    obtain rfl : rest = v := by simpa using heq
    obtain rfl : w = body ++ [quote] := by
      have happend : w ++ rest = body ++ [quote] ++ rest := by
        rw [hcs, List.append_assoc, List.singleton_append]
      exact List.append_cancel_right happend
    have hclosed : TextToken quote (body ++ quote :: []) _ _ := .closed hbody (by simp)
    obtain ⟨rest', heq', hscan'⟩ := hclosed.scan hquote
    obtain rfl : [] = rest' := by simpa using heq'
    rwa [scan_quote hquote] at hscan'
  | backslash => exact hend (by simpa using heq)
  | unterminated => exact hend (by simpa using heq)

theorem length_nameBody? {r : List Char × List Char} (h : nameBody? w = some r) :
    r.2.length < w.length := by
  fun_induction nameBody? w generalizing r with
  | case1 => cases h
  | case2 rest ih =>
    obtain ⟨r, hr, rfl⟩ := Option.map_eq_some_iff.1 h
    have hlt := ih hr
    exact Nat.lt_add_right 2 hlt
  | case3 rest => cases h; exact Nat.lt_succ_self _
  | case4 c rest _ _ ih =>
    obtain ⟨r, hr, rfl⟩ := Option.map_eq_some_iff.1 h
    have hlt := ih hr
    exact Nat.lt_succ_of_lt hlt

theorem nameBody?_alone {name : List Char} (h : nameBody? (w ++ v) = some (name, v)) :
    nameBody? w = some (name, []) := by
  fun_induction nameBody? w generalizing name with
  | case1 => exact absurd (length_nameBody? h) (Nat.lt_irrefl _)
  | case2 rest ih =>
    obtain ⟨⟨name', v'⟩, hr, heq⟩ := Option.map_eq_some_iff.1 h
    cases heq
    rw [ih hr]
    rfl
  | case3 rest hdoubled =>
    have hrest : (rest ++ v).head? ≠ some '\x60' := by
      intro hhead
      obtain ⟨after, hafter⟩ := List.head?_eq_some_iff.1 hhead
      rw [List.cons_append, hafter] at h
      obtain ⟨⟨name', v'⟩, hr, heq⟩ := Option.map_eq_some_iff.1 h
      cases heq
      cases rest with
      | nil =>
        have hlt := length_nameBody? hr
        rw [show v' = '\x60' :: after from hafter] at hlt
        exact absurd (Nat.lt_of_succ_lt hlt) (Nat.lt_irrefl _)
      | cons d rest =>
        cases (List.cons.inj hafter).1
        exact hdoubled rest rfl
    rw [List.cons_append, nameBody?_quote hrest] at h
    obtain ⟨rfl, hv⟩ := Prod.mk.inj (Option.some.inj h)
    rw [List.append_left_eq_self.1 hv]
  | case4 c rest _ hquote ih =>
    rw [List.cons_append, nameBody?_plain hquote] at h
    obtain ⟨⟨name', v'⟩, hr, heq⟩ := Option.map_eq_some_iff.1 h
    cases heq
    rw [ih hr]
    rfl

theorem scanName_alone (w : List Char) : ScansAlone scanName w := by
  intro k v h
  unfold scanName at h
  split at h
  next hname =>
    obtain ⟨rfl, rfl⟩ := Prod.mk.inj h
    rw [List.append_nil] at hname
    rw [scanName, hname]
  next name rest hname =>
    obtain ⟨rfl, rfl⟩ := Prod.mk.inj h
    rw [scanName, nameBody?_alone hname]

/-! ## Bytes and bits -/

theorem scanHex_alone (w : List Char) : ScansAlone scanHex w := by
  intro k v h
  unfold scanHex at h
  split at h
  next hend =>
    obtain ⟨rfl, rfl⟩ := Prod.mk.inj h
    rw [List.append_nil] at hend
    rw [scanHex, hend]
  next d rest hend =>
    obtain ⟨rfl, rfl⟩ := Prod.mk.inj h
    obtain ⟨htake, hdrop⟩ := takeWhile_alone (u := [d]) hend
    rw [scanHex, hdrop, htake]

theorem scanBits_alone (w : List Char) : ScansAlone scanBits w := by
  intro k v h
  unfold scanBits at h
  split at h
  next hend =>
    obtain ⟨rfl, rfl⟩ := Prod.mk.inj h
    rw [List.append_nil] at hend
    rw [scanBits, hend]
  next d rest hend =>
    obtain ⟨rfl, rfl⟩ := Prod.mk.inj h
    obtain ⟨htake, hdrop⟩ := takeWhile_alone (u := [d]) hend
    rw [scanBits, hdrop, htake]

/-! ## Operators -/

theorem symbol?_alone {symbol : Symbol} (h : symbol? (c :: (w ++ v)) = some (symbol, v)) :
    symbol? (c :: w) = some (symbol, []) := by
  rw [symbol?.eq_def] at h
  split at h
  all_goals cases h
  all_goals
    next heq =>
      obtain ⟨rfl, hw⟩ := List.cons.inj heq
      first
        | obtain rfl := List.append_left_eq_self.1 hw
          rfl
        | obtain rfl := List.append_cancel_right (show w ++ v = [_] ++ v from hw)
          rfl

theorem symbol?_eq_none (h : symbol? (c :: v) = none) (w : List Char) :
    symbol? (c :: w) = none := by
  refine symbol?_none (fun hmem => ?_) (fun hmem => ?_) w
  · obtain ⟨⟨c, s⟩, hmark, rfl⟩ := List.mem_map.1 hmem
    rw [symbol?_single _ hmark] at h
    cases h
  · have hcases : c = '!' ∨ c = '<' ∨ c = '>' := by simpa using hmem
    rw [symbol?.eq_def] at h
    split at h
    case h_26 hbang hlt hgt =>
      rcases hcases with rfl | rfl | rfl
      · exact hbang _ rfl
      · exact hlt _ rfl
      · exact hgt _ rfl
    all_goals cases h

theorem scanSymbol_alone (c : Char) (w : List Char) : ScansAlone (scanSymbol c) w := by
  intro k v h
  unfold scanSymbol at h
  split at h
  next symbol after hsymbol =>
    obtain ⟨rfl, rfl⟩ := Prod.mk.inj h
    rw [scanSymbol, symbol?_alone hsymbol]
  next hnone =>
    obtain ⟨rfl, hv⟩ := Prod.mk.inj h
    obtain rfl := List.append_left_eq_self.1 hv
    rw [scanSymbol, symbol?_eq_none hnone]

/-! ## Tokens -/

/-- A text of which the first character is scanned begins with this character. -/
theorem exists_of_append_eq_cons (h : w ++ v = d :: body) (hv : v <:+ body) :
    ∃ u, w = d :: u ∧ body = u ++ v := by
  rcases List.append_eq_cons_iff.1 h with ⟨-, rfl⟩ | ⟨u, rfl, hbody⟩
  · exact absurd hv.length_le (by simp)
  · exact ⟨u, rfl, hbody⟩

/-- What is scanned of a text is scanned of the text of the token alone. -/
theorem scan_alone (c : Char) (w : List Char) : ScansAlone (scan c) w := by
  intro k v h
  by_cases hquote : c = '\'' ∨ c = '"'
  · rw [scan_quote hquote] at h ⊢
    exact scanString_alone hquote w k v h
  by_cases hname : c = '\x60'
  · subst hname
    exact scanName_alone w k v h
  by_cases hdigit : c.isDigit = true
  · by_cases hradix : c = '0' ∧ ∃ radix ∈ ['x', 'b'], (w ++ v).head? = some radix
    · obtain ⟨rfl, radix, hmem, hhead⟩ := hradix
      obtain ⟨digits, hdigits⟩ := List.head?_eq_some_iff.1 hhead
      rw [hdigits, scan_prefixed hmem] at h
      have hsuffix := List.dropWhile_suffix (l := digits) isWordChar
      rw [← snd_prefixedOrNumber hmem, h] at hsuffix
      obtain ⟨u, rfl, rfl⟩ := exists_of_append_eq_cons hdigits hsuffix
      rw [scan_prefixed hmem]
      exact prefixedOrNumber_alone hmem h
    · have hne (radix : Char) (hmem : radix ∈ ['x', 'b']) (hzero : c = '0') :
          (w ++ v).head? ≠ some radix := fun hhead => hradix ⟨hzero, radix, hmem, hhead⟩
      rw [scan_number hdigit fun hzero radix hmem => hne radix hmem hzero] at h
      rw [scan_number hdigit fun hzero radix hmem => head?_of_append (hne radix hmem hzero)]
      exact scanNumber_alone (c :: w) k v h
  by_cases hword : isWordChar c = true
  · by_cases hliteral : c ∈ ['x', 'X', 'b', 'B'] ∧ (w ++ v).head? = some '\''
    · obtain ⟨hletter, hhead⟩ := hliteral
      obtain ⟨body, hbody⟩ := List.head?_eq_some_iff.1 hhead
      have hcases : c ∈ ['x', 'X'] ∨ c ∈ ['b', 'B'] := List.mem_append.1 hletter
      rcases hcases with hx | hb
      · rw [hbody, scan_hex hx] at h
        have hsuffix := scanHex_suffix body
        rw [h] at hsuffix
        obtain ⟨u, rfl, rfl⟩ := exists_of_append_eq_cons hbody hsuffix
        rw [scan_hex hx]
        exact scanHex_alone u k v h
      · rw [hbody, scan_bits hb] at h
        have hsuffix := scanBits_suffix body
        rw [h] at hsuffix
        obtain ⟨u, rfl, rfl⟩ := exists_of_append_eq_cons hbody hsuffix
        rw [scan_bits hb]
        exact scanBits_alone u k v h
    · have hne (hletter : c ∈ ['x', 'X', 'b', 'B']) : (w ++ v).head? ≠ some '\'' :=
        fun hhead => hliteral ⟨hletter, hhead⟩
      rw [scan_word hword (Bool.eq_false_iff.2 hdigit) hne] at h
      rw [scan_word hword (Bool.eq_false_iff.2 hdigit) fun hletter =>
        head?_of_append (hne hletter)]
      exact scanWord_alone (c :: w) k v h
  · have hnone : c ∉ "'\"\x60".toList := by
      simpa [and_assoc] using And.intro (not_or.1 hquote) hname
    rw [scan_eq_scanSymbol hnone (Bool.eq_false_iff.2 hword)] at h ⊢
    exact scanSymbol_alone c w k v h

/-! ## The text of a token -/

section

variable {opened : Nat} {cs : List Char} (h : codeAfter opened cs = c :: rest)

include h

theorem isBlank_of_codeAfter : Text.isBlank c = false := by
  by_cases hc : c = '\''
  · subst hc
    decide
  · exact isBlank_of_skipGap (skipGap_eq_of_codeAfter h hc)

theorem head?_ne_of_codeAfter (hc : c ∈ ['n', 'N']) : rest.head? ≠ some '\'' := by
  intro hhead
  obtain ⟨body, rfl⟩ := List.head?_eq_some_iff.1 hhead
  have hne : c ≠ '\'' := by
    rintro rfl
    simp at hc
  have hgap := skipGap_eq_of_codeAfter h hne
  rw [codeAfter, hgap] at h
  have hcases : c = 'n' ∨ c = 'N' := by simpa using hc
  rcases hcases with rfl | rfl <;> simp [dropNational] at h

end

theorem ne_hash_of_skipGap {opened : Nat} {cs : List Char}
    (h : (skipGap opened cs).2 = c :: rest) : c ≠ '#' := by
  fun_induction skipGap opened cs with
  | case4 => cases h; decide
  | case8 opened c rest _ hhash =>
    cases h
    exact hhash
  | case9 => cases h
  | case1 _ _ _ ih | case2 _ _ _ ih | case3 _ _ _ ih | case5 _ _ _ _ _ ih | case6 _ _ _ _ ih
  | case7 _ _ _ _ _ _ _ _ ih => exact ih h

/-- The text of a token begins with this token, and with no gap or letter in front of it. -/
theorem codeAfter_alone {opened : Nat} {cs : List Char} (h : codeAfter opened cs = c :: (w ++ v))
    (hscan : scan c (w ++ v) = (k, v)) : codeAfter 0 (c :: w) = c :: w := by
  have hblank := isBlank_of_codeAfter h
  by_cases hcomment : c ∈ "-*/".toList
  · -- What might begin a comment is an operator of one character.
    have hcases : c = '-' ∨ c = '*' ∨ c = '/' := by simpa using hcomment
    have hw : w = [] := by
      rcases hcases with rfl | rfl | rfl
      all_goals
        rw [scan_eq_scanSymbol (by decide) (by decide)] at hscan
        exact List.append_left_eq_self.1 (Prod.mk.inj hscan).2
    subst hw
    rcases hcases with rfl | rfl | rfl <;> simp [codeAfter, skipGap, dropNational, hblank]
  · have hhash : c ≠ '#' := by
      rintro rfl
      exact ne_hash_of_skipGap (skipGap_eq_of_codeAfter h (by decide)) rfl
    rw [codeAfter, skipGap_of_not_blank hblank (by simp_all)]
    exact dropNational_of_head? fun hletter => head?_of_append (head?_ne_of_codeAfter h hletter)

/-- The text of each token, taken as a statement, is this token. -/
theorem tokenize_text {opened : Nat} {cs : List Char} {l : Lexeme} (hl : l ∈ lexemes opened cs)
    (hkind : l.kind ≠ .eof) :
    tokenize (String.ofList l.text) =
      [⟨l.kind, ⟨0, byteSize l.text⟩, String.ofList l.text⟩,
        ⟨.eof, ⟨byteSize l.text, byteSize l.text⟩, ""⟩] := by
  fun_induction lexemes opened cs with
  | case1 =>
    rw [List.mem_singleton.1 hl] at hkind
    exact absurd rfl hkind
  | case2 opened cs c rest h _ _ token ih =>
    rcases List.mem_cons.1 hl with rfl | hmem
    · obtain ⟨w, hw⟩ : token.2 <:+ rest := scan_suffix c rest
      have hscan : scan c (w ++ token.2) = (token.1, token.2) := by rw [hw]
      have htext : before (c :: rest) token.2 = c :: w := by
        rw [← hw, ← List.cons_append, before_of_append]
      rw [← hw] at h
      rw [htext]
      exact tokenize_of_codeAfter (codeAfter_alone h hscan) (scan_alone c w _ _ hscan)
    · exact ih hmem

theorem exists_lexeme {offset : Nat} {ls : List Lexeme} {t : Token} (ht : t ∈ place offset ls) :
    ∃ l ∈ ls, t.kind = l.kind ∧ t.text = String.ofList l.text := by
  induction ls generalizing offset with
  | nil => cases ht
  | cons l ls ih =>
    rcases List.mem_cons.1 ht with rfl | hmem
    · exact ⟨l, List.mem_cons_self, rfl, rfl⟩
    · obtain ⟨l', hl', heq⟩ := ih hmem
      exact ⟨l', List.mem_cons_of_mem l hl', heq⟩

/-- The bytes of a statement that a token takes up are its text. -/
theorem extract_of_mem_tokenize {statement : String} {t : Token} (ht : t ∈ tokenize statement)
    (hkind : t.kind ≠ .eof) :
    String.Pos.Raw.extract statement ⟨t.span.start⟩ ⟨t.span.stop⟩ = t.text := by
  obtain ⟨tokens, htokens, hstand, -⟩ := (covers_lexemes 0 0 statement.toList).exists_concat
  rw [tokenize, htokens, List.mem_append, List.mem_singleton] at ht
  rcases ht with hmem | rfl
  · have hspan := (hstand t hmem).2.span.2.2.2
    rwa [String.ofList_toList] at hspan
  · exact absurd rfl hkind

/-- No token depends on what stands around it: split alone, the bytes that a token takes up are this
token, from the first to the last, and the end of the statement. -/
theorem tokenize_alone (statement : String) :
    ∀ t ∈ tokenize statement, t.kind ≠ .eof →
      let slice := String.Pos.Raw.extract statement ⟨t.span.start⟩ ⟨t.span.stop⟩
      tokenize slice =
        [⟨t.kind, ⟨0, slice.utf8ByteSize⟩, slice⟩,
          ⟨.eof, ⟨slice.utf8ByteSize, slice.utf8ByteSize⟩, ""⟩] := by
  intro t ht hkind
  obtain ⟨l, hl, hlkind, htext⟩ := exists_lexeme ht
  rw [extract_of_mem_tokenize ht hkind, htext, hlkind]
  dsimp only
  rw [utf8ByteSize_ofList]
  exact tokenize_text hl (hlkind ▸ hkind)

/-- Digits with an exponent that lacks its own are a word, of which the sign is no part.  It stands
in an executable comment, behind a text that loses its letter. -/
theorem tokenize_alone_exponent :
    let statement := "/*!5 n'a*/' 1e+x"
    let t : Token := ⟨.identifier "1e", ⟨12, 14⟩, "1e"⟩
    t ∈ tokenize statement ∧ t.kind ≠ .eof ∧
      let slice := String.Pos.Raw.extract statement ⟨t.span.start⟩ ⟨t.span.stop⟩
      tokenize slice =
        [⟨t.kind, ⟨0, slice.utf8ByteSize⟩, slice⟩,
          ⟨.eof, ⟨slice.utf8ByteSize, slice.utf8ByteSize⟩, ""⟩] := by
  intro statement t
  have ht : t ∈ tokenize statement := by decide +kernel
  exact ⟨ht, nofun, tokenize_alone statement t ht nofun⟩

end SchemaTrail.Token
