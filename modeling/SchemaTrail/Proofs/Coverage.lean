import Mathlib.Data.String.Basic
import SchemaTrail.Proofs.ScannedWords

/-!
# Tokens cover a text

Between the tokens of a text stands nothing but blanks, comments and the marks of executable
comments (`Token.Skips`), and the letter of a text of the national character set.  A list of tokens
covers a text if it consists of such gaps and of the texts of the tokens, one after the other, and
is ended by the end of the statement (`Token.Covers`); the tokens of a text cover it
(`Token.tokenize_covers`).
-/

namespace SchemaTrail.Token

/-! ## Gaps -/

/-- The marks behind the opener of a comment that make it executable. -/
def executableMarks : List (List Char) := ["!".toList, "M!".toList]

/-- What stands between a text and its rest is no code: blanks, comments, and what opens and closes
executable comments.  The numbers tell how many executable comments are open before and after. -/
inductive Skips : Nat → List Char → Nat → List Char → Prop
  | done (opened : Nat) (cs : List Char) : Skips opened cs opened cs
  | blank {opened opened' : Nat} {c : Char} {cs rest : List Char} (hc : Text.isBlank c = true)
    (h : Skips opened cs opened' rest) : Skips opened (c :: cs) opened' rest
  /-- A comment to the end of the line. -/
  | line {opened opened' : Nat} {mark line cs rest : List Char}
    (hmark : mark ∈ ["--".toList, "#".toList]) (hline : '\n' ∉ line)
    (hend : ∀ c ∈ cs.head?, c = '\n') (h : Skips opened cs opened' rest) :
    Skips opened (mark ++ line ++ cs) opened' rest
  | block {opened opened' : Nat} {body cs rest : List Char}
    (hmark : ∀ mark ∈ executableMarks, ¬mark <+: body) (hbody : ¬['*', '/'] <:+: body)
    (h : Skips opened cs opened' rest) :
    Skips opened ('/' :: '*' :: body ++ '*' :: '/' :: cs) opened' rest
  /-- A comment that runs to the end of the text. -/
  | unclosed {opened : Nat} {body : List Char} (hmark : ∀ mark ∈ executableMarks, ¬mark <+: body)
    (hbody : ¬['*', '/'] <:+: body) : Skips opened ('/' :: '*' :: body) opened []
  /-- The opener of an executable comment, with all digits of its version. -/
  | executable {opened opened' : Nat} {mark digits cs rest : List Char}
    (hmark : mark ∈ executableMarks) (hdigits : ∀ d ∈ digits, d.isDigit = true)
    (hend : ∀ c ∈ cs.head?, c.isDigit = false) (h : Skips (opened + 1) cs opened' rest) :
    Skips opened ('/' :: '*' :: (mark ++ digits ++ cs)) opened' rest
  /-- The end of an executable comment. -/
  | close {opened opened' : Nat} {cs rest : List Char} (h : Skips opened cs opened' rest) :
    Skips (opened + 1) ('*' :: '/' :: cs) opened' rest

variable {c : Char} {opened opened' offset : Nat} {cs rest : List Char}

theorem exists_line (cs : List Char) :
    ∃ line, cs = line ++ skipLine cs ∧ '\n' ∉ line ∧ ∀ c ∈ (skipLine cs).head?, c = '\n' := by
  refine ⟨cs.takeWhile (· ≠ '\n'), List.takeWhile_append_dropWhile.symm, fun hmem => ?_,
    fun c hc => ?_⟩
  · have hall := List.all_eq_true.1 List.all_takeWhile _ hmem
    simp at hall
  · simpa using eq_false_of_mem_head?_dropWhile hc

/-- A comment ends at the first end of one, or with the text. -/
theorem skipBlock_cases (cs : List Char) :
    (∃ body, cs = body ++ '*' :: '/' :: skipBlock cs ∧ ¬['*', '/'] <:+: body) ∨
      skipBlock cs = [] ∧ ¬['*', '/'] <:+: cs := by
  fun_induction skipBlock cs with
  | case1 => exact .inr ⟨rfl, by simp⟩
  | case2 rest => exact .inl ⟨[], rfl, by simp⟩
  | case3 c cs hend ih =>
    have hcons {body : List Char} (hbody : body <+: cs) (h : ¬['*', '/'] <:+: body) :
        ¬['*', '/'] <:+: c :: body := by
      rw [List.infix_cons_iff, List.cons_prefix_cons]
      rintro (⟨rfl, hslash⟩ | hinner)
      · obtain ⟨tail, rfl⟩ := hslash.trans hbody
        exact hend _ rfl rfl
      · exact h hinner
    rcases ih with ⟨body, heq, hbody⟩ | ⟨hnil, hcs⟩
    · exact .inl ⟨c :: body, congrArg (c :: ·) heq, hcons ⟨_, heq.symm⟩ hbody⟩
    · exact .inr ⟨hnil, hcons List.prefix_rfl hcs⟩

/-- An executable comment has a mark, and then a version. -/
theorem exists_of_skipVersion? {code : List Char} (h : skipVersion? cs = some code) :
    ∃ mark ∈ executableMarks, ∃ digits, cs = mark ++ digits ++ code ∧
      (∀ d ∈ digits, d.isDigit = true) ∧ ∀ c ∈ code.head?, c.isDigit = false := by
  have hdigits (rest : List Char) : (∀ d ∈ rest.takeWhile Char.isDigit, d.isDigit = true) ∧
      ∀ c ∈ (rest.dropWhile Char.isDigit).head?, c.isDigit = false :=
    ⟨List.all_eq_true.1 List.all_takeWhile, fun _ => eq_false_of_mem_head?_dropWhile⟩
  unfold skipVersion? at h
  split at h <;> cases h
  next rest =>
    exact ⟨"!".toList, by decide, rest.takeWhile Char.isDigit, by simp, hdigits rest⟩
  next rest =>
    exact ⟨"M!".toList, by decide, rest.takeWhile Char.isDigit, by simp, hdigits rest⟩

theorem not_mark_of_skipVersion? (h : skipVersion? cs = none) {body : List Char}
    (hbody : body <+: cs) : ∀ mark ∈ executableMarks, ¬mark <+: body := by
  rintro mark hmark hprefix
  obtain ⟨tail, rfl⟩ := hprefix.trans hbody
  have hcases : mark = ['!'] ∨ mark = ['M', '!'] := by simpa [executableMarks] using hmark
  rcases hcases with rfl | rfl <;> cases h

/-- What the lexer skips is no code. -/
theorem skips_skipGap (opened : Nat) (cs : List Char) :
    Skips opened cs (skipGap opened cs).1 (skipGap opened cs).2 := by
  fun_induction skipGap opened cs with
  | case1 opened rest _ ih =>
    obtain ⟨line, heq, hline, hend⟩ := exists_line rest
    have hskips := Skips.line (by simp : "--".toList ∈ _) hline hend ih
    rwa [List.append_assoc, ← heq] at hskips
  | case2 opened rest _ ih =>
    obtain ⟨line, heq, hline, hend⟩ := exists_line rest
    have hskips := Skips.line (by simp : "#".toList ∈ _) hline hend ih
    rwa [List.append_assoc, ← heq] at hskips
  | case3 opened rest hopened ih =>
    obtain ⟨n, rfl⟩ := Nat.exists_eq_succ_of_ne_zero (Nat.pos_iff_ne_zero.1 hopened)
    exact .close ih
  | case4 => exact .done _ _
  | case5 opened rest code hversion _ ih =>
    obtain ⟨mark, hmark, digits, rfl, hdigits, hend⟩ := exists_of_skipVersion? hversion
    exact .executable hmark hdigits hend ih
  | case6 opened rest hversion _ ih =>
    rcases skipBlock_cases rest with ⟨body, heq, hbody⟩ | ⟨hnil, hbody⟩
    · have hmark := not_mark_of_skipVersion? hversion ⟨_, heq.symm⟩
      have hskips := Skips.block hmark hbody ih
      rwa [List.cons_append, List.cons_append, ← heq] at hskips
    · rw [hnil, skipGap]
      exact .unclosed (not_mark_of_skipVersion? hversion List.prefix_rfl) hbody
  | case7 opened c rest _ _ _ _ hblank ih => exact .blank hblank ih
  | case8 => exact .done _ _
  | case9 => exact .done _ _

/-! ## Tokens with the gaps between them -/

/-- What may stand right in front of a token: nothing, or the letter of the national character set
in front of a text. -/
def IsNational (letter text : List Char) : Prop :=
  letter = [] ∨ letter ∈ ["n".toList, "N".toList] ∧ text.head? = some '\''

/-- A text, which begins at a byte offset and where executable comments are open, consists of the
texts of tokens and of what may stand in front of them, and is ended by the end of the statement. -/
inductive Covers : Nat → Nat → List Char → List Token → Prop
  | finish {opened opened' offset : Nat} {cs : List Char} (h : Skips opened cs opened' []) :
    Covers opened offset cs [⟨.eof, ⟨offset + byteSize cs, offset + byteSize cs⟩, ""⟩]
  | token {opened opened' offset : Nat} {gap letter text rest : List Char} {kind : Kind}
    {tokens : List Token}
    (hgap : Skips opened (gap ++ letter ++ text ++ rest) opened' (letter ++ text ++ rest))
    (hletter : IsNational letter text) (htext : text ≠ []) (hkind : kind ≠ .eof)
    (hrest : Covers opened' (offset + byteSize (gap ++ letter ++ text)) rest tokens) :
    Covers opened offset (gap ++ letter ++ text ++ rest)
      (⟨kind, ⟨offset + byteSize (gap ++ letter), offset + byteSize (gap ++ letter ++ text)⟩,
        String.ofList text⟩ :: tokens)

theorem byteSize_append (cs ds : List Char) : byteSize (cs ++ ds) = byteSize cs + byteSize ds := by
  induction cs with
  | nil => simp [byteSize]
  | cons c cs ih => rw [List.cons_append, byteSize, byteSize, ih, Nat.add_assoc]

theorem byteSize_pos (h : cs ≠ []) : 0 < byteSize cs := by
  obtain ⟨c, cs, rfl⟩ := List.exists_cons_of_ne_nil h
  rw [byteSize]
  exact Nat.add_pos_left c.utf8Size_pos _

theorem exists_dropNational (cs : List Char) :
    ∃ letter, cs = letter ++ dropNational cs ∧ IsNational letter (dropNational cs) := by
  unfold dropNational
  split
  · exact ⟨['n'], rfl, .inr ⟨by simp, rfl⟩⟩
  · exact ⟨['N'], rfl, .inr ⟨by simp, rfl⟩⟩
  · exact ⟨[], rfl, .inl rfl⟩

/-- The lexemes of a text, placed where it begins, cover it. -/
theorem covers_lexemes (opened offset : Nat) (cs : List Char) :
    Covers opened offset cs (place offset (lexemes opened cs)) := by
  fun_induction lexemes opened cs generalizing offset with
  | case1 opened cs h =>
    have hgap : (skipGap opened cs).2 = [] := by
      obtain ⟨letter, heq, hletter⟩ := exists_dropNational (skipGap opened cs).2
      rw [← codeAfter, h] at heq hletter
      rcases hletter with rfl | ⟨-, hhead⟩
      · exact heq
      · cases hhead
    have hskips := skips_skipGap opened cs
    rw [hgap] at hskips
    exact .finish hskips
  | case2 opened cs c rest h _ _ token ih =>
    obtain ⟨letter, hcode, hletter⟩ := exists_dropNational (skipGap opened cs).2
    obtain ⟨gap, hgap⟩ := skipGap_suffix opened cs
    have hkind : token.1 ≠ .eof := scan_ne_eof c rest
    obtain ⟨front, hfront⟩ : token.2 <:+ rest := scan_suffix c rest
    clear_value token
    rw [← codeAfter, h] at hcode hletter
    have hcode : (skipGap opened cs).2 = letter ++ (c :: front) ++ token.2 := by
      rw [hcode, ← hfront, List.append_assoc, List.cons_append]
    have hcs : cs = gap ++ letter ++ (c :: front) ++ token.2 := by
      rw [← hgap, hcode]
      simp only [List.append_assoc]
    have htext : before (c :: rest) token.2 = c :: front := by
      rw [← hfront, ← List.cons_append, before_of_append]
    have hbefore : before cs (c :: rest) = gap ++ letter := by
      rw [hcs, ← hfront, List.append_assoc _ (c :: front), List.cons_append, before_of_append]
    have hskips := skips_skipGap opened cs
    rw [hcode] at hskips
    rw [place, htext, hbefore, Nat.add_assoc, ← byteSize_append]
    have hcovers := ih (offset + byteSize (gap ++ letter ++ (c :: front)))
    generalize (skipGap opened cs).1 = opened' at hskips hcovers
    subst hcs
    exact .token hskips hletter (List.cons_ne_nil _ _) hkind hcovers

/-! ## Where tokens stand -/

/-- A token stands in a text that begins at a byte offset: its text is there, from the first byte of
its place to the last, and is not empty. -/
def StandsIn (offset : Nat) (cs : List Char) (t : Token) : Prop :=
  ∃ front text back, cs = front ++ text ++ back ∧ text ≠ [] ∧ t.text = String.ofList text ∧
    t.span = ⟨offset + byteSize front, offset + byteSize (front ++ text)⟩

variable {t : Token} {tokens : List Token}

theorem StandsIn.append (h : StandsIn (offset + byteSize cs) rest t) :
    StandsIn offset (cs ++ rest) t := by
  obtain ⟨front, text, back, rfl, htext, hvalue, hspan⟩ := h
  refine ⟨cs ++ front, text, back, by simp, htext, hvalue, ?_⟩
  simp only [hspan, byteSize_append, Nat.add_assoc]

theorem StandsIn.le_start (h : StandsIn offset cs t) : offset ≤ t.span.start := by
  obtain ⟨_, _, _, _, _, _, hspan⟩ := h
  rw [hspan]
  exact Nat.le_add_right _ _

/-- The tokens that cover a text stand in it one after the other, and then the statement ends. -/
theorem Covers.exists_concat (h : Covers opened offset cs tokens) :
    ∃ front, tokens = front ++ [⟨.eof, ⟨offset + byteSize cs, offset + byteSize cs⟩, ""⟩] ∧
      (∀ t ∈ front, t.kind ≠ .eof ∧ StandsIn offset cs t) ∧
      front.Pairwise fun t u => t.span.stop ≤ u.span.start := by
  induction h with
  | finish => exact ⟨[], rfl, by simp, .nil⟩
  | @token opened opened' offset gap letter text rest kind tokens hgap hletter htext hkind _ ih =>
    obtain ⟨front, rfl, hstand, hpairwise⟩ := ih
    have hsize : offset + byteSize (gap ++ letter ++ text) + byteSize rest =
        offset + byteSize (gap ++ letter ++ text ++ rest) := by
      rw [byteSize_append _ rest, Nat.add_assoc]
    rw [hsize]
    refine ⟨_ :: front, rfl, ?_, ?_⟩
    · refine List.forall_mem_cons.2 ⟨⟨hkind, gap ++ letter, text, rest, rfl, htext, rfl, rfl⟩, ?_⟩
      exact fun t ht => ⟨(hstand t ht).1, (hstand t ht).2.append⟩
    · exact List.pairwise_cons.2 ⟨fun u hu => (hstand u hu).2.le_start, hpairwise⟩

/-! ## Whole statements -/

theorem utf8Len_eq_byteSize (cs : List Char) : String.utf8Len cs = byteSize cs := by
  induction cs with
  | nil => rfl
  | cons c cs ih => rw [String.utf8Len_cons, ih, byteSize, Nat.add_comm]

theorem utf8ByteSize_ofList (cs : List Char) : (String.ofList cs).utf8ByteSize = byteSize cs :=
  (String.utf8ByteSize_ofList cs).trans (utf8Len_eq_byteSize cs)

theorem isValid_byteSize (front back : List Char) :
    (⟨byteSize front⟩ : String.Pos.Raw).IsValid (String.ofList (front ++ back)) := by
  refine String.Pos.Raw.isValid_iff_exists_append.2
    ⟨String.ofList front, String.ofList back, String.ofList_append, ?_⟩
  rw [← utf8ByteSize_ofList]
  rfl

theorem StandsIn.span (h : StandsIn 0 cs t) :
    t.span.start < t.span.stop ∧
      (⟨t.span.start⟩ : String.Pos.Raw).IsValid (String.ofList cs) ∧
      (⟨t.span.stop⟩ : String.Pos.Raw).IsValid (String.ofList cs) ∧
      String.Pos.Raw.extract (String.ofList cs) ⟨t.span.start⟩ ⟨t.span.stop⟩ = t.text := by
  obtain ⟨front, text, back, rfl, htext, hvalue, hspan⟩ := h
  have hpos := byteSize_pos htext
  rw [hspan, hvalue]
  simp only [Nat.zero_add]
  refine ⟨by rw [byteSize_append]; omega, ?_, isValid_byteSize _ back, ?_⟩
  · rw [List.append_assoc]
    exact isValid_byteSize front _
  · have hextract := String.extract_of_valid front text back
    rwa [utf8Len_eq_byteSize, utf8Len_eq_byteSize, ← byteSize_append] at hextract

/-- The tokens of a text cover it.  The last one is the end of the statement, behind the last byte.
All others stand between characters of the text, are not empty, and come one after the other; and
between them nothing stands but what is no code. -/
theorem tokenize_covers (statement : String) :
    ∃ tokens, tokenize statement =
        tokens ++ [⟨.eof, ⟨statement.utf8ByteSize, statement.utf8ByteSize⟩, ""⟩] ∧
      (∀ t ∈ tokens, t.kind ≠ .eof ∧ t.span.start < t.span.stop ∧
        (⟨t.span.start⟩ : String.Pos.Raw).IsValid statement ∧
        (⟨t.span.stop⟩ : String.Pos.Raw).IsValid statement ∧
        String.Pos.Raw.extract statement ⟨t.span.start⟩ ⟨t.span.stop⟩ = t.text) ∧
      tokens.Pairwise (fun t u => t.span.stop ≤ u.span.start) ∧
      Covers 0 0 statement.toList (tokenize statement) := by
  have hcovers := covers_lexemes 0 0 statement.toList
  obtain ⟨tokens, htokens, hstand, hpairwise⟩ := hcovers.exists_concat
  rw [← tokenize] at htokens hcovers
  have hsize := utf8ByteSize_ofList statement.toList
  rw [String.ofList_toList] at hsize
  rw [hsize]
  refine ⟨tokens, by simpa using htokens, fun t ht => ⟨(hstand t ht).1, ?_⟩, hpairwise, hcovers⟩
  have hspan := (hstand t ht).2.span
  rwa [String.ofList_toList] at hspan

end SchemaTrail.Token
