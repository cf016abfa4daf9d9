import SchemaTrail.Token.Lexer

/-!
# Laws of lexemes

What follows a gap decides what the first token of a text is: the end of the statement, or what is
scanned there (`Token.lexemes_of_codeAfter_cons`).  Most characters end a gap themselves
(`Token.skipGap_of_not_blank`), so that a text without a gap can be one token
(`Token.tokenize_of_scan`).
-/

namespace SchemaTrail.Token

variable {opened : Nat} {cs rest : List Char} {c : Char}

/-- The kinds of the tokens of a text. -/
def kinds (opened : Nat) (cs : List Char) : List Kind :=
  (lexemes opened cs).map Lexeme.kind

theorem eq_false_of_mem_head?_dropWhile {p : Char → Bool} (h : c ∈ (cs.dropWhile p).head?) :
    p c = false := by
  have hhead := List.head?_dropWhile_not p cs
  rw [Option.mem_def.1 h] at hhead
  simpa using hhead

/-- In front of a text that begins with nothing that is taken, characters are taken as if they were
alone. -/
theorem takeWhile_append_of_head? {p : Char → Bool} (cs : List Char)
    (h : ∀ c ∈ rest.head?, p c = false) :
    (cs ++ rest).takeWhile p = cs.takeWhile p ∧
      (cs ++ rest).dropWhile p = cs.dropWhile p ++ rest := by
  induction cs with
  | nil =>
    cases rest with
    | nil => exact ⟨rfl, rfl⟩
    | cons c rest => simp [h c rfl]
  | cons c cs ih =>
    rw [List.cons_append, List.takeWhile_cons, List.takeWhile_cons, List.dropWhile_cons,
      List.dropWhile_cons, ih.1, ih.2]
    split <;> exact ⟨rfl, rfl⟩

theorem before_of_append (front rest : List Char) : before (front ++ rest) rest = front := by
  simp [before]

theorem lexemes_of_codeAfter_nil (h : codeAfter opened cs = []) :
    lexemes opened cs = [⟨cs, [], .eof⟩] := by
  rw [lexemes.eq_def]
  split
  · rfl
  · next hcode =>
    rw [h] at hcode
    cases hcode

theorem lexemes_of_codeAfter_cons (h : codeAfter opened cs = c :: rest) :
    lexemes opened cs =
      ⟨before cs (c :: rest), before (c :: rest) (scan c rest).2, (scan c rest).1⟩ ::
        lexemes (skipGap opened cs).1 (scan c rest).2 := by
  rw [lexemes.eq_def]
  split
  · next hcode =>
    rw [h] at hcode
    cases hcode
  · next hcode =>
    rw [h] at hcode
    cases hcode
    rfl

theorem kinds_of_codeAfter_nil (h : codeAfter opened cs = []) : kinds opened cs = [.eof] := by
  rw [kinds, lexemes_of_codeAfter_nil h]
  rfl

theorem kinds_of_codeAfter_cons (h : codeAfter opened cs = c :: rest) :
    kinds opened cs = (scan c rest).1 :: kinds (skipGap opened cs).1 (scan c rest).2 := by
  rw [kinds, lexemes_of_codeAfter_cons h]
  rfl

/-- Where tokens are placed does not matter for their kinds. -/
theorem map_kind_place (offset : Nat) (ls : List Lexeme) :
    (place offset ls).map Token.kind = ls.map Lexeme.kind := by
  induction ls generalizing offset with
  | nil => rfl
  | cons l ls ih => rw [place, List.map_cons, List.map_cons, ih]

theorem map_kind_tokenize (statement : String) :
    (tokenize statement).map Token.kind = kinds 0 statement.toList :=
  map_kind_place 0 _

/-! ## Characters that begin a token -/

/-- A character that begins neither a blank nor a comment ends the gap before it. -/
theorem skipGap_of_not_blank (hblank : Text.isBlank c = false) (hc : c ∉ "-#*/".toList) :
    skipGap opened (c :: rest) = (opened, c :: rest) := by
  rw [skipGap.eq_def]
  split <;> simp_all

theorem dropNational_of_ne (hc : c ∉ "nN".toList) : dropNational (c :: rest) = c :: rest := by
  unfold dropNational
  split <;> simp_all

theorem codeAfter_of_not_blank (hblank : Text.isBlank c = false) (hc : c ∉ "-#*/nN".toList) :
    codeAfter opened (c :: rest) = c :: rest := by
  rw [codeAfter, skipGap_of_not_blank hblank (by simp_all), dropNational_of_ne (by simp_all)]

/-- A character that begins neither a blank nor a comment, and no text of the national character
set, begins a token. -/
theorem kinds_cons (hblank : Text.isBlank c = false) (hc : c ∉ "-#*/nN".toList) :
    kinds opened (c :: rest) = (scan c rest).1 :: kinds opened (scan c rest).2 := by
  rw [kinds_of_codeAfter_cons (codeAfter_of_not_blank hblank hc),
    skipGap_of_not_blank hblank (by simp_all)]

theorem codeAfter_nil : codeAfter opened [] = [] := by
  simp [codeAfter, skipGap, dropNational]

theorem kinds_nil : kinds opened [] = [.eof] :=
  kinds_of_codeAfter_nil codeAfter_nil

/-! ### Spaces -/

theorem skipGap_space (opened : Nat) (rest : List Char) :
    skipGap opened (' ' :: rest) = skipGap opened rest := by
  rw [skipGap.eq_def]
  rfl

theorem codeAfter_space (opened : Nat) (rest : List Char) :
    codeAfter opened (' ' :: rest) = codeAfter opened rest := by
  rw [codeAfter, skipGap_space, codeAfter]

/-- Gaps that leave the same open and the same code are followed by the same tokens. -/
theorem kinds_eq_of_skipGap {opened' : Nat} {cs' : List Char}
    (h : skipGap opened cs = skipGap opened' cs') : kinds opened cs = kinds opened' cs' := by
  have hcode : codeAfter opened cs = codeAfter opened' cs' := by rw [codeAfter, h, codeAfter]
  cases hcs : codeAfter opened' cs' with
  | nil => rw [kinds_of_codeAfter_nil hcs, kinds_of_codeAfter_nil (hcode.trans hcs)]
  | cons c rest =>
    rw [kinds_of_codeAfter_cons hcs, kinds_of_codeAfter_cons (hcode.trans hcs), h]

theorem kinds_space (opened : Nat) (rest : List Char) :
    kinds opened (' ' :: rest) = kinds opened rest :=
  kinds_eq_of_skipGap (skipGap_space opened rest)

/-- A text that begins with code and is scanned as one token has this token from its first byte to
its last. -/
theorem tokenize_of_codeAfter {k : Kind} (hcode : codeAfter 0 (c :: rest) = c :: rest)
    (hscan : scan c rest = (k, [])) :
    tokenize (String.ofList (c :: rest)) =
      [⟨k, ⟨0, byteSize (c :: rest)⟩, String.ofList (c :: rest)⟩,
        ⟨.eof, ⟨byteSize (c :: rest), byteSize (c :: rest)⟩, ""⟩] := by
  have hlexemes : lexemes 0 (c :: rest) = [⟨[], c :: rest, k⟩, ⟨[], [], .eof⟩] := by
    rw [lexemes_of_codeAfter_cons hcode, hscan, lexemes_of_codeAfter_nil codeAfter_nil]
    simp [before]
  rw [tokenize, String.toList_ofList, hlexemes]
  simp [place, byteSize]

theorem tokenize_of_scan {k : Kind} (hblank : Text.isBlank c = false)
    (hc : c ∉ "-#*/nN".toList) (hscan : scan c rest = (k, [])) :
    tokenize (String.ofList (c :: rest)) =
      [⟨k, ⟨0, byteSize (c :: rest)⟩, String.ofList (c :: rest)⟩,
        ⟨.eof, ⟨byteSize (c :: rest), byteSize (c :: rest)⟩, ""⟩] :=
  tokenize_of_codeAfter (codeAfter_of_not_blank hblank hc) hscan

end SchemaTrail.Token
