import SchemaTrail.Proofs.CapturedTypes

/-!
# Texts between quotes

What may stand between the quotes of a text, and what it stands for, is a grammar of its own
(`Token.StringBody`).  The token at a quote is a text if the quote is closed, or if the statement
ends in a backslash that has nothing to escape, and otherwise it is at fault (`Token.TextToken`);
its text is what is read, up to the closing quote (`Token.head_lexemes_iff_textToken`).
-/

namespace SchemaTrail.Token

/-- The letters that stand for a control character after a backslash. -/
def controlLetters : List (Char × Char) :=
  [('0', '\x00'), ('b', '\x08'), ('n', '\n'), ('r', '\r'), ('t', '\t'), ('Z', '\x1a')]

/-- What a character after a backslash stands for. -/
inductive Escape : Char → List Char → Prop
  | control {letter c : Char} (h : (letter, c) ∈ controlLetters) : Escape letter [c]
  /-- A wildcard keeps the backslash. -/
  | wildcard {c : Char} (h : c ∈ "%_".toList) : Escape c ['\\', c]
  | itself {c : Char} (h : c ∉ "0bnrtZ%_".toList) : Escape c [c]

/-- What stands between two quotes, and its value. -/
inductive StringBody (quote : Char) : List Char → List Char → Prop
  | nil : StringBody quote [] []
  | doubled {body value : List Char} (h : StringBody quote body value) :
    StringBody quote (quote :: quote :: body) (quote :: value)
  | escape {c : Char} {cs body value : List Char} (hc : Escape c cs)
    (h : StringBody quote body value) : StringBody quote ('\\' :: c :: body) (cs ++ value)
  | plain {c : Char} {body value : List Char} (hquote : c ≠ quote) (hescape : c ≠ '\\')
    (h : StringBody quote body value) : StringBody quote (c :: body) (c :: value)

/-- The token of a text between quotes. -/
def textKind (quote : Char) (value : List Char) : Kind :=
  if quote = '\'' then .string (String.ofList value) else .doubleQuoted (String.ofList value)

/-- What follows a quote, and the text and kind of the token at the quote. -/
inductive TextToken (quote : Char) : List Char → List Char → Kind → Prop
  | closed {body value rest : List Char} (h : StringBody quote body value)
    (hrest : rest.head? ≠ some quote) :
    TextToken quote (body ++ quote :: rest) (quote :: body ++ [quote]) (textKind quote value)
  /-- A backslash at the very end of the statement counts as the closing quote. -/
  | backslash {body value : List Char} (h : StringBody quote body value) :
    TextToken quote (body ++ ['\\']) (quote :: body ++ ['\\']) (textKind quote value)
  /-- All that follows the quote belongs between quotes. -/
  | unterminated {body value : List Char} (h : StringBody quote body value) :
    TextToken quote body (quote :: body) (.error .unterminatedString)

variable {quote c : Char} {opened : Nat} {cs body value rest token : List Char} {kind : Kind}

/-! ## Escapes -/

theorem escape_unescape (c : Char) : Escape c (unescape c) := by
  unfold unescape
  split
  case h_7 | h_8 => exact .wildcard (by decide)
  case h_9 => exact .itself (by simp_all)
  all_goals exact .control (by decide)

theorem Escape.eq_unescape (h : Escape c cs) : cs = unescape c := by
  cases h with
  | control h =>
    simp only [controlLetters, List.mem_cons, Prod.mk.injEq, List.not_mem_nil, or_false] at h
    rcases h with ⟨rfl, rfl⟩ | ⟨rfl, rfl⟩ | ⟨rfl, rfl⟩ | ⟨rfl, rfl⟩ | ⟨rfl, rfl⟩ | ⟨rfl, rfl⟩
    all_goals rfl
  | wildcard h =>
    have hcases : c = '%' ∨ c = '_' := by simpa using h
    rcases hcases with rfl | rfl <;> rfl
  | itself h =>
    unfold unescape
    split <;> simp_all

/-! ## What is read after a quote -/

/-- What belongs between quotes is read as its value, whatever follows. -/
theorem StringBody.read (hquote : quote ≠ '\\') (h : StringBody quote body value)
    (rest : List Char) : stringBody? quote (body ++ rest) =
      (stringBody? quote rest).map fun r => (value ++ r.1, r.2) := by
  induction h with
  | nil => simp
  | doubled _ ih => simp [stringBody?, ih, Function.comp_def]
  | escape hc _ ih =>
    simp [stringBody?, hquote.symm, ih, Function.comp_def, hc.eq_unescape]
  | plain hne hescape _ ih =>
    rw [List.cons_append, stringBody?_plain hne hescape, ih]
    simp [Function.comp_def]

theorem stringBody?_quote (hrest : rest.head? ≠ some quote) :
    stringBody? quote (quote :: rest) = some ([], rest) := by
  cases rest with
  | nil => simp [stringBody?]
  | cons d rest =>
    have hd : d ≠ quote := fun heq => hrest (by rw [heq, List.head?_cons])
    simp [stringBody?, hd]

/-- What follows a quote belongs between quotes, up to the closing quote or to the end. -/
theorem exists_textToken (quote : Char) (cs : List Char) :
    ∃ token kind, TextToken quote cs token kind := by
  suffices hends : ∃ body value, StringBody quote body value ∧
      ((∃ rest, cs = body ++ quote :: rest ∧ rest.head? ≠ some quote) ∨ cs = body ++ ['\\'] ∨
        cs = body) by
    obtain ⟨body, value, hbody, ⟨rest, rfl, hrest⟩ | rfl | rfl⟩ := hends
    · exact ⟨_, _, .closed hbody hrest⟩
    · exact ⟨_, _, .backslash hbody⟩
    · exact ⟨_, _, .unterminated hbody⟩
  fun_induction stringBody? quote cs with
  | case1 => exact ⟨[], [], .nil, .inr (.inr rfl)⟩
  | case2 => exact ⟨[], [], .nil, .inl ⟨[], rfl, by simp⟩⟩
  | case3 cs ih =>
    obtain ⟨body, value, hbody, hcs⟩ := ih
    refine ⟨_, _, .doubled hbody, ?_⟩
    simpa using hcs
  | case4 d cs hd => exact ⟨[], [], .nil, .inl ⟨_, rfl, by simpa using hd⟩⟩
  | case5 => exact ⟨[], [], .nil, .inr (.inl rfl)⟩
  | case6 d cs _ ih =>
    obtain ⟨body, value, hbody, hcs⟩ := ih
    refine ⟨_, _, .escape (escape_unescape d) hbody, ?_⟩
    simpa using hcs
  | case7 c cs hquote hescape ih =>
    obtain ⟨body, value, hbody, hcs⟩ := ih
    refine ⟨_, _, .plain hquote hescape hbody, ?_⟩
    simpa using hcs

/-! ## The token at a quote -/

section

variable (hquote : quote = '\'' ∨ quote = '"')

include hquote

theorem scan_quote (cs : List Char) : scan quote cs = scanString quote cs := by
  unfold scan
  rw [if_pos hquote]

theorem textKind_eq (value : List Char) : textKind quote value =
    if quote = '"' then .doubleQuoted (String.ofList value) else .string (String.ofList value) := by
  rcases hquote with rfl | rfl <;> rfl

/-- What is scanned at a quote is its token, up to where the token ends. -/
theorem TextToken.scan (h : TextToken quote cs token kind) :
    ∃ rest, quote :: cs = token ++ rest ∧ Token.scan quote cs = (kind, rest) := by
  have hne : quote ≠ '\\' := by rcases hquote with rfl | rfl <;> decide
  rw [scan_quote hquote, scanString]
  cases h with
  | @closed body value rest hbody hrest =>
    refine ⟨rest, by simp, ?_⟩
    rw [hbody.read hne, stringBody?_quote hrest, textKind_eq hquote]
    simp
  | @backslash body value hbody =>
    refine ⟨[], by simp, ?_⟩
    have hend : stringBody? quote ['\\'] = some ([], []) := by simp [stringBody?, hne.symm]
    rw [hbody.read hne, hend, textKind_eq hquote]
    simp
  | @unterminated _ value hbody =>
    refine ⟨[], by simp, ?_⟩
    have hread := hbody.read hne []
    rw [List.append_nil] at hread
    rw [hread, stringBody?]
    rfl

/-- The first token of a text whose code begins with a quote is that of what follows the quote. -/
theorem head_lexemes_iff_textToken (hcode : codeAfter opened cs = quote :: rest) :
    (lexemes opened cs).head? = some ⟨before cs (quote :: rest), token, kind⟩ ↔
      TextToken quote rest token kind := by
  have hhead {token : List Char} {kind : Kind} (h : TextToken quote rest token kind) :
      (lexemes opened cs).head? = some ⟨before cs (quote :: rest), token, kind⟩ := by
    obtain ⟨after, htoken, hscan⟩ := h.scan hquote
    rw [lexemes_of_codeAfter_cons hcode, List.head?_cons, hscan, htoken, before_of_append]
  refine ⟨fun h => ?_, hhead⟩
  obtain ⟨read, readKind, hread⟩ := exists_textToken quote rest
  rw [hhead hread] at h
  cases h
  exact hread

end

/-- A doubled quote and escapes within a text that closes. -/
theorem head_lexemes_closed :
    codeAfter 0 "'a''\\Z\\%\\q' b".toList = '\'' :: "a''\\Z\\%\\q' b".toList ∧
      (lexemes 0 "'a''\\Z\\%\\q' b".toList).head? =
        some ⟨[], "'a''\\Z\\%\\q'".toList, .string "a'\x1a\\%q"⟩ := by
  have hcode : codeAfter 0 "'a''\\Z\\%\\q' b".toList = '\'' :: "a''\\Z\\%\\q' b".toList :=
    codeAfter_of_not_blank (by decide) (by decide)
  have hbody : StringBody '\'' "a''\\Z\\%\\q".toList "a'\x1a\\%q".toList :=
    .plain (by decide) (by decide) (.doubled (.escape (.control (by decide))
      (.escape (.wildcard (by decide)) (.escape (.itself (by decide)) .nil))))
  exact ⟨hcode, (head_lexemes_iff_textToken (.inl rfl) hcode).2 (.closed hbody (by decide))⟩

/-- A backslash at the end makes a text of what no quote closes. -/
theorem scan_backslash : scan '\'' "a\\".toList = (.string "a", []) ∧
    ¬∃ body rest, "a\\".toList = body ++ '\'' :: rest := by
  refine ⟨by decide, fun ⟨body, rest, heq⟩ => ?_⟩
  have hmem : '\'' ∈ "a\\".toList := heq ▸ List.mem_append_right body List.mem_cons_self
  exact absurd hmem (by decide)

end SchemaTrail.Token
