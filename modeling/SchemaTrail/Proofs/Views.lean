import Mathlib.Data.Bool.AllAny
import SchemaTrail.Proofs.BeginningForms
import SchemaTrail.Proofs.RelevantStatements

/-!
# Views of a statement

The forms of statements that are not tracked are looked for in a text that is another view of the
statement, without its comments.  If the view shows the characters of the code as they are, and
agrees with the lexer on what comes next after a gap (`Statement.View`), then a statement that is
relevant shows none of the forms (`Statement.View.untracked_eq_none`).
-/

namespace SchemaTrail.Statement

open Token (code codeAfter isWordChar scan skipGap)
open Beginning

/-- A text that begins, behind any blanks, like a comment or with a part of one, if at all. -/
def Blocked (t : List Char) : Prop :=
  ∀ c ∈ (t.dropWhile Text.isBlank).head?, c ∈ "#*/-".toList

/-- A code that begins with a character that begins neither a keyword nor a fault. -/
def Inert (cs : List Char) : Prop :=
  ∃ c ∈ cs.head?, c = '*' ∨ 0x80 ≤ c.toNat

/-- A relation of a text, at whose start some executable comments are open, to what is seen of it.
`Clear` says of a text that its gaps are seen as the lexer sees them. -/
structure View (Shows : Nat → List Char → List Char → Prop) (Clear : Nat → List Char → Prop) :
    Prop where
  step : ∀ {opened : Nat} {c : Char} {cs t : List Char}, Shows opened (c :: cs) t →
    c ∉ "-*/".toList → ∃ t', t = c :: t' ∧ Shows opened cs t'
  gap : ∀ {opened : Nat} {cs t : List Char}, Shows opened cs t → Clear opened cs →
    Blocked t ∨ Inert (skipGap opened cs).2 ∨
      ∃ t', Shows (skipGap opened cs).1 (skipGap opened cs).2 t' ∧
        t'.dropWhile Text.isBlank = t.dropWhile Text.isBlank
  next : ∀ {opened : Nat} {c : Char} {cs rest : List Char} {k : Keyword}, Clear opened cs →
    codeAfter opened cs = c :: rest → (scan c rest).1 = .keyword k → k ∈ leadingWords →
      Clear (skipGap opened cs).1 (scan c rest).2

/-! ## Characters -/

variable {c : Char}

theorem isAlpha_of_toUpper (h : c.toUpper.isUpper = true) : c.isAlpha = true := by
  change (c.isUpper || c.isLower) = true
  rw [Bool.or_eq_true]
  unfold Char.toUpper at h
  split at h
  next hlower =>
    change _ ∨ (decide ('a'.val ≤ c.val) && decide (c.val ≤ 'z'.val)) = true
    exact .inr (by simpa using hlower)
  next => exact .inl h

theorem isAlpha_cases (h : c.isAlpha = true) :
    isWordChar c = true ∧ c.isDigit = false ∧ c.toNat < 0x80 := by
  have hrange : (decide (65 ≤ c.val ∧ c.val ≤ 90) ||
      (decide (97 ≤ c.val) && decide (c.val ≤ 122))) = true := h
  simp only [Bool.or_eq_true, Bool.and_eq_true, decide_eq_true_eq,
    UInt32.le_iff_toNat_le] at hrange
  change (65 ≤ c.toNat ∧ c.toNat ≤ 90) ∨ (97 ≤ c.toNat ∧ c.toNat ≤ 122) at hrange
  refine ⟨by simp [isWordChar, Char.isAlphanum, h], Bool.eq_false_iff.2 fun hdigit => ?_, by omega⟩
  have hdigit : 48 ≤ c.toNat ∧ c.toNat ≤ 57 := Char.isDigit_iff_toNat.1 hdigit
  omega

/-- What is a letter of a word in capitals is a word character, and no digit. -/
theorem isWordChar_of_isLetter {l : Char} (hl : l.isUpper = true) (h : isLetter l c = true) :
    isWordChar c = true ∧ c.isDigit = false := by
  have hcases : (c.toUpper = l ∨ l = 'S' ∧ c = 'ſ') ∨ l = 'K' ∧ c = '\u212A' := by
    simpa [isLetter] using h
  rcases hcases with (rfl | ⟨-, rfl⟩) | ⟨-, rfl⟩
  · obtain ⟨hword, hdigit, -⟩ := isAlpha_cases (isAlpha_of_toUpper hl)
    exact ⟨hword, hdigit⟩
  · decide
  · decide

theorem blocked_of_head? {t : List Char} (h : t.head? = some c) (hc : c ∈ "#*/-".toList) :
    Blocked t := by
  obtain ⟨t, rfl⟩ := List.head?_eq_some_iff.1 h
  have hblank : ∀ c ∈ "#*/-".toList, Text.isBlank c = false :=
    List.all_iff_forall_prop.1 (by decide)
  intro d hd
  rw [List.dropWhile_cons_of_neg (by simp [hblank c hc])] at hd
  cases hd
  exact hc

theorem inert_of_head? {rest : List Char} (h : rest.head? = some '*') :
    Inert (skipGap 0 rest).2 := by
  obtain ⟨rest, rfl⟩ := List.head?_eq_some_iff.1 h
  have hgap : skipGap 0 ('*' :: rest) = (0, '*' :: rest) := by
    have hblank : ¬Text.isBlank '*' = true := by decide
    rw [skipGap.eq_def]
    split <;> simp_all
  rw [hgap]
  exact ⟨'*', rfl, .inl rfl⟩

theorem refused_of_blocked {t : List Char} (h : Blocked t) :
    Refused (t.dropWhile Text.isBlank) :=
  refused_of_letters fun w hw => letters_eq_none_of_head h w (List.mem_append_right _ hw)

theorem untracked_eq_none_of_blocked {t : List Char} (h : Blocked t) :
    ∀ form ∈ untracked, form (t.dropWhile Text.isBlank) = none :=
  untracked_eq_none_of_first fun w hw => letters_eq_none_of_head h w (List.mem_append_left _ hw)

namespace View

variable {Shows : Nat → List Char → List Char → Prop} {Clear : Nat → List Char → Prop}
  (view : View Shows Clear) {opened : Nat} {cs t : List Char} {k : Keyword}
  {ks : List Token.Kind}
include view

/-- The characters of a word are shown as they are. -/
theorem steps {word after : List Char} (hshows : Shows opened (word ++ after) t)
    (hword : ∀ d ∈ word, isWordChar d = true) : ∃ t', t = word ++ t' ∧ Shows opened after t' := by
  induction word generalizing t with
  | nil => exact ⟨t, rfl, hshows⟩
  | cons c word ih =>
    rw [List.forall_mem_cons] at hword
    have hc : c ∉ "-*/".toList := fun hmem => by
      have hplain : ∀ c ∈ "-*/".toList, isWordChar c = false :=
        List.all_iff_forall_prop.1 (by decide)
      rw [hplain c hmem] at hword
      cases hword.1
    obtain ⟨t₁, rfl, hrest⟩ := view.step hshows hc
    obtain ⟨t₂, rfl, hafter⟩ := ih hrest hword.2
    exact ⟨t₂, rfl, hafter⟩

/-- A keyword of the code is what the view shows first. -/
theorem keyword (hshows : Shows opened cs t) (hclear : Clear opened cs)
    (hcode : code opened cs = .keyword k :: ks) (hk : k ∈ openingWords) :
    Blocked t ∨ ∃ (opened' : Nat) (word after t' : List Char),
      t.dropWhile Text.isBlank = word ++ t' ∧ word.map Char.toUpper = k.spelling.toList ∧
      Shows opened' after t' ∧ code opened' after = ks ∧
      (k ∈ leadingWords → Clear opened' after) := by
  obtain ⟨c, rest, word, hafter, hscan, hks, hsplit, hword, hspelling⟩ :=
    Token.code_eq_keyword_cons hcode
  obtain ⟨hcapitals, -⟩ := apart_of_mem k hk
  have hpos : ∀ k ∈ openingWords, 0 < k.spelling.toList.length := by decide
  have hne := hpos k hk
  rw [← hspelling, List.length_map] at hne
  obtain ⟨d, word, rfl⟩ := List.exists_cons_of_length_pos hne
  have hcapital : d.toUpper ∈ k.spelling.toList :=
    hspelling ▸ List.mem_map_of_mem List.mem_cons_self
  have hd : d.isAlpha = true := isAlpha_of_toUpper (List.all_eq_true.1 hcapitals _ hcapital)
  obtain ⟨hwordChar, -, hascii⟩ := isAlpha_cases hd
  rcases view.gap hshows hclear with hblocked | hinert | ⟨t₁, ht₁, hdrop⟩
  · exact .inl hblocked
  · rw [hsplit] at hinert
    obtain ⟨_, ⟨⟩, hstar | hhigh⟩ := hinert
    · rw [hstar] at hwordChar
      cases hwordChar
    · omega
  · rw [hsplit] at ht₁
    obtain ⟨t₂, rfl, ht₂⟩ := view.steps ht₁ hword
    have hblank : Text.isBlank d = false := Token.isBlank_of_skipGap hsplit
    refine .inr ⟨_, d :: word, _, t₂, ?_, hspelling, ht₂, hks, view.next hclear hafter hscan⟩
    rw [← hdrop, List.cons_append, List.dropWhile_cons_of_neg (by simp [hblank])]

/-- What follows `ALTER` or the like is refused if a table or a database is named. -/
theorem refused (hshows : Shows opened cs t) (hclear : Clear opened cs)
    (h : beginsObject ((code opened cs).dropWhile isAlterOption) = true) :
    Refused (t.dropWhile Text.isBlank) := by
  generalize hks : code opened cs = ks at h
  -- The view goes on behind each option, with the state in which the option leaves the lexer.
  induction ks generalizing opened cs t with
  | nil => cases h
  | cons kind ks ih =>
    by_cases hoption : isAlterOption kind = true
    · obtain ⟨k, rfl, hk, hleading⟩ : ∃ k, kind = .keyword k ∧
          k ∈ [Keyword.online, .offline, .ignore] ∧ k ∈ leadingWords := by
        have hcases : (kind = .keyword .online ∨ kind = .keyword .offline) ∨
            kind = .keyword .ignore := by simpa [isAlterOption] using hoption
        rcases hcases with (rfl | rfl) | rfl <;> exact ⟨_, rfl, by decide, by decide⟩
      rw [List.dropWhile_cons_of_pos hoption] at h
      rcases view.keyword hshows hclear hks (List.mem_append_left _ hleading) with
        hblocked | ⟨_, word, after, t', hdrop, hspelling, ht', hafter, hclear'⟩
      · exact refused_of_blocked hblocked
      · rw [hdrop]
        exact Refused.option hspelling hk (ih ht' (hclear' hleading) hafter h)
    · rw [List.dropWhile_cons_of_neg hoption] at h
      obtain ⟨k, rfl, hk⟩ : ∃ k, kind = .keyword k ∧ k ∈ [Keyword.table, .database, .schema] := by
        unfold beginsObject at h
        split at h
        case h_4 => cases h
        all_goals
          next heq => exact ⟨_, (List.cons.inj heq).1, by decide⟩
      rcases view.keyword hshows hclear hks (List.mem_append_right _ hk) with
        hblocked | ⟨_, word, after, t', hdrop, hspelling, -⟩
      · exact refused_of_blocked hblocked
      · rw [hdrop]
        exact refused_object hspelling hk t'

/-- A statement that begins with a fault shows none of the forms: its first two characters are no
letters. -/
theorem untracked_eq_none_of_error {fault : Token.Fault} (hshows : Shows opened cs t)
    (hclear : Clear opened cs) (hcode : code opened cs = .error fault :: ks) :
    ∀ form ∈ untracked, form (t.dropWhile Text.isBlank) = none := by
  obtain ⟨c, rest, hgap, hc, hfault⟩ := Token.code_eq_error_cons hcode
  rcases view.gap hshows hclear with hblocked | hinert | ⟨t₁, ht₁, hdrop⟩
  · exact untracked_eq_none_of_blocked hblocked
  · rw [hgap] at hinert
    obtain ⟨_, ⟨⟩, hstar | hhigh⟩ := hinert
    · rw [hstar] at hc
      exact absurd (by decide) hc
    · have hascii : ∀ c ∈ "bBnNxX".toList, c.toNat < 0x80 :=
        List.all_iff_forall_prop.1 (by decide)
      rcases hfault (by simp [isWordChar, hhigh]) with hdigit | ⟨hletter, -⟩
      · have hdigit : 48 ≤ c.toNat ∧ c.toNat ≤ 57 := Char.isDigit_iff_toNat.1 hdigit
        omega
      · have hlow := hascii c hletter
        omega
  · rw [hgap] at ht₁
    obtain ⟨t₂, rfl, ht₂⟩ := view.step ht₁ hc
    have hblank : Text.isBlank c = false := Token.isBlank_of_skipGap hgap
    rw [← hdrop, List.dropWhile_cons_of_neg (by simp [hblank])]
    have hwords : ∀ w ∈ firstWords, 2 ≤ w.toList.length ∧
        (w.toList.all fun l => l.isUpper && !isLetter l '\'') = true := by decide
    refine untracked_eq_none_of_first fun w hw => ?_
    obtain ⟨hlength, hletters⟩ := hwords w hw
    generalize w.toList = ls at hlength hletters
    rcases ls with _ | ⟨l, _ | ⟨m, ls⟩⟩
    · cases hlength
    · simp at hlength
    · simp only [List.all_cons, Bool.and_eq_true, Bool.not_eq_true'] at hletters
      obtain ⟨⟨hl, -⟩, ⟨-, hm⟩, -⟩ := hletters
      rw [letters]
      split
      next hletter =>
        obtain ⟨hword, hdigit⟩ := isWordChar_of_isLetter hl hletter
        obtain ⟨-, hquote⟩ := (hfault hword).resolve_left (by simp [hdigit])
        obtain ⟨rest, rfl⟩ := List.head?_eq_some_iff.1 hquote
        obtain ⟨t₃, rfl, -⟩ := view.step ht₂ (by decide)
        rw [letters, if_neg (by simp [hm])]
      next => rfl

/-- A relevant statement shows none of the forms of statements that are not tracked. -/
theorem untracked_eq_none (hshows : Shows opened cs t) (hclear : Clear opened cs)
    (h : isRelevant (code opened cs) = true) :
    ∀ form ∈ untracked, form (t.dropWhile Text.isBlank) = none := by
  have hkeyword {k : Keyword} {ks : List Token.Kind}
      (hk : k ∈ [Keyword.create, .alter, .drop, .rename])
      (hcode : code opened cs = .keyword k :: ks)
      (hobject : beginsObject (ks.dropWhile isAlterOption) = true) :
      ∀ form ∈ untracked, form (t.dropWhile Text.isBlank) = none := by
    have hleading : ∀ k ∈ [Keyword.create, .alter, .drop, .rename], k ∈ leadingWords := by decide
    rcases view.keyword hshows hclear hcode (List.mem_append_left _ (hleading k hk)) with
      hblocked | ⟨_, word, after, t', hdrop, hspelling, ht', hafter, hclear'⟩
    · exact untracked_eq_none_of_blocked hblocked
    · rw [hdrop]
      have hrefused := view.refused ht' (hclear' (hleading k hk)) (hafter ▸ hobject)
      exact Refused.untracked_eq_none hspelling hk hrefused
  have hobject {ks : List Token.Kind} (h : beginsObject ks = true) :
      beginsObject (ks.dropWhile isAlterOption) = true := by
    unfold beginsObject at h
    split at h
    case h_4 => cases h
    all_goals rfl
  unfold isRelevant at h
  split at h
  next hcode => exact hkeyword (by decide) hcode (hobject h)
  next hcode => exact hkeyword (by decide) hcode (hobject h)
  next hcode => exact hkeyword (by decide) hcode h
  next hcode =>
    obtain ⟨ks, rfl⟩ := List.head?_eq_some_iff.1 (of_decide_eq_true h)
    exact hkeyword (by decide) hcode rfl
  next hcode => exact view.untracked_eq_none_of_error hshows hclear hcode
  next => cases h

end View

end SchemaTrail.Statement
