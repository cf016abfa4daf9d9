import SchemaTrail.Proofs.Comments
import SchemaTrail.Proofs.Views
import SchemaTrail.Text.Occurrence

/-!
# Gaps whose comments are separate

The lexer skips a comment where a token may begin.  `uncomment` removes first what opens and closes
executable comments, then the other comments, and does not look at what they stand in.  The two
agree on a gap if no comment opens inside another (`Statement.gapSeparate`): behind it, the text
without comments shows the code that the lexer goes on with (`Statement.Uncommented.gap`).
-/

namespace SchemaTrail.Statement

open Token (skipBlock skipGap skipLine skipVersion?)

variable {c : Char} {opened : Nat} {cs rest t : List Char}

/-- The rest of a line. -/
def lineOf (cs : List Char) : List Char :=
  cs.takeWhile (· ≠ '\n')

/-- Whether the comments of a gap are separate, where `opened` executable comments are open: none
opens in a comment to the end of a line or where an executable one is open, and no executable
comment opens in any other. -/
def gapSeparate (opened : Nat) (cs : List Char) : Bool :=
  match cs with
  | '-' :: '-' :: rest =>
    have := (Token.skipLine_suffix rest).length_le
    !Text.occursIn ['/', '*'] (lineOf rest) && gapSeparate opened (skipLine rest)
  | '*' :: '/' :: rest => if 0 < opened then gapSeparate (opened - 1) rest else true
  | '/' :: '*' :: rest =>
    opened = 0 &&
      match h : skipVersion? rest with
      | some code =>
        have := (Token.skipVersion?_suffix h).length_le
        gapSeparate (opened + 1) code
      | none =>
        have := (Token.skipBlock_suffix rest).length_le
        !holdsExecutable rest && gapSeparate opened (skipBlock rest)
  | c :: rest => if Text.isBlank c then gapSeparate opened rest else true
  | [] => true
termination_by cs.length
decreasing_by all_goals (simp_wf <;> omega)

theorem not_mem_of_isBlank (h : Text.isBlank c = true) : c ∉ "-*/".toList := fun hmem => by
  have hnone : ∀ d ∈ "-*/".toList, Text.isBlank d = false := List.all_iff_forall_prop.1 (by decide)
  cases h.symm.trans (hnone c hmem)

theorem gapSeparate_executable {code : List Char} (h : skipVersion? rest = some code) :
    gapSeparate opened ('/' :: '*' :: rest) = (opened = 0 && gapSeparate (opened + 1) code) := by
  rw [gapSeparate]
  split
  next heq =>
    cases h.symm.trans heq
    rfl
  next heq => cases h.symm.trans heq

theorem gapSeparate_block (h : skipVersion? rest = none) :
    gapSeparate opened ('/' :: '*' :: rest) =
      (opened = 0 && (!holdsExecutable rest && gapSeparate opened (skipBlock rest))) := by
  rw [gapSeparate]
  split
  next heq => cases h.symm.trans heq
  next => rfl

theorem gapSeparate_blank (h : Text.isBlank c = true) :
    gapSeparate opened (c :: rest) = gapSeparate opened rest := by
  rw [gapSeparate, if_pos h]
  all_goals
    rintro _ rfl
    exact absurd (by decide) (not_mem_of_isBlank h)

theorem gapSeparate_of_not_blank (hblank : Text.isBlank c = false) (hc : c ∉ "-*/".toList) :
    gapSeparate opened (c :: rest) = true := by
  rw [gapSeparate.eq_def]
  split <;> simp_all

theorem gapSeparate_of_no_opener (h : ¬['/', '*'] <:+: cs) :
    gapSeparate 0 cs = true ∧ (skipGap 0 cs).1 = 0 := by
  generalize hopened : 0 = opened
  fun_induction skipGap opened cs with
  | case1 opened rest _ ih =>
    subst hopened
    have hsuffix : skipLine rest <:+: '-' :: '-' :: rest :=
      (Token.skipLine_suffix rest).isInfix.trans ⟨['-', '-'], [], by simp⟩
    have hline : lineOf rest <:+: '-' :: '-' :: rest :=
      (List.takeWhile_prefix _).isInfix.trans ⟨['-', '-'], [], by simp⟩
    have hopener : Text.occursIn ['/', '*'] (lineOf rest) = false :=
      Text.occursIn_eq_false_iff.2 fun hinner => h (hinner.trans hline)
    have hrest := ih (fun hinner => h (hinner.trans hsuffix)) rfl
    rw [gapSeparate, hopener, hrest.1]
    exact ⟨rfl, hrest.2⟩
  | case2 opened rest _ ih =>
    subst hopened
    have hsuffix : skipLine rest <:+: '#' :: rest :=
      (Token.skipLine_suffix rest).isInfix.trans (List.suffix_cons '#' rest).isInfix
    refine ⟨?_, (ih (fun hinner => h (hinner.trans hsuffix)) rfl).2⟩
    rw [gapSeparate, if_neg (by decide)]
    all_goals simp
  | case3 opened rest hpos => omega
  | case4 opened rest hzero => exact ⟨by rw [gapSeparate, if_neg hzero], rfl⟩
  | case5 opened rest => exact absurd ⟨[], rest, rfl⟩ h
  | case6 opened rest => exact absurd ⟨[], rest, rfl⟩ h
  | case7 opened c rest _ _ _ _ hblank ih =>
    rw [gapSeparate_blank hblank]
    exact ih (fun hinner => h (hinner.trans (List.suffix_cons c rest).isInfix)) hopened
  | case8 opened c rest _ _ _ _ hblank =>
    refine ⟨?_, rfl⟩
    rw [gapSeparate, if_neg hblank] <;> assumption
  | case9 => exact ⟨by rw [gapSeparate], rfl⟩

/-- What is seen of a text without its comments.  Where an executable comment is open, the text may
stand in what it holds. -/
inductive Uncommented : Nat → List Char → List Char → Prop
  | outside (opened : Nat) (cs : List Char) :
    Uncommented opened cs (clean (unwrapExecutable cs))
  | inside {cs body rest : List Char} (h : splitBlock? cs = some (body, rest)) :
    Uncommented 1 cs (clean (body ++ unwrapExecutable rest))

namespace Uncommented

theorem step (h : Uncommented opened (c :: cs) t) (hc : c ∉ "-*/".toList) :
    ∃ t', t = c :: t' ∧ Uncommented opened cs t' := by
  have hne : c ≠ '-' ∧ c ≠ '*' ∧ c ≠ '/' := by simpa using hc
  cases h with
  | outside =>
    have hopens : opensExecutable (c :: cs) = false := by
      rw [opensExecutable]
      rintro cs' heq
      exact hne.2.2 (List.cons.inj heq).1
    exact ⟨_, by rw [unwrapExecutable_cons hopens, clean_cons hc], .outside opened cs⟩
  | inside hsplit =>
    rw [splitBlock?_cons fun h => absurd h hne.2.1] at hsplit
    obtain ⟨⟨body, rest⟩, hrest, hr⟩ := Option.map_eq_some_iff.1 hsplit
    cases hr
    exact ⟨_, by rw [List.cons_append, clean_cons hc], .inside hrest⟩

/-- A comment to the end of a line is not seen. -/
theorem line {line : List Char} (h : Uncommented opened ('-' :: '-' :: line ++ cs) t)
    (hline : ¬['/', '*'] <:+: line) (hend : '\n' ∉ line) (hcs : ∀ c ∈ cs.head?, c = '\n') :
    Uncommented opened cs t := by
  have hunwrap : ∀ c ∈ (unwrapExecutable cs).head?, c = '\n' := by
    cases cs with
    | nil => simp [unwrapExecutable]
    | cons c cs =>
      obtain rfl : c = '\n' := hcs c rfl
      rw [unwrapExecutable_cons rfl]
      simp
  cases h with
  | outside =>
    rw [List.cons_append, List.cons_append, unwrapExecutable_cons rfl, unwrapExecutable_cons rfl,
      unwrapExecutable_line hline (head?_ne_of_lineEnd (by decide) hcs)]
    have hclean := clean_line hline hend hunwrap
    exact hclean ▸ .outside opened cs
  | inside hsplit =>
    cases hdashes : splitBlock? ('-' :: '-' :: line) with
    | none =>
      rw [splitBlock?_append hdashes (head?_ne_of_lineEnd (by decide) hcs)] at hsplit
      obtain ⟨⟨body, rest⟩, hrest, hr⟩ := Option.map_eq_some_iff.1 hsplit
      cases hr
      have hhead : ∀ c ∈ (body ++ unwrapExecutable rest).head?, c = '\n' := by
        cases cs with
        | nil => cases hrest
        | cons c cs =>
          obtain rfl : c = '\n' := hcs c rfl
          rw [splitBlock?_cons (by simp)] at hrest
          obtain ⟨r, -, hr⟩ := Option.map_eq_some_iff.1 hrest
          cases hr
          simp
      rw [List.append_assoc, clean_line hline hend hhead]
      exact .inside hrest
    | some r =>
      -- The executable comment ends on the line for `uncomment`, and stays open for the lexer.
      obtain ⟨front, back⟩ := r
      obtain ⟨heq, hafter⟩ := eq_append_of_splitBlock? hdashes
      rw [heq, List.append_assoc, List.cons_append, List.cons_append, hafter, Option.some.injEq,
        Prod.mk.injEq] at hsplit
      obtain ⟨rfl, rfl⟩ := hsplit
      rcases front with _ | ⟨d, _ | ⟨d', front⟩⟩
      · cases heq
      · cases heq
      · simp only [List.cons_append, List.cons.injEq] at heq
        obtain ⟨rfl, rfl, rfl⟩ := heq
        have hback : ¬['/', '*'] <:+: back :=
          fun h => hline (h.trans ⟨front ++ ['*', '/'], [], by simp⟩)
        have hclean := clean_line_of_end hline hend hunwrap
        rw [unwrapExecutable_line hback (head?_ne_of_lineEnd (by decide) hcs), List.cons_append,
          List.cons_append, ← List.append_assoc]
        exact hclean ▸ .outside 1 cs

/-- The end of an executable comment is not seen, unless it is taken for something else. -/
theorem close (h : Uncommented opened ('*' :: '/' :: cs) t) :
    t.head? = some '*' ∨ Uncommented (opened - 1) cs t := by
  cases h with
  | outside =>
    rw [unwrapExecutable_cons rfl, clean, removeBlocks_cons (by simp), removeLines_cons (by simp)]
    exact .inl rfl
  | inside hsplit =>
    cases hsplit
    exact .inr (.outside 0 cs)

/-- A comment is not seen, unless it has no end, or is followed by a star, which would open another
with the slash at its end. -/
theorem block (h : Uncommented 0 ('/' :: '*' :: cs) t) (hversion : skipVersion? cs = none)
    (hholds : holdsExecutable cs = false) :
    t.head? = some '/' ∨ (skipBlock cs).head? = some '*' ∨ Uncommented 0 (skipBlock cs) t := by
  cases h with
  | outside =>
    have hopens : opensExecutable ('/' :: '*' :: cs) = false := by
      rw [opensExecutable, hversion]
      rfl
    rw [unwrapExecutable_cons hopens, unwrapExecutable_cons rfl]
    cases hsplit : splitBlock? cs with
    | none =>
      rw [unwrapExecutable_of_splitBlock?_eq_none hsplit]
      exact .inl (head?_clean_of_splitBlock?_eq_none hsplit)
    | some r =>
      obtain ⟨body, rest⟩ := r
      rw [skipBlock_of_splitBlock? hsplit]
      by_cases hrest : rest.head? = some '*'
      · exact .inr (.inl hrest)
      refine .inr (.inr ?_)
      obtain ⟨-, hafter⟩ := eq_append_of_splitBlock? hsplit
      rw [unwrapExecutable_of_splitBlock? hsplit hholds hrest, clean,
        removeBlocks_of_splitBlock? (hafter _)]
      exact .outside 0 rest

/-- The opener of an executable comment is not seen, and neither are the blanks after it, unless the
comment has no end, or a digit of another script follows the version. -/
theorem executable {code : List Char} (h : Uncommented 0 ('/' :: '*' :: cs) t)
    (hversion : skipVersion? cs = some code) :
    t.head? = some '/' ∨ (∃ c ∈ code.head?, 0x80 ≤ c.toNat ∧ Text.isBlank c = false) ∨
      ∃ t', Uncommented 1 code t' ∧ t'.dropWhile Text.isBlank = t.dropWhile Text.isBlank := by
  cases h with
  | outside =>
    rcases executableBody?_of_skipVersion? hversion with hdigit | hbody
    · exact .inr (.inl hdigit)
    have hblanks : ∀ c ∈ code.takeWhile Text.isBlank, Text.isBlank c = true :=
      List.all_eq_true.1 List.all_takeWhile
    have hplain : ∀ c ∈ code.takeWhile Text.isBlank, c ∉ "-*/".toList :=
      fun c hc => not_mem_of_isBlank (hblanks c hc)
    cases hsplit : splitBlock? (code.dropWhile Text.isBlank) with
    | none =>
      have hslash : cs.head? ≠ some '/' := fun h => by
        obtain ⟨rest, rfl⟩ := List.head?_eq_some_iff.1 h
        cases hversion
      obtain ⟨front, heq, hfront⟩ := executableBody?_eq_append hbody
      have hcs : splitBlock? cs = none := by
        rw [heq, splitBlock?_append_of_not_mem hfront, hsplit]
        rfl
      have hnone : splitBlock? ('/' :: '*' :: cs) = none := by
        rw [splitBlock?_cons (by simp), splitBlock?_cons fun _ => hslash, hcs]
        rfl
      rw [unwrapExecutable_of_splitBlock?_eq_none hnone]
      exact .inl (head?_clean_of_splitBlock?_eq_none hcs)
    | some r =>
      obtain ⟨body, rest⟩ := r
      rw [unwrapExecutable_of_executableBody? hbody hsplit]
      have hcode : splitBlock? code = some (code.takeWhile Text.isBlank ++ body, rest) := by
        have hstar : '*' ∉ code.takeWhile Text.isBlank := fun h => hplain _ h (by decide)
        rw [← List.takeWhile_append_dropWhile (p := Text.isBlank) (l := code),
          splitBlock?_append_of_not_mem hstar, hsplit, Option.map_some,
          List.takeWhile_append_dropWhile]
      refine .inr (.inr ⟨_, .inside hcode, ?_⟩)
      rw [List.append_assoc, clean_append hplain, List.dropWhile_append_of_pos hblanks]

/-- Behind a gap whose comments are separate, the code is seen that the lexer sees. -/
theorem gap (h : Uncommented opened cs t) (hgap : gapSeparate opened cs = true) :
    Blocked t ∨ Inert (skipGap opened cs).2 ∨
      ∃ t', Uncommented (skipGap opened cs).1 (skipGap opened cs).2 t' ∧
        t'.dropWhile Text.isBlank = t.dropWhile Text.isBlank := by
  fun_induction skipGap opened cs generalizing t with
  | case1 opened rest _ ih =>
    rw [gapSeparate] at hgap
    rw [Bool.and_eq_true, Bool.not_eq_true', Text.occursIn_eq_false_iff] at hgap
    obtain ⟨hline, hgap⟩ := hgap
    rw [← List.takeWhile_append_dropWhile (p := (· ≠ '\n')) (l := rest)] at h
    refine ih (h.line hline (fun hmem => ?_) fun c hc => ?_) hgap
    · have hall := List.all_eq_true.1 List.all_takeWhile _ hmem
      simp at hall
    · simpa using Token.eq_false_of_mem_head?_dropWhile hc
  | case2 opened rest _ ih =>
    obtain ⟨t', rfl, -⟩ := h.step (by decide)
    exact .inl (blocked_of_head? rfl (by decide))
  | case3 opened rest hopened ih =>
    rw [gapSeparate, if_pos hopened] at hgap
    rcases h.close with hstar | hrest
    · exact .inl (blocked_of_head? hstar (by decide))
    · exact ih hrest hgap
  | case4 => exact .inr (.inl ⟨'*', rfl, .inl rfl⟩)
  | case5 opened rest code hversion _ ih =>
    -- The blanks behind the version are gone from `t`: it goes on as `t₁` only up to blanks.
    rw [gapSeparate_executable hversion, Bool.and_eq_true, decide_eq_true_eq] at hgap
    obtain ⟨rfl, hgap⟩ := hgap
    rcases h.executable hversion with hslash | ⟨c, hc, hhigh, hblank⟩ | ⟨t₁, ht₁, hdrop⟩
    · exact .inl (blocked_of_head? hslash (by decide))
    · obtain ⟨rest, rfl⟩ := List.head?_eq_some_iff.1 hc
      have hcode : skipGap (0 + 1) (c :: rest) = (1, c :: rest) := by
        refine Token.skipGap_of_not_blank hblank fun hmem => ?_
        have hascii : ∀ c ∈ "-#*/".toList, c.toNat < 0x80 := List.all_iff_forall_prop.1 (by decide)
        exact absurd (hascii c hmem) (by omega)
      rw [hcode]
      exact .inr (.inl ⟨c, rfl, .inr hhigh⟩)
    · rw [Blocked, ← hdrop]
      exact ih ht₁ hgap
  | case6 opened rest hversion _ ih =>
    rw [gapSeparate_block hversion] at hgap
    simp only [Bool.and_eq_true, decide_eq_true_eq, Bool.not_eq_true'] at hgap
    obtain ⟨rfl, hholds, hgap⟩ := hgap
    rcases h.block hversion hholds with hslash | hstar | hrest
    · exact .inl (blocked_of_head? hslash (by decide))
    · exact .inr (.inl (inert_of_head? hstar))
    · exact ih hrest hgap
  | case7 opened c rest _ _ _ _ hblank ih =>
    rw [gapSeparate_blank hblank] at hgap
    obtain ⟨t', rfl, ht'⟩ := h.step (not_mem_of_isBlank hblank)
    rw [Blocked, List.dropWhile_cons_of_pos hblank]
    exact ih ht' hgap
  | case8 => exact .inr (.inr ⟨t, h, rfl⟩)
  | case9 => exact .inr (.inr ⟨t, h, rfl⟩)

end Uncommented

end SchemaTrail.Statement
