import SchemaTrail.Proofs.CommentGaps
import SchemaTrail.Statement.Basic

/-!
# Statements that are not tracked ask for nothing

A statement that `isUntracked` recognises asks for nothing once its comments are removed, and asks
for nothing as it stands if its comments are separate (`Statement.read_of_isUntracked`).  So where
comments are separate nothing is lost by not reading such a statement
(`Statement.requests_eq_read`).
-/

namespace SchemaTrail.Statement

open Token (code codeAfter scan skipGap)
open Beginning (leadingWords untracked)

variable {c : Char} {opened : Nat} {cs rest t : List Char} {statement : String}

/-- Whether the comments of a statement are separate as far as they matter: in all gaps up to the
first token that is none of the words in front of the word for a table or a database. -/
def separate (opened : Nat) (cs : List Char) : Bool :=
  gapSeparate opened cs &&
    match _h : codeAfter opened cs with
    | [] => true
    | c :: rest =>
      have := (Token.codeAfter_suffix opened cs).length_le
      have := (Token.scan_suffix c rest).length_le
      match (scan c rest).1 with
      | .keyword k =>
        if k ∈ leadingWords then separate (skipGap opened cs).1 (scan c rest).2 else true
      | _ => true
termination_by cs.length
decreasing_by simp_all; omega

theorem gapSeparate_of_separate (h : separate opened cs = true) : gapSeparate opened cs = true := by
  rw [separate, Bool.and_eq_true] at h
  exact h.1

theorem separate_next {k : Keyword} (h : separate opened cs = true)
    (hcode : codeAfter opened cs = c :: rest) (hscan : (scan c rest).1 = .keyword k)
    (hk : k ∈ leadingWords) : separate (skipGap opened cs).1 (scan c rest).2 = true := by
  rw [separate, Bool.and_eq_true] at h
  replace h := h.2
  split at h
  next heq => cases hcode.symm.trans heq
  next heq =>
    cases hcode.symm.trans heq
    rw [hscan] at h
    dsimp only at h
    rwa [if_pos hk] at h

/-- Comments are separate if they are so in front of a keyword and, where it matters, behind it. -/
theorem separate_of_keyword {k : Keyword} (hgap : gapSeparate opened cs = true)
    (hcode : codeAfter opened cs = c :: rest) (hscan : (scan c rest).1 = .keyword k)
    (hnext : k ∈ leadingWords → separate (skipGap opened cs).1 (scan c rest).2 = true) :
    separate opened cs = true := by
  rw [separate, hgap, Bool.true_and]
  split
  next heq => rfl
  next heq =>
    cases hcode.symm.trans heq
    rw [hscan]
    dsimp only
    split
    next hk => exact hnext hk
    next => rfl

/-- Where no comment opens with a slash and a star, comments are separate. -/
theorem separate_of_no_opener (h : ¬['/', '*'] <:+: cs) : separate 0 cs = true := by
  induction hlength : cs.length using Nat.strongRecOn generalizing cs with
  | ind n ih =>
    subst hlength
    obtain ⟨hgap, hopened⟩ := gapSeparate_of_no_opener h
    rw [separate, hgap, Bool.true_and]
    split
    next => rfl
    next c rest hcode =>
      have hsuffix : c :: rest <:+ cs := hcode ▸ Token.codeAfter_suffix 0 cs
      have htail : (scan c rest).2 <:+ rest := Token.scan_suffix c rest
      have hinner : (scan c rest).2 <:+: cs :=
        (htail.trans (List.suffix_cons c rest)).isInfix.trans hsuffix.isInfix
      have hlt : (scan c rest).2.length < cs.length :=
        Nat.lt_of_le_of_lt htail.length_le hsuffix.length_le
      dsimp only
      split
      next k _ =>
        split
        · rw [hopened]
          exact ih _ hlt (fun hmem => h (hmem.trans hinner)) rfl
        · rfl
      next => rfl

/-- A text without its comments is a view of it where they are separate. -/
theorem view_uncommented : View Uncommented fun opened cs => separate opened cs = true where
  step := Uncommented.step
  gap h hsep := h.gap (gapSeparate_of_separate hsep)
  next := separate_next

/-- A text is a view of itself. -/
theorem view_self : View (fun _ cs t => t = cs) fun _ _ => True where
  step h _ := ⟨_, h, rfl⟩
  gap {opened cs t} h _ := by
    subst h
    fun_induction skipGap opened t with
    | case1 | case2 | case3 | case5 | case6 => exact .inl (blocked_of_head? rfl (by decide))
    | case4 => exact .inr (.inl ⟨'*', rfl, .inl rfl⟩)
    | case7 opened c rest _ _ _ _ hblank ih =>
      rwa [Blocked, List.dropWhile_cons_of_pos hblank]
    | case8 opened c rest => exact .inr (.inr ⟨c :: rest, rfl, rfl⟩)
    | case9 => exact .inr (.inr ⟨[], rfl, rfl⟩)
  next _ _ _ _ := trivial

/-- What shows the form of a statement that is not tracked is not relevant. -/
theorem View.isRelevant_eq_false {Shows : Nat → List Char → List Char → Prop}
    {Clear : Nat → List Char → Prop} (view : View Shows Clear) (hshows : Shows opened cs t)
    (hclear : Clear opened cs)
    (h : (untracked.any fun form => (form (t.dropWhile Text.isBlank)).isSome) = true) :
    isRelevant (code opened cs) = false := by
  obtain ⟨form, hform, hsome⟩ := List.any_eq_true.1 h
  refine Bool.eq_false_iff.2 fun hrelevant => ?_
  rw [view.untracked_eq_none hshows hclear hrelevant form hform] at hsome
  cases hsome

theorem isRelevant_uncomment (h : isUntracked statement = true) :
    isRelevant (code 0 (uncomment statement).toList) = false :=
  view_self.isRelevant_eq_false rfl trivial h

theorem isRelevant_of_separate (h : isUntracked statement = true)
    (hseparate : separate 0 statement.toList = true) :
    isRelevant (code 0 statement.toList) = false := by
  have hshows : Uncommented 0 statement.toList (uncomment statement).toList := by
    rw [uncomment, String.toList_ofList]
    exact .outside 0 statement.toList
  exact view_uncommented.isRelevant_eq_false hshows hseparate h

/-- Where comments are separate, statements that are not tracked ask for what they would ask for if
they were read. -/
theorem requests_eq_read (h : separate 0 statement.toList = true) (selected : Option String) :
    requests selected statement = read selected statement := by
  rw [requests]
  split
  next huntracked => exact (read_eq_nil (isRelevant_of_separate huntracked h) selected).symm
  next => rfl

/-- A statement that is not tracked asks for nothing once its comments are removed, and as it stands
if its comments are separate. -/
theorem read_of_isUntracked (h : isUntracked statement = true) (selected : Option String) :
    read selected (uncomment statement) = .ok [] ∧
      (separate 0 statement.toList = true → read selected statement = .ok []) :=
  ⟨read_eq_nil (isRelevant_uncomment h) selected,
    fun hseparate => read_eq_nil (isRelevant_of_separate h hseparate) selected⟩

theorem read_of_isUntracked_trigger :
    let statement := "/* 1 */ /*!50017 CREATE DEFINER=root@localhost */ -- 2
      TRIGGER d.r BEFORE INSERT ON d.t FOR EACH ROW SET @a = 1"
    isUntracked statement = true ∧ separate 0 statement.toList = true ∧
      read none statement = .ok [] := by
  intro statement
  have huntracked : isUntracked statement = true := by decide +kernel
  have hseparate : separate 0 statement.toList = true := by decide +kernel
  exact ⟨huntracked, hseparate, (read_of_isUntracked huntracked none).2 hseparate⟩

/-- A table is dropped between two comments: to the lexer the first comment ends before the words,
but if executable comments are unwrapped first it ends behind them. -/
theorem isUntracked_of_drop_table :
    let statement := "/* /*! */ DROP TABLE d.t -- */ BEGIN"
    isUntracked statement = true ∧
      (read none statement).toOption = some [.dropTable ⟨"d", "t"⟩ false] := by
  decide +kernel

end SchemaTrail.Statement
