import Mathlib.Data.List.Forall2
import SchemaTrail.Proofs.ReadStatements

/-!
# Clauses that are joined

Clauses and elements may have commas of their own, so that a reader of items with commas between
them (`Statement.Listing`) may find several items where one was meant, or fewer.  Still, lists that
are read up to their ends are read the same where they are joined by commas
(`Statement.Listing.reads_intercalate`), since readers of items stay within their clauses.
-/

namespace SchemaTrail.Statement

open Outcome

variable {α β : Type} {c next : Cursor} {x : Content} {w z left tail : List Content} {d : Nat}

/-! ## Balanced tokens -/

theorem Within.append (hw : Within d w) (hz : Within 0 z) : Within d (w ++ z) := by
  induction hw with
  | nil => exact hz
  | opens _ ih => exact .opens ih
  | closes _ ih => exact .closes ih
  | plain hx hsemicolon hpartition _ ih => exact .plain hx hsemicolon hpartition ih

theorem Within.comma {text : String} (hw : Within d w) :
    Within d ((.symbol .comma, text) :: w) :=
  .plain rfl (by simp) (by simp) hw

theorem Within.after_comma {text : String} (hw : Within d ((.symbol .comma, text) :: w)) :
    Within d w :=
  hw.advance rfl

/-- Behind a clause stands no parenthesis that closes a group, and no semicolon. -/
theorem Within.head_cases (hw : Within 0 (x :: w)) :
    x.1 ≠ .symbol .rightParen ∧ x.1 ≠ .symbol .semicolon ∧ x.1 ≠ .eof := by
  cases hw with
  | opens => simp
  | plain hx hsemicolon =>
    refine ⟨?_, hsemicolon, ?_⟩ <;>
    · intro heq
      rw [heq] at hx
      cases hx

theorem IsTail.ne_comma (h : IsTail tail) : headKind tail ≠ .symbol .comma := by
  cases h <;> simp [headKind]

/-! ## Lists of items -/

/-- What `seq` reads is an item and what `more` reads behind a comma, from tokens that may stand
within a clause and that are followed by `tail`. -/
structure Listing (tail : List Content) (item seq more : Reader (List β)) : Prop where
  isTail : IsTail tail
  item_steps : Steps .clause 0 0 item
  seq_eq : ∀ c w, Within 0 w → c.contents = w ++ tail →
    seq c = (do return (← item) ++ (← more)) c
  more_comma : ∀ c text w, Within 0 w → c.contents = (.symbol .comma, text) :: (w ++ tail) →
    more c = seq c.advance
  more_none : ∀ c, c.kind ≠ .symbol .comma → more c = .ok ([], c)

namespace Listing

variable {item seq more : Reader (List β)} {as bs : List β} {Q : Cursor → Prop}

/-- An item is read first.  Then the list ends, or it goes on behind a comma. -/
theorem step (h : Listing tail item seq more) (hw : Within 0 w) (hc : c.contents = w ++ tail)
    (hseq : seq c = .ok (as, next)) :
    ∃ first rest m left, as = first ++ rest ∧ item c = .ok (first, m) ∧ left <:+ w ∧
      Within 0 left ∧ m.contents = left ++ tail ∧ Passes item w first left ∧
        ((m.kind ≠ .symbol .comma ∧ rest = [] ∧ next = m) ∨
          ∃ text v, left = (.symbol .comma, text) :: v ∧ Within 0 v ∧
            seq m.advance = .ok (rest, next)) := by
  rw [h.seq_eq c w hw hc] at hseq
  obtain ⟨first, m, hfirst, hseq⟩ := read_bind_iff.1 hseq
  obtain ⟨rest, m', hrest, hseq⟩ := read_bind_iff.1 hseq
  cases hseq
  obtain ⟨left, hleft, hwithin, hm, hpasses⟩ :=
    h.item_steps.passes hw h.isTail hc hfirst
  refine ⟨first, rest, m, left, rfl, hfirst, hleft, hwithin, hm, hpasses, ?_⟩
  by_cases hcomma : m.kind = .symbol .comma
  · rw [Cursor.kind_of_contents hm] at hcomma
    cases left with
    | nil => exact absurd hcomma h.isTail.ne_comma
    | cons x v =>
      obtain ⟨k, text⟩ := x
      obtain rfl : k = .symbol .comma := hcomma
      have hv := hwithin.after_comma
      exact .inr ⟨text, v, rfl, hv, (h.more_comma m text v hv hm).symm.trans hrest⟩
  · rw [h.more_none m hcomma] at hrest
    cases hrest
    exact .inl ⟨hcomma, rfl, rfl⟩

/-- Behind a list, which ends with an item, no comma stands. -/
theorem exists_last (h : Listing tail item seq more) (hw : Within 0 w)
    (hc : c.contents = w ++ tail) (hseq : seq c = .ok (as, next)) :
    ∃ left, Within 0 left ∧ next.contents = left ++ tail ∧ next.kind ≠ .symbol .comma ∧
      ∃ c' last, item c' = .ok (last, next) ∧ last ⊆ as := by
  induction hlength : w.length using Nat.strongRecOn generalizing c w as with
  | ind n ih =>
    subst hlength
    obtain ⟨first, rest, m, left, rfl, hfirst, hleft, hwithin, hm, -, hend⟩ := h.step hw hc hseq
    rcases hend with ⟨hcomma, rfl, rfl⟩ | ⟨text, v, rfl, hv, hrest⟩
    · exact ⟨left, hwithin, hm, hcomma, c, first, hfirst, by simp⟩
    · obtain ⟨left', hwithin', hnext, hcomma, c', last, hlast, hsubset⟩ :=
        ih v.length hleft.length_le hv (Cursor.contents_advance hm) hrest rfl
      exact ⟨left', hwithin', hnext, hcomma, c', last, hlast,
        List.subset_append_of_subset_right first hsubset⟩

/-- A list that is read up to its end is read the same if something follows that goes on with a
comma. -/
theorem reads_append (h : Listing tail item seq more) (hw : Within 0 w) (hz : Within 0 z)
    (hend : endsClause (headKind (z ++ tail)) = true)
    (hmore : Reads more (fun c => c.contents = z ++ tail) bs Q) (hc : c.contents = w ++ tail)
    (hseq : seq c = .ok (as, next)) (hnext : next.contents = tail) :
    Reads seq (fun c => c.contents = w ++ z ++ tail) (as ++ bs) Q := by
  induction hlength : w.length using Nat.strongRecOn generalizing c w as with
  | ind n ih =>
    subst hlength
    obtain ⟨first, rest, m, left, rfl, -, hleft, hwithin, hm, hpasses, hstep⟩ := h.step hw hc hseq
    have hrest : Reads more (fun c => c.contents = left ++ (z ++ tail)) (rest ++ bs) Q := by
      rcases hstep with ⟨-, rfl, rfl⟩ | ⟨text, v, rfl, hv, hrest⟩
      · have hnil : left = [] := by simpa [hnext] using hm
        rwa [hnil]
      · intro c' hc'
        rw [List.cons_append, ← List.append_assoc] at hc'
        rw [h.more_comma c' text (v ++ z) (hv.append hz) hc']
        exact ih v.length hleft.length_le hv (Cursor.contents_advance hm) hrest rfl c'.advance
          (Cursor.contents_advance hc')
    intro c' hc'
    rw [h.seq_eq c' (w ++ z) (hw.append hz) hc']
    rw [List.append_assoc] at hc' ⊢
    have hboth : Reads (do return first ++ (← more)) (fun c => c.contents = left ++ (z ++ tail))
        (first ++ (rest ++ bs)) Q := hrest.bind (reads_pure _ _)
    exact ((hpasses (z ++ tail) hend).bind hboth) c' hc'

/-- Tokens from which a list is read up to its end. -/
def ReadsAll (seq : Reader (List β)) (tail w : List Content) (as : List β) : Prop :=
  Within 0 w ∧ ∃ c next, c.contents = w ++ tail ∧ seq c = .ok (as, next) ∧ next.contents = tail

/-- Lists that are read up to their ends are read the same if they are joined by commas. -/
theorem reads_intercalate (h : Listing tail item seq more) (text : String)
    {ws : List (List Content)} {ass : List (List β)} (hws : ws ≠ [])
    (hall : List.Forall₂ (ReadsAll seq tail) ws ass) :
    Within 0 ([(.symbol .comma, text)].intercalate ws) ∧
      ReadsContents seq ([(.symbol .comma, text)].intercalate ws ++ tail) ass.flatten tail := by
  induction hall with
  | nil => exact absurd rfl hws
  | @cons w as ws ass hfirst hothers ih =>
    obtain ⟨hw, c, next, hc, hseq, hnext⟩ := hfirst
    cases hothers with
    | nil =>
      have hnone : ReadsContents more ([] ++ tail) [] tail :=
        fun c hc => ⟨c, h.more_none c (Cursor.kind_of_contents hc ▸ h.isTail.ne_comma), hc⟩
      refine ⟨by simpa using hw, ?_⟩
      have hreads := h.reads_append hw .nil h.isTail.endsClause hnone hc hseq hnext
      simpa using hreads
    | @cons w' as' ws' ass' hfirst' hothers' =>
      obtain ⟨hwithin, hreads⟩ := ih (by simp)
      have hmore : ReadsContents more
          ((.symbol .comma, text) :: [(.symbol .comma, text)].intercalate (w' :: ws') ++ tail)
            (as' :: ass').flatten tail := by
        intro c hc
        rw [h.more_comma c text _ hwithin hc]
        exact hreads c.advance (Cursor.contents_advance hc)
      rw [List.intercalate_cons_cons, List.append_assoc, List.singleton_append]
      exact ⟨hw.append hwithin.comma, h.reads_append hw hwithin.comma rfl hmore hc hseq hnext⟩

end Listing

/-! ### Elements -/

theorem many_readBehind_none (item : Reader α) (hc : c.kind ≠ .symbol .comma) :
    many (readBehind .comma item) c = .ok ([], c) := by
  refine many_of_none ?_
  rw [readBehind, takeSymbol, takeIf_bind, if_neg (by simpa using hc)]
  rfl

/-- Behind a comma items are repeated as they begin. -/
theorem many_comma {item : Reader α} {round : Reader (Option α)} (hround : Progresses round)
    (h : round c = (some <$> item) c.advance) :
    many round c = (do return (← item) :: (← many round)) c.advance := by
  show _ = (item c.advance).bind _
  cases hitem : item c.advance with
  | error x =>
    rw [many_of_error (h.trans (some_map_eq_error_iff.2 hitem))]
    rfl
  | ok r =>
    rw [hround.many_of_some (h.trans (some_map_eq_ok_iff.2 ⟨r.1, rfl, hitem⟩))]
    show _ = (many round r.2).bind _
    cases many round r.2 <;> rfl

theorem listing_elements (text : String) :
    Listing [(.symbol .rightParen, text)] (List.singleton <$> readElement) (separated readElement)
      (many (readBehind .comma readElement)) where
  isTail := .rightParen text
  item_steps := readElement_steps.map _
  seq_eq c w _ _ := by
    show _ = ((readElement c).bind _).bind _
    show (readElement c).bind _ = _
    cases readElement c <;> rfl
  more_comma c text w hw hc := by
    have hround : IsRound .statement 0 (readBehind .comma readElement) :=
      isRound_behind_symbol ((readElement_steps.statement 0 0).map some) rfl rfl rfl
    refine many_comma hround.progresses ?_
    rw [readBehind, takeSymbol, takeIf_bind, Cursor.kind_of_contents hc]
    rfl
  more_none c hc := many_readBehind_none _ hc

/-! ### Clauses -/

variable {selected : Option String}

theorem readMoreClauses_none (hc : c.kind ≠ .symbol .comma) :
    readMoreClauses selected c = .ok ([], c) := by
  have hnone : readNextClause selected c = .ok (none, c) := by
    rw [readNextClause, takeSymbol, takeIf_bind, if_neg (by simpa using hc)]
    rfl
  show (many (readNextClause selected) c).bind _ = _
  rw [many_of_none hnone]
  rfl

theorem readAlterClauses_end (hc : endsStatement c.kind = true) :
    readAlterClauses selected c = .ok ([], c) := by
  rw [readAlterClauses, kind_bind, if_pos hc]
  rfl

theorem readAlterClauses_eq (hc : endsStatement c.kind = false) :
    readAlterClauses selected c =
      (do return (← readAlterClause selected) ++ (← readMoreClauses selected)) c := by
  rw [readAlterClauses, kind_bind, if_neg (ne_true_of_eq_false hc)]

/-- At the end of a statement, a clause is read that asks for nothing. -/
theorem readAlterClause_end (hc : c.kind = .eof) :
    readAlterClause selected c = .ok ([], c) := by
  rw [readAlterClause, kind_bind, hc]
  have hskip : skipClause c = .ok ((), c) := by
    refine discard_eq_ok_iff.2 ⟨[], many_of_none ?_⟩
    rw [skipPart, kind_bind, hc]
    rfl
  exact read_bind_iff.2 ⟨_, _, hskip, rfl⟩

theorem endsStatement_headKind (hw : Within 0 w) :
    endsStatement (headKind w) = true ↔ w = [] := by
  cases w with
  | nil => simp [headKind, endsStatement]
  | cons x xs =>
    obtain ⟨-, hsemicolon, heof⟩ := hw.head_cases
    simp only [headKind, reduceCtorEq, iff_false]
    unfold endsStatement
    split <;> simp_all

theorem listing_clauses (selected : Option String) :
    Listing [] (readAlterClause selected) (readAlterClauses selected)
      (readMoreClauses selected) where
  isTail := .nil
  item_steps := readAlterClause_steps selected
  seq_eq c w hw hc := by
    rw [List.append_nil] at hc
    cases hends : endsStatement c.kind with
    | false => exact readAlterClauses_eq hends
    | true =>
      rw [Cursor.kind_of_contents hc, endsStatement_headKind hw] at hends
      subst hends
      have hkind : c.kind = .eof := Cursor.kind_of_contents hc
      have hmore : readMoreClauses selected c = .ok ([], c) :=
        readMoreClauses_none (by simp [hkind])
      rw [readAlterClauses_end (by simp [hkind, endsStatement])]
      exact (read_bind_iff.2 ⟨[], c, readAlterClause_end hkind, read_bind_iff.2
        ⟨[], c, hmore, rfl⟩⟩).symm
  more_comma c text w hw hc := by
    have hkind : c.kind = .symbol .comma := Cursor.kind_of_contents hc
    have hnext : readNextClause selected c = if endsStatement c.advance.kind then
        .ok (none, c.advance) else (some <$> readAlterClause selected) c.advance := by
      rw [readNextClause, takeSymbol, takeIf_bind, if_pos (by simp [hkind]), if_pos rfl,
        readClauseIfAny, kind_bind]
      split <;> rfl
    show (many (readNextClause selected) c).bind _ = _
    cases hends : endsStatement c.advance.kind with
    | true =>
      rw [hends] at hnext
      rw [readAlterClauses_end hends, many_of_none hnext]
      rfl
    | false =>
      rw [hends] at hnext
      rw [readAlterClauses_eq hends, many_comma (readNextClause_isRound selected).progresses hnext]
      show ((readAlterClause selected c.advance).bind _).bind _ =
        (readAlterClause selected c.advance).bind _
      cases readAlterClause selected c.advance with
      | error e => rfl
      | ok r =>
        show ((many (readNextClause selected) r.2).bind _).bind _ =
          ((many (readNextClause selected) r.2).bind _).bind _
        cases many (readNextClause selected) r.2 <;> rfl
  more_none c hc := readMoreClauses_none hc

end SchemaTrail.Statement
