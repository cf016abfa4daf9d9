import Mathlib.Data.List.Infix
import Mathlib.Logic.Function.Iterate
import SchemaTrail.Proofs.ReaderLoops

/-!
# Balanced groups and the ends of clauses

Parentheses are balanced by their number: in front of no token more of them are closed than opened
(`Statement.Balanced`).  A group is passed over if and only if a parenthesis closes it in this sense
and no faulty token stands before; the rest of a clause is passed over if and only if no faulty
token and no open group stands before its first end outside of all groups
(`Statement.skip_exact`).
-/

namespace SchemaTrail.Statement

open Outcome

variable {c next : Cursor} {d e n : Nat} {k : Token.Kind}
  {ks ls inside inside' rest rest' front front' back back' item : List Token.Kind}

/-! ## Balance -/

/-- Tokens by which `depth` open groups are closed, and all that are opened among them. -/
structure Balanced (depth : Nat) (ks : List Token.Kind) : Prop where
  closed : ks.count (.symbol .rightParen) = ks.count (.symbol .leftParen) + depth
  opened : ∀ front, front <+: ks →
    front.count (.symbol .rightParen) ≤ front.count (.symbol .leftParen) + depth

theorem balanced_nil_iff : Balanced d [] ↔ d = 0 := by
  constructor
  · intro h
    simpa using h.closed.symm
  · rintro rfl
    exact ⟨rfl, fun front hfront => by rw [List.prefix_nil.1 hfront]; rfl⟩

/-- One token takes the number of open groups to another one. -/
theorem balanced_cons_iff : Balanced d (k :: ks) ↔
    ∃ e, [k].count (.symbol .rightParen) + e = [k].count (.symbol .leftParen) + d ∧
      Balanced e ks := by
  have hcount (s : Token.Kind) (ls : List Token.Kind) :
      (k :: ls).count s = [k].count s + ls.count s := by
    rw [← List.count_append, List.singleton_append]
  have hopen := hcount (.symbol .leftParen)
  have hclose := hcount (.symbol .rightParen)
  constructor
  · rintro ⟨hclosed, hopened⟩
    have hfirst := hopened [k] ((List.prefix_cons_inj k).2 List.nil_prefix)
    obtain ⟨e, he⟩ := Nat.exists_eq_add_of_le hfirst
    refine ⟨e, he.symm, ?_, fun front hfront => ?_⟩
    · have hopen := hopen ks
      have hclose := hclose ks
      omega
    · have hprefix := hopened (k :: front) ((List.prefix_cons_inj k).2 hfront)
      have hopen := hopen front
      have hclose := hclose front
      omega
  · rintro ⟨e, he, hclosed, hopened⟩
    refine ⟨?_, fun front hfront => ?_⟩
    · have hopen := hopen ks
      have hclose := hclose ks
      omega
    · rcases List.prefix_cons_iff.1 hfront with rfl | ⟨front', rfl, hfront'⟩
      · exact Nat.zero_le _
      · have hprefix := hopened front' hfront'
        have hopen := hopen front'
        have hclose := hclose front'
        omega

theorem balanced_open_iff : Balanced d (.symbol .leftParen :: ks) ↔ Balanced (d + 1) ks := by
  rw [balanced_cons_iff]
  simp [Nat.add_comm 1]

theorem balanced_close_iff :
    Balanced d (.symbol .rightParen :: ks) ↔ ∃ e, d = e + 1 ∧ Balanced e ks := by
  rw [balanced_cons_iff]
  simp [Nat.add_comm 1, eq_comm]

theorem balanced_plain_iff (hopen : k ≠ .symbol .leftParen) (hclose : k ≠ .symbol .rightParen) :
    Balanced d (k :: ks) ↔ Balanced d ks := by
  rw [balanced_cons_iff]
  simp [hopen, hclose]

theorem Balanced.append (h : Balanced d ks) (h' : Balanced e ls) : Balanced (d + e) (ks ++ ls) := by
  induction ks generalizing d with
  | nil =>
    obtain rfl := balanced_nil_iff.1 h
    rwa [Nat.zero_add]
  | cons k ks ih =>
    obtain ⟨d', hd', h⟩ := balanced_cons_iff.1 h
    exact balanced_cons_iff.2 ⟨d' + e, by omega, ih h⟩

theorem Balanced.exists_of_append (h : Balanced d (ks ++ ls)) : ∃ e, Balanced e ls := by
  induction ks generalizing d with
  | nil => exact ⟨d, h⟩
  | cons k ks ih =>
    obtain ⟨d', -, h⟩ := balanced_cons_iff.1 h
    exact ih h

/-- Where several groups are open, a parenthesis closes the innermost ones of them. -/
theorem Balanced.exists_split {m : Nat} (h : Balanced m ks) (hm : m = n + d + 1) :
    ∃ inside rest, ks = inside ++ .symbol .rightParen :: rest ∧ Balanced n inside ∧
      Balanced d rest := by
  -- a parenthesis that opens a group moves one more of them among the innermost
  induction ks generalizing n m with
  | nil =>
    rw [hm] at h
    cases balanced_nil_iff.1 h
  | cons k ks ih =>
    by_cases hopen : k = .symbol .leftParen
    · subst hopen
      obtain ⟨inside, rest, rfl, hinside, hrest⟩ := ih (balanced_open_iff.1 h)
        (show m + 1 = n + 1 + d + 1 by omega)
      exact ⟨_ :: inside, rest, rfl, balanced_open_iff.2 hinside, hrest⟩
    by_cases hclose : k = .symbol .rightParen
    · subst hclose
      obtain ⟨e, rfl, hks⟩ := balanced_close_iff.1 h
      cases n with
      | zero =>
        obtain rfl : e = d := by omega
        exact ⟨[], ks, rfl, balanced_nil_iff.2 rfl, hks⟩
      | succ n =>
        obtain ⟨inside, rest, rfl, hinside, hrest⟩ := ih hks (show e = n + d + 1 by omega)
        exact ⟨_ :: inside, rest, rfl, balanced_close_iff.2 ⟨n, rfl, hinside⟩, hrest⟩
    · obtain ⟨inside, rest, rfl, hinside, hrest⟩ := ih ((balanced_plain_iff hopen hclose).1 h) hm
      exact ⟨_ :: inside, rest, rfl, (balanced_plain_iff hopen hclose).2 hinside, hrest⟩

/-- A group is closed by one parenthesis only. -/
theorem Balanced.eq_of_append (h : Balanced d inside) (h' : Balanced d inside')
    (heq : inside ++ .symbol .rightParen :: rest = inside' ++ .symbol .rightParen :: rest') :
    inside = inside' ∧ rest = rest' := by
  induction inside generalizing d inside' with
  | nil =>
    obtain rfl := balanced_nil_iff.1 h
    cases inside' with
    | nil => exact ⟨rfl, (List.cons.inj heq).2⟩
    | cons k' ks' =>
      obtain rfl := (List.cons.inj heq).1
      obtain ⟨e, he, -⟩ := balanced_close_iff.1 h'
      cases he
  | cons k ks ih =>
    cases inside' with
    | nil =>
      obtain rfl := balanced_nil_iff.1 h'
      obtain rfl := (List.cons.inj heq).1
      obtain ⟨e, he, -⟩ := balanced_close_iff.1 h
      cases he
    | cons k' ks' =>
      obtain ⟨hk, hks⟩ := List.cons.inj heq
      subst hk
      obtain ⟨e, he, hinside⟩ := balanced_cons_iff.1 h
      obtain ⟨e', he', hinside'⟩ := balanced_cons_iff.1 h'
      obtain rfl : e = e' := by omega
      obtain ⟨rfl, rfl⟩ := ih hinside hinside' hks
      exact ⟨rfl, rfl⟩

/-! ## Groups -/

theorem closes_iff : Closes d ks ↔ Balanced d ks ∧ ∀ fault, .error fault ∉ ks := by
  constructor
  · intro h
    induction h with
    | nil => exact ⟨balanced_nil_iff.2 rfl, fun _ => List.not_mem_nil⟩
    | opens _ ih => exact ⟨balanced_open_iff.2 ih.1, by simpa using ih.2⟩
    | closes _ ih => exact ⟨balanced_close_iff.2 ⟨_, rfl, ih.1⟩, by simpa using ih.2⟩
    | plain hopen hclose hfault _ ih =>
      exact ⟨(balanced_plain_iff hopen hclose).2 ih.1, fun fault =>
        List.not_mem_cons_of_ne_of_not_mem (hfault fault).symm (ih.2 fault)⟩
  · rintro ⟨h, hfaults⟩
    induction ks generalizing d with
    | nil =>
      obtain rfl := balanced_nil_iff.1 h
      exact .nil
    | cons k ks ih =>
      have htail : ∀ fault, .error fault ∉ ks := fun fault hmem =>
        hfaults fault (List.mem_cons_of_mem k hmem)
      by_cases hopen : k = .symbol .leftParen
      · subst hopen
        exact .opens (ih (balanced_open_iff.1 h) htail)
      by_cases hclose : k = .symbol .rightParen
      · subst hclose
        obtain ⟨e, rfl, hks⟩ := balanced_close_iff.1 h
        exact .closes (ih hks htail)
      · exact .plain hopen hclose (fun fault hk => hfaults fault (hk ▸ List.mem_cons_self))
          (ih ((balanced_plain_iff hopen hclose).1 h) htail)

theorem Cursor.kinds_iterate_advance (n : Nat) (c : Cursor) :
    (Cursor.advance^[n] c).kinds = c.kinds.drop n := by
  induction n generalizing c with
  | zero => rfl
  | succ n ih => rw [Function.iterate_succ_apply, ih, kinds_advance, List.drop_tail]

theorem Cursor.kinds_iterate_advance_append (hc : c.kinds = ks ++ ls) :
    (Cursor.advance^[ks.length] c).kinds = ls := by
  rw [kinds_iterate_advance, hc, List.drop_left]

theorem closeGroup_of_closes {finish previous : Span} {ts : List Token} (h : Closes d inside)
    (hts : ts.map Token.kind = inside ++ .symbol .rightParen :: rest) :
    closeGroup finish d previous ts =
      .ok (Cursor.advance^[inside.length + 1] ⟨previous, ts, finish⟩) := by
  induction h generalizing previous ts with
  | nil =>
    obtain ⟨t, ts, rfl, ht, -⟩ := List.map_eq_cons_iff.1 hts
    exact closeGroup_close ht
  | opens _ ih =>
    obtain ⟨t, ts, rfl, ht, htail⟩ := List.map_eq_cons_iff.1 hts
    rw [closeGroup_open ht, ih htail]
    rfl
  | closes _ ih =>
    obtain ⟨t, ts, rfl, ht, htail⟩ := List.map_eq_cons_iff.1 hts
    rw [closeGroup_close ht, if_neg (Nat.succ_ne_zero _), Nat.succ_sub_one, ih htail]
    rfl
  | plain hopen hclose hfault _ ih =>
    obtain ⟨t, ts, rfl, rfl, htail⟩ := List.map_eq_cons_iff.1 hts
    rw [closeGroup_plain hopen hclose hfault, ih htail]
    rfl

theorem closeGroup_eq_ok_iff {finish previous : Span} {ts : List Token} :
    closeGroup finish d previous ts = .ok next ↔
      ∃ inside rest, ts.map Token.kind = inside ++ .symbol .rightParen :: rest ∧
        Closes d inside ∧ next = Cursor.advance^[inside.length + 1] ⟨previous, ts, finish⟩ := by
  constructor
  · intro h
    obtain ⟨inside, hts, hinside⟩ := closes_of_closeGroup h
    rw [closeGroup_of_closes hinside hts, Except.ok.injEq] at h
    exact ⟨inside, next.kinds, hts, hinside, h.symm⟩
  · rintro ⟨inside, rest, hts, hinside, rfl⟩
    exact closeGroup_of_closes hinside hts

theorem kinds_behind_group
    (hc : c.kinds = .symbol .leftParen :: (inside ++ .symbol .rightParen :: rest)) :
    (Cursor.advance^[inside.length + 2] c).kinds = rest := by
  rw [Cursor.kinds_iterate_advance, hc]
  simp

/-- A group is passed over if a parenthesis closes it and no faulty token stands before. -/
theorem skipGroup_iff : skipGroup c = .ok ((), next) ↔
    ∃ inside rest, c.kinds = .symbol .leftParen :: (inside ++ .symbol .rightParen :: rest) ∧
      Balanced 0 inside ∧ (∀ fault, .error fault ∉ inside) ∧
      next = Cursor.advance^[inside.length + 2] c ∧ next.kinds = rest := by
  rw [skipGroup_eq_ok_iff]
  constructor
  · rintro ⟨hkind, hclose⟩
    obtain ⟨inside, rest, hts, hinside, rfl⟩ := closeGroup_eq_ok_iff.1 hclose
    obtain ⟨hbalanced, hfaults⟩ := closes_iff.1 hinside
    have hc : c.kinds = .symbol .leftParen :: (inside ++ .symbol .rightParen :: rest) := by
      rw [Cursor.kinds_of_kind hkind nofun, Cursor.kinds, hts]
    exact ⟨inside, rest, hc, hbalanced, hfaults, rfl, kinds_behind_group hc⟩
  · rintro ⟨inside, rest, hc, hbalanced, hfaults, rfl, -⟩
    refine ⟨by rw [Cursor.kind_eq, hc]; rfl, ?_⟩
    exact closeGroup_of_closes (closes_iff.2 ⟨hbalanced, hfaults⟩)
      (c.kinds_advance.trans (congrArg List.tail hc))

/-! ## Ends of clauses -/

/-- A clause ends between tokens if all groups opened before are closed there, and the next token
ends a clause. -/
structure ClauseEnd (front back : List Token.Kind) : Prop where
  balanced : Balanced 0 front
  next : endsClause (back.headD .eof) = true

/-- No clause ends before the first `n` tokens have been passed over. -/
def NoEndBefore (n : Nat) (ks : List Token.Kind) : Prop :=
  ∀ front back, ks = front ++ back → ClauseEnd front back → n ≤ front.length

/-- Tokens split at the first end of a clause, with no faulty token before. -/
structure ClauseSplit (front back : List Token.Kind) : Prop where
  ends : ClauseEnd front back
  first : NoEndBefore front.length (front ++ back)
  faultless : ∀ fault, .error fault ∉ front

/-- Tokens in which, before any end of a clause, there is a faulty token, or a parenthesis that is
not closed. -/
inductive ClauseFails (ks : List Token.Kind) : Prop
  | fault {front back : List Token.Kind} {fault : Token.Fault}
    (hks : ks = front ++ .error fault :: back) (hfirst : NoEndBefore (front.length + 1) ks)
  | unclosed {front back : List Token.Kind} (hks : ks = front ++ .symbol .leftParen :: back)
    (hopen : ∀ inside rest, back = inside ++ .symbol .rightParen :: rest → ¬Balanced 0 inside)
    (hfirst : NoEndBefore (front.length + 1) ks)

theorem NoEndBefore.mono {m : Nat} (h : NoEndBefore n ks) (hm : m ≤ n) : NoEndBefore m ks :=
  fun front back hks hend => hm.trans (h front back hks hend)

/-- A token that stands before another one is among the first tokens. -/
theorem eq_append_cons_of_length (heq : front ++ back = ks ++ k :: ls)
    (hlt : ks.length + 1 ≤ front.length) : ∃ mid, front = ks ++ k :: mid ∧ ls = mid ++ back := by
  rw [List.append_eq_append_iff] at heq
  rcases heq with ⟨mid, rfl, -⟩ | ⟨mid, rfl, hmid⟩
  · rw [List.length_append] at hlt
    omega
  · cases mid with
    | nil => simp at hlt
    | cons l mid =>
      obtain ⟨rfl, rfl⟩ := List.cons.inj hmid
      exact ⟨mid, rfl, rfl⟩

theorem ClauseSplit.not_fails (h : ClauseSplit front back) : ¬ClauseFails (front ++ back) := by
  rintro (⟨hks, hfirst⟩ | ⟨hks, hopen, hfirst⟩)
  · obtain ⟨mid, rfl, -⟩ := eq_append_cons_of_length hks (hfirst front back rfl h.ends)
    exact h.faultless _ (List.mem_append_right _ List.mem_cons_self)
  · obtain ⟨mid, rfl, rfl⟩ := eq_append_cons_of_length hks (hfirst front back rfl h.ends)
    -- the end is outside of all groups, hence this one is closed before it
    obtain ⟨d, hmid⟩ := h.ends.balanced.exists_of_append
    obtain ⟨inside, rest, rfl, hinside, -⟩ :=
      (balanced_open_iff.1 hmid).exists_split (show d + 1 = 0 + d + 1 by omega)
    exact hopen inside (rest ++ back) (by simp) hinside

theorem ClauseSplit.unique (h : ClauseSplit front back) (h' : ClauseSplit front' back')
    (heq : front ++ back = front' ++ back') : front = front' ∧ back = back' :=
  List.append_inj heq (Nat.le_antisymm (h.first front' back' heq h'.ends)
    (h'.first front back heq.symm h.ends))

/-! ### Groups and single tokens on the way -/

/-- What is passed over at once on the way to the end of a clause. -/
inductive ClauseItem : List Token.Kind → Prop
  | token {k : Token.Kind} (hopen : k ≠ .symbol .leftParen) (hend : endsClause k = false) :
    ClauseItem [k]
  | group {inside : List Token.Kind} (h : Balanced 0 inside) :
    ClauseItem (.symbol .leftParen :: (inside ++ [.symbol .rightParen]))

theorem ClauseItem.endsClause (h : ClauseItem item) (rest : List Token.Kind) :
    endsClause ((item ++ rest).headD .eof) = false := by
  cases h with
  | token _ hend => exact hend
  | group => rfl

theorem ne_rightParen_of_endsClause (hk : endsClause k = false) : k ≠ .symbol .rightParen := by
  rintro rfl
  cases hk

/-- What is balanced before begins with the whole item. -/
theorem ClauseItem.eq_append (h : ClauseItem item) (hfront : Balanced 0 front)
    (hne : front ≠ []) (heq : item ++ rest = front ++ back) :
    ∃ front', front = item ++ front' ∧ Balanced 0 front' ∧ rest = front' ++ back := by
  obtain ⟨k, ks, rfl⟩ := List.exists_cons_of_ne_nil hne
  cases h with
  | token hopen hend =>
    obtain ⟨rfl, rfl⟩ := List.cons.inj heq
    exact ⟨ks, rfl, (balanced_plain_iff hopen (ne_rightParen_of_endsClause hend)).1 hfront, rfl⟩
  | @group inside hinside =>
    obtain ⟨rfl, hks⟩ := List.cons.inj heq
    obtain ⟨inside', front', rfl, hinside', hfront'⟩ :=
      (balanced_open_iff.1 hfront).exists_split (n := 0) (d := 0) rfl
    have hsame : inside ++ .symbol .rightParen :: rest =
        inside' ++ .symbol .rightParen :: (front' ++ back) := by
      simpa using hks
    obtain ⟨rfl, rfl⟩ := hinside.eq_of_append hinside' hsame
    exact ⟨front', by simp, hfront', rfl⟩

theorem ClauseItem.balanced_append (h : ClauseItem item) (hks : Balanced 0 ks) :
    Balanced 0 (item ++ ks) := by
  cases h with
  | token hopen hend =>
    exact (balanced_plain_iff hopen (ne_rightParen_of_endsClause hend)).2 hks
  | @group inside hinside =>
    have hclose : Balanced 1 (.symbol .rightParen :: ks) := balanced_close_iff.2 ⟨0, rfl, hks⟩
    have hgroup := balanced_open_iff.2 (hinside.append hclose)
    simpa using hgroup

theorem ClauseItem.noEndBefore (h : ClauseItem item) (hrest : NoEndBefore n rest) :
    NoEndBefore (item.length + n) (item ++ rest) := by
  intro front back heq hend
  by_cases hne : front = []
  · subst hne
    rw [List.nil_append] at heq
    have hnext := hend.next
    rw [← heq, h.endsClause] at hnext
    cases hnext
  · obtain ⟨front', rfl, hfront', rfl⟩ := h.eq_append hend.balanced hne heq
    have hle := hrest front' back rfl ⟨hfront', hend.next⟩
    rw [List.length_append]
    omega

theorem ClauseItem.split (h : ClauseItem item) (hfaults : ∀ fault, .error fault ∉ item)
    (hsplit : ClauseSplit front back) : ClauseSplit (item ++ front) back where
  ends := ⟨h.balanced_append hsplit.ends.balanced, hsplit.ends.next⟩
  first := by
    rw [List.append_assoc, List.length_append]
    exact h.noEndBefore hsplit.first
  faultless := fun fault hmem =>
    (List.mem_append.1 hmem).elim (hfaults fault) (hsplit.faultless fault)

theorem ClauseItem.fails (h : ClauseItem item) (hfails : ClauseFails rest) :
    ClauseFails (item ++ rest) := by
  cases hfails with
  | fault hks hfirst =>
    subst hks
    refine .fault (List.append_assoc _ _ _).symm ?_
    rw [List.length_append, Nat.add_assoc]
    exact h.noEndBefore hfirst
  | unclosed hks hopen hfirst =>
    subst hks
    refine .unclosed (List.append_assoc _ _ _).symm hopen ?_
    rw [List.length_append, Nat.add_assoc]
    exact h.noEndBefore hfirst

theorem ClauseItem.noEndWithin (h : ClauseItem item) (hn : n ≤ item.length)
    (rest : List Token.Kind) : NoEndBefore n (item ++ rest) :=
  (h.noEndBefore (n := 0) fun _ _ _ _ => Nat.zero_le _).mono hn

/-! ### Passing over a clause -/

theorem clauseFails_of_skipGroup (hc : c.kinds = .symbol .leftParen :: ks)
    (h : ∀ next, skipGroup c ≠ .ok ((), next)) : ClauseFails c.kinds := by
  by_cases hclosed : ∃ inside rest, ks = inside ++ .symbol .rightParen :: rest ∧ Balanced 0 inside
  · obtain ⟨inside, rest, rfl, hinside⟩ := hclosed
    have hfault : ∃ fault, .error fault ∈ inside := by
      by_contra hnone
      exact h _ (skipGroup_iff.2
        ⟨inside, rest, hc, hinside, not_exists.1 hnone, rfl, kinds_behind_group hc⟩)
    obtain ⟨fault, hfault⟩ := hfault
    obtain ⟨before, behind, hbefore⟩ := List.append_of_mem hfault
    have hks : c.kinds = (.symbol .leftParen :: before) ++
        .error fault :: (behind ++ .symbol .rightParen :: rest) := by
      rw [hc, hbefore]
      simp
    have hitem : c.kinds = .symbol .leftParen :: (inside ++ [.symbol .rightParen]) ++ rest := by
      rw [hc]
      simp
    refine .fault hks ?_
    rw [hitem]
    refine (ClauseItem.group hinside).noEndWithin ?_ rest
    rw [hbefore]
    simp only [List.length_cons, List.length_append]
    omega
  · have hks : c.kinds = [] ++ .symbol .leftParen :: ks := hc
    refine .unclosed hks (fun inside rest hclose hinside =>
      hclosed ⟨inside, rest, hclose, hinside⟩) fun front back heq hend => ?_
    cases front with
    | nil =>
      obtain rfl : back = .symbol .leftParen :: ks := heq.symm.trans hc
      cases hend.next
    | cons => simp

theorem skipPart_open (hc : c.kind = .symbol .leftParen) :
    skipPart c = (some <$> skipGroup) c := by
  rw [skipPart, kind_bind, hc]

theorem skipPart_plain (hc : c.kind ≠ .symbol .leftParen) :
    skipPart c = if endsClause c.kind then .ok (none, c) else (some <$> skipToken) c := by
  rw [skipPart, kind_bind]
  generalize c.kind = k at hc ⊢
  split
  · exact absurd rfl hc
  · split <;> rfl

/-- A round ends the loop at the end of a clause, or passes over a token or a group, or fails, and
then the whole loop has to fail. -/
theorem skipPart_cases (c : Cursor) :
    (endsClause c.kind = true ∧ skipPart c = .ok (none, c)) ∨
      (∃ item rest, ClauseItem item ∧ (∀ fault, .error fault ∉ item) ∧ c.kinds = item ++ rest ∧
        skipPart c = .ok (some (), Cursor.advance^[item.length] c)) ∨
      (∃ x, skipPart c = .error x) ∧ ClauseFails c.kinds := by
  by_cases hopen : c.kind = .symbol .leftParen
  · rw [skipPart_open hopen]
    cases hskip : skipGroup c with
    | error x =>
      refine .inr (.inr ⟨⟨x, some_map_eq_error_iff.2 hskip⟩,
        clauseFails_of_skipGroup (Cursor.kinds_of_kind hopen nofun) fun next hnext => ?_⟩)
      rw [hskip] at hnext
      cases hnext
    | ok r =>
      obtain ⟨_, next⟩ := r
      obtain ⟨inside, rest, hkinds, hinside, hfaults, rfl, -⟩ := skipGroup_iff.1 hskip
      refine .inr (.inl ⟨_, rest, .group hinside, by simpa using hfaults, by simp [hkinds], ?_⟩)
      rw [some_map_eq_ok_iff]
      exact ⟨(), rfl, by simpa using hskip⟩
  rw [skipPart_plain hopen]
  cases hend : endsClause c.kind with
  | true => exact .inl ⟨rfl, rfl⟩
  | false =>
    have hkinds := Cursor.kinds_of_kind (c := c) rfl (ne_eof_of_not_endsClause (by simp [hend]))
    have hitem := ClauseItem.token hopen hend
    by_cases hfault : ∃ fault, c.kind = .error fault
    · obtain ⟨fault, hfault⟩ := hfault
      refine .inr (.inr ⟨⟨_, some_map_eq_error_iff.2 (skipToken_eq_error hfault)⟩, ?_⟩)
      have hks : c.kinds = [] ++ .error fault :: c.advance.kinds := by
        rw [hkinds, hfault]
        rfl
      refine .fault hks ?_
      rw [hkinds]
      exact hitem.noEndWithin (Nat.le_refl 1) c.advance.kinds
    · refine .inr (.inl ⟨_, c.advance.kinds, hitem, fun fault hmem => ?_, hkinds, ?_⟩)
      · exact hfault ⟨fault, (List.mem_singleton.1 hmem).symm⟩
      · exact some_map_eq_ok_iff.2 ⟨(), rfl, skipToken_eq_ok (not_exists.1 hfault)⟩

/-- A clause is passed over up to its first end, or it has to fail. -/
theorem clause_runs_cases {x : Except Stop (List Unit × Cursor)}
    (h : LoopRuns skipPart c x) :
    (∃ front back units, c.kinds = front ++ back ∧ ClauseSplit front back ∧
      x = .ok (units, Cursor.advance^[front.length] c)) ∨
      (∃ y, x = .error y) ∧ ClauseFails c.kinds := by
  -- a round that is known to fail, to leave the loop or to go on rules out two of its three cases
  induction h with
  | fails h =>
    rcases skipPart_cases _ with ⟨-, hround⟩ | ⟨_, _, -, -, -, hround⟩ | ⟨-, hfails⟩
    · cases h.symm.trans hround
    · cases h.symm.trans hround
    · exact .inr ⟨⟨_, rfl⟩, hfails⟩
  | @leaves c next h =>
    rcases skipPart_cases c with ⟨hend, hround⟩ | ⟨_, _, -, -, -, hround⟩ | ⟨⟨_, hround⟩, -⟩
    · cases h.symm.trans hround
      rw [Cursor.kind_eq] at hend
      exact .inl ⟨[], c.kinds, [], rfl, ⟨⟨balanced_nil_iff.2 rfl, hend⟩,
        fun _ _ _ _ => Nat.zero_le _, fun _ => List.not_mem_nil⟩, rfl⟩
    · cases h.symm.trans hround
    · cases h.symm.trans hround
  | @goesOn c next _ x h _ ih =>
    rcases skipPart_cases c with ⟨-, hround⟩ | ⟨item, rest, hitem, hfaults, hc, hround⟩ |
      ⟨⟨_, hround⟩, -⟩
    · cases h.symm.trans hround
    · cases h.symm.trans hround
      rw [Cursor.kinds_iterate_advance_append hc] at ih
      rcases ih with ⟨front, back, units, rfl, hsplit, rfl⟩ | ⟨⟨e, rfl⟩, hfails⟩
      · refine .inl ⟨item ++ front, back, () :: units, hc.trans (List.append_assoc _ _ _).symm,
          hitem.split hfaults hsplit, ?_⟩
        rw [List.length_append, Nat.add_comm, Function.iterate_add_apply]
        rfl
      · rw [hc]
        exact .inr ⟨⟨e, rfl⟩, hitem.fails hfails⟩
    · cases h.symm.trans hround

theorem skipClause_cases (c : Cursor) :
    (∃ front back, c.kinds = front ++ back ∧ ClauseSplit front back ∧
      skipClause c = .ok ((), Cursor.advance^[front.length] c)) ∨
      (∃ x, skipClause c = .error x) ∧ ClauseFails c.kinds := by
  have hskip : skipClause c = (many skipPart c).map fun r => ((), r.2) := rfl
  rw [hskip]
  have hround : IsRound .clause 0 skipPart := skipPart_isRound
  rcases clause_runs_cases (hround.progresses.loopRuns c) with
    ⟨front, back, units, hc, hsplit, hruns⟩ | ⟨⟨e, hruns⟩, hfails⟩
  · exact .inl ⟨front, back, hc, hsplit, by rw [hruns]; rfl⟩
  · exact .inr ⟨⟨e, by rw [hruns]; rfl⟩, hfails⟩

theorem skipClause_iff : skipClause c = .ok ((), next) ↔
    ∃ front back, c.kinds = front ++ back ∧ ClauseSplit front back ∧
      next = Cursor.advance^[front.length] c ∧ next.kinds = back := by
  constructor
  · intro h
    rcases skipClause_cases c with ⟨front, back, hc, hsplit, hskip⟩ | ⟨⟨e, hskip⟩, -⟩
    · cases h.symm.trans hskip
      exact ⟨front, back, hc, hsplit, rfl, Cursor.kinds_iterate_advance_append hc⟩
    · cases h.symm.trans hskip
  · rintro ⟨front, back, hc, hsplit, rfl, -⟩
    rcases skipClause_cases c with ⟨front', back', hc', hsplit', hskip⟩ | ⟨-, hfails⟩
    · obtain ⟨rfl, rfl⟩ := hsplit.unique hsplit' (hc.symm.trans hc')
      exact hskip
    · rw [hc] at hfails
      exact absurd hfails hsplit.not_fails

theorem skipClause_error_iff : (∃ x, skipClause c = .error x) ↔ ClauseFails c.kinds := by
  rcases skipClause_cases c with ⟨front, back, hc, hsplit, hskip⟩ | ⟨hfailed, hfails⟩
  · rw [hskip, hc]
    exact iff_of_false (by simp) hsplit.not_fails
  · exact iff_of_true hfailed hfails

theorem skipClause_ne_endless : skipClause c ≠ .error .endless := by
  intro h
  obtain ⟨e, heq, -⟩ := (skipClause_steps (v := .statement) (d := 0)).error h
  cases heq

/-- A group is passed over exactly if it begins with the next token, a parenthesis closes it and no
faulty token stands before; the token behind that parenthesis is the next one then.  A clause is
passed over exactly if it has an end outside of all groups and no faulty token stands before the
first one, which is the next token then.  It fails exactly if a faulty token, or a parenthesis that
nothing closes, comes before any end; and it never runs into an endless loop. -/
theorem skip_exact (c : Cursor) :
    (∀ next, skipGroup c = .ok ((), next) ↔
      ∃ inside rest, c.kinds = .symbol .leftParen :: (inside ++ .symbol .rightParen :: rest) ∧
        Balanced 0 inside ∧ (∀ fault, .error fault ∉ inside) ∧
        next = Cursor.advance^[inside.length + 2] c ∧ next.kinds = rest) ∧
      (∀ next, skipClause c = .ok ((), next) ↔
        ∃ front back, c.kinds = front ++ back ∧ ClauseSplit front back ∧
          next = Cursor.advance^[front.length] c ∧ next.kinds = back) ∧
      ((∃ x, skipClause c = .error x) ↔ ClauseFails c.kinds) ∧
      skipClause c ≠ .error .endless :=
  ⟨fun _ => skipGroup_iff, fun _ => skipClause_iff, skipClause_error_iff, skipClause_ne_endless⟩

end SchemaTrail.Statement
