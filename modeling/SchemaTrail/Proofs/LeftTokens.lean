import SchemaTrail.Proofs.Coverage
import SchemaTrail.Proofs.RelevantStatements

/-!
# Tokens that readers leave

What a reader passes over stands in front of what it leaves (`Statement.Leaves`).  So a statement
that makes requests has been read to its end (`Statement.read_to_end`).
-/

namespace SchemaTrail.Statement

open Outcome

variable {c next : Cursor} {ks left : List Token.Kind}

/-- No tokens are left where none is next, unless the end is one of them. -/
theorem Cursor.kinds_eq_nil (hk : c.kind = .eof) (heof : .eof ∉ c.kinds) : c.kinds = [] := by
  rw [kind_eq] at hk
  cases hkinds : c.kinds with
  | nil => rfl
  | cons k ks =>
    rw [hkinds] at hk heof
    exact absurd (hk ▸ List.mem_cons_self) heof

/-! ## What may be passed over -/

/-- A token between others is within a group, whose parentheses are balanced. -/
def WithinGroup (k : Token.Kind) (before after : List Token.Kind) : Prop :=
  ∃ front inside inside' back, before = front ++ .symbol .leftParen :: inside ∧
    after = inside' ++ .symbol .rightParen :: back ∧ Closes 0 (inside ++ k :: inside')

/-- Kinds of tokens of which none is faulty, and each semicolon within a group. -/
structure IsPassable (ks : List Token.Kind) : Prop where
  no_fault : ∀ fault, .error fault ∉ ks
  within_group : ∀ before after, ks = before ++ .symbol .semicolon :: after →
    WithinGroup (.symbol .semicolon) before after

theorem Closes.no_fault {depth : Nat} (h : Closes depth ks) (fault : Token.Fault) :
    .error fault ∉ ks := by
  induction h with
  | nil => exact List.not_mem_nil
  | opens _ ih => exact List.not_mem_cons_of_ne_of_not_mem nofun ih
  | closes _ ih => exact List.not_mem_cons_of_ne_of_not_mem nofun ih
  | plain _ _ hfault _ ih => exact List.not_mem_cons_of_ne_of_not_mem (hfault fault).symm ih

theorem isPassable_nil : IsPassable [] :=
  ⟨fun _ => List.not_mem_nil, fun before after h => by cases before <;> cases h⟩

theorem WithinGroup.append {k : Token.Kind} {before after : List Token.Kind}
    (h : WithinGroup k before after) (ks : List Token.Kind) :
    WithinGroup k (ks ++ before) after := by
  obtain ⟨front, inside, inside', back, rfl, hafter, hclosed⟩ := h
  exact ⟨ks ++ front, inside, inside', back, (List.append_assoc _ _ _).symm, hafter, hclosed⟩

theorem IsPassable.token {k : Token.Kind} (hk : standsWithin k = true) (h : IsPassable ks) :
    IsPassable (k :: ks) := by
  refine ⟨fun fault => List.not_mem_cons_of_ne_of_not_mem ?_ (h.no_fault fault),
    fun before after heq => ?_⟩
  · rintro rfl
    cases hk
  · cases before with
    | nil =>
      cases heq
      cases hk
    | cons l before =>
      obtain ⟨rfl, htail⟩ := List.cons.inj heq
      exact (h.within_group before after htail).append [k]

theorem IsPassable.group {inside : List Token.Kind} (hinside : Closes 0 inside)
    (h : IsPassable ks) :
    IsPassable (.symbol .leftParen :: (inside ++ .symbol .rightParen :: ks)) := by
  refine ⟨fun fault hmem => ?_, fun before after heq => ?_⟩
  · rcases List.mem_cons.1 hmem with hmem | hmem
    · cases hmem
    rcases List.mem_append.1 hmem with hmem | hmem
    · exact hinside.no_fault fault hmem
    rcases List.mem_cons.1 hmem with hmem | hmem
    · cases hmem
    · exact h.no_fault fault hmem
  · cases before with
    | nil => cases heq
    | cons l before =>
      obtain ⟨rfl, htail⟩ := List.cons.inj heq
      rcases List.append_eq_append_iff.1 htail with ⟨mid, rfl, hmid⟩ | ⟨mid, rfl, hmid⟩
      · -- The semicolon is behind the group.
        cases mid with
        | nil => cases hmid
        | cons l mid =>
          obtain ⟨rfl, hbehind⟩ := List.cons.inj hmid
          have hwithin := (h.within_group mid after hbehind).append
            (.symbol .leftParen :: (inside ++ [.symbol .rightParen]))
          rwa [List.cons_append, List.append_assoc, List.singleton_append] at hwithin
      · cases mid with
        | nil => cases hmid
        | cons l inside' =>
          obtain ⟨rfl, rfl⟩ := List.cons.inj hmid
          exact ⟨[], before, inside', ks, rfl, rfl, hinside⟩

theorem Leaves.exists_passable (h : Leaves ks left) :
    ∃ front back, ks = front ++ back ∧ IsPassable front ∧
      (back = left ∨ ∃ rest, back = .keyword .partition :: rest) := by
  induction h with
  | refl ks => exact ⟨[], ks, rfl, isPassable_nil, .inl rfl⟩
  | token hk _ ih =>
    obtain ⟨front, back, rfl, hfront, hback⟩ := ih
    exact ⟨_ :: front, back, rfl, hfront.token hk, hback⟩
  | group hinside _ ih =>
    obtain ⟨front, back, rfl, hfront, hback⟩ := ih
    exact ⟨_, back, by simp, hfront.group hinside, hback⟩
  | rest ks => exact ⟨[], _, rfl, isPassable_nil, .inr ⟨ks, rfl⟩⟩

/-! ## Whole statements -/

theorem kinds_tokenize (statement : String) :
    (Token.tokenize statement).map Token.kind = (Cursor.ofStatement statement).kinds ++ [.eof] ∧
      .eof ∉ (Cursor.ofStatement statement).kinds := by
  obtain ⟨front, heq, hfront, -⟩ :=
    (Token.covers_lexemes 0 0 statement.toList).exists_concat
  have hkinds : (Token.tokenize statement).map Token.kind = front.map Token.kind ++ [.eof] := by
    rw [Token.tokenize, heq, List.map_append]
    rfl
  have hne : ∀ k ∈ front.map Token.kind, k ≠ .eof := by
    rintro k hk
    obtain ⟨t, ht, rfl⟩ := List.mem_map.1 hk
    exact (hfront t ht).1
  have hcode : (Cursor.ofStatement statement).kinds = front.map Token.kind := by
    rw [Cursor.kinds_ofStatement, Token.code, ← Token.map_kind_tokenize, hkinds,
      List.filter_append]
    simpa using hne
  rw [hkinds, hcode]
  exact ⟨rfl, fun hmem => hne _ hmem rfl⟩

theorem kinds_of_expectEnd {u : Unit} (h : expectEnd c = .ok (u, next)) (heof : .eof ∉ c.kinds) :
    c.kinds = [] ∨ c.kinds = [.symbol .semicolon] := by
  obtain ⟨_, m, htake, h⟩ := read_bind_iff.1 h
  obtain ⟨taken, htake⟩ := discard_eq_ok_iff.1 htake
  rw [kind_bind] at h
  split at h
  next hm =>
    rw [takeSymbol, takeIf_eq] at htake
    split at htake
    next hsemicolon =>
      cases htake
      have hkinds := Cursor.kinds_of_kind (of_decide_eq_true hsemicolon) (by decide)
      rw [hkinds] at heof ⊢
      exact .inr (congrArg _ (Cursor.kinds_eq_nil hm (List.not_mem_of_not_mem_cons heof)))
    next =>
      cases htake
      exact .inl (Cursor.kinds_eq_nil hm heof)
  next => cases h

/-- How a statement may end behind its last passable token. -/
def IsLast (back : List Token.Kind) : Prop :=
  back = [] ∨ back = [.symbol .semicolon] ∨ ∃ rest, back = .keyword .partition :: rest

/-- At the end of a statement nothing but a tail that begins with `PARTITION` is faulty. -/
theorem IsLast.partition_mem {back before after : List Token.Kind} {fault : Token.Fault}
    (hback : IsLast back) (h : back ++ [.eof] = before ++ .error fault :: after) :
    .keyword .partition ∈ before := by
  have hmem : .error fault ∈ back ++ [.eof] := h ▸ by simp
  rcases hback with rfl | rfl | ⟨rest, rfl⟩
  · simp at hmem
  · simp at hmem
  · cases before with
    | nil => cases h
    | cons k before =>
      obtain ⟨rfl, -⟩ := List.cons.inj h
      exact List.mem_cons_self

variable {selected : Option String} {statement : String} {requests : List Request}

/-- A statement that makes requests is read to its end: its tokens are passable up to a last
semicolon or to a tail that begins with `PARTITION`, and every faulty one is behind `PARTITION`. -/
theorem read_to_end (h : read selected statement = .ok requests) (hrequests : requests ≠ []) :
    let ks := (Token.tokenize statement).map Token.kind
    (∃ front back, ks = front ++ back ++ [.eof] ∧ IsPassable front ∧ IsLast back) ∧
      ∀ before fault after, ks = before ++ .error fault :: after →
        .keyword .partition ∈ before := by
  intro ks
  obtain ⟨hks, heof⟩ := kinds_tokenize statement
  obtain ⟨answer, next, hread, hanswer⟩ := read_eq_ok_iff.1 h
  obtain ⟨m, hend⟩ : ∃ m, expectEnd next = .ok ((), m) := by
    rcases hanswer with ⟨-, hnil⟩ | ⟨-, hend⟩
    · exact absurd hnil hrequests
    · exact hend
  obtain ⟨front, back, hsplit, hfront, hleft⟩ :=
    ((readStatement_steps selected).leaves hread).exists_passable
  have hback : IsLast back := by
    rcases hleft with rfl | hpartition
    · rcases kinds_of_expectEnd hend fun hmem => heof (hsplit ▸ List.mem_append_right _ hmem)
        with hnil | hsemicolon
      · exact .inl hnil
      · exact .inr (.inl hsemicolon)
    · exact .inr (.inr hpartition)
  have hks : ks = front ++ (back ++ [.eof]) := by rw [← List.append_assoc, ← hsplit, ← hks]
  refine ⟨⟨front, back, by rw [hks, List.append_assoc], hfront, hback⟩,
    fun before fault after hfault => ?_⟩
  rw [hks] at hfault
  rcases List.append_eq_append_iff.1 hfault with ⟨mid, rfl, hmid⟩ | ⟨mid, rfl, hmid⟩
  · exact List.mem_append_right _ (hback.partition_mem hmid)
  · cases mid with
    | nil => exact absurd (@IsLast.partition_mem back [] _ _ hback hmid.symm) List.not_mem_nil
    | cons k mid =>
      obtain ⟨rfl, -⟩ := List.cons.inj hmid
      exact absurd (by simp) (hfront.no_fault fault)

/-- A group holds a semicolon, and a text in the tail is not closed. -/
theorem read_to_end_partition :
    let statement := "CREATE TABLE d.t (c int DEFAULT (1; 2)) PARTITION BY KEY; 'a"
    let ks := (Token.tokenize statement).map Token.kind
    ∃ requests, read none statement = .ok requests ∧ requests.length = 1 ∧
      .error .unterminatedString ∈ ks ∧
      (∃ front back, ks = front ++ back ++ [.eof] ∧ IsPassable front ∧ IsLast back) ∧
      ∀ before fault after, ks = before ++ .error fault :: after →
        .keyword .partition ∈ before := by
  intro statement ks
  have hread : (read none statement).toOption.map List.length = some 1 := by decide +kernel
  obtain ⟨requests, hrequests, hlength⟩ := Option.map_eq_some_iff.1 hread
  have hok := toOption_eq_some_iff.1 hrequests
  exact ⟨requests, hok, hlength, by decide +kernel,
    read_to_end hok (List.ne_nil_of_length_pos (by rw [hlength]; exact Nat.one_pos))⟩

end SchemaTrail.Statement
