import SchemaTrail.Proofs.StepwiseEffects

/-!
# Rounds of loops

A round of a loop goes step by step, and if it goes on it passes over a token
(`Statement.IsRound`).  Both are seen from what the round does for each kind of the next token
(`Statement.IsRoundAt`).  A loop of such rounds goes step by step itself (`Statement.Steps.many`).
-/

namespace SchemaTrail.Statement

variable {α β : Type} {v : Setting} {d : Nat} {k : Token.Kind}

/-! ## Readers that pass over a token -/

section

variable {s : Reader β} {f : β → Reader α}

theorem TakesAt.bind (hs : TakesAt k s) (hf : ∀ b, Steps .statement 0 0 (f b)) :
    TakesAt k (s >>= f) := by
  intro c a next hc h
  obtain ⟨b, m, hb, h⟩ := read_bind_iff.1 h
  exact Nat.lt_of_le_of_lt ((hf b).length_le h) (hs c b m hc hb)

theorem takesAt_advance (hk : k ≠ .eof) : TakesAt k advance := by
  rintro c u next rfl h
  cases h
  exact Cursor.length_advance hk

theorem takesAt_skipToken (hk : k ≠ .eof) : TakesAt k skipToken := by
  rintro c a next rfl h
  by_cases hfault : ∃ fault, c.kind = .error fault
  · obtain ⟨fault, hfault⟩ := hfault
    cases (skipToken_eq_error hfault).symm.trans h
  · cases (skipToken_eq_ok fun fault heq => hfault ⟨fault, heq⟩).symm.trans h
    exact Cursor.length_advance hk

theorem takesAt_skipGroup (k : Token.Kind) : TakesAt k skipGroup :=
  fun _ _ _ _ h => length_skipGroup h

theorem takesAt_skipAll : TakesAt (.keyword .partition) skipAll := by
  intro c a next hc h
  obtain ⟨m, hm, hkinds⟩ := skipAll_eq c
  cases hm.symm.trans h
  have hle := (List.dropWhile_suffix (l := c.advance.kinds) (· ≠ .eof)).length_le
  rw [Cursor.kinds_of_kind hc nofun, List.dropWhile_cons_of_pos rfl] at hkinds
  rw [← hkinds, Cursor.kinds, Cursor.kinds, List.length_map, List.length_map] at hle
  exact Nat.lt_of_le_of_lt hle (Cursor.length_advance (by simp [hc]))

end

/-! ## Rounds -/

/-- A round of a loop where a token of the kind is next: it goes step by step, and if it goes on it
passes over a token. -/
structure IsRoundAt (v : Setting) (d : Nat) (k : Token.Kind) (round : Reader (Option α)) :
    Prop where
  steps : StepsAt v d d k round
  passes : ∀ c a next, c.kind = k → round c = .ok (some a, next) →
    k ≠ .eof ∧ next.tokens.length < c.tokens.length

/-- A round of a loop, whatever token is next. -/
structure IsRound (v : Setting) (d : Nat) (round : Reader (Option α)) : Prop where
  steps : Steps v d d round
  progresses : Progresses round

section

variable {s : Reader β} {f : β → Reader (Option α)} {g : Token.Kind → Reader (Option α)}
  {round round' : Reader (Option α)}

theorem isRoundAt_none (k : Token.Kind) : IsRoundAt v d k (pure none : Reader (Option α)) where
  steps := .pure none
  passes _ _ _ _ h := by cases h

theorem isRoundAt_unexpected (k : Token.Kind) (expected : String) :
    IsRoundAt v d k (unexpected expected : Reader (Option α)) where
  steps := steps_unexpected expected k
  passes _ _ _ _ h := by cases h

theorem IsRoundAt.ite {p : Prop} [Decidable p] (h : p → IsRoundAt v d k round)
    (h' : ¬p → IsRoundAt v d k round') : IsRoundAt v d k (if p then round else round') := by
  split
  next hp => exact h hp
  next hp => exact h' hp

/-- A round that begins with a reader that passes over the next token. -/
theorem isRoundAt_bind (hk : k ≠ .eof) (hs : StepsAt v d d k s) (htakes : TakesAt k s)
    (hf : ∀ b, Steps v d d (f b)) : IsRoundAt v d k (s >>= f) where
  steps := hs.andThen hf
  passes c a next hc h :=
    ⟨hk, htakes.bind (fun b => (hf b).statement 0 0) c (some a) next hc h⟩

theorem isRoundAt_afterAdvance (hk : isPlain k = true) (h : Steps v d d round) :
    IsRoundAt v d k (afterAdvance round) :=
  have hwithin := standsWithin_of_isPlain hk
  isRoundAt_bind (ne_eof_of_standsWithin hwithin)
    (.advance hwithin (.keeps (keepsDepth_of_isPlain hk) d))
    (takesAt_advance (ne_eof_of_standsWithin hwithin)) fun _ => h

theorem isRoundAt_skipGroup {f : Unit → Reader (Option α)} (hf : ∀ u, Steps v d d (f u)) :
    IsRoundAt v d (.symbol .leftParen) (skipGroup >>= f) :=
  isRoundAt_bind nofun .group (takesAt_skipGroup _) hf

theorem isRoundAt_skipToken {f : Unit → Reader (Option α)} (hopen : k ≠ .symbol .leftParen)
    (hf : ∀ u, Steps v d d (f u)) :
    IsRoundAt v d k (if endsClause k then pure none else skipToken >>= f) := by
  refine IsRoundAt.ite (fun _ => isRoundAt_none k) fun hk => ?_
  have hne := ne_eof_of_not_endsClause hk
  exact isRoundAt_bind hne (stepsAt_skipToken (Bool.eq_false_iff.2 hk) hopen)
    (takesAt_skipToken hne) hf

theorem isRoundAt_skipToken_statement {f : Unit → Reader (Option α)}
    (hf : ∀ u, Steps .statement d d (f u)) :
    IsRoundAt .statement d k (if endsStatement k then pure none else skipToken >>= f) := by
  refine IsRoundAt.ite (fun _ => isRoundAt_none k) fun hk => ?_
  have hne := ne_eof_of_not_endsStatement hk
  exact isRoundAt_bind hne (stepsAt_skipToken_statement (Bool.eq_false_iff.2 hk) d d)
    (takesAt_skipToken hne) hf

theorem isRound_none (v : Setting) (d : Nat) : IsRound v d (pure none : Reader (Option α)) where
  steps := steps_pure v d none
  progresses _ _ _ h := by cases h

theorem progresses_kind (hg : ∀ k, IsRoundAt v d k (g k)) : Progresses (kind >>= g) :=
  fun c a next h => (hg c.kind).passes c a next rfl h

theorem isRound_kind_statement (hg : ∀ k, IsRoundAt .statement d k (g k)) :
    IsRound .statement d (kind >>= g) where
  steps := steps_kind_statement fun k => (hg k).steps
  progresses := progresses_kind hg

theorem isRound_kind (hg : ∀ k, IsRoundAt v d k (g k)) (hcomma : g (.symbol .comma) = g .eof)
    (hparen : g (.symbol .rightParen) = g .eof) (hsemicolon : g (.symbol .semicolon) = g .eof)
    (hcharacter : g (.keyword .character) = g (.keyword .charset))
    (hbyte : ∀ word, g (.identifier word) = g (.keyword .charset)) :
    IsRound v d (kind >>= g) where
  steps := steps_kind (fun k => (hg k).steps) hcomma hparen hsemicolon hcharacter hbyte
  progresses := progresses_kind hg

/-- A round that reads the tokens that say how texts are encoded. -/
theorem isRound_kind_of_takes (hg : ∀ k, IsRoundAt v d k (g k))
    (hcomma : g (.symbol .comma) = g .eof) (hparen : g (.symbol .rightParen) = g .eof)
    (hsemicolon : g (.symbol .semicolon) = g .eof)
    (htakes : ∀ k, beginsEncoding k = true → TakesAt k (g k)) : IsRound v d (kind >>= g) where
  steps := steps_kind_of_takes (fun k => (hg k).steps) hcomma hparen hsemicolon htakes
  progresses := progresses_kind hg

/-! ### What is read behind a token -/

/-- A round that goes on if a token is next, which it passes over. -/
theorem progresses_takeIf {wanted : Token.Kind → Bool} (hwanted : wanted .eof = false)
    {f : Bool → Reader (Option α)} (hyes : Steps .statement 0 0 (f true))
    (hno : Progresses (f false)) : Progresses (takeIf wanted >>= f) := by
  intro c a next h
  rw [takeIf_bind] at h
  split at h
  next htaken =>
    have hne : c.kind ≠ .eof := fun heof => by
      rw [heof, hwanted] at htaken
      cases htaken
    exact ⟨hne, Nat.lt_of_le_of_lt (hyes.length_le h) (Cursor.length_advance hne)⟩
  next => exact hno c a next h

theorem progresses_takeIf_bind {wanted : Token.Kind → Bool} (hwanted : wanted .eof = false)
    {f : Bool → Reader β} {g : β → Reader (Option α)} (hyes : Steps .statement 0 0 (f true >>= g))
    (hno : Progresses (f false >>= g)) : Progresses (takeIf wanted >>= f >>= g) := by
  rw [LawfulMonad.bind_assoc]
  exact progresses_takeIf hwanted hyes hno

/-- A round that reads something behind a token, if the token is next, and is left otherwise. -/
theorem isRound_behind {wanted : Token.Kind → Bool} (h : Steps v d d round)
    (hwanted : ∀ k, wanted k = true →
      standsWithin k = true ∧ keepsDepth k = true ∧ v.alike d k = false) :
    IsRound v d (do if ← takeIf wanted then round else return none) where
  steps := steps_takeIf_bind
    (fun k hk => .andThen (.advance (hwanted k hk).1 (.keeps (hwanted k hk).2.1 d)) fun _ => h)
    (steps_pure v d none) fun k hk => (hwanted k hk).2.2
  progresses := progresses_takeIf
    (Bool.eq_false_iff.2 fun heof => ne_eof_of_standsWithin (hwanted _ heof).1 rfl)
    (h.statement 0 0) (isRound_none v d).progresses

theorem isRound_behind_keyword {k : Keyword} (h : Steps v d d round)
    (hk : v = .definition → beginsEncoding (.keyword k) = false) :
    IsRound v d (do if ← takeKeyword k then round else return none) :=
  isRound_behind h fun l hl => by
    rw [of_decide_eq_true hl]
    exact ⟨rfl, rfl, Setting.alike_eq_false rfl hk⟩

theorem isRound_behind_symbol {s : Token.Symbol} (h : Steps v d d round)
    (hs : standsWithin (.symbol s) = true) (hkeeps : keepsDepth (.symbol s) = true)
    (halike : v.alike d (.symbol s) = false) :
    IsRound v d (do if ← takeSymbol s then round else return none) :=
  isRound_behind h fun l hl => by
    rw [of_decide_eq_true hl]
    exact ⟨hs, hkeeps, halike⟩

theorem Steps.many (h : IsRound v d round) : Steps v d d (many round) :=
  fun _ => .loop h.progresses h.steps

end

end SchemaTrail.Statement
