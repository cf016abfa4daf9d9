import SchemaTrail.Proofs.ReaderSteps

/-!
# Readers that go step by step

All that a reader does is to look at the kind of the next token, to pass over single tokens, over
whole groups or, from `PARTITION` on, over all that are left, to fail, and to run loops whose rounds
pass over tokens (`Statement.StepsAt`).  Each reader is taken apart once; what follows for all of
them is proved by induction on the steps.

How a reader depends on what stands behind the tokens that it reads is seen in three settings
(`Statement.Setting`).  A clause may end behind its tokens in several ways, which a reader of a
clause does not tell apart; here the steps also say how many groups are open.  Within the definition
of a column, a reader does not tell apart the attributes that say how texts are encoded, unless it
reads them.  Within a statement nothing of the kind is asked for.
-/

namespace SchemaTrail

/-- An error that is to blame on the text of a statement alone. -/
def SchemaError.OfStatement (e : SchemaError) : Prop :=
  e.errorClass = .syntactic ∨ e.errorClass = .unsupportedType

namespace Statement

/-! ## Kinds of tokens -/

/-- Whether a token may stand within a statement, outside of groups. -/
def standsWithin : Token.Kind → Bool
  | .symbol .semicolon | .eof | .error _ => false
  | _ => true

/-- Whether a token leaves as many groups open as there are. -/
def keepsDepth : Token.Kind → Bool
  | .symbol .leftParen | .symbol .rightParen | .eof => false
  | _ => true

/-- Whether a token may stand within a clause and says nothing of its groups and its end. -/
def isPlain : Token.Kind → Bool
  | .symbol .comma | .symbol .leftParen | .symbol .rightParen | .symbol .semicolon | .eof
  | .error _ => false
  | _ => true

/-- Whether a token begins an attribute that says how texts are encoded. -/
def beginsEncoding : Token.Kind → Bool
  | .keyword .character | .keyword .charset => true
  | .identifier word => Text.equalIgnoringCase word "byte"
  | _ => false

variable {α β : Type} {c next : Cursor} {k : Token.Kind} {x : Content}
  {xs w t t' tail : List Content} {d d₁ d' : Nat}

theorem ne_eof_of_standsWithin (hk : standsWithin k = true) : k ≠ .eof := by
  rintro rfl
  cases hk

theorem ne_eof_of_not_endsClause (hk : ¬endsClause k = true) : k ≠ .eof := by
  rintro rfl
  exact hk rfl

theorem ne_eof_of_not_endsStatement (hk : ¬endsStatement k = true) : k ≠ .eof := by
  rintro rfl
  exact hk rfl

theorem standsWithin_of_isPlain (hk : isPlain k = true) : standsWithin k = true := by
  unfold isPlain at hk
  unfold standsWithin
  split at hk <;> simp_all

theorem keepsDepth_of_isPlain (hk : isPlain k = true) : keepsDepth k = true := by
  unfold isPlain at hk
  unfold keepsDepth
  split at hk <;> simp_all

theorem endsClause_of_isPlain (hk : isPlain k = true) : endsClause k = false := by
  unfold isPlain at hk
  unfold endsClause
  split at hk <;> simp_all

theorem ne_paren_of_keepsDepth (hk : keepsDepth k = true) :
    k ≠ .symbol .leftParen ∧ k ≠ .symbol .rightParen := by
  constructor <;> rintro rfl <;> cases hk

/-- What reads the same at three ends of a clause as at the end of the statement does so at all. -/
theorem forall_endsClause {g : Token.Kind → β} (hcomma : g (.symbol .comma) = g .eof)
    (hparen : g (.symbol .rightParen) = g .eof) (hsemicolon : g (.symbol .semicolon) = g .eof) :
    ∀ k, endsClause k = true → g k = g .eof := by
  intro k hk
  unfold endsClause at hk
  split at hk
  · exact hcomma
  · exact hparen
  · exact hsemicolon
  · rfl
  · cases hk

theorem forall_beginsEncoding {P : Token.Kind → Prop} (hcharacter : P (.keyword .character))
    (hcharset : P (.keyword .charset))
    (hbyte : ∀ word, Text.equalIgnoringCase word "byte" = true → P (.identifier word)) :
    ∀ k, beginsEncoding k = true → P k := by
  intro k hk
  unfold beginsEncoding at hk
  split at hk
  · exact hcharacter
  · exact hcharset
  next word => exact hbyte word hk
  · cases hk

/-! ## Tokens of clauses -/

/-- A token leads from a number of open groups to another. -/
inductive Leads : Nat → Token.Kind → Nat → Prop
  | opens (depth : Nat) : Leads depth (.symbol .leftParen) (depth + 1)
  | closes (depth : Nat) : Leads (depth + 1) (.symbol .rightParen) depth
  | keeps {k : Token.Kind} (hk : keepsDepth k = true) (depth : Nat) : Leads depth k depth

/-- The tokens of clauses where `depth` groups are open: these are closed, and all others that are
opened.  No semicolon and no `PARTITION` is among them. -/
inductive Within : Nat → List Content → Prop
  | nil : Within 0 []
  | opens {depth : Nat} {text : String} {xs : List Content} (h : Within (depth + 1) xs) :
    Within depth ((.symbol .leftParen, text) :: xs)
  | closes {depth : Nat} {text : String} {xs : List Content} (h : Within depth xs) :
    Within (depth + 1) ((.symbol .rightParen, text) :: xs)
  | plain {depth : Nat} {x : Content} {xs : List Content} (hx : keepsDepth x.1 = true)
    (hsemicolon : x.1 ≠ .symbol .semicolon) (hpartition : x.1 ≠ .keyword .partition)
    (h : Within depth xs) : Within depth (x :: xs)

/-- What may stand behind a clause that is a statement's only one: nothing, or the parenthesis that
closes the group of the clause. -/
inductive IsTail : List Content → Prop
  | nil : IsTail []
  | rightParen (text : String) : IsTail [(.symbol .rightParen, text)]

theorem IsTail.endsClause (h : IsTail tail) : endsClause (headKind tail) = true := by
  cases h <;> rfl

theorem Within.lead (h : Within d (x :: xs)) (hx : Leads d x.1 d') : Within d' xs := by
  obtain ⟨k, text⟩ := x
  cases h with
  | opens h =>
    cases hx with
    | opens => exact h
    | keeps hk => cases hk
  | closes h =>
    cases hx with
    | closes => exact h
    | keeps hk => cases hk
  | plain hx' _ _ h =>
    cases hx with
    | opens => cases hx'
    | closes => cases hx'
    | keeps => exact h

theorem Within.advance (h : Within d (x :: xs)) (hx : keepsDepth x.1 = true) : Within d xs :=
  h.lead (.keeps hx d)

theorem Within.ne_partition (h : Within d (x :: xs)) : x.1 ≠ .keyword .partition := by
  cases h with
  | opens => simp
  | closes => simp
  | plain _ _ hpartition => exact hpartition

/-- A token that may be passed over at this depth is one of the clause, not of its tail. -/
theorem Within.ne_nil_of_leads (h : Within d w) (htail : IsTail tail)
    (hk : Leads d (headKind (w ++ tail)) d') (heof : headKind (w ++ tail) ≠ .eof) : w ≠ [] := by
  rintro rfl
  cases h
  cases htail with
  | nil => exact heof rfl
  | rightParen =>
    cases hk with
    | keeps hk => cases hk

/-- Tokens that a reader cannot tell apart without reading them: none at all, or such as begin an
attribute of the encoding. -/
def Interchangeable (t t' : List Content) : Prop :=
  t = [] ∧ t' = [] ∨ beginsEncoding (headKind t) = true ∧ beginsEncoding (headKind t') = true

/-! ## Settings -/

/-- Where a reader is looked at. -/
inductive Setting where
  /-- In a statement, where nothing is asked for of what follows. -/
  | statement
  /-- In a clause, behind which a statement may go on or end. -/
  | clause
  /-- In the definition of a column, among whose attributes are some of the encoding. -/
  | definition

namespace Setting

/-- Whether a token is of those that a reader does not tell apart, where `depth` groups are open. -/
def alike : Setting → Nat → Token.Kind → Bool
  | statement, _, _ => false
  | clause, depth, k => depth = 0 && endsClause k
  | definition, _, k => beginsEncoding k

/-- Tokens that a reader is to read, up to a tail that is not to be touched. -/
def Front : Setting → Nat → List Content → List Content → Prop
  | statement, _, _, _ => False
  | clause, depth, w, t => Within depth w ∧ IsTail t
  | definition, _, _, _ => True

/-- A tail may stand in the place of another. -/
def Swaps : Setting → List Content → List Content → Prop
  | statement, _, _ => False
  | clause, _, t' => endsClause (headKind t') = true
  | definition, t, t' => Interchangeable t t'

/-- A reader has not touched the tail.  In a clause it cannot. -/
def Stops : Setting → List Content → Cursor → Prop
  | definition, t, next => t.length ≤ next.contents.length
  | _, _, _ => True

end Setting

/-- Where a token of the kind is next, a reader reads the same if another tail stands in the place
of one that it does not touch. -/
def Exchanges (v : Setting) (d d' : Nat) (k : Token.Kind) (r : Reader α) : Prop :=
  ∀ c a next w t, c.kind = k → v.Front d w t → v.Stops t next → c.contents = w ++ t →
    r c = .ok (a, next) →
      ∃ left, left <:+ w ∧ v.Front d' left t ∧ next.contents = left ++ t ∧
        ∀ t', v.Swaps t t' → ReadsContents r (w ++ t') a (left ++ t')

/-- Where a token of the kind is next, a reader that gives a value passes over it. -/
def TakesAt (k : Token.Kind) (r : Reader α) : Prop :=
  ∀ c a next, c.kind = k → r c = .ok (a, next) → next.tokens.length < c.tokens.length

/-! ## Steps -/

/-- What a reader does where a token of the kind is next.  It begins where `d` groups are open and
ends where `d'` are. -/
inductive StepsAt : Setting → Nat → Nat → Token.Kind → {α : Type} → Reader α → Prop
  | pure {v : Setting} {d : Nat} {k : Token.Kind} {α : Type} (a : α) : StepsAt v d d k (pure a)
  | fail {v : Setting} {d d' : Nat} {k : Token.Kind} {α : Type} {e : Cursor → SchemaError}
    (he : ∀ c, (e c).OfStatement) : StepsAt v d d' k (fail e : Reader α)
  /-- What follows depends on the kind of the next token, and tokens that are alike are not told
  apart unless they are read. -/
  | kind {v : Setting} {d d' : Nat} {k : Token.Kind} {α : Type} {g : Token.Kind → Reader α}
    (hg : StepsAt v d d' k (g k))
    (halike : v.alike d k = true → (∀ k', v.alike d k' = true → g k' = g k) ∨ TakesAt k (g k)) :
    StepsAt v d d' k (kind >>= g)
  /-- The next token stands for something, by its kind and its text, or something else is read. -/
  | readAsOr {v : Setting} {d : Nat} {k : Token.Kind} {α : Type}
    {f : Token.Kind → String → Option α} {other : Reader α}
    (hf : ∀ k text a, f k text = some a → isPlain k = true) (hother : StepsAt v d d k other)
    (hfails : v = .definition → ∀ c a next, other c ≠ .ok (a, next)) :
    StepsAt v d d k (readAsOr f other)
  | advance {v : Setting} {d d' : Nat} {k : Token.Kind} (hk : standsWithin k = true)
    (hleads : Leads d k d') : StepsAt v d d' k advance
  | group {v : Setting} {d : Nat} {k : Token.Kind} : StepsAt v d d k skipGroup
  /-- All tokens that are left belong to a partition clause. -/
  | rest {v : Setting} {d : Nat} (hv : v ≠ .definition) :
    StepsAt v d d (.keyword .partition) skipAll
  | bind {v : Setting} {d d₁ d' : Nat} {k : Token.Kind} {α β : Type} {r : Reader β}
    {f : β → Reader α} (hr : StepsAt v d d₁ k r)
    (hf : ∀ c b next, c.kind = k → r c = .ok (b, next) → StepsAt v d₁ d' next.kind (f b)) :
    StepsAt v d d' k (r >>= f)
  | loop {v : Setting} {d : Nat} {k : Token.Kind} {α : Type} {round : Reader (Option α)}
    (hround : Progresses round) (h : ∀ k, StepsAt v d d k round) : StepsAt v d d k (many round)
  /-- Only for clauses the open groups matter. -/
  | shift {v : Setting} {d d' e e' : Nat} {k : Token.Kind} {α : Type} {r : Reader α}
    (hv : v ≠ .clause) (h : StepsAt v d d' k r) : StepsAt v e e' k r
  /-- The steps of a reader may tell tokens apart that are alike, though what it reads in the end is
  the same for them. -/
  | known {v : Setting} {d d' : Nat} {k : Token.Kind} {α : Type} {r : Reader α}
    (h : StepsAt .statement d d' k r) (hr : Exchanges v d d' k r) : StepsAt v d d' k r

/-- What a reader does, whatever token is next. -/
def Steps (v : Setting) (d d' : Nat) (r : Reader α) : Prop :=
  ∀ k, StepsAt v d d' k r

/-! ## Rules -/

section Rules

variable {v : Setting} {r s : Reader β} {f : β → Reader α} {g : Token.Kind → Reader α}

theorem steps_pure (v : Setting) (d : Nat) (a : α) : Steps v d d (pure a) :=
  fun _ => .pure a

theorem steps_fail {e : Cursor → SchemaError} (he : ∀ c, (e c).OfStatement) :
    Steps v d d' (fail e : Reader α) :=
  fun _ => .fail he

theorem steps_unexpected (expected : String) : Steps v d d' (unexpected expected : Reader α) :=
  steps_fail fun _ => .inl rfl

theorem StepsAt.andThen (hr : StepsAt v d d₁ k r) (hf : ∀ b, Steps v d₁ d' (f b)) :
    StepsAt v d d' k (r >>= f) :=
  .bind hr fun _ b next _ _ => hf b next.kind

theorem Steps.bind (hr : Steps v d d₁ r) (hf : ∀ b, Steps v d₁ d' (f b)) :
    Steps v d d' (r >>= f) :=
  fun k => (hr k).andThen hf

theorem StepsAt.map (hr : StepsAt v d d' k r) (g : β → α) : StepsAt v d d' k (g <$> r) :=
  hr.andThen fun b => steps_pure v d' (g b)

theorem Steps.map (hr : Steps v d d' r) (g : β → α) : Steps v d d' (g <$> r) :=
  fun k => (hr k).map g

theorem Steps.discard (hr : Steps v d d' r) : Steps v d d' (discard r) :=
  hr.map _

theorem StepsAt.ite {p : Prop} [Decidable p] (hr : p → StepsAt v d d' k r)
    (hs : ¬p → StepsAt v d d' k s) : StepsAt v d d' k (if p then r else s) := by
  split
  next h => exact hr h
  next h => exact hs h

theorem Steps.ite {p : Prop} [Decidable p] (hr : Steps v d d' r) (hs : Steps v d d' s) :
    Steps v d d' (if p then r else s) :=
  fun k => StepsAt.ite (fun _ => hr k) fun _ => hs k

/-- Whatever is read in some setting is read within a statement, where open groups do not matter. -/
theorem StepsAt.statement (h : StepsAt v d d' k r) : StepsAt .statement d d' k r := by
  induction h with
  | pure a => exact .pure a
  | fail he => exact .fail he
  | kind _ _ ih => exact .kind ih nofun
  | readAsOr hf _ _ ih => exact .readAsOr hf ih nofun
  | advance hk hleads => exact .advance hk hleads
  | group => exact .group
  | rest => exact .rest nofun
  | bind _ _ ihr ihf => exact .bind ihr ihf
  | loop hround _ ih => exact .loop hround ih
  | shift _ _ ih => exact .shift nofun ih
  | known h _ _ => exact h

theorem Steps.statement (h : Steps v d d' r) (e e' : Nat) : Steps .statement e e' r :=
  fun k => .shift nofun (h k).statement

/-! ### What follows depends on the next token -/

theorem steps_kind_statement (hg : ∀ k, StepsAt .statement d d' k (g k)) :
    Steps .statement d d' (Statement.kind >>= g) :=
  fun k => .kind (hg k) nofun

theorem steps_kind_clause (hg : ∀ k, StepsAt .clause d d' k (g k))
    (hcomma : g (.symbol .comma) = g .eof) (hparen : g (.symbol .rightParen) = g .eof)
    (hsemicolon : g (.symbol .semicolon) = g .eof) :
    Steps .clause d d' (Statement.kind >>= g) := by
  have hend := forall_endsClause hcomma hparen hsemicolon
  refine fun k => .kind (hg k) fun hk => .inl fun k' hk' => ?_
  rw [hend k' (Bool.and_eq_true_iff.1 hk').2, hend k (Bool.and_eq_true_iff.1 hk).2]

/-- A reader that goes by the next token does the same for all tokens that are alike. -/
theorem steps_kind (hg : ∀ k, StepsAt v d d' k (g k)) (hcomma : g (.symbol .comma) = g .eof)
    (hparen : g (.symbol .rightParen) = g .eof) (hsemicolon : g (.symbol .semicolon) = g .eof)
    (hcharacter : g (.keyword .character) = g (.keyword .charset))
    (hbyte : ∀ word, g (.identifier word) = g (.keyword .charset)) :
    Steps v d d' (Statement.kind >>= g) := by
  cases v with
  | statement => exact steps_kind_statement hg
  | clause => exact steps_kind_clause hg hcomma hparen hsemicolon
  | definition =>
    have hencoding := forall_beginsEncoding (P := fun k => g k = g (.keyword .charset)) hcharacter
      rfl fun word _ => hbyte word
    exact fun k => .kind (hg k) fun hk => .inl fun k' hk' =>
      (hencoding k' hk').trans (hencoding k hk).symm

/-- A reader that goes by the next token reads the tokens that say how texts are encoded. -/
theorem steps_kind_of_takes (hg : ∀ k, StepsAt v d d' k (g k))
    (hcomma : g (.symbol .comma) = g .eof) (hparen : g (.symbol .rightParen) = g .eof)
    (hsemicolon : g (.symbol .semicolon) = g .eof)
    (htakes : ∀ k, beginsEncoding k = true → TakesAt k (g k)) :
    Steps v d d' (Statement.kind >>= g) := by
  cases v with
  | statement => exact steps_kind_statement hg
  | clause => exact steps_kind_clause hg hcomma hparen hsemicolon
  | definition => exact fun k => .kind (hg k) fun hk => .inr (htakes k hk)

theorem StepsAt.afterAdvance (hk : isPlain k = true) {r : Reader α} (hr : Steps v d d' r) :
    StepsAt v d d' k (afterAdvance r) :=
  .andThen (.advance (standsWithin_of_isPlain hk) (.keeps (keepsDepth_of_isPlain hk) d))
    fun _ => hr

/-- In a statement any token may be passed over that stands within it. -/
theorem stepsAt_advance_statement (hk : standsWithin k = true) (d d' : Nat) :
    StepsAt .statement d d' k Statement.advance := by
  by_cases hopen : k = .symbol .leftParen
  · subst hopen
    exact .shift nofun (.advance hk (.opens 0))
  by_cases hclose : k = .symbol .rightParen
  · subst hclose
    exact .shift nofun (.advance hk (.closes 0))
  · refine .shift nofun (.advance hk (.keeps ?_ 0))
    unfold keepsDepth
    split <;> simp_all [standsWithin]

/-! ### Tokens that may be next -/

variable {wanted : Token.Kind → Bool}

theorem Setting.alike_eq_false (hk : isPlain k = true)
    (hv : v = .definition → beginsEncoding k = false) : v.alike d k = false := by
  cases v with
  | statement => rfl
  | clause => rw [alike, endsClause_of_isPlain hk, Bool.and_false]
  | definition => exact hv rfl

theorem steps_takeIf_bind {f : Bool → Reader α}
    (hyes : ∀ k, wanted k = true → StepsAt v d d' k (Statement.afterAdvance (f true)))
    (hno : Steps v d d' (f false)) (hwanted : ∀ k, wanted k = true → v.alike d k = false) :
    Steps v d d' (takeIf wanted >>= f) := by
  have halike : ∀ k, v.alike d k = true → wanted k = false := fun k hk =>
    Bool.eq_false_iff.2 fun h => by
      rw [hwanted k h] at hk
      cases hk
  rw [takeIf_bind_eq]
  intro k
  refine .kind (StepsAt.ite (hyes k) fun _ => hno k) fun hk => .inl fun k' hk' => ?_
  rw [halike k hk, halike k' hk']

theorem steps_takeIf (hwanted : ∀ k, wanted k = true → isPlain k = true)
    (hv : v = .definition → ∀ k, wanted k = true → beginsEncoding k = false) :
    Steps v d d (takeIf wanted) := by
  rw [← bind_pure (takeIf wanted)]
  exact steps_takeIf_bind (fun k hk => .afterAdvance (hwanted k hk) (steps_pure v d true))
    (steps_pure v d false)
    fun k hk => Setting.alike_eq_false (hwanted k hk) fun h => hv h k hk

theorem takeKeyword_steps {k : Keyword}
    (hk : v = .definition → beginsEncoding (.keyword k) = false) :
    Steps v d d (takeKeyword k) := by
  refine steps_takeIf (fun l hl => ?_) fun hv l hl => ?_
  · rw [of_decide_eq_true hl]
    rfl
  · rw [of_decide_eq_true hl, hk hv]

theorem takeEither_steps {k l : Keyword}
    (hk : v = .definition → beginsEncoding (.keyword k) = false)
    (hl : v = .definition → beginsEncoding (.keyword l) = false) :
    Steps v d d (takeEither k l) := by
  refine steps_takeIf (fun m hm => ?_) fun hv m hm => ?_
  all_goals rcases Bool.or_eq_true_iff.1 hm with h | h
  all_goals rw [of_decide_eq_true h]
  · rfl
  · rfl
  · exact hk hv
  · exact hl hv

theorem takeSymbol_steps {s : Token.Symbol} (hs : isPlain (.symbol s) = true) :
    Steps v d d (takeSymbol s) := by
  refine steps_takeIf (fun k hk => ?_) fun _ k hk => ?_
  · rw [of_decide_eq_true hk, hs]
  · rw [of_decide_eq_true hk]
    rfl

/-- What is read after a token, if it is next. -/
theorem Steps.taken {taken : Reader Bool} (htaken : Steps v d d₁ taken) {yes no : Reader α}
    (hyes : Steps v d₁ d' yes) (hno : Steps v d₁ d' no) :
    Steps v d d' (do if ← taken then yes else no) :=
  htaken.bind fun _ => hyes.ite hno

theorem expectKeyword_steps {k : Keyword}
    (hk : v = .definition → beginsEncoding (.keyword k) = false) :
    Steps v d d (expectKeyword k) :=
  (takeKeyword_steps hk).bind fun _ => (steps_pure v d _).ite (steps_unexpected _)

theorem expectOpen_steps : Steps v d (d + 1) (expectSymbol .leftParen) := by
  rw [expectSymbol_eq]
  refine steps_kind (fun k => StepsAt.ite (fun hk => ?_) fun _ => steps_unexpected _ k)
    rfl rfl rfl rfl fun _ => rfl
  rw [hk]
  exact .advance rfl (.opens d)

theorem Setting.alike_succ (hv : v = .definition → beginsEncoding k = false) :
    v.alike (d + 1) k = false := by
  cases v with
  | statement => rfl
  | clause => rfl
  | definition => exact hv rfl

/-- Within a group the parenthesis that closes it is told apart. -/
theorem expectClose_steps : Steps v (d + 1) d (expectSymbol .rightParen) := by
  rw [expectSymbol_eq]
  intro k
  by_cases hk : k = .symbol .rightParen
  · subst hk
    refine .kind (.advance rfl (.closes d)) fun h => ?_
    rw [Setting.alike_succ fun _ => rfl] at h
    cases h
  · refine .kind (StepsAt.ite (fun h => absurd h hk) fun _ => steps_unexpected _ k) fun _ => ?_
    refine .inl fun k' hk' => ?_
    have hne : k' ≠ .symbol .rightParen := by
      rintro rfl
      rw [Setting.alike_succ fun _ => rfl] at hk'
      cases hk'
    rw [if_neg hne, if_neg hk]

/-! ### Single tokens -/

/-- A token that neither ends a clause nor opens a group is passed over unless it is faulty. -/
theorem stepsAt_skipToken (hend : endsClause k = false) (hopen : k ≠ .symbol .leftParen) :
    StepsAt v d d k skipToken := by
  refine .kind ?_ fun hk => .inl fun k' hk' => ?_
  · split
    · exact steps_unexpected _ _
    next hfault =>
      have hplain : isPlain k = true := by
        unfold isPlain
        split <;> simp_all [endsClause]
      exact .advance (standsWithin_of_isPlain hplain) (.keeps (keepsDepth_of_isPlain hplain) d)
  · cases v with
    | statement => cases hk
    | clause =>
      rw [Setting.alike, hend, Bool.and_false] at hk
      cases hk
    | definition =>
      -- Neither token is faulty.
      split
      · cases hk'
      · split
        · cases hk
        · rfl

theorem stepsAt_skipToken_statement (hk : endsStatement k = false) (d d' : Nat) :
    StepsAt .statement d d' k skipToken := by
  refine .kind ?_ nofun
  split
  · exact steps_unexpected _ _
  next hfault =>
    refine stepsAt_advance_statement ?_ d d'
    unfold standsWithin
    split <;> simp_all [endsStatement]

theorem readAs_steps {f : Token.Kind → String → Option α} (expected : String)
    (hf : ∀ k text a, f k text = some a → isPlain k = true) : Steps v d d (readAs f expected) :=
  fun k => .readAsOr hf (steps_unexpected expected k) fun _ _ _ _ => nofun

theorem ofResult_steps {x : Except SchemaError α} (h : ∀ e, x = .error e → e.OfStatement) :
    Steps v d d (ofResult x) := by
  cases x with
  | ok a => exact steps_pure v d a
  | error e => exact steps_fail fun _ => h e rfl

end Rules

end Statement

end SchemaTrail
