import SchemaTrail.Proofs.Outcome
import SchemaTrail.Statement.Cursor

/-!
# Steps of readers

A reader succeeds if all of its steps do (`Statement.read_bind_iff`).  What single readers do
depends on the kind of the next token.  A loop whose rounds pass over tokens
(`Statement.Progresses`) has rounds enough, so that it runs as if their number were not limited
(`Statement.LoopRuns`).  What a reader reads where certain tokens are next (`Statement.Reads`) is
put together from what its steps read.
-/

namespace SchemaTrail.Statement

open Outcome

variable {α β : Type} {c next : Cursor} {k : Token.Kind}

theorem read_bind_iff {r : Reader β} {f : β → Reader α} {a : α} :
    (r >>= f) c = .ok (a, next) ↔ ∃ b m, r c = .ok (b, m) ∧ f b m = .ok (a, next) := by
  change r c >>= (fun p => f p.1 p.2) = _ ↔ _
  rw [bind_eq_ok_iff, Prod.exists]

theorem read_bind_error_iff {r : Reader β} {f : β → Reader α} {x : Stop} :
    (r >>= f) c = .error x ↔
      r c = .error x ∨ ∃ b m, r c = .ok (b, m) ∧ f b m = .error x := by
  change r c >>= (fun p => f p.1 p.2) = _ ↔ _
  rw [bind_eq_error_iff, Prod.exists]

theorem bind_of_eq_ok {r : Reader β} {f : β → Reader α} {b : β} (h : r c = .ok (b, next)) :
    (r >>= f) c = f b next := by
  show (r c).bind _ = _
  rw [h]
  rfl

theorem discard_eq_ok_iff {r : Reader α} :
    discard r c = .ok ((), next) ↔ ∃ a, r c = .ok (a, next) := by
  change (r c).map (fun p => ((), p.2)) = _ ↔ _
  rw [map_eq_ok_iff]
  constructor
  · rintro ⟨⟨a, m⟩, ha, hm⟩
    cases hm
    exact ⟨a, ha⟩
  · rintro ⟨a, ha⟩
    exact ⟨(a, next), ha, rfl⟩

theorem discard_eq_error_iff {r : Reader α} {x : Stop} :
    discard r c = .error x ↔ r c = .error x :=
  map_eq_error_iff

theorem some_map_eq_ok_iff {r : Reader α} {o : Option α} :
    (some <$> r) c = .ok (o, next) ↔ ∃ a, o = some a ∧ r c = .ok (a, next) := by
  change (r c).map (fun p => (some p.1, p.2)) = _ ↔ _
  rw [map_eq_ok_iff]
  constructor
  · rintro ⟨⟨a, m⟩, ha, hm⟩
    cases hm
    exact ⟨a, rfl, ha⟩
  · rintro ⟨a, rfl, ha⟩
    exact ⟨(a, next), ha, rfl⟩

theorem some_map_eq_error_iff {r : Reader α} {x : Stop} :
    (some <$> r) c = .error x ↔ r c = .error x :=
  map_eq_error_iff

/-! ## Tokens that are still to be read -/

/-- The kinds of the tokens that are still to be read. -/
def Cursor.kinds (c : Cursor) : List Token.Kind :=
  c.tokens.map Token.kind

theorem Cursor.kind_eq (c : Cursor) : c.kind = c.kinds.headD .eof := by
  rw [kind, kinds]
  cases c.tokens <;> rfl

theorem Cursor.kinds_advance (c : Cursor) : c.advance.kinds = c.kinds.tail := by
  rw [advance, kinds, kinds]
  cases h : c.tokens <;> simp [h]

theorem Cursor.kinds_of_kind (hk : c.kind = k) (hne : k ≠ .eof) :
    c.kinds = k :: c.advance.kinds := by
  rw [kinds_advance]
  rw [kind_eq] at hk
  cases hkinds : c.kinds with
  | nil =>
    rw [hkinds] at hk
    exact absurd hk.symm hne
  | cons l ls =>
    rw [hkinds] at hk
    exact congrArg (· :: ls) hk

theorem Cursor.length_advance (h : c.kind ≠ .eof) :
    c.advance.tokens.length < c.tokens.length := by
  have hkinds := congrArg List.length (kinds_of_kind rfl h)
  simp only [kinds, List.length_map, List.length_cons] at hkinds
  omega

/-- What a token is and its text, wherever it stands. -/
abbrev Content := Token.Kind × String

/-- The tokens that are still to be read, without their places. -/
def Cursor.contents (c : Cursor) : List Content :=
  c.tokens.map fun t => (t.kind, t.text)

/-- What the first of several tokens is. -/
def headKind : List Content → Token.Kind
  | [] => .eof
  | x :: _ => x.1

variable {x : Content} {xs ys : List Content}

theorem Cursor.kind_of_contents (h : c.contents = xs) : c.kind = headKind xs := by
  subst h
  rw [kind, contents]
  cases c.tokens <;> rfl

theorem Cursor.contents_advance (h : c.contents = x :: xs) : c.advance.contents = xs := by
  rw [contents] at h
  rw [advance, contents]
  cases htokens : c.tokens with
  | nil => simp [htokens] at h
  | cons t ts =>
    rw [htokens] at h
    exact (List.cons.inj h).2

theorem Cursor.length_contents (c : Cursor) : c.contents.length = c.tokens.length :=
  List.length_map _

/-- What a token and the tokens after it are. -/
theorem exists_cons_of_contents {ts : List Token}
    (h : (ts.map fun t => (t.kind, t.text)) = x :: xs) :
    ∃ t ts', ts = t :: ts' ∧ t.kind = x.1 ∧ (ts'.map fun t => (t.kind, t.text)) = xs := by
  obtain ⟨t, ts', rfl, ht, hts⟩ := List.map_eq_cons_iff.1 h
  exact ⟨t, ts', rfl, congrArg Prod.fst ht, hts⟩

/-! ## Single tokens -/

theorem ofResult_eq_ok_iff {x : Except SchemaError α} {a : α} :
    ofResult x c = .ok (a, next) ↔ x = .ok a ∧ next = c := by
  cases x with
  | ok b =>
    constructor
    · rintro ⟨⟩
      exact ⟨rfl, rfl⟩
    · rintro ⟨⟨⟩, rfl⟩
      rfl
  | error e => exact ⟨nofun, nofun⟩

theorem kind_bind (f : Token.Kind → Reader α) (c : Cursor) :
    (kind >>= f) c = f c.kind c :=
  rfl

theorem takeIf_eq (wanted : Token.Kind → Bool) (c : Cursor) :
    takeIf wanted c = .ok (if wanted c.kind then (true, c.advance) else (false, c)) := by
  show (if wanted c.kind then _ else _ : Reader Bool) c = _
  split <;> rfl

theorem takeIf_bind (wanted : Token.Kind → Bool) (f : Bool → Reader α) (c : Cursor) :
    (takeIf wanted >>= f) c =
      if wanted c.kind then f true c.advance else f false c := by
  show ((takeIf wanted c).bind fun r => f r.1 r.2) = _
  rw [takeIf_eq]
  split <;> rfl

/-- What is read behind a token that may be next depends on the kind of the next token. -/
theorem takeIf_bind_eq (wanted : Token.Kind → Bool) (f : Bool → Reader α) :
    (takeIf wanted >>= f) =
      kind >>= fun k => if wanted k then afterAdvance (f true) else f false := by
  funext c
  rw [takeIf_bind, kind_bind]
  split <;> rfl

theorem expectSymbol_eq (s : Token.Symbol) :
    expectSymbol s = kind >>= fun k => if k = .symbol s then advance else unexpected s.name := by
  funext c
  rw [expectSymbol, takeSymbol, takeIf_bind, kind_bind]
  by_cases hk : c.kind = .symbol s
  · rw [if_pos hk, if_pos (decide_eq_true hk)]
    rfl
  · rw [if_neg hk, if_neg (by simpa using hk)]
    rfl

/-- What the next token stands for is seen from its kind and its text. -/
theorem readAsOr_eq (f : Token.Kind → String → Option α) (other : Reader α) (c : Cursor) :
    readAsOr f other c = match c.contents.head?.bind fun x => f x.1 x.2 with
      | some a => .ok (a, c.advance)
      | none => other c := by
  have hhead : (c.contents.head?.bind fun x => f x.1 x.2) =
      c.tokens.head?.bind fun t => f t.kind t.text := by
    rw [Cursor.contents]
    cases c.tokens <;> rfl
  rw [hhead]
  show (match c.tokens.head?.bind fun t => f t.kind t.text with
    | some a => afterAdvance (return a)
    | none => other : Reader α) c = _
  cases c.tokens.head?.bind fun t => f t.kind t.text <;> rfl

theorem skipToken_eq_ok (hc : ∀ fault, c.kind ≠ .error fault) :
    skipToken c = .ok ((), c.advance) := by
  rw [skipToken, kind_bind]
  generalize c.kind = k at hc
  cases k with
  | error fault => exact absurd rfl (hc fault)
  | _ => rfl

theorem skipToken_eq_error {fault : Token.Fault} (hc : c.kind = .error fault) :
    skipToken c = .error (.failed (c.unexpected "token")) := by
  rw [skipToken, kind_bind, hc]
  rfl

/-! ## Loops -/

/-- A round that goes on passes over a token, and none goes on at the end of the statement. -/
def Progresses (round : Reader (Option α)) : Prop :=
  ∀ c a next, round c = .ok (some a, next) →
    c.kind ≠ .eof ∧ next.tokens.length < c.tokens.length

/-- How a loop runs that ends by its rounds only: after each round that goes on follows another. -/
inductive LoopRuns (round : Reader (Option α)) : Cursor → Except Stop (List α × Cursor) → Prop
  | fails {c : Cursor} {x : Stop} (h : round c = .error x) : LoopRuns round c (.error x)
  | leaves {c next : Cursor} (h : round c = .ok (none, next)) : LoopRuns round c (.ok ([], next))
  | goesOn {c next : Cursor} {a : α} {x : Except Stop (List α × Cursor)}
    (h : round c = .ok (some a, next)) (hrest : LoopRuns round next x) :
    LoopRuns round c (x.map fun r => (a :: r.1, r.2))

section

variable {round : Reader (Option α)} {a : α} {as : List α}

theorem repeated_of_error {x : Stop} (h : round c = .error x) (n : Nat) :
    repeated round (n + 1) c = .error x := by
  show (round c).bind _ = _
  rw [h]
  rfl

theorem repeated_of_none (h : round c = .ok (none, next)) (n : Nat) :
    repeated round (n + 1) c = .ok ([], next) := by
  show (round c).bind _ = _
  rw [h]
  rfl

theorem repeated_of_some (h : round c = .ok (some a, next)) (n : Nat) :
    repeated round (n + 1) c = (repeated round n next).map fun r => (a :: r.1, r.2) := by
  show (round c).bind _ = _
  rw [h]
  show (repeated round n next).bind _ = _
  cases repeated round n next <;> rfl

/-- A loop has rounds enough if there are more than tokens. -/
theorem Progresses.loopRuns_repeated (h : Progresses round) {n : Nat}
    (hn : c.tokens.length < n) : LoopRuns round c (repeated round n c) := by
  induction n generalizing c with
  | zero => exact absurd hn (Nat.not_lt_zero _)
  | succ n ih =>
    cases hround : round c with
    | error x =>
      rw [repeated_of_error hround]
      exact .fails hround
    | ok r =>
      obtain ⟨o, m⟩ := r
      cases o with
      | none =>
        rw [repeated_of_none hround]
        exact .leaves hround
      | some a =>
        rw [repeated_of_some hround]
        exact .goesOn hround (ih (Nat.lt_of_lt_of_le (h c a m hround).2 (Nat.le_of_lt_succ hn)))

/-- A loop whose rounds pass over tokens ends by its rounds. -/
theorem Progresses.loopRuns (h : Progresses round) (c : Cursor) :
    LoopRuns round c (many round c) :=
  h.loopRuns_repeated (Nat.lt_succ_self _)

/-- A loop runs in one way only. -/
theorem LoopRuns.unique {x y : Except Stop (List α × Cursor)} (hx : LoopRuns round c x)
    (hy : LoopRuns round c y) : x = y := by
  induction hx generalizing y with
  | fails h => cases hy <;> simp_all
  | leaves h => cases hy <;> simp_all
  | goesOn h _ ih =>
    cases hy with
    | fails h' => cases h.symm.trans h'
    | leaves h' => cases h.symm.trans h'
    | goesOn h' hrest' =>
      cases h.symm.trans h'
      rw [ih hrest']

theorem many_of_none (h : round c = .ok (none, next)) : many round c = .ok ([], next) :=
  repeated_of_none h _

theorem many_of_error {x : Stop} (h : round c = .error x) : many round c = .error x :=
  repeated_of_error h _

/-- After a round that goes on a loop runs on. -/
theorem Progresses.many_of_some (h : Progresses round) (hround : round c = .ok (some a, next)) :
    many round c = (many round next).map fun r => (a :: r.1, r.2) :=
  (h.loopRuns c).unique (.goesOn hround (h.loopRuns next))

/-- What holds where a loop is left, and in front of each round that goes on, holds of a loop. -/
theorem many_induction {P : Cursor → List α → Cursor → Prop}
    (hleaves : ∀ c m, round c = .ok (none, m) → P c [] m)
    (hgoesOn : ∀ c a m as next, round c = .ok (some a, m) → P m as next → P c (a :: as) next)
    (h : many round c = .ok (as, next)) : P c as next := by
  rw [many] at h
  generalize c.tokens.length + 1 = n at h
  induction n generalizing c as with
  | zero => cases h
  | succ n ih =>
    obtain ⟨o, m, hround, h⟩ := read_bind_iff.1 h
    cases o with
    | none =>
      cases h
      exact hleaves c next hround
    | some a =>
      obtain ⟨others, m', hothers, h⟩ := read_bind_iff.1 h
      cases h
      exact hgoesOn c a m others next hround (ih hothers)

/-- A loop whose rounds pass over tokens stops short only if a round does. -/
theorem Progresses.exists_of_many_error (h : Progresses round) {x : Stop}
    (hmany : many round c = .error x) : ∃ m, round m = .error x := by
  have hruns := h.loopRuns c
  rw [hmany] at hruns
  clear hmany
  generalize hy : Except.error x = y at hruns
  induction hruns with
  | fails hround =>
    cases hy
    exact ⟨_, hround⟩
  | leaves => cases hy
  | goesOn _ _ ih => exact ih (map_eq_error_iff.1 hy.symm).symm

end

/-! ### Tokens of a kind -/

section

variable {wanted : Token.Kind → Bool}

theorem skipIf_eq (wanted : Token.Kind → Bool) (c : Cursor) :
    skipIf wanted c = .ok (if wanted c.kind then (some (), c.advance) else (none, c)) := by
  rw [skipIf, takeIf_bind]
  split <;> rfl

theorem progresses_skipIf (hwanted : wanted .eof = false) : Progresses (skipIf wanted) := by
  intro c u next h
  rw [skipIf_eq] at h
  split at h
  next hkind =>
    cases h
    have hne : c.kind ≠ .eof := fun heof => by
      rw [heof, hwanted] at hkind
      cases hkind
    exact ⟨hne, Cursor.length_advance hne⟩
  next => cases h

/-- Passing over tokens of a kind never fails, and stops in front of another one. -/
theorem skipWhile_eq (hwanted : wanted .eof = false) (c : Cursor) :
    ∃ next, skipWhile wanted c = .ok ((), next) ∧ next.kinds = c.kinds.dropWhile wanted := by
  simp only [skipWhile, discard_eq_ok_iff]
  induction hlength : c.tokens.length using Nat.strongRecOn generalizing c with
  | ind n ih =>
    subst hlength
    have hstep := skipIf_eq wanted c
    by_cases hkind : wanted c.kind = true
    · have hne : c.kind ≠ .eof := fun heof => by
        rw [heof, hwanted] at hkind
        cases hkind
      rw [if_pos hkind] at hstep
      obtain ⟨next, ⟨units, hnext⟩, hkinds⟩ := ih _ (Cursor.length_advance hne) c.advance rfl
      refine ⟨next, ⟨() :: units, ?_⟩, ?_⟩
      · rw [(progresses_skipIf hwanted).many_of_some hstep, hnext]
        rfl
      · rw [hkinds, Cursor.kinds_of_kind rfl hne, List.dropWhile_cons_of_pos hkind]
    · rw [if_neg hkind] at hstep
      refine ⟨c, ⟨[], many_of_none hstep⟩, ?_⟩
      rw [Cursor.kind_eq] at hkind
      cases hkinds : c.kinds with
      | nil => rfl
      | cons k ks =>
        rw [hkinds, List.headD_cons] at hkind
        rw [List.dropWhile_cons_of_neg hkind]

/-- All tokens that are left are passed over, up to the end of the statement. -/
theorem skipAll_eq (c : Cursor) :
    ∃ next, skipAll c = .ok ((), next) ∧ next.kinds = c.kinds.dropWhile (· ≠ .eof) :=
  skipWhile_eq rfl c

end

/-! ## What is read -/

/-- Wherever `P` holds, a reader gives a value, and `Q` holds then. -/
def Reads (r : Reader α) (P : Cursor → Prop) (a : α) (Q : Cursor → Prop) : Prop :=
  ∀ c, P c → ∃ next, r c = .ok (a, next) ∧ Q next

/-- Where these tokens are next, a reader gives a value and leaves those tokens. -/
abbrev ReadsContents (r : Reader α) (xs : List Content) (a : α) (left : List Content) : Prop :=
  Reads r (fun c => c.contents = xs) a fun c => c.contents = left

variable {P Q R : Cursor → Prop} {a : α} {b : β} {r : Reader β} {f : β → Reader α}

theorem reads_pure (a : α) (P : Cursor → Prop) : Reads (pure a) P a P :=
  fun c hc => ⟨c, rfl, hc⟩

theorem Reads.bind (hr : Reads r P b Q) (hf : Reads (f b) Q a R) : Reads (r >>= f) P a R := by
  intro c hc
  obtain ⟨m, hm, hbetween⟩ := hr c hc
  obtain ⟨next, hnext, hafter⟩ := hf m hbetween
  exact ⟨next, read_bind_iff.2 ⟨b, m, hm, hnext⟩, hafter⟩

theorem Reads.map (hr : Reads r P b Q) (g : β → α) : Reads (g <$> r) P (g b) Q :=
  hr.bind (f := fun b => pure (g b)) (reads_pure (g b) Q)

theorem Reads.discard (hr : Reads r P b Q) : Reads (discard r) P () Q :=
  hr.map _

theorem Reads.many_nil {round : Reader (Option α)} (h : Reads round P none Q) :
    Reads (many round) P [] Q := by
  intro c hc
  obtain ⟨next, hnext, hafter⟩ := h c hc
  exact ⟨next, many_of_none hnext, hafter⟩

theorem Reads.many_cons {round : Reader (Option α)} {as : List α} (hround : Progresses round)
    (h : Reads round P (some a) Q) (hmany : Reads (many round) Q as R) :
    Reads (many round) P (a :: as) R := by
  intro c hc
  obtain ⟨m, hm, hbetween⟩ := h c hc
  obtain ⟨next, hnext, hafter⟩ := hmany m hbetween
  refine ⟨next, ?_, hafter⟩
  rw [hround.many_of_some hm, hnext]
  rfl

theorem Reads.kind_bind {g : Token.Kind → Reader α} (hk : ∀ c, P c → g c.kind = g k)
    (h : Reads (g k) P a Q) : Reads (kind >>= g) P a Q := by
  intro c hc
  obtain ⟨next, hnext, hafter⟩ := h c hc
  exact ⟨next, by rw [Statement.kind_bind, hk c hc, hnext], hafter⟩

theorem reads_kind_bind {g : Token.Kind → Reader α} (h : ReadsContents (g (headKind xs)) xs a ys) :
    ReadsContents (kind >>= g) xs a ys :=
  h.kind_bind fun _ hc => by rw [Cursor.kind_of_contents hc]

theorem reads_takeIf {wanted : Token.Kind → Bool} (hwanted : ∀ c, P c → wanted c.kind = true)
    (hadvance : ∀ c, P c → Q c.advance) : Reads (takeIf wanted) P true Q := by
  intro c hc
  exact ⟨c.advance, by rw [takeIf_eq, if_pos (hwanted c hc)], hadvance c hc⟩

theorem reads_takeIf_none {wanted : Token.Kind → Bool}
    (hwanted : ∀ c, P c → wanted c.kind = false) : Reads (takeIf wanted) P false P := by
  intro c hc
  exact ⟨c, by rw [takeIf_eq, if_neg (ne_true_of_eq_false (hwanted c hc))], hc⟩

theorem reads_readAs {f : Token.Kind → String → Option α} {expected : String}
    (hx : f x.1 x.2 = some a) (xs : List Content) :
    ReadsContents (readAs f expected) (x :: xs) a xs := by
  intro c hc
  refine ⟨c.advance, ?_, Cursor.contents_advance hc⟩
  rw [readAs, readAsOr_eq, hc, List.head?_cons, Option.bind_some, hx]

/-- What follows a reader goes on with what it has read. -/
theorem Reads.exists_run (hr : Reads r P b Q) (hc : P c) :
    ∃ m, Q m ∧ ∀ {γ : Type} (f : β → Reader γ), (r >>= f) c = f b m := by
  obtain ⟨m, hm, hafter⟩ := hr c hc
  exact ⟨m, hafter, fun _ => bind_of_eq_ok hm⟩

/-! ## Groups -/

section

variable {finish previous : Span} {n : Nat} {t : Token} {ts : List Token}

theorem closeGroup_open (ht : t.kind = .symbol .leftParen) :
    closeGroup finish n previous (t :: ts) = closeGroup finish (n + 1) t.span ts := by
  rw [closeGroup, ht]

theorem closeGroup_close (ht : t.kind = .symbol .rightParen) :
    closeGroup finish n previous (t :: ts) =
      if n = 0 then .ok ⟨t.span, ts, finish⟩ else closeGroup finish (n - 1) t.span ts := by
  rw [closeGroup, ht]

theorem closeGroup_plain (hopen : t.kind ≠ .symbol .leftParen)
    (hclose : t.kind ≠ .symbol .rightParen) (hfault : ∀ fault, t.kind ≠ .error fault) :
    closeGroup finish n previous (t :: ts) = closeGroup finish n t.span ts := by
  rw [closeGroup]
  split
  next heq => exact absurd heq hopen
  next heq => exact absurd heq hclose
  next heq => exact absurd heq (hfault _)
  next => rfl

theorem kind_ne_error_of_closeGroup (h : closeGroup finish n previous (t :: ts) = .ok next)
    (fault : Token.Fault) : t.kind ≠ .error fault := by
  intro ht
  rw [closeGroup, ht] at h
  cases h

theorem length_closeGroup (h : closeGroup finish n previous ts = .ok next) :
    next.tokens.length ≤ ts.length := by
  induction ts generalizing n previous with
  | nil => cases h
  | cons t ts ih =>
    rw [closeGroup] at h
    split at h
    · exact Nat.le_succ_of_le (ih h)
    · split at h
      · cases h
        exact Nat.le_succ _
      · exact Nat.le_succ_of_le (ih h)
    · cases h
    · exact Nat.le_succ_of_le (ih h)

end

/-- A group is passed over from the parenthesis that opens it. -/
theorem skipGroup_eq (c : Cursor) : skipGroup c =
    if c.kind = .symbol .leftParen then
      match closeGroup c.advance.finish 0 c.advance.previous c.advance.tokens with
      | .ok next => .ok ((), next)
      | .error e => .error (.failed e)
    else .error (.failed (c.unexpected (Token.Symbol.name .leftParen))) := by
  show ((expectSymbol .leftParen c).bind _) = _
  rw [expectSymbol_eq, kind_bind]
  split
  · show (ofResult (closeGroup c.advance.finish 0 c.advance.previous c.advance.tokens)
      c.advance).bind _ = _
    cases closeGroup c.advance.finish 0 c.advance.previous c.advance.tokens <;> rfl
  · rfl

theorem skipGroup_eq_ok_iff {u : Unit} : skipGroup c = .ok (u, next) ↔
    c.kind = .symbol .leftParen ∧
      closeGroup c.advance.finish 0 c.advance.previous c.advance.tokens = .ok next := by
  rw [skipGroup_eq]
  split
  next hkind =>
    rw [and_iff_right hkind]
    cases closeGroup c.advance.finish 0 c.advance.previous c.advance.tokens <;> simp
  next hkind => exact iff_of_false nofun fun h => hkind h.1

theorem length_skipGroup {u : Unit} (h : skipGroup c = .ok (u, next)) :
    next.tokens.length < c.tokens.length := by
  obtain ⟨hkind, hclose⟩ := skipGroup_eq_ok_iff.1 h
  exact Nat.lt_of_le_of_lt (length_closeGroup hclose) (Cursor.length_advance (by simp [hkind]))

end SchemaTrail.Statement
