import SchemaTrail.Proofs.Stepwise

/-!
# What steps of readers do

A reader that goes step by step stops short only with an error of the statement, and in no endless
loop (`Statement.StepsAt.error`).  What it passes over stands in front of what it leaves
(`Statement.StepsAt.leaves`): tokens that may stand within a statement, groups whose parentheses are
balanced, and, from `PARTITION` on, all that follow.  It reads the same in front of another tail
(`Statement.StepsAt.exchanges`).
-/

namespace SchemaTrail.Statement

open Outcome

variable {α β : Type} {v : Setting} {c next : Cursor} {k : Token.Kind} {x : Content}
  {xs w t tail : List Content} {d d' : Nat} {r : Reader α} {a : α}

/-! ## Errors -/

theorem ofStatement_of_closeGroup {finish previous : Span} {depth : Nat} {ts : List Token}
    {e : SchemaError} (h : closeGroup finish depth previous ts = .error e) : e.OfStatement := by
  fun_induction closeGroup finish depth previous ts with
  | case1 => cases h; exact .inl rfl
  | case2 _ _ _ _ _ ih => exact ih h
  | case3 => cases h
  | case4 _ _ _ _ _ _ ih => exact ih h
  | case5 => cases h; exact .inl rfl
  | case6 _ _ _ _ _ _ _ ih => exact ih h

/-- A reader stops short with an error of the statement. -/
theorem StepsAt.error (h : StepsAt v d d' k r) {x : Stop} (hc : c.kind = k)
    (hx : r c = .error x) : ∃ e, x = .failed e ∧ e.OfStatement := by
  induction h generalizing c with
  | pure => cases hx
  | fail he =>
    cases hx
    exact ⟨_, rfl, he c⟩
  | kind _ _ ih =>
    rw [kind_bind, hc] at hx
    exact ih hc hx
  | readAsOr _ _ _ ih =>
    rw [readAsOr_eq] at hx
    split at hx
    · cases hx
    · exact ih hc hx
  | advance => cases hx
  | group =>
    rw [skipGroup_eq] at hx
    split at hx
    · split at hx
      next => cases hx
      next e he =>
        cases hx
        exact ⟨e, rfl, ofStatement_of_closeGroup he⟩
    · cases hx
      exact ⟨_, rfl, .inl rfl⟩
  | rest =>
    obtain ⟨next, hnext, -⟩ := skipAll_eq c
    cases hnext.symm.trans hx
  | bind _ _ ihr ihf =>
    rcases read_bind_error_iff.1 hx with hx | ⟨b, m, hb, hx⟩
    · exact ihr hc hx
    · exact ihf c b m hc hb rfl hx
  | loop hround _ ih =>
    obtain ⟨m, hm⟩ := hround.exists_of_many_error hx
    exact ih m.kind rfl hm
  | shift _ _ ih => exact ih hc hx
  | known _ _ ih => exact ih hc hx

theorem Steps.error (h : Steps v d d' r) {x : Stop} (hx : r c = .error x) :
    ∃ e, x = .failed e ∧ e.OfStatement :=
  (h c.kind).error rfl hx

/-! ## Tokens that are left -/

/-- Kinds of tokens by which `depth` open groups are closed, and all that are opened among them.
None of the tokens is faulty. -/
inductive Closes : Nat → List Token.Kind → Prop
  | nil : Closes 0 []
  | opens {depth : Nat} {ks : List Token.Kind} (h : Closes (depth + 1) ks) :
    Closes depth (.symbol .leftParen :: ks)
  | closes {depth : Nat} {ks : List Token.Kind} (h : Closes depth ks) :
    Closes (depth + 1) (.symbol .rightParen :: ks)
  | plain {depth : Nat} {k : Token.Kind} {ks : List Token.Kind} (hopen : k ≠ .symbol .leftParen)
    (hclose : k ≠ .symbol .rightParen) (hfault : ∀ fault, k ≠ .error fault) (h : Closes depth ks) :
    Closes depth (k :: ks)

/-- What readers leave of tokens. -/
inductive Leaves : List Token.Kind → List Token.Kind → Prop
  | refl (ks : List Token.Kind) : Leaves ks ks
  | token {k : Token.Kind} {ks left : List Token.Kind} (hk : standsWithin k = true)
    (h : Leaves ks left) : Leaves (k :: ks) left
  | group {inside ks left : List Token.Kind} (hinside : Closes 0 inside) (h : Leaves ks left) :
    Leaves (.symbol .leftParen :: (inside ++ .symbol .rightParen :: ks)) left
  /-- Nothing is left but what follows the end of the statement, if the tokens go on there. -/
  | rest (ks : List Token.Kind) :
    Leaves (.keyword .partition :: ks) (ks.dropWhile (· ≠ .eof))

section

variable {ks ls left : List Token.Kind}

/-- At the end of the statement no token is passed over. -/
theorem Leaves.eq_of_eof (h : Leaves ks left) (hks : ks.headD .eof = .eof) : left = ks := by
  cases h with
  | refl => rfl
  | token hk => exact absurd hks (ne_eof_of_standsWithin hk)
  | group => cases hks
  | rest => cases hks

theorem headD_dropWhile_ne_eof (ks : List Token.Kind) :
    (ks.dropWhile (· ≠ .eof)).headD .eof = .eof := by
  induction ks with
  | nil => rfl
  | cons k ks ih =>
    by_cases hk : k = .eof
    · rw [List.dropWhile_cons_of_neg (by simp [hk]), List.headD_cons, hk]
    · rwa [List.dropWhile_cons_of_pos (by simp [hk])]

theorem Leaves.trans (h : Leaves ks ls) (h' : Leaves ls left) : Leaves ks left := by
  induction h with
  | refl => exact h'
  | token hk _ ih => exact .token hk (ih h')
  | group hinside _ ih => exact .group hinside (ih h')
  | rest ks =>
    rw [h'.eq_of_eof (headD_dropWhile_ne_eof ks)]
    exact .rest ks

theorem Leaves.length_le (h : Leaves ks left) : left.length ≤ ks.length := by
  induction h with
  | refl => exact Nat.le_refl _
  | token _ _ ih => exact Nat.le_succ_of_le ih
  | group _ _ ih =>
    simp only [List.length_cons, List.length_append]
    omega
  | rest ks => exact Nat.le_succ_of_le (List.dropWhile_suffix _).length_le

theorem closes_of_closeGroup {finish previous : Span} {depth : Nat} {ts : List Token}
    (h : closeGroup finish depth previous ts = .ok next) :
    ∃ inside, ts.map Token.kind = inside ++ .symbol .rightParen :: next.kinds ∧
      Closes depth inside := by
  induction ts generalizing depth previous with
  | nil => cases h
  | cons t ts ih =>
    rw [closeGroup] at h
    rw [List.map_cons]
    generalize t.kind = k at h
    split at h
    · obtain ⟨inside, heq, hinside⟩ := ih h
      exact ⟨_ :: inside, by rw [heq]; rfl, .opens hinside⟩
    · split at h
      next hdepth =>
        cases h
        subst hdepth
        exact ⟨[], rfl, .nil⟩
      next hdepth =>
        obtain ⟨inside, heq, hinside⟩ := ih h
        obtain ⟨n, rfl⟩ := Nat.exists_eq_succ_of_ne_zero hdepth
        exact ⟨_ :: inside, by rw [heq]; rfl, .closes hinside⟩
    · cases h
    next hopen hclose hfault =>
      obtain ⟨inside, heq, hinside⟩ := ih h
      exact ⟨k :: inside, by rw [heq]; rfl, .plain hopen hclose hfault hinside⟩

theorem leaves_of_skipGroup {u : Unit} (h : skipGroup c = .ok (u, next)) :
    Leaves c.kinds next.kinds := by
  obtain ⟨hkind, hclose⟩ := skipGroup_eq_ok_iff.1 h
  obtain ⟨inside, heq, hinside⟩ := closes_of_closeGroup hclose
  rw [Cursor.kinds_of_kind hkind nofun, Cursor.kinds, heq]
  exact .group hinside (.refl _)

theorem leaves_advance (hc : standsWithin c.kind = true) : Leaves c.kinds c.advance.kinds := by
  rw [Cursor.kinds_of_kind rfl (ne_eof_of_standsWithin hc)]
  exact .token hc (.refl _)

end

theorem Cursor.kind_of_head (h : c.contents.head? = some x) : c.kind = x.1 := by
  obtain ⟨xs, hxs⟩ := List.head?_eq_some_iff.1 h
  exact kind_of_contents hxs

/-- What a reader leaves. -/
theorem StepsAt.leaves (h : StepsAt v d d' k r) (hc : c.kind = k) (ha : r c = .ok (a, next)) :
    Leaves c.kinds next.kinds := by
  induction h generalizing c next with
  | pure =>
    cases ha
    exact .refl _
  | fail => cases ha
  | kind _ _ ih =>
    rw [kind_bind, hc] at ha
    exact ih hc ha
  | readAsOr hf _ _ ih =>
    rw [readAsOr_eq] at ha
    split at ha
    next b hb =>
      cases ha
      obtain ⟨x, hx, hb⟩ := Option.bind_eq_some_iff.1 hb
      rw [← Cursor.kind_of_head hx] at hb
      exact leaves_advance (standsWithin_of_isPlain (hf _ _ _ hb))
    next => exact ih hc ha
  | advance hk =>
    cases ha
    subst hc
    exact leaves_advance hk
  | group => exact leaves_of_skipGroup ha
  | rest =>
    obtain ⟨m, hm, hkinds⟩ := skipAll_eq c
    cases hm.symm.trans ha
    rw [hkinds, Cursor.kinds_of_kind hc nofun]
    exact .rest _
  | bind _ _ ihr ihf =>
    obtain ⟨b, m, hb, ha⟩ := read_bind_iff.1 ha
    exact (ihr hc hb).trans (ihf c b m hc hb rfl ha)
  | loop _ _ ih =>
    exact many_induction (P := fun c _ next => Leaves c.kinds next.kinds)
      (fun c m hm => ih c.kind rfl hm)
      (fun c b m bs next hm hrest => (ih c.kind rfl hm).trans hrest) ha
  | shift _ _ ih => exact ih hc ha
  | known _ _ ih => exact ih hc ha

theorem Steps.leaves (h : Steps v d d' r) (ha : r c = .ok (a, next)) :
    Leaves c.kinds next.kinds :=
  (h c.kind).leaves rfl ha

/-- No reader leaves more tokens than there were. -/
theorem StepsAt.length_le (h : StepsAt v d d' k r) (hc : c.kind = k) (ha : r c = .ok (a, next)) :
    next.tokens.length ≤ c.tokens.length := by
  simpa only [Cursor.kinds, List.length_map] using (h.leaves hc ha).length_le

theorem Steps.length_le (h : Steps v d d' r) (ha : r c = .ok (a, next)) :
    next.tokens.length ≤ c.tokens.length :=
  (h c.kind).length_le rfl ha

/-! ## Tails in the place of others -/

section

variable {t' : List Content} {m : Cursor}

theorem Setting.Front.lead (h : v.Front d (x :: xs) t) (hx : Leads d x.1 d') : v.Front d' xs t := by
  cases v with
  | statement => exact h
  | clause => exact ⟨h.1.lead hx, h.2⟩
  | definition => trivial

theorem Setting.Front.shift (h : v.Front d w t) (hv : v ≠ .clause) (e : Nat) : v.Front e w t := by
  cases v with
  | statement => exact h
  | clause => exact absurd rfl hv
  | definition => trivial

theorem Setting.Stops.mono (h : v.Stops t next) (hle : next.tokens.length ≤ m.tokens.length) :
    v.Stops t m := by
  cases v with
  | statement => trivial
  | clause => trivial
  | definition =>
    rw [Setting.Stops, Cursor.length_contents] at h ⊢
    exact Nat.le_trans h hle

/-- The next token is the same in front of both tails, unless they are next themselves. -/
theorem Setting.Front.headKind_cases (h : v.Front d w t) (ht : v.Swaps t t') :
    headKind (w ++ t') = headKind (w ++ t) ∨
      w = [] ∧ v.alike d (headKind t) = true ∧ v.alike d (headKind t') = true := by
  cases w with
  | cons x xs => exact .inl rfl
  | nil =>
    cases v with
    | statement => exact h.elim
    | clause =>
      obtain ⟨hwithin, htail⟩ := h
      cases hwithin
      exact .inr ⟨rfl, htail.endsClause, ht⟩
    | definition =>
      rcases ht with ⟨rfl, rfl⟩ | ht
      · exact .inl rfl
      · exact .inr ⟨rfl, ht⟩

/-- What is passed over without touching the tail is not of the tail. -/
theorem Setting.Front.exists_cons (h : v.Front d w t) (hstops : v.Stops t next)
    (hc : c.contents = w ++ t) (hlt : next.tokens.length < c.tokens.length)
    (hleads : Leads d c.kind d') (heof : c.kind ≠ .eof) : ∃ x xs, w = x :: xs ∧ x.1 = c.kind := by
  rw [Cursor.kind_of_contents hc] at hleads heof ⊢
  cases w with
  | cons x xs => exact ⟨x, xs, rfl, rfl⟩
  | nil =>
    cases v with
    | statement => exact h.elim
    | clause => exact absurd rfl (h.1.ne_nil_of_leads h.2 hleads heof)
    | definition =>
      rw [← next.length_contents, ← c.length_contents, hc] at hlt
      exact absurd hstops (Nat.not_le.2 hlt)

/-! ### Groups -/

/-- What a token does to the search for the end of a group depends on its kind alone. -/
theorem closeGroup_cons_cases (k : Token.Kind) (n : Nat) :
    (∀ finish previous (u : Token) us, u.kind = k →
      ∃ e, closeGroup finish n previous (u :: us) = .error e) ∨
    (∀ finish previous (u : Token) us, u.kind = k →
      closeGroup finish n previous (u :: us) = .ok ⟨u.span, us, finish⟩) ∨
    ∃ m, ∀ finish previous (u : Token) us, u.kind = k →
      closeGroup finish n previous (u :: us) = closeGroup finish m u.span us := by
  by_cases hopen : k = .symbol .leftParen
  · exact .inr (.inr ⟨n + 1, fun _ _ _ _ hu => closeGroup_open (hu.trans hopen)⟩)
  by_cases hclose : k = .symbol .rightParen
  · cases n with
    | zero => exact .inr (.inl fun _ _ _ _ hu => closeGroup_close (hu.trans hclose))
    | succ n => exact .inr (.inr ⟨n, fun _ _ _ _ hu => closeGroup_close (hu.trans hclose)⟩)
  by_cases hfault : ∃ fault, k = .error fault
  · obtain ⟨fault, rfl⟩ := hfault
    exact .inl fun _ _ _ _ hu => ⟨_, by rw [closeGroup, hu]⟩
  · refine .inr (.inr ⟨n, fun _ _ u us hu => ?_⟩)
    exact closeGroup_plain (hu ▸ hopen) (hu ▸ hclose) fun fault heq =>
      hfault ⟨fault, hu.symm.trans heq⟩

variable {finish previous : Span} {n : Nat} {ts : List Token}

/-- A group that is closed in front of a tail is closed in front of every other. -/
theorem closeGroup_exchanges (hts : (ts.map fun t => (t.kind, t.text)) = w ++ t)
    (h : closeGroup finish n previous ts = .ok next) (hlen : t.length ≤ next.contents.length) :
    ∃ left, left <:+ w ∧ next.contents = left ++ t ∧
      ∀ t' finish previous (ts : List Token), (ts.map fun t => (t.kind, t.text)) = w ++ t' →
        ∃ next, closeGroup finish n previous ts = .ok next ∧ next.contents = left ++ t' := by
  induction w generalizing n previous ts with
  | nil =>
    cases ts with
    | nil => cases h
    | cons u us =>
      have hshorter : next.tokens.length < (u :: us).length := by
        rcases closeGroup_cons_cases u.kind n with hfails | hends | ⟨m, hgoes⟩
        · obtain ⟨e, he⟩ := hfails finish previous u us rfl
          cases he.symm.trans h
        · cases (hends finish previous u us rfl).symm.trans h
          exact Nat.lt_succ_self _
        · rw [hgoes finish previous u us rfl] at h
          exact Nat.lt_succ_of_le (length_closeGroup h)
      have hlength : t.length = (u :: us).length := by
        rw [← List.nil_append t, ← hts, List.length_map]
      rw [hlength, next.length_contents] at hlen
      exact absurd hlen (Nat.not_le.2 hshorter)
  | cons x xs ih =>
    obtain ⟨u, us, rfl, hu, htail⟩ := exists_cons_of_contents hts
    rcases closeGroup_cons_cases x.1 n with hfails | hends | ⟨m, hgoes⟩
    · obtain ⟨e, he⟩ := hfails finish previous u us hu
      cases he.symm.trans h
    · cases (hends finish previous u us hu).symm.trans h
      refine ⟨xs, List.suffix_cons x xs, htail, fun t' finish previous ts hts => ?_⟩
      obtain ⟨v, vs, rfl, hv, hrest⟩ := exists_cons_of_contents hts
      exact ⟨_, hends finish previous v vs hv, hrest⟩
    · rw [hgoes finish previous u us hu] at h
      obtain ⟨left, hsuffix, hleft, hruns⟩ := ih htail h
      refine ⟨left, hsuffix.trans (List.suffix_cons x xs), hleft,
        fun t' finish previous ts hts => ?_⟩
      obtain ⟨v, vs, rfl, hv, hrest⟩ := exists_cons_of_contents hts
      rw [hgoes finish previous v vs hv]
      exact hruns t' finish v.span vs hrest

/-- A group that is open in a clause, and the `n` groups within it, are closed in the clause. -/
theorem within_of_closeGroup {depth : Nat} (hdepth : depth = d + n + 1) (hw : Within depth w)
    (hts : (ts.map fun t => (t.kind, t.text)) = w ++ t)
    (h : closeGroup finish n previous ts = .ok next) :
    ∃ left, Within d left ∧ next.contents = left ++ t := by
  induction hw generalizing n previous ts with
  | nil => cases hdepth
  | opens _ ih =>
    obtain ⟨u, us, rfl, hu, htail⟩ := exists_cons_of_contents hts
    rw [closeGroup_open hu] at h
    exact ih (congrArg (· + 1) hdepth) htail h
  | @closes depth text xs hxs ih =>
    obtain ⟨u, us, rfl, hu, htail⟩ := exists_cons_of_contents hts
    rw [closeGroup_close hu] at h
    have hdepth : depth = d + n := Nat.succ.inj hdepth
    cases n with
    | zero =>
      cases h
      obtain rfl : depth = d := hdepth
      exact ⟨xs, hxs, htail⟩
    | succ n => exact ih hdepth htail h
  | plain hx _ _ _ ih =>
    obtain ⟨u, us, rfl, hu, htail⟩ := exists_cons_of_contents hts
    have hfault := kind_ne_error_of_closeGroup h
    obtain ⟨hopen, hclose⟩ := ne_paren_of_keepsDepth hx
    rw [hu] at hfault
    rw [closeGroup_plain (hu ▸ hopen) (hu ▸ hclose) (hu ▸ hfault)] at h
    exact ih hdepth htail h

theorem skipGroup_exchanges (v : Setting) (d : Nat) (k : Token.Kind) :
    Exchanges v d d k skipGroup := by
  intro c u next w t hk hw hstops hc h
  obtain ⟨hopen, hclose⟩ := skipGroup_eq_ok_iff.1 h
  have hleads : Leads d c.kind (d + 1) := hopen ▸ .opens d
  obtain ⟨x, xs, rfl, hx⟩ :=
    hw.exists_cons hstops hc (length_skipGroup h) hleads (by simp [hopen])
  have hopened : x.1 = .symbol .leftParen := hx.trans hopen
  have hts := Cursor.contents_advance hc
  have hlen : t.length ≤ next.contents.length ∧
      ∀ left, next.contents = left ++ t → v.Front d left t := by
    cases v with
    | statement => exact hw.elim
    | clause =>
      have hwithin : Within (d + 1) xs := hw.1.lead (hopened ▸ .opens d)
      obtain ⟨left, hleft, hnext⟩ := within_of_closeGroup (n := 0) rfl hwithin hts hclose
      refine ⟨by simp [hnext], fun left' hleft' => ⟨?_, hw.2⟩⟩
      rwa [← List.append_cancel_right (hnext.symm.trans hleft')]
    | definition => exact ⟨hstops, fun _ _ => trivial⟩
  obtain ⟨left, hsuffix, hleft, hruns⟩ := closeGroup_exchanges hts hclose hlen.1
  refine ⟨left, hsuffix.trans (List.suffix_cons x xs), hlen.2 left hleft, hleft,
    fun t' _ c' hc' => ?_⟩
  obtain ⟨next', hnext', hleft'⟩ := hruns t' c'.advance.finish c'.advance.previous
    c'.advance.tokens (Cursor.contents_advance hc')
  exact ⟨next', skipGroup_eq_ok_iff.2 ⟨(Cursor.kind_of_contents hc').trans hopened, hnext'⟩, hleft'⟩

/-! ### All steps -/

theorem exchanges_advance (v : Setting) (hk : standsWithin k = true) (hleads : Leads d k d') :
    Exchanges v d d' k advance := by
  intro c u next w t hkind hw hstops hc h
  cases h
  subst hkind
  have hne := ne_eof_of_standsWithin hk
  obtain ⟨x, xs, rfl, hx⟩ :=
    hw.exists_cons hstops hc (Cursor.length_advance hne) hleads hne
  exact ⟨xs, List.suffix_cons x xs, hw.lead (hx ▸ hleads), Cursor.contents_advance hc,
    fun t' _ c' hc' => ⟨_, rfl, Cursor.contents_advance hc'⟩⟩

theorem exchanges_kind {g : Token.Kind → Reader α} (hg : Exchanges v d d' k (g k))
    (halike : v.alike d k = true → (∀ k', v.alike d k' = true → g k' = g k) ∨ TakesAt k (g k)) :
    Exchanges v d d' k (kind >>= g) := by
  intro c a next w t hk hw hstops hc h
  rw [kind_bind, hk] at h
  obtain ⟨left, hleft, hfront, hnext, hreads⟩ := hg c a next w t hk hw hstops hc h
  refine ⟨left, hleft, hfront, hnext, fun t' ht => reads_kind_bind ?_⟩
  rw [Cursor.kind_of_contents hc] at hk
  rcases hw.headKind_cases ht with hhead | ⟨rfl, hkind, hkind'⟩
  · rw [hhead, hk]
    exact hreads t' ht
  · rcases halike (hk ▸ hkind) with hsame | htakes
    · rw [List.nil_append, hsame _ hkind']
      exact hreads t' ht
    · -- The token that is taken would be one of the tail.
      obtain rfl : left = [] := List.suffix_nil.1 hleft
      have hlt := htakes c a next ((Cursor.kind_of_contents hc).trans hk) h
      rw [← next.length_contents, ← c.length_contents, hc, hnext] at hlt
      exact absurd hlt (Nat.lt_irrefl _)

/-- If the next token stands for nothing, then neither does the one in front of another tail. -/
theorem Setting.Front.stands_for_nothing {f : Token.Kind → String → Option α}
    (hf : ∀ k text a, f k text = some a → isPlain k = true) (hw : v.Front d w t)
    (hv : v ≠ .definition) (ht : v.Swaps t t')
    (hnone : ((w ++ t).head?.bind fun x => f x.1 x.2) = none) :
    ((w ++ t').head?.bind fun x => f x.1 x.2) = none := by
  cases w with
  | cons x xs => exact hnone
  | nil =>
    cases v with
    | statement => exact hw.elim
    | definition => exact absurd rfl hv
    | clause =>
      cases t' with
      | nil => rfl
      | cons x xs =>
        refine Option.eq_none_iff_forall_ne_some.2 fun b hb => ?_
        have hends : endsClause x.1 = false := endsClause_of_isPlain (hf _ _ b hb)
        exact Bool.false_ne_true (hends.symm.trans ht)

theorem exchanges_readAsOr {f : Token.Kind → String → Option α} {other : Reader α}
    (hf : ∀ k text a, f k text = some a → isPlain k = true) (hother : Exchanges v d d k other)
    (hfails : v = .definition → ∀ c a next, other c ≠ .ok (a, next)) :
    Exchanges v d d k (readAsOr f other) := by
  intro c a next w t hk hw hstops hc h
  rw [readAsOr_eq] at h
  split at h
  next b hb =>
    cases h
    obtain ⟨x, hx, hb⟩ := Option.bind_eq_some_iff.1 hb
    have hkind := Cursor.kind_of_head hx
    have hplain := hf _ _ _ hb
    have hne := ne_eof_of_standsWithin (standsWithin_of_isPlain hplain)
    have hleads : Leads d c.kind d := hkind ▸ .keeps (keepsDepth_of_isPlain hplain) d
    obtain ⟨y, ys, rfl, -⟩ :=
      hw.exists_cons hstops hc (Cursor.length_advance (hkind ▸ hne)) hleads (hkind ▸ hne)
    obtain rfl : y = x := by simpa [hc] using hx
    refine ⟨ys, List.suffix_cons y ys, hw.lead (hkind ▸ hleads), Cursor.contents_advance hc,
      fun t' _ c' hc' => ⟨c'.advance, ?_, Cursor.contents_advance hc'⟩⟩
    rw [readAsOr_eq, hc', List.cons_append, List.head?_cons, Option.bind_some, hb]
  next hnone =>
    obtain ⟨left, hleft, hfront, hnext, hreads⟩ := hother c a next w t hk hw hstops hc h
    refine ⟨left, hleft, hfront, hnext, fun t' ht c' hc' => ?_⟩
    rw [hc] at hnone
    rw [readAsOr_eq, hc', hw.stands_for_nothing hf (fun hv => hfails hv c a next h) ht hnone]
    exact hreads t' ht c' hc'

/-- No tokens of a clause begin with `PARTITION`. -/
theorem exchanges_rest (hv : v ≠ .definition) :
    Exchanges v d d (.keyword .partition) skipAll := by
  intro c u next w t hk hw _ hc _
  cases v with
  | statement => exact hw.elim
  | definition => exact absurd rfl hv
  | clause =>
    rw [Cursor.kind_of_contents hc] at hk
    cases w with
    | nil =>
      have hends := hw.2.endsClause
      rw [List.nil_append] at hk
      rw [hk] at hends
      cases hends
    | cons x xs => exact absurd hk hw.1.ne_partition

theorem exchanges_bind {s : Reader β} {f : β → Reader α} {d₁ : Nat} (hs : Exchanges v d d₁ k s)
    (hf : ∀ c b m, c.kind = k → s c = .ok (b, m) → Exchanges v d₁ d' m.kind (f b))
    (hlength : ∀ c b m a next, c.kind = k → s c = .ok (b, m) → f b m = .ok (a, next) →
      next.tokens.length ≤ m.tokens.length) : Exchanges v d d' k (s >>= f) := by
  intro c a next w t hk hw hstops hc h
  obtain ⟨b, m, hb, ha⟩ := read_bind_iff.1 h
  have hle := hlength c b m a next hk hb ha
  obtain ⟨mid, hmid, hfront, hm, hreads⟩ := hs c b m w t hk hw (hstops.mono hle) hc hb
  obtain ⟨left, hleft, hfront', hnext, hreads'⟩ :=
    hf c b m hk hb m a next mid t rfl hfront hstops hm ha
  exact ⟨left, hleft.trans hmid, hfront', hnext, fun t' ht => (hreads t' ht).bind (hreads' t' ht)⟩

theorem exchanges_loop {round : Reader (Option α)} (hround : Progresses round)
    (hsteps : ∀ c a next, round c = .ok (a, next) → next.tokens.length ≤ c.tokens.length)
    (h : ∀ k, Exchanges v d d k round) : Exchanges v d d k (many round) := by
  intro c as next w t _ hw hstops hc hrun
  refine (many_induction (P := fun c as next => next.tokens.length ≤ c.tokens.length ∧
    ∀ w, v.Front d w t → v.Stops t next → c.contents = w ++ t →
      ∃ left, left <:+ w ∧ v.Front d left t ∧ next.contents = left ++ t ∧
        ∀ t', v.Swaps t t' → ReadsContents (many round) (w ++ t') as (left ++ t'))
    (fun c m hm => ⟨hsteps c none m hm, fun w hw hstops hc => ?_⟩)
    (fun c a m as next hm hrest => ?_) hrun).2 w hw hstops hc
  · obtain ⟨left, hleft, hfront, hnext, hreads⟩ := h c.kind c none m w t rfl hw hstops hc hm
    exact ⟨left, hleft, hfront, hnext, fun t' ht => (hreads t' ht).many_nil⟩
  · obtain ⟨hle, ih⟩ := hrest
    refine ⟨Nat.le_trans hle (hsteps c (some a) m hm), fun w hw hstops hc => ?_⟩
    obtain ⟨mid, hmid, hfront, hm', hreads⟩ :=
      h c.kind c (some a) m w t rfl hw (hstops.mono hle) hc hm
    obtain ⟨left, hleft, hfront', hnext, hreads'⟩ := ih mid hfront hstops hm'
    exact ⟨left, hleft.trans hmid, hfront', hnext,
      fun t' ht => (hreads t' ht).many_cons hround (hreads' t' ht)⟩

/-- A reader reads the same in front of another tail. -/
theorem StepsAt.exchanges (h : StepsAt v d d' k r) : Exchanges v d d' k r := by
  induction h with
  | pure a =>
    intro c b next w t _ hw _ hc h
    cases h
    exact ⟨w, List.suffix_rfl, hw, hc, fun _ _ => reads_pure _ _⟩
  | fail =>
    intro c b next w t _ _ _ _ h
    cases h
  | kind _ halike ih => exact exchanges_kind ih halike
  | readAsOr hf _ hfails ih => exact exchanges_readAsOr hf ih hfails
  | advance hk hleads => exact exchanges_advance _ hk hleads
  | group => exact skipGroup_exchanges _ _ _
  | rest hv => exact exchanges_rest hv
  | bind _ hf ihr ihf =>
    exact exchanges_bind ihr ihf fun c b m a next hk hb ha => (hf c b m hk hb).length_le rfl ha
  | loop hround h ih =>
    exact exchanges_loop hround (fun c a next hr => (h c.kind).length_le rfl hr) ih
  | shift hv _ ih =>
    intro c a next w t hk hw hstops hc h
    obtain ⟨left, hleft, hfront, hnext, hreads⟩ := ih c a next w t hk (hw.shift hv _) hstops hc h
    exact ⟨left, hleft, hfront.shift hv _, hnext, hreads⟩
  | known _ hr _ => exact hr

/-- What a reader reads from tokens of a clause and leaves of them, wherever the clause ends. -/
def Passes (r : Reader α) (w : List Content) (a : α) (left : List Content) : Prop :=
  ∀ rest, endsClause (headKind rest) = true → ReadsContents r (w ++ rest) a (left ++ rest)

/-- A reader of a clause stays within the clause, and reads the same in all statements. -/
theorem Steps.passes (h : Steps .clause d d' r) (hw : Within d w) (htail : IsTail tail)
    (hc : c.contents = w ++ tail) (hr : r c = .ok (a, next)) :
    ∃ left, left <:+ w ∧ Within d' left ∧ next.contents = left ++ tail ∧ Passes r w a left := by
  obtain ⟨left, hleft, hfront, hnext, hreads⟩ :=
    (h c.kind).exchanges c a next w tail rfl ⟨hw, htail⟩ trivial hc hr
  exact ⟨left, hleft, hfront.1, hnext, hreads⟩

/-- What is read up to some tokens is read up to others that are interchangeable with them. -/
theorem Steps.reads_up_to (h : Steps .definition d d' r) (ht : Interchangeable t t')
    (hc : c.contents = w ++ t) (hr : r c = .ok (a, next)) (hnext : next.contents = t) :
    ReadsContents r (w ++ t') a t' := by
  obtain ⟨left, -, -, hleft, hreads⟩ :=
    (h c.kind).exchanges c a next w t rfl trivial (Nat.le_of_eq (by rw [hnext])) hc hr
  obtain rfl : left = [] := List.append_left_eq_self.1 (hleft.symm.trans hnext)
  exact hreads t' ht

/-- What is read depends on the tokens, and not on their places. -/
theorem Steps.reads (h : Steps .definition d d' r) (hr : r c = .ok (a, next)) :
    ReadsContents r c.contents a next.contents := by
  obtain ⟨left, -, -, hleft, hreads⟩ := (h c.kind).exchanges c a next c.contents [] rfl trivial
    (Nat.zero_le _) (List.append_nil _).symm hr
  have hreads := hreads [] (.inl ⟨rfl, rfl⟩)
  rwa [← hleft, List.append_nil] at hreads

end

end SchemaTrail.Statement
