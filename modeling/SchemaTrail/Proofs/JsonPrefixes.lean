import SchemaTrail.Proofs.JsonText

/-!
# Values with an object behind them

A text holds one value only: a text that holds one holds none once an object is written behind it
(`feed_append_object`).  The bracket that opens the object ends the token before it, so that the
tokens in front of the object are those of the text alone.
-/

namespace SchemaTrail.Json

namespace Token

/-! ## Scanners -/

/-- A scanner that finds the same in front of an object as at the end of a text. -/
def Stops {α : Type} (scan : List Char → Option (α × List Char)) : Prop :=
  ∀ {cs : List Char} {a : α} {rest : List Char}, scan cs = some (a, rest) →
    ∀ tail, scan (cs ++ '{' :: tail) = some (a, rest ++ '{' :: tail)

theorem Stops.map {α β : Type} {scan : List Char → Option (α × List Char)} {f : α → β}
    {cs rest : List Char} {b : β} (hscan : Stops scan)
    (h : ((scan cs).map fun r => (f r.1, r.2)) = some (b, rest)) (tail : List Char) :
    ((scan (cs ++ '{' :: tail)).map fun r => (f r.1, r.2)) = some (b, rest ++ '{' :: tail) := by
  obtain ⟨⟨a, rest⟩, ha, hr⟩ := Option.map_eq_some_iff.1 h
  cases hr
  rw [hscan ha tail]
  rfl

/-! ### Numbers -/

theorem stops_digits? : Stops digits? := by
  intro cs ds rest h tail
  simp only [digits?] at h
  split at h
  · cases h
  next hne =>
    cases h
    have hbrace : Char.isDigit '{' = false := rfl
    have htake : (cs ++ '{' :: tail).takeWhile Char.isDigit = cs.takeWhile Char.isDigit := by
      rw [List.takeWhile_append]
      split
      next hall =>
        have hdigits := (List.takeWhile_prefix Char.isDigit (l := cs)).eq_of_length hall
        simp [hdigits, hbrace]
      next => rfl
    have hdrop : (cs ++ '{' :: tail).dropWhile Char.isDigit =
        cs.dropWhile Char.isDigit ++ '{' :: tail := by
      rw [List.dropWhile_append]
      split
      next hnil => simp [List.isEmpty_iff.1 hnil, hbrace]
      next => rfl
    rw [digits?, htake, hdrop]
    exact if_neg hne

theorem stops_whole? : Stops whole? := by
  intro cs ds rest h tail
  unfold whole? at h
  split at h
  · cases h
    rfl
  next hzero =>
    have hne : cs ≠ [] := by
      rintro rfl
      cases h
    obtain ⟨c, cs, rfl⟩ := List.exists_cons_of_ne_nil hne
    rw [List.cons_append, whole?]
    · exact stops_digits? h tail
    · exact fun cs' heq => hzero cs (by rw [(List.cons.inj heq).1])

theorem stops_fraction? : Stops fraction? := by
  intro cs ds rest h tail
  unfold fraction? at h
  split at h
  · exact stops_digits?.map h tail
  next hpoint =>
    cases h
    unfold fraction?
    split
    next rest heq =>
      cases cs with
      | nil => cases heq
      | cons c cs => exact absurd (by rw [(List.cons.inj heq).1]) (hpoint cs)
    next => rfl

theorem stops_exponent? : Stops exponent? := by
  intro cs ds rest h tail
  match cs with
  | [] =>
    cases h
    rfl
  | c :: cs =>
    by_cases hletter : c = 'e' ∨ c = 'E'
    · match cs with
      | [] =>
        rw [exponent?.eq_def] at h
        simp [hletter] at h
      | s :: cs =>
        simp only [exponent?.eq_def, List.cons_append, if_pos hletter] at h ⊢
        by_cases hsign : s = '+' ∨ s = '-'
        · rw [if_pos hsign] at h ⊢
          exact Stops.map (f := (c :: s :: ·)) stops_digits? h tail
        · rw [if_neg hsign] at h ⊢
          exact stops_digits?.map h tail
    · simp only [exponent?.eq_def, List.cons_append, if_neg hletter] at h ⊢
      cases h
      rfl

theorem stops_unsigned? : Stops unsigned? := by
  intro cs ds rest h tail
  simp only [unsigned?, Option.bind_eq_some_iff, Option.map_eq_some_iff] at h
  obtain ⟨⟨_, rest₁⟩, hwhole, ⟨_, rest₂⟩, hfraction, ⟨_, rest₃⟩, hexponent, hr⟩ := h
  cases hr
  rw [unsigned?, stops_whole? hwhole tail, Option.bind_some, stops_fraction? hfraction tail,
    Option.bind_some, stops_exponent? hexponent tail]
  rfl

theorem stops_number? : Stops number? := by
  intro cs ds rest h tail
  unfold number? at h
  split at h
  · exact stops_unsigned?.map h tail
  next hminus =>
    have hstop := stops_unsigned? h tail
    unfold number?
    split
    next rest heq =>
      cases cs with
      | nil => cases h
      | cons c cs => exact absurd (by rw [(List.cons.inj heq).1]) (hminus cs)
    next => exact hstop

/-! ### Strings -/

/-- An escape of a code has four digits. -/
theorem exists_of_stringUnit? {cs : List Char}
    (h : (stringUnit? ('\\' :: 'u' :: cs)).isSome = true) :
    ∃ a b c d rest, cs = a :: b :: c :: d :: rest := by
  match cs with
  | a :: b :: c :: d :: rest => exact ⟨a, b, c, d, rest, rfl⟩
  | [] | [_] | [_, _] | [_, _, _] => simp [stringUnit?, unescape?] at h

/-- A unit stays the same in front of an object if the string goes on behind it: otherwise half a
surrogate pair might find a part of the other half there. -/
theorem stringUnit?_append {cs : List Char} {u : StringUnit} (h : stringUnit? cs = some u)
    (hnext : u.rest.head? = some '"' ∨ (stringUnit? u.rest).isSome = true) (tail : List Char) :
    stringUnit? (cs ++ '{' :: tail) = some ⟨u.value, u.rest ++ '{' :: tail⟩ := by
  unfold stringUnit? at h
  split at h
  · cases h
  next a b c d rest =>
    obtain ⟨n, hn, h⟩ := Option.bind_eq_some_iff.1 h
    simp only [List.cons_append, stringUnit?, hn, Option.bind_some]
    by_cases hbasic : n < 0xd800 ∨ 0xe000 ≤ n
    · rw [if_pos hbasic] at h ⊢
      cases h
      rfl
    rw [if_neg hbasic] at h ⊢
    by_cases hlow : 0xdc00 ≤ n
    · rw [if_pos hlow] at h ⊢
      cases h
      rfl
    rw [if_neg hlow] at h ⊢
    split at h
    next a' b' c' d' rest' =>
      obtain ⟨low, hlow, h⟩ := Option.bind_eq_some_iff.1 h
      simp only [List.cons_append, hlow, Option.bind_some]
      split at h <;> cases h
      · rw [if_pos (by assumption)]
      · rw [if_neg (by assumption)]
        rfl
    next hshort =>
      cases h
      split
      next heq =>
        rcases rest with _ | ⟨x, _ | ⟨y, rest⟩⟩
        · simp at heq
        · simp at heq
        · simp only [List.cons_append, List.cons.injEq] at heq
          obtain ⟨rfl, rfl, -⟩ := heq
          obtain ⟨a', b', c', d', rest', rfl⟩ :=
            exists_of_stringUnit? (hnext.resolve_left (by simp))
          exact absurd rfl (hshort a' b' c' d' rest')
      next => rfl
  next c rest hcode =>
    obtain ⟨d, hd, rfl⟩ := Option.map_eq_some_iff.1 h
    have hu : c ≠ 'u' := by
      rintro rfl
      cases hd
    rw [List.cons_append, List.cons_append, stringUnit?]
    · rw [hd]
      rfl
    · exact fun _ _ _ _ _ heq => absurd heq hu
  next c rest _ hescape =>
    split at h
    · cases h
    next hplain =>
      cases h
      have hbackslash : c ≠ '\\' := fun heq => hplain (.inr heq)
      rw [List.cons_append, stringUnit?, if_neg hplain]
      · exact fun _ _ _ _ _ heq => absurd heq hbackslash
      · exact fun _ _ heq => absurd heq hbackslash

theorem string?_append {read : Option (List Char)} {cs rest : List Char} {t : Token}
    (h : string? read cs = some (t, rest)) (tail : List Char) :
    string? read (cs ++ '{' :: tail) = some (t, rest ++ '{' :: tail) := by
  fun_induction string? read cs with
  | case1 read rest =>
    cases h
    rw [List.cons_append, string?]
  | case2 => cases h
  | case3 read cs hquote u hu _ ih =>
    have hnext : u.rest.head? = some '"' ∨ (stringUnit? u.rest).isSome = true := by
      rw [string?.eq_def] at h
      split at h
      next heq => exact .inl (by rw [heq]; rfl)
      next =>
        split at h
        · cases h
        next hsome => exact .inr (by rw [hsome]; rfl)
    have hunit := stringUnit?_append hu hnext tail
    rw [string?]
    · split
      next hnone =>
        rw [hunit] at hnone
        cases hnone
      next v hv =>
        rw [hunit] at hv
        cases hv
        exact ih h
    · intro rest heq
      cases cs with
      | nil => cases hu
      | cons c cs => exact hquote cs (by rw [(List.cons.inj heq).1])

theorem stops_string? (read : Option (List Char)) : Stops (string? read) :=
  fun h tail => string?_append h tail

/-! ### All tokens -/

theorem isDigit_of_unsigned? {c : Char} {cs : List Char} {r : List Char × List Char}
    (h : unsigned? (c :: cs) = some r) : c.isDigit = true := by
  obtain ⟨w, hw, -⟩ := Option.bind_eq_some_iff.1 h
  unfold whole? at hw
  split at hw
  next heq =>
    rw [(List.cons.inj heq).1]
    rfl
  next =>
    refine Bool.of_not_eq_false fun hc => ?_
    simp [digits?, hc] at hw

theorem stops_read? : Stops read? := by
  intro cs t rest h tail
  unfold read? at h
  split at h
  case h_1 => cases h
  case h_11 => exact stops_string? _ h tail
  case h_12 =>
    let number : List Char → Token := fun digits => .number (String.ofList digits)
    match cs with
    | [] => cases h
    | c :: cs =>
      by_cases hminus : c = '-'
      · subst hminus
        exact Stops.map (f := number) stops_number? h tail
      · have hunsigned : number? (c :: cs) = unsigned? (c :: cs) := by
          rw [number?]
          exact fun _ heq => absurd (List.cons.inj heq).1 hminus
        rw [hunsigned] at h
        obtain ⟨r, hr, -⟩ := Option.map_eq_some_iff.1 h
        rw [List.cons_append, read?_digit (isDigit_of_unsigned? hr)]
        exact Stops.map (f := number) stops_unsigned? h tail
  all_goals
    cases h
    rfl

end Token

/-! ## Values -/

variable {b : Builder} {cs : List Char} {j : Json}

theorem feed_nil (b : Builder) : feed b [] = b.result? := by
  rw [feed, Token.readAll?]
  rfl

theorem feed_space {c : Char} (hc : Token.isSpace c = true) (cs : List Char) :
    feed b (c :: cs) = feed b cs := by
  rw [feed, Token.readAll?, if_pos hc, feed]

theorem feed_unreadable {c : Char} (hc : Token.isSpace c = false)
    (h : Token.read? (c :: cs) = none) : feed b (c :: cs) = none := by
  rw [feed, Token.readAll?, if_neg (by simp [hc])]
  split
  next => rfl
  next hsome =>
    rw [h] at hsome
    cases hsome

/-- No object follows a value that is complete. -/
theorem feed_append_object (h : feed b cs = some j) (tail : List Char) :
    feed b (cs ++ '{' :: tail) = none := by
  fun_induction Token.readAll? cs generalizing b with
  | case1 =>
    rw [feed_nil] at h
    rw [List.nil_append, feed_symbol (t := .openObject) fun _ => rfl]
    unfold Builder.result? at h
    split at h
    · rfl
    · cases h
  | case2 c cs hc ih =>
    rw [feed_space hc] at h
    rw [List.cons_append, feed_space hc]
    exact ih h
  | case3 c cs hc hnone =>
    rw [feed_unreadable (Bool.of_not_eq_true hc) hnone] at h
    cases h
  | case4 c cs hc t rest hread _ ih =>
    rw [feed_token hread] at h
    obtain ⟨b', hstep, h⟩ := Option.bind_eq_some_iff.1 h
    rw [feed_token (Token.stops_read? hread tail), hstep, Option.bind_some]
    exact ih h

end SchemaTrail.Json
