import SchemaTrail.Proofs.TokenEnds

/-!
# Numbers that are scanned

How far a number reaches may depend on up to three characters behind its digits: on an exponent, on
its sign, and on what follows a point.  None of them matters that does not belong to the number:
what is scanned and ends behind a text is scanned of this text alone too (`Token.ScansAlone`), for
words (`Token.scanWord_alone`), for numbers and words that begin with digits
(`Token.scanNumber_alone`), and for numbers with another radix (`Token.prefixedOrNumber_alone`).
-/

namespace SchemaTrail.Token

variable {c d radix : Char} {k : Kind} {u v w s : List Char}

/-- What is scanned and ends behind `w` is scanned of `w` alone too. -/
def ScansAlone (f : List Char → Kind × List Char) (w : List Char) : Prop :=
  ∀ k v, f (w ++ v) = (k, v) → f w = (k, [])

/-- What is taken from the front of a text, and leaves what follows `w`, is taken from `w`. -/
theorem takeWhile_alone {p : Char → Bool} (h : (w ++ v).dropWhile p = u ++ v) :
    w.takeWhile p = (w ++ v).takeWhile p ∧ w.dropWhile p = u := by
  have hsplit := List.takeWhile_append_dropWhile (p := p) (l := w ++ v)
  rw [h, ← List.append_assoc] at hsplit
  have htake : ∀ d ∈ (w ++ v).takeWhile p, p d = true := List.all_eq_true.1 List.all_takeWhile
  have hstop : u.takeWhile p = [] ∧ u.dropWhile p = u := by
    cases u with
    | nil => exact ⟨rfl, rfl⟩
    | cons d u =>
      have hd : p d = false := eq_false_of_mem_head?_dropWhile (by rw [h]; rfl)
      simp [hd]
  have hw := (List.append_cancel_right hsplit).symm
  generalize (w ++ v).takeWhile p = front at htake hw
  rw [hw, List.takeWhile_append_of_pos htake, List.dropWhile_append_of_pos htake, hstop.1,
    hstop.2, List.append_nil]
  exact ⟨rfl, rfl⟩

/-! ## Words -/

theorem scanWord_alone (w : List Char) : ScansAlone scanWord w := by
  intro k v h
  obtain ⟨rfl, hend⟩ := Prod.mk.inj h
  obtain ⟨htake, hdrop⟩ := takeWhile_alone (u := []) hend
  rw [scanWord, htake, hdrop]

/-! ## The parts of a number -/

theorem takeFraction_append (cs : List Char) :
    (takeFraction cs).1 ++ (takeFraction cs).2 = cs := by
  unfold takeFraction
  split
  · rfl
  · split
    · rw [List.cons_append, List.takeWhile_append_dropWhile]
    · split <;> rfl
  · rfl

theorem takeExponent_append (cs : List Char) :
    (takeExponent cs).1 ++ (takeExponent cs).2 = cs := by
  unfold takeExponent
  split
  · rfl
  · split
    · split
      · rfl
      · split
        · rw [List.cons_append, List.cons_append, List.takeWhile_append_dropWhile]
        · rw [List.cons_append, List.takeWhile_append_dropWhile]
    · rfl

/-- What is left behind a character that is taken is not the whole text. -/
theorem dropWhile_ne_append_cons {p : Char → Bool} (hd : p d = true) (s v : List Char) :
    (d :: v).dropWhile p ≠ s ++ d :: v := by
  intro h
  rw [List.dropWhile_cons_of_pos hd] at h
  have hle := (List.dropWhile_suffix (l := v) p).length_le
  rw [h, List.length_append, List.length_cons] at hle
  omega

/-- The fraction of a number alone.  What follows the fraction may be an exponent, but not what a
point begins. -/
theorem takeFraction_alone {fraction : List Char} (hs : s.head? ≠ some '.')
    (h : takeFraction (u ++ v) = (fraction, s ++ v)) : takeFraction u = (fraction, s) := by
  have happend := takeFraction_append (u ++ v)
  rw [h, ← List.append_assoc] at happend
  have hu : fraction ++ s = u := List.append_cancel_right happend
  cases u with
  | nil =>
    obtain ⟨rfl, rfl⟩ := List.append_eq_nil_iff.1 hu
    rfl
  | cons c u =>
    by_cases hc : c = '.'
    · subst hc
      cases u with
      | nil =>
        cases v with
        | nil => simpa using h
        | cons d v =>
          rw [List.cons_append, List.nil_append, takeFraction] at h
          repeat' split at h
          next hd => exact absurd (Prod.mk.inj h).2 (dropWhile_ne_append_cons hd s v)
          all_goals
            obtain ⟨rfl, -⟩ := Prod.mk.inj h
            cases hu
          · exact absurd rfl hs
          · rfl
      | cons d u =>
        rw [List.cons_append, List.cons_append, takeFraction] at h
        rw [takeFraction]
        split at h
        next hd =>
          obtain ⟨rfl, hdrop⟩ := Prod.mk.inj h
          obtain ⟨htake, hdrop⟩ := takeWhile_alone (w := d :: u) hdrop
          rw [if_pos hd, htake, hdrop]
          rfl
        next hd =>
          rw [if_neg hd]
          split at h
          · obtain ⟨rfl, -⟩ := Prod.mk.inj h
            cases hu
            exact absurd rfl hs
          next hword =>
            obtain ⟨rfl, -⟩ := Prod.mk.inj h
            cases hu
            rw [if_neg hword]
    · rw [List.cons_append, takeFraction_of_ne hc] at h
      obtain ⟨rfl, -⟩ := Prod.mk.inj h
      rw [takeFraction_of_ne hc, ← hu]
      rfl

theorem takeExponent_alone {exponent : List Char} (h : takeExponent (u ++ v) = (exponent, v)) :
    takeExponent u = (exponent, []) := by
  have happend := takeExponent_append (u ++ v)
  rw [h] at happend
  obtain rfl : exponent = u := List.append_cancel_right happend
  match exponent, h with
  | [], _ => rfl
  | [c], h =>
    cases v with
    | nil => simpa using h
    | cons d v =>
      rw [List.cons_append, List.nil_append, takeExponent] at h
      split at h
      next hc => rw [takeExponent, if_pos hc]
      next => cases h
  | c :: d :: u, h =>
    rw [List.cons_append, List.cons_append, takeExponent] at h
    rw [takeExponent]
    split at h
    next hc =>
      rw [if_pos hc]
      split at h
      next hd =>
        obtain ⟨htake, hdrop⟩ := takeWhile_alone (u := []) (Prod.mk.inj h).2
        rw [if_pos hd, htake, hdrop, (Prod.mk.inj h).1]
      next hd =>
        obtain ⟨htake, hdrop⟩ := takeWhile_alone (w := d :: u) (u := []) (Prod.mk.inj h).2
        rw [if_neg hd, htake, hdrop]
        exact congrArg (·, []) (Prod.mk.inj h).1
    next => cases h

/-! ## Numbers and words of digits -/

/-- What makes an exponent, makes one whatever follows. -/
theorem exponentFollows_append (h : exponentFollows u = true) (v : List Char) :
    exponentFollows (u ++ v) = true := by
  match u, h with
  | [c], h =>
    have hc : c.isDigit = true := by simpa [exponentFollows] using h
    simp [exponentFollows, hc]
  | _ :: _ :: _, h => exact h

/-- The digits that make an exponent belong to it. -/
theorem exponentFollows_alone (hc : c = 'e' ∨ c = 'E')
    (h : takeExponent (c :: u ++ v) = (c :: u, v)) (hfollows : exponentFollows (u ++ v) = true) :
    exponentFollows u = true := by
  match u, h, hfollows with
  | [], h, hfollows =>
    cases v with
    | nil => cases hfollows
    | cons d v =>
      rw [List.cons_append, List.nil_append, takeExponent, if_pos hc] at h
      split at h
      next => cases h
      next hd =>
        rw [List.nil_append] at hfollows
        unfold exponentFollows at hfollows
        have hdigit : d.isDigit = true := by simpa [not_or.1 hd] using hfollows
        exact absurd (Prod.mk.inj h).2 (dropWhile_ne_append_cons hdigit [] v)
  | [d], h, hfollows =>
    cases v with
    | nil => exact hfollows
    | cons x v =>
      rw [List.cons_append, List.cons_append, List.nil_append, takeExponent, if_pos hc] at h
      rw [List.singleton_append, exponentFollows] at hfollows
      rw [exponentFollows]
      split at h
      next hd =>
        have hstays : x.isDigit = false := Bool.eq_false_iff.2 fun hx =>
          dropWhile_ne_append_cons hx [] v (Prod.mk.inj h).2
        simpa [hstays] using hfollows
      next hd => simpa [not_or.1 hd] using hfollows
  | _ :: _ :: _, _, hfollows => exact hfollows

/-- What makes a word of digits makes one of them alone, if the word ends with the text. -/
theorem wordFollows_of_append (hv : ∀ d ∈ v.head?, isWordChar d = false)
    (h : wordFollows (u ++ v) = true) : wordFollows u = true := by
  cases u with
  | nil =>
    cases v with
    | nil => exact h
    | cons d v =>
      have hd : isWordChar d = false := hv d rfl
      have hne : ¬(d = 'e' ∨ d = 'E') := by
        rintro (rfl | rfl) <;> cases hd
      rw [List.nil_append, wordFollows, if_neg hne, hd] at h
      cases h
  | cons c u =>
    rw [List.cons_append, wordFollows] at h
    rw [wordFollows]
    split at h
    next hc =>
      rw [if_pos hc, Bool.not_eq_true']
      rw [Bool.not_eq_true'] at h
      exact Bool.eq_false_iff.2 fun hu => Bool.eq_false_iff.1 h (exponentFollows_append hu v)
    next hc => rw [if_neg hc, h]

/-- What follows the digits of a number makes no word of them alone. -/
theorem wordFollows_alone {fraction exponent : List Char}
    (hfraction : takeFraction (fraction ++ exponent ++ v) = (fraction, exponent ++ v))
    (hexponent : takeExponent (exponent ++ v) = (exponent, v))
    (h : wordFollows (fraction ++ exponent ++ v) = false) :
    wordFollows (fraction ++ exponent) = false := by
  cases hu : fraction ++ exponent with
  | nil => rfl
  | cons c u =>
    rw [hu] at h hfraction
    rw [List.cons_append, wordFollows] at h
    rw [wordFollows]
    split at h
    next hc =>
      have hpoint : c ≠ '.' := by
        rintro rfl
        simp at hc
      rw [List.cons_append, takeFraction_of_ne hpoint] at hfraction
      obtain ⟨rfl, -⟩ := Prod.mk.inj hfraction
      rw [List.nil_append] at hu
      subst hu
      rw [if_pos hc, Bool.not_eq_false']
      rw [Bool.not_eq_false'] at h
      exact exponentFollows_alone hc hexponent h
    next hc => rw [if_neg hc, h]

/-- An exponent begins with its mark. -/
theorem head?_takeExponent (cs : List Char) : (takeExponent cs).1.head? ≠ some '.' := by
  intro h
  unfold takeExponent at h
  split at h
  · cases h
  next c rest =>
    split at h
    next hc =>
      have hpoint : c = '.' := by
        repeat' split at h
        all_goals exact Option.some.inj h
      subst hpoint
      simp at hc
    next => cases h

theorem scanNumber_alone (w : List Char) : ScansAlone scanNumber w := by
  intro k v h
  unfold scanNumber at h
  dsimp only at h
  split at h
  next hword =>
    have hv : ∀ d ∈ v.head?, isWordChar d = false := by
      rw [← (Prod.mk.inj h).2]
      exact fun d => eq_false_of_mem_head?_dropWhile
    have hdigit : ∀ d ∈ v.head?, d.isDigit = false := fun d hd =>
      Bool.eq_false_iff.2 fun htrue =>
        Bool.eq_false_iff.1 (hv d hd) (isWordChar_of_isDigit htrue)
    rw [(takeWhile_append_of_head? w hdigit).2] at hword
    rw [scanNumber, if_pos (wordFollows_of_append hv hword)]
    exact scanWord_alone w k v h
  next hnumber =>
    obtain ⟨fraction, s, hfraction⟩ : ∃ fraction s,
        takeFraction ((w ++ v).dropWhile Char.isDigit) = (fraction, s) := ⟨_, _, rfl⟩
    obtain ⟨exponent, after, hexponent⟩ : ∃ exponent after,
        takeExponent s = (exponent, after) := ⟨_, _, rfl⟩
    rw [hfraction] at h
    dsimp only at h
    rw [hexponent] at h
    obtain ⟨rfl, rfl⟩ := Prod.mk.inj h
    have hpoint : exponent.head? ≠ some '.' := by
      have hmark := head?_takeExponent s
      rwa [hexponent] at hmark
    obtain rfl : exponent ++ after = s := by
      have happend := takeExponent_append s
      rwa [hexponent] at happend
    have hsplit : fraction ++ exponent ++ after = (w ++ after).dropWhile Char.isDigit := by
      have happend := takeFraction_append ((w ++ after).dropWhile Char.isDigit)
      rwa [hfraction, ← List.append_assoc] at happend
    obtain ⟨htake, hdrop⟩ := takeWhile_alone hsplit.symm
    rw [← hsplit] at hfraction hnumber
    have hdigits := wordFollows_alone hfraction hexponent (Bool.eq_false_iff.2 hnumber)
    rw [scanNumber, hdrop, if_neg (Bool.eq_false_iff.1 hdigits), htake,
      takeFraction_alone hpoint hfraction]
    dsimp only
    rw [takeExponent_alone hexponent]

/-! ## Other radices -/

theorem prefixed?_alone (radix : Char) (h : (u ++ v).dropWhile isWordChar = v) :
    prefixed? radix u = (prefixed? radix (u ++ v)).map fun r => (r.1, []) := by
  obtain ⟨htake, hdrop⟩ := takeWhile_alone (u := []) h
  unfold prefixed?
  rw [htake, hdrop]
  dsimp only
  repeat' split
  all_goals rfl

theorem prefixed?_eq_some {r : Kind × List Char} (h : prefixed? radix u = some r) :
    u.dropWhile isWordChar = r.2 := by
  simp only [prefixed?] at h
  repeat' split at h
  all_goals cases h
  all_goals rfl

/-- A zero and the letter of a radix take up the whole word: what is no number of this radix is a
word. -/
theorem snd_prefixedOrNumber (hradix : radix ∈ ['x', 'b']) (digits : List Char) :
    ((prefixed? radix digits).getD (scanNumber ('0' :: radix :: digits))).2 =
      digits.dropWhile isWordChar := by
  cases hprefixed : prefixed? radix digits with
  | some r => exact (prefixed?_eq_some hprefixed).symm
  | none =>
    have hcases : radix = 'x' ∨ radix = 'b' := by simpa using hradix
    rcases hcases with rfl | rfl <;> rfl

theorem prefixedOrNumber_alone (hradix : radix ∈ ['x', 'b'])
    (h : (prefixed? radix (u ++ v)).getD (scanNumber ('0' :: radix :: (u ++ v))) = (k, v)) :
    (prefixed? radix u).getD (scanNumber ('0' :: radix :: u)) = (k, []) := by
  have hdrop := snd_prefixedOrNumber hradix (u ++ v)
  rw [h] at hdrop
  rw [prefixed?_alone radix hdrop.symm]
  cases hprefixed : prefixed? radix (u ++ v) with
  | some r =>
    rw [hprefixed] at h
    obtain rfl : r = (k, v) := h
    rfl
  | none =>
    rw [hprefixed] at h
    exact scanNumber_alone ('0' :: radix :: u) k v h

end SchemaTrail.Token
