import SchemaTrail.Schema.CaseMode

/-!
# Laws of letter case

`Text.lower` maps a text character by character, apart from the capital sigma, whose neighbours it
looks at.  The case of the letters `A` to `Z` has no influence on its result
(`lower_eq_of_equalIgnoringCase`), a text in lower case stays as it is (`lower_lower`), and on ASCII
texts it is `Text.asciiLower`.  Hence the names of columns are equal if and only if their lower-case
forms are (`columnNamesEqual_iff`).
-/

namespace SchemaTrail.Text

/-! ## The letters `A` to `Z` -/

theorem toNat_of_isUpper {c : Char} (h : c.isUpper = true) : 0x41 ≤ c.toNat ∧ c.toNat ≤ 0x5a := by
  have hrange : c.val ≥ 'A'.val ∧ c.val ≤ 'Z'.val := of_decide_eq_true h
  exact ⟨UInt32.le_iff_toNat_le.1 hrange.1, UInt32.le_iff_toNat_le.1 hrange.2⟩

/-- An upper-case letter is one of 26, which allows to check a property of all of them. -/
theorem upper_cases {P : Char → Prop} (h : ∀ i < 26, P (Char.ofNat (0x41 + i))) {c : Char}
    (hc : c.isUpper = true) : P c := by
  obtain ⟨h1, h2⟩ := toNat_of_isUpper hc
  have := h (c.toNat - 0x41) (by omega)
  rwa [show 0x41 + (c.toNat - 0x41) = c.toNat by omega, Char.ofNat_toNat] at this

theorem toLower_of_not_isUpper {c : Char} (h : ¬ c.isUpper = true) : c.toLower = c := by
  have hrange : ¬(c.val ≥ 'A'.val ∧ c.val ≤ 'Z'.val) := fun hc => h (decide_eq_true hc)
  exact dif_neg hrange

theorem toLower_toLower (c : Char) : c.toLower.toLower = c.toLower := by
  by_cases hc : c.isUpper = true
  · exact upper_cases (P := fun c => c.toLower.toLower = c.toLower) (by decide) hc
  · rw [toLower_of_not_isUpper hc, toLower_of_not_isUpper hc]

theorem asciiLower_asciiLower (s : String) : asciiLower (asciiLower s) = asciiLower s := by
  simp only [asciiLower, String.toList_ofList, List.map_map]
  exact congrArg String.ofList (List.map_congr_left fun c _ => toLower_toLower c)

theorem equalIgnoringCase_refl (s : String) : equalIgnoringCase s s = true :=
  beq_self_eq_true _

theorem equalIgnoringCase_asciiLower (s : String) :
    equalIgnoringCase (asciiLower s) s = true ∧ equalIgnoringCase s (asciiLower s) = true := by
  simp only [equalIgnoringCase, asciiLower_asciiLower, beq_self_eq_true, and_self]

theorem equalIgnoringCase_iff {a b : String} :
    equalIgnoringCase a b = true ↔ a.toList.map Char.toLower = b.toList.map Char.toLower := by
  rw [equalIgnoringCase, beq_iff_eq, asciiLower, asciiLower, String.ofList_inj]

/-- Two letters that differ in case only are the same, or both letters of ASCII. -/
theorem toNat_of_toLower_eq {c d : Char} (h : c.toLower = d.toLower) :
    c = d ∨ c.toNat < 0x80 ∧ d.toNat < 0x80 := by
  have bound : ∀ {a : Char}, a.isUpper = true → a.toNat < 0x80 ∧ a.toLower.toNat < 0x80 :=
    fun ha => upper_cases (P := fun a => a.toNat < 0x80 ∧ a.toLower.toNat < 0x80) (by decide) ha
  by_cases hc : c.isUpper = true <;> by_cases hd : d.isUpper = true
  · exact .inr ⟨(bound hc).1, (bound hd).1⟩
  · rw [toLower_of_not_isUpper hd] at h
    exact .inr ⟨(bound hc).1, h ▸ (bound hc).2⟩
  · rw [toLower_of_not_isUpper hc] at h
    exact .inr ⟨h ▸ (bound hd).2, (bound hd).1⟩
  · rw [toLower_of_not_isUpper hc, toLower_of_not_isUpper hd] at h
    exact .inl h

theorem toNat_toLower_of_isUpper {c : Char} (h : c.isUpper = true) :
    c.toLower.toNat = c.toNat + 0x20 :=
  upper_cases (P := fun c => c.toLower.toNat = c.toNat + 0x20) (by decide) h

theorem caseIgnorableRanges_avoid_letters :
    (caseIgnorableRanges.all fun r => Nat.blt r.2 0x41 || Nat.blt 0x7a r.1 ||
      Nat.blt 0x5a r.1 && Nat.blt r.2 0x61) = true := by
  decide +kernel

/-- The case of the letters `A` to `Z` does not matter for the tables of `lower`. -/
theorem inRanges_toLower (c : Char) :
    inRanges caseIgnorableRanges c.toLower = inRanges caseIgnorableRanges c ∧
      inRanges casedRanges c.toLower = inRanges casedRanges c := by
  by_cases hc : c.isUpper = true
  · have hbounds := toNat_of_isUpper hc
    have hlower := toNat_toLower_of_isUpper hc
    have hnot : ∀ d : Char, 0x41 ≤ d.toNat ∧ d.toNat ≤ 0x5a ∨ 0x61 ≤ d.toNat ∧ d.toNat ≤ 0x7a →
        inRanges caseIgnorableRanges d = false := by
      intro d hd
      rw [← Bool.not_eq_true, inRanges_iff]
      rintro ⟨r, hr, hmem⟩
      have havoid := List.all_eq_true.1 caseIgnorableRanges_avoid_letters r hr
      simp only [Bool.or_eq_true, Bool.and_eq_true, Nat.blt_eq] at havoid
      omega
    have hcased : inRanges casedRanges c = true ∧ inRanges casedRanges c.toLower = true :=
      ⟨inRanges_iff.2 ⟨(0x41, 0x5a), by simp [casedRanges], hbounds⟩,
        inRanges_iff.2 ⟨(0x61, 0x7a), by simp [casedRanges], by simp only; omega⟩⟩
    rw [hnot c (by omega), hnot c.toLower (by omega), hcased.1, hcased.2]
    exact ⟨rfl, rfl⟩
  · rw [toLower_of_not_isUpper hc]
    exact ⟨rfl, rfl⟩

theorem casedFollows_map_toLower (cs : List Char) :
    casedFollows (cs.map Char.toLower) = casedFollows cs := by
  induction cs with
  | nil => rfl
  | cons c cs ih =>
    have hd := inRanges_toLower c
    unfold casedFollows at ih ⊢
    rw [List.map_cons, List.dropWhile_cons, List.dropWhile_cons, hd.1]
    by_cases hi : inRanges caseIgnorableRanges c = true
    · rw [if_pos hi, if_pos hi]
      exact ih
    · rw [if_neg hi, if_neg hi]
      exact hd.2

theorem lowerChar_of_ascii {c : Char} (h : c.toNat < 0x80) : lowerChar c = [c.toLower] := by
  rw [lowerChar, if_pos h]

theorem ne_sigma_of_ascii {c : Char} (h : c.toNat < 0x80) : c ≠ 'Σ' := by
  rintro rfl
  exact absurd h (by decide)

/-- Texts that differ in the case of the letters `A` to `Z` only have the same lower-case form. -/
theorem lowerAfter_congr {xs ys : List Char} {before before' : List Char}
    (hb : before.map Char.toLower = before'.map Char.toLower)
    (h : xs.map Char.toLower = ys.map Char.toLower) :
    lowerAfter before xs = lowerAfter before' ys := by
  induction xs generalizing ys before before' with
  | nil =>
    rw [List.map_nil, eq_comm, List.map_eq_nil_iff] at h
    rw [h]
    rfl
  | cons x xs ih =>
    cases ys with
    | nil => simp at h
    | cons y ys =>
      rw [List.map_cons, List.map_cons, List.cons.injEq] at h
      have hrest : lowerAfter (x :: before) xs = lowerAfter (y :: before') ys :=
        ih (by rw [List.map_cons, List.map_cons, h.1, hb]) h.2
      have hbefore : casedFollows before = casedFollows before' := by
        rw [← casedFollows_map_toLower, hb, casedFollows_map_toLower]
      have hafter : casedFollows xs = casedFollows ys := by
        rw [← casedFollows_map_toLower, h.2, casedFollows_map_toLower]
      rw [lowerAfter, lowerAfter, hrest, hbefore, hafter]
      rcases toNat_of_toLower_eq h.1 with rfl | ⟨hx, hy⟩
      · rfl
      · rw [if_neg (ne_sigma_of_ascii hx), if_neg (ne_sigma_of_ascii hy), lowerChar_of_ascii hx,
          lowerChar_of_ascii hy, h.1]

theorem lower_eq_of_equalIgnoringCase {a b : String} (h : equalIgnoringCase a b = true) :
    lower a = lower b := by
  rw [lower, lower, lowerAfter_congr rfl (equalIgnoringCase_iff.1 h)]

/-! ## ASCII texts -/

theorem lowerAfter_of_ascii {before cs : List Char} (h : ∀ c ∈ cs, c.toNat < 0x80) :
    lowerAfter before cs = cs.map Char.toLower := by
  induction cs generalizing before with
  | nil => rfl
  | cons c cs ih =>
    rw [List.forall_mem_cons] at h
    rw [lowerAfter, ih h.2, if_neg (ne_sigma_of_ascii h.1), lowerChar_of_ascii h.1]
    rfl

theorem isAscii_iff {s : String} : isAscii s = true ↔ ∀ c ∈ s.toList, c.toNat < 0x80 := by
  simp [isAscii]

theorem lower_of_isAscii {s : String} (h : isAscii s = true) : lower s = asciiLower s := by
  rw [lower, lowerAfter_of_ascii (isAscii_iff.1 h), asciiLower]

theorem toNat_toLower {c : Char} (h : c.toNat < 0x80) : c.toLower.toNat < 0x80 := by
  by_cases hc : c.isUpper = true
  · exact upper_cases (P := fun c => c.toLower.toNat < 0x80) (by decide) hc
  · rwa [toLower_of_not_isUpper hc]

theorem isAscii_lower {s : String} (h : isAscii s = true) : isAscii (lower s) = true := by
  rw [lower_of_isAscii h, isAscii_iff]
  simp only [asciiLower, String.toList_ofList, List.mem_map, forall_exists_index, and_imp,
    forall_apply_eq_imp_iff₂]
  exact fun c hc => toNat_toLower (isAscii_iff.1 h c hc)

/-! ## Texts in lower case -/

namespace LowerRun

/-- The lower-case forms that a run gives. -/
def forms (r : LowerRun) : List Nat :=
  ((List.range (r.last - r.first + 1)).filter fun i => i % r.step = 0).map fun i => r.lower + i

theorem mem_forms {r : LowerRun} {c m : Nat} (h : r.lower? c = some m) : m ∈ r.forms := by
  rw [lower?, Option.ite_none_right_eq_some, Option.some.injEq] at h
  obtain ⟨⟨h1, h2, h3⟩, rfl⟩ := h
  exact List.mem_map.2 ⟨c - r.first, List.mem_filter.2 ⟨List.mem_range.2 (by omega), by simpa⟩, rfl⟩

/-- Whether a run maps no form of the run `r` to another character, which holds at once if it lies
apart from these forms. -/
def keepsFormsOf (other r : LowerRun) : Bool :=
  Nat.blt other.last r.lower || Nat.blt (r.lower + (r.last - r.first)) other.first ||
    r.forms.all fun m => (other.lower? m).isNone

theorem lower?_of_keepsFormsOf {other r : LowerRun} (h : other.keepsFormsOf r = true) {m : Nat}
    (hm : m ∈ r.forms) : other.lower? m = none := by
  have hbounds : r.lower ≤ m ∧ m ≤ r.lower + (r.last - r.first) := by
    obtain ⟨i, hi, rfl⟩ := List.mem_map.1 hm
    have := List.mem_range.1 (List.mem_filter.1 hi).1
    omega
  simp only [keepsFormsOf, Bool.or_eq_true, Nat.blt_eq, List.all_eq_true] at h
  rcases h with (h | h) | h
  · exact if_neg (by omega)
  · exact if_neg (by omega)
  · exact Option.isNone_iff_eq_none.1 (h m hm)

end LowerRun

/-- Whether a code point is that of a character which `lowerChar` looks up in the table, or of a
letter `a` to `z`. -/
def isPlainForm (m : Nat) : Bool :=
  decide m.isValidChar && m != 0x130 && m != 0x3a3 && (Nat.blt m 0x41 || Nat.blt 0x5a m)

theorem lowerRuns_keepForms :
    (lowerRuns.all fun r => lowerRuns.all fun other => other.keepsFormsOf r) = true := by
  decide +kernel

theorem lowerRuns_forms_plain : (lowerRuns.all fun r => r.forms.all isPlainForm) = true := by
  decide +kernel

/-- Whether a character is its own lower-case form, wherever it stands. -/
def IsSettled (c : Char) : Prop :=
  c ≠ 'Σ' ∧ lowerChar c = [c]

theorem isSettled_of_ascii {c : Char} (h : c.toNat < 0x80) (hc : c.toLower = c) : IsSettled c :=
  ⟨ne_sigma_of_ascii h, by rw [lowerChar_of_ascii h, hc]⟩

theorem isSettled_of_mem_forms {r : LowerRun} (hr : r ∈ lowerRuns) {m : Nat} (hm : m ∈ r.forms) :
    IsSettled (Char.ofNat m) := by
  have hplain := List.all_eq_true.1 (List.all_eq_true.1 lowerRuns_forms_plain r hr) m hm
  simp only [isPlainForm, Bool.and_eq_true, decide_eq_true_eq, bne_iff_ne, Bool.or_eq_true,
    Nat.blt_eq] at hplain
  obtain ⟨⟨⟨hvalid, hdotted⟩, hsigma⟩, hupper⟩ := hplain
  have hnat : (Char.ofNat m).toNat = m := by
    rw [Char.ofNat, dif_pos hvalid]
    rfl
  have hne : ∀ d : Char, d.toNat ≠ m → Char.ofNat m ≠ d := fun d hd h => hd (by rw [← h, hnat])
  refine ⟨hne 'Σ' (Ne.symm hsigma), ?_⟩
  by_cases hascii : (Char.ofNat m).toNat < 0x80
  · rw [lowerChar_of_ascii hascii, toLower_of_not_isUpper]
    intro h
    obtain ⟨h1, h2⟩ := toNat_of_isUpper h
    rw [hnat] at h1 h2
    omega
  · have hnone : lowerRuns.findSome? (LowerRun.lower? · m) = none := by
      rw [List.findSome?_eq_none_iff]
      intro other hother
      have hkeeps := List.all_eq_true.1 (List.all_eq_true.1 lowerRuns_keepForms r hr) other hother
      exact LowerRun.lower?_of_keepsFormsOf hkeeps hm
    rw [lowerChar, if_neg hascii, if_neg (hne 'İ' (Ne.symm hdotted)), hnat, hnone]
    rfl

theorem isSettled_of_mem_lowerChar {c x : Char} (hc : c ≠ 'Σ') (hx : x ∈ lowerChar c) :
    IsSettled x := by
  by_cases hascii : c.toNat < 0x80
  · rw [lowerChar_of_ascii hascii, List.mem_singleton] at hx
    subst hx
    exact isSettled_of_ascii (toNat_toLower hascii) (toLower_toLower c)
  by_cases hdotted : c = 'İ'
  · subst hdotted
    have hx : x = 'i' ∨ x = '\u0307' := by simpa [lowerChar] using hx
    rcases hx with rfl | rfl
    · exact isSettled_of_ascii (by decide) (by decide)
    · exact ⟨by decide, by decide +kernel⟩
  cases hrun : lowerRuns.findSome? (LowerRun.lower? · c.toNat) with
  | none =>
    have hchar : lowerChar c = [c] := by
      rw [lowerChar, if_neg hascii, if_neg hdotted, hrun]
      rfl
    rw [hchar, List.mem_singleton] at hx
    subst hx
    exact ⟨hc, hchar⟩
  | some m =>
    rw [lowerChar, if_neg hascii, if_neg hdotted, hrun, Option.elim_some, List.mem_singleton] at hx
    subst hx
    obtain ⟨r, hr, hm⟩ := List.exists_of_findSome?_eq_some hrun
    exact isSettled_of_mem_forms hr (LowerRun.mem_forms hm)

theorem isSettled_of_mem_lowerAfter {before cs : List Char} {x : Char}
    (hx : x ∈ lowerAfter before cs) : IsSettled x := by
  induction cs generalizing before with
  | nil => simp [lowerAfter] at hx
  | cons c cs ih =>
    rw [lowerAfter, List.mem_append] at hx
    rcases hx with hx | hx
    · split at hx
      · split at hx <;> rw [List.mem_singleton] at hx <;> subst hx <;>
          exact ⟨by decide, by decide +kernel⟩
      · next hc => exact isSettled_of_mem_lowerChar hc hx
    · exact ih hx

theorem lowerAfter_of_isSettled {before cs : List Char} (h : ∀ c ∈ cs, IsSettled c) :
    lowerAfter before cs = cs := by
  induction cs generalizing before with
  | nil => rfl
  | cons c cs ih =>
    rw [List.forall_mem_cons] at h
    rw [lowerAfter, ih h.2, if_neg h.1.1, h.1.2]
    rfl

theorem lower_lower (s : String) : lower (lower s) = lower s := by
  simp only [lower, String.toList_ofList]
  rw [lowerAfter_of_isSettled fun c hc => isSettled_of_mem_lowerAfter hc]

end SchemaTrail.Text

namespace SchemaTrail

/-- The names of columns are equal if and only if they are so in lower case. -/
theorem columnNamesEqual_iff {a b : String} :
    columnNamesEqual a b = true ↔ Text.lower a = Text.lower b := by
  rw [columnNamesEqual, Bool.or_eq_true, Bool.and_eq_true, beq_iff_eq]
  constructor
  · rintro (h | ⟨-, h⟩)
    · exact Text.lower_eq_of_equalIgnoringCase h
    · exact h
  · intro h
    by_cases hascii : Text.isAscii a = true ∧ Text.isAscii b = true
    · left
      rw [Text.lower_of_isAscii hascii.1, Text.lower_of_isAscii hascii.2] at h
      exact beq_iff_eq.2 h
    · right
      rw [← Bool.and_eq_true, Bool.not_eq_true, ← Bool.not_eq_true'] at hascii
      exact ⟨hascii, h⟩

end SchemaTrail
