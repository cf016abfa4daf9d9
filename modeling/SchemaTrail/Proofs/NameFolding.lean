import SchemaTrail.Proofs.NameEquality

/-!
# Names in lower case

Without letter case, names are equal if and only if they are so in lower case, with one exception:
an ASCII name equals none that is spelt with the Kelvin sign, the one character beyond ASCII whose
lower-case form is ASCII (`Text.isAscii_lower_iff`).  So equality is reflexive and transitive for
all names, but symmetric, and blind to the stored form, only for names without that sign
(`CaseMode.namesEqual_iff_lower`); these are a coherent set (`CaseMode.coherent_kelvinSign`).
-/

namespace SchemaTrail

namespace Text

/-! ## Texts that are ASCII in lower case -/

/-- The sign of the unit of temperature, whose lower-case form is the letter `k`. -/
def kelvinSign : Char := '\u212a'

theorem isAscii_of_equalIgnoringCase {a b : String} (h : equalIgnoringCase a b = true)
    (ha : isAscii a = true) : isAscii b = true := by
  rw [isAscii_iff] at ha ⊢
  intro c hc
  have hmem : c.toLower ∈ a.toList.map Char.toLower := by
    rw [equalIgnoringCase_iff.1 h]
    exact List.mem_map_of_mem hc
  obtain ⟨d, hd, hlower⟩ := List.mem_map.1 hmem
  rcases toNat_of_toLower_eq hlower with rfl | ⟨-, hbound⟩
  · exact ha d hd
  · exact hbound

theorem lowerRuns_forms_not_ascii :
    (lowerRuns.all fun r => r.first == 0x212a && r.last == 0x212a ||
      r.forms.all fun m => Nat.ble 0x80 m) = true := by
  decide +kernel

/-- Of the characters beyond ASCII only the Kelvin sign is mapped to ASCII. -/
theorem eq_kelvinSign_of_lower? {r : LowerRun} (hr : r ∈ lowerRuns) {c : Char} {m : Nat}
    (hm : r.lower? c.toNat = some m) (hascii : (Char.ofNat m).toNat < 0x80) : c = kelvinSign := by
  have hform := LowerRun.mem_forms hm
  have hrun := List.all_eq_true.1 lowerRuns_forms_not_ascii r hr
  simp only [Bool.or_eq_true, Bool.and_eq_true, beq_iff_eq, List.all_eq_true, Nat.ble_eq] at hrun
  rcases hrun with ⟨hfirst, hlast⟩ | hrun
  · rw [LowerRun.lower?, Option.ite_none_right_eq_some, hfirst, hlast] at hm
    have hnat : c.toNat = kelvinSign.toNat := by
      show c.toNat = 0x212a
      omega
    rw [← Char.ofNat_toNat c, hnat, Char.ofNat_toNat]
  · have hplain := List.all_eq_true.1 (List.all_eq_true.1 lowerRuns_forms_plain r hr) m hform
    simp only [isPlainForm, Bool.and_eq_true, decide_eq_true_eq] at hplain
    have hnat : (Char.ofNat m).toNat = m := by
      rw [Char.ofNat, dif_pos hplain.1.1.1]
      rfl
    have := hrun m hform
    omega

theorem lowerChar_ascii_iff {c : Char} :
    (∀ x ∈ lowerChar c, x.toNat < 0x80) ↔ c.toNat < 0x80 ∨ c = kelvinSign := by
  constructor
  · intro h
    by_cases hascii : c.toNat < 0x80
    · exact .inl hascii
    by_cases hdotted : c = 'İ'
    · subst hdotted
      exact absurd (h '\u0307' (by decide)) (by decide)
    rw [lowerChar, if_neg hascii, if_neg hdotted, List.forall_mem_singleton] at h
    cases hrun : lowerRuns.findSome? (LowerRun.lower? · c.toNat) with
    | none =>
      rw [hrun] at h
      exact absurd h hascii
    | some m =>
      rw [hrun] at h
      obtain ⟨r, hr, hm⟩ := List.exists_of_findSome?_eq_some hrun
      exact .inr (eq_kelvinSign_of_lower? hr hm h)
  · rintro (h | rfl)
    · rw [lowerChar_of_ascii h, List.forall_mem_singleton]
      exact toNat_toLower h
    · have hform : lowerChar kelvinSign = ['k'] := by decide +kernel
      rw [hform, List.forall_mem_singleton]
      decide

theorem lowerAfter_ascii_iff {before cs : List Char} :
    (∀ x ∈ lowerAfter before cs, x.toNat < 0x80) ↔
      ∀ c ∈ cs, c.toNat < 0x80 ∨ c = kelvinSign := by
  induction cs generalizing before with
  | nil => simp [lowerAfter]
  | cons c cs ih =>
    rw [lowerAfter, List.forall_mem_append, List.forall_mem_cons, ih]
    refine and_congr_left fun _ => ?_
    by_cases hsigma : c = 'Σ'
    · -- Neither of the forms of a sigma is ASCII.
      subst hsigma
      rw [if_pos rfl]
      refine iff_of_false (fun h => ?_) (by decide)
      split at h <;> exact absurd (List.forall_mem_singleton.1 h) (by decide)
    · rw [if_neg hsigma]
      exact lowerChar_ascii_iff

/-- A text is ASCII in lower case if it is ASCII save for Kelvin signs. -/
theorem isAscii_lower_iff {s : String} :
    isAscii (lower s) = true ↔ ∀ c ∈ s.toList, c.toNat < 0x80 ∨ c = kelvinSign := by
  rw [isAscii_iff, lower, String.toList_ofList, lowerAfter_ascii_iff]

/-- The Kelvin sign is what tells a text from its lower-case form in being ASCII. -/
theorem isAscii_iff_of_lower {s : String} (h : isAscii (lower s) = true) :
    isAscii s = true ↔ kelvinSign ∉ s.toList := by
  rw [isAscii_iff]
  constructor
  · intro hs hmem
    exact absurd (hs kelvinSign hmem) (by decide)
  · intro hs c hc
    rcases isAscii_lower_iff.1 h c hc with hascii | rfl
    · exact hascii
    · exact absurd hc hs

theorem kelvinSign_not_mem_lower (s : String) : kelvinSign ∉ (lower s).toList := by
  rw [lower, String.toList_ofList]
  intro h
  exact absurd (isSettled_of_mem_lowerAfter h).2 (by decide +kernel)

end Text

namespace CaseMode

variable {mode : CaseMode} {a b c : String}

/-! ## Equality of names -/

theorem namesEqual_sensitive_iff : CaseMode.sensitive.namesEqual a b = true ↔ a = b :=
  beq_iff_eq

/-- A first name that is ASCII equals names that are ASCII only. -/
theorem namesEqual_iff_ascii (hmode : mode ≠ .sensitive) :
    mode.namesEqual a b = true ↔
      Text.lower a = Text.lower b ∧ (Text.isAscii a = true → Text.isAscii b = true) := by
  have hnames : mode.namesEqual a b =
      (Text.equalIgnoringCase a b || (!Text.isAscii a && Text.lower a == Text.lower b)) := by
    cases mode with
    | sensitive => exact absurd rfl hmode
    | lowered | insensitive => rfl
  rw [hnames, Bool.or_eq_true, Bool.and_eq_true, beq_iff_eq, Bool.not_eq_true']
  constructor
  · rintro (h | ⟨hascii, h⟩)
    · exact ⟨Text.lower_eq_of_equalIgnoringCase h, Text.isAscii_of_equalIgnoringCase h⟩
    · exact ⟨h, fun ha => by rw [hascii] at ha; cases ha⟩
  · rintro ⟨h, hascii⟩
    cases ha : Text.isAscii a with
    | false => exact .inr ⟨rfl, h⟩
    | true =>
      rw [Text.lower_of_isAscii ha, Text.lower_of_isAscii (hascii ha)] at h
      exact .inl (beq_iff_eq.2 h)

/-- Names that are equal in lower case are equal, unless the first is ASCII and the second is spelt
with a Kelvin sign. -/
theorem namesEqual_iff_kelvinSign (hmode : mode ≠ .sensitive) :
    mode.namesEqual a b = true ↔
      Text.lower a = Text.lower b ∧ (Text.isAscii a = true → Text.kelvinSign ∉ b.toList) := by
  rw [namesEqual_iff_ascii hmode]
  refine and_congr_right fun h => forall_congr' fun ha => Text.isAscii_iff_of_lower ?_
  rw [← h]
  exact Text.isAscii_lower ha

theorem namesEqual_trans (mode : CaseMode) (hab : mode.namesEqual a b = true)
    (hbc : mode.namesEqual b c = true) : mode.namesEqual a c = true := by
  by_cases hmode : mode = .sensitive
  · subst hmode
    rw [namesEqual_sensitive_iff] at hab hbc ⊢
    exact hab.trans hbc
  · rw [namesEqual_iff_ascii hmode] at hab hbc ⊢
    exact ⟨hab.1.trans hbc.1, fun ha => hbc.2 (hab.2 ha)⟩

/-- An equality can be turned round unless a Kelvin sign stands on its left alone. -/
theorem namesEqual_symm_iff (h : mode.namesEqual a b = true) :
    mode.namesEqual b a = true ↔
      mode = .sensitive ∨ (Text.isAscii b = true → Text.kelvinSign ∉ a.toList) := by
  by_cases hmode : mode = .sensitive
  · subst hmode
    rw [namesEqual_sensitive_iff] at h
    rw [namesEqual_sensitive_iff]
    exact iff_of_true h.symm (.inl rfl)
  · have hlower := ((namesEqual_iff_ascii hmode).1 h).1
    rw [namesEqual_iff_kelvinSign hmode, or_iff_right hmode, and_iff_right hlower.symm]

/-- The stored form of a name equals the same names, unless storing it takes a Kelvin sign out of it
that the other name has, too. -/
theorem namesEqual_storedName_iff :
    mode.namesEqual (mode.storedName a) b = mode.namesEqual a b ↔
      ¬(mode = .lowered ∧ Text.lower a = Text.lower b ∧ Text.isAscii (Text.lower a) = true ∧
        Text.kelvinSign ∈ a.toList ∧ Text.kelvinSign ∈ b.toList) := by
  cases mode with
  | sensitive | insensitive => simp [storedName]
  | lowered =>
    rw [Bool.eq_iff_iff, namesEqual_iff_kelvinSign (by decide),
      namesEqual_iff_kelvinSign (by decide), storedName, Text.lower_lower]
    by_cases hascii : Text.isAscii (Text.lower a) = true
    · rw [Text.isAscii_iff_of_lower hascii]
      grind
    · have ha : ¬Text.isAscii a = true := fun ha => hascii (Text.isAscii_lower ha)
      grind

/-- Names without the Kelvin sign are coherent. -/
theorem coherent_kelvinSign (mode : CaseMode) :
    mode.Coherent fun a => Text.kelvinSign ∉ a.toList where
  symm ha _ h := (namesEqual_symm_iff h).2 (.inr fun _ => ha)
  trans _ _ _ := namesEqual_trans mode
  stored ha := by
    cases mode with
    | lowered => exact Text.kelvinSign_not_mem_lower _
    | sensitive | insensitive => exact ha
  namesEqual_stored ha := by
    rw [namesEqual_storedName_iff.2 fun h => ha h.2.2.2.1]
    exact namesEqual_refl _ _

/-- Without letter case, names are equal as far as they are in lower case, but for the Kelvin sign.
In all modes equality is reflexive and transitive; it is symmetric, and the stored form of a name
equals what the name equals, but for that sign. -/
theorem namesEqual_iff_lower (mode : CaseMode) :
    (mode ≠ .sensitive → ∀ a b, mode.namesEqual a b = true ↔
      Text.lower a = Text.lower b ∧ (Text.isAscii a = true → Text.kelvinSign ∉ b.toList)) ∧
    (∀ a, mode.namesEqual a a = true) ∧
    (∀ a b c, mode.namesEqual a b = true → mode.namesEqual b c = true →
      mode.namesEqual a c = true) ∧
    (∀ a b, mode.namesEqual a b = true → (mode.namesEqual b a = true ↔
      mode = .sensitive ∨ (Text.isAscii b = true → Text.kelvinSign ∉ a.toList))) ∧
    ∀ a b, mode.namesEqual (mode.storedName a) b = mode.namesEqual a b ↔
      ¬(mode = .lowered ∧ Text.lower a = Text.lower b ∧ Text.isAscii (Text.lower a) = true ∧
        Text.kelvinSign ∈ a.toList ∧ Text.kelvinSign ∈ b.toList) :=
  ⟨fun hmode _ _ => namesEqual_iff_kelvinSign hmode, namesEqual_refl mode,
    fun _ _ _ => namesEqual_trans mode, fun _ _ => namesEqual_symm_iff,
    fun _ _ => namesEqual_storedName_iff⟩

/-- A name with accents, and one that is spelt with a Kelvin sign on the left. -/
theorem namesEqual_iff_lower_accents :
    CaseMode.lowered.namesEqual "ÉTÉ" "été" = true ∧
      CaseMode.insensitive.namesEqual "\u212aelvin" "KELVIN" = true ∧
      ¬CaseMode.insensitive.namesEqual "KELVIN" "\u212aelvin" = true := by
  have hleft : CaseMode.insensitive.namesEqual "\u212aelvin" "KELVIN" = true :=
    ((namesEqual_iff_lower .insensitive).1 (by decide) _ _).2 (by decide +kernel)
  refine ⟨((namesEqual_iff_lower .lowered).1 (by decide) _ _).2 (by decide +kernel), hleft, ?_⟩
  rw [(namesEqual_iff_lower .insensitive).2.2.2.1 _ _ hleft]
  decide +kernel

/-- The letter `k` does not equal the Kelvin sign, which has the same lower-case form and equals
it. -/
theorem kelvinSign_apart :
    Text.lower "k" = Text.lower "\u212a" ∧
      CaseMode.insensitive.namesEqual "k" "\u212a" = false ∧
      CaseMode.insensitive.namesEqual "\u212a" "k" = true ∧
      CaseMode.lowered.namesEqual "k" "\u212a" = false ∧
      CaseMode.lowered.namesEqual "\u212a" "k" = true := by
  decide +kernel

end CaseMode

end SchemaTrail
