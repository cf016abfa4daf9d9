import SchemaTrail.Proofs.LetterCase

/-!
# Laws of the equality of names

Without letter case, `CaseMode.namesEqual` is not an equivalence relation on all names: an ASCII
name on the left equals fewer names than it does on the right.  `CaseMode.Coherent` says that it is
one on the names of a set, and that the stored form of a name equals the name.  The ASCII names are
such a set (`coherent_isAscii`), and with letter case all names are (`coherent_sensitive`).
-/

namespace SchemaTrail.CaseMode

variable {mode : CaseMode}

/-! ## Coherent sets of names -/

/-- On the names of a set, equality is an equivalence relation, and the set has the stored form of
each of its names as an equal one. -/
structure Coherent (mode : CaseMode) (names : String → Prop) : Prop where
  symm : ∀ {a b}, names a → names b → mode.namesEqual a b = true → mode.namesEqual b a = true
  trans : ∀ {a b c}, names a → names b → names c → mode.namesEqual a b = true →
    mode.namesEqual b c = true → mode.namesEqual a c = true
  stored : ∀ {a}, names a → names (mode.storedName a)
  namesEqual_stored : ∀ {a}, names a → mode.namesEqual (mode.storedName a) a = true

@[simp] theorem namesEqual_refl (mode : CaseMode) (a : String) : mode.namesEqual a a = true := by
  cases mode <;> simp [namesEqual, Text.equalIgnoringCase]

@[simp] theorem storedName_storedName (mode : CaseMode) (a : String) :
    mode.storedName (mode.storedName a) = mode.storedName a := by
  cases mode with
  | lowered => exact Text.lower_lower a
  | sensitive | insensitive => rfl

theorem namesEqual_of_isAscii {a b : String} (h : mode ≠ .sensitive) (ha : Text.isAscii a = true) :
    mode.namesEqual a b = Text.equalIgnoringCase a b := by
  cases mode with
  | sensitive => exact absurd rfl h
  | lowered | insensitive => simp [namesEqual, ha]

theorem coherent_sensitive (names : String → Prop) : Coherent .sensitive names where
  symm _ _ h := by
    rw [namesEqual, beq_iff_eq] at h ⊢
    exact h.symm
  trans _ _ _ h h' := by
    rw [namesEqual, beq_iff_eq] at h h' ⊢
    exact h.trans h'
  stored h := h
  namesEqual_stored _ := namesEqual_refl _ _

theorem coherent_isAscii (mode : CaseMode) : mode.Coherent fun a => Text.isAscii a = true := by
  by_cases hmode : mode = .sensitive
  · subst hmode
    exact coherent_sensitive _
  have hstored : ∀ {a}, Text.isAscii a = true → Text.isAscii (mode.storedName a) = true := by
    intro a ha
    cases mode with
    | lowered => exact Text.isAscii_lower ha
    | sensitive | insensitive => exact ha
  refine ⟨?_, ?_, hstored, ?_⟩
  · intro a b ha hb h
    rw [namesEqual_of_isAscii hmode ha, Text.equalIgnoringCase_iff] at h
    rw [namesEqual_of_isAscii hmode hb, Text.equalIgnoringCase_iff, h]
  · intro a b c ha hb _ h h'
    rw [namesEqual_of_isAscii hmode ha, Text.equalIgnoringCase_iff] at h
    rw [namesEqual_of_isAscii hmode hb, Text.equalIgnoringCase_iff] at h'
    rw [namesEqual_of_isAscii hmode ha, Text.equalIgnoringCase_iff, h, h']
  · intro a ha
    rw [namesEqual_of_isAscii hmode (hstored ha)]
    cases mode with
    | sensitive => exact absurd rfl hmode
    | lowered =>
      rw [storedName, Text.lower_of_isAscii ha, Text.equalIgnoringCase, Text.asciiLower_asciiLower]
      exact beq_self_eq_true _
    | insensitive => exact beq_self_eq_true _

namespace Coherent

variable {names : String → Prop} (h : mode.Coherent names) {a b c : String}
include h

/-- Equal names are equal to the same names. -/
theorem congr_right (ha : names a) (hb : names b) (hc : names c)
    (hab : mode.namesEqual a b = true) :
    mode.namesEqual c a = mode.namesEqual c b := by
  rw [Bool.eq_iff_iff]
  exact ⟨fun hca => h.trans hc ha hb hca hab, fun hcb => h.trans hc hb ha hcb (h.symm ha hb hab)⟩

theorem comm (ha : names a) (hb : names b) : mode.namesEqual a b = mode.namesEqual b a := by
  rw [Bool.eq_iff_iff]
  exact ⟨h.symm ha hb, h.symm hb ha⟩

theorem congr_left (ha : names a) (hb : names b) (hc : names c)
    (hab : mode.namesEqual a b = true) :
    mode.namesEqual a c = mode.namesEqual b c := by
  rw [h.comm ha hc, h.congr_right ha hb hc hab, h.comm hc hb]

end Coherent

/-! ## Stored names -/

/-- The names of a set that are stored as they are. -/
def Stored (mode : CaseMode) (names : String → Prop) (a : String) : Prop :=
  names a ∧ mode.storedName a = a

namespace Coherent

variable {names : String → Prop} (h : mode.Coherent names)
include h

theorem stored_storedName {a : String} (ha : names a) : mode.Stored names (mode.storedName a) :=
  ⟨h.stored ha, storedName_storedName mode a⟩

theorem coherent_stored : mode.Coherent (mode.Stored names) where
  symm ha hb := h.symm ha.1 hb.1
  trans ha hb hc := h.trans ha.1 hb.1 hc.1
  stored ha := h.stored_storedName ha.1
  namesEqual_stored ha := h.namesEqual_stored ha.1

end Coherent

/-! ## Distinct names -/

/-- No two of the names are equal. -/
def Distinct (mode : CaseMode) (names : List String) : Prop :=
  names.Pairwise fun a b => mode.namesEqual a b = false ∧ mode.namesEqual b a = false

namespace Distinct

variable {front back names : List String} {a b : String}

theorem append_singleton_iff : mode.Distinct (names ++ [a]) ↔ mode.Distinct names ∧
    ∀ b ∈ names, mode.namesEqual b a = false ∧ mode.namesEqual a b = false := by
  simp [Distinct, List.pairwise_append]

theorem split_iff : mode.Distinct (front ++ a :: back) ↔ mode.Distinct (front ++ back) ∧
    ∀ b ∈ front ++ back, mode.namesEqual b a = false ∧ mode.namesEqual a b = false := by
  simp only [Distinct, List.pairwise_append, List.pairwise_cons, List.mem_cons, List.mem_append]
  constructor
  · rintro ⟨hfront, ⟨hab, hback⟩, hfb⟩
    refine ⟨⟨hfront, hback, fun x hx y hy => hfb x hx y (.inr hy)⟩, ?_⟩
    rintro b (hb | hb)
    · exact hfb b hb a (.inl rfl)
    · exact (hab b hb).symm
  · rintro ⟨⟨hfront, hback, hfb⟩, hab⟩
    refine ⟨hfront, ⟨fun b hb => (hab b (.inr hb)).symm, hback⟩, ?_⟩
    rintro x hx y (rfl | hy)
    · exact hab x (.inl hx)
    · exact hfb x hx y hy

/-- Of things with distinct names, two with equal names are the same. -/
theorem eq_of_namesEqual {α : Type} {name : α → String} {xs : List α}
    (h : mode.Distinct (xs.map name)) {x y : α} (hx : x ∈ xs) (hy : y ∈ xs)
    (hxy : mode.namesEqual (name x) (name y) = true) : x = y := by
  obtain ⟨front, back, rfl⟩ := List.append_of_mem hx
  rw [List.map_append, List.map_cons, split_iff, ← List.map_append] at h
  rcases List.mem_append.1 hy with hy | hy
  · rw [(h.2 (name y) (List.mem_map_of_mem (List.mem_append_left back hy))).2] at hxy
    cases hxy
  · rcases List.mem_cons.1 hy with rfl | hy
    · rfl
    · rw [(h.2 (name y) (List.mem_map_of_mem (List.mem_append_right front hy))).2] at hxy
      cases hxy

end Distinct

end SchemaTrail.CaseMode
