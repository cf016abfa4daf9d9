import Mathlib.Data.List.Nodup
import SchemaTrail.Proofs.NameFolding

/-!
# Keys of names

The key of a name is what is compared of it: the name itself with letter case, and its lower-case
form without.  Equal names have the same key (`CaseMode.key_eq_of_namesEqual`), and of two names
with the same key at least one equals the other.  So names are distinct if and only if their keys
are (`CaseMode.distinct_iff_nodup_key`), whatever the names are; and where equality is symmetric,
it is that of keys (`CaseMode.namesEqual_iff_key`).
-/

namespace SchemaTrail.CaseMode

variable {mode : CaseMode} {a b c : String}

/-- What is compared of a name. -/
def key (mode : CaseMode) (name : String) : String :=
  match mode with
  | .sensitive => name
  | .lowered | .insensitive => Text.lower name

theorem key_of_ne_sensitive (hmode : mode ≠ .sensitive) (a : String) :
    mode.key a = Text.lower a := by
  cases mode with
  | sensitive => exact absurd rfl hmode
  | lowered | insensitive => rfl

theorem key_eq_of_namesEqual (h : mode.namesEqual a b = true) : mode.key a = mode.key b := by
  by_cases hmode : mode = .sensitive
  · subst hmode
    exact namesEqual_sensitive_iff.1 h
  · rw [key_of_ne_sensitive hmode, key_of_ne_sensitive hmode]
    exact ((namesEqual_iff_ascii hmode).1 h).1

/-- Of two names with the same key, the one that is not ASCII equals the other. -/
theorem namesEqual_or_of_key_eq (h : mode.key a = mode.key b) :
    mode.namesEqual a b = true ∨ mode.namesEqual b a = true := by
  by_cases hmode : mode = .sensitive
  · subst hmode
    exact .inl (namesEqual_sensitive_iff.2 h)
  · rw [key_of_ne_sensitive hmode, key_of_ne_sensitive hmode] at h
    rw [namesEqual_iff_ascii hmode, namesEqual_iff_ascii hmode]
    by_cases ha : Text.isAscii a = true
    · exact .inr ⟨h.symm, fun _ => ha⟩
    · exact .inl ⟨h, fun ha' => absurd ha' ha⟩

/-- Where equality is symmetric, it is that of keys. -/
theorem namesEqual_iff_key (hsymm : mode.namesEqual b a = true → mode.namesEqual a b = true) :
    mode.namesEqual a b = true ↔ mode.key a = mode.key b :=
  ⟨key_eq_of_namesEqual, fun h => (namesEqual_or_of_key_eq h).elim id hsymm⟩

theorem Coherent.namesEqual_iff {names : String → Prop} (h : mode.Coherent names) (ha : names a)
    (hb : names b) : mode.namesEqual a b = true ↔ mode.key a = mode.key b :=
  namesEqual_iff_key (h.symm hb ha)

/-- Names are distinct if and only if their keys are. -/
theorem distinct_iff_nodup_key {names : List String} :
    mode.Distinct names ↔ (names.map mode.key).Nodup := by
  rw [Distinct, List.Nodup, List.pairwise_map]
  refine List.Pairwise.iff fun {a b} => ⟨fun h heq => ?_, fun h => ⟨?_, ?_⟩⟩
  · rcases namesEqual_or_of_key_eq heq with hab | hba
    · exact absurd (h.1.symm.trans hab) (by decide)
    · exact absurd (h.2.symm.trans hba) (by decide)
  · exact Bool.eq_false_iff.2 fun hab => h (key_eq_of_namesEqual hab)
  · exact Bool.eq_false_iff.2 fun hba => h (key_eq_of_namesEqual hba).symm

/-- Of things with distinct names, two whose names have the same key are the same. -/
theorem Distinct.eq_of_key_eq {α : Type} {name : α → String} {xs : List α}
    (h : mode.Distinct (xs.map name)) {x y : α} (hx : x ∈ xs) (hy : y ∈ xs)
    (hxy : mode.key (name x) = mode.key (name y)) : x = y := by
  rw [distinct_iff_nodup_key, List.map_map] at h
  exact List.inj_on_of_nodup_map h hx hy hxy

end SchemaTrail.CaseMode
