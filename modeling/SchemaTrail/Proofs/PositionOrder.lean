import SchemaTrail.Ledger.Error
import SchemaTrail.Proofs.LedgerText

/-!
# The order of positions

Comparing positions is a total order, in which only equal positions are equal: whatever follows the
last point of a file, its base name and number are compared first, and then the file itself.  Files
that are numbered after one base name are in the order of their numbers, and the positions of one
file in that of their offsets (`Position.compare_order`).
-/

namespace SchemaTrail.Position

variable {p q r : Position}

/-! ## Comparing -/

theorem compare_eq_compareLex : compare =
    compareLex (compareOn fun p => p.sequence.1) (compareLex (compareOn fun p => p.sequence.2)
      (compareLex (compareOn file) (compareOn offset))) :=
  rfl

instance : Std.TransCmp compare := by
  rw [compare_eq_compareLex]
  infer_instance

theorem eq_of_compare_eq (h : p.compare q = .eq) : p = q := by
  simp only [compare, Ordering.then_eq_eq] at h
  obtain ⟨-, -, hfile, hoffset⟩ := h
  cases p
  cases q
  rw [Std.LawfulEqCmp.compare_eq_iff_eq] at hfile hoffset
  rw [Position.mk.injEq]
  exact ⟨hfile, hoffset⟩

instance : Std.LawfulEqCmp compare where
  eq_of_compare := eq_of_compare_eq

theorem before_iff : p.before q = true ↔ p.compare q = .lt := by
  rw [before, decide_eq_true_iff]

theorem before_trans (hpq : p.before q = true) (hqr : q.before r = true) : p.before r = true := by
  rw [before_iff] at hpq hqr ⊢
  exact Std.TransCmp.lt_trans hpq hqr

/-- Positions are in the order of the numbers of their files if these have the same base name. -/
theorem before_of_sequence {base : String} {m n : Nat} (hp : p.sequence = (base, some m))
    (hq : q.sequence = (base, some n)) (h : m < n) : p.before q = true := by
  have hbase : Ord.compare base base = .eq := Std.ReflCmp.compare_self
  have hnumber : Ord.compare (some m) (some n) = .lt := Nat.compare_eq_lt.2 h
  rw [before_iff, compare, hp, hq, hbase, hnumber]
  rfl

theorem compare_of_file_eq (file : String) (offset offset' : Nat) :
    compare ⟨file, offset⟩ ⟨file, offset'⟩ = Ord.compare offset offset' := by
  have hsequence : sequence ⟨file, offset⟩ = sequence ⟨file, offset'⟩ := rfl
  have hbase : Ord.compare (sequence ⟨file, offset'⟩).1 (sequence ⟨file, offset'⟩).1 = .eq :=
    Std.ReflCmp.compare_self
  have hnumber : Ord.compare (sequence ⟨file, offset'⟩).2 (sequence ⟨file, offset'⟩).2 = .eq :=
    Std.ReflCmp.compare_self
  have hfile : Ord.compare file file = .eq := Std.ReflCmp.compare_self
  rw [compare, hsequence, hbase, hnumber, hfile]
  rfl

/-! ## Numbered files -/

theorem readNat?_padded (width n : Nat) : Decimal.readNat? (padded width n).toList = some n := by
  rw [Decimal.readNat?, if_pos ⟨padded_ne_nil, List.all_eq_true.2 fun _ => isDigit_of_mem_padded⟩,
    ofDigitChars_padded]

/-- The number of a file, with as many zeros before it as may be, is read from its name. -/
theorem sequence_padded (base : String) {n : Nat} (h : n < Nat.pow 2 64) (width offset : Nat) :
    sequence ⟨base ++ "." ++ padded width n, offset⟩ = (base, some n) := by
  have hpoint : '.' ∉ (padded width n).toList := fun hmem => by
    have hdigit := isDigit_of_mem_padded hmem
    simp at hdigit
  have hfile : base ++ "." ++ padded width n =
      String.ofList (base.toList ++ '.' :: (padded width n).toList) := by
    rw [← String.toList_inj]
    simp
  rw [sequence]
  dsimp only
  rw [hfile, Text.splitLast?_append hpoint, String.ofList_toList]
  dsimp only
  rw [String.toList_ofList, readNat?_padded]
  simp [Option.filter, h]

/-! ## The order -/

/-- Comparing positions is a total order, and only equal positions are equal in it.  Numbered files
of a base name are in the order of their numbers, however many zeros these are written with, and
positions of one file in the order of their offsets.  A position whose file has a name is read back
from its text. -/
theorem compare_order :
    ((∀ p q : Position, (p.compare q).isLE = true ∨ (q.compare p).isLE = true) ∧
      (∀ p q : Position, p.compare q = (q.compare p).swap) ∧
      (∀ p q : Position, (p.compare q).isLE = true → (q.compare p).isLE = true → p = q) ∧
      (∀ p q r : Position, (p.compare q).isLE = true → (q.compare r).isLE = true →
        (p.compare r).isLE = true) ∧
      ∀ p q : Position, p.compare q = .eq ↔ p = q) ∧
    (∀ (base : String) (m n width width' offset offset' : Nat), m < n → n < Nat.pow 2 64 →
      before ⟨base ++ "." ++ padded width m, offset⟩
        ⟨base ++ "." ++ padded width' n, offset'⟩ = true) ∧
    (∀ (file : String) (offset offset' : Nat),
      compare ⟨file, offset⟩ ⟨file, offset'⟩ = Ord.compare offset offset') ∧
    ∀ p : Position, p.file ≠ "" → p.offset < Nat.pow 2 64 → parse p.text = .ok p := by
  have hswap : ∀ p q : Position, p.compare q = (q.compare p).swap := fun p q =>
    Std.OrientedCmp.eq_swap
  have htotal : ∀ p q : Position, (p.compare q).isLE = true ∨ (q.compare p).isLE = true := by
    intro p q
    rw [hswap p q]
    cases q.compare p <;> simp
  have hantisymm : ∀ p q : Position,
      (p.compare q).isLE = true → (q.compare p).isLE = true → p = q :=
    fun p q hpq hqp => Std.LawfulEqCmp.eq_of_compare (Std.OrientedCmp.isLE_antisymm hpq hqp)
  have htrans : ∀ p q r : Position, (p.compare q).isLE = true → (q.compare r).isLE = true →
      (p.compare r).isLE = true :=
    fun p q r hpq hqr => Std.TransCmp.isLE_trans hpq hqr
  have heq : ∀ p q : Position, p.compare q = .eq ↔ p = q :=
    fun p q => Std.LawfulEqCmp.compare_eq_iff_eq
  refine ⟨⟨htotal, hswap, hantisymm, htrans, heq⟩, ?_, compare_of_file_eq, ?_⟩
  · intro base m n width width' offset offset' hlt hn
    exact before_of_sequence (sequence_padded base (Nat.lt_trans hlt hn) width offset)
      (sequence_padded base hn width' offset') hlt
  · intro p hfile hoffset
    rw [parse, ofText?_text hoffset, if_neg hfile]

/-- A number that has run out of zeros, and a file whose name has points and colons. -/
theorem compare_order_rollover :
    before ⟨"mysql-bin" ++ "." ++ padded 6 999999, 120⟩
      ⟨"mysql-bin" ++ "." ++ padded 6 1000000, 4⟩ = true ∧
    parse (text ⟨"log:1.x.:07", 18446744073709551615⟩) =
      .ok ⟨"log:1.x.:07", 18446744073709551615⟩ :=
  ⟨compare_order.2.1 "mysql-bin" 999999 1000000 6 6 120 4 (by decide) (by decide),
    compare_order.2.2.2 _ (by decide) (by decide)⟩

end SchemaTrail.Position
