import Mathlib.Algebra.Group.Int.Defs
import Mathlib.Algebra.Group.Nat.Defs
import SchemaTrail.Column.Rendering
import SchemaTrail.Proofs.JsonText

/-!
# Raw integers

The log writes integers with a sign, whether their columns have one or not, and the members of a set
as a mask of 64 bits, with a sign as well.  A column without a sign means the remainder of a raw
integer by the number of integers of its width (`IntegerSize.meant`), and a mask means the members
whose bit is set in its remainder (`maskedMembers`).  What is written is just that, and
the arithmetic that leads there stays within words of 64 bits (`Column.write_raw`).
-/

namespace SchemaTrail

namespace IntegerSize

variable {size : IntegerSize} {signed : Bool} {v w : Int}

/-! ## Integers -/

/-- Whether an integer is one of the width of the type, with a sign. -/
structure IsRaw (size : IntegerSize) (v : Int) : Prop where
  le : -2 ^ (size.bits - 1) ≤ v
  lt : v < 2 ^ (size.bits - 1)

/-- The integer that a raw one stands for. -/
def meant (size : IntegerSize) (signed : Bool) (v : Int) : Int :=
  if signed then v else v % 2 ^ size.bits

theorem two_mul_half (size : IntegerSize) : (2 : Int) * 2 ^ (size.bits - 1) = 2 ^ size.bits := by
  cases size <;> rfl

/-- Without a sign an integer that is not negative stands for itself. -/
theorem IsRaw.emod_of_nonneg (h : size.IsRaw v) (hv : 0 ≤ v) : v % 2 ^ size.bits = v := by
  obtain ⟨-, hlt⟩ := h
  have hhalf := size.two_mul_half
  exact Int.emod_eq_of_lt hv (by omega)

/-- Without a sign a negative integer stands for one from the upper half of the range. -/
theorem IsRaw.emod_of_neg (h : size.IsRaw v) (hv : v < 0) :
    v % 2 ^ size.bits = v + 2 ^ size.bits := by
  obtain ⟨hle, hlt⟩ := h
  have hhalf := size.two_mul_half
  rw [← Int.add_emod_right]
  exact Int.emod_eq_of_lt (by omega) (by omega)

theorem reinterpret_eq (h : size.IsRaw v) : size.reinterpret signed v = size.meant signed v := by
  cases signed with
  | true => rfl
  | false =>
    rw [reinterpret, meant, Bool.false_or, if_neg Bool.false_ne_true]
    by_cases hv : 0 ≤ v
    · rw [if_pos (decide_eq_true hv), h.emod_of_nonneg hv]
    · rw [if_neg (by simpa using hv), h.emod_of_neg (by omega)]
      simp

/-- Raw integers that stand for the same integer are the same, as they are less than the modulus
apart. -/
theorem eq_of_meant_eq (hv : size.IsRaw v) (hw : size.IsRaw w)
    (h : size.meant signed v = size.meant signed w) : v = w := by
  cases signed with
  | true => exact h
  | false =>
    have hdvd : (2 : Int) ^ size.bits ∣ v - w :=
      Int.dvd_of_emod_eq_zero (Int.emod_eq_emod_iff_emod_sub_eq_zero.1 h)
    have hapart : (v - w).natAbs < ((2 : Int) ^ size.bits).natAbs := by
      have hhalf := size.two_mul_half
      have hle := hv.le
      have hlt := hv.lt
      have hle' := hw.le
      have hlt' := hw.lt
      omega
    exact Int.sub_eq_zero.1 (Int.eq_zero_of_dvd_of_natAbs_lt_natAbs hdvd hapart)

/-! ## Words -/

/-- A raw integer fits a word. -/
theorem IsRaw.toInt_ofInt (h : size.IsRaw v) : (BitVec.ofInt 64 v).toInt = v := by
  obtain ⟨hle, hlt⟩ := h
  have hbits : (2 : Int) ^ (size.bits - 1) ≤ 2 ^ 63 := by cases size <;> decide
  exact BitVec.toInt_ofInt_eq_self (by decide) (by omega) (by omega)

/-- The number of the narrower integers is a word. -/
theorem toInt_shift (h : size ≠ .big) : (1#64 <<< size.bits).toInt = 2 ^ size.bits := by
  cases size <;> first | rfl | exact absurd rfl h

/-- No sum leaves the words. -/
theorem meantByWord?_eq (h : size.IsRaw v) :
    size.meantByWord? signed (.ofInt 64 v) = some (size.meant signed v) := by
  rw [meantByWord?, meant, h.toInt_ofInt]
  cases signed with
  | true => rfl
  | false =>
    rw [if_neg Bool.false_ne_true, if_neg Bool.false_ne_true]
    by_cases hbig : size = .big
    · subst hbig
      rw [if_pos rfl, BitVec.toNat_ofInt]
      have hnonneg : 0 ≤ v % (2 ^ 64 : Int) := Int.emod_nonneg v (by decide)
      simpa [bits] using Int.toNat_of_nonneg hnonneg
    rw [if_neg hbig]
    by_cases hv : 0 ≤ v
    · rw [if_pos hv, h.emod_of_nonneg hv]
    · have hsum : ¬(BitVec.ofInt 64 v).saddOverflow (1#64 <<< size.bits) = true := by
        have hle := h.le
        have hhalf := size.two_mul_half
        have hbits : (2 : Int) ^ size.bits < 2 ^ 63 := by
          cases size <;> first | decide | exact absurd rfl hbig
        rw [BitVec.saddOverflow, h.toInt_ofInt, toInt_shift hbig]
        simp only [Bool.or_eq_true, decide_eq_true_eq]
        omega
      rw [if_neg hv, if_neg hsum, BitVec.toInt_add_of_not_saddOverflow hsum, h.toInt_ofInt,
        toInt_shift hbig, h.emod_of_neg (by omega)]

end IntegerSize

/-! ## Sets -/

/-- The members whose bit is set in a number of 64 bits, the first standing for bit zero. -/
def maskedMembers (values : List String) (bits : Nat) : List String :=
  (values.zipIdx.filter fun x => x.2 < 64 && bits.testBit x.2).map Prod.fst

/-- What is taken off a number by a remainder is even at every bit below the modulus. -/
theorem emod_ediv_emod_two (n b : Int) {a : Int} (ha : a ≠ 0) :
    n % (a * (2 * b)) / a % 2 = n / a % 2 := by
  have hsplit : n % (a * (2 * b)) = n + a * (2 * -(b * (n / (a * (2 * b))))) := by
    rw [Int.emod_def]
    grind
  rw [hsplit, Int.add_mul_ediv_left _ _ ha, Int.add_mul_emod_self_left]

/-- The bits of a mask with a sign are those of its remainder. -/
theorem testBit_emod (mask : Int) {place : Nat} (h : place < 64) :
    (mask % 2 ^ 64).toNat.testBit place = decide (mask / Nat.pow 2 place % 2 = 1) := by
  obtain ⟨rest, hrest⟩ : ∃ rest, 64 = place + 1 + rest := Nat.exists_eq_add_of_le h
  have hsplit : (2 : Int) ^ 64 = 2 ^ place * (2 * 2 ^ rest) := by
    rw [hrest, Int.pow_add, Int.pow_add, Int.pow_one, Int.mul_assoc]
  have hbit : mask % 2 ^ 64 / 2 ^ place % 2 = mask / 2 ^ place % 2 := by
    rw [hsplit]
    exact emod_ediv_emod_two mask _ (Int.pow_ne_zero (by decide))
  have hcast : ((mask % 2 ^ 64).toNat : Int) = mask % 2 ^ 64 :=
    Int.toNat_of_nonneg (Int.emod_nonneg mask (by decide))
  rw [← hcast] at hbit
  rw [Nat.testBit_eq_decide_div_mod_eq, decide_eq_decide]
  change _ ↔ mask / ((2 ^ place : Nat) : Int) % 2 = 1
  rw [Int.natCast_pow, Int.cast_ofNat_Int, ← hbit]
  norm_cast

/-- Going through the members from the first bit on takes those whose bit is set. -/
theorem maskedFrom_eq (mask : Int) (place : Nat) (values : List String) :
    maskedFrom mask place values = ((values.zipIdx place).filter fun x =>
      x.2 < 64 && (mask % 2 ^ 64).toNat.testBit x.2).map Prod.fst := by
  induction values generalizing place with
  | nil => rfl
  | cons v values ih =>
    have hbit : (decide (place < 64) && (mask % 2 ^ 64).toNat.testBit place) =
        decide (place < 64 ∧ mask / Nat.pow 2 place % 2 = 1) := by
      by_cases hplace : place < 64
      · rw [testBit_emod mask hplace]
        simp [hplace]
      · simp [hplace]
    rw [maskedFrom, List.zipIdx_cons, List.filter_cons, hbit]
    simp only [decide_eq_true_eq]
    split
    · rw [List.map_cons, ih]
    · exact ih (place + 1)

theorem maskedFrom_zero_eq (mask : Int) (values : List String) :
    maskedFrom mask 0 values = maskedMembers values (mask % 2 ^ 64).toNat :=
  maskedFrom_eq mask 0 values

/-! ## Columns -/

/-- An integer is written with the same numeral in SQL and in JSON. -/
theorem Json.ofInt_eq_number (n : Int) : Json.ofInt n = .number (toString n) := by
  cases n with
  | ofNat n => rw [Json.ofInt, Json.ofNat, ← Nat.repr_eq_ofList_toDigits]; rfl
  | negSucc n =>
    have hminus : toString (Int.negSucc n) = "-" ++ (n + 1).repr := rfl
    rw [ofInt, hminus, Nat.repr_eq_ofList_toDigits]
    simp

namespace Column

variable {c : Column} {size : IntegerSize} {signed : Bool} {values : List String}

theorem interpret_integer (hkind : c.kind = .integer size signed) {v : Int} (hv : size.IsRaw v) :
    c.interpret (.integer v) = .ok (.integer (size.meant signed v)) := by
  rw [← IntegerSize.reinterpret_eq hv]
  simp only [interpret, hkind]

theorem interpret_set (hkind : c.kind = .set values) (mask : Int) :
    c.interpret (.integer mask) = .ok (.members (maskedMembers values (mask % 2 ^ 64).toNat)) := by
  rw [← maskedFrom_zero_eq]
  simp only [interpret, hkind]

/-- In the log an integer of any width has a sign, and a set is a mask with a sign.  An integer is
written as what it stands for in its column, different ones differently, and no step of working that
out leaves the words of 64 bits.  Of a set just the members whose bit is set are written. -/
theorem write_raw (c : Column) :
    (∀ size signed, c.kind = .integer size signed → ∀ v, size.IsRaw v →
      c.valueToSql (.integer v) = .ok (toString (size.meant signed v)) ∧
      c.valueToJson (.integer v) = .ok (.ofInt (size.meant signed v)) ∧
      size.meantByWord? signed (.ofInt 64 v) = some (size.meant signed v) ∧
      ∀ w, size.IsRaw w → w ≠ v →
        c.valueToSql (.integer w) ≠ c.valueToSql (.integer v) ∧
        c.valueToJson (.integer w) ≠ c.valueToJson (.integer v)) ∧
    ∀ values, c.kind = .set values → ∀ mask : Int,
      let members := maskedMembers values (mask % 2 ^ 64).toNat
      c.valueToJson (.integer mask) = .ok (.ofStrings members) ∧
      c.valueToSql (.integer mask) = .ok (sqlText (",".intercalate members)) := by
  constructor
  · intro size signed hkind v hv
    have hsql : ∀ w, size.IsRaw w →
        c.valueToSql (.integer w) = .ok (toString (size.meant signed w)) := by
      intro w hw
      rw [valueToSql, interpret_integer hkind hw]
      rfl
    have hjson : ∀ w, size.IsRaw w →
        c.valueToJson (.integer w) = .ok (.ofInt (size.meant signed w)) := by
      intro w hw
      rw [valueToJson, interpret_integer hkind hw]
      rfl
    refine ⟨hsql v hv, hjson v hv, IntegerSize.meantByWord?_eq hv, fun w hw hne => ?_⟩
    have hother : Json.ofInt (size.meant signed w) ≠ Json.ofInt (size.meant signed v) := by
      intro h
      replace h := congrArg Json.int? h
      rw [Json.int?_ofInt, Json.int?_ofInt] at h
      exact hne (IntegerSize.eq_of_meant_eq hw hv (Option.some.inj h))
    constructor
    · rw [hsql w hw, hsql v hv]
      intro h
      rw [Json.ofInt_eq_number, Json.ofInt_eq_number, Except.ok.inj h] at hother
      exact hother rfl
    · rw [hjson w hw, hjson v hv]
      exact fun h => hother (Except.ok.inj h)
  · intro values hkind mask
    rw [valueToJson, valueToSql, interpret_set hkind]
    exact ⟨rfl, rfl⟩

/-- The largest integer without a sign, and a set of which the first member and the sixty-fourth, at
the place of the sign, are taken while the sixty-fifth has no bit. -/
theorem write_raw_extremes :
    let id : Column := ⟨"id", .integer .big false, 0⟩
    let values := (List.range 65).map fun n => toString n
    let flags : Column := ⟨"flags", .set values, 1⟩
    id.valueToSql (.integer (-1)) = .ok "18446744073709551615" ∧
      id.valueToSql (.integer (-2)) ≠ id.valueToSql (.integer (-1)) ∧
      flags.valueToJson (.integer (-2 ^ 63 + 1)) = .ok (.ofStrings ["0", "63"]) := by
  intro id values flags
  have hraw : ∀ v ∈ [-1, -2], IntegerSize.big.IsRaw v := by
    intro v hv
    constructor <;> simp at hv <;> rcases hv with rfl | rfl <;> decide
  have hinteger := (write_raw id).1 .big false rfl (-1) (hraw _ (by simp))
  have hset := ((write_raw flags).2 values rfl (-2 ^ 63 + 1)).1
  refine ⟨hinteger.1, (hinteger.2.2.2 (-2) (hraw _ (by simp)) (by decide)).1, ?_⟩
  rw [hset]
  exact congrArg (Except.ok ∘ Json.ofStrings) (by decide +kernel)

end Column

end SchemaTrail
