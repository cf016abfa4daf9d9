import SchemaTrail.Json.Lexer
import SchemaTrail.Json.Printer

/-!
# Tokens that are written

The scalars of JSON are read back as they are written: a string between quotes, whatever characters
it has (`read?_quote`), and an integer that is followed by a separator or by nothing
(`read?_ofInt`).
-/

namespace SchemaTrail.Json

namespace Token

/-! ## Integers -/

/-- What may follow a number without being taken for a part of it. -/
def EndsNumber (rest : List Char) : Prop :=
  ∀ c ∈ rest.head?, c = ',' ∨ c = ']' ∨ c = '}'

variable {ds rest : List Char}

theorem digits?_append (hne : ds ≠ []) (hds : ∀ c ∈ ds, c.isDigit = true)
    (hrest : EndsNumber rest) : digits? (ds ++ rest) = some (ds, rest) := by
  have htake : rest.takeWhile Char.isDigit = [] ∧ rest.dropWhile Char.isDigit = rest := by
    cases rest with
    | nil => exact ⟨rfl, rfl⟩
    | cons c tail =>
      have hc : c.isDigit = false := by
        rcases hrest c rfl with rfl | rfl | rfl <;> rfl
      simp [hc]
  rw [digits?, List.takeWhile_append_of_pos hds, List.dropWhile_append_of_pos hds, htake.1, htake.2,
    List.append_nil]
  exact if_neg hne

theorem fraction?_of_endsNumber (h : EndsNumber rest) : fraction? rest = some ([], rest) := by
  cases rest with
  | nil => rfl
  | cons c tail => rcases h c rfl with rfl | rfl | rfl <;> rfl

theorem exponent?_of_endsNumber (h : EndsNumber rest) : exponent? rest = some ([], rest) := by
  cases rest with
  | nil => rfl
  | cons c tail => rcases h c rfl with rfl | rfl | rfl <;> rfl

/-- Only the number zero is written with a zero in front. -/
theorem toDigits_ne_zero_cons {n : Nat} (hn : n ≠ 0) (tail : List Char) :
    Nat.toDigits 10 n ≠ '0' :: tail := by
  induction n using Nat.strongRecOn generalizing tail with
  | ind n ih =>
    by_cases hlt : n < 10
    · have hdigits : ∀ n < 10, n ≠ 0 → Nat.digitChar n ≠ '0' := by decide
      rw [Nat.toDigits_of_lt_base hlt]
      intro h
      exact hdigits n hlt hn (List.cons.inj h).1
    · rw [Nat.toDigits_of_base_le (by decide) (by omega)]
      cases hfront : Nat.toDigits 10 (n / 10) with
      | nil => exact absurd hfront Nat.toDigits_ne_nil
      | cons c front =>
        intro h
        rw [List.cons_append, List.cons.injEq] at h
        exact ih (n / 10) (by omega) (by omega) front (by rw [hfront, h.1])

theorem isDigit_of_mem_toDigits {n : Nat} {c : Char} (h : c ∈ Nat.toDigits 10 n) :
    c.isDigit = true :=
  Nat.isDigit_of_mem_toDigits (by decide) (by decide) h

theorem whole?_toDigits (n : Nat) (hrest : EndsNumber rest) :
    whole? (Nat.toDigits 10 n ++ rest) = some (Nat.toDigits 10 n, rest) := by
  by_cases hn : n = 0
  · rw [hn, Nat.toDigits_zero]
    rfl
  · have hdigits := digits?_append (Nat.toDigits_ne_nil (n := n) (b := 10))
      (fun c => isDigit_of_mem_toDigits) hrest
    unfold whole?
    split
    next tail h =>
      cases hds : Nat.toDigits 10 n with
      | nil => exact absurd hds Nat.toDigits_ne_nil
      | cons c ds =>
        rw [hds, List.cons_append, List.cons.injEq] at h
        exact absurd (by rw [hds, h.1]) (toDigits_ne_zero_cons hn ds)
    next => exact hdigits

theorem unsigned?_toDigits (n : Nat) (hrest : EndsNumber rest) :
    unsigned? (Nat.toDigits 10 n ++ rest) = some (Nat.toDigits 10 n, rest) := by
  simp [unsigned?, whole?_toDigits n hrest, fraction?_of_endsNumber hrest,
    exponent?_of_endsNumber hrest]

/-- No token but a number begins with a digit. -/
theorem read?_digit {c : Char} (hc : c.isDigit = true) (cs : List Char) :
    read? (c :: cs) = (unsigned? (c :: cs)).map fun r => (.number (String.ofList r.1), r.2) := by
  have hne : ∀ d, d.isDigit = false → c ≠ d := by
    rintro d hd rfl
    rw [hc] at hd
    cases hd
  have hminus : number? (c :: cs) = unsigned? (c :: cs) := by
    unfold number?
    split
    next h => exact absurd (List.cons.inj h).1 (hne '-' rfl)
    next => rfl
  unfold read?
  split
  case h_12 => rw [hminus]
  case h_1 h => cases h
  all_goals
    next h => exact absurd (List.cons.inj h).1 (hne _ rfl)

/-- An integer is read back as it is written. -/
theorem read?_ofInt (i : Int) (hrest : EndsNumber rest) :
    ∃ literal, ofInt i = .number literal ∧
      read? (chars (ofInt i) ++ rest) = some (.number literal, rest) := by
  cases i with
  | ofNat n =>
    refine ⟨_, rfl, ?_⟩
    have hread := unsigned?_toDigits n hrest
    rw [ofInt, ofNat, chars, String.toList_ofList]
    cases hds : Nat.toDigits 10 n with
    | nil => exact absurd hds Nat.toDigits_ne_nil
    | cons c ds =>
      rw [hds, List.cons_append] at hread
      rw [List.cons_append, read?_digit (isDigit_of_mem_toDigits (by rw [hds]; simp)), hread]
      rfl
  | negSucc n =>
    refine ⟨_, rfl, ?_⟩
    rw [ofInt, chars, String.toList_ofList, List.cons_append]
    show (number? _).map _ = _
    rw [number?, unsigned?_toDigits (n + 1) hrest]
    rfl

/-! ## Strings -/

theorem hexWord?_digitChar : ∀ n < 0x20,
    hexWord? '0' '0' (Nat.digitChar (n / 16)) (Nat.digitChar (n % 16)) = some n := by
  decide

/-- A character is read back as it is written within a string. -/
theorem stringUnit?_escapeChar (c : Char) (rest : List Char) :
    stringUnit? (escapeChar c ++ rest) = some ⟨some c, rest⟩ := by
  unfold escapeChar
  split
  case h_8 hquote hbackslash _ _ _ _ _ =>
    by_cases hc : c.toNat < 0x20
    · rw [if_pos hc]
      simp only [List.cons_append, List.nil_append, stringUnit?, hexWord?_digitChar c.toNat hc,
        Option.bind_some]
      rw [if_pos (.inl (by omega)), Char.ofNat_toNat]
    · rw [if_neg hc, List.singleton_append]
      unfold stringUnit?
      split
      next h => cases h
      next h => exact absurd (List.cons.inj h).1 hbackslash
      next h => exact absurd (List.cons.inj h).1 hbackslash
      next h =>
        cases h
        exact if_neg fun h => h.elim hc hbackslash
  all_goals rfl

theorem escapeChar_ne_quote (c : Char) (cs : List Char) :
    ∀ tail, escapeChar c ++ cs ≠ '"' :: tail := by
  intro tail
  unfold escapeChar
  split
  case h_8 hquote _ _ _ _ _ _ =>
    split
    · simp
    · simpa using fun h => absurd h hquote
  all_goals simp

theorem string?_flatMap_escapeChar (read : List Char) (cs : List Char) :
    string? (some read) (cs.flatMap escapeChar ++ '"' :: rest) =
      some (.string (String.ofList (read.reverse ++ cs)), rest) := by
  induction cs generalizing read with
  | nil =>
    rw [List.flatMap_nil, List.nil_append, string?, List.append_nil]
    rfl
  | cons c cs ih =>
    rw [List.flatMap_cons, List.append_assoc]
    have hunit := stringUnit?_escapeChar c (cs.flatMap escapeChar ++ '"' :: rest)
    rw [string?]
    · split
      next h => rw [hunit] at h; cases h
      next u h =>
        rw [hunit] at h
        cases h
        simpa using ih (c :: read)
    · exact escapeChar_ne_quote c _

/-- A string is read back as it is written, whatever it consists of. -/
theorem read?_quote (s : String) : read? (quote s ++ rest) = some (.string s, rest) := by
  have hstring : string? (some []) (s.toList.flatMap escapeChar ++ '"' :: rest) =
      some (.string (String.ofList ([].reverse ++ s.toList)), rest) :=
    string?_flatMap_escapeChar [] s.toList
  rw [quote, List.cons_append, List.cons_append, List.append_assoc, List.singleton_append]
  show string? (some []) _ = _
  rw [hstring, List.reverse_nil, List.nil_append, String.ofList_toList]

end Token

end SchemaTrail.Json
