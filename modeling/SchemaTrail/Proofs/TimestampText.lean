import SchemaTrail.Ledger.Timestamp

/-!
# Timestamps that are written and read

The text of a timestamp can always be read (`Timestamp.ofText?_text`).  Only the sixtieth second of
a minute is read as a leap second: where a leap second is added to another second, the text shows
the second after it.  A timestamp that was read is none of these (`Timestamp.shown_of_ofText?`).
-/

namespace SchemaTrail

/-! ## Padded numbers -/

section Padded

variable {width n : Nat}

theorem toList_padded : (padded width n).toList =
    List.replicate (width - (Nat.toDigits 10 n).length) '0' ++ Nat.toDigits 10 n :=
  String.toList_ofList

theorem ofDigitChars_padded : Nat.ofDigitChars 10 (padded width n).toList 0 = n := by
  rw [toList_padded, Nat.ofDigitChars_append, Nat.ofDigitChars_replicate_zero, Nat.mul_zero,
    Nat.ofDigitChars_ten_toDigits]

theorem isDigit_of_mem_padded {c : Char} (h : c ∈ (padded width n).toList) : c.isDigit = true := by
  rw [toList_padded, List.mem_append, List.mem_replicate] at h
  rcases h with ⟨-, rfl⟩ | h
  · rfl
  · exact Nat.isDigit_of_mem_toDigits (by decide) (by decide) h

theorem length_padded (hwidth : 0 < width) (h : n < Nat.pow 10 width) :
    (padded width n).toList.length = width := by
  have hlength := (Nat.length_toDigits_le_iff (by decide) hwidth).2 h
  rw [toList_padded, List.length_append, List.length_replicate]
  omega

theorem padded_ne_nil : (padded width n).toList ≠ [] := by
  rw [toList_padded]
  simp

end Padded

namespace Timestamp

/-! ## Scanning -/

variable {α β : Type} {cs rest ds : List Char}

theorem scan_bind {x : Scanner α} {f : α → Scanner β} {a : α} (h : x cs = some (a, rest)) :
    (x >>= f) cs = f a rest := by
  show (x cs).bind _ = _
  rw [h]
  rfl

theorem isBlank_of_isDigit {c : Char} (h : c.isDigit = true) : Text.isBlank c = false := by
  have hdigit : 48 ≤ c.toNat ∧ c.toNat ≤ 57 := Char.isDigit_iff_toNat.1 h
  have hranges : ∀ r ∈ Text.blankRanges, r.2 < 48 ∨ 57 < r.1 := by decide
  refine Bool.eq_false_iff.2 fun hc => ?_
  obtain ⟨r, hr, hfirst, hlast⟩ := Text.inRanges_iff.1 hc
  rcases hranges r hr with hr | hr <;> omega

theorem skipBlanks_eq (h : ∀ c ∈ cs.head?, Text.isBlank c = false) :
    skipBlanks cs = some ((), cs) := by
  show some ((), cs.dropWhile Text.isBlank) = _
  cases cs with
  | nil => rfl
  | cons c cs => rw [List.dropWhile_cons_of_neg (by simp [h c rfl])]

/-- Digits are scanned up to the limit, or up to what is not a digit. -/
theorem scanDigits_append {limit : Nat} (hne : ds ≠ []) (hds : ∀ c ∈ ds, c.isDigit = true)
    (hlimit : ds.length ≤ limit)
    (hrest : ds.length = limit ∨ ∀ c ∈ rest.head?, c.isDigit = false) :
    scanDigits limit (ds ++ rest) = some (ds, rest) := by
  have htake : ((ds ++ rest).take limit).takeWhile Char.isDigit = ds := by
    rw [List.take_append, List.take_of_length_le hlimit, List.takeWhile_append_of_pos hds]
    have hstop : (rest.take (limit - ds.length)).takeWhile Char.isDigit = [] := by
      rcases hrest with hrest | hrest
      · rw [hrest, Nat.sub_self, List.take_zero, List.takeWhile_nil]
      · cases rest with
        | nil => simp
        | cons c rest =>
          cases limit - ds.length with
          | zero => rfl
          | succ k => rw [List.take_succ_cons, List.takeWhile_cons_of_neg (by simp [hrest c rfl])]
    rw [hstop, List.append_nil]
  rw [scanDigits, htake]
  simp [hne]

theorem scanNumber_padded {width n : Nat} (hwidth : 0 < width) (h : n < Nat.pow 10 width) :
    scanNumber width ((padded width n).toList ++ rest) = some (n, rest) := by
  have hlength := length_padded hwidth h
  have hblank : ∀ c ∈ ((padded width n).toList ++ rest).head?, Text.isBlank c = false := by
    intro c hc
    have hne : (padded width n).toList ≠ [] := padded_ne_nil
    obtain ⟨a, ds, hds⟩ := List.exists_cons_of_ne_nil hne
    rw [hds, List.cons_append, List.head?_cons] at hc
    cases hc
    exact isBlank_of_isDigit (isDigit_of_mem_padded (hds ▸ List.mem_cons_self))
  rw [scanNumber, scan_bind (skipBlanks_eq hblank), scan_bind (scanDigits_append padded_ne_nil
    (fun _ => isDigit_of_mem_padded) (Nat.le_of_eq hlength) (.inl hlength)), ofDigitChars_padded]
  rfl

theorem discard_eq {x : Scanner α} {a : α} (h : x cs = some (a, rest)) :
    (discard x : Scanner Unit) cs = some ((), rest) := by
  show (x cs).bind _ = _
  rw [h]
  rfl

theorem scanMark_cons {mark : Char} (h : Text.isBlank mark = false) :
    scanMark mark (mark :: rest) = some ((), rest) := by
  have hone : scanOneOf [mark] (mark :: rest) = some (mark, rest) := by simp [scanOneOf]
  rw [scanMark, scan_bind (skipBlanks_eq (by simpa using h)), discard_eq hone]

/-! ## Days -/

theorem scanYear_minus (h : scanDigits cs.length cs = some (ds, rest)) :
    scanYear ('-' :: cs) = some (-(Nat.ofDigitChars 10 ds 0 : Int), rest) := by
  rw [scanYear, scan_bind (skipBlanks_eq (by simp; decide))]
  show (scanDigits cs.length cs).bind _ = _
  rw [h]
  rfl

theorem scanYear_plus (h : scanDigits cs.length cs = some (ds, rest)) :
    scanYear ('+' :: cs) = some ((Nat.ofDigitChars 10 ds 0 : Int), rest) := by
  rw [scanYear, scan_bind (skipBlanks_eq (by simp; decide))]
  show (scanDigits cs.length cs).bind _ = _
  rw [h]
  rfl

theorem scanYear_digit {c : Char} (hc : c.isDigit = true)
    (h : scanDigits 4 (c :: cs) = some (ds, rest)) :
    scanYear (c :: cs) = some ((Nat.ofDigitChars 10 ds 0 : Int), rest) := by
  have hget : (get : Scanner (List Char)) (c :: cs) = some (c :: cs, c :: cs) := rfl
  have hminus : c ≠ '-' := fun heq => by simp [heq] at hc
  have hplus : c ≠ '+' := fun heq => by simp [heq] at hc
  rw [scanYear, scan_bind (skipBlanks_eq (by simpa using isBlank_of_isDigit hc)), scan_bind hget]
  simp only [List.cons.injEq, hminus, hplus, false_and, imp_false, not_false_eq_true, implies_true]
  rw [scan_bind h]
  rfl

theorem scanYear_yearText (y : Int) (h : ∀ c ∈ rest.head?, c.isDigit = false) :
    scanYear ((yearText y).toList ++ rest) = some (y, rest) := by
  have hsigned : ∀ n, scanDigits ((padded 4 n).toList ++ rest).length
      ((padded 4 n).toList ++ rest) = some ((padded 4 n).toList, rest) := fun n =>
    scanDigits_append padded_ne_nil (fun _ => isDigit_of_mem_padded) (by simp) (.inr h)
  rw [yearText]
  split
  next hplain =>
    have hlength : (padded 4 y.toNat).toList.length = 4 :=
      length_padded (by decide) (show y.toNat < 10000 by omega)
    have hdigits : scanDigits 4 ((padded 4 y.toNat).toList ++ rest) =
        some ((padded 4 y.toNat).toList, rest) :=
      scanDigits_append padded_ne_nil (fun _ => isDigit_of_mem_padded) (by omega) (.inl hlength)
    have hvalue : (Nat.ofDigitChars 10 (padded 4 y.toNat).toList 0 : Int) = y := by
      rw [ofDigitChars_padded]
      omega
    have hne : (padded 4 y.toNat).toList ≠ [] := padded_ne_nil
    obtain ⟨c, cs, hcs⟩ := List.exists_cons_of_ne_nil hne
    have hc : c.isDigit = true := isDigit_of_mem_padded (hcs ▸ List.mem_cons_self)
    rw [hcs, List.cons_append] at hdigits
    rw [hcs, List.cons_append, scanYear_digit hc hdigits, ← hcs, hvalue]
  next hrange =>
    have hsign : ∀ sign, (String.singleton sign ++ padded 4 y.natAbs).toList ++ rest =
        sign :: ((padded 4 y.natAbs).toList ++ rest) := fun sign => by simp
    split
    next hneg =>
      have hvalue : -(y.natAbs : Int) = y := by omega
      refine (congrArg scanYear (hsign '-')).trans ?_
      rw [scanYear_minus (hsigned _), ofDigitChars_padded, hvalue]
    next hpos =>
      have hvalue : (y.natAbs : Int) = y := by omega
      refine (congrArg scanYear (hsign '+')).trans ?_
      rw [scanYear_plus (hsigned _), ofDigitChars_padded, hvalue]

theorem scanDate_text {d : Date} (hd : d.isValid = true) :
    scanDate (d.text.toList ++ rest) = some (d, rest) := by
  obtain ⟨hmonth, hday⟩ : d.month < 100 ∧ d.day < 100 := by
    have hdays : daysInMonth d.year d.month ≤ 31 := by
      rw [daysInMonth]
      split
      · split <;> omega
      · split <;> omega
    simp only [Date.isValid, Bool.and_eq_true, decide_eq_true_eq] at hd
    omega
  have htext : d.text.toList ++ rest = (yearText d.year).toList ++ '-' ::
      ((padded 2 d.month).toList ++ '-' :: ((padded 2 d.day).toList ++ rest)) := by
    simp [Date.text]
  have hmark : Text.isBlank '-' = false := by decide
  rw [htext, scanDate, scan_bind (scanYear_yearText d.year (by simp)),
    scan_bind (scanMark_cons hmark), scan_bind (scanNumber_padded (by decide) hmonth),
    scan_bind (scanMark_cons hmark), scan_bind (scanNumber_padded (by decide) hday)]
  rfl

/-! ## Times of day -/

/-- The digits that are shown hold the fraction of the second. -/
theorem dvd_of_fractionDigits (nanosecond : Nat) :
    fractionDigits nanosecond ≤ 9 ∧
      Nat.pow 10 (9 - fractionDigits nanosecond) ∣ nanosecond % nanosPerSecond := by
  rw [fractionDigits, nanosPerSecond]
  split
  next h => exact ⟨by decide, show 1000000000 ∣ _ by omega⟩
  split
  next h => exact ⟨by decide, show 1000000 ∣ _ by omega⟩
  split
  next h => exact ⟨by decide, show 1000 ∣ _ by omega⟩
  next => exact ⟨by decide, show 1 ∣ _ by omega⟩

theorem scanFraction_point (h : scanDigits 9 cs = some (ds, rest)) :
    scanFraction ('.' :: cs) = some (Nat.ofDigitChars 10 ds 0 * Nat.pow 10 (9 - ds.length),
      rest.dropWhile Char.isDigit) := by
  show (scanDigits 9 cs).bind _ = _
  rw [h]
  rfl

theorem scanFraction_fractionText (nanosecond : Nat) :
    scanFraction ((fractionText (fractionDigits nanosecond) nanosecond).toList ++ 'Z' :: rest) =
      some (nanosecond % nanosPerSecond, 'Z' :: rest) := by
  obtain ⟨hdigits, hdvd⟩ := dvd_of_fractionDigits nanosecond
  -- Only that the digits show the fraction in full matters from here on, not how many they are.
  generalize fractionDigits nanosecond = digits at *
  rw [fractionText]
  split
  next hzero =>
    have hnone : nanosecond % nanosPerSecond = 0 := by
      refine Nat.eq_zero_of_dvd_of_lt hdvd ?_
      rw [hzero]
      exact Nat.mod_lt _ (by decide)
    rw [hnone]
    rfl
  next hne =>
    have hpow : Nat.pow 10 (9 - digits) * Nat.pow 10 digits = nanosPerSecond := by
      refine (Nat.pow_add 10 (9 - digits) digits).symm.trans ?_
      rw [Nat.sub_add_cancel hdigits]
      rfl
    have hvalue : nanosecond % nanosPerSecond / Nat.pow 10 (9 - digits) < Nat.pow 10 digits := by
      refine Nat.div_lt_of_lt_mul ?_
      rw [hpow]
      exact Nat.mod_lt _ (by decide)
    have hlength := length_padded (Nat.pos_of_ne_zero hne) hvalue
    generalize hn : nanosecond % nanosPerSecond / Nat.pow 10 (9 - digits) = n at *
    have hscan : scanDigits 9 ((padded digits n).toList ++ 'Z' :: rest) =
        some ((padded digits n).toList, 'Z' :: rest) :=
      scanDigits_append padded_ne_nil (fun _ => isDigit_of_mem_padded) (by omega) (.inr (by simp))
    have htext : ("." ++ padded digits n).toList ++ 'Z' :: rest =
        '.' :: ((padded digits n).toList ++ 'Z' :: rest) := by simp
    rw [htext, scanFraction_point hscan, ofDigitChars_padded, hlength, ← hn]
    exact congrArg (some <| Prod.mk · _) (Nat.div_mul_cancel hdvd)

/-- The time of day that is shown: a leap second is in the sixtieth second, or else the second
after. -/
def shownTime (t : TimeOfDay) : TimeOfDay :=
  let second := t.second + t.nanosecond / nanosPerSecond
  let fraction := t.nanosecond % nanosPerSecond
  if second = 60 then ⟨t.hour, t.minute, 59, nanosPerSecond + fraction⟩
  else ⟨t.hour, t.minute, second, fraction⟩

theorem isValid_shownTime {t : TimeOfDay} (ht : t.isValid = true) :
    (shownTime t).isValid = true := by
  simp only [TimeOfDay.isValid, Bool.and_eq_true, decide_eq_true_eq] at ht
  obtain ⟨⟨⟨hhour, hminute⟩, hsecond⟩, hnanosecond⟩ := ht
  rw [nanosPerSecond] at hnanosecond
  rw [shownTime, nanosPerSecond]
  split <;> simp only [TimeOfDay.isValid, Bool.and_eq_true, decide_eq_true_eq]
  · exact ⟨⟨⟨hhour, hminute⟩, by decide⟩, by rw [nanosPerSecond]; omega⟩
  · exact ⟨⟨⟨hhour, hminute⟩, by omega⟩, by rw [nanosPerSecond]; omega⟩

theorem scanTime_text {t : TimeOfDay} (ht : t.isValid = true) :
    scanTime ((t.text (fractionDigits t.nanosecond)).toList ++ 'Z' :: rest) =
      some (shownTime t, 'Z' :: rest) := by
  simp only [TimeOfDay.isValid, Bool.and_eq_true, decide_eq_true_eq] at ht
  obtain ⟨⟨⟨hhour, hminute⟩, hsecond⟩, hnanosecond⟩ := ht
  have hleap := Nat.div_lt_of_lt_mul (Nat.mul_comm 2 _ ▸ hnanosecond)
  obtain ⟨hhour, hminute, hshown⟩ :
      t.hour < 100 ∧ t.minute < 100 ∧ t.second + t.nanosecond / nanosPerSecond < 100 := by
    omega
  have htext : (t.text (fractionDigits t.nanosecond)).toList ++ 'Z' :: rest =
      (padded 2 t.hour).toList ++ ':' :: ((padded 2 t.minute).toList ++ ':' ::
        ((padded 2 (t.second + t.nanosecond / nanosPerSecond)).toList ++
          ((fractionText (fractionDigits t.nanosecond) t.nanosecond).toList ++ 'Z' :: rest))) := by
    simp [TimeOfDay.text]
  have hmark : Text.isBlank ':' = false := by decide
  rw [htext, scanTime, scan_bind (scanNumber_padded (by decide) hhour),
    scan_bind (scanMark_cons hmark), scan_bind (scanNumber_padded (by decide) hminute),
    scan_bind (scanMark_cons hmark), scan_bind (scanNumber_padded (by decide) hshown),
    scan_bind (scanFraction_fractionText t.nanosecond)]
  rfl

/-! ## Timestamps -/

/-- The timestamp that the text of a timestamp shows. -/
def shown (t : Timestamp) : Timestamp :=
  ⟨t.date, shownTime t.time, by
    have ht := t.valid
    rw [isInstant, Bool.and_eq_true] at ht ⊢
    exact ⟨ht.1, isValid_shownTime ht.2⟩⟩

theorem ofLocal?_zero (t : Timestamp) : ofLocal? t.date t.time 0 = some t := by
  have ht := t.valid
  simp only [isInstant, TimeOfDay.isValid, Bool.and_eq_true, decide_eq_true_eq] at ht
  obtain ⟨-, ⟨⟨hhour, hminute⟩, -⟩, -⟩ := ht
  have hwithin : ((t.time.hour * 60 + t.time.minute : Nat) - 0 : Int) % 1440 =
      (t.time.hour * 60 + t.time.minute : Nat) := by omega
  have hhours : (t.time.hour * 60 + t.time.minute) / 60 = t.time.hour := by omega
  have hminutes : (t.time.hour * 60 + t.time.minute) % 60 = t.time.minute := by omega
  simp only [ofLocal?, t.valid, if_true, hwithin, Int.toNat_natCast, hhours, hminutes]
  rw [if_neg (by omega), if_pos (by omega), of?, dif_pos t.valid]

theorem scan_text (t : Timestamp) : scan t.text.toList = some (t.shown, []) := by
  obtain ⟨hdate, htime⟩ : t.date.isValid = true ∧ t.time.isValid = true := by
    have ht := t.valid
    simp only [isInstant, Bool.and_eq_true] at ht
    exact ⟨ht.1.1.1, ht.2⟩
  have htext : t.text.toList = t.date.text.toList ++ 'T' ::
      ((t.time.text (fractionDigits t.time.nanosecond)).toList ++ ['Z']) := by
    simp [text]
  have hmark : ∀ rest, (discard (scanOneOf ['t', 'T', ' ']) : Scanner Unit) ('T' :: rest) =
      some ((), rest) := fun _ => rfl
  have hzone : scanOffset ['Z'] = some (0, []) := by decide
  rw [htext, scan, scan_bind (scanDate_text hdate), scan_bind (hmark _),
    scan_bind (scanTime_text htime), scan_bind (skipBlanks_eq (by simp; decide)), scan_bind hzone,
    scan_bind (skipBlanks_eq (by simp))]
  have hlocal : ofLocal? t.date (shownTime t.time) 0 = some t.shown := ofLocal?_zero t.shown
  rw [hlocal]
  rfl

/-- The text of a timestamp is read as the timestamp that it shows. -/
theorem ofText?_text (t : Timestamp) : ofText? t.text = some t.shown := by
  rw [ofText?, StateT.run, scan_text]

/-! ## Timestamps that are read -/

theorem scan_bind_eq_some {x : Scanner α} {f : α → Scanner β} {r : β × List Char}
    (h : (x >>= f) cs = some r) : ∃ a rest, x cs = some (a, rest) ∧ f a rest = some r := by
  obtain ⟨⟨a, rest⟩, hx, hf⟩ := Option.bind_eq_some_iff.1 h
  exact ⟨a, rest, hx, hf⟩

/-- The value of digits, after which a number already stands. -/
theorem ofDigitChars_lt (hds : ∀ c ∈ ds, c.isDigit = true) (n : Nat) :
    Nat.ofDigitChars 10 ds n < (n + 1) * Nat.pow 10 ds.length := by
  induction ds generalizing n with
  | nil => simp [Nat.ofDigitChars]
  | cons c ds ih =>
    rw [List.forall_mem_cons] at hds
    have hc := (Char.isDigit_iff_toNat.1 hds.1).2
    have hnext : 10 * n + (c.toNat - '0'.toNat) + 1 ≤ (n + 1) * 10 := by
      simp at hc ⊢
      omega
    rw [Nat.ofDigitChars_cons, List.length_cons]
    calc Nat.ofDigitChars 10 ds _ < _ := ih hds.2 _
      _ ≤ (n + 1) * 10 * Nat.pow 10 ds.length := Nat.mul_le_mul_right _ hnext
      _ = (n + 1) * Nat.pow 10 (ds.length + 1) := by
        rw [Nat.mul_assoc]
        exact congrArg _ (Nat.pow_succ' ..).symm

theorem scanDigits_eq_some {limit : Nat} (h : scanDigits limit cs = some (ds, rest)) :
    ds.length ≤ limit ∧ ∀ c ∈ ds, c.isDigit = true := by
  rw [scanDigits] at h
  split at h
  · cases h
  · cases h
    exact ⟨Nat.le_trans (List.takeWhile_sublist _).length_le (List.length_take_le _ _),
      List.all_eq_true.1 List.all_takeWhile⟩

/-- A fraction that is read is less than a second. -/
theorem lt_of_scanFraction {fraction : Nat} (h : scanFraction cs = some (fraction, rest)) :
    fraction < nanosPerSecond := by
  unfold scanFraction at h
  split at h
  · obtain ⟨⟨ds, between⟩, hds, h⟩ := Option.bind_eq_some_iff.1 h
    cases h
    obtain ⟨hlength, hdigits⟩ := scanDigits_eq_some hds
    have hvalue := ofDigitChars_lt hdigits 0
    rw [Nat.zero_add, Nat.one_mul] at hvalue
    calc Nat.ofDigitChars 10 ds 0 * Nat.pow 10 (9 - ds.length)
      _ < Nat.pow 10 ds.length * Nat.pow 10 (9 - ds.length) :=
        Nat.mul_lt_mul_of_pos_right hvalue (Nat.pow_pos (by decide))
      _ = nanosPerSecond := by
        refine (Nat.pow_add 10 ds.length (9 - ds.length)).symm.trans ?_
        rw [Nat.add_sub_cancel' hlength]
        rfl
  · cases h
    decide

/-- A time that is read has a leap second in the sixtieth second only. -/
theorem shownTime_of_scanTime {t : TimeOfDay} (h : scanTime cs = some (t, rest)) :
    shownTime t = t := by
  obtain ⟨hour, _, -, h⟩ := scan_bind_eq_some h
  obtain ⟨_, _, -, h⟩ := scan_bind_eq_some h
  obtain ⟨minute, _, -, h⟩ := scan_bind_eq_some h
  obtain ⟨_, _, -, h⟩ := scan_bind_eq_some h
  obtain ⟨second, _, -, h⟩ := scan_bind_eq_some h
  obtain ⟨fraction, _, hfraction, h⟩ := scan_bind_eq_some h
  have hlt := lt_of_scanFraction hfraction
  cases h
  by_cases hleap : second = 60
  · have hwhole : (nanosPerSecond + fraction) / nanosPerSecond = 1 := by
      rw [Nat.add_div_left _ (by decide), Nat.div_eq_of_lt hlt]
    simp only [hleap, if_true, shownTime, hwhole, Nat.add_mod_left, Nat.mod_eq_of_lt hlt]
  · simp only [hleap, if_false, shownTime, Nat.div_eq_of_lt hlt, Nat.mod_eq_of_lt hlt, Nat.add_zero]

theorem time_of_of? {date : Date} {time : TimeOfDay} {t : Timestamp} (h : of? date time = some t) :
    t.time = time := by
  rw [of?] at h
  split at h
  · cases h
    rfl
  · cases h

/-- The offset from universal time changes neither the second nor its fraction. -/
theorem shown_of_ofLocal? {date : Date} {time : TimeOfDay} {offset : Int} {t : Timestamp}
    (h : ofLocal? date time offset = some t) (htime : shownTime time = time) : t.shown = t := by
  have hmoved (hour minute : Nat) :
      shownTime { time with hour, minute } = { time with hour, minute } := by
    have hsame : shownTime { time with hour, minute } = { shownTime time with hour, minute } := by
      simp only [shownTime]
      split <;> rfl
    rw [hsame, htime]
  have ht : shownTime t.time = t.time := by
    by_cases hinstant : isInstant date time = true
    · rw [ofLocal?, if_pos hinstant] at h
      rw [time_of_of? h, hmoved]
    · rw [ofLocal?, if_neg hinstant] at h
      cases h
  cases t
  simpa [shown] using ht

/-- A timestamp that is read is the one that its text shows. -/
theorem shown_of_ofText? {s : String} {t : Timestamp} (h : ofText? s = some t) : t.shown = t := by
  rw [ofText?] at h
  split at h
  next heq =>
    cases h
    obtain ⟨date, _, -, h⟩ := scan_bind_eq_some heq
    obtain ⟨_, _, -, h⟩ := scan_bind_eq_some h
    obtain ⟨time, _, htime, h⟩ := scan_bind_eq_some h
    obtain ⟨_, _, -, h⟩ := scan_bind_eq_some h
    obtain ⟨offset, _, -, h⟩ := scan_bind_eq_some h
    obtain ⟨_, _, -, h⟩ := scan_bind_eq_some h
    cases hlocal : ofLocal? date time offset with
    | none =>
      rw [hlocal] at h
      cases h
    | some t' =>
      rw [hlocal] at h
      cases h
      exact shown_of_ofLocal? hlocal (shownTime_of_scanTime htime)
  next => cases h

end Timestamp

end SchemaTrail
