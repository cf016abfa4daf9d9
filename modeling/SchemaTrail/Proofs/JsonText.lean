import SchemaTrail.Json.Approximation
import SchemaTrail.Json.Reader
import SchemaTrail.Proofs.JsonTokens

/-!
# JSON that is written and read

A value whose numbers are integers of 64 bits and that is not nested too deep (`Json.Readable`) is
what its text holds (`read?_compress`), and passing on its numbers leaves it as it is
(`Readable.normalizeNumbers?`).  The text is fed to a `Builder` token by token; feeding it the text
of a value leaves that value complete, whatever follows.
-/

namespace SchemaTrail.Json

open Token (EndsNumber)

/-- A value that is read back as it is written where `depth` arrays and objects are open. -/
inductive Readable : Nat → Json → Prop
  | null (depth : Nat) : Readable depth .null
  | bool (depth : Nat) (b : Bool) : Readable depth (.bool b)
  | ofInt (depth : Nat) {i : Int} (hlow : -Nat.pow 2 63 ≤ i) (hhigh : i ≤ Nat.pow 2 64 - 1) :
    Readable depth (.ofInt i)
  | string (depth : Nat) (s : String) : Readable depth (.string s)
  | array {depth : Nat} {items : List Json} (hdepth : depth < depthLimit)
    (hitems : ∀ x ∈ items, Readable (depth + 1) x) : Readable depth (.array items)
  | object {depth : Nat} {fields : List (String × Json)} (hdepth : depth < depthLimit)
    (hfields : ∀ f ∈ fields, Readable (depth + 1) f.2) : Readable depth (.object fields)

/-! ## Feeding a builder -/

/-- The value that a builder makes of the rest of a text. -/
def feed (b : Builder) (cs : List Char) : Option Json :=
  (Token.readAll? cs).bind fun tokens => (tokens.foldlM Builder.step b).bind Builder.result?

theorem isSpace_eq_false_of_read? {c : Char} {cs : List Char} {r : Token × List Char}
    (h : Token.read? (c :: cs) = some r) : Token.isSpace c = false := by
  refine Bool.eq_false_iff.2 fun hc => ?_
  have hcases : c = ' ' ∨ c = '\n' ∨ c = '\t' ∨ c = '\r' := by
    simpa [Token.isSpace, or_assoc] using hc
  rcases hcases with rfl | rfl | rfl | rfl <;>
    simp [Token.read?, Token.number?, Token.unsigned?, Token.whole?, Token.digits?] at h

theorem feed_token {b : Builder} {cs rest : List Char} {t : Token}
    (h : Token.read? cs = some (t, rest)) : feed b cs = (b.step t).bind (feed · rest) := by
  cases cs with
  | nil => cases h
  | cons c cs =>
    have hall : Token.readAll? (c :: cs) = (Token.readAll? rest).map (t :: ·) := by
      rw [Token.readAll?, if_neg (by simp [isSpace_eq_false_of_read? h])]
      split
      next hnone => rw [h] at hnone; cases hnone
      next hsome => rw [h] at hsome; cases hsome; rfl
    rw [feed, hall]
    cases hrest : Token.readAll? rest with
    | none => cases b.step t <;> simp [feed, hrest]
    | some tokens =>
      rw [Option.map_some, Option.bind_some, List.foldlM_cons]
      cases b.step t with
      | none => rfl
      | some b' => simp [feed, hrest]

theorem feed_symbol {c : Char} {t : Token} (h : ∀ rest, Token.read? (c :: rest) = some (t, rest))
    (b : Builder) (rest : List Char) : feed b (c :: rest) = (b.step t).bind (feed · rest) :=
  feed_token (h rest)

/-- A builder takes the first token of a value, as which the end of an array does not count. -/
def Builder.Awaits (b : Builder) (frames : List Frame) : Prop :=
  ∀ t, t ≠ .closeArray → b.step t = startValue frames t

theorem Builder.awaits_value (frames : List Frame) : (Builder.value frames).Awaits frames :=
  fun _ _ => rfl

theorem Builder.awaits_firstItem (frames : List Frame) :
    (Builder.firstItem frames).Awaits (.array [] :: frames) := by
  intro t ht
  cases t with
  | closeArray => exact absurd rfl ht
  | _ => rfl

/-- Feeding the text of a value completes it. -/
def ReadsBack (depth : Nat) (j : Json) : Prop :=
  ∀ (b : Builder) (frames : List Frame) (rest : List Char), b.Awaits frames →
    frames.length = depth → EndsNumber rest →
      feed b (chars j ++ rest) = feed (.complete j frames) rest

theorem within_of_lt {frames : List Frame} (h : frames.length < depthLimit) (j : Json) :
    within frames j = j :=
  if_pos h

theorem endsNumber_itemChars (xs : List Json) (rest : List Char) :
    EndsNumber (itemChars xs ++ ']' :: rest) := by
  cases xs <;> simp [EndsNumber, itemChars]

theorem endsNumber_fieldChars (fs : List (String × Json)) (rest : List Char) :
    EndsNumber (fieldChars fs ++ '}' :: rest) := by
  cases fs with
  | nil => simp [EndsNumber, fieldChars]
  | cons f fs => simp [EndsNumber, fieldChars]

variable {depth : Nat} {frames : List Frame} {rest : List Char}

/-- Feeding the items after the first closes their array. -/
theorem feed_itemChars {xs : List Json} (hxs : ∀ x ∈ xs, ReadsBack (depth + 1) x)
    (hframes : frames.length = depth) (hdepth : depth < depthLimit) (x : Json) (read : List Json) :
    feed (.complete x (.array read :: frames)) (itemChars xs ++ ']' :: rest) =
      feed (.complete (.array (read.reverse ++ x :: xs)) frames) rest := by
  induction xs generalizing x read with
  | nil =>
    rw [itemChars, List.nil_append, feed_symbol (t := .closeArray) fun _ => rfl, Builder.step,
      afterValue, Option.bind_some, within_of_lt (hframes ▸ hdepth), List.reverse_cons]
  | cons y ys ih =>
    rw [List.forall_mem_cons] at hxs
    rw [itemChars, List.cons_append, List.cons_append, feed_symbol (t := .comma) fun _ => rfl,
      Builder.step, afterValue, Option.bind_some, List.append_assoc,
      hxs.1 _ _ _ (Builder.awaits_value _) (by simp [hframes]) (endsNumber_itemChars ys rest),
      ih hxs.2]
    simp

/-- Feeding the fields after the first closes their object. -/
theorem feed_fieldChars {fs : List (String × Json)} (hfs : ∀ f ∈ fs, ReadsBack (depth + 1) f.2)
    (hframes : frames.length = depth) (hdepth : depth < depthLimit) (k : String) (v : Json)
    (read : List (String × Json)) :
    feed (.complete v (.object k read true :: frames)) (fieldChars fs ++ '}' :: rest) =
      feed (.complete (.object (read.reverse ++ (k, v) :: fs)) frames) rest := by
  induction fs generalizing k v read with
  | nil =>
    rw [fieldChars, List.nil_append, feed_symbol (t := .closeObject) fun _ => rfl, Builder.step,
      afterValue, Option.bind_some, if_pos rfl, within_of_lt (hframes ▸ hdepth), List.reverse_cons]
  | cons f fs ih =>
    obtain ⟨l, w⟩ := f
    rw [List.forall_mem_cons] at hfs
    have hvalue : ReadsBack (depth + 1) w := hfs.1
    rw [fieldChars, List.cons_append, List.cons_append, List.cons_append, List.cons_append,
      feed_symbol (t := .comma) fun _ => rfl, Builder.step, afterValue, Option.bind_some]
    simp only [List.cons_append, List.append_assoc, List.nil_append]
    rw [feed_token (Token.read?_quote l), Builder.step, startField, Option.bind_some,
      feed_symbol (t := .colon) fun _ => rfl, Builder.step, Option.bind_some,
      hvalue _ _ _ (Builder.awaits_value _) (by simp [hframes]) (endsNumber_fieldChars fs rest),
      ih hfs.2]
    simp

/-! ## Values -/

theorem Readable.readsBack {j : Json} (hj : Readable depth j) : ReadsBack depth j := by
  -- The rest of the text stays a variable, as it says where a number ends.
  induction hj with
  | null depth =>
    intro b frames rest hb hframes hrest
    rw [chars, List.cons_append, List.cons_append, List.cons_append, List.cons_append,
      feed_token (t := .null) rfl, hb _ (by simp)]
    rfl
  | bool depth value =>
    intro b frames rest hb hframes hrest
    cases value with
    | true =>
      rw [chars, List.cons_append, List.cons_append, List.cons_append, List.cons_append,
        feed_token (t := .bool true) rfl, hb _ (by simp)]
      rfl
    | false =>
      rw [chars, List.cons_append, List.cons_append, List.cons_append, List.cons_append,
        List.cons_append, feed_token (t := .bool false) rfl, hb _ (by simp)]
      rfl
  | @ofInt depth i hlow hhigh =>
    intro b frames rest hb hframes hrest
    obtain ⟨literal, hi, hread⟩ := Token.read?_ofInt i hrest
    rw [feed_token hread, hb _ (by simp), hi]
    rfl
  | string depth s =>
    intro b frames rest hb hframes hrest
    rw [chars, feed_token (Token.read?_quote s), hb _ (by simp)]
    rfl
  | @array depth items hdepth hitems ih =>
    intro b frames rest hb hframes hrest
    cases items with
    | nil =>
      rw [chars, List.cons_append, feed_symbol (t := .openArray) fun _ => rfl, hb _ (by simp),
        startValue, Option.bind_some, List.cons_append,
        feed_symbol (t := .closeArray) fun _ => rfl, Builder.step, Option.bind_some,
        within_of_lt (hframes ▸ hdepth), List.nil_append]
    | cons x xs =>
      rw [List.forall_mem_cons] at ih
      rw [chars, List.cons_append, List.cons_append, List.cons_append,
        feed_symbol (t := .openArray) fun _ => rfl, hb _ (by simp), startValue, Option.bind_some]
      simp only [List.cons_append, List.append_assoc, List.nil_append]
      rw [ih.1 _ _ _ (Builder.awaits_firstItem frames) (by simp [hframes])
        (endsNumber_itemChars xs rest), feed_itemChars ih.2 hframes hdepth]
      rfl
  | @object depth fields hdepth hfields ih =>
    intro b frames rest hb hframes hrest
    cases fields with
    | nil =>
      rw [chars, List.cons_append, feed_symbol (t := .openObject) fun _ => rfl, hb _ (by simp),
        startValue, Option.bind_some, List.cons_append,
        feed_symbol (t := .closeObject) fun _ => rfl, Builder.step, Option.bind_some,
        within_of_lt (hframes ▸ hdepth), List.nil_append]
    | cons f fs =>
      obtain ⟨k, v⟩ := f
      rw [List.forall_mem_cons] at ih
      have hvalue : ReadsBack (depth + 1) v := ih.1
      rw [chars, List.cons_append, List.cons_append, List.cons_append, List.cons_append,
        List.cons_append, feed_symbol (t := .openObject) fun _ => rfl, hb _ (by simp), startValue,
        Option.bind_some]
      simp only [List.cons_append, List.append_assoc, List.nil_append]
      rw [feed_token (Token.read?_quote k), Builder.step, startField, Option.bind_some,
        feed_symbol (t := .colon) fun _ => rfl, Builder.step, Option.bind_some,
        hvalue _ _ _ (Builder.awaits_value _) (by simp [hframes]) (endsNumber_fieldChars fs rest),
        feed_fieldChars ih.2 hframes hdepth]
      · rfl
      · simp

/-- A value is what its text holds. -/
theorem read?_compress {j : Json} (hj : Readable 0 j) : read? j.compress = some j := by
  have hfeed := hj.readsBack _ _ [] (Builder.awaits_value []) rfl (by simp [EndsNumber])
  rw [List.append_nil] at hfeed
  rw [compress, read?, String.toList_ofList]
  refine hfeed.trans ?_
  rw [feed, Token.readAll?]
  rfl

/-! ## Numbers that are passed on -/

theorem int?_ofInt (i : Int) : (ofInt i).int? = some i := by
  cases i with
  | ofNat n =>
    have hne : ∀ ds, Nat.toDigits 10 n = '-' :: ds → False := fun ds h => by
      simpa [h] using Token.isDigit_of_mem_toDigits (n := n) (c := '-')
    simp [ofInt, ofNat, int?, Decimal.readNat?_toDigits]
  | negSucc n =>
    simp only [ofInt, int?, String.toList_ofList, Decimal.readNat?_toDigits, Option.bind_some]
    rw [if_neg (Nat.succ_ne_zero n)]
    rfl

theorem normalizeNumbers?_ofInt {i : Int} (hlow : -Nat.pow 2 63 ≤ i)
    (hhigh : i ≤ Nat.pow 2 64 - 1) : (ofInt i).normalizeNumbers? = some (ofInt i) := by
  have hwhole : ((ofInt i).intBetween? (-Nat.pow 2 63) (Nat.pow 2 64 - 1)).isSome = true := by
    simp only [intBetween?, int?_ofInt, Option.filter, hlow, hhigh, decide_true, Bool.and_self,
      if_true, Option.isSome_some]
  obtain ⟨literal, hi⟩ : ∃ literal, ofInt i = .number literal := by
    cases i <;> exact ⟨_, rfl⟩
  rw [hi] at hwhole ⊢
  rw [normalizeNumbers?, normalizeNumber?]
  simp only [hwhole, if_true]

theorem normalizeItems?_eq_some {items : List Json}
    (h : ∀ x ∈ items, x.normalizeNumbers? = some x) : normalizeItems? items = some items := by
  induction items with
  | nil => rfl
  | cons x xs ih =>
    rw [List.forall_mem_cons] at h
    simp [normalizeItems?, h.1, ih h.2]

theorem normalizeFields?_eq_some {fields : List (String × Json)}
    (h : ∀ f ∈ fields, f.2.normalizeNumbers? = some f.2) :
    normalizeFields? fields = some fields := by
  induction fields with
  | nil => rfl
  | cons f fs ih =>
    rw [List.forall_mem_cons] at h
    simp [normalizeFields?, h.1, ih h.2]

/-- Passing on its numbers leaves a readable value as it is. -/
theorem Readable.normalizeNumbers? {j : Json} (hj : Readable depth j) :
    j.normalizeNumbers? = some j := by
  induction hj with
  | null | bool | string => rfl
  | ofInt depth hlow hhigh => exact normalizeNumbers?_ofInt hlow hhigh
  | array hdepth hitems ih => simp [Json.normalizeNumbers?, normalizeItems?_eq_some ih]
  | object hdepth hfields ih => simp [Json.normalizeNumbers?, normalizeFields?_eq_some ih]

end SchemaTrail.Json
