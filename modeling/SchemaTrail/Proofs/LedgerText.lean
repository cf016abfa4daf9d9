import SchemaTrail.Ledger.Basic
import SchemaTrail.Proofs.Documents
import SchemaTrail.Proofs.Outcome
import SchemaTrail.Proofs.TimestampText

/-!
# Ledgers that are written and read

The text of a ledger has one line for each entry.  Reading it gives the entries with the charsets of
their columns in lower case and with the times that their texts show (`Ledger.ofText_text`), unless
a position has no file name: that is written, but cannot be read.
-/

namespace SchemaTrail

/-! ## Printable characters -/

/-- Characters of which none is a control character of ASCII. -/
def Text.Printable (cs : List Char) : Prop :=
  ∀ c ∈ cs, 0x20 ≤ c.toNat

namespace Text.Printable

variable {cs ds : List Char}

theorem append (hcs : Printable cs) (hds : Printable ds) : Printable (cs ++ ds) :=
  List.forall_mem_append.2 ⟨hcs, hds⟩

theorem cons {c : Char} (hc : 0x20 ≤ c.toNat) (hcs : Printable cs) : Printable (c :: cs) :=
  List.forall_mem_cons.2 ⟨hc, hcs⟩

theorem not_mem {c : Char} (hcs : Printable cs) (hc : c.toNat < 0x20) : c ∉ cs := by
  intro hmem
  have hlow := hcs c hmem
  omega

end Text.Printable

namespace Json

open Text (Printable)

theorem printable_escapeChar (c : Char) : Printable (escapeChar c) := by
  have hdigit : ∀ n < 0x10, 0x20 ≤ (Nat.digitChar n).toNat := by decide
  unfold escapeChar
  split
  case h_8 =>
    split
    next h =>
      have hhigh := hdigit (c.toNat / 16) (by omega)
      have hlow := hdigit (c.toNat % 16) (by omega)
      simp [Printable, hhigh, hlow]
    next h => simpa [Printable] using h
  all_goals simp [Printable]

theorem printable_quote (s : String) : Printable (quote s) := by
  have hinner : Printable (s.toList.flatMap escapeChar) := fun d hd => by
    obtain ⟨c, -, hd⟩ := List.mem_flatMap.1 hd
    exact printable_escapeChar c d hd
  exact .cons (by decide) (hinner.append (by simp [Printable]))

theorem printable_itemChars {xs : List Json} (h : ∀ x ∈ xs, Printable (chars x)) :
    Printable (itemChars xs) := by
  induction xs with
  | nil => simp [itemChars, Printable]
  | cons x xs ih =>
    rw [List.forall_mem_cons] at h
    rw [itemChars, List.cons_append]
    exact .cons (by decide) (h.1.append (ih h.2))

theorem printable_fieldChars {fs : List (String × Json)} (h : ∀ f ∈ fs, Printable (chars f.2)) :
    Printable (fieldChars fs) := by
  induction fs with
  | nil => simp [fieldChars, Printable]
  | cons f fs ih =>
    rw [List.forall_mem_cons] at h
    obtain ⟨k, v⟩ := f
    have hkey : Printable (quote k ++ [':']) := (printable_quote k).append (by simp [Printable])
    rw [fieldChars, List.cons_append, List.cons_append, List.cons_append]
    exact .cons (by decide) ((hkey.append h.1).append (ih h.2))

theorem printable_ofInt (i : Int) : Printable (ofInt i).chars := by
  have hdigits : ∀ n, Printable (Nat.toDigits 10 n) := fun n c hc => by
    have hc := Char.isDigit_iff_toNat.1 (Token.isDigit_of_mem_toDigits hc)
    exact Nat.le_trans (by decide) hc.1
  cases i with
  | ofNat n =>
    rw [ofInt, ofNat, chars, String.toList_ofList]
    exact hdigits n
  | negSucc n =>
    rw [ofInt, chars, String.toList_ofList]
    exact .cons (by decide) (hdigits (n + 1))

theorem Readable.printable {depth : Nat} {j : Json} (hj : Readable depth j) :
    Printable j.chars := by
  induction hj with
  | null => simp [chars, Printable]
  | bool depth b => cases b <;> simp [chars, Printable]
  | ofInt depth hlow hhigh => exact printable_ofInt _
  | string depth s =>
    rw [chars]
    exact printable_quote s
  | @array depth items hdepth hitems ih =>
    cases items with
    | nil => simp [chars, Printable]
    | cons x xs =>
      rw [List.forall_mem_cons] at ih
      rw [chars]
      exact (Printable.cons (by decide) (ih.1.append (printable_itemChars ih.2))).append
        (by simp [Printable])
  | @object depth fields hdepth hfields ih =>
    cases fields with
    | nil => simp [chars, Printable]
    | cons f fs =>
      obtain ⟨k, v⟩ := f
      rw [List.forall_mem_cons] at ih
      have hkey : Printable (quote k ++ [':']) := (printable_quote k).append (by simp [Printable])
      rw [chars]
      have hfields := (hkey.append ih.1).append (printable_fieldChars ih.2)
      exact (Printable.cons (by decide) hfields).append (by simp [Printable])

end Json

/-! ## Lines -/

namespace Text

variable {line : List Char}

theorem withoutReturn_of_printable (h : Printable line) : withoutReturn line = line := by
  rw [withoutReturn]
  split
  next rest heq =>
    have hreturn : '\r' ∈ line := List.mem_reverse.1 (heq ▸ List.mem_cons_self)
    exact absurd hreturn (h.not_mem (by decide))
  next => rfl

theorem linesFrom_append (h : '\n' ∉ line) (current rest : List Char) :
    linesFrom current (line ++ '\n' :: rest) =
      withoutReturn (current.reverse ++ line) :: linesFrom [] rest := by
  induction line generalizing current with
  | nil => rw [List.nil_append, linesFrom, List.append_nil]
  | cons c line ih =>
    rw [List.mem_cons, not_or] at h
    rw [List.cons_append, linesFrom]
    · rw [ih h.2, List.reverse_cons, List.append_assoc, List.singleton_append]
    · exact fun hc => h.1 hc.symm

/-- Lines of printable characters are the lines of the text that they make up. -/
theorem lines_join {texts : List String} (h : ∀ s ∈ texts, Printable s.toList) :
    lines (String.join (texts.map (· ++ "\n"))) = texts := by
  induction texts with
  | nil => simp [lines, linesFrom]
  | cons s texts ih =>
    rw [List.forall_mem_cons] at h
    have htext : (String.join ((s :: texts).map (· ++ "\n"))).toList =
        s.toList ++ '\n' :: (String.join (texts.map (· ++ "\n"))).toList := by
      simp
    rw [lines, htext, linesFrom_append (h.1.not_mem (by decide)), List.reverse_nil, List.nil_append,
      withoutReturn_of_printable h.1, List.map_cons, String.ofList_toList]
    exact congrArg (s :: ·) (ih h.2)

end Text

/-! ## Positions -/

theorem Text.splitLast?_append {separator : Char} {front back : List Char} (h : separator ∉ back) :
    splitLast? separator (String.ofList (front ++ separator :: back)) =
      some (String.ofList front, String.ofList back) := by
  have hreverse : (front ++ separator :: back).reverse =
      back.reverse ++ separator :: front.reverse := by simp
  have hback : ∀ c ∈ back.reverse, decide (c ≠ separator) = true := fun c hc =>
    decide_eq_true fun heq => h (heq ▸ List.mem_reverse.1 hc)
  rw [splitLast?, String.toList_ofList, hreverse, List.takeWhile_append_of_pos hback,
    List.dropWhile_append_of_pos hback, List.takeWhile_cons_of_neg (by simp),
    List.dropWhile_cons_of_neg (by simp), List.append_nil, List.reverse_reverse]
  simp

namespace Position

theorem readOffset?_toDigits {n : Nat} (h : n < Nat.pow 2 64) :
    readOffset? (String.ofList (Nat.toDigits 10 n)) = some n := by
  have hplus : ∀ rest, Nat.toDigits 10 n ≠ '+' :: rest := fun rest heq => by
    have hdigit := Json.Token.isDigit_of_mem_toDigits (n := n) (heq ▸ List.mem_cons_self)
    simp at hdigit
  rw [readOffset?, String.toList_ofList]
  split
  next rest heq => exact absurd heq (hplus rest)
  next => simp [Decimal.readNat?_toDigits, Option.filter, h]

/-- A position is read back from its text if it has a file name, and otherwise cannot be read. -/
theorem ofText?_text {p : Position} (h : p.offset < Nat.pow 2 64) :
    ofText? p.text = if p.file = "" then none else some p := by
  have hcolon : ':' ∉ Nat.toDigits 10 p.offset := fun hc => by
    have hdigit := Json.Token.isDigit_of_mem_toDigits hc
    simp at hdigit
  have htext : p.text = String.ofList (p.file.toList ++ ':' :: Nat.toDigits 10 p.offset) := by
    rw [← String.toList_inj]
    simp [text]
  rw [ofText?, htext, Text.splitLast?_append hcolon, String.ofList_toList, Option.bind_eq_bind,
    Option.bind_some]
  show (readOffset? _).bind _ = _
  rw [readOffset?_toDigits h]
  rfl

end Position

/-! ## Entries -/

namespace Entry

variable {e : Entry}

/-- The entry as its line shows it: with the charsets of columns in lower case and the time that is
shown. -/
def shown (e : Entry) : Entry :=
  { e with changes := e.changes.map Change.lowered, recordedAt := e.recordedAt.shown }

theorem readable_toJson (e : Entry) : e.toJson.Readable 0 := by
  refine .object (by decide) ?_
  simp only [List.forall_mem_cons]
  have hdatabase : (Json.ofString? e.database).Readable 1 := by
    cases e.database with
    | none => exact .null 1
    | some name => exact .string 1 name
  have hchanges : (Json.array (e.changes.map Change.toJson)).Readable 1 :=
    .array (by decide) (List.forall_mem_map.2 fun c _ => c.readable_toJson (by decide))
  exact ⟨.string _ _, .string _ _, hdatabase, hchanges, .string _ _, by simp⟩

theorem ofJson?_toJson (h : e.position.offset < Nat.pow 2 64) :
    ofJson? e.toJson = if e.position.file = "" then none else some e.shown := by
  have hrecord : e.toJson.record? ["position", "sql", "database", "changes", "recorded-at"] =
      some [("position", e.position.toJson), ("sql", .string e.statement),
        ("database", .ofString? e.database), ("changes", .array (e.changes.map Change.toJson)),
        ("recorded-at", e.recordedAt.toJson)] :=
    Json.record?_object (by simp) (by simp)
  have hposition : Position.ofJson? e.position.toJson =
      if e.position.file = "" then none else some e.position := Position.ofText?_text h
  have hdatabase : (Json.ofString? e.database).optional? Json.string? = some e.database := by
    cases e.database <;> rfl
  have hchanges : (Json.array (e.changes.map Change.toJson)).list? Change.ofJson? =
      some (e.changes.map Change.lowered) := Json.list?_map fun c _ => c.ofJson?_toJson
  have hrecordedAt : Timestamp.ofJson? e.recordedAt.toJson = some e.recordedAt.shown :=
    Timestamp.ofText?_text e.recordedAt
  rw [ofJson?, hrecord]
  simp [Record.required?, Record.optional?, List.lookup_cons, Json.string?, hposition, hdatabase,
    hchanges, hrecordedAt]
  split <;> rfl

theorem ofLine?_compress (h : e.position.offset < Nat.pow 2 64) :
    ofLine? e.toJson.compress = if e.position.file = "" then none else some e.shown := by
  rw [ofLine?, Json.read?_compress e.readable_toJson, Option.bind_some, ofJson?_toJson h]

theorem isBlankLine_compress (e : Entry) : Text.isBlankLine e.toJson.compress = false := by
  have hopen : Text.isBlank '\x7b' = false := by decide
  rw [Text.isBlankLine, Json.compress, String.toList_ofList, toJson, Json.chars, List.cons_append,
    List.cons_append, List.cons_append, List.cons_append, List.all_cons, hopen, Bool.false_and]

end Entry

/-! ## Ledgers -/

namespace Ledger

open Outcome

/-- Entries whose positions come one after the other, the first after `previous`. -/
def Ordered : Option Position → List Entry → Prop
  | _, [] => True
  | previous, e :: es => (∀ p ∈ previous, p.before e.position = true) ∧ Ordered (some e.position) es

/-- A ledger whose text consists of the lines of its entries, which are in order. -/
structure Kept (l : Ledger) : Prop where
  text : l.text = String.join (l.entries.map Entry.line)
  ordered : Ordered none l.entries

variable {previous : Option Position} {es : List Entry} {e : Entry} {l l' : Ledger}

theorem last_cons (a : Entry) (es : List Entry) (previous : Option Position) :
    ((a :: es).getLast?.map Entry.position).or previous =
      (es.getLast?.map Entry.position).or (some a.position) := by
  cases es with
  | nil => rfl
  | cons b es => simp [List.getLast?_cons]

theorem ordered_append : Ordered previous (es ++ [e]) ↔ Ordered previous es ∧
    ∀ p ∈ (es.getLast?.map Entry.position).or previous, p.before e.position = true := by
  induction es generalizing previous with
  | nil => simp [Ordered]
  | cons a es ih => rw [List.cons_append, Ordered, ih, Ordered, last_cons, and_assoc]

/-! ### Extending -/

theorem check_eq_ok_iff {position : Position} :
    l.check position = .ok () ↔ ∀ p ∈ l.last?, p.before position = true := by
  rw [check]
  cases l.last? with
  | none => simp
  | some p => by_cases hp : p.before position = true <;> simp [hp]

theorem check_eq_error {position : Position} {cause : LedgerError}
    (h : l.check position = .error cause) : ∃ p q, cause = .notAfter p q := by
  rw [check] at h
  cases hlast : l.last? with
  | none =>
    rw [hlast] at h
    cases h
  | some p =>
    simp only [hlast] at h
    split at h
    · cases h
    · exact ⟨position, p, (Except.error.inj h).symm⟩

theorem append_eq_ok_iff : l.append e = .ok l' ↔
    l.check e.position = .ok () ∧ l' = ⟨l.text ++ e.line, l.entries ++ [e]⟩ := by
  rw [append]
  cases l.check e.position with
  | error cause => simp [Bind.bind, Except.bind]
  | ok u => simp [Bind.bind, Except.bind, pure, Except.pure, eq_comm]

theorem kept_empty : empty.Kept :=
  ⟨rfl, trivial⟩

/-- An entry whose position is accepted keeps the entries in order. -/
theorem ordered_concat (h : Ordered none l.entries) (hcheck : l.check e.position = .ok ()) :
    Ordered none (l.entries ++ [e]) := by
  refine ordered_append.2 ⟨h, ?_⟩
  rw [Option.or_none]
  exact check_eq_ok_iff.1 hcheck

theorem Kept.append (hl : l.Kept) (h : l.append e = .ok l') : l'.Kept := by
  obtain ⟨hcheck, rfl⟩ := append_eq_ok_iff.1 h
  refine ⟨?_, ordered_concat hl.ordered hcheck⟩
  simp [hl.text]

/-! ### Reading -/

theorem checkOrder_eq_ok (h : ∀ p ∈ previous, p.before e.position = true) (number : Nat) :
    checkOrder number previous e = .ok () := by
  cases previous with
  | none => rfl
  | some p => exact if_pos (h p rfl)

theorem readLines_cons (number : Nat) (previous : Option Position) (e : Entry)
    (rest : List String) : readLines number previous (e.toJson.compress :: rest) =
      match Entry.ofLine? e.toJson.compress with
      | none => .error (.line number .unreadable)
      | some e => do
        checkOrder number previous e
        return e :: (← readLines (number + 1) (some e.position) rest) := by
  rw [readLines, e.isBlankLine_compress]
  rfl

/-- Entries in order are read back if all their positions have file names. -/
theorem readLines_eq_ok (hoffset : ∀ e ∈ es, e.position.offset < Nat.pow 2 64)
    (hfile : ∀ e ∈ es, e.position.file ≠ "") (h : Ordered previous es) (number : Nat) :
    readLines number previous (es.map fun e => e.toJson.compress) = .ok (es.map Entry.shown) := by
  induction es generalizing previous number with
  | nil => rfl
  | cons e es ih =>
    rw [List.forall_mem_cons] at hoffset hfile
    -- Reading compares the entries as they are shown, which does not change their positions.
    have horder : checkOrder number previous e.shown = .ok () :=
      checkOrder_eq_ok (e := e.shown) h.1 number
    have hrest := ih hoffset.2 hfile.2 h.2 (number + 1)
    rw [List.map_cons, readLines_cons, Entry.ofLine?_compress hoffset.1, if_neg hfile.1]
    show (do checkOrder number previous e.shown
             return e.shown :: (← readLines (number + 1) (some e.position) _)) = _
    rw [horder, hrest]
    rfl

/-- Entries whose lines can be read have positions with file names. -/
theorem file_ne_of_readLines (hoffset : ∀ e ∈ es, e.position.offset < Nat.pow 2 64) {number : Nat}
    {read : List Entry}
    (h : readLines number previous (es.map fun e => e.toJson.compress) = .ok read) :
    ∀ e ∈ es, e.position.file ≠ "" := by
  induction es generalizing previous number read with
  | nil => simp
  | cons e es ih =>
    rw [List.forall_mem_cons] at hoffset ⊢
    rw [List.map_cons, readLines_cons, Entry.ofLine?_compress hoffset.1] at h
    by_cases hfile : e.position.file = ""
    · rw [if_pos hfile] at h
      cases h
    · rw [if_neg hfile] at h
      obtain ⟨_, -, h⟩ := bind_eq_ok_iff.1 h
      obtain ⟨rest, hrest, -⟩ := bind_eq_ok_iff.1 h
      exact ⟨hfile, ih hoffset.2 hrest⟩

theorem Kept.lines_text (hl : l.Kept) :
    Text.lines l.text = l.entries.map fun e => e.toJson.compress := by
  have hprintable : ∀ s ∈ l.entries.map fun e => e.toJson.compress, Text.Printable s.toList := by
    refine List.forall_mem_map.2 fun e _ => ?_
    rw [Json.compress, String.toList_ofList]
    exact e.readable_toJson.printable
  have hlines := Text.lines_join hprintable
  rw [List.map_map] at hlines
  rw [hl.text]
  exact hlines

/-- A ledger is read back from its text, with its entries as their lines show them. -/
theorem Kept.ofText_text (hl : l.Kept) (hoffset : ∀ e ∈ l.entries, e.position.offset < Nat.pow 2 64)
    (hfile : ∀ e ∈ l.entries, e.position.file ≠ "") :
    ofText l.text = .ok ⟨l.text, l.entries.map Entry.shown⟩ := by
  rw [ofText, hl.lines_text, readLines_eq_ok hoffset hfile hl.ordered]
  rfl

theorem Kept.file_ne_of_ofText (hl : l.Kept)
    (hoffset : ∀ e ∈ l.entries, e.position.offset < Nat.pow 2 64)
    (h : ofText l.text = .ok l') : ∀ e ∈ l.entries, e.position.file ≠ "" := by
  rw [ofText, hl.lines_text] at h
  obtain ⟨read, hread, -⟩ := map_eq_ok_iff.1 h
  exact file_ne_of_readLines hoffset hread

end Ledger

end SchemaTrail
