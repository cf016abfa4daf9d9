import Mathlib.Data.List.DropRight
import SchemaTrail.Proofs.JsonPrefixes
import SchemaTrail.Proofs.SettledDocuments

/-!
# Ledgers that are read again

A ledger is extended at the end of its text, whatever stands there, and read line by line.  The two
agree if nothing but blanks of JSON follows the last line break of the text: the ledger is then read
back with its new entry.  Otherwise the entry shares its line with what stands there, and the line
cannot be read (`Ledger.ofText_append`).
-/

namespace SchemaTrail

/-! ## The end of a text -/

namespace Text

/-- What follows the last line break of a text. -/
def unfinished (s : String) : List Char :=
  s.toList.rtakeWhile (· ≠ '\n')

variable {back : List Char}

theorem withoutReturn_append {line : List Char} (h : Printable line) (hne : line ≠ [])
    (front : List Char) : withoutReturn (front ++ line) = front ++ line := by
  obtain ⟨init, c, rfl⟩ := List.eq_nil_or_concat line |>.resolve_left hne
  have hc : c ≠ '\r' := by
    rintro rfl
    exact h.not_mem (c := '\r') (by decide) (by simp)
  rw [withoutReturn]
  split
  next heq =>
    simp at heq
    exact absurd heq.1 hc
  next => rfl

theorem linesFrom_of_not_mem (h : '\n' ∉ back) (current : List Char) :
    linesFrom current back =
      if (current.reverse ++ back).isEmpty then [] else [current.reverse ++ back] := by
  induction back generalizing current with
  | nil => simp [linesFrom]
  | cons c back ih =>
    rw [List.mem_cons, not_or] at h
    rw [linesFrom]
    · rw [ih h.2, List.reverse_cons, List.append_assoc, List.singleton_append]
    · exact fun hc => h.1 hc.symm

theorem linesFrom_break (front rest current : List Char) :
    linesFrom current (front ++ '\n' :: rest) =
      linesFrom current (front ++ ['\n']) ++ linesFrom [] rest := by
  induction front generalizing current with
  | nil => simp [linesFrom]
  | cons c front ih =>
    by_cases hc : c = '\n'
    · subst hc
      simp [linesFrom, ih]
    · simp only [List.cons_append]
      rw [linesFrom, linesFrom]
      · exact ih (c :: current)
      · exact hc
      · exact hc

theorem not_mem_unfinished (s : String) : '\n' ∉ unfinished s := fun h => by
  simpa using List.mem_rtakeWhile_imp h

/-- In front of what is unfinished, a text ends with a line break. -/
theorem exists_append_unfinished (s : String) : ∃ front, s.toList = front ++ unfinished s ∧
    ∀ rest, linesFrom [] (front ++ rest) = linesFrom [] front ++ linesFrom [] rest := by
  have hs := List.rdropWhile_append_rtakeWhile (p := (· ≠ '\n')) (l := s.toList)
  refine ⟨_, hs.symm, fun rest => ?_⟩
  by_cases hnil : s.toList.rdropWhile (· ≠ '\n') = []
  · rw [hnil]
    rfl
  · have hlast : (s.toList.rdropWhile (· ≠ '\n')).getLast hnil = '\n' := by
      simpa using List.rdropWhile_last_not _ _ hnil
    rw [← List.dropLast_append_getLast hnil, hlast, List.append_assoc, List.singleton_append]
    exact linesFrom_break _ rest []

/-- A text has the lines that end and what is unfinished; a line that is written at its end is
joined to what is unfinished. -/
theorem exists_lines (s : String) : ∃ ended : List String,
    lines s = ended ++ (if unfinished s = [] then [] else [String.ofList (unfinished s)]) ∧
    ∀ line : String, Printable line.toList → line ≠ "" →
      lines (s ++ (line ++ "\n")) = ended ++ [String.ofList (unfinished s ++ line.toList)] := by
  obtain ⟨front, hs, hfront⟩ := exists_append_unfinished s
  refine ⟨(linesFrom [] front).map String.ofList, ?_, fun line hline hne => ?_⟩
  · rw [lines, hs, hfront, linesFrom_of_not_mem (not_mem_unfinished s), List.map_append]
    by_cases hnil : unfinished s = [] <;> simp [hnil]
  · have hbreak : '\n' ∉ unfinished s ++ line.toList := by
      rw [List.mem_append, not_or]
      exact ⟨not_mem_unfinished s, hline.not_mem (by decide)⟩
    have htext : (s ++ (line ++ "\n")).toList =
        front ++ ((unfinished s ++ line.toList) ++ '\n' :: []) := by
      simp [hs]
    have hnil : line.toList ≠ [] := fun h => hne (String.toList_eq_nil_iff.1 h)
    rw [lines, htext, hfront, linesFrom_append hbreak, List.map_append, List.reverse_nil,
      List.nil_append, withoutReturn_append hline hnil]
    rfl

end Text

/-! ## Blanks -/

namespace Json

variable {b : Builder} {front : List Char}

theorem feed_spaces (h : ∀ c ∈ front, Token.isSpace c = true) (cs : List Char) :
    feed b (front ++ cs) = feed b cs := by
  induction front with
  | nil => rfl
  | cons c front ih =>
    rw [List.forall_mem_cons] at h
    rw [List.cons_append, feed_space h.1, ih h.2]

theorem Token.read?_of_isBlank {c : Char} (hc : Text.isBlank c = true) (cs : List Char) :
    read? (c :: cs) = none := by
  have hne : ∀ d, Text.isBlank d = false → c ≠ d := by
    rintro d hd rfl
    rw [hc] at hd
    cases hd
  have hnumber : number? (c :: cs) = none := by
    rw [number?]
    · refine Option.eq_none_iff_forall_ne_some.2 fun r hr => ?_
      have hdigit := Timestamp.isBlank_of_isDigit (isDigit_of_unsigned? hr)
      rw [hc] at hdigit
      cases hdigit
    · exact fun _ heq => absurd (List.cons.inj heq).1 (hne '-' (by decide))
  unfold read?
  split
  case h_1 => rfl
  case h_12 => rw [hnumber, Option.map_none]
  all_goals
    next h => exact absurd (List.cons.inj h).1 (hne _ (by decide))

/-- Other blanks than those of JSON are no part of a text that can be read. -/
theorem feed_blanks (hblank : ∀ c ∈ front, Text.isBlank c = true)
    (hspace : ¬∀ c ∈ front, Token.isSpace c = true) (cs : List Char) :
    feed b (front ++ cs) = none := by
  induction front with
  | nil => exact absurd (by simp) hspace
  | cons c front ih =>
    rw [List.forall_mem_cons] at hblank
    rw [List.cons_append]
    cases hc : Token.isSpace c with
    | true =>
      rw [feed_space hc]
      exact ih hblank.2 fun h => hspace (List.forall_mem_cons.2 ⟨hc, h⟩)
    | false => exact feed_unreadable hc (Token.read?_of_isBlank hblank.1 _)

end Json

theorem Text.isBlankLine_of_isSpace {line : List Char}
    (h : ∀ c ∈ line, Json.Token.isSpace c = true) : isBlankLine (String.ofList line) = true := by
  rw [isBlankLine, String.toList_ofList, List.all_eq_true]
  intro c hc
  have hcases : c = ' ' ∨ c = '\n' ∨ c = '\t' ∨ c = '\r' := by
    simpa [Json.Token.isSpace, or_assoc] using h c hc
  rcases hcases with rfl | rfl | rfl | rfl <;> decide

/-! ## Entries on their lines -/

namespace Entry

theorem exists_compress (e : Entry) : ∃ tail, e.toJson.compress.toList = '{' :: tail := by
  rw [Json.compress, String.toList_ofList, toJson, Json.chars]
  exact ⟨_, rfl⟩

theorem compress_ne (e : Entry) : e.toJson.compress ≠ "" := by
  intro h
  obtain ⟨tail, htail⟩ := e.exists_compress
  rw [h] at htail
  cases htail

theorem printable_compress (e : Entry) : Text.Printable e.toJson.compress.toList := by
  rw [Json.compress, String.toList_ofList]
  exact e.readable_toJson.printable

/-- What may stand in front of an entry on its line, so that the entry can still be read. -/
theorem ofLine?_append_compress {front : List Char} (h : ∀ c ∈ front, Json.Token.isSpace c = true)
    (e : Entry) : ofLine? (String.ofList (front ++ e.toJson.compress.toList)) =
      ofLine? e.toJson.compress := by
  have hread : Json.read? (String.ofList (front ++ e.toJson.compress.toList)) =
      Json.read? e.toJson.compress := by
    rw [Json.read?, String.toList_ofList]
    exact Json.feed_spaces h _
  rw [ofLine?, ofLine?, hread]

/-- An entry cannot be read behind a line that holds another, nor behind other blanks than those of
JSON. -/
theorem ofLine?_append_eq_none {front : List Char}
    (hspace : ¬∀ c ∈ front, Json.Token.isSpace c = true)
    (h : Text.isBlankLine (String.ofList front) = true ∨
      (ofLine? (String.ofList front)).isSome = true) (e : Entry) :
    ofLine? (String.ofList (front ++ e.toJson.compress.toList)) = none := by
  have hread : Json.read? (String.ofList (front ++ e.toJson.compress.toList)) = none := by
    rw [Json.read?, String.toList_ofList]
    rcases h with hblank | hentry
    · rw [Text.isBlankLine, String.toList_ofList, List.all_eq_true] at hblank
      exact Json.feed_blanks hblank hspace _
    · obtain ⟨e', he'⟩ := Option.isSome_iff_exists.1 hentry
      obtain ⟨j, hj, -⟩ := Option.bind_eq_some_iff.1 he'
      rw [Json.read?, String.toList_ofList] at hj
      obtain ⟨tail, htail⟩ := e.exists_compress
      rw [htail]
      exact Json.feed_append_object hj tail
  rw [ofLine?, hread, Option.bind_none]

theorem isBlankLine_append_compress (front : List Char) (e : Entry) :
    Text.isBlankLine (String.ofList (front ++ e.toJson.compress.toList)) = false := by
  have hopen : Text.isBlank '{' = false := by decide
  obtain ⟨tail, htail⟩ := e.exists_compress
  rw [Text.isBlankLine, String.toList_ofList, htail, List.all_append, List.all_cons, hopen,
    Bool.false_and, Bool.and_false]

end Entry

/-! ## Ledgers -/

namespace Ledger

open Outcome

variable {text : String} {l l' : Ledger} {j : Json} {e : Entry}

theorem readLines_append (number : Nat) (previous : Option Position) (front back : List String) :
    readLines number previous (front ++ back) = (do
      let es ← readLines number previous front
      let rest ← readLines (number + front.length)
        ((es.getLast?.map Entry.position).or previous) back
      return es ++ rest) := by
  induction front generalizing number previous with
  | nil =>
    have hnil : readLines number previous [] = .ok [] := by
      rw [readLines]
    rw [List.nil_append, hnil]
    exact (bind_pure (readLines number previous back)).symm
  | cons line front ih =>
    have hnumber : number + (line :: front).length = number + 1 + front.length := by
      rw [List.length_cons]
      omega
    rw [List.cons_append, readLines, readLines, hnumber]
    by_cases hblank : Text.isBlankLine line = true
    · rw [if_pos hblank, if_pos hblank, ih]
    · rw [if_neg hblank, if_neg hblank]
      cases Entry.ofLine? line with
      | none => rfl
      | some e =>
        simp only [ih]
        cases checkOrder number previous e with
        | error cause => rfl
        | ok u =>
          cases readLines (number + 1) (some e.position) front with
          | error cause => rfl
          | ok es =>
            show (do
              let rest ← (do
                let rest ← readLines (number + 1 + front.length)
                  ((es.getLast?.map Entry.position).or (some e.position)) back
                return es ++ rest)
              return e :: rest) = (do
              let rest ← readLines (number + 1 + front.length)
                (((e :: es).getLast?.map Entry.position).or previous) back
              return e :: es ++ rest)
            rw [last_cons, bind_assoc]
            rfl

theorem readLines_append_of_ok {number : Nat} {previous : Option Position} {front : List String}
    {es : List Entry} (h : readLines number previous front = .ok es) (back : List String) :
    readLines number previous (front ++ back) =
      (readLines (number + front.length) ((es.getLast?.map Entry.position).or previous) back).map
        (es ++ ·) := by
  rw [readLines_append, h]
  rfl

/-- A line that is read has an entry, unless it is passed over. -/
theorem readLines_singleton {number : Nat} {previous : Option Position} {line : String}
    {es : List Entry} (h : readLines number previous [line] = .ok es) :
    Text.isBlankLine line = true ∨ (Entry.ofLine? line).isSome = true := by
  by_cases hblank : Text.isBlankLine line = true
  · exact .inl hblank
  · rw [readLines, if_neg hblank] at h
    cases hentry : Entry.ofLine? line with
    | none =>
      rw [hentry] at h
      cases h
    | some e => exact .inr rfl

/-- The line that an entry shares with what stands in front of it is not passed over. -/
theorem readLines_append_compress (number : Nat) (previous : Option Position) (front : List Char)
    (e : Entry) : readLines number previous [String.ofList (front ++ e.toJson.compress.toList)] =
      match Entry.ofLine? (String.ofList (front ++ e.toJson.compress.toList)) with
      | none => .error (.line number .unreadable)
      | some e' => (checkOrder number previous e').map fun _ => [e'] := by
  rw [readLines, Entry.isBlankLine_append_compress]
  cases Entry.ofLine? (String.ofList (front ++ e.toJson.compress.toList)) with
  | none => rfl
  | some e' =>
    cases hcheck : checkOrder number previous e' with
    | error cause => simp [hcheck, Except.map, bind, Except.bind]
    | ok u => simp [hcheck, readLines, Except.map, bind, Except.bind, pure, Except.pure]

/-- A ledger that was read is extended: the lines that end are read as before, then what is
unfinished together with the line of the entry. -/
theorem exists_ofText_append (h : ofText text = .ok l) (e : Entry) :
    ∃ (ended : List String) (front back : List Entry),
      Text.lines text = ended ++
        (if Text.unfinished text = [] then [] else [String.ofList (Text.unfinished text)]) ∧
      readLines (1 + ended.length) (front.getLast?.map Entry.position)
        (if Text.unfinished text = [] then [] else [String.ofList (Text.unfinished text)]) =
          .ok back ∧
      l = ⟨text, front ++ back⟩ ∧
      ofText (text ++ e.line) =
        ((readLines (1 + ended.length) (front.getLast?.map Entry.position)
          [String.ofList (Text.unfinished text ++ e.toJson.compress.toList)]).map (front ++ ·)).map
            fun entries => ⟨text ++ e.line, entries⟩ := by
  obtain ⟨es, hes, rfl⟩ := map_eq_ok_iff.1 h
  obtain ⟨ended, hlines, happend⟩ := Text.exists_lines text
  have hnew : Text.lines (text ++ e.line) =
      ended ++ [String.ofList (Text.unfinished text ++ e.toJson.compress.toList)] :=
    happend _ e.printable_compress e.compress_ne
  rw [hlines, readLines_append] at hes
  obtain ⟨front, hfront, hes⟩ := bind_eq_ok_iff.1 hes
  obtain ⟨back, hback, hes⟩ := bind_eq_ok_iff.1 hes
  cases hes
  rw [Option.or_none] at hback
  refine ⟨ended, front, back, hlines, hback, rfl, ?_⟩
  rw [ofText, hnew, readLines_append_of_ok hfront, Option.or_none]

theorem ofText_append_of_spaces (hl : ofText text = .ok l) (he : Entry.ofJson? j = some e)
    (hshown : e.recordedAt.shown = e.recordedAt) (hcheck : l.check e.position = .ok ())
    (hspaces : ∀ c ∈ Text.unfinished text, Json.Token.isSpace c = true) :
    ofText (text ++ e.line) = .ok ⟨text ++ e.line, l.entries ++ [e]⟩ := by
  obtain ⟨hfile, hoffset⟩ := Entry.position_of_ofJson? he
  obtain ⟨ended, front, back, -, hback, rfl, hread⟩ := exists_ofText_append hl e
  have hnil : back = [] := by
    by_cases hnil : Text.unfinished text = []
    · rw [if_pos hnil, readLines] at hback
      exact (Except.ok.inj hback).symm
    · rw [if_neg hnil, readLines, if_pos (Text.isBlankLine_of_isSpace hspaces), readLines] at hback
      exact (Except.ok.inj hback).symm
  subst hnil
  have horder : checkOrder (1 + ended.length) (front.getLast?.map Entry.position) e = .ok () := by
    refine checkOrder_eq_ok ?_ _
    rw [← List.append_nil front]
    exact check_eq_ok_iff.1 hcheck
  rw [hread, readLines_append_compress, Entry.ofLine?_append_compress hspaces,
    Entry.ofLine?_compress hoffset, if_neg hfile, Entry.shown_eq_self he hshown]
  simp only [horder, List.append_nil]
  rfl

theorem ofText_append_of_unfinished (hl : ofText text = .ok l) (e : Entry)
    (hspaces : (Text.unfinished text).all Json.Token.isSpace = false) :
    ofText (text ++ e.line) = .error (.line (Text.lines text).length .unreadable) := by
  obtain ⟨ended, front, back, hlines, hback, -, hread⟩ := exists_ofText_append hl e
  have hnil : Text.unfinished text ≠ [] := by
    intro h
    rw [h] at hspaces
    cases hspaces
  have hspaces : ¬∀ c ∈ Text.unfinished text, Json.Token.isSpace c = true :=
    fun h => Bool.eq_false_iff.1 hspaces (List.all_eq_true.2 h)
  rw [if_neg hnil] at hback hlines
  rw [hread, readLines_append_compress,
    Entry.ofLine?_append_eq_none hspaces (readLines_singleton hback), hlines, List.length_append,
    List.length_singleton, Nat.add_comm]
  rfl

/-- An entry that was read is appended to a ledger that was read, and the text read again: the entry
is found if nothing but blanks of JSON follows the last line break.  Otherwise the line that it
shares with what stands there cannot be read. -/
theorem ofText_append (hl : ofText text = .ok l) (he : Entry.ofJson? j = some e)
    (hshown : Timestamp.ofText? e.recordedAt.text = some e.recordedAt) (h : l.append e = .ok l') :
    l'.entries = l.entries ++ [e] ∧
    ofText l'.text = if (Text.unfinished text).all Json.Token.isSpace then .ok l'
      else .error (.line (Text.lines text).length .unreadable) := by
  obtain ⟨hcheck, rfl⟩ := append_eq_ok_iff.1 h
  have htext : l.text = text := by
    obtain ⟨_, -, rfl⟩ := map_eq_ok_iff.1 hl
    rfl
  have hshown : e.recordedAt.shown = e.recordedAt :=
    Option.some.inj ((Timestamp.ofText?_text e.recordedAt).symm.trans hshown)
  refine ⟨rfl, ?_⟩
  simp only [htext]
  by_cases hspace : (Text.unfinished text).all Json.Token.isSpace = true
  · rw [if_pos hspace]
    exact ofText_append_of_spaces hl he hshown hcheck (List.all_eq_true.1 hspace)
  · rw [if_neg hspace]
    exact ofText_append_of_unfinished hl e (Bool.of_not_eq_true hspace)

/-- The first entry stands between lines of blanks, the last of which does not end. -/
theorem ofText_append_blanks :
    let first : Entry := ⟨⟨"b.1", 1⟩, "a", none, [], .epoch⟩
    let second : Entry := ⟨⟨"b.1", 2⟩, "b", some "d", [.dropDatabase "d"], .epoch⟩
    let text := "\r\n" ++ first.line ++ "\r\n\t "
    ofText text = .ok ⟨text, [first]⟩ ∧
    ofText (text ++ second.line) = .ok ⟨text ++ second.line, [first, second]⟩ := by
  intro first second text
  have hl : ofText text = .ok ⟨text, [first]⟩ := Outcome.toOption_eq_some_iff.1 (by decide +kernel)
  have he : Entry.ofJson? second.toJson = some second := by
    rw [Entry.ofJson?_toJson (by decide), if_neg (by decide)]
    decide +kernel
  have hshown : Timestamp.ofText? second.recordedAt.text = some second.recordedAt :=
    Timestamp.ofText?_text .epoch
  have hcheck : check ⟨text, [first]⟩ second.position = .ok () := by decide +kernel
  have happend := append_eq_ok_iff.2 ⟨hcheck, rfl⟩
  have hspace : (Text.unfinished text).all Json.Token.isSpace = true := by decide +kernel
  have hread := (ofText_append hl he hshown happend).2
  rw [if_pos hspace] at hread
  exact ⟨hl, hread⟩

/-- An entry that is appended to a line that does not end. -/
theorem unreadable_of_append_unfinished :
    let first : Entry := ⟨⟨"b.1", 1⟩, "a", none, [], .epoch⟩
    let second : Entry := ⟨⟨"b.1", 2⟩, "b", none, [.dropDatabase "d"], .epoch⟩
    let text := first.toJson.compress
    ofText text = .ok ⟨text, [first]⟩ ∧ Entry.ofJson? second.toJson = some second ∧
    Timestamp.ofText? second.recordedAt.text = some second.recordedAt ∧
    append ⟨text, [first]⟩ second = .ok ⟨text ++ second.line, [first, second]⟩ ∧
    ofText (text ++ second.line) = .error (.line 1 .unreadable) := by
  intro first second text
  have hl : ofText text = .ok ⟨text, [first]⟩ := Outcome.toOption_eq_some_iff.1 (by decide +kernel)
  have hunfinished := ofText_append_of_unfinished hl second (by decide +kernel)
  have hlines : (Text.lines text).length = 1 := by decide +kernel
  rw [hlines] at hunfinished
  have hcheck : check ⟨text, [first]⟩ second.position = .ok () := by decide +kernel
  have he : Entry.ofJson? second.toJson = some second := by
    rw [Entry.ofJson?_toJson (by decide), if_neg (by decide)]
    decide +kernel
  exact ⟨hl, he, Timestamp.ofText?_text .epoch, append_eq_ok_iff.2 ⟨hcheck, rfl⟩, hunfinished⟩

end Ledger

end SchemaTrail
