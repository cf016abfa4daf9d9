import SchemaTrail.Proofs.PointInTime
import SchemaTrail.Proofs.Reopening

/-!
# Ledgers in a file

A ledger is kept in a file, which is read, extended by entries and gone on with by a recorder, and
which others may write to at any time.  Whatever is done, and whether it succeeds or fails, the
entries that are held are in the order of their positions; an entry is taken exactly if it comes
after all of them, and otherwise nothing changes.  A text is read exactly if none of its lines is at
fault, and the first line that is at fault is the one that is reported (`LedgerFile.run_ordered`).
-/

namespace SchemaTrail

open Outcome

/-! ## Lines at fault -/

namespace Ledger

/-- The entries of those lines that hold one. -/
def entriesOf (lines : List String) : List Entry :=
  (lines.filter fun line => !Text.isBlankLine line).filterMap Entry.ofLine?

/-- What is wrong with the line that follows others.  Blank lines are never at fault. -/
inductive Fault (front : List String) (line : String) : LineFault → Prop
  | unreadable : Text.isBlankLine line = false → Entry.ofLine? line = none →
      Fault front line .unreadable
  | outOfOrder {last e : Entry} : Text.isBlankLine line = false → Entry.ofLine? line = some e →
      (entriesOf front).getLast? = some last → last.position.before e.position = false →
      Fault front line (.outOfOrder e.position last.position)

/-- What is wrong with the line that has `n` lines in front of it. -/
def FaultAt (lines : List String) (n : Nat) (fault : LineFault) : Prop :=
  ∃ line, lines[n]? = some line ∧ Fault (lines.take n) line fault

variable {front lines : List String} {line : String} {fault fault' : LineFault} {n : Nat}
  {previous : Option Position} {es : List Entry} {l : Ledger} {e : Entry} {position : Position}

theorem Fault.unique (h : Fault front line fault) (h' : Fault front line fault') :
    fault = fault' := by
  cases h with
  | unreadable hblank hline =>
    cases h' with
    | unreadable => rfl
    | outOfOrder _ hline' => simp [hline] at hline'
  | outOfOrder hblank hline hlast =>
    cases h' with
    | unreadable _ hline' => simp [hline] at hline'
    | outOfOrder _ hline' hlast' =>
      rw [hline, Option.some.injEq] at hline'
      rw [hlast, Option.some.injEq] at hlast'
      rw [hline', hlast']

theorem FaultAt.lt_length (h : FaultAt lines n fault) : n < lines.length := by
  obtain ⟨line, hline, -⟩ := h
  exact (List.getElem?_eq_some_iff.1 hline).1

theorem faultAt_append_singleton : FaultAt (lines ++ [line]) n fault ↔
    FaultAt lines n fault ∨ n = lines.length ∧ Fault lines line fault := by
  obtain hlt | rfl | hgt := Nat.lt_trichotomy n lines.length
  · rw [FaultAt, List.getElem?_append_left hlt, List.take_append_of_le_length hlt.le]
    simp [FaultAt, hlt.ne]
  · simp [FaultAt]
  · have hnone : (lines ++ [line])[n]? = none := by
      rw [List.getElem?_eq_none_iff, List.length_append, List.length_singleton]
      omega
    constructor
    · rintro ⟨_, hsome, -⟩
      simp [hnone] at hsome
    · rintro (h | ⟨rfl, -⟩)
      · exact absurd h.lt_length (Nat.lt_asymm hgt)
      · exact absurd hgt (Nat.lt_irrefl _)

theorem entriesOf_append (front back : List String) :
    entriesOf (front ++ back) = entriesOf front ++ entriesOf back := by
  rw [entriesOf, List.filter_append, List.filterMap_append]
  rfl

/-! ## Reading -/

theorem not_fault_of_isBlankLine (h : Text.isBlankLine line = true) : ¬Fault front line fault := by
  rintro (⟨hblank, -⟩ | ⟨hblank, -, -, -⟩) <;> simp [h] at hblank

theorem not_fault_of_before (hline : Entry.ofLine? line = some e)
    (h : ∀ last ∈ (entriesOf front).getLast?, last.position.before e.position = true) :
    ¬Fault front line fault := by
  rintro (⟨-, hline'⟩ | ⟨-, hline', hlast, hbefore⟩)
  · simp [hline] at hline'
  · cases hline.symm.trans hline'
    simp [h _ hlast] at hbefore

/-- A line after others is read unless it is at fault. -/
theorem readLines_last (front : List String) (line : String) (number : Nat) :
    (readLines number ((entriesOf front).getLast?.map Entry.position) [line] =
        .ok (entriesOf [line]) ∧ ∀ fault, ¬Fault front line fault) ∨
      ∃ fault, Fault front line fault ∧
        readLines number ((entriesOf front).getLast?.map Entry.position) [line] =
          .error (.line number fault) := by
  cases hblank : Text.isBlankLine line with
  | true =>
    exact .inl ⟨by simp [readLines, entriesOf, hblank], fun _ => not_fault_of_isBlankLine hblank⟩
  | false =>
    rw [readLines, hblank, if_neg Bool.false_ne_true]
    cases hline : Entry.ofLine? line with
    | none => exact .inr ⟨_, .unreadable hblank hline, rfl⟩
    | some e =>
      by_cases hbefore : ∀ last ∈ (entriesOf front).getLast?,
          last.position.before e.position = true
      · have horder : checkOrder number ((entriesOf front).getLast?.map Entry.position) e =
            .ok () := checkOrder_eq_ok (by simpa using hbefore) number
        have hentries : entriesOf [line] = [e] := by simp [entriesOf, hblank, hline]
        refine .inl ⟨?_, fun _ => not_fault_of_before hline hbefore⟩
        rw [hentries]
        simp only [horder]
        rfl
      · simp only [not_forall, Bool.not_eq_true] at hbefore
        obtain ⟨last, hlast, hbefore⟩ := hbefore
        have horder : checkOrder number (some last.position) e =
            .error (.line number (.outOfOrder e.position last.position)) :=
          if_neg (by simp [hbefore])
        refine .inr ⟨_, .outOfOrder hblank hline hlast hbefore, ?_⟩
        rw [hlast]
        simp only [Option.map_some, horder]
        rfl

/-- Lines are read if none of them is at fault.  Otherwise the first that is at fault is
reported. -/
theorem readLines_cases (lines : List String) :
    (readLines 1 none lines = .ok (entriesOf lines) ∧ ∀ n fault, ¬FaultAt lines n fault) ∨
      ∃ n fault, FaultAt lines n fault ∧ (∀ m < n, ∀ fault', ¬FaultAt lines m fault') ∧
        readLines 1 none lines = .error (.line (n + 1) fault) := by
  induction lines using List.reverseRecOn with
  | nil =>
    refine .inl ⟨by rw [readLines]; rfl, fun n fault h => ?_⟩
    exact absurd h.lt_length (Nat.not_lt_zero n)
  | append_singleton lines line ih =>
    obtain ⟨hread, hnone⟩ | ⟨n, fault, hfault, hfirst, hread⟩ := ih
    · rw [readLines_append_of_ok hread, Option.or_none]
      obtain ⟨hline, hnone'⟩ | ⟨fault, hfault, hline⟩ :=
        readLines_last lines line (1 + lines.length)
      · refine .inl ⟨by rw [hline, entriesOf_append]; rfl, fun n fault h => ?_⟩
        obtain h | ⟨-, h⟩ := faultAt_append_singleton.1 h
        · exact hnone n fault h
        · exact hnone' fault h
      · refine .inr ⟨lines.length, fault, faultAt_append_singleton.2 (.inr ⟨rfl, hfault⟩), ?_,
          by rw [hline, Nat.add_comm]; rfl⟩
        intro m hm fault' h
        obtain h | ⟨rfl, -⟩ := faultAt_append_singleton.1 h
        · exact hnone m fault' h
        · exact absurd hm (Nat.lt_irrefl _)
    · refine .inr ⟨n, fault, faultAt_append_singleton.2 (.inl hfault), ?_, ?_⟩
      · intro m hm fault' h
        obtain h | ⟨rfl, -⟩ := faultAt_append_singleton.1 h
        · exact hfirst m hm fault' h
        · exact absurd hfault.lt_length (Nat.lt_asymm hm)
      · rw [readLines_append, hread]
        rfl

/-- A text is a ledger if none of its lines is at fault. -/
theorem ofText_eq_ok_iff (text : String) : ofText text = .ok l ↔
    (∀ n fault, ¬FaultAt (Text.lines text) n fault) ∧
      l = ⟨text, entriesOf (Text.lines text)⟩ := by
  obtain ⟨hread, hnone⟩ | ⟨n, fault, hfault, -, hread⟩ := readLines_cases (Text.lines text)
  · simp [ofText, hread, hnone, Except.map, eq_comm]
  · simp only [ofText, hread, Except.map, reduceCtorEq, false_iff]
    exact fun h => h.1 n fault hfault

/-- The error of a text that is no ledger names the first line at fault. -/
theorem ofText_eq_error_iff (text : String) {cause : LedgerError} : ofText text = .error cause ↔
    ∃ n fault, FaultAt (Text.lines text) n fault ∧
      (∀ m < n, ∀ fault', ¬FaultAt (Text.lines text) m fault') ∧
        cause = .line (n + 1) fault := by
  obtain ⟨hread, hnone⟩ | ⟨n, fault, hfault, hfirst, hread⟩ := readLines_cases (Text.lines text)
  · simp [ofText, hread, hnone, Except.map]
  · simp only [ofText, hread, Except.map, Except.error.injEq]
    constructor
    · rintro rfl
      exact ⟨n, fault, hfault, hfirst, rfl⟩
    · rintro ⟨n', fault', hfault', hfirst', rfl⟩
      obtain hlt | rfl | hgt := Nat.lt_trichotomy n n'
      · exact absurd hfault (hfirst' n hlt fault)
      · obtain ⟨line, hline, hfault⟩ := hfault
        obtain ⟨line', hline', hfault'⟩ := hfault'
        rw [hline, Option.some.injEq] at hline'
        rw [hfault.unique (hline' ▸ hfault')]
      · exact absurd hfault' (hfirst n' hgt fault')

theorem ordered_of_readLines {number : Nat} (h : readLines number previous lines = .ok es) :
    Ordered previous es := by
  induction lines generalizing number previous es with
  | nil =>
    rw [readLines, Except.ok.injEq] at h
    exact h ▸ trivial
  | cons line lines ih =>
    rw [readLines] at h
    split at h
    · exact ih h
    · split at h
      next => cases h
      next e _ =>
        obtain ⟨_, hcheck, h⟩ := bind_eq_ok_iff.1 h
        obtain ⟨rest, hrest, h⟩ := bind_eq_ok_iff.1 h
        cases h
        refine ⟨fun p hp => ?_, ih hrest⟩
        cases hp
        rw [checkOrder] at hcheck
        split at hcheck
        next => assumption
        next => cases hcheck

theorem ordered_ofText {text : String} (h : ofText text = .ok l) : Ordered none l.entries := by
  obtain ⟨es, hes, rfl⟩ := map_eq_ok_iff.1 h
  exact ordered_of_readLines hes

/-! ## Extending -/

theorem check_cases (l : Ledger) (position : Position) : l.check position = .ok () ∨
    ∃ last ∈ l.last?, l.check position = .error (.notAfter position last) := by
  rw [check]
  cases l.last? with
  | none => exact .inl rfl
  | some last => by_cases hlast : last.before position = true <;> simp [hlast]

/-- A position comes after the last one of an ordered ledger if it comes after all of them. -/
theorem check_iff_forall (h : Ordered none l.entries) :
    l.check position = .ok () ↔ ∀ e ∈ l.entries, e.position.before position = true := by
  rw [check_eq_ok_iff, last?]
  obtain hnil | ⟨init, last, hentries⟩ := List.eq_nil_or_concat l.entries
  · simp [hnil]
  · have hpairwise := h.pairwise
    rw [hentries, List.concat_eq_append, List.pairwise_append] at hpairwise
    rw [hentries, List.concat_eq_append]
    simp only [List.getLast?_append, List.getLast?_singleton, Option.some_or, Option.map_some,
      Option.mem_some_iff, forall_eq', List.forall_mem_append, List.forall_mem_singleton]
    refine ⟨fun hlast => ⟨fun e he => ?_, hlast⟩, And.right⟩
    exact Position.before_trans (hpairwise.2.2 e he last (List.mem_singleton_self last)) hlast

theorem append_eq_error_iff {cause : LedgerError} :
    l.append e = .error cause ↔ l.check e.position = .error cause := by
  rw [append]
  cases l.check e.position <;> simp [bind, Except.bind, pure, Except.pure]

end Ledger

/-! ## Runs -/

/-- What is held of a ledger in a file: its entries, or a recorder that goes on with them. -/
inductive Held where
  | nothing
  | ledger (l : Ledger)
  | recorder (r : Recorder)
  deriving DecidableEq, Repr

/-- The ledger that is held. -/
def Held.ledger? : Held → Option Ledger
  | .nothing => none
  | .ledger l => some l
  | .recorder r => some r.ledger

/-- The text in a file, and what is held of it. -/
structure LedgerFile where
  text : String
  held : Held
  deriving DecidableEq, Repr

namespace LedgerFile

/-- What can be done with a ledger in a file. -/
inductive Step where
  /-- Others write to the file. -/
  | edit (text : String)
  /-- The file is read. -/
  | read
  /-- An entry is added to the ledger, if its line can be written. -/
  | append (e : Entry) (writable : Bool)
  /-- A recorder goes on with the ledger. -/
  | resume (base : Schema) (config : Config)
  /-- The recorder is called. -/
  | record (c : Recorder.Call)

/-- The file and what is held after a step.  A file that cannot be read is not held in place of what
is; a ledger that cannot be gone on with is given up. -/
def step (f : LedgerFile) : Step → LedgerFile
  | .edit text => { f with text }
  | .read =>
    match Ledger.ofText f.text with
    | .ok l => { f with held := .ledger l }
    | .error _ => f
  | .append e writable =>
    match f.held with
    | .ledger l =>
      match l.append e with
      | .ok l' => if writable then ⟨f.text ++ e.line, .ledger l'⟩ else f
      | .error _ => f
    | _ => f
  | .resume base config =>
    match f.held with
    | .ledger l =>
      match Recorder.resume base config l with
      | .ok r => { f with held := .recorder r }
      | .error _ => { f with held := .nothing }
    | _ => f
  | .record c =>
    match f.held with
    | .recorder r => ⟨f.text ++ ((r.call c).1.elim "" Entry.line), .recorder (r.call c).2⟩
    | _ => f

/-- The file and what is held after several steps. -/
def run (f : LedgerFile) (steps : List Step) : LedgerFile :=
  steps.foldl step f

variable {f : LedgerFile} {l : Ledger} {r : Recorder}

/-- What is held is in order. -/
def Ordered (f : LedgerFile) : Prop :=
  ∀ l ∈ f.held.ledger?, Ledger.Ordered none l.entries

theorem Ordered.step (h : f.Ordered) (s : Step) : (f.step s).Ordered := by
  cases s with
  | edit text => exact h
  | read =>
    rw [LedgerFile.step]
    cases htext : Ledger.ofText f.text with
    | error cause => exact h
    | ok l =>
      rintro _ ⟨⟩
      exact Ledger.ordered_ofText htext
  | append e writable =>
    rw [LedgerFile.step]
    cases hheld : f.held with
    | nothing => exact h
    | recorder r => exact h
    | ledger l =>
      have hl : Ledger.Ordered none l.entries := h l (by rw [hheld]; rfl)
      dsimp only
      split
      next l' happend =>
        split
        · obtain ⟨hcheck, rfl⟩ := Ledger.append_eq_ok_iff.1 happend
          rintro _ ⟨⟩
          exact Ledger.ordered_concat hl hcheck
        · exact h
      next => exact h
  | resume base config =>
    rw [LedgerFile.step]
    cases hheld : f.held with
    | nothing => exact h
    | recorder r => exact h
    | ledger l =>
      dsimp only
      split
      next r hresume =>
        obtain ⟨s, -, rfl⟩ := map_eq_ok_iff.1 hresume
        rintro _ ⟨⟩
        exact h l (by rw [hheld]; rfl)
      next =>
        rintro _ ⟨⟩
  | record c =>
    rw [LedgerFile.step]
    cases hheld : f.held with
    | nothing => exact h
    | ledger l => exact h
    | recorder r =>
      have hr : Ledger.Ordered none r.ledger.entries := h r.ledger (by rw [hheld]; rfl)
      rintro _ ⟨⟩
      obtain heq | ⟨p, hcheck, -, heq⟩ := r.call_cases c
      · rw [heq]
        exact hr
      · rw [heq]
        exact Ledger.ordered_concat hr hcheck

theorem Ordered.run (h : f.Ordered) (steps : List Step) : (f.run steps).Ordered := by
  induction steps generalizing f with
  | nil => exact h
  | cons s steps ih => exact ih (h.step s)

end LedgerFile

/-! ## Refusals -/

namespace Ledger

variable {l : Ledger} {e : Entry}

/-- An entry is added to an ordered ledger if it comes after all others, and refused otherwise. -/
theorem append_of_ordered (h : Ordered none l.entries) (e : Entry) :
    ((∃ l', l.append e = .ok l') ↔ ∀ e' ∈ l.entries, e'.position.before e.position = true) ∧
    ((∃ last ∈ l.last?, l.append e = .error (.notAfter e.position last)) ↔
      ¬∀ e' ∈ l.entries, e'.position.before e.position = true) := by
  rw [← check_iff_forall h]
  obtain hcheck | ⟨last, hlast, hcheck⟩ := l.check_cases e.position
  · simp [append_eq_ok_iff, append_eq_error_iff, hcheck]
  · refine ⟨by simp [append_eq_ok_iff, hcheck], ?_⟩
    simp only [append_eq_error_iff, hcheck, reduceCtorEq, not_false_iff, iff_true]
    exact ⟨last, hlast, rfl⟩

end Ledger

namespace Recorder

variable {r : Recorder}

theorem record_eq_notAfter_iff {now : Timestamp} {s : LoggedStatement} {p q : Position} :
    r.record now s = .error (.notAfter p q) ↔
      r.ledger.check s.position = .error (.notAfter p q) := by
  rw [record_eq]
  cases r.ledger.check s.position with
  | error cause => simp
  | ok u =>
    cases r.tracker.prepare s.database s.statement with
    | error cause => simp
    | ok prepared =>
      dsimp only
      split <;> simp

/-- A statement is refused for its position if that does not come after all that are recorded. -/
theorem record_of_ordered (h : Ledger.Ordered none r.ledger.entries) (now : Timestamp)
    (s : LoggedStatement) :
    ((∃ last ∈ r.ledger.last?, r.record now s = .error (.notAfter s.position last)) ↔
      ¬∀ e ∈ r.ledger.entries, e.position.before s.position = true) ∧
    ((∃ p q, r.record now s = .error (.notAfter p q)) ↔
      ¬∀ e ∈ r.ledger.entries, e.position.before s.position = true) := by
  rw [← Ledger.check_iff_forall h]
  simp only [record_eq_notAfter_iff]
  obtain hcheck | ⟨last, hlast, hcheck⟩ := r.ledger.check_cases s.position
  · simp [hcheck]
  · simp only [hcheck, reduceCtorEq, not_false_iff, iff_true]
    exact ⟨⟨last, hlast, rfl⟩, _, _, rfl⟩

end Recorder

namespace LedgerFile

variable {f : LedgerFile} {l : Ledger} {r : Recorder} {cause : LedgerError}

theorem step_append_of_error {e : Entry} (hheld : f.held = .ledger l)
    (h : l.append e = .error cause) (writable : Bool) : f.step (.append e writable) = f := by
  rw [step, hheld]
  dsimp only
  rw [h]

theorem step_record_of_error {c : Recorder.Call} (hheld : f.held = .recorder r)
    (h : r.record c.now c.statement = .error cause) : f.step (.record c) = f := by
  have hcall : r.call c = (none, r) := by rw [Recorder.call, h]
  rw [step, hheld]
  dsimp only
  rw [hcall, ← hheld]
  simp

/-- The entries that are held of a ledger in a file are in the order of their positions, whatever
has been done.  An entry is added if it comes after all of them, and a statement is refused for its
position if it does not; what is refused changes neither the file nor what is held.  A text is read,
with the entries of all its lines, if none of these is at fault, and the error of one that is not
read names the first line at fault. -/
theorem run_ordered (text : String) (steps : List Step) :
    let f := (LedgerFile.mk text .nothing).run steps
    (∀ l ∈ f.held.ledger?, l.entries.Pairwise fun e e' => e.position.before e'.position = true) ∧
    (∀ l, f.held = .ledger l → ∀ e : Entry,
      ((∃ l', l.append e = .ok l') ↔ ∀ e' ∈ l.entries, e'.position.before e.position = true) ∧
      ((∃ last ∈ l.last?, l.append e = .error (.notAfter e.position last)) ↔
        ¬∀ e' ∈ l.entries, e'.position.before e.position = true) ∧
      ∀ cause, l.append e = .error cause → ∀ writable, f.step (.append e writable) = f) ∧
    (∀ r, f.held = .recorder r → ∀ c : Recorder.Call,
      ((∃ last ∈ r.ledger.last?,
          r.record c.now c.statement = .error (.notAfter c.statement.position last)) ↔
        ¬∀ e ∈ r.ledger.entries, e.position.before c.statement.position = true) ∧
      ((∃ p q, r.record c.now c.statement = .error (.notAfter p q)) ↔
        ¬∀ e ∈ r.ledger.entries, e.position.before c.statement.position = true) ∧
      ∀ cause, r.record c.now c.statement = .error cause → f.step (.record c) = f) ∧
    ∀ text : String,
      (∀ l, Ledger.ofText text = .ok l ↔
        (∀ n fault, ¬Ledger.FaultAt (Text.lines text) n fault) ∧
          l = ⟨text, Ledger.entriesOf (Text.lines text)⟩) ∧
      ∀ cause, Ledger.ofText text = .error cause ↔
        ∃ n fault, Ledger.FaultAt (Text.lines text) n fault ∧
          (∀ m < n, ∀ fault', ¬Ledger.FaultAt (Text.lines text) m fault') ∧
            cause = .line (n + 1) fault := by
  intro f
  have hempty : (LedgerFile.mk text .nothing).Ordered := by rintro _ ⟨⟩
  have hordered : f.Ordered := hempty.run steps
  refine ⟨fun l hl => (hordered l hl).pairwise, fun l hheld e => ?_, fun r hheld c => ?_,
    fun text => ⟨fun l => Ledger.ofText_eq_ok_iff text,
      fun cause => Ledger.ofText_eq_error_iff text⟩⟩
  · have hl : Ledger.Ordered none l.entries := hordered l (by rw [hheld]; rfl)
    obtain ⟨hok, herror⟩ := Ledger.append_of_ordered hl e
    exact ⟨hok, herror, fun cause h => step_append_of_error hheld h⟩
  · have hr : Ledger.Ordered none r.ledger.entries := hordered r.ledger (by rw [hheld]; rfl)
    obtain ⟨hlast, hany⟩ := Recorder.record_of_ordered hr c.now c.statement
    exact ⟨hlast, hany, fun cause h => step_record_of_error hheld h⟩

/-- An entry is added to an empty file, which others have written to in the meantime, and the same
entry is refused the second time. -/
theorem run_ordered_repeated :
    let e : Entry := ⟨⟨"b.1", 1⟩, "a", none, [], .epoch⟩
    let f := (LedgerFile.mk "" .nothing).run [.read, .edit "\n", .append e true]
    f = ⟨"\n" ++ e.line, .ledger ⟨e.line, [e]⟩⟩ ∧ f.step (.append e true) = f := by
  intro e f
  have hf : f = ⟨"\n" ++ e.line, .ledger ⟨e.line, [e]⟩⟩ := by decide +kernel
  obtain ⟨-, happend, -⟩ := run_ordered "" [.read, .edit "\n", .append e true]
  obtain ⟨-, hrefused, hstep⟩ := happend ⟨e.line, [e]⟩ (congrArg held hf) e
  obtain ⟨last, -, herror⟩ := hrefused.2 (by decide +kernel)
  exact ⟨hf, hstep _ herror true⟩

end LedgerFile

end SchemaTrail
