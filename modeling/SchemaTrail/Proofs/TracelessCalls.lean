import SchemaTrail.Proofs.PointInTime

/-!
# Calls without a trace

A call of a recorder leaves no trace if its position is refused, if its statement fails, be it at
the last of several changes, or if the statement changes nothing (`CallResult.isTraceless`).  When
all calls without a trace are deleted, the others have the same results, and the recorder comes to
the same schema and to the same entries (`Recorder.after_lasting`).
-/

namespace SchemaTrail

open Outcome

namespace Recorder

/-! ## Results of calls -/

/-- How a call of a recorder ends.  Of an entry the time is left out. -/
inductive CallResult where
  /-- The position does not come after the last one, or the statement fails. -/
  | refused (error : LedgerError)
  /-- The statement changes nothing. -/
  | unchanged
  /-- The line of the entry cannot be written. -/
  | unwritten (content : LoggedStatement × List Change)
  | recorded (content : LoggedStatement × List Change)
  deriving DecidableEq

/-- Whether a call ends with a position that is refused, with a statement that fails or with one
that changes nothing. -/
def CallResult.isTraceless : CallResult → Bool
  | .refused (.notAfter _ _) | .refused (.statement _) | .unchanged => true
  | _ => false

/-- How a call ends. -/
def result (r : Recorder) (c : Call) : CallResult :=
  match r.record c.now c.statement with
  | .error e => .refused e
  | .ok (none, _) => .unchanged
  | .ok (some e, _) => if c.writable then .recorded e.content else .unwritten e.content

/-- How several calls end, one after the other. -/
def results (r : Recorder) : List Call → List CallResult
  | [] => []
  | c :: calls => r.result c :: (r.call c).2.results calls

/-- The calls that are left when those without a trace are deleted. -/
def lasting (r : Recorder) : List Call → List Call
  | [] => []
  | c :: calls =>
    if (r.result c).isTraceless then (r.call c).2.lasting calls
    else c :: (r.call c).2.lasting calls

/-- What a call is about, the time aside. -/
def Call.request (c : Call) : LoggedStatement × Bool :=
  (c.statement, c.writable)

variable {r r' : Recorder} {c c' : Call} {calls calls' : List Call}

/-- How a call ends depends on its position first, then on the statement, and last on whether its
line can be written. -/
theorem result_eq (r : Recorder) (c : Call) : r.result c =
    match r.ledger.check c.statement.position,
      r.tracker.prepare c.statement.database c.statement.statement with
    | .error e, _ => .refused e
    | .ok (), .error e => .refused (.statement e)
    | .ok (), .ok p =>
      if p.changes.isEmpty then .unchanged
      else if c.writable then .recorded (c.statement, p.changes)
      else .unwritten (c.statement, p.changes) := by
  rw [result, record_eq]
  cases r.ledger.check c.statement.position with
  | error e => rfl
  | ok u =>
    cases r.tracker.prepare c.statement.database c.statement.statement with
    | error e => rfl
    | ok p =>
      by_cases hchanges : p.changes.isEmpty = true
      · simp only [if_pos hchanges]
      · simp only [if_neg hchanges]
        rfl

/-- A call whose line can be written takes the recorder on, and no other does. -/
theorem call_eq_follow (r : Recorder) (c : Call) :
    (r.call c).2 = if c.writable then r.follow (c.now, c.statement) else r := by
  rw [call, follow]
  cases h : r.record c.now c.statement with
  | error e => cases c.writable <;> rfl
  | ok recorded =>
    obtain ⟨entry, r'⟩ := recorded
    obtain ⟨rfl, rfl⟩ | ⟨p, -, -, rfl, rfl⟩ := record_eq_ok h
    · cases c.writable <;> rfl
    · cases c.writable <;> rfl

/-- A call without a trace leaves the recorder as it is. -/
theorem call_of_isTraceless (h : (r.result c).isTraceless = true) : (r.call c).2 = r := by
  rw [result] at h
  rw [call]
  cases hrecord : r.record c.now c.statement with
  | error e => rfl
  | ok recorded =>
    obtain ⟨entry, r'⟩ := recorded
    obtain ⟨rfl, rfl⟩ | ⟨p, -, -, rfl, -⟩ := record_eq_ok hrecord
    · rfl
    · rw [hrecord] at h
      cases hwritable : c.writable with
      | true => simp [hwritable, CallResult.isTraceless] at h
      | false => rfl

/-! ## Alike recorders -/

theorem Alike.result (h : Alike r' r) (hc : c'.request = c.request) :
    r'.result c' = r.result c := by
  obtain ⟨hstatement, hwritable⟩ := Prod.mk.injEq .. ▸ hc
  rw [result_eq, result_eq, hstatement, hwritable, Ledger.check_congr h.last?, h.tracker]

theorem Alike.call (h : Alike r' r) (hc : c'.request = c.request) :
    Alike (r'.call c').2 (r.call c).2 ∧ ∃ es' es,
      (r'.call c').2.ledger = r'.ledger.extended es' ∧
      (r.call c).2.ledger = r.ledger.extended es ∧
      es'.map Entry.content = es.map Entry.content := by
  obtain ⟨hstatement, hwritable⟩ := Prod.mk.injEq .. ▸ hc
  rw [call_eq_follow, call_eq_follow, hstatement, hwritable]
  split
  · exact h.follow c'.now c.now c.statement
  · exact ⟨h, [], [], r'.ledger.extended_nil.symm, r.ledger.extended_nil.symm, rfl⟩

/-- The lasting calls alone end as they do among the others, and add the same to the ledger. -/
theorem Alike.lasting (h : Alike r' r)
    (hcalls : calls'.map Call.request = (r.lasting calls).map Call.request) :
    r'.results calls' = (r.results calls).filter (fun x => !x.isTraceless) ∧
      Alike (r'.after calls') (r.after calls) ∧ ∃ es' es,
        (r'.after calls').ledger = r'.ledger.extended es' ∧
        (r.after calls).ledger = r.ledger.extended es ∧
        es'.map Entry.content = es.map Entry.content := by
  induction calls generalizing calls' r' r with
  | nil =>
    cases List.map_eq_nil_iff.1 hcalls
    exact ⟨rfl, h, [], [], r'.ledger.extended_nil.symm, r.ledger.extended_nil.symm, rfl⟩
  | cons c calls ih =>
    rw [Recorder.lasting] at hcalls
    rw [results, after]
    by_cases htrace : (r.result c).isTraceless = true
    · rw [if_pos htrace] at hcalls
      rw [List.filter_cons_of_neg (by simp [htrace])]
      rw [call_of_isTraceless htrace] at hcalls ⊢
      exact ih h hcalls
    · rw [if_neg htrace, List.map_cons] at hcalls
      obtain ⟨c', rest', rfl, hc, hrest⟩ := List.map_eq_cons_iff.1 hcalls
      -- What is added by the rest of the calls comes after what this call adds.
      obtain ⟨hcall, es', es, hes', hes, hcontent⟩ := h.call hc
      obtain ⟨hresults, hafter, more', more, hmore', hmore, hcontent'⟩ := ih hcall hrest
      rw [List.filter_cons_of_pos (by simp [htrace]), results, after, h.result hc, hresults]
      refine ⟨rfl, hafter, es' ++ more', es ++ more, ?_, ?_, ?_⟩
      · rw [hmore', hes', Ledger.extended_append]
      · rw [hmore, hes, Ledger.extended_append]
      · rw [List.map_append, List.map_append, hcontent, hcontent']

/-! ## Deleting calls -/

/-- A statement whose requests are taken into account up to one that fails: the error tells of the
schema that the requests before it lead to, but nothing of it is kept. -/
theorem traceless_of_addRequest {front back : List Request} {q : Request} {p : Prepared}
    {cause : InvariantError} (hread : Statement.requests c.statement.database
      c.statement.statement = .ok (front ++ q :: back))
    (hfront : front.foldlM r.tracker.addRequest ⟨[], r.tracker.schema⟩ = .ok p)
    (hq : r.tracker.addRequest p q = .error cause) :
    r.tracker.process c.statement.database c.statement.statement =
      .error (Tracker.failure c.statement.database c.statement.statement p.schema
        (some q.target) (.invariant cause)) ∧
    (r.result c).isTraceless = true := by
  have hprepare := Tracker.prepare_eq_error_iff.2
    (.inr ⟨front, q, back, p, cause, hread, hfront, hq, rfl⟩)
  refine ⟨by rw [Tracker.process, hprepare]; rfl, ?_⟩
  rw [result_eq, hprepare]
  cases hcheck : r.ledger.check c.statement.position with
  | ok u => rfl
  | error e =>
    obtain ⟨p, q, rfl⟩ := Ledger.check_eq_error hcheck
    rfl

/-- When all calls without a trace are deleted from a sequence, the others end as before, be it at
other times, and the recorder comes to the same tracker and the same entries.  A statement that
fails at any of its requests is such a call, and the tracker and the recorder stay as they are,
whatever schema the requests before have led to. -/
theorem after_lasting (r : Recorder) (calls calls' : List Call)
    (h : calls'.map Call.request = (r.lasting calls).map Call.request) :
    r.results calls' = (r.results calls).filter (fun x => !x.isTraceless) ∧
    (r.after calls').tracker = (r.after calls).tracker ∧
    (r.after calls').ledger.entries.map Entry.content =
      (r.after calls).ledger.entries.map Entry.content ∧
    ∀ (c : Call) (front back : List Request) (q : Request) (p : Prepared) (cause : InvariantError),
      Statement.requests c.statement.database c.statement.statement = .ok (front ++ q :: back) →
      front.foldlM r.tracker.addRequest ⟨[], r.tracker.schema⟩ = .ok p →
      r.tracker.addRequest p q = .error cause →
      r.tracker.process c.statement.database c.statement.statement =
        .error (Tracker.failure c.statement.database c.statement.statement p.schema
          (some q.target) (.invariant cause)) ∧
      r.tracker.follow (c.statement.database, c.statement.statement) = r.tracker ∧
      (r.result c).isTraceless = true ∧ (r.call c).2 = r := by
  obtain ⟨hresults, hafter, es', es, hes', hes, hcontent⟩ := Alike.lasting ⟨rfl, rfl⟩ h
  refine ⟨hresults, hafter.tracker, ?_, fun c front back q p cause hread hfront hq => ?_⟩
  · rw [hes', hes, Ledger.extended, Ledger.extended, List.map_append, List.map_append, hcontent]
  · obtain ⟨hprocess, htrace⟩ := traceless_of_addRequest hread hfront hq
    refine ⟨hprocess, ?_, htrace, call_of_isTraceless htrace⟩
    rw [Tracker.follow, hprocess]

/-- Three tables are dropped, of which the last is not there, among other calls without a trace. -/
theorem after_lasting_dropped :
    let call := fun offset statement =>
      (⟨.epoch, ⟨⟨"mysql-bin.000002", offset⟩, some "shop", statement⟩, true⟩ : Call)
    let table := fun name => (⟨"shop", name, "utf8mb4", [], .ofList []⟩ : Table)
    let s : Schema := ⟨"utf8mb4", .sensitive, [⟨"shop", "utf8mb4", [table "a", table "b"]⟩]⟩
    let r : Recorder := ⟨.start .standard .empty s, .empty⟩
    let create := call 10 "CREATE DATABASE log"
    let dropAll := call 20 "DROP TABLE a, b, c"
    let dropBoth := call 20 "DROP TABLE a, b"
    let calls := [create, call 10 "CREATE TABLE c (n int)", dropAll, call 20 "BEGIN", dropBoth]
    r.results [create, dropBoth] = (r.results calls).filter (fun x => !x.isTraceless) ∧
    (r.after [create, dropBoth]).tracker = (r.after calls).tracker ∧
    (r.call dropAll).2 = r := by
  intro call table s r create dropAll dropBoth calls
  have hlasting : [create, dropBoth].map Call.request = (r.lasting calls).map Call.request := by
    decide +kernel
  obtain ⟨hresults, htracker, -, hdrop⟩ := after_lasting r calls [create, dropBoth] hlasting
  have hfront : [Request.dropTable ⟨"shop", "a"⟩ false, .dropTable ⟨"shop", "b"⟩ false].foldlM
      r.tracker.addRequest ⟨[], r.tracker.schema⟩ = .ok ⟨[.dropTable "shop" "a",
        .dropTable "shop" "b"], ⟨"utf8mb4", .sensitive, [⟨"shop", "utf8mb4", []⟩]⟩⟩ :=
    toOption_eq_some_iff.1 (by decide +kernel)
  refine ⟨hresults, htracker, ?_⟩
  exact (hdrop dropAll _ [] (.dropTable ⟨"shop", "c"⟩ false) _ (.tableNotFound "shop" "c")
    (toOption_eq_some_iff.1 (by decide +kernel)) hfront rfl).2.2.2

end Recorder

end SchemaTrail
