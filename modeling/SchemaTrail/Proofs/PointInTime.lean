import SchemaTrail.Proofs.PositionOrder
import SchemaTrail.Proofs.RecorderRuns

/-!
# Schemas at a position

A ledger gives the schema at any position of the log.  Replaying it up to a position gives the
schema that the recorder held right after the last entry up to there, and the entries after the
position lead from it to the schema that the recorder holds (`Recorder.replay_recordings`).  Calls
of the recorder that fail, in whatever way, or that change nothing leave no trace.
-/

namespace SchemaTrail

open Outcome

/-! ## Ordered ledgers -/

namespace Ledger

variable {previous : Option Position} {es : List Entry}

theorem Ordered.before_mem (h : Ordered previous es) :
    ∀ p ∈ previous, ∀ e ∈ es, p.before e.position = true := by
  induction es generalizing previous with
  | nil => simp
  | cons e es ih =>
    intro p hp
    have hnext := h.1 p hp
    refine List.forall_mem_cons.2 ⟨hnext, fun e' he' => ?_⟩
    exact Position.before_trans hnext (ih h.2 e.position rfl e' he')

theorem Ordered.pairwise (h : Ordered previous es) :
    es.Pairwise fun e e' => e.position.before e'.position = true := by
  induction es generalizing previous with
  | nil => exact .nil
  | cons e es ih => exact .cons (h.2.before_mem e.position rfl) (ih h.2)

end Ledger

/-- Where a condition that holds of an item holds of all items before it, the first items that
satisfy it are all of them. -/
theorem takeWhile_eq_filter {α : Type} {q : α → Bool} {as : List α}
    (h : as.Pairwise fun a b => q b = true → q a = true) : as.takeWhile q = as.filter q := by
  induction as with
  | nil => rfl
  | cons a as ih =>
    obtain ⟨hrest, has⟩ := List.pairwise_cons.1 h
    by_cases ha : q a = true
    · rw [List.takeWhile_cons_of_pos ha, List.filter_cons_of_pos ha, ih has]
    · have hnone : ∀ b ∈ as, ¬q b = true := fun b hb hq => ha (hrest b hb hq)
      rw [List.takeWhile_cons_of_neg ha, List.filter_cons_of_neg ha, List.filter_eq_nil_iff.2 hnone]

/-- Under the same condition, the items that satisfy it and those that do not are the whole list. -/
theorem filter_append_filter_not {α : Type} {q : α → Bool} {as : List α}
    (h : as.Pairwise fun a b => q b = true → q a = true) :
    as.filter q ++ as.filter (fun a => !q a) = as := by
  induction as with
  | nil => rfl
  | cons a as ih =>
    obtain ⟨hrest, has⟩ := List.pairwise_cons.1 h
    by_cases ha : q a = true
    · rw [List.filter_cons_of_pos ha, List.filter_cons_of_neg (by simp [ha]), List.cons_append,
        ih has]
    · have hnone : ∀ b ∈ a :: as, ¬q b = true :=
        List.forall_mem_cons.2 ⟨ha, fun b hb hq => ha (hrest b hb hq)⟩
      rw [List.filter_eq_nil_iff.2 hnone, List.filter_eq_self.2 (by simpa using hnone)]
      rfl

/-! ## Entries that lead from schema to schema -/

/-- The changes of each entry lead to the schema beside it, from the one before. -/
def Schema.LeadsThrough : Schema → List (Entry × Schema) → Prop
  | _, [] => True
  | s, (e, s') :: held => s.applyAll e.changes = .ok s' ∧ s'.LeadsThrough held

/-- The last of the schemas, or the one at the start. -/
def Schema.orLast (s : Schema) (held : List (Entry × Schema)) : Schema :=
  (held.getLast?.map Prod.snd).getD s

namespace Schema

variable {s : Schema} {front back held : List (Entry × Schema)}

theorem orLast_append : s.orLast (front ++ back) = (s.orLast front).orLast back := by
  rw [orLast, orLast, orLast, List.getLast?_append]
  cases back.getLast? <;> rfl

theorem orLast_cons {e : Entry} {s' : Schema} : s.orLast ((e, s') :: held) = s'.orLast held := by
  rw [← List.singleton_append, orLast_append]
  rfl

theorem leadsThrough_append : s.LeadsThrough (front ++ back) ↔
    s.LeadsThrough front ∧ (s.orLast front).LeadsThrough back := by
  induction front generalizing s with
  | nil => simp [LeadsThrough, orLast]
  | cons k front ih =>
    obtain ⟨e, s'⟩ := k
    rw [List.cons_append, LeadsThrough, LeadsThrough, ih, orLast_cons, and_assoc]

theorem LeadsThrough.applyAll (h : s.LeadsThrough held) :
    s.applyAll ((held.map Prod.fst).flatMap Entry.changes) = .ok (s.orLast held) := by
  induction held generalizing s with
  | nil => rfl
  | cons k held ih =>
    obtain ⟨e, s'⟩ := k
    rw [List.map_cons, List.flatMap_cons, orLast_cons, Schema.applyAll, List.foldlM_append]
    exact bind_eq_ok_iff.2 ⟨s', h.1, ih h.2⟩

end Schema

/-! ## Calls of a recorder -/

namespace Recorder

/-- A call of a recorder at a time. -/
structure Call where
  now : Timestamp
  statement : LoggedStatement
  /-- Whether the line of an entry can be written to the ledger. -/
  writable : Bool
  deriving DecidableEq, Repr

/-- What a call records, and the recorder after it.  A call that fails, be it in writing, leaves the
recorder as it is. -/
def call (r : Recorder) (c : Call) : Option Entry × Recorder :=
  match r.record c.now c.statement with
  | .ok (none, r') => (none, r')
  | .ok (some e, r') => if c.writable then (some e, r') else (none, r)
  | .error _ => (none, r)

/-- The recorder after several calls. -/
def after (r : Recorder) : List Call → Recorder
  | [] => r
  | c :: calls => (r.call c).2.after calls

/-- The entries that calls record, each with the schema that the recorder holds right after it. -/
def recordings (r : Recorder) : List Call → List (Entry × Schema)
  | [] => []
  | c :: calls =>
    let (entry, next) := r.call c
    (entry.map fun e => (e, next.tracker.schema)).toList ++ next.recordings calls

variable {r r' : Recorder} {calls : List Call}

/-- A statement that succeeds has no changes and leaves the recorder as it is, or is recorded with
its changes. -/
theorem record_eq_ok {now : Timestamp} {s : LoggedStatement} {entry : Option Entry}
    (h : r.record now s = .ok (entry, r')) : entry = none ∧ r' = r ∨
      ∃ p, r.ledger.check s.position = .ok () ∧ r.tracker.prepare s.database s.statement = .ok p ∧
        entry = some (s.entry now p.changes) ∧
          r' = r.recorded (s.entry now p.changes) p.schema := by
  rw [record_eq] at h
  split at h
  next => cases h
  next => cases h
  next p hcheck hprepare =>
    split at h
    · cases h
      exact .inl ⟨rfl, rfl⟩
    · cases h
      exact .inr ⟨p, hcheck, hprepare, rfl, rfl⟩

theorem call_cases (r : Recorder) (c : Call) : r.call c = (none, r) ∨
    ∃ p, r.ledger.check c.statement.position = .ok () ∧
      r.tracker.prepare c.statement.database c.statement.statement = .ok p ∧
      r.call c = (some (c.statement.entry c.now p.changes),
        r.recorded (c.statement.entry c.now p.changes) p.schema) := by
  rw [call]
  cases h : r.record c.now c.statement with
  | error e => exact .inl rfl
  | ok result =>
    obtain ⟨entry, r'⟩ := result
    obtain ⟨rfl, rfl⟩ | ⟨p, hcheck, hprepare, rfl, rfl⟩ := record_eq_ok h
    · exact .inl rfl
    · cases hwritable : c.writable with
      | true => exact .inr ⟨p, hcheck, hprepare, rfl⟩
      | false => exact .inl rfl

/-- What is recorded is what the ledger is extended by. -/
theorem after_entries (r : Recorder) (calls : List Call) :
    (r.after calls).ledger.entries = r.ledger.entries ++ (r.recordings calls).map Prod.fst := by
  induction calls generalizing r with
  | nil => simp [after, recordings]
  | cons c calls ih =>
    obtain heq | ⟨p, -, -, heq⟩ := r.call_cases c
    · rw [after, recordings, heq]
      exact ih r
    · rw [after, recordings, heq, ih]
      simp [recorded, Ledger.extended]

/-- Each entry leads from the schema that was held before it to the one that is held after it, and
the last of these is held at the end. -/
theorem leadsThrough_recordings (r : Recorder) (calls : List Call) :
    r.tracker.schema.LeadsThrough (r.recordings calls) ∧
      r.tracker.schema.orLast (r.recordings calls) = (r.after calls).tracker.schema := by
  induction calls generalizing r with
  | nil => exact ⟨trivial, rfl⟩
  | cons c calls ih =>
    obtain heq | ⟨p, -, hprepare, heq⟩ := r.call_cases c
    · rw [after, recordings, heq]
      exact ih r
    · rw [after, recordings, heq]
      obtain ⟨hleads, hlast⟩ := ih (r.recorded (c.statement.entry c.now p.changes) p.schema)
      refine ⟨⟨Tracker.applyAll_of_prepare hprepare, hleads⟩, ?_⟩
      rw [← hlast]
      exact Schema.orLast_cons

theorem kept_after (h : r.ledger.Kept) (calls : List Call) : (r.after calls).ledger.Kept := by
  induction calls generalizing r with
  | nil => exact h
  | cons c calls ih =>
    rw [after]
    obtain heq | ⟨p, hcheck, -, heq⟩ := r.call_cases c
    · rw [heq]
      exact ih h
    · have happend : r.ledger.append (c.statement.entry c.now p.changes) =
          .ok (r.ledger.extended [c.statement.entry c.now p.changes]) :=
        Ledger.append_eq_ok_iff.2 ⟨hcheck, by simp [Ledger.extended]⟩
      rw [heq]
      exact ih (h.append happend)

/-! ## Replaying up to a position -/

/-- In an ordered ledger, an entry before one up to a position is up to the position, too. -/
theorem recordings_pairwise (r : Recorder) (h : r.ledger = .empty) (calls : List Call)
    (p : Position) : (r.recordings calls).Pairwise fun k k' =>
      (!p.before k'.1.position) = true → (!p.before k.1.position) = true := by
  have hordered := (kept_after (h ▸ Ledger.kept_empty) calls).ordered.pairwise
  rw [after_entries, h, Ledger.empty, List.nil_append, List.pairwise_map] at hordered
  refine hordered.imp fun hkk' hk' => ?_
  rw [Bool.not_eq_true', Bool.eq_false_iff] at hk' ⊢
  exact fun hk => hk' (Position.before_trans hk hkk')

/-- Where the schema at the start has the mode that is configured, replaying a ledger up to a
position gives the schema that was held right after the last entry up to there, or that at the
start.  The entries after the position lead from there to the schema that is held at the end, and
so do all entries from the start. -/
theorem replay_recordings (base : Schema) (config : Config)
    (hmode : base.caseMode = config.caseMode) (calls : List Call) :
    ∃ start, resume base config .empty = .ok start ∧
      let r := start.after calls
      let held := start.recordings calls
      r.ledger.entries = held.map Prod.fst ∧
      r.ledger.replay base none = .ok r.tracker.schema ∧
      ∀ p : Position, ∃ s, r.ledger.replay base (some p) = .ok s ∧
        s = ((held.filter fun k => !p.before k.1.position).getLast?.map Prod.snd).getD base ∧
        s.applyAll ((r.ledger.entries.filter fun e => p.before e.position).flatMap Entry.changes) =
          .ok r.tracker.schema := by
  refine ⟨started base config, rfl, ?_⟩
  intro r held
  have hbase : (started base config).tracker.schema = base := by
    simp [started, Tracker.start, ← hmode]
  have hentries : r.ledger.entries = held.map Prod.fst := after_entries _ _
  obtain ⟨hleads, hlast⟩ : base.LeadsThrough held ∧ base.orLast held = r.tracker.schema := by
    have h := leadsThrough_recordings (started base config) calls
    rwa [hbase] at h
  refine ⟨hentries, ?_, fun p => ?_⟩
  · rw [Ledger.replay, Ledger.entriesUntil, hentries, hleads.applyAll, hlast]
  -- The replay stops at the first entry after the position, and so do those up to there.
  have hpairwise := recordings_pairwise (started base config) rfl calls p
  have huntil : r.ledger.entriesUntil (some p) =
      (held.filter fun k => !p.before k.1.position).map Prod.fst := by
    rw [Ledger.entriesUntil, hentries, List.takeWhile_map]
    exact congrArg _ (takeWhile_eq_filter hpairwise)
  have hafter : (r.ledger.entries.filter fun e => p.before e.position) =
      (held.filter fun k => p.before k.1.position).map Prod.fst := by
    rw [hentries, List.filter_map]
    rfl
  have hsplit : held.filter (fun k => !p.before k.1.position) ++
      held.filter (fun k => p.before k.1.position) = held := by
    simpa using filter_append_filter_not hpairwise
  rw [← hsplit, Schema.leadsThrough_append] at hleads
  rw [← hsplit, Schema.orLast_append] at hlast
  refine ⟨_, ?_, rfl, ?_⟩
  · rw [Ledger.replay, huntil]
    exact hleads.1.applyAll
  · rw [hafter, ← hlast]
    exact hleads.2.applyAll

/-- The schema between two entries. -/
theorem replay_recordings_between :
    let call := fun offset statement =>
      (⟨.epoch, ⟨⟨"mysql-bin.000002", offset⟩, none, statement⟩, true⟩ : Call)
    let calls := [call 10 "CREATE DATABASE Shop", call 30 "DROP DATABASE SHOP"]
    let base : Schema := ⟨"utf8mb4", .insensitive, []⟩
    let r := (started base ⟨.insensitive, .never, "utf8mb4"⟩).after calls
    r.ledger.replay base (some ⟨"mysql-bin.000002", 20⟩) =
      .ok { base with databases := [⟨"Shop", "utf8mb4", []⟩] } := by
  intro call calls base r
  obtain ⟨start, hstart, -, -, hreplay⟩ :=
    replay_recordings base ⟨.insensitive, .never, "utf8mb4"⟩ rfl calls
  obtain ⟨s, hs, hheld, -⟩ := hreplay ⟨"mysql-bin.000002", 20⟩
  cases hstart
  have hs' : s = { base with databases := [⟨"Shop", "utf8mb4", []⟩] } := by
    rw [hheld]
    decide +kernel
  rwa [hs'] at hs

end Recorder

end SchemaTrail
