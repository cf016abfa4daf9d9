import SchemaTrail.Ledger.Recorder
import SchemaTrail.Proofs.LedgerText
import SchemaTrail.Proofs.TrackerRuns

/-!
# Runs of a recorder

A recorder follows statements one after the other (`Recorder.run`), and stays as it is where one
fails.  The changes in its ledger lead from the schema at the start to the schema it holds
(`Recorder.Since`), and what it adds to its ledger depends only on its tracker and on the last
position that is recorded (`Recorder.run_alike`).
-/

namespace SchemaTrail

open Outcome

/-! ## Entries -/

/-- The entry of a statement with its changes. -/
def LoggedStatement.entry (s : LoggedStatement) (now : Timestamp) (changes : List Change) : Entry :=
  ⟨s.position, s.statement, s.database, changes, now⟩

/-- What an entry records, the time aside. -/
def Entry.content (e : Entry) : LoggedStatement × List Change :=
  (⟨e.position, e.database, e.statement⟩, e.changes)

/-- The ledger with more entries. -/
def Ledger.extended (l : Ledger) (es : List Entry) : Ledger :=
  ⟨l.text ++ String.join (es.map Entry.line), l.entries ++ es⟩

namespace Ledger

variable {l l' : Ledger} {es es' : List Entry}

theorem extended_nil (l : Ledger) : l.extended [] = l := by
  simp [extended]

theorem extended_append : (l.extended es).extended es' = l.extended (es ++ es') := by
  simp [extended, String.append_assoc]

theorem check_congr (h : l'.last? = l.last?) (position : Position) :
    l'.check position = l.check position := by
  rw [check, check, h]

/-- Ledgers with the same last position have the same last position when entries of the same
content are added. -/
theorem last?_extended (h : l'.last? = l.last?)
    (hes : es'.map Entry.content = es.map Entry.content) :
    (l'.extended es').last? = (l.extended es).last? := by
  have hpositions : es'.map Entry.position = es.map Entry.position := by
    simpa [Entry.content, Function.comp_def] using congrArg (List.map fun c => c.1.position) hes
  have hlast : es'.getLast?.map Entry.position = es.getLast?.map Entry.position := by
    rw [← List.getLast?_map, ← List.getLast?_map, hpositions]
  rw [last?, last?] at h
  rw [last?, last?, extended, extended, List.getLast?_append, List.getLast?_append, Option.map_or,
    Option.map_or, hlast, h]

end Ledger

namespace Recorder

/-! ## Steps -/

/-- The recorder after a statement at a time; one that fails leaves it as it is. -/
def follow (r : Recorder) (step : Timestamp × LoggedStatement) : Recorder :=
  match r.record step.1 step.2 with
  | .ok (_, r') => r'
  | .error _ => r

/-- The recorder after several statements. -/
def run (r : Recorder) (steps : List (Timestamp × LoggedStatement)) : Recorder :=
  steps.foldl follow r

/-- The recorder after a statement with changes. -/
def recorded (r : Recorder) (e : Entry) (s : Schema) : Recorder :=
  ⟨{ r.tracker with schema := s }, r.ledger.extended [e]⟩

/-- A statement is recorded if its position comes after the last one and it has changes. -/
theorem record_eq (r : Recorder) (now : Timestamp) (s : LoggedStatement) :
    r.record now s =
      match r.ledger.check s.position, r.tracker.prepare s.database s.statement with
      | .error e, _ => .error e
      | .ok (), .error e => .error (.statement e)
      | .ok (), .ok p =>
        if p.changes.isEmpty then .ok (none, r)
        else .ok (some (s.entry now p.changes), r.recorded (s.entry now p.changes) p.schema) := by
  rw [record]
  cases hcheck : r.ledger.check s.position with
  | error e => rfl
  | ok u =>
    cases hprepare : r.tracker.prepare s.database s.statement with
    | error e => rfl
    | ok p =>
      have happend : r.ledger.append (s.entry now p.changes) =
          .ok (r.ledger.extended [s.entry now p.changes]) :=
        Ledger.append_eq_ok_iff.2 ⟨hcheck, by simp [Ledger.extended]⟩
      show (if p.changes.isEmpty then .ok (none, r) else
        (r.ledger.append (s.entry now p.changes)).bind fun ledger =>
          .ok (some (s.entry now p.changes), ⟨r.tracker.commit p, ledger⟩)) = _
      rw [happend]
      by_cases hchanges : p.changes.isEmpty = true
      · simp only [if_pos hchanges]
      · simp only [if_neg hchanges, recorded, Tracker.commit]
        rfl

/-- What becomes of a recorder: nothing, unless the position of the statement comes after the last
one and the statement has changes. -/
theorem follow_eq (r : Recorder) (now : Timestamp) (s : LoggedStatement) :
    r.follow (now, s) =
      match r.ledger.check s.position, r.tracker.prepare s.database s.statement with
      | .ok (), .ok p =>
        if p.changes.isEmpty then r else r.recorded (s.entry now p.changes) p.schema
      | _, _ => r := by
  rw [follow, record_eq]
  cases r.ledger.check s.position with
  | error e => rfl
  | ok u =>
    cases r.tracker.prepare s.database s.statement with
    | error e => rfl
    | ok p =>
      by_cases hchanges : p.changes.isEmpty = true
      · simp only [if_pos hchanges]
      · simp only [if_neg hchanges]

theorem follow_cases (r : Recorder) (step : Timestamp × LoggedStatement) : r.follow step = r ∨
    ∃ p, r.ledger.check step.2.position = .ok () ∧
      r.tracker.prepare step.2.database step.2.statement = .ok p ∧
      r.follow step = r.recorded (step.2.entry step.1 p.changes) p.schema := by
  rw [follow_eq]
  split
  next p hcheck hprepare =>
    split
    · exact .inl rfl
    · exact .inr ⟨p, hcheck, hprepare, rfl⟩
  next => exact .inl rfl

/-- What holds at the start and is kept by every statement holds at the end of a run. -/
theorem run_induction {motive : Recorder → Prop} {r : Recorder} (hr : motive r)
    {steps : List (Timestamp × LoggedStatement)}
    (hstep : ∀ r, motive r → ∀ step ∈ steps, motive (r.follow step)) : motive (r.run steps) := by
  induction steps generalizing r with
  | nil => exact hr
  | cons step steps ih =>
    exact ih (hstep r hr step List.mem_cons_self)
      fun r hr step hmem => hstep r hr step (List.mem_cons_of_mem _ hmem)

/-! ## The schema at the start -/

/-- The recorder that starts at a schema. -/
def started (base : Schema) (config : Config) : Recorder :=
  ⟨.start config .empty base, .empty⟩

theorem resume_empty (base : Schema) (config : Config) :
    resume base config .empty = .ok (started base config) :=
  rfl

/-- A recorder whose ledger leads from the schema that it started at to the one that it holds. -/
structure Since (base : Schema) (config : Config) (r : Recorder) : Prop where
  replay : (started base config).tracker.schema.applyAll
    (r.ledger.entries.flatMap Entry.changes) = .ok r.tracker.schema
  kept : r.ledger.Kept
  config : r.tracker.config = config
  exclusions : r.tracker.exclusions = .empty

variable {base : Schema} {config : Config} {r r' : Recorder}

theorem since_started (base : Schema) (config : Config) : (started base config).Since base config :=
  ⟨rfl, Ledger.kept_empty, rfl, rfl⟩

theorem Since.follow (h : r.Since base config) (step : Timestamp × LoggedStatement) :
    (r.follow step).Since base config := by
  obtain heq | ⟨p, hcheck, hprepare, heq⟩ := r.follow_cases step
  · rw [heq]
    exact h
  · have happend : r.ledger.append (step.2.entry step.1 p.changes) =
        .ok (r.ledger.extended [step.2.entry step.1 p.changes]) :=
      Ledger.append_eq_ok_iff.2 ⟨hcheck, by simp [Ledger.extended]⟩
    rw [heq]
    refine ⟨?_, h.kept.append happend, h.config, h.exclusions⟩
    show Schema.applyAll _ ((r.ledger.entries ++ [_]).flatMap Entry.changes) = _
    rw [List.flatMap_append, List.flatMap_singleton, Schema.applyAll, List.foldlM_append]
    exact bind_eq_ok_iff.2 ⟨r.tracker.schema, h.replay, Tracker.applyAll_of_prepare hprepare⟩

theorem since_run (base : Schema) (config : Config) (steps : List (Timestamp × LoggedStatement)) :
    ((started base config).run steps).Since base config :=
  run_induction (since_started base config) fun _ hr step _ => hr.follow step

/-- The positions that are recorded are those of statements. -/
theorem run_positions {P : Position → Prop} {steps : List (Timestamp × LoggedStatement)}
    (hsteps : ∀ step ∈ steps, P step.2.position) (hr : ∀ e ∈ r.ledger.entries, P e.position) :
    ∀ e ∈ (r.run steps).ledger.entries, P e.position := by
  refine run_induction (motive := fun r => ∀ e ∈ r.ledger.entries, P e.position) hr
    fun r hr step hstep => ?_
  obtain heq | ⟨p, -, -, heq⟩ := r.follow_cases step
  · rw [heq]
    exact hr
  · rw [heq]
    exact List.forall_mem_append.2 ⟨hr, List.forall_mem_singleton.2 (hsteps step hstep)⟩

/-! ## Recorders that do the same -/

/-- Recorders that hold the same schema and have come to the same position. -/
structure Alike (r' r : Recorder) : Prop where
  tracker : r'.tracker = r.tracker
  last? : r'.ledger.last? = r.ledger.last?

/-- Alike recorders add the same to their ledgers, the time aside, and are alike afterwards. -/
theorem Alike.follow (h : Alike r' r) (now' now : Timestamp) (s : LoggedStatement) :
    Alike (r'.follow (now', s)) (r.follow (now, s)) ∧ ∃ es' es,
      (r'.follow (now', s)).ledger = r'.ledger.extended es' ∧
      (r.follow (now, s)).ledger = r.ledger.extended es ∧
      es'.map Entry.content = es.map Entry.content := by
  rw [follow_eq, follow_eq, Ledger.check_congr h.last?, h.tracker]
  split
  next p hcheck hprepare =>
    split
    · exact ⟨h, [], [], (r'.ledger.extended_nil).symm, (r.ledger.extended_nil).symm, rfl⟩
    · refine ⟨⟨by rw [recorded, recorded, h.tracker], ?_⟩, [s.entry now' p.changes],
        [s.entry now p.changes], rfl, rfl, rfl⟩
      exact Ledger.last?_extended h.last? rfl
  next => exact ⟨h, [], [], (r'.ledger.extended_nil).symm, (r.ledger.extended_nil).symm, rfl⟩

theorem Alike.run {steps' steps : List (Timestamp × LoggedStatement)}
    (hsteps : steps'.map Prod.snd = steps.map Prod.snd) (h : Alike r' r) :
    Alike (r'.run steps') (r.run steps) ∧ ∃ es' es,
      (r'.run steps').ledger = r'.ledger.extended es' ∧
      (r.run steps).ledger = r.ledger.extended es ∧
      es'.map Entry.content = es.map Entry.content := by
  induction steps generalizing steps' r' r with
  | nil =>
    cases List.map_eq_nil_iff.1 hsteps
    exact ⟨h, [], [], (r'.ledger.extended_nil).symm, (r.ledger.extended_nil).symm, rfl⟩
  | cons step steps ih =>
    obtain ⟨now, s⟩ := step
    obtain ⟨⟨now', s'⟩, rest', rfl, hs, hrest⟩ := List.map_eq_cons_iff.1 hsteps
    cases hs
    -- What is added in the rest of the runs comes after what the first statement adds.
    obtain ⟨hstep, es', es, hes', hes, hcontent⟩ := h.follow now' now s
    obtain ⟨hrun, more', more, hmore', hmore, hcontent'⟩ := ih hrest hstep
    refine ⟨hrun, es' ++ more', es ++ more, ?_, ?_, ?_⟩
    · rw [← Ledger.extended_append, ← hes']
      exact hmore'
    · rw [← Ledger.extended_append, ← hes]
      exact hmore
    · rw [List.map_append, List.map_append, hcontent, hcontent']

end Recorder

end SchemaTrail
