import SchemaTrail.Proofs.RecorderRuns
import SchemaTrail.Proofs.SettledDocuments

/-!
# Restarts of a recorder

A recorder is meant to be stopped at any time: one that is resumed from the text of the ledger goes
on as if there had been no restart (`Session.Restarts`).  The changes are replayed in the mode of
the schema at the start, though, and with the charsets of columns in lower case, so this takes a
configuration that compares names as that schema does, and columns whose charsets are in lower case
already (`Session.restarts_iff`).
-/

namespace SchemaTrail

open Outcome

/-- Modes that agree on whether letter case counts compare names alike. -/
theorem CaseMode.namesEqual_congr {mode mode' : CaseMode}
    (h : mode = .sensitive ↔ mode' = .sensitive) : mode.namesEqual = mode'.namesEqual := by
  cases mode <;> cases mode' <;> simp at h <;> rfl

theorem Schema.caseMode_of_applyAll {s s' : Schema} {changes : List Change}
    (h : s.applyAll changes = .ok s') : s'.caseMode = s.caseMode :=
  foldlM_induction (motive := fun s' => s'.caseMode = s.caseMode) h rfl
    fun _ hs _ _ _ happly => (caseMode_of_apply happly).trans hs

/-! ## Going on after a restart -/

namespace Recorder

/-- A recorder goes on as another: it holds the same schema and has the same text in its ledger, and
when both follow the same statements, be it at other times, they still hold the same schema and have
added the same entries. -/
structure GoesOnAs (r' r : Recorder) : Prop where
  tracker : r'.tracker = r.tracker
  text : r'.ledger.text = r.ledger.text
  later : ∀ steps' steps : List (Timestamp × LoggedStatement),
    steps'.map Prod.snd = steps.map Prod.snd →
      (r'.run steps').tracker = (r.run steps).tracker ∧ ∃ es' es,
        (r'.run steps').ledger = r'.ledger.extended es' ∧
        (r.run steps).ledger = r.ledger.extended es ∧
        es'.map Entry.content = es.map Entry.content

theorem Alike.goesOnAs {r' r : Recorder} (h : Alike r' r) (htext : r'.ledger.text = r.ledger.text) :
    r'.GoesOnAs r :=
  ⟨h.tracker, htext, fun _ _ hsteps => ⟨(h.run hsteps).1.tracker, (h.run hsteps).2⟩⟩

/-- The ledger as its text shows it. -/
def reopened (r : Recorder) : Ledger :=
  ⟨r.ledger.text, r.ledger.entries.map Entry.shown⟩

theorem last?_reopened (r : Recorder) : r.reopened.last? = r.ledger.last? := by
  rw [Ledger.last?, Ledger.last?, reopened, List.getLast?_map, Option.map_map]
  rfl

/-- The changes as the text of the ledger shows them. -/
def shownChanges (r : Recorder) : List Change :=
  (r.ledger.entries.flatMap Entry.changes).map Change.lowered

variable {base : Schema} {config : Config} {r : Recorder}

/-- The changes that are shown are replayed in the mode of the schema at the start. -/
theorem resume_reopened (r : Recorder) : resume base config r.reopened =
    (base.applyAll r.shownChanges).map fun s => ⟨.start config .empty s, r.reopened⟩ := by
  have hchanges : (r.ledger.entries.map Entry.shown).flatMap Entry.changes = r.shownChanges := by
    rw [shownChanges, List.flatMap_map, List.map_flatMap]
    rfl
  rw [resume, Ledger.replay, Ledger.entriesUntil, reopened, hchanges]

theorem Since.caseMode (hr : r.Since base config) : r.tracker.schema.caseMode = config.caseMode :=
  Schema.caseMode_of_applyAll hr.replay

/-- If both modes compare names alike, the replay gives the lowered form of the schema that the
recorder holds. -/
theorem Since.replay_shownChanges (hr : r.Since base config) (hbase : base.ColumnsLower)
    (hmode : base.caseMode.namesEqual = config.caseMode.namesEqual) :
    base.applyAll r.shownChanges = .ok (r.tracker.schema.loweredIn base.caseMode) := by
  -- The recorder started at `base` with another mode, and the replay starts at `base` itself.
  have hstart : (started base config).tracker.schema.loweredIn base.caseMode = base :=
    Schema.lowered_eq_self_iff.2 hbase
  have hreplay := Schema.applyAll_loweredIn (s := (started base config).tracker.schema) hmode
    (r.ledger.entries.flatMap Entry.changes)
  rw [hstart, hr.replay] at hreplay
  exact hreplay

end Recorder

/-! ## Sessions -/

/-- What a recorder is given: a schema that is read from a document, a configuration, and statements
whose positions have offsets of 64 bits and come one after the other. -/
structure Session where
  document : Json
  base : Schema
  reads : Schema.ofJson? document = some base
  config : Config
  steps : List (Timestamp × LoggedStatement)
  offsets : ∀ step ∈ steps, step.2.position.offset < Nat.pow 2 64
  ordered : steps.Pairwise fun step step' => step.2.position.before step'.2.position = true

namespace Session

open Recorder

variable {x : Session}

/-- The recorder after the statements. -/
def recorder (x : Session) : Recorder :=
  (started x.base x.config).run x.steps

/-- After the statements, a recorder can be resumed from the text of the ledger and goes on. -/
def Restarts (x : Session) : Prop :=
  ∃ r, resume x.base x.config .empty = .ok r ∧ ∃ l r',
    Ledger.ofText (r.run x.steps).ledger.text = .ok l ∧ resume x.base x.config l = .ok r' ∧
      r'.GoesOnAs (r.run x.steps)

/-- All positions in the ledger have file names, without which they cannot be read again. -/
def FilesNamed (x : Session) : Prop :=
  ∀ e ∈ x.recorder.ledger.entries, e.position.file ≠ ""

/-- The changes that are shown lead to the schema that the recorder holds, up to the mode. -/
def Replays (x : Session) : Prop :=
  ∃ s, x.base.applyAll x.recorder.shownChanges = .ok s ∧
    ({ s with caseMode := x.config.caseMode } : Schema) = x.recorder.tracker.schema

/-- The columns that the recorder holds have their charsets in lower case. -/
def HoldsLowered (x : Session) : Prop :=
  x.recorder.tracker.schema.lowered = x.recorder.tracker.schema

theorem since_recorder (x : Session) : x.recorder.Since x.base x.config :=
  since_run x.base x.config x.steps

theorem filesNamed_of_steps (h : ∀ step ∈ x.steps, step.2.position.file ≠ "") : x.FilesNamed :=
  run_positions (P := fun p => p.file ≠ "") h (by simp [started, Ledger.empty])

theorem restarts_iff_replays (x : Session) : x.Restarts ↔ x.FilesNamed ∧ x.Replays := by
  have hr := x.since_recorder
  have hoffset : ∀ e ∈ x.recorder.ledger.entries, e.position.offset < Nat.pow 2 64 :=
    run_positions (P := fun p => p.offset < Nat.pow 2 64) x.offsets
      (by simp [started, Ledger.empty])
  constructor
  · rintro ⟨_, hstart, l, r', hread, hresume, hgoes⟩
    cases (resume_empty x.base x.config).symm.trans hstart
    have hfile := hr.kept.file_ne_of_ofText hoffset hread
    refine ⟨hfile, ?_⟩
    cases (hr.kept.ofText_text hoffset hfile).symm.trans hread
    obtain ⟨s, hs, rfl⟩ := map_eq_ok_iff.1 ((resume_reopened x.recorder).symm.trans hresume)
    exact ⟨s, hs, congrArg Tracker.schema hgoes.tracker⟩
  · rintro ⟨hfile, s, hs, hschema⟩
    have hresume : resume x.base x.config x.recorder.reopened =
        .ok ⟨.start x.config .empty s, x.recorder.reopened⟩ := by
      rw [resume_reopened, hs]
      rfl
    have htracker : Tracker.start x.config .empty s = x.recorder.tracker := by
      rw [Tracker.start, hschema, ← hr.config, ← hr.exclusions]
    have halike : Alike ⟨.start x.config .empty s, x.recorder.reopened⟩ x.recorder :=
      ⟨htracker, x.recorder.last?_reopened⟩
    exact ⟨_, rfl, x.recorder.reopened, _, hr.kept.ofText_text hoffset hfile, hresume,
      halike.goesOnAs rfl⟩

/-! ## Modes that agree -/

theorem replays_iff_holdsLowered
    (hmode : x.base.caseMode = .sensitive ↔ x.config.caseMode = .sensitive) :
    x.Replays ↔ x.HoldsLowered := by
  have hr := x.since_recorder
  have hreplay := hr.replay_shownChanges (Schema.columnsLower_of_ofJson? x.reads)
    (CaseMode.namesEqual_congr hmode)
  rw [HoldsLowered, Schema.lowered, hr.caseMode]
  constructor
  · rintro ⟨s, hs, hschema⟩
    cases hreplay.symm.trans hs
    exact hschema
  · exact fun h => ⟨_, hreplay, h⟩

theorem holdsLowered_of_defaultsLower (h : x.base.DefaultsLower) : x.HoldsLowered := by
  have hstart : (started x.base x.config).tracker.schema.CharsetsLower :=
    Tracker.start_charsetsLower x.reads h x.config .empty
  have hend : x.recorder.tracker.schema.CharsetsLower := by
    refine run_induction (motive := fun r => r.tracker.schema.CharsetsLower) hstart
      fun r hr step _ => ?_
    obtain heq | ⟨p, -, hprepare, heq⟩ := r.follow_cases step
    · rw [heq]
      exact hr
    · rw [heq]
      exact (Tracker.prepare_charsetsLower hr hprepare).1
  exact Schema.lowered_eq_self_iff.2 (Schema.charsetsLower_iff.1 hend).2

/-! ## Modes that disagree -/

theorem not_replays (h : (x.base.applyAll x.recorder.shownChanges).toOption.map Schema.databases ≠
    some x.recorder.tracker.schema.databases) : ¬x.Replays := by
  rintro ⟨s, hs, hschema⟩
  refine h ?_
  rw [hs, ← hschema]
  rfl

/-- The steps of statements at the first offsets of a file. -/
def stepsOf (statements : List String) : List (Timestamp × LoggedStatement) :=
  statements.zipIdx.map fun (statement, i) => (.epoch, ⟨⟨"mysql-bin.000001", i⟩, none, statement⟩)

theorem file_ne_of_mem_stepsOf {statements : List String} :
    ∀ step ∈ stepsOf statements, step.2.position.file ≠ "" := by
  refine List.forall_mem_map.2 fun _ _ => ?_
  simp

/-- Databases whose names differ in letter case, where the schema at the start tells no letter case
apart. -/
def caseLost (mode : CaseMode) : Session where
  document := .object [("charset", .string "utf8mb4"), ("case-sensitivity", .string mode.name)]
  base := ⟨"utf8mb4", mode, []⟩
  reads := by cases mode <;> rfl
  config := .standard
  steps := stepsOf ["CREATE DATABASE a", "CREATE DATABASE A"]
  offsets := by decide
  ordered := by decide +kernel

/-- Tables whose names differ in letter case, where the configuration tells no letter case apart. -/
def caseIgnored (mode : CaseMode) : Session where
  document := .object [("charset", .string "utf8mb4"), ("databases", .array [.object [
    ("name", .string "d"), ("charset", .string "utf8mb4"), ("tables", .array (["t", "T"].map
      fun name => .object [("database", .string "d"), ("table", .string name),
        ("charset", .string "utf8mb4"), ("columns", .array [])]))]])]
  base := ⟨"utf8mb4", .sensitive, [⟨"d", "utf8mb4", ["t", "T"].map
    fun name => ⟨"d", name, "utf8mb4", [], .ofList []⟩⟩]⟩
  reads := by decide +kernel
  config := ⟨mode, .inheriting, "utf8mb4"⟩
  steps := stepsOf ["ALTER DATABASE d CHARACTER SET latin1"]
  offsets := by decide
  ordered := by decide +kernel

theorem isLower_utf8mb4 : Text.IsLower "utf8mb4" := by
  show Text.asciiLower "utf8mb4" = "utf8mb4"
  decide

theorem caseLost_defaultsLower (mode : CaseMode) : (caseLost mode).base.DefaultsLower :=
  ⟨isLower_utf8mb4, by simp [caseLost]⟩

theorem caseIgnored_defaultsLower (mode : CaseMode) : (caseIgnored mode).base.DefaultsLower :=
  ⟨isLower_utf8mb4, by simp [caseIgnored, isLower_utf8mb4]⟩

theorem caseLost_not_replays {mode : CaseMode} (h : mode ≠ .sensitive) :
    ¬(caseLost mode).Replays := by
  refine not_replays ?_
  cases mode with
  | sensitive => exact absurd rfl h
  | lowered => decide +kernel
  | insensitive => decide +kernel

theorem caseIgnored_not_replays {mode : CaseMode} (h : mode ≠ .sensitive) :
    ¬(caseIgnored mode).Replays := by
  refine not_replays ?_
  cases mode with
  | sensitive => exact absurd rfl h
  | lowered => decide +kernel
  | insensitive => decide +kernel

/-- Where two modes do not agree on whether letter case counts, there are statements after which
the replay does not lead to the schema, although all charsets are in lower case. -/
theorem exists_not_replays {mode mode' : CaseMode}
    (hmodes : ¬(mode = .sensitive ↔ mode' = .sensitive)) :
    ∃ x : Session, x.base.caseMode = mode ∧ x.config.caseMode = mode' ∧ x.base.DefaultsLower ∧
      x.FilesNamed ∧ ¬x.Replays := by
  by_cases hmode : mode = .sensitive
  · have hmode' : mode' ≠ .sensitive := fun h => hmodes ⟨fun _ => h, fun _ => hmode⟩
    subst hmode
    exact ⟨caseIgnored mode', rfl, rfl, caseIgnored_defaultsLower mode',
      filesNamed_of_steps file_ne_of_mem_stepsOf, caseIgnored_not_replays hmode'⟩
  · have hmode' : mode' = .sensitive := Decidable.by_contra fun h =>
      hmodes ⟨fun h' => absurd h' hmode, fun h' => absurd h' h⟩
    subst hmode'
    exact ⟨caseLost mode, rfl, rfl, caseLost_defaultsLower mode,
      filesNamed_of_steps file_ne_of_mem_stepsOf, caseLost_not_replays hmode⟩

/-! ## Restarts -/

/-- A recorder can be restarted exactly where all positions in its ledger have file names and the
changes, with the charsets of columns in lower case, lead to the schema that it holds in the mode of
the schema at the start.  If this mode and the configured one agree on whether letter case counts,
they do exactly if the columns have their charsets in lower case, which is so throughout if the
charsets at the start are.  If the two do not agree, there are statements after which they do not,
although all charsets are in lower case. -/
theorem restarts_iff (x : Session) :
    (x.Restarts ↔ x.FilesNamed ∧ x.Replays) ∧
    ((x.base.caseMode = .sensitive ↔ x.config.caseMode = .sensitive) →
      (x.Replays ↔ x.HoldsLowered) ∧ (x.base.DefaultsLower → x.HoldsLowered)) ∧
    (¬(x.base.caseMode = .sensitive ↔ x.config.caseMode = .sensitive) →
      ∃ y : Session, y.base.caseMode = x.base.caseMode ∧ y.config.caseMode = x.config.caseMode ∧
        y.base.DefaultsLower ∧ y.FilesNamed ∧ ¬y.Replays) :=
  ⟨x.restarts_iff_replays,
    fun hmodes => ⟨replays_iff_holdsLowered hmodes, holdsLowered_of_defaultsLower⟩,
    exists_not_replays⟩

/-- Names that are stored in lower case, where the schema at the start only compares them so. -/
def namesLowered : Session where
  document := .object [("charset", .string "utf8mb4"),
    ("case-sensitivity", .string "convert-on-compare")]
  base := ⟨"utf8mb4", .insensitive, []⟩
  reads := rfl
  config := ⟨.lowered, .never, "utf8mb4"⟩
  steps := stepsOf ["CREATE DATABASE Shop", "CREATE TABLE SHOP.Items (Id int, Label text)"]
  offsets := by decide
  ordered := by decide +kernel

theorem namesLowered_restarts : namesLowered.Restarts := by
  have hmodes : namesLowered.base.caseMode = .sensitive ↔
      namesLowered.config.caseMode = .sensitive := by
    decide
  obtain ⟨hrestarts, hagree, -⟩ := restarts_iff namesLowered
  obtain ⟨hreplays, hlowered⟩ := hagree hmodes
  refine hrestarts.2 ⟨filesNamed_of_steps file_ne_of_mem_stepsOf, ?_⟩
  exact hreplays.2 (hlowered ⟨isLower_utf8mb4, by simp [namesLowered]⟩)

end Session

end SchemaTrail
