import SchemaTrail.Proofs.GuardedClauses
import SchemaTrail.Proofs.TrackerRuns

/-!
# Clauses that are passed over

A guarded clause is passed over where the table has the column that it adds, or has not the one that
it changes or removes.  This leaves the columns as they are, but a primary key that the definition
of the column makes is set all the same (`Request.resolve_of_isPassedOver`).  So a statement that
consists of such a clause does not always leave the schema as it was
(`Tracker.process_guarded_iff`); what it may change is the key of the table (`Tracker.run_guarded`).
-/

namespace SchemaTrail

open Outcome

namespace GuardedClause

/-- Whether the guard makes a table pass over the clause. -/
def isPassedOver (t : Table) : GuardedClause → Bool
  | .add column .. => t.columns.contains column.name
  | .change name .. | .remove name => !t.columns.contains name

/-- The table with the primary key that the clause makes, if it makes one. -/
def rekey (g : GuardedClause) (t : Table) : Table :=
  { t with primaryKey := g.key?.getD t.primaryKey }

end GuardedClause

variable {config : Config} {s s' : Schema} {here name : TableName} {t old : Table}
  {g : GuardedClause}

theorem Table.editColumn_of_isPassedOver (h : g.isPassedOver t = true) :
    t.editColumn here g.edit = .ok t := by
  have hmissing : ∀ {a}, (!t.columns.contains a) = true → t.columns.indexOf? a = none :=
    fun h => ColumnList.indexOf?_eq_none_iff.2 (Bool.not_eq_true' _ ▸ h)
  refine editColumn_eq_ok_iff.2 ?_
  cases g with
  | add => exact .addPassedOver h
  | change => exact .changePassedOver (hmissing h)
  | remove => exact .removePassedOver (hmissing h)

/-- Of a clause that is passed over the key is left. -/
theorem Request.resolve_of_isPassedOver
    (hold : s.requireTable name.database name.table = .ok old) (h : g.isPassedOver old = true) :
    (Request.alterTable name g.tableEdit).resolve config s =
      .ok (some (.alterTable old.database old.name old (g.rekey old))) := by
  refine resolve_eq_some_iff.2 (.alterTable hold (editedTable_eq_ok_iff.2 ⟨old, rfl, old, ?_, rfl⟩))
  exact foldlM_singleton.trans (Table.editColumn_of_isPassedOver h)

/-- A table that is put where its own names say stays in its database. -/
theorem Schema.replaceTable_own_eq_ok_iff (new : Table) :
    s.replaceTable new.database new.name new = .ok s' ↔
    (∃ t, s.requireTable new.database new.name = .ok t) ∧
      s.updateTable new.database new.name (fun _ => [new]) = .ok s' := by
  simp [replaceTable_eq_ok_iff]

namespace Tracker

variable {t : Tracker} {selected : Option String} {statement : String} {p : Prepared}

/-! ## Guarded clauses -/

section Guarded

variable (hread : Statement.readGuarded selected statement = .ok (name, g))
  (hold : t.schema.requireTable name.database name.table = .ok old)
  (hpassed : g.isPassedOver old = true)
include hread hold hpassed

/-- What preparing a statement does that consists of a clause that is passed over. -/
theorem prepare_guarded_iff : t.prepare selected statement = .ok p ↔
    if Statement.isUntracked statement || t.exclusions.hasTable name.database name.table then
      p = ⟨[], t.schema⟩
    else ∃ s, t.schema.replaceTable old.database old.name (g.rekey old) = .ok s ∧
      p = ⟨[.alterTable old.database old.name old (g.rekey old)], s⟩ := by
  by_cases huntracked : Statement.isUntracked statement = true
  · have hnone : Statement.requests selected statement = .ok [] := if_pos huntracked
    rw [prepare_eq_ok_iff, hnone, huntracked, Bool.true_or, if_pos rfl]
    constructor
    · rintro ⟨_, ⟨⟩, h⟩
      exact (pure_eq_ok_iff.1 h).symm
    · rintro rfl
      exact ⟨[], rfl, rfl⟩
  have hone : Statement.requests selected statement = .ok [.alterTable name g.tableEdit] :=
    (if_neg huntracked).trans (Statement.read_of_readGuarded hread)
  rw [prepare_singleton_iff hone, Bool.eq_false_iff.2 huntracked, Bool.false_or]
  by_cases hexcluded : t.exclusions.hasTable name.database name.table = true
  · rw [if_pos hexcluded, addRequest_of_excluded (r := .alterTable name g.tableEdit) hexcluded]
    simp [eq_comm]
  · rw [if_neg hexcluded, addRequest_of_resolve (r := .alterTable name g.tableEdit)
      (Bool.eq_false_iff.2 hexcluded) (Request.resolve_of_isPassedOver hold hpassed), map_eq_ok_iff]
    exact exists_congr fun s => and_congr_right fun _ => eq_comm

/-- A statement that consists of a guarded clause that is passed over succeeds and leaves the schema
as it was if and only if it is not tracked, or its table is excluded, or the table that is found by
the stored names has the key already that the clause makes. -/
theorem process_guarded_iff :
    (∃ changes t', t.process selected statement = .ok (changes, t') ∧ t'.schema = t.schema) ↔
      Statement.isUntracked statement = true ∨
      t.exclusions.hasTable name.database name.table = true ∨
      t.schema.requireTable old.database old.name = .ok (g.rekey old) := by
  rw [exists_process_iff (P := fun s => s = t.schema), ← or_assoc, ← Bool.or_eq_true]
  simp only [prepare_guarded_iff hread hold hpassed]
  split
  · rename_i hskipped
    exact iff_of_true ⟨_, rfl, rfl⟩ (.inl hskipped)
  · rename_i hskipped
    rw [or_iff_right hskipped, ← Schema.updateTable_eq_self_iff]
    constructor
    · rintro ⟨_, ⟨s, hs, rfl⟩, rfl⟩
      exact ((Schema.replaceTable_own_eq_ok_iff (g.rekey old)).1 hs).2
    · intro hsame
      refine ⟨_, ⟨t.schema, ?_, rfl⟩, rfl⟩
      exact (Schema.replaceTable_own_eq_ok_iff (g.rekey old)).2
        ⟨⟨_, Schema.updateTable_eq_self_iff.1 hsame⟩, hsame⟩

end Guarded

/-- The type, the charset and the place in a clause have no effect, but a key has. -/
theorem process_guarded_iff_add :
    let old : Table := .create "d" "t" "utf8mb4"
      [⟨"a", .integer .regular true, 0⟩, ⟨"b", .integer .regular true, 0⟩] ["a"]
    let t := start .standard .empty ⟨"utf8mb4", .sensitive, [⟨"d", "utf8mb4", [old]⟩]⟩
    let unchanged (statement : String) := ∃ changes t',
      t.process (some "d") statement = .ok (changes, t') ∧ t'.schema = t.schema
    unchanged "ALTER TABLE t ADD IF NOT EXISTS B varchar(5) CHARSET latin1 AFTER c;" ∧
      ¬ unchanged "ALTER IGNORE TABLE t ADD COLUMN IF NOT EXISTS b int PRIMARY KEY" := by
  intro old t unchanged
  have hold : t.schema.requireTable "d" "t" = .ok old := rfl
  have htype : Statement.readGuarded (some "d")
      "ALTER TABLE t ADD IF NOT EXISTS B varchar(5) CHARSET latin1 AFTER c;" =
      .ok (⟨"d", "t"⟩, .add ⟨"B", .text .varying (some "latin1"), 0⟩ (.after "c") false) :=
    toOption_eq_some_iff.1 (by decide +kernel)
  have hkey : Statement.readGuarded (some "d")
      "ALTER IGNORE TABLE t ADD COLUMN IF NOT EXISTS b int PRIMARY KEY" =
      .ok (⟨"d", "t"⟩, .add ⟨"b", .integer .regular true, 0⟩ .standard true) :=
    toOption_eq_some_iff.1 (by decide +kernel)
  refine ⟨(process_guarded_iff htype hold (by decide +kernel)).2 (.inr (.inr hold)), fun h => ?_⟩
  rcases (process_guarded_iff hkey hold (by decide +kernel)).1 h with h | h | h
  · exact absurd h (by decide +kernel)
  · exact absurd h (by decide +kernel)
  · exact absurd (congrArg Table.primaryKey (Except.ok.inj (hold.symm.trans h))) (by decide)

/-- The definition of a column that there is not becomes the key. -/
theorem follow_guarded_modify :
    let t := (start .standard .empty (.empty "utf8mb4" .sensitive)).run
      [(none, "CREATE DATABASE d"), (none, "CREATE TABLE d.t (a int, b int, PRIMARY KEY (a))")]
    let statement := "ALTER TABLE d.t MODIFY COLUMN IF EXISTS c int PRIMARY KEY FIRST"
    let found (t : Tracker) :=
      (t.schema.table? "d" "t").map fun t => (t.columns.names, t.primaryKey)
    (Statement.readGuarded none statement).toOption =
        some (⟨"d", "t"⟩, .change "c" ⟨"c", .integer .regular true, 0⟩ .first true) ∧
      found t = some (["a", "b"], ["a"]) ∧
      found (t.follow (none, statement)) = some (["a", "b"], ["c"]) := by
  decide +kernel

/-- In every schema that a tracker reaches from the empty one, a statement that consists of a
guarded clause that is passed over succeeds, and changes at most the key of the table. -/
theorem run_guarded {names : String → Prop} (config : Config) (exclusions : Exclusions)
    (charset : String) (mode : CaseMode) (calls : List (Option String × String))
    (hcoherent : config.caseMode ≠ .sensitive → config.caseMode.Coherent names)
    (hcalls : config.caseMode ≠ .sensitive →
      ∀ call ∈ calls, ∀ a ∈ Statement.names call.1 call.2, names a)
    (hread : Statement.readGuarded selected statement = .ok (name, g)) :
    let t := (start config exclusions (.empty charset mode)).run calls
    t.schema.requireTable name.database name.table = .ok old → g.isPassedOver old = true →
      ∃ changes t', t.process selected statement = .ok (changes, t') ∧ (t'.schema = t.schema ∨
        t.schema.updateTable old.database old.name (fun _ => [g.rekey old]) = .ok t'.schema) := by
  intro t hold hpassed
  have hsound := (start_run_tracked config exclusions charset mode calls hcoherent hcalls).sound
  have hfit := hsound.fitsIn_of_requireTable hold
  have hrekeyed : (g.rekey old).FitsIn (t.schema.caseMode.Stored _) t.schema :=
    ⟨hfit.database_mem, hfit.name_mem, hfit.columns_distinct⟩
  refine (exists_process_iff (P := fun s => s = t.schema ∨
    t.schema.updateTable old.database old.name (fun _ => [g.rekey old]) = .ok s)).2 ?_
  simp only [prepare_guarded_iff hread hold hpassed]
  split
  · exact ⟨_, rfl, .inl rfl⟩
  · obtain ⟨s, hs⟩ := hsound.replaceTable_succeeds hrekeyed (hsound.requireTable_stored hold)
      (.inl (by simp [GuardedClause.rekey]))
    exact ⟨_, ⟨s, hs, rfl⟩, .inr ((Schema.replaceTable_own_eq_ok_iff (g.rekey old)).1 hs).2⟩

end Tracker

end SchemaTrail
