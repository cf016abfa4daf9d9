import SchemaTrail.Proofs.Documents
import SchemaTrail.Proofs.SchemaUpdates

/-!
# Schemas with the charsets of their columns lowered

Changes are kept with the charsets of their columns in lower case, and are applied to a schema that
may compare names in another mode.  Applying a change looks at neither: where two modes compare
names alike, the lowered change does to the lowered schema what the change does to the schema
(`Schema.applyAll_loweredIn`).
-/

namespace SchemaTrail

open Outcome

/-! ## Definitions -/

/-- The database with the charsets of all columns in lower case. -/
def Database.lowered (d : Database) : Database :=
  { d with tables := d.tables.map Table.lowered }

/-- The schema with the charsets of all columns in lower case, and with a mode. -/
def Schema.loweredIn (mode : CaseMode) (s : Schema) : Schema :=
  ⟨s.charset, mode, s.databases.map Database.lowered⟩

/-- The schema with the charsets of all columns in lower case. -/
def Schema.lowered (s : Schema) : Schema :=
  s.loweredIn s.caseMode

/-! ## Databases -/

namespace Database

variable {mode : CaseMode} {d : Database} {name : String}

theorem table?_lowered : d.lowered.table? mode name = (d.table? mode name).map Table.lowered := by
  rw [table?, table?, lowered, List.find?_map]
  rfl

theorem hasTable_lowered : d.lowered.hasTable mode name = d.hasTable mode name := by
  rw [hasTable_eq_isSome, hasTable_eq_isSome, table?_lowered, Option.isSome_map]

theorem addTable_lowered (t : Table) : d.lowered.addTable t.lowered = (d.addTable t).lowered := by
  simp [addTable, lowered]

theorem updateTable_lowered {missing : InvariantError} {change change' : Table → List Table}
    (h : ∀ t, change' t.lowered = (change t).map Table.lowered) :
    d.lowered.updateTable mode name missing change' =
      (d.updateTable mode name missing change).map lowered := by
  have hfirst : updateFirst (fun t => mode.namesEqual t.name name) missing
        (fun t => .ok (change' t)) (d.tables.map Table.lowered) =
      (updateFirst (fun t => mode.namesEqual t.name name) missing (fun t => .ok (change t))
        d.tables).map (List.map Table.lowered) :=
    updateFirst_map (fun _ _ => rfl) fun t _ => congrArg Except.ok (h t)
  rw [updateTable, updateTable, lowered, hfirst]
  cases updateFirst _ missing (fun t => .ok (change t)) d.tables <;> rfl

end Database

/-! ## Schemas -/

namespace Schema

variable {mode : CaseMode} {s : Schema} (hmode : mode.namesEqual = s.caseMode.namesEqual)
  {database table : String}
include hmode

theorem database?_loweredIn :
    (s.loweredIn mode).database? database = (s.database? database).map Database.lowered := by
  rw [database?, database?, loweredIn, List.find?_map]
  simp only [hmode]
  rfl

theorem hasDatabase_loweredIn :
    (s.loweredIn mode).hasDatabase database = s.hasDatabase database := by
  rw [hasDatabase_eq_isSome, hasDatabase_eq_isSome, database?_loweredIn hmode, Option.isSome_map]

omit hmode in
theorem Database.table?_loweredIn (hmode : mode.namesEqual = s.caseMode.namesEqual)
    (d : Database) :
    d.lowered.table? mode table = (d.table? s.caseMode table).map Table.lowered := by
  rw [Database.table?_lowered, Database.table?, Database.table?, hmode]

theorem hasTable_loweredIn :
    (s.loweredIn mode).hasTable database table = s.hasTable database table := by
  rw [hasTable, hasTable, table?, table?, database?_loweredIn hmode]
  cases s.database? database with
  | none => rfl
  | some d =>
    show (d.lowered.table? mode table).isSome = (d.table? s.caseMode table).isSome
    rw [Database.table?_loweredIn hmode, Option.isSome_map]

theorem requireDatabase_loweredIn : (s.loweredIn mode).requireDatabase database =
    (s.requireDatabase database).map Database.lowered := by
  rw [requireDatabase, requireDatabase, database?_loweredIn hmode]
  cases s.database? database <;> rfl

theorem requireTable_loweredIn : (s.loweredIn mode).requireTable database table =
    (s.requireTable database table).map Table.lowered := by
  rw [requireTable, requireTable, requireDatabase_loweredIn hmode]
  cases s.requireDatabase database with
  | error e => rfl
  | ok d =>
    have htable : d.lowered.table? (s.loweredIn mode).caseMode table =
        (d.table? s.caseMode table).map Table.lowered := Database.table?_loweredIn hmode d
    simp only [Except.map, bind, Except.bind, htable]
    cases d.table? s.caseMode table <;> rfl

/-! ## Changing -/

theorem updateDatabase_loweredIn {change change' : Database → Except InvariantError Database}
    (h : ∀ d, change' d.lowered = (change d).map Database.lowered) :
    (s.loweredIn mode).updateDatabase database change' =
      (s.updateDatabase database change).map (loweredIn mode) := by
  have hfirst : updateFirst (fun d => mode.namesEqual d.name database) (.databaseNotFound database)
        (fun d => (change' d).map ([·])) (s.databases.map Database.lowered) =
      (updateFirst (fun d => s.caseMode.namesEqual d.name database) (.databaseNotFound database)
        (fun d => (change d).map ([·])) s.databases).map (List.map Database.lowered) := by
    refine updateFirst_map (fun d _ => by rw [hmode]; rfl) fun d _ => ?_
    rw [h]
    cases change d <;> rfl
  rw [updateDatabase, updateDatabase, loweredIn, hfirst]
  cases updateFirst _ (.databaseNotFound database) (fun d => (change d).map ([·])) s.databases <;>
    rfl

theorem removeDatabase_loweredIn : (s.loweredIn mode).removeDatabase database =
    (s.removeDatabase database).map (loweredIn mode) := by
  have hfirst : ∀ missing : InvariantError,
      updateFirst (fun d => mode.namesEqual d.name database) missing (fun _ => .ok [])
        (s.databases.map Database.lowered) =
      (updateFirst (fun d => s.caseMode.namesEqual d.name database) missing (fun _ => .ok [])
        s.databases).map (List.map Database.lowered) :=
    fun _ => updateFirst_map (fun d _ => by rw [hmode]; rfl) fun _ _ => rfl
  rw [removeDatabase, removeDatabase, loweredIn, hfirst]
  cases updateFirst _ _ (fun _ => .ok []) s.databases <;> rfl

theorem updateTable_loweredIn {change change' : Table → List Table}
    (h : ∀ t, change' t.lowered = (change t).map Table.lowered) :
    (s.loweredIn mode).updateTable database table change' =
      (s.updateTable database table change).map (loweredIn mode) :=
  updateDatabase_loweredIn hmode fun d => by
    rw [loweredIn, Database.updateTable_lowered h, Database.updateTable, Database.updateTable,
      hmode]

theorem addTable_loweredIn (t : Table) :
    (s.loweredIn mode).addTable t.lowered = (s.addTable t).map (loweredIn mode) :=
  updateDatabase_loweredIn hmode fun d => congrArg Except.ok (d.addTable_lowered t)

theorem insertTable_loweredIn (t : Table) :
    (s.loweredIn mode).insertTable t.lowered = (s.insertTable t).map (loweredIn mode) :=
  updateDatabase_loweredIn hmode fun d => by
    have hthere : d.lowered.hasTable mode t.name = d.hasTable s.caseMode t.name := by
      rw [Database.hasTable_lowered, Database.hasTable, Database.hasTable, hmode]
    show (if d.lowered.hasTable mode t.name then _ else _) = _
    rw [hthere]
    split
    · rfl
    · exact congrArg Except.ok (d.addTable_lowered t)

theorem replaceTable_loweredIn (new : Table) :
    (s.loweredIn mode).replaceTable database table new.lowered =
      (s.replaceTable database table new).map (loweredIn mode) := by
  have hput : (s.loweredIn mode).updateTable database table (fun _ => [new.lowered]) =
      (s.updateTable database table fun _ => [new]).map (loweredIn mode) :=
    updateTable_loweredIn hmode fun _ => rfl
  have htake : (s.loweredIn mode).updateTable database table (fun _ => []) =
      (s.updateTable database table fun _ => []).map (loweredIn mode) :=
    updateTable_loweredIn hmode fun _ => rfl
  rw [replaceTable_eq, replaceTable_eq, requireTable_loweredIn hmode, htake, hput]
  cases s.requireTable database table with
  | error e => rfl
  | ok t =>
    show (if !(mode.namesEqual database new.database && mode.namesEqual table new.name) &&
      (s.loweredIn mode).hasTable new.database new.name then _ else
        if mode.namesEqual database new.database then _ else
          ((s.loweredIn mode).requireDatabase new.database).bind _) = _
    rw [hmode, hasTable_loweredIn hmode, requireDatabase_loweredIn hmode]
    simp only [Except.bind]
    split
    · rfl
    split
    · rfl
    cases s.requireDatabase new.database with
    | error e => rfl
    | ok d =>
      cases hwithout : s.updateTable database table fun _ => [] with
      | error e => rfl
      | ok without =>
        refine addTable_loweredIn ?_ new
        rw [caseMode_of_updateDatabase hwithout, hmode]

theorem setTableCharset_loweredIn {charset : String} (d : Database) :
    (s.loweredIn mode).setTableCharset database charset d.lowered table =
      (s.setTableCharset database charset d table).map Database.lowered := by
  rw [setTableCharset, setTableCharset, Database.updateTable, Database.updateTable, ← hmode]
  exact Database.updateTable_lowered fun t => rfl

end Schema

/-! ## Applying -/

namespace Schema

variable {mode : CaseMode} {s : Schema}

/-- The lowered change does to the lowered schema what the change does to the schema. -/
theorem apply_loweredIn (hmode : mode.namesEqual = s.caseMode.namesEqual) (c : Change) :
    c.lowered.apply (s.loweredIn mode) = (c.apply s).map (loweredIn mode) := by
  cases c with
  | createDatabase database charset =>
    show (if (s.loweredIn mode).hasDatabase database then _ else _) = _
    rw [hasDatabase_loweredIn hmode, Change.apply]
    split
    · rfl
    · simp [Except.map, addDatabase, loweredIn, Database.lowered]
  | alterDatabase database charset tables =>
    refine updateDatabase_loweredIn hmode fun d => ?_
    -- Tables are looked up in the database as it has been changed so far.
    suffices hfold : ∀ b : Database,
        tables.foldlM ((s.loweredIn mode).setTableCharset database charset) b.lowered =
          (tables.foldlM (s.setTableCharset database charset) b).map Database.lowered from
      hfold { d with charset }
    induction tables with
    | nil => exact fun b => rfl
    | cons table tables ih =>
      intro b
      rw [List.foldlM_cons, List.foldlM_cons, setTableCharset_loweredIn hmode]
      cases s.setTableCharset database charset b table with
      | error e => rfl
      | ok b' => exact ih b'
  | dropDatabase database => exact removeDatabase_loweredIn hmode
  | createTable database table definition => exact insertTable_loweredIn hmode definition
  | alterTable database table old definition => exact replaceTable_loweredIn hmode definition
  | dropTable database table => exact updateTable_loweredIn hmode fun _ => rfl
  | renameTables renames =>
    show (renames.map Rename.lowered).foldlM rename (s.loweredIn mode) =
      (renames.foldlM rename s).map (loweredIn mode)
    induction renames generalizing s with
    | nil => rfl
    | cons r renames ih =>
      have hr : (s.loweredIn mode).rename r.lowered = (s.rename r).map (loweredIn mode) :=
        replaceTable_loweredIn hmode r.definition
      rw [List.map_cons, List.foldlM_cons, List.foldlM_cons, hr]
      cases hnext : s.rename r with
      | error e => rfl
      | ok next =>
        refine ih ?_
        rw [caseMode_of_replaceTable hnext, hmode]

theorem applyAll_loweredIn (hmode : mode.namesEqual = s.caseMode.namesEqual)
    (changes : List Change) : (s.loweredIn mode).applyAll (changes.map Change.lowered) =
      (s.applyAll changes).map (loweredIn mode) := by
  rw [applyAll, applyAll]
  induction changes generalizing s with
  | nil => rfl
  | cons c changes ih =>
    rw [List.map_cons, List.foldlM_cons, List.foldlM_cons, apply_loweredIn hmode]
    cases hs' : c.apply s with
    | error e => rfl
    | ok s' =>
      refine ih ?_
      rw [caseMode_of_apply hs', hmode]

end Schema

end SchemaTrail
