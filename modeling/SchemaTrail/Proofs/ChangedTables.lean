import SchemaTrail.Proofs.NameEquality
import SchemaTrail.Proofs.SchemaUpdates

/-!
# Where changes put tables

A change keeps the tables of a schema where they are, takes some out, and puts in tables that it
defines itself (`Change.definitions`).  What holds of all tables, each together with the name of the
database that holds it, is kept if it holds of the definitions wherever they are put
(`Schema.AllTables.apply`).  None of this depends on the names being distinct.
-/

namespace SchemaTrail

open Outcome

/-! ## Definitions -/

/-- All tables of the schema satisfy `P`, each with the name of the database that holds it. -/
def Schema.AllTables (P : String → Table → Prop) (s : Schema) : Prop :=
  ∀ d ∈ s.databases, ∀ t ∈ d.tables, P d.name t

/-- Two schemas with the same databases by name. -/
structure Schema.SameDatabases (s s' : Schema) : Prop where
  caseMode : s'.caseMode = s.caseMode
  databaseNames : s'.databaseNames = s.databaseNames

/-- The tables that a change puts into a schema. -/
def Change.definitions : Change → List Table
  | .createTable _ _ definition | .alterTable _ _ _ definition => [definition]
  | .renameTables renames => renames.map Rename.definition
  | .createDatabase .. | .alterDatabase .. | .dropDatabase _ | .dropTable .. => []

/-- The names under which a table is put in the place of another: those of the place, and those that
the table has itself. -/
def Table.replacementNames (database table : String) (new : Table) : List String :=
  [database, table, new.database, new.name]

/-- The names that a change looks tables up by and puts new ones in by, and that of a new
database. -/
def Change.names : Change → List String
  | .createDatabase database _ => [database]
  | .createTable _ _ definition => [definition.database, definition.name]
  | .alterTable database table _ definition => definition.replacementNames database table
  | .renameTables renames =>
    renames.flatMap fun r => r.definition.replacementNames r.database r.table
  | .alterDatabase .. | .dropDatabase _ | .dropTable .. => []

/-! ## Databases that stay -/

namespace Schema.SameDatabases

variable {s s' s₁ s₂ s₃ : Schema} {database table : String}

theorem refl (s : Schema) : s.SameDatabases s :=
  ⟨rfl, rfl⟩

theorem symm (h : s.SameDatabases s') : s'.SameDatabases s :=
  ⟨h.caseMode.symm, h.databaseNames.symm⟩

theorem trans (h : s₁.SameDatabases s₂) (h' : s₂.SameDatabases s₃) : s₁.SameDatabases s₃ :=
  ⟨h'.caseMode.trans h.caseMode, h'.databaseNames.trans h.databaseNames⟩

theorem of_updateDatabase {change : Database → Except InvariantError Database}
    (h : s.updateDatabase database change = .ok s')
    (hname : ∀ d d', change d = .ok d' → d'.name = d.name) : s.SameDatabases s' := by
  obtain ⟨front, d, back, d', hd, -, -, hd', rfl⟩ := updateDatabase_eq_ok_iff.1 h
  refine ⟨rfl, ?_⟩
  show (front ++ d' :: back).map Database.name = s.databases.map Database.name
  simp [hd, hname d d' hd']

theorem of_updateTable {change : Table → List Table}
    (h : s.updateTable database table change = .ok s') : s.SameDatabases s' :=
  of_updateDatabase h fun _ _ hd' => by
    obtain ⟨_, _, _, _, _, _, rfl⟩ := Database.updateTable_eq_ok_iff.1 hd'
    rfl

theorem of_addTable {t : Table} (h : s.addTable t = .ok s') : s.SameDatabases s' :=
  of_updateDatabase h fun _ _ hd' => by
    cases hd'
    rfl

theorem of_replaceTable {new : Table} (h : s.replaceTable database table new = .ok s') :
    s.SameDatabases s' := by
  obtain ⟨-, -, h⟩ := replaceTable_eq_ok_iff.1 h
  split at h
  · exact of_updateTable h
  · obtain ⟨-, without, htake, hadd⟩ := h
    exact (of_updateTable htake).trans (of_addTable hadd)

end Schema.SameDatabases

/-! ## New charsets -/

namespace Schema

variable {s : Schema} {database charset table : String} {tables : List String} {d d' : Database}

/-- Giving tables other charsets changes neither the database nor the names in it. -/
theorem setTableCharset_eq_ok (h : s.setTableCharset database charset d table = .ok d') :
    ∃ front t back, d.tables = front ++ t :: back ∧
      d' = { d with tables := front ++ { t with charset } :: back } := by
  obtain ⟨front, t, back, htables, -, -, rfl⟩ := Database.updateTable_eq_ok_iff.1 h
  exact ⟨front, t, back, htables, by simp⟩

theorem setTableCharsets_names (h : tables.foldlM (s.setTableCharset database charset) d = .ok d') :
    d'.name = d.name ∧ d'.tableNames = d.tableNames := by
  refine foldlM_induction (motive := fun b => b.name = d.name ∧ b.tableNames = d.tableNames) h
    ⟨rfl, rfl⟩ fun b hb _ _ b' hb' => ?_
  obtain ⟨front, t, back, htables, rfl⟩ := setTableCharset_eq_ok hb'
  refine ⟨hb.1, ?_⟩
  rw [← hb.2, Database.tableNames, Database.tableNames, htables]
  simp

end Schema

/-! ## What holds of all tables -/

namespace Schema.AllTables

variable {P : String → Table → Prop} {s s' : Schema} (hs : s.AllTables P)
  {database table : String}
include hs

theorem updateDatabase {change : Database → Except InvariantError Database}
    (h : s.updateDatabase database change = .ok s')
    (hchange : ∀ d ∈ s.databases, s.caseMode.namesEqual d.name database = true →
      ∀ d', change d = .ok d' → d'.name = d.name ∧ ∀ t ∈ d'.tables, P d.name t) :
    s'.AllTables P :=
  forall_updateDatabase h hs fun d hd hname d' hd' => by
    obtain ⟨hsame, htables⟩ := hchange d hd hname d' hd'
    rwa [hsame]

theorem updateTable {change : Table → List Table} (h : s.updateTable database table change = .ok s')
    (hchange : ∀ n ∈ s.databaseNames, s.caseMode.namesEqual n database = true →
      ∀ t, ∀ u ∈ change t, P n u) : s'.AllTables P :=
  hs.updateDatabase h fun d hd hname _ hd' => by
    obtain ⟨hsame, -, htables⟩ := Database.forall_updateTable hd' (hs d hd) fun t _ =>
      hchange d.name (List.mem_map_of_mem hd) hname t
    exact ⟨hsame, htables⟩

theorem takeTable (h : s.updateTable database table (fun _ => []) = .ok s') : s'.AllTables P :=
  hs.updateTable h fun _ _ _ _ _ hu => absurd hu List.not_mem_nil

theorem addTable {t : Table} (h : s.addTable t = .ok s')
    (ht : ∀ n ∈ s.databaseNames, s.caseMode.namesEqual n t.database = true → P n t) :
    s'.AllTables P :=
  hs.updateDatabase h fun d hd hname _ hd' => by
    cases hd'
    refine ⟨rfl, ?_⟩
    rw [Database.addTable, List.forall_mem_append, List.forall_mem_singleton]
    exact ⟨hs d hd, ht d.name (List.mem_map_of_mem hd) hname⟩

theorem replaceTable {new : Table} (h : s.replaceTable database table new = .ok s')
    (hnew : ∀ n ∈ s.databaseNames, ∀ a ∈ new.replacementNames database table,
      s.caseMode.namesEqual n a = true → s.caseMode.namesEqual a new.database = true → P n new) :
    s'.AllTables P := by
  obtain ⟨-, -, h⟩ := replaceTable_eq_ok_iff.1 h
  by_cases hsame : s.caseMode.namesEqual database new.database = true
  · rw [if_pos hsame] at h
    refine hs.updateTable h fun n hn hname _ u hu => ?_
    rw [List.mem_singleton.1 hu]
    exact hnew n hn database (by simp [Table.replacementNames]) hname hsame
  · rw [if_neg hsame] at h
    obtain ⟨-, without, htake, hadd⟩ := h
    have hdatabases := SameDatabases.of_updateTable htake
    refine (hs.takeTable htake).addTable hadd fun n hn hname => ?_
    rw [hdatabases.databaseNames] at hn
    rw [hdatabases.caseMode] at hname
    exact hnew n hn new.database (by simp [Table.replacementNames]) hname
      (CaseMode.namesEqual_refl _ _)

theorem setTableCharsets (hcharset : ∀ n t charset, P n t → P n { t with charset })
    {charset : String} {tables : List String} {d d' : Database} (hd : d ∈ s.databases)
    (h : tables.foldlM (s.setTableCharset database charset) { d with charset } = .ok d') :
    d'.name = d.name ∧ ∀ t ∈ d'.tables, P d.name t := by
  refine foldlM_induction (motive := fun b => b.name = d.name ∧ ∀ t ∈ b.tables, P d.name t) h
    ⟨rfl, hs d hd⟩ fun b hb _ _ b' hb' => ?_
  obtain ⟨hsame, -, htables⟩ := Database.forall_updateTable hb' hb.2 fun t ht u hu => by
    rw [List.mem_singleton.1 hu]
    exact hcharset _ _ _ (hb.2 t ht)
  exact ⟨hsame.trans hb.1, htables⟩

/-- What holds of all tables is kept by a change if it holds of the tables that the change defines,
in each database where they may be put, and if other charsets do not matter. -/
theorem apply {c : Change} (h : c.apply s = .ok s')
    (hnew : ∀ n ∈ s.databaseNames, ∀ t ∈ c.definitions, ∀ a ∈ c.names,
      s.caseMode.namesEqual n a = true → s.caseMode.namesEqual a t.database = true → P n t)
    (hcharset : c.definitions = [] → ∀ n t charset, P n t → P n { t with charset }) :
    s'.AllTables P := by
  cases c with
  | createDatabase database charset =>
    rw [Change.apply] at h
    split at h
    · cases h
    · cases h
      rw [AllTables, Schema.addDatabase, List.forall_mem_append, List.forall_mem_singleton]
      exact ⟨hs, by simp⟩
  | alterDatabase database charset tables =>
    exact hs.updateDatabase h fun d hd _ _ hd' => hs.setTableCharsets (hcharset rfl) hd hd'
  | dropDatabase database =>
    obtain ⟨front, d, back, hd, -, -, rfl⟩ := removeDatabase_eq_ok_iff.1 h
    intro e he
    refine hs e ?_
    rw [hd, List.mem_append, List.mem_cons]
    exact (List.mem_append.1 he).imp_right .inr
  | createTable database table definition =>
    refine hs.addTable (insertTable_eq_ok_iff.1 h).2 fun n hn hname => ?_
    exact hnew n hn definition (by simp [Change.definitions]) definition.database
      (by simp [Change.names]) hname (CaseMode.namesEqual_refl _ _)
  | alterTable database table old definition =>
    exact hs.replaceTable h fun n hn => hnew n hn definition (by simp [Change.definitions])
  | dropTable database table => exact hs.takeTable h
  | renameTables renames =>
    -- Renaming keeps the databases, so that the definitions are put where they were to be put.
    refine (foldlM_induction (motive := fun s₁ => s₁.AllTables P ∧ s.SameDatabases s₁) h
      ⟨hs, .refl s⟩ fun s₁ hs₁ r hr s₂ hs₂ => ?_).1
    obtain ⟨hall, hsame⟩ := hs₁
    refine ⟨hall.replaceTable hs₂ fun n hn a ha => ?_, hsame.trans (.of_replaceTable hs₂)⟩
    rw [hsame.databaseNames] at hn
    rw [hsame.caseMode]
    exact hnew n hn r.definition (List.mem_map_of_mem hr) a (List.mem_flatMap.2 ⟨r, hr, ha⟩)

end Schema.AllTables

end SchemaTrail
