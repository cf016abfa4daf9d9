import Mathlib.Data.Finmap
import SchemaTrail.Proofs.ExcludedTables
import SchemaTrail.Proofs.NameKeys

/-!
# Schemas as finite maps

The catalogue of a schema has, under the key of each name, the database or table of that name: how
it is stored and, for a table, its body.  In a schema with distinct names of a coherent set, looking
up by name is looking up by key (`Schema.Named.lookup_tables`), and each update of a table shows in
the list of entries as one that is replaced, taken away or put in.
-/

namespace SchemaTrail

/-- All of a table but where it is. -/
structure TableBody where
  charset : String
  primaryKey : List String
  columns : ColumnList
  deriving DecidableEq, Repr

/-- The body of a table. -/
def Table.body (t : Table) : TableBody :=
  ⟨t.charset, t.primaryKey, t.columns⟩

@[simp] theorem Table.body_relocated (t : Table) (database name : String) :
    (t.relocated database name).body = t.body :=
  rfl

/-- The keys of the names of a table. -/
def TableName.key (mode : CaseMode) (w : TableName) : TableName :=
  ⟨mode.key w.database, mode.key w.table⟩

/-- If lists of entries with distinct keys differ in one entry, the one finite map has it in the
place of that of the other. -/
theorem toFinmap_eq_insert_erase {α : Type} {β : α → Type} [DecidableEq α] {a a' : α} {b : β a}
    {b' : β a'} {xs ys rest : List (Sigma β)} (hxs : xs.NodupKeys) (hys : ys.NodupKeys)
    (hx : xs.Perm (⟨a, b⟩ :: rest)) (hy : ys.Perm (⟨a', b'⟩ :: rest)) :
    ys.toFinmap = (xs.toFinmap.erase a).insert a' b' := by
  refine Finmap.ext_lookup fun k => ?_
  rw [Finmap.dlookup_list_toFinmap, List.perm_dlookup k hys hy]
  by_cases hk' : k = a'
  · subst hk'
    rw [List.dlookup_cons_eq, Finmap.lookup_insert]
  rw [List.dlookup_cons_ne _ _ hk', Finmap.lookup_insert_of_ne _ hk']
  by_cases hk : k = a
  · subst hk
    rw [Finmap.lookup_erase, List.dlookup_eq_none]
    exact List.notMem_keys_of_nodupKeys_cons ((List.perm_nodupKeys hx).1 hxs)
  · rw [Finmap.lookup_erase_ne hk, Finmap.dlookup_list_toFinmap, List.perm_dlookup k hxs hx,
      List.dlookup_cons_ne _ _ hk]

/-- The databases under the keys of their names, and the tables under those of their database and
name, each with the place where it is stored and with its body. -/
structure Catalogue where
  databases : Finmap fun _ : String => String
  tables : Finmap fun _ : TableName => TableName × TableBody

namespace Schema

/-- The entry of a table in a database. -/
def entry (mode : CaseMode) (database : String) (t : Table) :
    (_ : TableName) × (TableName × TableBody) :=
  ⟨⟨mode.key database, mode.key t.name⟩, t.place, t.body⟩

/-- The entries of the tables. -/
def entries (s : Schema) : List ((_ : TableName) × (TableName × TableBody)) :=
  s.databases.flatMap fun d => d.tables.map (entry s.caseMode d.name)

/-- The schema as finite maps. -/
def catalogue (s : Schema) : Catalogue :=
  ⟨(s.databaseNames.map fun name => ⟨s.caseMode.key name, name⟩).toFinmap, s.entries.toFinmap⟩

/-- The bodies of the tables. -/
def bodies (s : Schema) : List TableBody :=
  s.databases.flatMap fun d => d.tables.map Table.body

theorem bodies_eq (s : Schema) : s.bodies = s.entries.map fun e => e.2.2 := by
  rw [bodies, entries, List.map_flatMap]
  simp only [List.map_map]
  rfl

variable {names : String → Prop} {s s' : Schema} {d : Database} {t : Table} {w : TableName}

/-! ## Looking up -/

theorem mem_entries {e : (_ : TableName) × (TableName × TableBody)} :
    e ∈ s.entries ↔ ∃ d ∈ s.databases, ∃ t ∈ d.tables, entry s.caseMode d.name t = e := by
  simp only [entries, List.mem_flatMap, List.mem_map]

theorem NamesDistinct.nodupKeys (hs : s.NamesDistinct) : s.entries.NodupKeys := by
  rw [List.nodupKeys_iff_pairwise, entries, List.pairwise_flatMap]
  have hdatabases := CaseMode.distinct_iff_nodup_key.1 hs.databases
  rw [databaseNames, List.map_map, List.Nodup, List.pairwise_map] at hdatabases
  refine ⟨fun d hd => ?_, hdatabases.imp fun hne => ?_⟩
  · have htables := CaseMode.distinct_iff_nodup_key.1 (hs.tables d hd)
    rw [Database.tableNames, List.map_map, List.Nodup, List.pairwise_map] at htables
    rw [List.pairwise_map]
    exact htables.imp fun hne heq => hne (congrArg TableName.table heq)
  · rintro _ hx _ hy heq
    obtain ⟨t, -, rfl⟩ := List.mem_map.1 hx
    obtain ⟨u, -, rfl⟩ := List.mem_map.1 hy
    exact hne (congrArg TableName.database heq)

namespace Named

variable (hs : s.Named names)
include hs

theorem namesEqual_database_iff (hd : d ∈ s.databases) {a : String} (ha : names a) :
    s.caseMode.namesEqual d.name a = true ↔ s.caseMode.key d.name = s.caseMode.key a :=
  hs.coherent.namesEqual_iff (hs.name_mem hd) ha

/-- A database is looked up by its key. -/
theorem lookup_databases {a : String} (ha : names a) :
    s.catalogue.databases.lookup (s.caseMode.key a) = (s.database? a).map Database.name := by
  have hkeys : (s.databaseNames.map fun name =>
      (⟨s.caseMode.key name, name⟩ : (_ : String) × String)).NodupKeys := by
    have hdistinct := CaseMode.distinct_iff_nodup_key.1 hs.distinct.databases
    rw [List.Nodup, List.pairwise_map] at hdistinct
    rwa [List.nodupKeys_iff_pairwise, List.pairwise_map]
  refine Option.ext fun n => ?_
  rw [catalogue, Finmap.dlookup_list_toFinmap, ← Option.mem_def, List.mem_dlookup_iff hkeys,
    Option.map_eq_some_iff]
  simp only [hs.database?_eq_some_iff ha, databaseNames, List.map_map, List.mem_map,
    Function.comp_apply, Sigma.mk.injEq, heq_eq_eq, and_assoc]
  exact exists_congr fun d => and_congr_right fun hd =>
    and_congr_left fun _ => (hs.namesEqual_database_iff hd ha).symm

/-- A table is found by names that equal those of its database and its own. -/
theorem table?_iff_mem (hw : ∀ a ∈ w.names, names a) :
    s.table? w.database w.table = some t ↔ ∃ d ∈ s.databases, t ∈ d.tables ∧
      s.caseMode.key d.name = s.caseMode.key w.database ∧
        s.caseMode.key t.name = s.caseMode.key w.table := by
  have hdatabase : names w.database := hw _ (by simp [TableName.names])
  have htable : names w.table := hw _ (by simp [TableName.names])
  rw [table?, Option.bind_eq_some_iff]
  simp only [hs.database?_eq_some_iff hdatabase, and_assoc]
  refine exists_congr fun d => and_congr_right fun hd => ?_
  rw [hs.namesEqual_database_iff hd hdatabase, hs.table?_eq_some_iff hd htable, and_left_comm]
  refine and_congr_right fun ht => and_congr_right fun _ => ?_
  exact hs.coherent.namesEqual_iff (hs.tableName_mem hd ht) htable

/-- A table is looked up by its key. -/
theorem lookup_tables (hw : ∀ a ∈ w.names, names a) :
    s.catalogue.tables.lookup (w.key s.caseMode) =
      (s.table? w.database w.table).map fun t => (t.place, t.body) := by
  refine Option.ext fun v => ?_
  rw [catalogue, Finmap.dlookup_list_toFinmap, ← Option.mem_def,
    List.mem_dlookup_iff hs.distinct.nodupKeys, mem_entries, Option.map_eq_some_iff]
  simp only [hs.table?_iff_mem hw, entry, TableName.key, Sigma.mk.injEq, TableName.mk.injEq,
    heq_eq_eq]
  constructor
  · rintro ⟨d, hd, t, ht, hkey, rfl⟩
    exact ⟨t, ⟨d, hd, ht, hkey⟩, rfl⟩
  · rintro ⟨t, ⟨d, hd, ht, hkey⟩, rfl⟩
    exact ⟨d, hd, t, ht, hkey, rfl⟩

end Named

/-! ## Updating -/

variable {database table : String}

/-- An update of one database changes the entries of its tables. -/
theorem entries_updateDatabase {change : Database → Except InvariantError Database}
    (hname : ∀ d d', change d = .ok d' → d'.name = d.name)
    (h : s.updateDatabase database change = .ok s') :
    ∃ d d', s.caseMode.namesEqual d.name database = true ∧ change d = .ok d' ∧ ∃ front back,
      s.entries = front ++ d.tables.map (entry s.caseMode d.name) ++ back ∧
      s'.entries = front ++ d'.tables.map (entry s.caseMode d.name) ++ back := by
  obtain ⟨front, d, back, d', hd, -, hdatabase, hd', rfl⟩ := updateDatabase_eq_ok_iff.1 h
  let parts (ds : List Database) := ds.flatMap fun d => d.tables.map (entry s.caseMode d.name)
  refine ⟨d, d', hdatabase, hd', parts front, parts back, ?_, ?_⟩
  · simp [entries, hd, parts]
  · simp [entries, parts, hname d d' hd']

/-- An update of one table changes its entry. -/
theorem entries_updateTable {change : Table → List Table}
    (h : s.updateTable database table change = .ok s') :
    ∃ d t, s.caseMode.namesEqual d database = true ∧ s.caseMode.namesEqual t.name table = true ∧
      ∃ front back, s.entries = front ++ entry s.caseMode d t :: back ∧
        s'.entries = front ++ (change t).map (entry s.caseMode d) ++ back := by
  obtain ⟨d, d', hdatabase, hd', front, back, hs, hs'⟩ := entries_updateDatabase (fun d d' hd' => by
    obtain ⟨_, _, _, _, _, _, rfl⟩ := Database.updateTable_eq_ok_iff.1 hd'
    rfl) h
  obtain ⟨before, t, behind, ht, -, htable, rfl⟩ := Database.updateTable_eq_ok_iff.1 hd'
  let parts (ts : List Table) := ts.map (entry s.caseMode d.name)
  refine ⟨d.name, t, hdatabase, htable, front ++ parts before, parts behind ++ back, ?_, ?_⟩
  · simp [hs, ht, parts]
  · simp [hs', parts]

/-- A table that is added to its database has one more entry. -/
theorem entries_addTable (h : s.addTable t = .ok s') :
    ∃ d, s.caseMode.namesEqual d t.database = true ∧
      s'.entries.Perm (entry s.caseMode d t :: s.entries) := by
  obtain ⟨d, d', hdatabase, hd', front, back, hs, hs'⟩ := entries_updateDatabase (fun d d' hd' => by
    cases hd'
    rfl) h
  cases hd'
  refine ⟨d.name, hdatabase, ?_⟩
  rw [hs, hs', Database.addTable, List.map_append, List.map_singleton, ← List.append_assoc,
    List.append_assoc _ [_], List.singleton_append]
  exact List.perm_middle

theorem entry_eq {d : String} {w : TableName} (hd : s.caseMode.namesEqual d w.database = true)
    (ht : s.caseMode.namesEqual t.name w.table = true) :
    entry s.caseMode d t = ⟨w.key s.caseMode, t.place, t.body⟩ := by
  rw [entry, TableName.key, CaseMode.key_eq_of_namesEqual hd, CaseMode.key_eq_of_namesEqual ht]

/-- A table that is put in the place of another has its entry in the place of that of the other, be
it in the same database or not. -/
theorem entries_replaceTable {new : Table} (h : s.replaceTable w.database w.table new = .ok s') :
    ∃ (t : Table) (rest : List _), s.entries.Perm (⟨w.key s.caseMode, t.place, t.body⟩ :: rest) ∧
      s'.entries.Perm (⟨new.place.key s.caseMode, new.place, new.body⟩ :: rest) := by
  obtain ⟨-, -, h⟩ := replaceTable_eq_ok_iff.1 h
  have hrefl : s.caseMode.namesEqual new.name new.place.table = true :=
    CaseMode.namesEqual_refl _ _
  split at h
  · rename_i hdatabase
    obtain ⟨d, t, hd, ht, front, back, hs, hs'⟩ := entries_updateTable h
    have hnew : s.caseMode.namesEqual d new.place.database = true :=
      CaseMode.namesEqual_trans _ hd hdatabase
    rw [entry_eq hd ht] at hs
    rw [List.map_singleton, entry_eq hnew hrefl, List.append_assoc, List.singleton_append] at hs'
    exact ⟨t, front ++ back, hs ▸ List.perm_middle, hs' ▸ List.perm_middle⟩
  · obtain ⟨-, without, htake, hadd⟩ := h
    obtain ⟨d, t, hd, ht, front, back, hs, hwithout⟩ := entries_updateTable htake
    obtain ⟨e, he, hs'⟩ := entries_addTable hadd
    rw [caseMode_of_updateDatabase htake] at he hs'
    rw [entry_eq hd ht] at hs
    rw [entry_eq (w := new.place) he hrefl, hwithout, List.map_nil, List.append_nil] at hs'
    exact ⟨t, front ++ back, hs ▸ List.perm_middle, hs'⟩

end Schema

end SchemaTrail
