import SchemaTrail.Proofs.ChangedTables

/-!
# Schemas with distinct names

In a schema where no two databases and no two tables of a database have equal names, and all names
belong to a coherent set (`Schema.Named`), a name is looked up by membership: there is at most one
database or table that it equals, so that it does not matter which one comes first.  Changes keep
names distinct by themselves, whatever tables they define (`Schema.Named.apply`): only the names
that they use have to belong to the set.
-/

namespace SchemaTrail

open Outcome

/-! ## Definitions -/

/-- All names of databases and tables in the schema satisfy `p`. -/
def Schema.AllNames (p : String → Prop) (s : Schema) : Prop :=
  ∀ d ∈ s.databases, p d.name ∧ ∀ t ∈ d.tables, p t.name

/-- No two databases and no two tables of a database have equal names. -/
structure Schema.NamesDistinct (s : Schema) : Prop where
  databases : s.caseMode.Distinct s.databaseNames
  tables : ∀ d ∈ s.databases, s.caseMode.Distinct d.tableNames

/-- A schema with distinct names that belong to a coherent set. -/
structure Schema.Named (names : String → Prop) (s : Schema) : Prop where
  coherent : s.caseMode.Coherent names
  distinct : s.NamesDistinct
  allNames : s.AllNames names

namespace Schema.Named

variable {names : String → Prop} {s s' : Schema} (hs : s.Named names) {d e : Database}
  {t : Table} {a b database table : String}
include hs

/-! ## Looking up by membership -/

theorem name_mem (hd : d ∈ s.databases) : names d.name :=
  (hs.allNames d hd).1

theorem tableName_mem (hd : d ∈ s.databases) (ht : t ∈ d.tables) : names t.name :=
  (hs.allNames d hd).2 t ht

theorem databaseName_mem (h : a ∈ s.databaseNames) : names a := by
  obtain ⟨d, hd, rfl⟩ := List.mem_map.1 h
  exact hs.name_mem hd

/-- Two databases whose names equal the same name are the same. -/
theorem database_unique (ha : names a) (hd : d ∈ s.databases) (he : e ∈ s.databases)
    (hda : s.caseMode.namesEqual d.name a = true) (hea : s.caseMode.namesEqual e.name a = true) :
    d = e := by
  have hd' := hs.name_mem hd
  have he' := hs.name_mem he
  exact hs.distinct.databases.eq_of_namesEqual hd he
    (hs.coherent.trans hd' ha he' hda (hs.coherent.symm he' ha hea))

/-- Two names of databases that equal the same name are the same. -/
theorem databaseName_unique {m n : String} (ha : names a) (hm : m ∈ s.databaseNames)
    (hn : n ∈ s.databaseNames) (hma : s.caseMode.namesEqual m a = true)
    (hna : s.caseMode.namesEqual n a = true) : m = n := by
  obtain ⟨d, hd, rfl⟩ := List.mem_map.1 hm
  obtain ⟨e, he, rfl⟩ := List.mem_map.1 hn
  rw [hs.database_unique ha hd he hma hna]

theorem table_unique (hd : d ∈ s.databases) (ha : names a) {u : Table} (ht : t ∈ d.tables)
    (hu : u ∈ d.tables) (hta : s.caseMode.namesEqual t.name a = true)
    (hua : s.caseMode.namesEqual u.name a = true) : t = u := by
  have ht' := hs.tableName_mem hd ht
  have hu' := hs.tableName_mem hd hu
  exact (hs.distinct.tables d hd).eq_of_namesEqual ht hu
    (hs.coherent.trans ht' ha hu' hta (hs.coherent.symm hu' ha hua))

theorem database?_eq_some_iff (ha : names a) :
    s.database? a = some d ↔ d ∈ s.databases ∧ s.caseMode.namesEqual d.name a = true := by
  refine ⟨mem_of_database?, fun ⟨hd, hda⟩ => ?_⟩
  cases h : s.database? a with
  | none => exact absurd hda (by simpa using List.find?_eq_none.1 h d hd)
  | some e =>
    obtain ⟨he, hea⟩ := mem_of_database? h
    rw [hs.database_unique ha hd he hda hea]

theorem table?_eq_some_iff (hd : d ∈ s.databases) (ha : names a) :
    d.table? s.caseMode a = some t ↔ t ∈ d.tables ∧ s.caseMode.namesEqual t.name a = true := by
  refine ⟨Database.mem_of_table?, fun ⟨ht, hta⟩ => ?_⟩
  cases h : d.table? s.caseMode a with
  | none => exact absurd hta (by simpa using List.find?_eq_none.1 h t ht)
  | some u =>
    obtain ⟨hu, hua⟩ := Database.mem_of_table? h
    rw [hs.table_unique hd ha ht hu hta hua]

theorem database?_name (hd : d ∈ s.databases) : s.database? d.name = some d :=
  (hs.database?_eq_some_iff (hs.name_mem hd)).2 ⟨hd, CaseMode.namesEqual_refl _ _⟩

theorem database?_isSome (ha : a ∈ s.databaseNames) : ∃ d, s.database? a = some d := by
  obtain ⟨d, hd, rfl⟩ := List.mem_map.1 ha
  exact ⟨d, hs.database?_name hd⟩

/-- Equal names find the same database. -/
theorem database?_congr (ha : names a) (hb : names b) (h : s.caseMode.namesEqual a b = true) :
    s.database? a = s.database? b := by
  refine Option.ext fun d => ?_
  rw [hs.database?_eq_some_iff ha, hs.database?_eq_some_iff hb]
  exact and_congr_right fun hd => by rw [hs.coherent.congr_right ha hb (hs.name_mem hd) h]

theorem hasTable_eq_false_iff (hd : d ∈ s.databases) (ha : names a)
    (hda : s.caseMode.namesEqual d.name a = true) :
    s.hasTable a b = false ↔ ∀ t ∈ d.tables, s.caseMode.namesEqual t.name b = false := by
  rw [hasTable, table?, (hs.database?_eq_some_iff ha).2 ⟨hd, hda⟩, Option.bind_some,
    Database.table?, List.isSome_find?, List.any_eq_false]
  simp

/-! ## Updating -/

/-- An update of one database that keeps its name and keeps the names of its tables distinct. -/
theorem updateDatabase {change : Database → Except InvariantError Database}
    (h : s.updateDatabase database change = .ok s')
    (hname : ∀ d d', change d = .ok d' → d'.name = d.name)
    (hchange : ∀ d ∈ s.databases, s.caseMode.namesEqual d.name database = true →
      ∀ d', change d = .ok d' →
        s.caseMode.Distinct d'.tableNames ∧ ∀ a ∈ d'.tableNames, names a) :
    s'.Named names := by
  have hsame := SameDatabases.of_updateDatabase h hname
  have hdistinct := forall_updateDatabase h hs.distinct.tables
    fun d hd heq d' hd' => (hchange d hd heq d' hd').1
  have hnames := forall_updateDatabase h hs.allNames fun d hd heq d' hd' =>
    ⟨hname d d' hd' ▸ hs.name_mem hd, List.forall_mem_map.1 (hchange d hd heq d' hd').2⟩
  rw [← hsame.caseMode] at hdistinct
  refine ⟨?_, ⟨?_, hdistinct⟩, hnames⟩
  · rw [hsame.caseMode]
    exact hs.coherent
  · rw [hsame.caseMode, hsame.databaseNames]
    exact hs.distinct.databases

/-- An update of one table that puts in tables of names that the other tables do not have. -/
theorem updateTable {change : Table → List Table}
    (h : s.updateTable database table change = .ok s')
    (hchange : ∀ d ∈ s.databases, s.caseMode.namesEqual d.name database = true →
      ∀ front t back, d.tables = front ++ t :: back →
        s.caseMode.namesEqual t.name table = true →
        s.caseMode.Distinct ((front ++ change t ++ back).map Table.name) ∧
          ∀ u ∈ change t, names u.name) : s'.Named names := by
  refine hs.updateDatabase h (fun d d' hd' => ?_) fun d hd heq d' hd' => ?_
  · obtain ⟨_, _, _, _, _, _, rfl⟩ := Database.updateTable_eq_ok_iff.1 hd'
    rfl
  · obtain ⟨front, t, back, htables, -, hname, rfl⟩ := Database.updateTable_eq_ok_iff.1 hd'
    obtain ⟨hdistinct, hnew⟩ := hchange d hd heq front t back htables hname
    refine ⟨hdistinct, List.forall_mem_map.2 fun u hu => ?_⟩
    have hold := (hs.allNames d hd).2
    rw [htables] at hold
    simp only [List.forall_mem_append, List.forall_mem_cons] at hold
    simp only [List.mem_append] at hu
    rcases hu with (hu | hu) | hu
    · exact hold.1 u hu
    · exact hnew u hu
    · exact hold.2.2 u hu

/-- The names of the tables beside one are distinct, and none equals that of the table. -/
theorem distinct_split {front back : List Table} (hd : d ∈ s.databases)
    (htables : d.tables = front ++ t :: back) :
    s.caseMode.Distinct ((front ++ back).map Table.name) ∧
      ∀ u ∈ front ++ back, s.caseMode.namesEqual u.name t.name = false := by
  have hdistinct := hs.distinct.tables d hd
  rw [Database.tableNames, htables, List.map_append, List.map_cons,
    CaseMode.Distinct.split_iff, ← List.map_append] at hdistinct
  exact ⟨hdistinct.1, fun u hu => (hdistinct.2 u.name (List.mem_map_of_mem hu)).1⟩

theorem takeTable (h : s.updateTable database table (fun _ => []) = .ok s') : s'.Named names :=
  hs.updateTable h fun d hd _ front t back htables _ => by
    rw [List.append_nil]
    exact ⟨(hs.distinct_split hd htables).1, by simp⟩

/-- An update that adds a table of a name that its database does not have. -/
theorem addTable (hname : names t.name)
    (hnew : ∀ d ∈ s.databases, s.caseMode.namesEqual d.name t.database = true →
      ∀ u ∈ d.tables, s.caseMode.namesEqual u.name t.name = false)
    (h : s.addTable t = .ok s') : s'.Named names := by
  refine hs.updateDatabase h (fun d d' hd' => ?_) fun d hd heq d' hd' => ?_
  · cases hd'
    rfl
  · cases hd'
    rw [Database.tableNames, Database.addTable, List.map_append, List.map_singleton,
      CaseMode.Distinct.append_singleton_iff, List.forall_mem_append, List.forall_mem_singleton]
    refine ⟨⟨hs.distinct.tables d hd, List.forall_mem_map.2 fun u hu => ?_⟩,
      List.forall_mem_map.2 fun u hu => hs.tableName_mem hd hu, hname⟩
    have hu' := hnew d hd heq u hu
    exact ⟨hu', by rw [hs.coherent.comm hname (hs.tableName_mem hd hu), hu']⟩

theorem insertTable (hdatabase : names t.database) (hname : names t.name)
    (h : s.insertTable t = .ok s') : s'.Named names := by
  obtain ⟨hfree, h⟩ := insertTable_eq_ok_iff.1 h
  exact hs.addTable hname
    (fun d hd heq => (hs.hasTable_eq_false_iff hd hdatabase heq).1 hfree) h

/-- An update that puts a table in the place of another of the same database. -/
theorem putTable {new : Table} (hnames : ∀ a ∈ new.replacementNames database table, names a)
    (hsame : s.caseMode.namesEqual database new.database = true)
    (hfree : s.caseMode.namesEqual table new.name = true ∨
      s.hasTable new.database new.name = false)
    (h : s.updateTable database table (fun _ => [new]) = .ok s') : s'.Named names := by
  simp only [Table.replacementNames, List.forall_mem_cons] at hnames
  obtain ⟨hdatabase, htable, hnewDatabase, hnewName, -⟩ := hnames
  refine hs.updateTable h fun d hd heq front t back htables hname => ?_
  have hmem : ∀ u ∈ front ++ back, u ∈ d.tables := fun u hu => by
    rw [htables, List.mem_append, List.mem_cons]
    exact (List.mem_append.1 hu).imp_right .inr
  have ht : names t.name := hs.tableName_mem hd (by rw [htables]; simp)
  obtain ⟨hdistinct, hother⟩ := hs.distinct_split hd htables
  have hnew : ∀ u ∈ front ++ back, s.caseMode.namesEqual u.name new.name = false := by
    intro u hu
    have hu' := hs.tableName_mem hd (hmem u hu)
    rcases hfree with hfree | hfree
    · -- The new name equals that of the replaced table, which no other table has.
      rw [← hs.coherent.congr_right htable hnewName hu' hfree,
        ← hs.coherent.congr_right ht htable hu' hname]
      exact hother u hu
    · rw [hs.coherent.congr_right hdatabase hnewDatabase (hs.name_mem hd) hsame] at heq
      exact (hs.hasTable_eq_false_iff hd hnewDatabase heq).1 hfree u (hmem u hu)
  refine ⟨?_, List.forall_mem_singleton.2 hnewName⟩
  rw [List.append_assoc, List.singleton_append, List.map_append, List.map_cons,
    CaseMode.Distinct.split_iff, ← List.map_append]
  refine ⟨hdistinct, List.forall_mem_map.2 fun u hu => ⟨hnew u hu, ?_⟩⟩
  rw [hs.coherent.comm hnewName (hs.tableName_mem hd (hmem u hu)), hnew u hu]

theorem replaceTable {new : Table} (hnames : ∀ a ∈ new.replacementNames database table, names a)
    (h : s.replaceTable database table new = .ok s') : s'.Named names := by
  obtain ⟨-, hfree, h⟩ := replaceTable_eq_ok_iff.1 h
  rw [Bool.and_eq_true] at hfree
  by_cases hsame : s.caseMode.namesEqual database new.database = true
  · rw [if_pos hsame] at h
    exact hs.putTable hnames hsame (hfree.imp_left And.right) h
  · rw [if_neg hsame] at h
    obtain ⟨-, without, htake, hadd⟩ := h
    have hfree : s.hasTable new.database new.name = false :=
      hfree.resolve_left fun hboth => hsame hboth.1
    simp only [Table.replacementNames, List.forall_mem_cons] at hnames
    obtain ⟨-, -, hnewDatabase, hnewName, -⟩ := hnames
    -- Without the table there is still none of the new name.
    have hall : s.AllTables fun n t => s.caseMode.namesEqual n new.database = true →
        s.caseMode.namesEqual t.name new.name = false :=
      fun d hd t ht heq => (hs.hasTable_eq_false_iff hd hnewDatabase heq).1 hfree t ht
    have hwithout := hall.takeTable htake
    refine (hs.takeTable htake).addTable hnewName (fun d hd heq t ht => ?_) hadd
    rw [(SameDatabases.of_updateTable htake).caseMode] at heq ⊢
    exact hwithout d hd t ht heq

theorem createDatabase {charset : String} (hdatabase : names database)
    (hnew : s.hasDatabase database = false) :
    (s.addDatabase ⟨database, charset, []⟩).Named names := by
  have hnone : ∀ d ∈ s.databases, s.caseMode.namesEqual d.name database = false := by
    simpa using List.any_eq_false.1 hnew
  refine ⟨hs.coherent, ⟨?_, ?_⟩, ?_⟩
  · rw [databaseNames, Schema.addDatabase, List.map_append, List.map_singleton,
      CaseMode.Distinct.append_singleton_iff]
    refine ⟨hs.distinct.databases, List.forall_mem_map.2 fun d hd => ⟨hnone d hd, ?_⟩⟩
    rw [hs.coherent.comm hdatabase (hs.name_mem hd), hnone d hd]
  · rw [Schema.addDatabase, List.forall_mem_append, List.forall_mem_singleton]
    exact ⟨hs.distinct.tables, .nil⟩
  · rw [AllNames, Schema.addDatabase, List.forall_mem_append, List.forall_mem_singleton]
    exact ⟨hs.allNames, hdatabase, by simp⟩

theorem removeDatabase (h : s.removeDatabase database = .ok s') : s'.Named names := by
  obtain ⟨front, d, back, hd, -, -, rfl⟩ := removeDatabase_eq_ok_iff.1 h
  have hmem : ∀ e ∈ front ++ back, e ∈ s.databases := fun e he => by
    rw [hd, List.mem_append, List.mem_cons]
    exact (List.mem_append.1 he).imp_right .inr
  refine ⟨hs.coherent, ⟨?_, fun e he => hs.distinct.tables e (hmem e he)⟩,
    fun e he => hs.allNames e (hmem e he)⟩
  have hdistinct := hs.distinct.databases
  rw [databaseNames, hd, List.map_append, List.map_cons, CaseMode.Distinct.split_iff] at hdistinct
  rw [databaseNames, List.map_append]
  exact hdistinct.1

/-! ## Applying -/

/-- Applying a change whose names belong to the set keeps names distinct. -/
theorem apply {c : Change} (hc : ∀ a ∈ c.names, names a) (h : c.apply s = .ok s') :
    s'.Named names := by
  cases c with
  | createDatabase database charset =>
    rw [Change.apply] at h
    by_cases hthere : s.hasDatabase database = true
    · rw [if_pos hthere] at h
      cases h
    · rw [if_neg hthere] at h
      cases h
      exact hs.createDatabase (hc database (by simp [Change.names])) (Bool.eq_false_iff.2 hthere)
  | alterDatabase database charset tables =>
    refine hs.updateDatabase h (fun d d' hd' => (setTableCharsets_names hd').1)
      fun d hd _ d' hd' => ?_
    rw [(setTableCharsets_names hd').2]
    exact ⟨hs.distinct.tables d hd, List.forall_mem_map.2 fun t ht => hs.tableName_mem hd ht⟩
  | dropDatabase database => exact hs.removeDatabase h
  | createTable database table definition =>
    simp only [Change.names, List.forall_mem_cons] at hc
    exact hs.insertTable hc.1 hc.2.1 h
  | alterTable database table old definition => exact hs.replaceTable hc h
  | dropTable database table => exact hs.takeTable h
  | renameTables renames =>
    exact foldlM_induction (motive := Named names) h hs fun s₁ hs₁ r hr s₂ hs₂ =>
      hs₁.replaceTable (fun a ha => hc a (List.mem_flatMap.2 ⟨r, hr, ha⟩)) hs₂

end Schema.Named

end SchemaTrail
