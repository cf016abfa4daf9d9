import SchemaTrail.Proofs.ResolvedRequests
import SchemaTrail.Proofs.SoundChanges

/-!
# Resolved changes fit and apply

A request is resolved by looking up the names that are written in it, while a change is applied by
looking up the names that are stored.  In a sound schema both find the same databases and tables, so
that the change that a request resolves to fits the schema (`Change.Fits`) and can be applied to it.
-/

namespace SchemaTrail

open Outcome

/-! ## Names in requests -/

/-- The names of a table and of its database. -/
def TableName.names (t : TableName) : List String :=
  [t.database, t.table]

/-- The names of databases and tables that are written in a request. -/
def Request.names : Request → List String
  | .createDatabase database _ _ | .alterDatabase database _ | .dropDatabase database _ =>
    [database]
  | .createTable name (.like source) _ _ => name.names ++ source.names
  | .createTable name (.columns _ _) _ _ => name.names
  | .alterTable name edit => name.names ++ edit.newName.elim [] TableName.names
  | .dropTable name _ => name.names
  | .renameTables renames => renames.flatMap fun r => r.1.names ++ r.2.names

/-! ## Updates that succeed -/

namespace Schema.Sound

variable {names : String → Prop} {s s' : Schema}

/-- A schema with stored names of a coherent set is sound for the whole set. -/
theorem of_stored (h : s.caseMode.Coherent names) (hs : s.Sound (s.caseMode.Stored names)) :
    s.Sound names :=
  ⟨h, hs.wellFormed, fun _ hd => ⟨(hs.name_mem hd).1, fun _ ht => (hs.tableName_mem hd ht).1⟩⟩

variable (hs : s.Sound names) {a b database table : String} {d : Database} {t new : Table}
include hs

theorem database_eq (hd : s.database? a = some d) (ht : d.table? s.caseMode b = some t) :
    t.database = d.name :=
  (hs.wellFormed.databases d (mem_of_database? hd).1).database_eq t (Database.mem_of_table? ht).1

/-- A table that is found fits the schema that has it. -/
theorem fitsIn_of_requireTable (h : s.requireTable a b = .ok t) : t.FitsIn names s := by
  obtain ⟨d, hd, ht⟩ := requireTable_eq_ok_iff.1 h
  have hdatabase := hs.database_eq hd ht
  have hd := (mem_of_database? hd).1
  have ht := (Database.mem_of_table? ht).1
  exact ⟨hdatabase ▸ List.mem_map_of_mem hd, hs.tableName_mem hd ht,
    (hs.wellFormed.databases d hd).columns_distinct t ht⟩

theorem replaceTable_succeeds (hfit : new.FitsIn names s)
    (hthere : s.requireTable database table = .ok t)
    (hfree : (s.caseMode.namesEqual database new.database &&
      s.caseMode.namesEqual table new.name) = true ∨ s.hasTable new.database new.name = false) :
    ∃ s', s.replaceTable database table new = .ok s' := by
  by_cases hsame : s.caseMode.namesEqual database new.database = true
  · obtain ⟨s', hs'⟩ := updateTable_of_requireTable hthere fun _ => [new]
    exact ⟨s', replaceTable_eq_ok_iff.2 ⟨⟨t, hthere⟩, hfree, by rwa [if_pos hsame]⟩⟩
  · obtain ⟨without, hwithout⟩ := updateTable_of_requireTable hthere fun _ => []
    have hdatabases := SameDatabases.of_updateTable hwithout
    obtain ⟨d, hd⟩ := (hs.takeTable hwithout).named.database?_isSome
      (hdatabases.databaseNames ▸ hfit.database_mem)
    have hadd : ∃ s', without.addTable new = .ok s' := updateDatabase_of_database? hd rfl
    obtain ⟨s', hs'⟩ := hadd
    refine ⟨s', replaceTable_eq_ok_iff.2 ⟨⟨t, hthere⟩, hfree, ?_⟩⟩
    rw [if_neg hsame]
    exact ⟨hs.named.database?_isSome hfit.database_mem, without, hwithout, hs'⟩

end Schema.Sound

/-- A change that fits a schema and can be applied to it. -/
structure Change.Applicable (names : String → Prop) (s : Schema) (c : Change) : Prop where
  fits : c.Fits names s
  succeeds : ∃ s', c.apply s = .ok s'

/-- Followers are tables of the database, and stay so while their charsets change. -/
theorem Schema.setTableCharsets_succeeds (s : Schema) (database charset : String) {d b : Database}
    {tables : List String} (htables : ∀ a ∈ tables, a ∈ d.tableNames)
    (hb : b.tableNames = d.tableNames) :
    ∃ d', tables.foldlM (s.setTableCharset database charset) b = .ok d' := by
  refine foldlM_succeeds (motive := fun b => b.tableNames = d.tableNames) hb fun b hb a ha => ?_
  obtain ⟨t, ht, rfl⟩ := List.mem_map.1 (hb ▸ htables a ha)
  obtain ⟨u, hu⟩ : ∃ u, b.table? s.caseMode t.name = some u :=
    Option.isSome_iff_exists.1 (List.find?_isSome.2 ⟨t, ht, s.caseMode.namesEqual_refl t.name⟩)
  obtain ⟨b', hb'⟩ := b.updateTable_of_table? hu (.tableNotFound database t.name)
    fun t => [{ t with charset }]
  obtain ⟨front, v, back, hfront, rfl⟩ := setTableCharset_eq_ok hb'
  refine ⟨_, hb', ?_⟩
  rw [← hb, Database.tableNames, Database.tableNames, hfront]
  simp

theorem Schema.Sound.alterDatabase_succeeds {names : String → Prop} {s : Schema}
    (hs : s.Sound names) {d : Database} (hd : d ∈ s.databases) (charset : String)
    {tables : List String} (htables : ∀ a ∈ tables, a ∈ d.tableNames) :
    ∃ s', (Change.alterDatabase d.name charset tables).apply s = .ok s' := by
  obtain ⟨d', hd'⟩ :=
    s.setTableCharsets_succeeds d.name charset (b := { d with charset }) htables rfl
  exact Schema.updateDatabase_of_database? (hs.named.database?_name hd) hd'

namespace Request

variable {config : Config} {names : String → Prop} {s : Schema}
  (hmode : config.caseMode = s.caseMode) (hnames : s.caseMode.Coherent names)
  (hs : s.Sound (s.caseMode.Stored names)) {c : Change}

/-! ## Requests about databases -/

section Databases

variable {database : String} {d : Database}

include hmode hnames hs in
theorem createDatabase_applicable (hdatabase : names database)
    (hnew : s.hasDatabase database = false) (charset : String) :
    (Change.createDatabase (config.caseMode.storedName database) charset).Applicable
      (s.caseMode.Stored names) s := by
  rw [hmode]
  have hstored : s.hasDatabase (s.caseMode.storedName database) = false := by
    rw [Schema.hasDatabase_eq_isSome,
      (hs.of_stored hnames).named.database?_congr (hnames.stored hdatabase) hdatabase
        (hnames.namesEqual_stored hdatabase), ← Schema.hasDatabase_eq_isSome, hnew]
  exact ⟨hnames.stored_storedName hdatabase, _, by rw [Change.apply, hstored]; rfl⟩

include hs in
theorem alterDatabase_applicable (hd : s.database? database = some d) (charset : String) :
    (Change.alterDatabase d.name charset (config.followers d charset)).Applicable
      (s.caseMode.Stored names) s := by
  refine ⟨trivial, hs.alterDatabase_succeeds (Schema.mem_of_database? hd).1 charset ?_⟩
  rw [Config.followers]
  cases config.cascade with
  | never => simp
  | inheriting =>
    intro a ha
    obtain ⟨t, ht, rfl⟩ := List.mem_map.1 ha
    exact List.mem_map_of_mem (List.mem_filter.1 ht).1

include hs in
theorem dropDatabase_applicable (hd : s.database? database = some d) :
    (Change.dropDatabase d.name).Applicable (s.caseMode.Stored names) s :=
  ⟨trivial, Schema.removeDatabase_of_database?
    (hs.named.database?_name (Schema.mem_of_database? hd).1)⟩

end Databases

/-! ## New places -/

include hmode hnames hs in
/-- The stored name of a table that there is not under its written name is free. -/
theorem hasTable_stored {d : Database} {a : String} (hd : d ∈ s.databases) (ha : names a)
    (hnew : d.hasTable s.caseMode a = false) :
    s.hasTable d.name (config.caseMode.storedName a) = false := by
  have hs := (hs.of_stored hnames).named
  rw [hmode, hs.hasTable_eq_false_iff hd (hs.name_mem hd) (CaseMode.namesEqual_refl _ _)]
  intro t ht
  rw [hnames.congr_right (hnames.stored ha) ha (hs.tableName_mem hd ht)
    (hnames.namesEqual_stored ha)]
  simpa using List.any_eq_false.1 hnew t ht

/-- A place of the schema where there is no table. -/
structure FreePlace (names : String → Prop) (s : Schema) (place : TableName) : Prop where
  database_mem : place.database ∈ s.databaseNames
  name_mem : names place.table
  free : s.hasTable place.database place.table = false

theorem FreePlace.fitsIn {place : TableName} (hplace : FreePlace names s place) {t : Table}
    (ht : t.ColumnsDistinct) : (t.relocated place.database place.table).FitsIn names s :=
  ⟨hplace.database_mem, hplace.name_mem, ht⟩

include hmode hnames hs in
theorem storedPlace_free {d : Database} {written : TableName} (hd : d ∈ s.databases)
    (hwritten : ∀ a ∈ written.names, names a)
    (hnew : d.hasTable s.caseMode written.table = false) :
    FreePlace (s.caseMode.Stored names) s
      ⟨d.name, config.caseMode.storedName written.table⟩ := by
  have htable := hwritten written.table (by simp [TableName.names])
  refine ⟨List.mem_map_of_mem hd, ?_, hasTable_stored hmode hnames hs hd htable hnew⟩
  rw [hmode]
  exact hnames.stored_storedName htable

include hmode hnames hs in
theorem newPlace_free {written place : TableName} (hwritten : ∀ a ∈ written.names, names a)
    (h : newPlace config s written = .ok place) :
    FreePlace (s.caseMode.Stored names) s place := by
  obtain ⟨d, hd, hnew, rfl⟩ := newPlace_eq_ok_iff.1 h
  exact storedPlace_free hmode hnames hs (Schema.mem_of_database? hd).1 hwritten hnew

/-! ## Requests about tables -/

include hs in
theorem newTable_columnsDistinct {d : Database} {written : TableName} {source : TableSource}
    {charset : Option String} {t : Table}
    (h : newTable config s d written source charset = .ok t) : t.ColumnsDistinct := by
  cases source with
  | columns columns primaryKey =>
    obtain ⟨hrepeated, rfl⟩ := newTable_columns_eq_ok_iff.1 h
    exact Table.columnsDistinct_create hrepeated
  | like source =>
    obtain ⟨u, hu, rfl⟩ := newTable_like_eq_ok_iff.1 h
    exact (hs.fitsIn_of_requireTable hu).columns_distinct

include hmode hnames hs in
theorem createTable_applicable {d : Database} {written : TableName} {source : TableSource}
    {charset : Option String} {t : Table} (hwritten : ∀ a ∈ written.names, names a)
    (hd : s.database? written.database = some d)
    (hnew : d.hasTable s.caseMode written.table = false)
    (ht : newTable config s d written source charset = .ok t) :
    (Change.createTable d.name t.name t).Applicable (s.caseMode.Stored names) s := by
  have hd := (Schema.mem_of_database? hd).1
  have hplace := storedPlace_free hmode hnames hs hd hwritten hnew
  obtain ⟨hdatabase, hname⟩ := place_of_newTable ht
  rw [← hdatabase, ← hname] at hplace
  have hfound := hs.named.database?_name hd
  rw [← hdatabase] at hfound
  refine ⟨⟨hplace.database_mem, hplace.name_mem, newTable_columnsDistinct hs ht⟩, ?_⟩
  obtain ⟨s', hs'⟩ : ∃ s', s.addTable t = .ok s' := Schema.updateDatabase_of_database? hfound rfl
  exact ⟨s', Schema.insertTable_eq_ok_iff.2 ⟨hplace.free, hs'⟩⟩

/-- Editing leaves a table where the new name puts it. -/
theorem editedTable_samePlace {old new : Table} {edit : TableEdit}
    (h : editedTable config s old edit = .ok new) :
    ∃ renamed, renamedTable config s old edit.newName = .ok renamed ∧ renamed.SamePlace new := by
  obtain ⟨renamed, hrenamed, edited, hedited, rfl⟩ := editedTable_eq_ok_iff.1 h
  obtain ⟨hdatabase, hname, hdistinct⟩ := Table.editColumns_samePlace hedited
  refine ⟨renamed, hrenamed, ?_⟩
  cases edit.convertTo with
  | none => exact ⟨hdatabase, hname, hdistinct⟩
  | some charset => exact ⟨hdatabase, hname, fun h => (hdistinct h).convertTo charset⟩

include hmode hnames hs in
/-- A renamed table fits, and no other table has its name. -/
theorem renamedTable_fits {old renamed : Table} {newName : Option TableName}
    (hnewName : ∀ a ∈ newName.elim [] TableName.names, names a)
    (hold : old.FitsIn (s.caseMode.Stored names) s)
    (h : renamedTable config s old newName = .ok renamed) :
    renamed.FitsIn (s.caseMode.Stored names) s ∧
      ((s.caseMode.namesEqual old.database renamed.database &&
        s.caseMode.namesEqual old.name renamed.name) = true ∨
          s.hasTable renamed.database renamed.name = false) := by
  have hstay : (s.caseMode.namesEqual old.database old.database &&
      s.caseMode.namesEqual old.name old.name) = true := by simp
  cases newName with
  | none =>
    cases h
    exact ⟨hold, .inl hstay⟩
  | some written =>
    have h := renamedTable_some_eq_ok_iff.1 h
    split at h
    · subst h
      exact ⟨hold, .inl hstay⟩
    · obtain ⟨place, hplace, rfl⟩ := h
      have hfree := newPlace_free hmode hnames hs hnewName hplace
      exact ⟨hfree.fitsIn hold.columns_distinct, .inr hfree.free⟩

include hmode hnames hs in
theorem editedTable_fits {old new : Table} {edit : TableEdit}
    (hnewName : ∀ a ∈ edit.newName.elim [] TableName.names, names a)
    (hold : old.FitsIn (s.caseMode.Stored names) s)
    (h : editedTable config s old edit = .ok new) :
    new.FitsIn (s.caseMode.Stored names) s ∧
      ((s.caseMode.namesEqual old.database new.database &&
        s.caseMode.namesEqual old.name new.name) = true ∨
          s.hasTable new.database new.name = false) := by
  obtain ⟨renamed, hrenamed, hsame⟩ := editedTable_samePlace h
  obtain ⟨hfit, hfree⟩ := renamedTable_fits hmode hnames hs hnewName hold hrenamed
  rw [hsame.database, hsame.name]
  refine ⟨⟨hsame.database ▸ hfit.database_mem, hsame.name ▸ hfit.name_mem, ?_⟩, hfree⟩
  exact hsame.columns_distinct hfit.columns_distinct

include hmode hnames hs in
theorem alterTable_applicable {written : TableName} {edit : TableEdit} {old new : Table}
    (hnewName : ∀ a ∈ edit.newName.elim [] TableName.names, names a)
    (hold : s.requireTable written.database written.table = .ok old)
    (hnew : editedTable config s old edit = .ok new) :
    (Change.alterTable old.database old.name old new).Applicable (s.caseMode.Stored names) s := by
  have hfound := hs.fitsIn_of_requireTable hold
  obtain ⟨hfit, hfree⟩ := editedTable_fits hmode hnames hs hnewName hfound hnew
  exact ⟨⟨hs.named.databaseName_mem hfound.database_mem, hfound.name_mem, hfit⟩,
    hs.replaceTable_succeeds hfit (hs.requireTable_stored hold) hfree⟩

/-! ## Renaming tables -/

include hmode hnames hs in
theorem resolveRename_fits {source target : TableName} {r : Rename}
    (htarget : ∀ a ∈ target.names, names a)
    (h : resolveRename config s source target = .ok r) :
    s.caseMode.Stored names r.database ∧ s.caseMode.Stored names r.table ∧
      r.definition.FitsIn (s.caseMode.Stored names) s := by
  obtain ⟨t, ht, place, hplace, rfl⟩ := resolveRename_eq_ok_iff.1 h
  have hfound := hs.fitsIn_of_requireTable ht
  exact ⟨hs.named.databaseName_mem hfound.database_mem, hfound.name_mem,
    (newPlace_free hmode hnames hs htarget hplace).fitsIn hfound.columns_distinct⟩

/-- Resolving tables that are renamed goes through the schemas that applying the renames goes
through. -/
theorem resolveRenames_fits {renames : List (TableName × TableName)} {resolved : List Rename}
    (hmode : config.caseMode = s.caseMode) (hnames : s.caseMode.Coherent names)
    (hs : s.Sound (s.caseMode.Stored names))
    (htargets : ∀ r ∈ renames, ∀ a ∈ r.2.names, names a)
    (h : resolveRenames config s renames = .ok resolved) :
    (∀ r ∈ resolved, s.caseMode.Stored names r.database ∧ s.caseMode.Stored names r.table ∧
      r.definition.FitsIn (s.caseMode.Stored names) s) ∧
    ∃ s', resolved.foldlM Schema.rename s = .ok s' := by
  induction renames generalizing s resolved with
  | nil =>
    cases h
    exact ⟨by simp, s, rfl⟩
  | cons p renames ih =>
    rw [List.forall_mem_cons] at htargets
    obtain ⟨r, hr, next, hnext, others, hothers, rfl⟩ := resolveRenames_cons_eq_ok_iff.1 h
    have hfit := resolveRename_fits hmode hnames hs htargets.1 hr
    -- The next rename is resolved in `next`, which is sound and has the same mode and databases.
    have hsound := hs.replaceTable hfit.2.2 hfit.1 hfit.2.1 hnext
    have hsame := Schema.SameDatabases.of_replaceTable hnext
    rw [← hsame.caseMode] at hmode hnames hfit hsound
    obtain ⟨hrest, s', hs'⟩ := ih hmode hnames hsound htargets.2 hothers
    rw [← hsame.caseMode, List.forall_mem_cons]
    refine ⟨⟨hfit, fun q hq => ?_⟩, s', ?_⟩
    · obtain ⟨hdatabase, htable, hdefinition⟩ := hrest q hq
      exact ⟨hdatabase, htable, hdefinition.of_sameDatabases hsame.symm⟩
    · rw [List.foldlM_cons, bind_eq_ok_iff]
      exact ⟨next, hnext, hs'⟩

/-! ## All requests -/

include hmode hnames hs in
/-- What a request resolves to fits the schema and can be applied to it. -/
theorem resolve_applicable {r : Request} (hr : ∀ a ∈ r.names, names a)
    (h : r.resolve config s = .ok (some c)) : c.Applicable (s.caseMode.Stored names) s := by
  cases resolve_eq_some_iff.1 h with
  | createDatabase hnew =>
    exact createDatabase_applicable hmode hnames hs (hr _ (by simp [Request.names])) hnew _
  | alterDatabase hd => exact alterDatabase_applicable hs hd _
  | dropDatabase hd => exact dropDatabase_applicable hs hd
  | @createTable name source _ _ _ _ hd hnew ht =>
    refine createTable_applicable hmode hnames hs (fun a ha => hr a ?_) hd hnew ht
    cases source with
    | columns columns primaryKey => exact ha
    | like other => exact List.mem_append_left _ ha
  | alterTable hold hnew =>
    exact alterTable_applicable hmode hnames hs (fun a ha => hr a (List.mem_append_right _ ha))
      hold hnew
  | dropTable ht =>
    exact ⟨trivial, Schema.updateTable_of_requireTable (hs.requireTable_stored ht) fun _ => []⟩
  | renameTables hresolved =>
    obtain ⟨hfits, happlies⟩ := resolveRenames_fits hmode hnames hs (fun p hp a ha => hr a <|
      List.mem_flatMap.2 ⟨p, hp, List.mem_append_right _ ha⟩) hresolved
    exact ⟨hfits, happlies⟩

end Request

end SchemaTrail
