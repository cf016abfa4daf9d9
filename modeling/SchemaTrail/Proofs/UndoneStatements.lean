import SchemaTrail.Proofs.EditedLists
import SchemaTrail.Proofs.EditSteps
import SchemaTrail.Proofs.RealChanges
import SchemaTrail.Proofs.RenamedTables
import SchemaTrail.Proofs.UntouchedParts
import SchemaTrail.Proofs.UntrackedStatements

/-!
# Undone statements

A statement that creates a table, a database or a column, or renames a table, is undone by one that
drops what was created or renames back (`Request.UndoneBy`).  Each change to a list has its
inverse: what was added is found and taken out again, and what was put in the place of something
gives the place back.  So the second request leads from the schema after the first to exactly the
one before it, with all positions and all orders (`Request.UndoneBy.after_eq`).  A tracker gets back
to its schema unless it passes over just one of the two statements, and then it never does
(`Tracker.run_undone`).
-/

namespace SchemaTrail

open Outcome

/-! ## Pairs of requests -/

/-- Whether a request undoes another that is carried out in a schema.  A column that is added must
not be one of the primary key, and a table is renamed back to its name only as it was stored. -/
inductive Request.UndoneBy (s : Schema) : Request → Request → Prop
  | createTable (name : TableName) (source : TableSource) (charset : Option String) :
    UndoneBy s (.createTable name source charset false) (.dropTable name false)
  | createDatabase (database : String) (charset : Option String) :
    UndoneBy s (.createDatabase database charset false) (.dropDatabase database false)
  | addColumn (name : TableName) (column : Column) (placement : Placement)
      (hkey : ∀ t, s.requireTable name.database name.table = .ok t →
        t.isKeyColumn column.name = false) :
    UndoneBy s (.alterTable name { TableEdit.empty with columns := [.add column placement false] })
      (.alterTable name { TableEdit.empty with columns := [.remove column.name false] })
  | renameTable (database table other : String)
      (hstored : ∀ t, s.requireTable database table = .ok t → t.name = table) :
    UndoneBy s (.renameTables [(⟨database, table⟩, ⟨database, other⟩)])
      (.renameTables [(⟨database, other⟩, ⟨database, table⟩)])

/-! ## Lists of columns -/

/-- A list is split at the first column with the name. -/
theorem Columns.split?_append {name : String} {front : List Column} {c : Column}
    (back : List Column) (hfront : ∀ b ∈ front, Text.lower b.name ≠ Text.lower name)
    (hc : Text.lower c.name = Text.lower name) :
    split? name (front ++ c :: back) = some (front, c, back) := by
  induction front with
  | nil => rw [List.nil_append, split?_cons, if_pos hc]
  | cons b front ih =>
    rw [List.forall_mem_cons] at hfront
    rw [List.cons_append, split?_cons, if_neg hfront.1, ih hfront.2]
    rfl

namespace ColumnList

variable {l : ColumnList} {name : String} {index : Nat} {column : Column}

theorem insert_min (l : ColumnList) (index : Nat) (column : Column) :
    l.insert (min index l.size) column = l.insert index column := by
  rw [insert, insert, Nat.min_assoc, Nat.min_self]

theorem size_insert (l : ColumnList) (index : Nat) (column : Column) :
    (l.insert index column).size = l.size + 1 := by
  rw [insert, size_ofList]
  exact List.length_insertIdx_of_le_length (Nat.min_le_right _ _) column

theorem size_erase (h : l.indexOf? name = some index) : (l.erase index).size + 1 = l.size := by
  rw [indexOf?_eq] at h
  obtain ⟨hlt, -⟩ := List.findIdx?_eq_some_iff_getElem.1 h
  rw [erase_eq, size_ofList, List.length_eraseIdx_of_lt hlt, size]
  omega

/-- A column that is put in under a new name is found where it was put, and when it is taken out
again all columns have their old positions. -/
theorem erase_insert (h : l.contains column.name = false) (index : Nat) :
    ∃ found, (l.insert index column).indexOf? column.name = some found ∧
      (l.insert index column).erase found = l := by
  obtain ⟨columns, rfl⟩ : ∃ columns, l = ofList columns := ⟨l.toList, (ofList_toList l).symm⟩
  obtain ⟨front, back, rfl, hindex⟩ : ∃ front back, columns = front ++ back ∧
      min index (ofList columns).size = front.length := by
    refine ⟨columns.take index, columns.drop index, (List.take_append_drop _ _).symm, ?_⟩
    rw [size_ofList, List.length_take]
  have hfront : ∀ b ∈ front, Text.lower b.name ≠ Text.lower column.name := by
    intro b hb hname
    rw [contains_eq_false_iff, keys_ofList] at h
    exact h (List.mem_map.2 ⟨b, List.mem_append_left _ hb, hname⟩)
  rw [← insert_min, hindex, insert_ofList]
  refine ⟨front.length, ?_, erase_ofList front back column⟩
  rw [indexOf?_ofList, Columns.split?_append back hfront rfl]
  rfl

end ColumnList

/-! ## Edits of tables -/

namespace Table

variable {t t' : Table} {here : TableName} {column : Column} {placement : Placement} {name : String}

/-- A column that was added is removed. -/
theorem EditsTo.undone (h : t.EditsTo here (.add column placement false) t')
    (hkey : t.isKeyColumn column.name = false) (there : TableName) :
    t'.EditsTo there (.remove column.name false) t := by
  cases h with
  | @add _ _ _ index hnew hindex =>
    let added := column.inheritCharset t.charset
    have hnew : t.columns.contains added.name = false := hnew
    obtain ⟨found, hfound, herase⟩ := ColumnList.erase_insert hnew index
    have hkept : (t.primaryKey.filter fun key => !columnNamesEqual key column.name) =
        t.primaryKey := by
      refine List.filter_eq_self.2 fun key hmem => ?_
      rw [Bool.eq_false_iff.2 (List.any_eq_false.1 hkey key hmem)]
      rfl
    have hback : ((t.insertColumn index column).eraseColumn found).dropKeyColumn column.name =
        t := by
      change { t with
        columns := (t.columns.insert index added).erase found
        primaryKey := t.primaryKey.filter _ } = t
      rw [herase, hkept]
    have hremove : (t.insertColumn index column).EditsTo there (.remove column.name false) _ :=
      .remove hfound
    rwa [hback] at hremove

theorem EditsTo.size_ne_of_add (h : t.EditsTo here (.add column placement false) t') :
    t'.columns.size ≠ t.columns.size := by
  cases h with
  | @add _ _ _ index =>
    have hsize := t.columns.size_insert index (column.inheritCharset t.charset)
    exact fun heq => Nat.succ_ne_self _ (hsize.symm.trans heq)

theorem EditsTo.size_ne_of_remove (h : t.EditsTo here (.remove name false) t') :
    t'.columns.size ≠ t.columns.size := by
  cases h with
  | remove hindex =>
    have hsize := ColumnList.size_erase hindex
    exact fun heq => Nat.succ_ne_self _ (hsize.trans heq.symm)

end Table

/-! ## Updates of schemas -/

namespace Schema

variable {s s' : Schema} {a b : String} {t old new : Table}

/-- A table that was put in is taken away. -/
theorem takeTable_of_insertTable (h : s.insertTable t = .ok s') :
    s'.updateTable t.database t.name (fun _ => []) = .ok s := by
  obtain ⟨front, d, back, d', hd, hfront, hname, hd', rfl⟩ := updateDatabase_eq_ok_iff.1 h
  split at hd'
  · cases hd'
  next hnew =>
    cases hd'
    refine updateDatabase_eq_ok_iff.2
      ⟨front, d.addTable t, back, d, rfl, hfront, hname, ?_, by rw [← hd]⟩
    have hothers : ∀ u ∈ d.tables, s.caseMode.namesEqual u.name t.name = false := by
      simpa [Database.hasTable] using hnew
    exact Database.updateTable_eq_ok_iff.2
      ⟨d.tables, t, [], rfl, hothers, CaseMode.namesEqual_refl _ _, by simp [Database.addTable]⟩

/-- A database that was added is removed. -/
theorem removeDatabase_of_addDatabase {d : Database} (h : s.hasDatabase d.name = false) :
    (s.addDatabase d).removeDatabase d.name = .ok s := by
  refine removeDatabase_eq_ok_iff.2 ⟨s.databases, d, [], rfl, ?_, CaseMode.namesEqual_refl _ _, ?_⟩
  · simpa [hasDatabase, addDatabase] using h
  · simp [addDatabase]

/-- A table in whose place another was put is put back. -/
theorem putTable_back (hold : s.requireTable a b = .ok old)
    (h : s.updateTable a b (fun _ => [new]) = .ok s')
    (hfree : new.name = b ∨ s.hasTable a new.name = false) :
    s'.updateTable a new.name (fun _ => [old]) = .ok s := by
  obtain ⟨front, d, back, d', hd, hfront, hname, hd', rfl⟩ := updateDatabase_eq_ok_iff.1 h
  obtain ⟨before, t, behind, ht, hbefore, htable, rfl⟩ := Database.updateTable_eq_ok_iff.1 hd'
  have hdatabase : s.database? a = some d :=
    List.find?_eq_some_iff_append.2 ⟨hname, front, back, hd, by simpa using hfront⟩
  have hfound : d.table? s.caseMode b = some t :=
    List.find?_eq_some_iff_append.2 ⟨htable, before, behind, ht, by simpa using hbefore⟩
  cases hold.symm.trans (requireTable_eq_ok_iff.2 ⟨d, hdatabase, hfound⟩)
  refine updateDatabase_eq_ok_iff.2
    ⟨front, _, back, d, rfl, hfront, hname, ?_, by rw [← hd]⟩
  refine Database.updateTable_eq_ok_iff.2
    ⟨before, new, behind, by simp, ?_, CaseMode.namesEqual_refl _ _, by simp [← ht]⟩
  obtain rfl | hfree := hfree
  · exact hbefore
  · rw [hasTable, table?, hdatabase, Option.bind_some, ← Database.hasTable_eq_isSome] at hfree
    intro u hu
    simpa using List.any_eq_false.1 hfree u (by simp [ht, hu])

/-- A table that is replaced by one of the same database stays where it is. -/
theorem replaceTable_within_iff (new : Table) : s.replaceTable new.database b new = .ok s' ↔
    (∃ t, s.requireTable new.database b = .ok t) ∧
      (s.caseMode.namesEqual b new.name = true ∨ s.hasTable new.database new.name = false) ∧
      s.updateTable new.database b (fun _ => [new]) = .ok s' := by
  simp [replaceTable_eq_ok_iff]

theorem mem_of_insertTable (h : s.insertTable t = .ok s') :
    ∃ d ∈ s'.databases, t ∈ d.tables := by
  obtain ⟨front, d, back, d', -, -, -, hd', rfl⟩ := updateDatabase_eq_ok_iff.1 h
  split at hd'
  · cases hd'
  · cases hd'
    exact ⟨d.addTable t, by simp, by simp [Database.addTable]⟩

theorem mem_of_putTable (h : s.updateTable a b (fun _ => [new]) = .ok s') :
    ∃ d ∈ s'.databases, new ∈ d.tables := by
  obtain ⟨front, d, back, d', -, -, -, hd', rfl⟩ := updateDatabase_eq_ok_iff.1 h
  obtain ⟨before, t, behind, -, -, -, rfl⟩ := Database.updateTable_eq_ok_iff.1 hd'
  exact ⟨{ d with tables := before ++ [new] ++ behind }, by simp, by simp⟩

section Tracked

variable {config : Config} {names : String → Prop} (hs : s.Tracked config names)
include hs

/-- What is stored under a name is found by it. -/
theorem Tracked.namesEqual_stored (ha : names a) :
    s.caseMode.namesEqual (config.caseMode.storedName a) a = true := by
  rw [hs.caseMode]
  exact hs.coherent.namesEqual_stored ha

/-- A table is found by the names that have the keys of its own. -/
theorem Tracked.requireTable_iff_place {w : TableName} (hw : ∀ a ∈ w.names, names a) :
    s.requireTable w.database w.table = .ok t ↔
      (∃ d ∈ s.databases, t ∈ d.tables) ∧ t.place.key s.caseMode = w.key s.caseMode := by
  rw [requireTable_eq_ok_iff_table?, hs.named.table?_iff_mem hw]
  have hkey : t.place.key s.caseMode = w.key s.caseMode ↔
      s.caseMode.key t.database = s.caseMode.key w.database ∧
        s.caseMode.key t.name = s.caseMode.key w.table := by
    rw [TableName.key, TableName.key, TableName.mk.injEq]
    rfl
  constructor
  · rintro ⟨d, hd, ht, hkeys⟩
    rw [← (hs.sound.wellFormed.databases d hd).database_eq t ht] at hkeys
    exact ⟨⟨d, hd, ht⟩, hkey.2 hkeys⟩
  · rintro ⟨⟨d, hd, ht⟩, hplace⟩
    have hkeys := hkey.1 hplace
    rw [(hs.sound.wellFormed.databases d hd).database_eq t ht] at hkeys
    exact ⟨d, hd, ht, hkeys⟩

end Tracked

end Schema

/-! ## Requests that are carried out -/

namespace Request

variable {config : Config} {s s' : Schema} {r : Request}

/-- Whether a request has a change in every schema where it does not fail. -/
def isBinding : Request → Bool
  | .createDatabase _ _ guarded | .dropDatabase _ guarded | .createTable _ _ _ guarded
  | .dropTable _ guarded => !guarded
  | .alterDatabase _ charset => charset.isSome
  | .alterTable .. | .renameTables _ => true

theorem resolve_ne_none (h : r.isBinding = true) : r.resolve config s ≠ .ok none := by
  intro hnone
  cases r with
  | createDatabase database charset guarded =>
    obtain rfl : guarded = false := by simpa [isBinding] using h
    rw [resolve, resolveCreateDatabase] at hnone
    split at hnone <;> cases hnone
  | alterDatabase database charset =>
    obtain ⟨charset, rfl⟩ := Option.isSome_iff_exists.1 h
    obtain ⟨d, -, hnone⟩ := bind_eq_ok_iff.1 hnone
    cases hnone
  | dropDatabase database guarded =>
    obtain rfl : guarded = false := by simpa [isBinding] using h
    rw [resolve, resolveDropDatabase] at hnone
    split at hnone <;> cases hnone
  | createTable name source charset guarded =>
    obtain rfl : guarded = false := by simpa [isBinding] using h
    obtain ⟨d, -, hnone⟩ := bind_eq_ok_iff.1 hnone
    split at hnone
    · cases hnone
    · obtain ⟨t, -, hnone⟩ := bind_eq_ok_iff.1 hnone
      cases hnone
  | alterTable name edit =>
    obtain ⟨old, -, hnone⟩ := bind_eq_ok_iff.1 hnone
    obtain ⟨new, -, hnone⟩ := bind_eq_ok_iff.1 hnone
    cases hnone
  | dropTable name guarded =>
    obtain rfl : guarded = false := by simpa [isBinding] using h
    rw [resolve, resolveDropTable] at hnone
    split at hnone <;> cases hnone
  | renameTables renames =>
    obtain ⟨resolved, -, hnone⟩ := map_eq_ok_iff.1 hnone
    cases hnone

/-- A binding request leads to where the change leads that it resolves to. -/
theorem after_eq_ok_iff (h : r.isBinding = true) : r.after config s = .ok s' ↔
    ∃ c, r.ResolvesTo config s c ∧ c.apply s = .ok s' := by
  simp only [← resolve_eq_some_iff]
  rw [after, carryOut]
  cases hresolve : r.resolve config s with
  | error e => simp [bind, Except.bind, Except.map]
  | ok change =>
    cases change with
    | none => exact absurd hresolve (resolve_ne_none h)
    | some c =>
      change ((c.apply s >>= fun next => pure (some (c, next))).map _ = _) ↔ _
      cases hnext : c.apply s <;> simp [bind, Except.bind, Except.map, pure, Except.pure, hnext]

section Steps

variable {names : String → Prop} (hs : s.Tracked config names)
include hs

theorem after_tracked (h : r.isBinding = true) (hr : ∀ a ∈ r.names, names a)
    (hafter : r.after config s = .ok s') : s'.Tracked config names := by
  obtain ⟨c, hc, happly⟩ := (after_eq_ok_iff h).1 hafter
  exact hs.apply (hs.applicable hr (resolve_eq_some_iff.2 hc)).fits happly

/-! ## One column -/

omit hs in
/-- To edit one column leaves the rest of a table as it is. -/
theorem editedTable_column_iff {old new : Table} {e : ColumnEdit} :
    editedTable config s old { TableEdit.empty with columns := [e] } = .ok new ↔
      old.EditsTo ⟨old.database, old.name⟩ e new := by
  rw [editedTable_eq_ok_iff, ← Table.editColumn_eq_ok_iff]
  constructor
  · rintro ⟨renamed, hrenamed, edited, hedited, rfl⟩
    cases hrenamed
    exact foldlM_singleton.symm.trans hedited
  · exact fun h => ⟨old, rfl, new, foldlM_singleton.trans h, rfl⟩

theorem after_editColumn_iff {name : TableName} {e : ColumnEdit} :
    (alterTable name { TableEdit.empty with columns := [e] }).after config s = .ok s' ↔
      ∃ old new, s.requireTable name.database name.table = .ok old ∧
        old.EditsTo ⟨old.database, old.name⟩ e new ∧
        s.updateTable old.database old.name (fun _ => [new]) = .ok s' := by
  have hput : ∀ {old new}, s.requireTable name.database name.table = .ok old →
      old.EditsTo ⟨old.database, old.name⟩ e new →
      (s.replaceTable old.database old.name new = .ok s' ↔
        s.updateTable old.database old.name (fun _ => [new]) = .ok s') := by
    intro old new hold hnew
    have hstored := hs.sound.requireTable_stored hold
    have hsame := Table.editColumn_samePlace (Table.editColumn_eq_ok_iff.2 hnew)
    rw [← hsame.database, ← hsame.name] at hstored ⊢
    rw [Schema.replaceTable_own_eq_ok_iff, and_iff_right ⟨old, hstored⟩]
  rw [after_eq_ok_iff rfl]
  constructor
  · rintro ⟨c, hc, happly⟩
    cases hc with
    | @alterTable _ _ old new hold hnew =>
      rw [editedTable_column_iff] at hnew
      exact ⟨old, new, hold, hnew, (hput hold hnew).1 happly⟩
  · rintro ⟨old, new, hold, hnew, h⟩
    exact ⟨_, .alterTable hold (editedTable_column_iff.2 hnew), (hput hold hnew).2 h⟩

/-! ## One rename within a database -/

section Rename

variable {database table other : String} {t : Table}

theorem newPlace_within (ht : s.requireTable database table = .ok t)
    (hfree : s.table? database other = none) :
    newPlace config s ⟨database, other⟩ =
      .ok ⟨t.database, config.caseMode.storedName other⟩ := by
  obtain ⟨d, hd, hmem⟩ := Schema.requireTable_eq_ok_iff.1 ht
  rw [hs.sound.database_eq hd hmem]
  exact newPlace_eq_ok_iff_table?.2 ⟨d, hd, hfree, rfl⟩

variable (hother : ∀ a ∈ (⟨database, other⟩ : TableName).names, names a)
include hother

theorem hasTable_within (ht : s.requireTable database table = .ok t)
    (hfree : s.table? database other = none) :
    s.hasTable t.database (config.caseMode.storedName other) = false :=
  (newPlace_free hs.caseMode hs.coherent hs.sound hother (newPlace_within hs ht hfree)).free

/-- Within its database a table is renamed where it is. -/
theorem renameOne_within_iff : renameOne config s (⟨database, table⟩, ⟨database, other⟩) = .ok s' ↔
    ∃ t, s.requireTable database table = .ok t ∧ s.table? database other = none ∧
      s.updateTable t.database t.name
        (fun _ => [{ t with name := config.caseMode.storedName other }]) = .ok s' := by
  have hput : ∀ {t}, s.requireTable database table = .ok t → s.table? database other = none →
      (s.rename ⟨t.database, t.name,
          t.relocated t.database (config.caseMode.storedName other)⟩ = .ok s' ↔
        s.updateTable t.database t.name
          (fun _ => [{ t with name := config.caseMode.storedName other }]) = .ok s') := by
    intro t ht hfree
    have hplace := hasTable_within hs hother ht hfree
    exact (Schema.replaceTable_within_iff { t with name := config.caseMode.storedName other }).trans
      ⟨fun h => h.2.2, fun h => ⟨⟨t, hs.sound.requireTable_stored ht⟩, .inr hplace, h⟩⟩
  rw [renameOne_eq_ok_iff]
  refine exists_congr fun t => and_congr_right fun ht => ?_
  constructor
  · rintro ⟨place, hplace, hrename⟩
    obtain ⟨d, -, hfree, -⟩ := newPlace_eq_ok_iff_table?.1 hplace
    cases hplace.symm.trans (newPlace_within hs ht hfree)
    exact ⟨hfree, (hput ht hfree).1 hrename⟩
  · rintro ⟨hfree, h⟩
    exact ⟨_, newPlace_within hs ht hfree, (hput ht hfree).2 h⟩

theorem table?_source_of_renameOne (htable : ∀ a ∈ (⟨database, table⟩ : TableName).names, names a)
    (h : renameOne config s (⟨database, table⟩, ⟨database, other⟩) = .ok s') :
    s'.table? database table = none := by
  have hs' := renameOne_tracked hs hother h
  have hcatalogue := catalogue_renameOne hs htable hother
  rw [h] at hcatalogue
  obtain ⟨v, d, hsource, -, htarget, hmove⟩ := Catalogue.rename?_eq_some_iff.1 hcatalogue.symm
  have hne : (⟨database, table⟩ : TableName).key config.caseMode ≠
      (⟨database, other⟩ : TableName).key config.caseMode := by
    intro hkey
    rw [hkey, htarget] at hsource
    cases hsource
  have hlookup := hs'.named.lookup_tables htable
  rw [← hs'.caseMode, ← hmove, Catalogue.moveTable, Finmap.lookup_insert_of_ne _ hne,
    Finmap.lookup_erase] at hlookup
  exact Option.map_eq_none_iff.1 hlookup.symm

end Rename

end Steps

/-! ## Requests that are undone -/

theorem names_of_createTable {name : TableName} {source : TableSource} {charset : Option String}
    {guarded : Bool} {a : String} (ha : a ∈ name.names) :
    a ∈ (createTable name source charset guarded).names := by
  cases source with
  | columns columns primaryKey => exact ha
  | like other => exact List.mem_append_left _ ha

/-- A request to rename a table has the names of both places. -/
theorem names_of_renameTable {names : String → Prop} {source target : TableName}
    (hr : ∀ a ∈ (renameTables [(source, target)]).names, names a) :
    (∀ a ∈ source.names, names a) ∧ ∀ a ∈ target.names, names a :=
  ⟨fun a ha => hr a (List.mem_append_left _ (List.mem_append_left _ ha)),
    fun a ha => hr a (List.mem_append_left _ (List.mem_append_right _ ha))⟩

section Undone

variable {names : String → Prop} (hs : s.Tracked config names)
include hs

/-- A new table is found by the name that it was asked for by, and dropped. -/
theorem after_dropTable_of_createTable {name : TableName} {source : TableSource}
    {charset : Option String}
    (hr : ∀ a ∈ (createTable name source charset false).names, names a)
    (hafter : (createTable name source charset false).after config s = .ok s') :
    (dropTable name false).after config s' = .ok s := by
  have hs' := after_tracked hs rfl hr hafter
  have hname : ∀ a ∈ name.names, names a := fun a ha => hr a (names_of_createTable ha)
  have hstored := CaseMode.key_eq_of_namesEqual
    (hs.namesEqual_stored (hname name.table (by simp [TableName.names])))
  obtain ⟨c, hc, happly⟩ := (after_eq_ok_iff rfl).1 hafter
  cases hc with
  | @createTable _ _ _ _ d t hd hnew ht =>
    refine (after_eq_ok_iff rfl).2 ⟨_, .dropTable ?_, Schema.takeTable_of_insertTable happly⟩
    rw [hs'.requireTable_iff_place hname, ← hs'.caseMode, hs.caseMode]
    refine ⟨Schema.mem_of_insertTable happly, ?_⟩
    obtain ⟨hdatabase, htable⟩ := place_of_newTable ht
    rw [TableName.key, TableName.key, Table.place, hdatabase, htable, hstored,
      CaseMode.key_eq_of_namesEqual (Schema.mem_of_database? hd).2]

/-- A new database has no tables, and is dropped. -/
theorem after_dropDatabase_of_createDatabase {database : String} {charset : Option String}
    (hr : ∀ a ∈ (createDatabase database charset false).names, names a)
    (hafter : (createDatabase database charset false).after config s = .ok s') :
    (dropDatabase database false).after config s' = .ok s := by
  have hs' := after_tracked hs rfl hr hafter
  have hdatabase : names database := hr database (by simp [Request.names])
  obtain ⟨c, hc, happly⟩ := (after_eq_ok_iff rfl).1 hafter
  cases hc with
  | createDatabase hnew =>
    rw [Change.apply] at happly
    split at happly
    next => cases happly
    next hfree =>
      cases happly
      refine (after_eq_ok_iff rfl).2 ⟨_, .dropDatabase ?_,
        Schema.removeDatabase_of_addDatabase (d := ⟨_, _, []⟩) (Bool.eq_false_iff.2 hfree)⟩
      exact (hs'.named.database?_eq_some_iff hdatabase).2
        ⟨by simp [Schema.addDatabase], hs.namesEqual_stored hdatabase⟩

/-- A table that got a column is found again, since its name is the same, and loses the column. -/
theorem after_removeColumn_of_addColumn {name : TableName} {column : Column}
    {placement : Placement}
    (hkey : ∀ t, s.requireTable name.database name.table = .ok t →
      t.isKeyColumn column.name = false)
    (hr : ∀ a ∈ (alterTable name
      { TableEdit.empty with columns := [.add column placement false] }).names, names a)
    (hafter : (alterTable name
      { TableEdit.empty with columns := [.add column placement false] }).after config s = .ok s') :
    (alterTable name { TableEdit.empty with columns := [.remove column.name false] }).after config
      s' = .ok s := by
  have hs' := after_tracked hs rfl hr hafter
  have hname : ∀ a ∈ name.names, names a := fun a ha => hr a (List.mem_append_left _ ha)
  obtain ⟨old, new, hold, hedit, hput⟩ := (after_editColumn_iff hs).1 hafter
  have hsame := Table.editColumn_samePlace (Table.editColumn_eq_ok_iff.2 hedit)
  have hplace := ((hs.requireTable_iff_place hname).1 hold).2
  refine (after_editColumn_iff hs').2 ⟨new, old, ?_, hedit.undone (hkey old hold) _, ?_⟩
  · rw [hs'.requireTable_iff_place hname, ← hs'.caseMode, hs.caseMode]
    refine ⟨Schema.mem_of_putTable hput, ?_⟩
    rwa [Table.place, ← hsame.database, ← hsame.name] at hplace
  · rw [hsame.database]
    exact Schema.putTable_back (hs.sound.requireTable_stored hold) hput (.inl hsame.name)

/-- A table is renamed back, and has its old name as it was stored. -/
theorem after_renameTable_back {database table other : String}
    (hwritten : ∀ t, s.requireTable database table = .ok t → t.name = table)
    (hr : ∀ a ∈ (renameTables [(⟨database, table⟩, ⟨database, other⟩)]).names, names a)
    (hafter : (renameTables [(⟨database, table⟩, ⟨database, other⟩)]).after config s = .ok s') :
    (renameTables [(⟨database, other⟩, ⟨database, table⟩)]).after config s' = .ok s := by
  have hs' := after_tracked hs rfl hr hafter
  obtain ⟨hsource, htarget⟩ := names_of_renameTable hr
  rw [after_renameTables, foldlM_singleton] at hafter ⊢
  have hfree := table?_source_of_renameOne hs htarget hsource hafter
  obtain ⟨t, ht, hnew, hput⟩ := (renameOne_within_iff hs htarget).1 hafter
  have hplace := ((hs.requireTable_iff_place hsource).1 ht).2
  have hback : config.caseMode.storedName table = t.name := by
    have hname := (hs.sound.fitsIn_of_requireTable ht).name_mem.2
    rw [← hs.caseMode] at hname
    rwa [hwritten t ht] at hname ⊢
  let new : Table := { t with name := config.caseMode.storedName other }
  refine (renameOne_within_iff hs' hsource).2 ⟨new, ?_, hfree, ?_⟩
  · refine (hs'.requireTable_iff_place htarget).2 ⟨Schema.mem_of_putTable hput, ?_⟩
    have hstored := CaseMode.key_eq_of_namesEqual
      (hs.namesEqual_stored (htarget other (by simp [TableName.names])))
    rw [← hs'.caseMode, hs.caseMode, TableName.key, TableName.key, TableName.mk.injEq]
    exact ⟨congrArg TableName.database hplace, hstored⟩
  · have hnone := hasTable_within hs htarget ht hnew
    rw [hback]
    exact Schema.putTable_back (hs.sound.requireTable_stored ht) hput (.inr hnone)

/-- The second request leads back to the schema before the first. -/
theorem UndoneBy.after_eq {r' : Request} (h : r.UndoneBy s r') (hr : ∀ a ∈ r.names, names a)
    (hafter : r.after config s = .ok s') : r'.after config s' = .ok s := by
  cases h with
  | createTable name source charset => exact after_dropTable_of_createTable hs hr hafter
  | createDatabase database charset => exact after_dropDatabase_of_createDatabase hs hr hafter
  | addColumn name column placement hkey =>
    exact after_removeColumn_of_addColumn hs hkey hr hafter
  | renameTable database table other hwritten => exact after_renameTable_back hs hwritten hr hafter

end Undone

/-! ## Requests that do something -/

theorem after_ne_of_resolvesTo (h : r.isBinding = true)
    (hkinds : ∀ c, r.ResolvesTo config s c → c.isAlteration = false) :
    r.after config s ≠ .ok s := by
  intro hafter
  obtain ⟨c, hc, happly⟩ := (after_eq_ok_iff h).1 hafter
  have halteration := Change.isAlteration_of_apply_eq_self happly
  rw [hkinds c hc] at halteration
  cases halteration

section Changing

variable {names : String → Prop} (hs : s.Tracked config names)
include hs

/-- An edit that changes the number of columns changes the table. -/
theorem after_editColumn_ne {name : TableName} {e : ColumnEdit}
    (hsize : ∀ {t t' : Table} {here}, t.EditsTo here e t' → t'.columns.size ≠ t.columns.size) :
    (alterTable name { TableEdit.empty with columns := [e] }).after config s ≠ .ok s := by
  intro hafter
  obtain ⟨old, new, hold, hedit, hput⟩ := (after_editColumn_iff hs).1 hafter
  cases (hs.sound.requireTable_stored hold).symm.trans (Schema.updateTable_eq_self_iff.1 hput)
  exact hsize hedit rfl

theorem after_renameWithin_ne {database table other : String}
    (hother : ∀ a ∈ (⟨database, other⟩ : TableName).names, names a) :
    (renameTables [(⟨database, table⟩, ⟨database, other⟩)]).after config s ≠ .ok s := by
  rw [after_renameTables, foldlM_singleton]
  intro hafter
  obtain ⟨t, ht, hnew, hput⟩ := (renameOne_within_iff hs hother).1 hafter
  have hfree := hasTable_within hs hother ht hnew
  -- The table that was renamed is there under its new name.
  have hthere := Schema.updateTable_eq_self_iff.1 hput
  have hstored := hs.sound.requireTable_stored hthere
  rw [Schema.requireTable_eq_ok_iff_table?] at hstored
  rw [Schema.hasTable, hstored] at hfree
  cases hfree

/-- Neither of the two requests, where it is carried out, leaves the schema as it is. -/
theorem UndoneBy.after_ne {s₀ : Schema} {r' : Request} (h : r.UndoneBy s₀ r')
    (hr : ∀ a ∈ r.names, names a) : r.after config s ≠ .ok s ∧ r'.after config s ≠ .ok s := by
  cases h with
  | createTable name source charset =>
    exact ⟨after_ne_of_resolvesTo rfl fun c hc => by cases hc; rfl,
      after_ne_of_resolvesTo rfl fun c hc => by cases hc; rfl⟩
  | createDatabase database charset =>
    exact ⟨after_ne_of_resolvesTo rfl fun c hc => by cases hc; rfl,
      after_ne_of_resolvesTo rfl fun c hc => by cases hc; rfl⟩
  | addColumn name column placement hkey =>
    exact ⟨after_editColumn_ne hs Table.EditsTo.size_ne_of_add,
      after_editColumn_ne hs Table.EditsTo.size_ne_of_remove⟩
  | renameTable database table other hwritten =>
    obtain ⟨hsource, htarget⟩ := names_of_renameTable hr
    exact ⟨after_renameWithin_ne hs htarget, after_renameWithin_ne hs hsource⟩

end Changing

end Request

/-! ## Statements -/

namespace Tracker

variable {t : Tracker} {selected : Option String} {statement : String} {r : Request} {s' : Schema}

/-- Whether a tracker passes over a statement that asks for `r`. -/
def passesOver (t : Tracker) (statement : String) (r : Request) : Bool :=
  Statement.isUntracked statement || r.isExcluded t.exclusions

theorem exists_process_iff_prepare :
    (∃ changes, t.process selected statement = .ok (changes, { t with schema := s' })) ↔
      ∃ p, t.prepare selected statement = .ok p ∧ p.schema = s' := by
  simp only [process_eq_ok_iff]
  constructor
  · rintro ⟨_, p, hp, rfl, hcommit⟩
    rw [commit_eq hp] at hcommit
    exact ⟨p, hp, congrArg Tracker.schema hcommit⟩
  · rintro ⟨p, hp, rfl⟩
    exact ⟨_, p, hp, rfl, commit_eq hp⟩

/-- What a statement with one request leads to. -/
theorem exists_process_iff_after (hread : Statement.read selected statement = .ok [r]) :
    (∃ changes, t.process selected statement = .ok (changes, { t with schema := s' })) ↔
      if t.passesOver statement r then s' = t.schema else r.after t.config t.schema = .ok s' := by
  rw [exists_process_iff_prepare, passesOver]
  by_cases huntracked : Statement.isUntracked statement = true
  · have hnone : Statement.requests selected statement = .ok [] := if_pos huntracked
    have hprepare : t.prepare selected statement = .ok ⟨[], t.schema⟩ :=
      prepare_eq_ok_iff.2 ⟨[], hnone, rfl⟩
    rw [if_pos (by simp [huntracked])]
    simp [hprepare, eq_comm]
  have hone : Statement.requests selected statement = .ok [r] := (if_neg huntracked).trans hread
  simp only [prepare_singleton_iff hone, Bool.eq_false_iff.2 huntracked, Bool.false_or]
  cases hexcluded : r.isExcluded t.exclusions with
  | true => simp [addRequest_of_excluded hexcluded, eq_comm]
  | false =>
    rw [if_neg Bool.false_ne_true, Request.addRequest_eq_carryOut hexcluded, Request.after]
    simp only [map_eq_ok_iff]
    constructor
    · rintro ⟨_, ⟨o, ho, rfl⟩, rfl⟩
      exact ⟨o, ho, by cases o <;> rfl⟩
    · rintro ⟨o, ho, rfl⟩
      exact ⟨_, ⟨o, ho, rfl⟩, by cases o <;> rfl⟩

/-- A statement that can be read is tracked if its comments are separate. -/
theorem passesOver_of_separate (hread : Statement.read selected statement = .ok [r])
    (hseparate : Statement.separate 0 statement.toList = true) :
    t.passesOver statement r = r.isExcluded t.exclusions := by
  have hrequests := (Statement.requests_eq_read hseparate selected).trans hread
  have htracked : Statement.isUntracked statement = false := by
    refine Bool.eq_false_iff.2 fun huntracked => ?_
    rw [Statement.requests, if_pos huntracked] at hrequests
    cases hrequests
  rw [passesOver, htracked, Bool.false_or]

/-- A statement that undoes the one before leads back to the schema unless just one of the two is
passed over. -/
theorem process_undone_iff {names : String → Prop} {first second : Option String × String}
    {r' : Request} {changes : List Change} {t' : Tracker}
    (ht : t.schema.Tracked t.config names) (hr : ∀ a ∈ r.names, names a)
    (hundone : r.UndoneBy t.schema r') (hfirst : Statement.read first.1 first.2 = .ok [r])
    (hsecond : Statement.read second.1 second.2 = .ok [r'])
    (hprocess : t.process first.1 first.2 = .ok (changes, t')) :
    (∃ changes', t'.process second.1 second.2 = .ok (changes', t)) ↔
      t.passesOver first.2 r = t.passesOver second.2 r' := by
  obtain ⟨p, hp, -, rfl⟩ := process_eq_ok_iff.1 hprocess
  rw [commit_eq hp] at hprocess ⊢
  have hafter := (exists_process_iff_after hfirst).1 ⟨_, hprocess⟩
  have hback : (∃ changes', Tracker.process { t with schema := p.schema } second.1 second.2 =
      .ok (changes', t)) ↔ if t.passesOver second.2 r' then t.schema = p.schema
        else r'.after t.config p.schema = .ok t.schema := exists_process_iff_after hsecond
  obtain ⟨hne, hne'⟩ := hundone.after_ne ht hr
  rw [hback]
  cases hpassed : t.passesOver first.2 r with
  | true =>
    rw [hpassed, if_pos rfl] at hafter
    rw [hafter]
    cases t.passesOver second.2 r' <;> simp [hne']
  | false =>
    rw [hpassed, if_neg Bool.false_ne_true] at hafter
    cases t.passesOver second.2 r' with
    | true =>
      have hother : t.schema ≠ p.schema := fun hsame => hne (hsame ▸ hafter)
      simp [hother]
    | false => simp [hundone.after_eq ht hr hafter]

/-- In every schema that a tracker reaches from the empty one, if a statement that creates something
or renames a table succeeds, the one that undoes it succeeds after it and leads back to the schema
before, unless the tracker passes over just one of the two; then it does not.  Statements whose
comments are separate, about tables that are excluded both or not at all, always lead back. -/
theorem run_undone {names : String → Prop} (config : Config) (exclusions : Exclusions)
    (charset : String) (mode : CaseMode) (calls : List (Option String × String))
    (hcoherent : config.caseMode ≠ .sensitive → config.caseMode.Coherent names)
    (hcalls : config.caseMode ≠ .sensitive →
      ∀ call ∈ calls, ∀ a ∈ Statement.names call.1 call.2, names a) :
    let t := (start config exclusions (.empty charset mode)).run calls
    ∀ (first second : Option String × String) (r r' : Request),
      Statement.read first.1 first.2 = .ok [r] → Statement.read second.1 second.2 = .ok [r'] →
      (config.caseMode ≠ .sensitive → ∀ a ∈ r.names, names a) → r.UndoneBy t.schema r' →
      ∀ changes t', t.process first.1 first.2 = .ok (changes, t') →
        ((∃ changes', t'.process second.1 second.2 = .ok (changes', t)) ↔
          t.passesOver first.2 r = t.passesOver second.2 r') ∧
        (Statement.separate 0 first.2.toList = true → Statement.separate 0 second.2.toList = true →
          r.isExcluded exclusions = r'.isExcluded exclusions →
            ∃ changes', t'.process second.1 second.2 = .ok (changes', t)) := by
  intro t first second r r' hfirst hsecond hr hundone changes t' hprocess
  obtain ⟨s, hs⟩ := (start config exclusions (.empty charset mode)).run_withSchema calls
  have hconfig : t.config = config := congrArg Tracker.config hs
  have hexclusions : t.exclusions = exclusions := congrArg Tracker.exclusions hs
  have ht : t.schema.Tracked t.config fun a => config.caseMode = .sensitive ∨ names a := by
    rw [hconfig]
    exact start_run_tracked config exclusions charset mode calls hcoherent hcalls
  have hr : ∀ a ∈ r.names, config.caseMode = .sensitive ∨ names a := fun a ha =>
    Decidable.or_iff_not_imp_left.2 fun hmode => hr hmode a ha
  have hiff := process_undone_iff ht hr hundone hfirst hsecond hprocess
  refine ⟨hiff, fun hseparate hseparate' hexcluded => hiff.2 ?_⟩
  rw [passesOver_of_separate hfirst hseparate, passesOver_of_separate hsecond hseparate',
    hexclusions, hexcluded]

/-- A column is put between others and taken out again. -/
theorem run_undone_column :
    let t := (start ⟨.insensitive, .never, "utf8mb4"⟩ .empty (.empty "utf8mb4" .sensitive)).run
      [(none, "CREATE DATABASE Shop"),
        (some "shop", "CREATE TABLE Items (Id int, Price int, PRIMARY KEY (Id))")]
    ∃ changes t', t.process (some "SHOP") "ALTER TABLE items ADD Label text AFTER id" =
        .ok (changes, t') ∧
      ∃ changes', t'.process none "ALTER TABLE SHOP.items DROP COLUMN Label" =
        .ok (changes', t) := by
  intro t
  let name : TableName := ⟨"SHOP", "items"⟩
  let column : Column := ⟨"Label", .text .regular none, 0⟩
  obtain ⟨⟨changes, t'⟩, hprocess⟩ : ∃ p,
      t.process (some "SHOP") "ALTER TABLE items ADD Label text AFTER id" = .ok p :=
    isSome_toOption_iff.1 (by decide +kernel)
  have hkey : (t.schema.requireTable "SHOP" "items").toOption.map (·.isKeyColumn "Label") =
      some false := by decide +kernel
  have hundone := Request.UndoneBy.addColumn (s := t.schema) name column (.after "id")
    fun u hu => by
      rw [hu] at hkey
      exact Option.some.inj hkey
  have hback := (run_undone ⟨.insensitive, .never, "utf8mb4"⟩ .empty "utf8mb4" .sensitive
    [(none, "CREATE DATABASE Shop"),
      (some "shop", "CREATE TABLE Items (Id int, Price int, PRIMARY KEY (Id))")]
    (fun _ => CaseMode.coherent_isAscii .insensitive) (fun _ => by decide +kernel)
    (some "SHOP", "ALTER TABLE items ADD Label text AFTER id")
    (none, "ALTER TABLE SHOP.items DROP COLUMN Label") _ _
    (toOption_eq_some_iff.1 (by decide +kernel)) (toOption_eq_some_iff.1 (by decide +kernel))
    (fun _ => by decide +kernel) hundone changes t' hprocess).1
  exact ⟨changes, t', hprocess, hback.2 (by decide +kernel)⟩

/-- A table is created between two comments that are taken for one, and a table is renamed to a name
that is excluded.  What undoes the one fails, and what undoes the other is passed over. -/
theorem process_passed_over :
    let created := (start .standard .empty (.empty "utf8mb4" .sensitive)).run
      [(none, "CREATE DATABASE d")]
    let creation := "/* /*! */ CREATE TABLE d.t (c int) -- */ BEGIN"
    let renamed := (start .standard (.ofEntries ["d.u"]) (.empty "utf8mb4" .sensitive)).run
      [(none, "CREATE DATABASE d"), (none, "CREATE TABLE d.t (c int)")]
    let after := renamed.follow (none, "RENAME TABLE d.t TO d.u")
    (Statement.read none creation).toOption = some [.createTable ⟨"d", "t"⟩
        (.columns [⟨"c", .integer .regular true, 0⟩] []) none false] ∧
      (created.process none creation).toOption = some ([], created) ∧
      (created.process none "DROP TABLE d.t").toOption = none ∧
      after.schema ≠ renamed.schema ∧
      (after.process none "RENAME TABLE d.u TO d.t").toOption = some ([], after) := by
  decide +kernel

end Tracker

end SchemaTrail
