import SchemaTrail.Proofs.CapturedTypes
import SchemaTrail.Proofs.ColumnCharsets
import SchemaTrail.Proofs.Differences
import SchemaTrail.Proofs.LoweredSchemas

/-!
# Capturing a tracked schema

Rows describe a schema if there is one for each database, table, column and column of a primary key
(`Capture.Describes`); the rows of columns and keys may come in any order.  From such rows the
schema is assembled again, with the charsets of its columns in lower case
(`Capture.Describes.schema_eq`): each table claims the rows of its own columns and keys, since no
other table has its place.  So the schema that a tracker has reached and the one that is captured do
not differ (`Tracker.run_captured`).
-/

namespace SchemaTrail

open Outcome

/-! ## Rows that describe a schema -/

namespace Table

/-- The row of the table. -/
def captured (t : Table) : CapturedTable :=
  ⟨t.database, t.name, t.charset⟩

/-- The rows of the columns. -/
def capturedColumns (t : Table) : List CapturedColumn :=
  t.columns.toList.map (·.captured t.database t.name)

/-- The rows of the columns of the primary key. -/
def capturedKeys (t : Table) : List CapturedKey :=
  t.primaryKey.mapIdx fun i name => ⟨t.database, t.name, name, i + 1⟩

end Table

/-- All tables of a schema, database by database. -/
def Schema.tables (s : Schema) : List Table :=
  s.databases.flatMap Database.tables

/-- Rows as they are read from a server that has the databases of a schema. -/
structure Capture.Describes (rows : Capture) (s : Schema) : Prop where
  databases : rows.databases = s.databases.map fun d => ⟨d.name, d.charset⟩
  tables : rows.tables = s.tables.map Table.captured
  columns : rows.columns.Perm (s.tables.flatMap Table.capturedColumns)
  keys : rows.keys.Perm (s.tables.flatMap Table.capturedKeys)

/-- Rows that describe a schema, in the order of its tables. -/
def Schema.rows (s : Schema) : Capture where
  serverCharset := s.charset
  databases := s.databases.map fun d => ⟨d.name, d.charset⟩
  tables := s.tables.map Table.captured
  columns := s.tables.flatMap Table.capturedColumns
  keys := s.tables.flatMap Table.capturedKeys

/-- The schema as it is captured: with the charset that the rows give to the server, and with the
charsets of its columns in lower case. -/
def Schema.captured (s : Schema) (charset : String) : Schema :=
  { s.lowered with charset }

theorem Schema.describes_rows (s : Schema) : s.rows.Describes s :=
  ⟨rfl, rfl, .refl _, .refl _⟩

/-! ## Rows of a table -/

theorem pairwise_mergeSort_key {α : Type} (key : α → Nat) (xs : List α) :
    (xs.mergeSort fun x y => key x ≤ key y).Pairwise fun x y => key x ≤ key y := by
  have hpairwise := @List.pairwise_mergeSort α (fun x y => decide (key x ≤ key y))
    (fun x y z hxy hyz => by simp only [decide_eq_true_eq] at *; omega)
    (fun x y => by simp only [Bool.or_eq_true, decide_eq_true_eq]; omega) xs
  simpa using hpairwise

/-- Sorting brings a list into the one order in which a key increases. -/
theorem mergeSort_eq_of_perm {α : Type} {key : α → Nat} {xs ys : List α} (h : xs.Perm ys)
    (hys : ys.Pairwise fun x y => key x < key y) :
    xs.mergeSort (fun x y => key x ≤ key y) = ys := by
  have hsorted := pairwise_mergeSort_key key xs
  have hperm := (List.mergeSort_perm xs fun x y => decide (key x ≤ key y)).trans h
  have hnodup : (ys.map key).Nodup := List.pairwise_map.2 (hys.imp Nat.ne_of_lt)
  refine hperm.eq_of_pairwise (fun x y hx hy hxy hyx => ?_) hsorted (hys.imp Nat.le_of_lt)
  exact List.inj_on_of_nodup_map hnodup (hperm.subset hx) hy (Nat.le_antisymm hxy hyx)

theorem ColumnKind.HasCharset.lowered {k : ColumnKind} (hk : k.HasCharset) :
    k.lowered.HasCharset := by
  intro charset
  cases k with
  | text size declared =>
    cases declared with
    | none => cases hk charset
    | some s => rfl
  | _ => rfl

namespace Table

variable (t : Table)

theorem capturedColumns_sorted :
    t.capturedColumns.Pairwise fun x y => x.ordinal < y.ordinal := by
  rw [capturedColumns, List.pairwise_map, List.pairwise_iff_getElem]
  intro i j hi hj hij
  show t.columns.toList[i].position + 1 < t.columns.toList[j].position + 1
  rw [t.columns.position_getElem hi, t.columns.position_getElem hj]
  omega

theorem capturedKeys_sorted : t.capturedKeys.Pairwise fun x y => x.ordinal < y.ordinal := by
  rw [capturedKeys, List.pairwise_iff_getElem]
  intro i j hi hj hij
  simpa using hij

theorem map_column_capturedKeys : t.capturedKeys.map CapturedKey.column = t.primaryKey := by
  refine List.ext_getElem (by simp [capturedKeys]) fun i hi hi' => ?_
  simp [capturedKeys]

theorem mapM_column_capturedColumns :
    t.capturedColumns.mapM CapturedColumn.column = .ok (t.columns.toList.map Column.lowered) := by
  rw [capturedColumns]
  induction t.columns.toList with
  | nil => rfl
  | cons c cs ih =>
    rw [List.map_cons, List.mapM_cons, c.column_captured, ih]
    rfl

/-- A new table with the columns of one that has charsets, in lower case, is that table. -/
theorem create_lowered (ht : t.HasCharsets) :
    create t.database t.name t.charset (t.columns.toList.map Column.lowered) t.primaryKey =
      t.lowered := by
  have hinherit : (t.columns.toList.map Column.lowered).map (·.inheritCharset t.charset) =
      t.columns.toList.map Column.lowered := by
    rw [List.map_map]
    refine List.map_congr_left fun c hc => ?_
    have hkind := ColumnKind.HasCharset.lowered (ht c.kind (ColumnList.kind_mem hc)) t.charset
    exact congrArg (fun k => { c with kind := k }) hkind
  rw [create, hinherit, lowered, ColumnList.map_eq]

/-- From the rows of its columns and keys a table is assembled again. -/
theorem table_captured (ht : t.HasCharsets) {columns : List CapturedColumn}
    {keys : List CapturedKey} (hcolumns : columns.Perm t.capturedColumns)
    (hkeys : keys.Perm t.capturedKeys) : t.captured.table columns keys = .ok t.lowered := by
  rw [CapturedTable.table, mergeSort_eq_of_perm hcolumns t.capturedColumns_sorted,
    mergeSort_eq_of_perm hkeys t.capturedKeys_sorted, t.mapM_column_capturedColumns,
    t.map_column_capturedKeys]
  exact congrArg Except.ok (t.create_lowered ht)

end Table

/-! ## Claiming rows -/

/-- Two tables in different places. -/
def Table.Apart (t u : Table) : Prop :=
  ¬(u.database = t.database ∧ u.name = t.name)

/-- The rows of a table are claimed from those of several, and those of the others are left. -/
theorem claim_rows {α ρ : Type} {rowsOf : α → List ρ} (claims : ρ → Bool) {a : α} {as : List α}
    {rows : List ρ} (h : rows.Perm ((a :: as).flatMap rowsOf))
    (hown : ∀ r ∈ rowsOf a, claims r = true)
    (hothers : ∀ b ∈ as, ∀ r ∈ rowsOf b, claims r = false) :
    (rows.filter claims).Perm (rowsOf a) ∧
      (rows.filter fun r => !claims r).Perm (as.flatMap rowsOf) := by
  rw [List.flatMap_cons] at h
  have hothers : ∀ r ∈ as.flatMap rowsOf, claims r = false := fun r hr =>
    let ⟨b, hb, hr⟩ := List.mem_flatMap.1 hr
    hothers b hb r hr
  constructor
  · have hnone : (as.flatMap rowsOf).filter claims = [] :=
      List.filter_eq_nil_iff.2 fun r hr => by simp [hothers r hr]
    have hclaimed := h.filter claims
    rwa [List.filter_append, List.filter_eq_self.2 hown, hnone, List.append_nil] at hclaimed
  · have hnone : ((rowsOf a).filter fun r => !claims r) = [] :=
      List.filter_eq_nil_iff.2 fun r hr => by simp [hown r hr]
    have hall : ((as.flatMap rowsOf).filter fun r => !claims r) = as.flatMap rowsOf :=
      List.filter_eq_self.2 fun r hr => by simp [hothers r hr]
    have hleft := h.filter fun r => !claims r
    rwa [List.filter_append, hnone, hall, List.nil_append] at hleft

theorem Table.place_of_mem_capturedColumns {t : Table} {c : CapturedColumn}
    (h : c ∈ t.capturedColumns) : c.database = t.database ∧ c.table = t.name := by
  obtain ⟨d, -, rfl⟩ := List.mem_map.1 h
  exact ⟨rfl, rfl⟩

theorem Table.place_of_mem_capturedKeys {t : Table} {k : CapturedKey} (h : k ∈ t.capturedKeys) :
    k.database = t.database ∧ k.table = t.name := by
  obtain ⟨i, hi, rfl⟩ := List.mem_mapIdx.1 h
  exact ⟨rfl, rfl⟩

namespace Assembly

/-- The rows that are left are those of the given tables. -/
structure Awaits (a : Assembly) (ts : List Table) : Prop where
  columns : a.columns.Perm (ts.flatMap Table.capturedColumns)
  keys : a.keys.Perm (ts.flatMap Table.capturedKeys)

variable {a : Assembly} {t : Table} {ts : List Table} {s : Schema}

theorem addTable_captured (h : a.Awaits (t :: ts)) (ht : t.HasCharsets)
    (hapart : ∀ u ∈ ts, t.Apart u) (hs : a.schema.addTable t.lowered = .ok s) :
    ∃ a', a.addTable t.captured = .ok a' ∧ a'.schema = s ∧ a'.Awaits ts := by
  obtain ⟨hcolumns, hcolumnsLeft⟩ := claim_rows t.captured.hasColumn h.columns
    (fun c hc => by simp [CapturedTable.hasColumn, Table.place_of_mem_capturedColumns hc,
      Table.captured])
    (fun u hu c hc => by
      have hplace := hapart u hu
      simpa [CapturedTable.hasColumn, Table.place_of_mem_capturedColumns hc, Table.captured,
        Table.Apart] using hplace)
  obtain ⟨hkeys, hkeysLeft⟩ := claim_rows t.captured.hasKey h.keys
    (fun k hk => by simp [CapturedTable.hasKey, Table.place_of_mem_capturedKeys hk,
      Table.captured])
    (fun u hu k hk => by
      have hplace := hapart u hu
      simpa [CapturedTable.hasKey, Table.place_of_mem_capturedKeys hk, Table.captured,
        Table.Apart] using hplace)
  refine ⟨⟨s, _, _⟩, ?_, rfl, hcolumnsLeft, hkeysLeft⟩
  rw [addTable, t.table_captured ht hcolumns hkeys]
  show (a.schema.addTable t.lowered).mapError _ >>= _ = _
  rw [hs]
  rfl

theorem foldlM_addTable_captured (h : a.Awaits ts) (hts : ∀ t ∈ ts, t.HasCharsets)
    (hapart : ts.Pairwise Table.Apart)
    (hs : (ts.map Table.lowered).foldlM Schema.addTable a.schema = .ok s) :
    ∃ a', (ts.map Table.captured).foldlM addTable a = .ok a' ∧ a'.schema = s ∧ a'.Awaits [] := by
  induction ts generalizing a with
  | nil =>
    cases hs
    exact ⟨a, rfl, rfl, h⟩
  | cons t ts ih =>
    rw [List.forall_mem_cons] at hts
    rw [List.pairwise_cons] at hapart
    rw [List.map_cons, List.foldlM_cons, bind_eq_ok_iff] at hs
    obtain ⟨s₁, hs₁, hs⟩ := hs
    obtain ⟨a₁, ha₁, rfl, h₁⟩ := addTable_captured h hts.1 hapart.1 hs₁
    obtain ⟨a', ha', hschema, hleft⟩ := ih h₁ hts.2 hapart.2 hs
    refine ⟨a', ?_, hschema, hleft⟩
    rw [List.map_cons, List.foldlM_cons, bind_eq_ok_iff]
    exact ⟨a₁, ha₁, ha'⟩

end Assembly

/-! ## Adding tables one by one -/

/-- The database with those of the tables that name it. -/
def Database.holding (ts : List Table) (d : Database) : Database :=
  { d with tables := ts.filter fun t => t.database = d.name }

theorem CaseMode.Distinct.nodup {mode : CaseMode} {names : List String}
    (h : mode.Distinct names) : names.Nodup :=
  h.imp fun hab heq => by simp [heq] at hab

/-- Of the tables of several databases with different names, those that name one are its own. -/
theorem Database.filter_flatMap_tables {ds : List Database} (hds : (ds.map Database.name).Nodup)
    (htables : ∀ d ∈ ds, ∀ t ∈ d.tables, t.database = d.name) {d : Database} (hd : d ∈ ds) :
    (ds.flatMap Database.tables).filter (fun t => t.database = d.name) = d.tables := by
  induction ds with
  | nil => cases hd
  | cons e ds ih =>
    rw [List.map_cons, List.nodup_cons] at hds
    rw [List.forall_mem_cons] at htables
    rw [List.flatMap_cons, List.filter_append]
    rcases List.mem_cons.1 hd with rfl | hd
    · have hown : d.tables.filter (fun t => t.database = d.name) = d.tables :=
        List.filter_eq_self.2 fun t ht => decide_eq_true (htables.1 t ht)
      have hothers : (ds.flatMap Database.tables).filter (fun t => t.database = d.name) = [] := by
        refine List.filter_eq_nil_iff.2 fun t ht heq => hds.1 ?_
        obtain ⟨e, he, ht⟩ := List.mem_flatMap.1 ht
        rw [← of_decide_eq_true heq, htables.2 e he t ht]
        exact List.mem_map_of_mem he
      rw [hown, hothers, List.append_nil]
    · have hothers : e.tables.filter (fun t => t.database = d.name) = [] := by
        refine List.filter_eq_nil_iff.2 fun t ht heq => hds.1 ?_
        rw [← htables.1 t ht, of_decide_eq_true heq]
        exact List.mem_map_of_mem hd
      rw [hothers, ih hds.2 htables.2 hd, List.nil_append]

namespace Schema

variable {s : Schema} {t : Table} {ts us : List Table}

/-- The schema with the tables in the databases that they name. -/
def holding (s : Schema) (ts : List Table) : Schema :=
  { s with databases := s.databases.map (Database.holding ts) }

theorem addTable_holding (hs : s.caseMode.Distinct s.databaseNames)
    (ht : t.database ∈ s.databaseNames) :
    (s.holding ts).addTable t = .ok (s.holding (ts ++ [t])) := by
  obtain ⟨d, hd, hname⟩ := List.mem_map.1 ht
  obtain ⟨front, back, hsplit⟩ := List.append_of_mem hd
  rw [databaseNames, hsplit, List.map_append, List.map_cons, CaseMode.Distinct.split_iff] at hs
  have hne : ∀ e ∈ front ++ back, e.name ≠ t.database := fun e he heq => by
    have hapart := (hs.2 e.name (by rw [← List.map_append]; exact List.mem_map_of_mem he)).1
    rw [heq, hname, CaseMode.namesEqual_refl] at hapart
    cases hapart
  -- Only the database of the table holds one more.
  have hothers : ∀ e ∈ front ++ back, e.holding (ts ++ [t]) = e.holding ts := fun e he => by
    simp [Database.holding, (hne e he).symm]
  have hown : d.holding (ts ++ [t]) = (d.holding ts).addTable t := by
    simp [Database.holding, Database.addTable, hname]
  rw [List.forall_mem_append] at hothers hne
  rw [addTable, updateDatabase_eq_ok_iff]
  refine ⟨front.map (Database.holding ts), d.holding ts, back.map (Database.holding ts),
    (d.holding ts).addTable t, ?_, ?_, ?_, rfl, ?_⟩
  · simp [holding, hsplit]
  · refine List.forall_mem_map.2 fun e he => ?_
    rw [← hname]
    exact (hs.2 e.name (List.mem_append_left _ (List.mem_map_of_mem he))).1
  · show s.caseMode.namesEqual d.name t.database = true
    rw [hname, CaseMode.namesEqual_refl]
  · simp only [holding, hsplit, List.map_append, List.map_cons, hown,
      List.map_congr_left hothers.1, List.map_congr_left hothers.2]

theorem foldlM_addTable_holding (hs : s.caseMode.Distinct s.databaseNames)
    (hus : ∀ u ∈ us, u.database ∈ s.databaseNames) :
    us.foldlM addTable (s.holding ts) = .ok (s.holding (ts ++ us)) := by
  induction us generalizing ts with
  | nil => rw [List.append_nil]; rfl
  | cons u us ih =>
    rw [List.forall_mem_cons] at hus
    rw [List.foldlM_cons, addTable_holding hs hus.1]
    show us.foldlM addTable (s.holding (ts ++ [u])) = _
    rw [ih hus.2, List.append_assoc]
    rfl

/-- With all of its tables it is the schema itself. -/
theorem holding_tables (hs : s.caseMode.Distinct s.databaseNames)
    (htables : s.AllTables fun n t => t.database = n) : s.holding s.tables = s := by
  have hsame : ∀ d ∈ s.databases, d.holding s.tables = d := fun d hd =>
    congrArg (fun ts => { d with tables := ts })
      (Database.filter_flatMap_tables hs.nodup htables hd)
  rw [holding, List.map_congr_left hsame, List.map_id']

theorem databaseNames_lowered (s : Schema) : s.lowered.databaseNames = s.databaseNames := by
  show (s.databases.map Database.lowered).map Database.name = _
  rw [List.map_map]
  rfl

theorem tables_lowered (s : Schema) : s.lowered.tables = s.tables.map Table.lowered := by
  show (s.databases.map Database.lowered).flatMap Database.tables = _
  rw [List.flatMap_map, tables, List.map_flatMap]
  rfl

/-- In a well-formed schema no two tables have the same place. -/
theorem WellFormed.tables_apart (hs : s.WellFormed) : s.tables.Pairwise Table.Apart := by
  refine List.pairwise_flatMap.2 ⟨fun d hd => ?_, ?_⟩
  · have hnodup := List.pairwise_map.1 (hs.databases d hd).tables_distinct.nodup
    exact hnodup.imp fun hne hsame => hne hsame.2.symm
  · have hnodup := List.pairwise_map.1 hs.databases_distinct.nodup
    refine hnodup.imp_of_mem fun hd he hne t ht u hu hsame => hne ?_
    rw [← (hs.databases _ hd).database_eq t ht, ← (hs.databases _ he).database_eq u hu, hsame.1]

end Schema

/-! ## The captured schema -/

namespace Capture.Describes

variable {rows : Capture} {s : Schema} (h : rows.Describes s)
include h

/-- No row of a schema without system databases is passed over. -/
theorem filter_rows (hs : s.WellFormed)
    (hsystem : ∀ d ∈ s.databases, isSystemDatabase d.name = false) :
    (rows.databases.filter fun d => !isSystemDatabase d.name) = rows.databases ∧
      (rows.tables.filter fun t => !isSystemDatabase t.database) = rows.tables ∧
      (rows.columns.filter fun c => !isSystemDatabase c.database) = rows.columns ∧
      (rows.keys.filter fun k => !isSystemDatabase k.database) = rows.keys := by
  have htables : ∀ t ∈ s.tables, isSystemDatabase t.database = false := by
    intro t ht
    obtain ⟨d, hd, ht⟩ := List.mem_flatMap.1 ht
    rw [(hs.databases d hd).database_eq t ht, hsystem d hd]
  simp only [List.filter_eq_self, Bool.not_eq_true', h.databases, h.tables, h.columns.mem_iff,
    h.keys.mem_iff, List.forall_mem_map, List.forall_mem_flatMap]
  refine ⟨hsystem, htables, fun t ht c hc => ?_, fun t ht k hk => ?_⟩
  · rw [(Table.place_of_mem_capturedColumns hc).1, htables t ht]
  · rw [(Table.place_of_mem_capturedKeys hk).1, htables t ht]

/-- From rows that describe it a schema is assembled again. -/
theorem schema_eq (hs : s.WellFormed) (hcharsets : s.HasCharsets)
    (hsystem : ∀ d ∈ s.databases, isSystemDatabase d.name = false) :
    rows.schema s.caseMode = .ok (s.captured rows.serverCharset) := by
  obtain ⟨hdatabases, htables, hcolumns, hkeys⟩ := h.filter_rows hs hsystem
  let target := s.captured rows.serverCharset
  have htarget : target.tables = s.tables.map Table.lowered := s.tables_lowered
  have hdistinct : target.caseMode.Distinct target.databaseNames := by
    show s.caseMode.Distinct s.lowered.databaseNames
    rw [s.databaseNames_lowered]
    exact hs.databases_distinct
  have hplaced : target.AllTables fun n t => t.database = n :=
    List.forall_mem_map.2 fun d hd => List.forall_mem_map.2 (hs.databases d hd).database_eq
  have hnamed : ∀ t ∈ target.tables, t.database ∈ target.databaseNames := by
    intro t ht
    obtain ⟨d, hd, ht⟩ := List.mem_flatMap.1 ht
    rw [hplaced d hd t ht]
    exact List.mem_map_of_mem hd
  have hadd : (s.tables.map Table.lowered).foldlM Schema.addTable (target.holding []) =
      .ok target := by
    rw [← htarget, Schema.foldlM_addTable_holding hdistinct hnamed, List.nil_append,
      Schema.holding_tables hdistinct hplaced]
  obtain ⟨a, ha, hschema, hleft⟩ := Assembly.foldlM_addTable_captured
    (a := ⟨target.holding [], rows.columns, rows.keys⟩) ⟨h.columns, h.keys⟩
    (List.forall_mem_flatMap.2 hcharsets) hs.tables_apart hadd
  have hstart : rows.databases.map (fun d => (⟨d.name, d.charset, []⟩ : Database)) =
      (target.holding []).databases := by
    rw [h.databases, List.map_map]
    show _ = (s.databases.map Database.lowered).map (Database.holding [])
    rw [List.map_map]
    rfl
  have hnone : a.columns = [] := hleft.columns.eq_nil
  rw [Capture.schema]
  simp only [hdatabases, htables, hcolumns, hkeys, hstart]
  rw [h.tables]
  show (s.tables.map Table.captured).foldlM Assembly.addTable
    ⟨target.holding [], rows.columns, rows.keys⟩ >>= _ = _
  rw [ha]
  simp only [bind, Except.bind, hnone, hschema]
  rfl

end Capture.Describes

/-! ## No differences -/

theorem columnNamesEqual_refl (a : String) : columnNamesEqual a a = true :=
  columnNamesEqual_iff.2 rfl

theorem Column.agrees_lowered (c : Column) : c.Agrees c.lowered ∧ c.lowered.Agrees c := by
  obtain ⟨name, kind, position⟩ := c
  have hname := columnNamesEqual_refl name
  cases kind with
  | text size charset =>
    cases charset with
    | none => exact ⟨⟨hname, rfl, .none, rfl, rfl, rfl⟩, ⟨hname, rfl, .none, rfl, rfl, rfl⟩⟩
    | some charset =>
      obtain ⟨h, h'⟩ := Text.equalIgnoringCase_asciiLower charset
      exact ⟨⟨hname, rfl, .some h', rfl, rfl, rfl⟩, ⟨hname, rfl, .some h, rfl, rfl, rfl⟩⟩
  | bytes size =>
    have h := Text.equalIgnoringCase_refl binaryCharset
    exact ⟨⟨hname, rfl, .some h, rfl, rfl, rfl⟩, ⟨hname, rfl, .some h, rfl, rfl, rfl⟩⟩
  | _ => exact ⟨⟨hname, rfl, .none, rfl, rfl, rfl⟩, ⟨hname, rfl, .none, rfl, rfl, rfl⟩⟩

theorem Table.agrees_lowered (t : Table) : t.Agrees t.lowered ∧ t.lowered.Agrees t := by
  have hcharset := Text.equalIgnoringCase_refl t.charset
  have hkey : List.Forall₂ (fun x y => columnNamesEqual x y = true) t.primaryKey t.primaryKey :=
    List.forall₂_same.2 fun a _ => columnNamesEqual_refl a
  have hcolumns : t.lowered.columns.toList = t.columns.toList.map Column.lowered :=
    t.columns.toList_map fun _ => rfl
  refine ⟨⟨hcharset, hkey, ?_⟩, ⟨hcharset, hkey, ?_⟩⟩
  · rw [hcolumns, List.forall₂_map_right_iff]
    exact List.forall₂_same.2 fun c _ => c.agrees_lowered.1
  · rw [hcolumns, List.forall₂_map_left_iff]
    exact List.forall₂_same.2 fun c _ => c.agrees_lowered.2

theorem Database.agrees_lowered (mode : CaseMode) (d : Database) :
    d.Agrees mode d.lowered ∧ d.lowered.Agrees mode d := by
  have hcharset := Text.equalIgnoringCase_refl d.charset
  refine ⟨⟨hcharset, .map_right fun t _ => ?_⟩, ⟨hcharset, .map_left fun t _ => ?_⟩⟩
  · exact ⟨mode.namesEqual_refl t.name, t.agrees_lowered.1⟩
  · exact ⟨mode.namesEqual_refl t.name, t.agrees_lowered.2⟩

namespace Schema

variable {names : String → Prop} {s : Schema}

theorem agrees_captured (s : Schema) (charset : String) :
    s.Agrees (s.captured charset) ∧ (s.captured charset).Agrees s := by
  refine ⟨.map_right fun d _ => ?_, .map_left fun d _ => ?_⟩
  · exact ⟨s.caseMode.namesEqual_refl d.name, (d.agrees_lowered s.caseMode).1⟩
  · exact ⟨s.caseMode.namesEqual_refl d.name, (d.agrees_lowered s.caseMode).2⟩

theorem Sound.unambiguous (hs : s.Sound names) : s.Unambiguous names where
  distinct := ⟨hs.wellFormed.databases_distinct, fun _ => hs.named.databaseName_mem⟩
  databases d hd := by
    have hd' := hs.wellFormed.databases d hd
    exact ⟨⟨hd'.tables_distinct, List.forall_mem_map.2 fun t => hs.tableName_mem hd⟩,
      hd'.columns_distinct⟩

theorem Unambiguous.captured (hs : s.Unambiguous names) (charset : String) :
    (s.captured charset).Unambiguous names := by
  refine ⟨?_, List.forall_mem_map.2 fun d hd => ?_⟩
  · show s.caseMode.DistinctIn names s.lowered.databaseNames
    rw [s.databaseNames_lowered]
    exact hs.distinct
  · refine ⟨?_, List.forall_mem_map.2 fun t ht => ?_⟩
    · have hsame : d.lowered.tableNames = d.tableNames := by
        show (d.tables.map Table.lowered).map Table.name = _
        rw [List.map_map]
        rfl
      rw [hsame]
      exact (hs.databases d hd).distinct
    · exact ((hs.databases d hd).tables t ht).of_keys_eq (ColumnList.keys_map fun _ => rfl)

/-- Nothing differs between a schema and what is captured of it. -/
theorem diff_captured (hnames : s.caseMode.EquivalenceOn names) (hs : s.Unambiguous names)
    (charset : String) : s.diff (s.captured charset) = [] ∧ (s.captured charset).diff s = [] := by
  have hmode : (s.captured charset).caseMode = s.caseMode := rfl
  have hcaptured := hs.captured charset
  obtain ⟨hagrees, hagrees'⟩ := s.agrees_captured charset
  rw [diff_eq_nil_iff_found, diff_eq_nil_iff_found]
  exact ⟨(agrees_iff_found hmode hnames hs hcaptured).1 hagrees,
    (agrees_iff_found hmode.symm hnames hcaptured hs).1 hagrees'⟩

end Schema

/-! ## Tracked schemas -/

namespace Tracker

variable {names : String → Prop}

/-- Capturing converges with tracking: from rows that describe a schema which a tracker has reached
from the empty one, and in which no database is one of the server itself, a schema is assembled that
does not differ from it.  Without letter case, equality has to be an equivalence relation on a set
of names that has the names of all calls and their stored forms. -/
theorem run_captured (config : Config) (exclusions : Exclusions) (charset : String)
    (mode : CaseMode) (calls : List (Option String × String))
    (hequal : config.caseMode ≠ .sensitive → config.caseMode.EquivalenceOn names)
    (hstored : ∀ {a}, names a → names (config.caseMode.storedName a))
    (hcalls : config.caseMode ≠ .sensitive →
      ∀ call ∈ calls, ∀ a ∈ Statement.names call.1 call.2, names a) :
    let s := ((start config exclusions (.empty charset mode)).run calls).schema
    (∀ d ∈ s.databases, isSystemDatabase d.name = false) →
      ∀ rows : Capture, rows.Describes s →
        ∃ s', rows.schema s.caseMode = .ok s' ∧ s.diff s' = [] ∧ s'.diff s = [] := by
  intro s hsystem rows hrows
  have hcoherent := fun hmode => (hequal hmode).coherent hstored
  have hs : s.Sound _ :=
    (start_run_tracked config exclusions charset mode calls hcoherent hcalls).sound
  have hcharsets : s.HasCharsets := start_run_hasCharsets config exclusions charset mode calls
  exact ⟨_, hrows.schema_eq hs.wellFormed hcharsets hsystem,
    Schema.diff_captured hs.coherent.equivalenceOn hs.unambiguous rows.serverCharset⟩

/-- Values with quotes, commas, parentheses and backslashes, an inherited charset in upper case, and
a column that is added in front. -/
theorem run_captured_quoted :
    let s := ((start ⟨.insensitive, .never, "utf8mb4"⟩ .empty (.empty "UTF8MB4" .insensitive)).run
      [(none, "CREATE DATABASE d"),
        (some "D", "CREATE TABLE t (a set('''', ',', ')(', '\\\\'), b text, c time(3))"),
        (some "d", "ALTER TABLE T ADD id int unsigned PRIMARY KEY FIRST")]).schema
    s.tables.map (·.columns.names) = [["id", "a", "b", "c"]] ∧
      ∃ s', s.rows.schema s.caseMode = .ok s' ∧ s.diff s' = [] ∧ s'.diff s = [] := by
  intro s
  have hstate : s.tables.map (·.columns.names) = [["id", "a", "b", "c"]] ∧
      ∀ d ∈ s.databases, isSystemDatabase d.name = false := by decide +kernel
  have hequal := (CaseMode.coherent_isAscii .insensitive).equivalenceOn
  exact ⟨hstate.1, run_captured _ _ _ _ _ (fun _ => hequal) id (fun _ => by decide +kernel)
    hstate.2 _ s.describes_rows⟩

end Tracker

end SchemaTrail
