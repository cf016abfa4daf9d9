import Mathlib.Data.List.Perm.Basic
import SchemaTrail.Proofs.CapturedSchemas

/-!
# Tables that are assembled from rows

A schema that is assembled has a table for each row of a table, in a database of the name that the
row gives, and the table has a column for each row of a column that belongs to it and an entry of
its primary key for each row of a key, in the order of their positions (`Capture.Assembles`).  If a
row of a column belongs to no table then assembling fails.  A row of a key that belongs to no table
is passed over, so the entries of all primary keys are the rows of keys if and only if there is no
such row (`Capture.schema_accounts`).
-/

namespace SchemaTrail

open Outcome

/-! ## Rows of databases that are not the server's own -/

namespace Capture

variable (rows : Capture)

/-- The rows of databases that the server does not keep for itself. -/
def userDatabases : List CapturedDatabase :=
  rows.databases.filter fun d => !isSystemDatabase d.name

/-- The rows of the tables of such databases. -/
def userTables : List CapturedTable :=
  rows.tables.filter fun t => !isSystemDatabase t.database

/-- The rows of the columns of such databases. -/
def userColumns : List CapturedColumn :=
  rows.columns.filter fun c => !isSystemDatabase c.database

/-- The rows of the primary keys of such databases. -/
def userKeys : List CapturedKey :=
  rows.keys.filter fun k => !isSystemDatabase k.database

end Capture

/-- The table that a row is about. -/
def CapturedTable.tableName (r : CapturedTable) : TableName :=
  ⟨r.database, r.name⟩

/-- The table that the row of a column belongs to. -/
def CapturedColumn.tableName (c : CapturedColumn) : TableName :=
  ⟨c.database, c.table⟩

/-- The table that the row of a key belongs to. -/
def CapturedKey.tableName (k : CapturedKey) : TableName :=
  ⟨k.database, k.table⟩

/-! ## What a table is made of -/

/-- The items of a list in an order in which a number of theirs does not decrease. -/
structure OrderedBy {α : Type} (number : α → Nat) (items ordered : List α) : Prop where
  perm : ordered.Perm items
  sorted : ordered.Pairwise fun a b => number a ≤ number b

/-- A column is the one of a row; where the row gives no charset to texts, they have that of the
table. -/
structure CapturedColumn.Describes (tableCharset : String) (r : CapturedColumn) (c : Column) :
    Prop where
  name : c.name = r.name
  kind : ∃ k, ColumnKind.declare? r.dataType r.attributes = some k ∧
    c.kind = k.inheritCharset tableCharset

namespace Table

/-- A table has one column for each row of a column and one entry of its primary key for each row of
a key, in the order of the positions that the rows give. -/
structure MadeOf (t : Table) (columns : List CapturedColumn) (keys : List CapturedKey) : Prop where
  columns : ∃ ordered, OrderedBy CapturedColumn.ordinal columns ordered ∧
    List.Forall₂ (CapturedColumn.Describes t.charset) ordered t.columns.toList
  keys : ∃ ordered, OrderedBy CapturedKey.ordinal keys ordered ∧
    t.primaryKey = ordered.map CapturedKey.column

/-- The entries of the primary key, each with the table. -/
def keyEntries (t : Table) : List (TableName × String) :=
  t.primaryKey.map fun name => (⟨t.database, t.name⟩, name)

end Table

/-- The entry of a primary key that a row is about, with its table. -/
def CapturedKey.entry (k : CapturedKey) : TableName × String :=
  (k.tableName, k.column)

/-- A schema is made of rows: it has their databases, and for each row of a table one table, which
is in a database of the name that the row gives and is made of the rows that belong to it.  All rows
of columns belong to tables. -/
structure Capture.Assembles (rows : Capture) (s : Schema) : Prop where
  databases : s.databaseNames = rows.userDatabases.map CapturedDatabase.name
  tables : (s.tables.map Table.captured).Perm rows.userTables
  placed : s.AllTables fun database t => s.caseMode.namesEqual database t.database = true
  named : ∀ r ∈ rows.userTables, ∃ d ∈ rows.userDatabases,
    s.caseMode.namesEqual d.name r.database = true
  made : ∀ t ∈ s.tables, t.MadeOf (rows.userColumns.filter t.captured.hasColumn)
    (rows.userKeys.filter t.captured.hasKey)
  columns : ∀ c ∈ rows.userColumns, ∃ r ∈ rows.userTables, r.hasColumn c = true

/-! ## Rows that belong to tables -/

theorem CapturedTable.hasColumn_iff {r : CapturedTable} {c : CapturedColumn} :
    r.hasColumn c = true ↔ c.tableName = r.tableName := by
  simp [hasColumn, CapturedColumn.tableName, tableName]

theorem CapturedTable.hasKey_iff {r : CapturedTable} {k : CapturedKey} :
    r.hasKey k = true ↔ k.tableName = r.tableName := by
  simp [hasKey, CapturedKey.tableName, tableName]

/-- If each row is claimed by the item of its key alone, then items with different keys claim the
rows that have one of their keys, each row once. -/
theorem flatMap_claimed_perm {α β ρ : Type} [DecidableEq β] (f : α → β) (g : ρ → β)
    {claims : α → ρ → Bool} (hclaims : ∀ a r, claims a r = true ↔ g r = f a) {as : List α}
    (has : (as.map f).Nodup) (rows : List ρ) :
    (as.flatMap fun a => rows.filter (claims a)).Perm
      (rows.filter fun r => g r ∈ as.map f) := by
  induction as with
  | nil => simp
  | cons a as ih =>
    rw [List.map_cons, List.nodup_cons] at has
    have hown : (rows.filter fun r => g r ∈ f a :: as.map f).filter (claims a) =
        rows.filter (claims a) := by
      rw [List.filter_filter]
      refine List.filter_congr fun r _ => ?_
      rw [Bool.eq_iff_iff, Bool.and_eq_true, hclaims]
      simp +contextual
    have hothers : ((rows.filter fun r => g r ∈ f a :: as.map f).filter fun r => !claims a r) =
        rows.filter fun r => g r ∈ as.map f := by
      rw [List.filter_filter]
      refine List.filter_congr fun r _ => ?_
      rw [Bool.eq_iff_iff, Bool.and_eq_true, Bool.not_eq_true', ← Bool.not_eq_true, hclaims,
        decide_eq_true_iff, decide_eq_true_iff, List.mem_cons]
      constructor
      · rintro ⟨hne, heq | hmem⟩
        · exact absurd heq hne
        · exact hmem
      · exact fun hmem => ⟨fun heq => has.1 (heq ▸ hmem), .inr hmem⟩
    have hparts := List.filter_append_perm (claims a)
      (rows.filter fun r => g r ∈ f a :: as.map f)
    rw [hown, hothers] at hparts
    rw [List.flatMap_cons, List.map_cons]
    exact ((ih has.2).append_left _).trans hparts

/-! ## Making a table -/

theorem orderedBy_mergeSort {α : Type} (number : α → Nat) (items : List α) :
    OrderedBy number items (items.mergeSort fun a b => number a ≤ number b) where
  perm := List.mergeSort_perm _ _
  sorted := pairwise_mergeSort_key number items

theorem forall₂_of_mapM {ε α β : Type} {f : α → Except ε β} {as : List α} {bs : List β}
    (h : as.mapM f = .ok bs) : List.Forall₂ (fun a b => f a = .ok b) as bs := by
  induction as generalizing bs with
  | nil =>
    cases h
    exact .nil
  | cons a as ih =>
    rw [List.mapM_cons, bind_eq_ok_iff] at h
    obtain ⟨b, hb, h⟩ := h
    obtain ⟨bs, hbs, h⟩ := bind_eq_ok_iff.1 h
    cases h
    exact .cons hb (ih hbs)

theorem Column.eq_of_declare {name declared : String} {position : Nat} {a : Attributes}
    {c : Column} (h : declare name declared position a = .ok c) :
    c.name = name ∧ ColumnKind.declare? declared a = some c.kind := by
  rw [declare] at h
  split at h
  next kind hkind =>
    cases h
    exact ⟨rfl, hkind⟩
  next => cases h

/-- Numbering columns changes nothing about what describes them. -/
theorem forall₂_toList_ofList {charset : String} {rs : List CapturedColumn} {cs : List Column}
    (h : List.Forall₂ (CapturedColumn.Describes charset) rs cs) :
    List.Forall₂ (CapturedColumn.Describes charset) rs (ColumnList.ofList cs).toList := by
  rw [List.forall₂_iff_get] at h ⊢
  refine ⟨by simpa using h.1, fun i hi hi' => ?_⟩
  obtain ⟨hname, hkind⟩ := h.2 i hi (by simpa using hi')
  rw [List.get_eq_getElem] at hname hkind ⊢
  simp only [ColumnList.toList_ofList, List.get_eq_getElem, List.getElem_mapIdx]
  exact ⟨hname, hkind⟩

/-- A table that is made for a row has its names and charset, and is made of the rows of columns and
keys that it is made from. -/
theorem CapturedTable.table_eq_ok {r : CapturedTable} {columns : List CapturedColumn}
    {keys : List CapturedKey} {t : Table} (h : r.table columns keys = .ok t) :
    t.captured = r ∧ t.MadeOf columns keys := by
  obtain ⟨cs, hcs, h⟩ := bind_eq_ok_iff.1 h
  cases h
  refine ⟨rfl, ⟨_, orderedBy_mergeSort _ columns, forall₂_toList_ofList ?_⟩,
    ⟨_, orderedBy_mergeSort _ keys, rfl⟩⟩
  rw [List.forall₂_map_right_iff]
  refine (forall₂_of_mapM hcs).imp fun c column hcolumn => ?_
  obtain ⟨hname, hkind⟩ := Column.eq_of_declare hcolumn
  exact ⟨hname, _, hkind, rfl⟩

/-! ## Adding tables -/

/-- A table that is added is one more, wherever it stands. -/
theorem Schema.tables_addTable {s s' : Schema} {t : Table} (h : s.addTable t = .ok s') :
    s'.tables.Perm (t :: s.tables) := by
  obtain ⟨front, d, back, d', hd, -, -, hd', rfl⟩ := updateDatabase_eq_ok_iff.1 h
  cases hd'
  simp only [tables, hd, List.flatMap_append, List.flatMap_cons, Database.addTable]
  rw [List.append_assoc, List.singleton_append, ← List.append_assoc]
  refine List.perm_middle.trans (.cons t ?_)
  rw [List.append_assoc]

namespace Assembly

/-- What an assembly has after the rows of some tables: the rows that belong to none of these are
left.  Of the others the tables are made; if several have one name then the first gets them all. -/
structure Added (start : Assembly) (rs : List CapturedTable) (a : Assembly) : Prop where
  columnsLeft : a.columns =
    start.columns.filter fun c => c.tableName ∉ rs.map CapturedTable.tableName
  keysLeft : a.keys = start.keys.filter fun k => k.tableName ∉ rs.map CapturedTable.tableName
  same : start.schema.SameDatabases a.schema
  tables : (a.schema.tables.map Table.captured).Perm rs
  placed : a.schema.AllTables fun database t =>
    a.schema.caseMode.namesEqual database t.database = true
  made : ∀ t ∈ a.schema.tables, t.MadeOf (start.columns.filter t.captured.hasColumn)
    (start.keys.filter t.captured.hasKey) ∨ t.MadeOf [] []
  first : ∀ r ∈ rs, ∃ t ∈ a.schema.tables, t.captured.tableName = r.tableName ∧
    t.MadeOf (start.columns.filter t.captured.hasColumn) (start.keys.filter t.captured.hasKey)

variable {start a a' : Assembly} {rs : List CapturedTable} {r : CapturedTable}

theorem addTable_eq_ok_iff : a.addTable r = .ok a' ↔
    ∃ t, r.table (a.columns.filter r.hasColumn) (a.keys.filter r.hasKey) = .ok t ∧
      a.schema.addTable t = .ok a'.schema ∧
      a'.columns = (a.columns.filter fun c => !r.hasColumn c) ∧
      a'.keys = a.keys.filter fun k => !r.hasKey k := by
  rw [addTable, bind_eq_ok_iff]
  refine exists_congr fun t => and_congr_right fun _ => ?_
  rw [bind_eq_ok_iff]
  simp only [mapError_eq_ok_iff]
  constructor
  · rintro ⟨s, hs, ⟨⟩⟩
    exact ⟨hs, rfl, rfl⟩
  · rintro ⟨hs, hcolumns, hkeys⟩
    exact ⟨_, hs, by rw [← hcolumns, ← hkeys]; rfl⟩

section

variable {ρ : Type} {g : ρ → TableName} {claims : ρ → Bool} {names : List TableName}

/-- The rows that are left for a table after others are all that belong to it. -/
theorem filter_left (hclaims : ∀ x, claims x = true ↔ g x = r.tableName)
    (hr : r.tableName ∉ names) (xs : List ρ) :
    (xs.filter fun x => g x ∉ names).filter claims = xs.filter claims := by
  rw [List.filter_filter]
  refine List.filter_congr fun x _ => ?_
  rw [Bool.eq_iff_iff, Bool.and_eq_true, hclaims, decide_eq_true_iff]
  exact ⟨fun h => h.1, fun h => ⟨h, h ▸ hr⟩⟩

/-- No rows are left for a table after one that they belong to as well. -/
theorem filter_none_left (hclaims : ∀ x, claims x = true ↔ g x = r.tableName)
    (hr : r.tableName ∈ names) (xs : List ρ) :
    (xs.filter fun x => g x ∉ names).filter claims = [] := by
  refine List.filter_eq_nil_iff.2 fun x hx hclaim => ?_
  have hleft := of_decide_eq_true (List.mem_filter.1 hx).2
  exact hleft (((hclaims x).1 hclaim).symm ▸ hr)

/-- After one more table the rows are left that belong neither to it nor to those before. -/
theorem filter_not_left (hclaims : ∀ x, claims x = true ↔ g x = r.tableName) (xs : List ρ) :
    ((xs.filter fun x => g x ∉ names).filter fun x => !claims x) =
      xs.filter fun x => g x ∉ names ++ [r.tableName] := by
  rw [List.filter_filter]
  refine List.filter_congr fun x _ => ?_
  rw [Bool.eq_iff_iff, Bool.and_eq_true, Bool.not_eq_true', ← Bool.not_eq_true, hclaims,
    decide_eq_true_iff, decide_eq_true_iff, List.mem_append, List.mem_singleton, not_or, and_comm]

end

/-- A table that is added is made of the rows that belong to it, or of none if they have been taken
by another of its name. -/
theorem Added.madeOf (h : start.Added rs a) {t : Table}
    (ht : r.table (a.columns.filter r.hasColumn) (a.keys.filter r.hasKey) = .ok t) :
    t.captured = r ∧
      (t.MadeOf (start.columns.filter r.hasColumn) (start.keys.filter r.hasKey) ∨
        t.MadeOf [] [] ∧ r.tableName ∈ rs.map CapturedTable.tableName) := by
  obtain ⟨hrow, hmade⟩ := CapturedTable.table_eq_ok ht
  refine ⟨hrow, ?_⟩
  rw [h.columnsLeft, h.keysLeft] at hmade
  by_cases hr : r.tableName ∈ rs.map CapturedTable.tableName
  · rw [filter_none_left (fun _ => CapturedTable.hasColumn_iff) hr,
      filter_none_left (fun _ => CapturedTable.hasKey_iff) hr] at hmade
    exact .inr ⟨hmade, hr⟩
  · rw [filter_left (fun _ => CapturedTable.hasColumn_iff) hr,
      filter_left (fun _ => CapturedTable.hasKey_iff) hr] at hmade
    exact .inl hmade

theorem Added.addTable (h : start.Added rs a) (ha : a.addTable r = .ok a') :
    start.Added (rs ++ [r]) a' := by
  obtain ⟨t, ht, hs, hcolumns, hkeys⟩ := addTable_eq_ok_iff.1 ha
  obtain ⟨rfl, hmade⟩ := h.madeOf ht
  have hsame := Schema.SameDatabases.of_addTable hs
  have htables := Schema.tables_addTable hs
  exact {
    columnsLeft := by
      rw [hcolumns, h.columnsLeft, List.map_append]
      exact filter_not_left (fun _ => CapturedTable.hasColumn_iff) _
    keysLeft := by
      rw [hkeys, h.keysLeft, List.map_append]
      exact filter_not_left (fun _ => CapturedTable.hasKey_iff) _
    same := h.same.trans hsame
    tables := (htables.map _).trans ((h.tables.cons _).trans (List.perm_append_singleton _ _).symm)
    placed := by
      rw [hsame.caseMode]
      exact Schema.AllTables.addTable h.placed hs fun _ _ hname => hname
    made := fun u hu => by
      rcases List.mem_cons.1 (htables.subset hu) with rfl | hu
      · exact hmade.imp_right And.left
      · exact h.made u hu
    first := fun r hr => by
      by_cases hbefore : r.tableName ∈ rs.map CapturedTable.tableName
      · obtain ⟨r', hr', hname⟩ := List.mem_map.1 hbefore
        obtain ⟨u, hu, huname, humade⟩ := h.first r' hr'
        exact ⟨u, htables.symm.subset (List.mem_cons_of_mem t hu), huname.trans hname, humade⟩
      · obtain rfl | hr := (List.mem_append.1 hr).symm.imp_left List.mem_singleton.1
        · exact ⟨t, htables.symm.subset List.mem_cons_self, rfl,
            hmade.resolve_right fun h => hbefore h.2⟩
        · exact absurd (List.mem_map_of_mem hr) hbefore }

theorem Added.foldlM {others : List CapturedTable} (h : start.Added rs a)
    (ha : others.foldlM Assembly.addTable a = .ok a') : start.Added (rs ++ others) a' := by
  induction others generalizing rs a with
  | nil =>
    cases ha
    rwa [List.append_nil]
  | cons r others ih =>
    obtain ⟨next, hnext, ha⟩ := bind_eq_ok_iff.1 ha
    rw [← List.singleton_append, ← List.append_assoc]
    exact ih (h.addTable hnext) ha

/-- If the rows are of different tables then each table is made of all rows that belong to it. -/
theorem Added.made_of_nodup (h : start.Added rs a)
    (hrs : (rs.map CapturedTable.tableName).Nodup) {t : Table} (ht : t ∈ a.schema.tables) :
    t.MadeOf (start.columns.filter t.captured.hasColumn)
      (start.keys.filter t.captured.hasKey) := by
  have hnodup : (a.schema.tables.map fun u => u.captured.tableName).Nodup := by
    have hnames := (h.tables.map CapturedTable.tableName).nodup_iff.2 hrs
    rwa [List.map_map] at hnames
  obtain ⟨u, hu, hname, hmade⟩ := h.first _ (h.tables.subset (List.mem_map_of_mem ht))
  rwa [List.inj_on_of_nodup_map hnodup hu ht hname] at hmade

/-- Where nothing has been assembled, no table has been added. -/
theorem added_nil (h : start.schema.tables = []) : start.Added [] start where
  columnsLeft := by simp
  keysLeft := by simp
  same := .refl _
  tables := by simp [h]
  placed d hd t ht := by
    have hmem := List.mem_flatMap.2 ⟨d, hd, ht⟩
    rw [← Schema.tables, h] at hmem
    cases hmem
  made := by simp [h]
  first := by simp

end Assembly

/-! ## Accounting for rows -/

namespace Capture

variable {rows : Capture} {mode : CaseMode} {s : Schema}

/-- What is there before the first table is added. -/
def start (rows : Capture) (mode : CaseMode) : Assembly :=
  ⟨⟨rows.serverCharset, mode, rows.userDatabases.map fun d => ⟨d.name, d.charset, []⟩⟩,
    rows.userColumns, rows.userKeys⟩

theorem tables_start (rows : Capture) (mode : CaseMode) : (rows.start mode).schema.tables = [] := by
  simp [start, Schema.tables]

/-- A schema is assembled by adding all tables, after which no row of a column may be left. -/
theorem schema_eq_ok_iff : rows.schema mode = .ok s ↔
    ∃ a, rows.userTables.foldlM Assembly.addTable (rows.start mode) = .ok a ∧ a.columns = [] ∧
      a.schema = s := by
  rw [schema]
  show rows.userTables.foldlM Assembly.addTable (rows.start mode) >>= _ = _ ↔ _
  rw [bind_eq_ok_iff]
  refine exists_congr fun a => and_congr_right fun _ => ?_
  cases a.columns with
  | nil => simp [pure_eq_ok_iff]
  | cons c cs => simp [throw, throwThe, MonadExceptOf.throw]

/-- After all tables, those of a capture have been added. -/
theorem added_start {a : Assembly}
    (h : rows.userTables.foldlM Assembly.addTable (rows.start mode) = .ok a) :
    (rows.start mode).Added rows.userTables a :=
  (Assembly.added_nil (rows.tables_start mode)).foldlM h

theorem assembles_of_schema (h : rows.schema mode = .ok s)
    (hdistinct : (rows.userTables.map CapturedTable.tableName).Nodup) :
    rows.Assembles s := by
  obtain ⟨a, ha, hleft, rfl⟩ := schema_eq_ok_iff.1 h
  have hadded := added_start ha
  have hdatabases : a.schema.databaseNames = rows.userDatabases.map CapturedDatabase.name := by
    rw [hadded.same.databaseNames, Schema.databaseNames]
    simp [start]
  refine ⟨hdatabases, hadded.tables, hadded.placed, fun r hr => ?_,
    fun t ht => hadded.made_of_nodup hdistinct ht, fun c hc => ?_⟩
  · obtain ⟨t, ht, rfl⟩ := List.mem_map.1 (hadded.tables.symm.subset hr)
    obtain ⟨d, hd, ht⟩ := List.mem_flatMap.1 ht
    have hname : d.name ∈ rows.userDatabases.map CapturedDatabase.name :=
      hdatabases ▸ List.mem_map_of_mem hd
    obtain ⟨row, hrow, heq⟩ := List.mem_map.1 hname
    exact ⟨row, hrow, heq ▸ hadded.placed d hd t ht⟩
  · have hclaimed := List.filter_eq_nil_iff.1 (hadded.columnsLeft.symm.trans hleft) c hc
    rw [decide_eq_true_iff, not_not] at hclaimed
    obtain ⟨r, hr, heq⟩ := List.mem_map.1 hclaimed
    exact ⟨r, hr, CapturedTable.hasColumn_iff.2 heq.symm⟩

/-- Whether there is a row of the table that the row of a key belongs to. -/
def hasTableOf (rows : Capture) (k : CapturedKey) : Bool :=
  rows.userTables.any fun r => r.hasKey k

theorem hasTableOf_iff {k : CapturedKey} :
    rows.hasTableOf k = true ↔ k.tableName ∈ rows.userTables.map CapturedTable.tableName := by
  rw [hasTableOf, List.any_eq_true, List.mem_map]
  refine exists_congr fun r => and_congr_right fun _ => ?_
  rw [CapturedTable.hasKey_iff]
  exact eq_comm

theorem keyEntries_of_madeOf {t : Table} {columns : List CapturedColumn} {keys : List CapturedKey}
    (h : t.MadeOf columns (keys.filter t.captured.hasKey)) :
    t.keyEntries.Perm ((keys.filter t.captured.hasKey).map CapturedKey.entry) := by
  obtain ⟨ordered, hordered, hkey⟩ := h.keys
  have hentries : t.keyEntries = ordered.map CapturedKey.entry := by
    rw [Table.keyEntries, hkey, List.map_map]
    refine List.map_congr_left fun k hk => ?_
    have hown := (List.mem_filter.1 (hordered.perm.subset hk)).2
    rw [CapturedKey.entry, CapturedTable.hasKey_iff.1 hown]
    rfl
  rw [hentries]
  exact hordered.perm.map _

/-- The entries of all primary keys are the rows of keys that have a table. -/
theorem Assembles.keyEntries_perm (h : rows.Assembles s)
    (hdistinct : (rows.userTables.map CapturedTable.tableName).Nodup) :
    (s.tables.flatMap Table.keyEntries).Perm
      ((rows.userKeys.filter rows.hasTableOf).map CapturedKey.entry) := by
  have hmade : (s.tables.flatMap Table.keyEntries).Perm
      (s.tables.flatMap fun t => (rows.userKeys.filter t.captured.hasKey).map CapturedKey.entry) :=
    List.Perm.flatMap_left _ fun t ht => keyEntries_of_madeOf (h.made t ht)
  have hclaimed : (rows.userTables.flatMap fun r => rows.userKeys.filter r.hasKey).Perm
      (rows.userKeys.filter fun k =>
        k.tableName ∈ rows.userTables.map CapturedTable.tableName) :=
    flatMap_claimed_perm CapturedTable.tableName CapturedKey.tableName
      (fun _ _ => CapturedTable.hasKey_iff) hdistinct rows.userKeys
  have hkept : (rows.userKeys.filter fun k =>
      k.tableName ∈ rows.userTables.map CapturedTable.tableName) =
        rows.userKeys.filter rows.hasTableOf :=
    List.filter_congr fun k _ => by
      rw [Bool.eq_iff_iff, decide_eq_true_iff, hasTableOf_iff]
  have hrows := (h.tables.flatMap_right fun r => rows.userKeys.filter r.hasKey).trans hclaimed
  rw [hkept, List.flatMap_map] at hrows
  have hall := hrows.map CapturedKey.entry
  rw [List.map_flatMap] at hall
  exact hmade.trans hall

/-- A schema that is assembled from rows of different tables is made of them, except that rows of
keys which belong to no table are passed over: the entries of the primary keys are those of the
others, so that they account for all rows of keys just if each of these belongs to a table. -/
theorem schema_accounts (h : rows.schema mode = .ok s)
    (hdistinct : (rows.userTables.map CapturedTable.tableName).Nodup) :
    rows.Assembles s ∧
    (s.tables.flatMap Table.keyEntries).Perm
      ((rows.userKeys.filter rows.hasTableOf).map CapturedKey.entry) ∧
    ((s.tables.flatMap Table.keyEntries).Perm (rows.userKeys.map CapturedKey.entry) ↔
      ∀ k ∈ rows.userKeys, ∃ r ∈ rows.userTables, r.hasKey k = true) := by
  have hassembles := assembles_of_schema h hdistinct
  have hentries := hassembles.keyEntries_perm hdistinct
  refine ⟨hassembles, hentries, fun hall k hk => ?_, fun hall => ?_⟩
  · have hlength := (hentries.symm.trans hall).length_eq
    rw [List.length_map, List.length_map, List.length_filter_eq_length_iff] at hlength
    exact List.any_eq_true.1 (hlength k hk)
  · have hkept : rows.userKeys.filter rows.hasTableOf = rows.userKeys :=
      List.filter_eq_self.2 fun k hk => List.any_eq_true.2 (hall k hk)
    rwa [hkept] at hentries

/-- Two tables of one name in a database that is written in three ways, a row of a table of the
server itself, and a row of the key of a table that there is not. -/
theorem schema_accounts_ghost :
    let rows : Capture := ⟨"utf8mb4", [⟨"shop", "latin1"⟩, ⟨"sys", "utf8mb4"⟩],
      [⟨"Shop", "orders", "utf8mb4"⟩, ⟨"INFORMATION_SCHEMA", "files", "utf8mb3"⟩,
        ⟨"SHOP", "orders", "latin1"⟩],
      [⟨"SHOP", "orders", "at", 7, "timestamp", "timestamp(3)", none, some 3⟩,
        ⟨"Shop", "orders", "id", 2, "int", "int(10) unsigned", none, none⟩],
      [⟨"Shop", "ghost", "id", 1⟩, ⟨"Shop", "orders", "id", 1⟩]⟩
    ∃ s, rows.schema .insensitive = .ok s ∧ rows.Assembles s ∧
      s.tables.map Table.keyEntries = [[(⟨"Shop", "orders"⟩, "id")], []] ∧
      ¬(s.tables.flatMap Table.keyEntries).Perm (rows.userKeys.map CapturedKey.entry) := by
  intro rows
  have hentries : ((rows.schema .insensitive).toOption.map fun s =>
      s.tables.map Table.keyEntries) = some [[(⟨"Shop", "orders"⟩, "id")], []] := by
    decide +kernel
  obtain ⟨s, hs, hkeys⟩ := Option.map_eq_some_iff.1 hentries
  have hs : rows.schema .insensitive = .ok s := toOption_eq_some_iff.1 hs
  obtain ⟨hassembles, -, hall⟩ := schema_accounts hs (by decide +kernel)
  exact ⟨s, hs, hassembles, hkeys, fun h => absurd (hall.1 h) (by decide +kernel)⟩

/-- The row of a key may belong to no table although a schema is assembled. -/
theorem schema_passes_over_key :
    let rows : Capture := ⟨"utf8mb4", [⟨"d", "utf8mb4"⟩], [⟨"d", "t", "utf8mb4"⟩],
      [⟨"d", "t", "id", 1, "int", "int", none, none⟩], [⟨"d", "ghost", "id", 1⟩]⟩
    ∃ s, rows.schema .sensitive = .ok s ∧
      ∃ k ∈ rows.userKeys, ∀ r ∈ rows.userTables, r.hasKey k = false := by
  intro rows
  have hsome : (rows.schema .sensitive).toOption.isSome = true := by decide +kernel
  obtain ⟨s, hs⟩ := isSome_toOption_iff.1 hsome
  exact ⟨s, hs, by decide +kernel⟩

end Capture

end SchemaTrail
