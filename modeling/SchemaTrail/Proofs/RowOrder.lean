import SchemaTrail.Proofs.AssembledTables

/-!
# The order of rows

The rows of columns and keys come in any order, but within a table they are numbered.  So the rows
that a table claims have one order in which their numbers increase, and sorting brings them into it
wherever they come from (`Numbered.mergeSort_eq`).  It follows that rows which are rearranged are
assembled to the same schema, or not at all (`Capture.schema_rearranged`).
-/

namespace SchemaTrail

open Outcome

/-! ## Numbered rows -/

/-- Rows of one table have different numbers. -/
def Numbered {ρ : Type} (place : ρ → TableName) (number : ρ → Nat) (rows : List ρ) : Prop :=
  rows.Pairwise fun x y => place x = place y → number x ≠ number y

theorem OrderedBy.increasing {α : Type} {number : α → Nat} {items ordered : List α}
    (h : OrderedBy number items ordered) (hitems : items.Pairwise fun x y => number x ≠ number y) :
    ordered.Pairwise fun x y => number x < number y := by
  have hdistinct := (h.perm.pairwise_iff fun hne => hne.symm).2 hitems
  exact (h.sorted.and hdistinct).imp fun hxy => Nat.lt_of_le_of_ne hxy.1 hxy.2

namespace Numbered

variable {ρ : Type} {place : ρ → TableName} {number : ρ → Nat} {rows rows' : List ρ}
  {claims : ρ → Bool} {name : TableName}

theorem perm (h : Numbered place number rows) (hperm : rows.Perm rows') :
    Numbered place number rows' :=
  (hperm.pairwise_iff fun hne heq => (hne heq.symm).symm).1 h

theorem filter (h : Numbered place number rows) (p : ρ → Bool) :
    Numbered place number (rows.filter p) :=
  List.Pairwise.filter p h

/-- The rows that one table claims have different numbers. -/
theorem claimed (h : Numbered place number rows)
    (hclaims : ∀ x, claims x = true ↔ place x = name) :
    (rows.filter claims).Pairwise fun x y => number x ≠ number y := by
  refine (h.filter claims).imp_of_mem fun {x y} hx hy hne => hne ?_
  rw [(hclaims x).1 (List.mem_filter.1 hx).2, (hclaims y).1 (List.mem_filter.1 hy).2]

/-- The order of rows does not matter to the table that claims and sorts them. -/
theorem mergeSort_eq (h : Numbered place number rows) (hperm : rows.Perm rows')
    (hclaims : ∀ x, claims x = true ↔ place x = name) :
    (rows.filter claims).mergeSort (fun x y => number x ≤ number y) =
      (rows'.filter claims).mergeSort fun x y => number x ≤ number y := by
  have hsorted := orderedBy_mergeSort number (rows'.filter claims)
  exact mergeSort_eq_of_perm ((hperm.filter claims).trans hsorted.perm.symm)
    (hsorted.increasing ((h.perm hperm).claimed hclaims))

end Numbered

/-! ## Rearranging rows -/

/-- Rows that differ in the order of columns and keys only. -/
structure Capture.Rearranges (rows rows' : Capture) : Prop where
  serverCharset : rows.serverCharset = rows'.serverCharset
  databases : rows.databases = rows'.databases
  tables : rows.tables = rows'.tables
  columns : rows.columns.Perm rows'.columns
  keys : rows.keys.Perm rows'.keys

/-- The columns and the key columns of each table are numbered differently. -/
structure Capture.IsNumbered (rows : Capture) : Prop where
  columns : Numbered CapturedColumn.tableName CapturedColumn.ordinal rows.columns
  keys : Numbered CapturedKey.tableName CapturedKey.ordinal rows.keys

namespace Assembly

/-- Two assemblies that differ in the order of the rows that are left. -/
structure Rearranges (a b : Assembly) : Prop where
  schema : a.schema = b.schema
  columns : a.columns.Perm b.columns
  keys : a.keys.Perm b.keys
  numberedColumns : Numbered CapturedColumn.tableName CapturedColumn.ordinal a.columns
  numberedKeys : Numbered CapturedKey.tableName CapturedKey.ordinal a.keys

variable {a b a' : Assembly} {r : CapturedTable}

theorem Rearranges.table_eq (h : a.Rearranges b) (r : CapturedTable) :
    r.table (a.columns.filter r.hasColumn) (a.keys.filter r.hasKey) =
      r.table (b.columns.filter r.hasColumn) (b.keys.filter r.hasKey) := by
  rw [CapturedTable.table, CapturedTable.table,
    h.numberedColumns.mergeSort_eq h.columns fun _ => CapturedTable.hasColumn_iff,
    h.numberedKeys.mergeSort_eq h.keys fun _ => CapturedTable.hasKey_iff]

theorem Rearranges.addTable (h : a.Rearranges b) (ha : a.addTable r = .ok a') :
    ∃ b', b.addTable r = .ok b' ∧ a'.Rearranges b' := by
  obtain ⟨t, ht, hs, hcolumns, hkeys⟩ := addTable_eq_ok_iff.1 ha
  rw [h.table_eq] at ht
  rw [h.schema] at hs
  refine ⟨⟨a'.schema, b.columns.filter _, b.keys.filter _⟩,
    addTable_eq_ok_iff.2 ⟨t, ht, hs, rfl, rfl⟩, rfl, ?_, ?_, ?_, ?_⟩
  · exact hcolumns ▸ h.columns.filter _
  · exact hkeys ▸ h.keys.filter _
  · exact hcolumns ▸ h.numberedColumns.filter _
  · exact hkeys ▸ h.numberedKeys.filter _

theorem Rearranges.foldlM {rs : List CapturedTable} (h : a.Rearranges b)
    (ha : rs.foldlM Assembly.addTable a = .ok a') :
    ∃ b', rs.foldlM Assembly.addTable b = .ok b' ∧ a'.Rearranges b' := by
  induction rs generalizing a b with
  | nil =>
    cases ha
    exact ⟨b, rfl, h⟩
  | cons r rs ih =>
    obtain ⟨a₁, ha₁, ha⟩ := bind_eq_ok_iff.1 ha
    obtain ⟨b₁, hb₁, h₁⟩ := h.addTable ha₁
    obtain ⟨b', hb', h'⟩ := ih h₁ ha
    exact ⟨b', bind_eq_ok_iff.2 ⟨b₁, hb₁, hb'⟩, h'⟩

end Assembly

namespace Capture

variable {rows rows' : Capture} {mode : CaseMode} {s : Schema}

theorem Rearranges.symm (h : rows.Rearranges rows') : rows'.Rearranges rows :=
  ⟨h.serverCharset.symm, h.databases.symm, h.tables.symm, h.columns.symm, h.keys.symm⟩

theorem IsNumbered.rearrange (hnumbered : rows.IsNumbered) (h : rows.Rearranges rows') :
    rows'.IsNumbered :=
  ⟨hnumbered.columns.perm h.columns, hnumbered.keys.perm h.keys⟩

theorem Rearranges.start (h : rows.Rearranges rows') (hnumbered : rows.IsNumbered)
    (mode : CaseMode) : (rows.start mode).Rearranges (rows'.start mode) where
  schema := by simp only [Capture.start, userDatabases, h.serverCharset, h.databases]
  columns := h.columns.filter _
  keys := h.keys.filter _
  numberedColumns := hnumbered.columns.filter _
  numberedKeys := hnumbered.keys.filter _

/-- If rows are assembled to a schema then they are so in any other order. -/
theorem Rearranges.schema_eq_ok (h : rows.Rearranges rows') (hnumbered : rows.IsNumbered)
    (hs : rows.schema mode = .ok s) : rows'.schema mode = .ok s := by
  obtain ⟨a, ha, hleft, rfl⟩ := schema_eq_ok_iff.1 hs
  obtain ⟨b, hb, hab⟩ := (h.start hnumbered mode).foldlM ha
  rw [userTables, h.tables] at hb
  refine schema_eq_ok_iff.2 ⟨b, hb, ?_, hab.schema.symm⟩
  rw [← List.nil_perm, ← hleft]
  exact hab.columns

end Capture

/-! ## The order in a table -/

/-- The columns of a table are those of rows in the order in which their numbers increase, and so
are the columns of its key. -/
structure Table.InRowOrder (t : Table) (columns : List CapturedColumn) (keys : List CapturedKey) :
    Prop where
  columns : ∃ ordered : List CapturedColumn, ordered.Perm columns ∧
    (ordered.Pairwise fun c d => c.ordinal < d.ordinal) ∧
    List.Forall₂ (CapturedColumn.Describes t.charset) ordered t.columns.toList
  keys : ∃ ordered : List CapturedKey, ordered.Perm keys ∧
    (ordered.Pairwise fun k l => k.ordinal < l.ordinal) ∧
    t.primaryKey = ordered.map CapturedKey.column

/-- Each row of a table has a table with all the columns and keys that belong to it, in order.
Another table has them too, or has none if it was given their name a second time. -/
structure Schema.InRowOrder (s : Schema) (rows : Capture) : Prop where
  present : ∀ r ∈ rows.userTables, ∃ t ∈ s.tables, t.captured.tableName = r.tableName ∧
    t.InRowOrder (rows.userColumns.filter t.captured.hasColumn)
      (rows.userKeys.filter t.captured.hasKey)
  all : ∀ t ∈ s.tables, t.InRowOrder (rows.userColumns.filter t.captured.hasColumn)
      (rows.userKeys.filter t.captured.hasKey) ∨ t.columns.toList = [] ∧ t.primaryKey = []

theorem Table.MadeOf.inRowOrder {t : Table} {columns : List CapturedColumn}
    {keys : List CapturedKey} (h : t.MadeOf columns keys)
    (hcolumns : columns.Pairwise fun c d => c.ordinal ≠ d.ordinal)
    (hkeys : keys.Pairwise fun k l => k.ordinal ≠ l.ordinal) : t.InRowOrder columns keys := by
  obtain ⟨⟨cs, hcs, hdescribes⟩, ks, hks, hkey⟩ := h
  exact ⟨⟨cs, hcs.perm, hcs.increasing hcolumns, hdescribes⟩,
    ks, hks.perm, hks.increasing hkeys, hkey⟩

theorem Table.MadeOf.eq_nil {t : Table} (h : t.MadeOf [] []) :
    t.columns.toList = [] ∧ t.primaryKey = [] := by
  obtain ⟨⟨cs, hcs, hdescribes⟩, ks, hks, hkey⟩ := h
  rw [hcs.perm.eq_nil] at hdescribes
  rw [hks.perm.eq_nil] at hkey
  exact ⟨List.forall₂_nil_left_iff.1 hdescribes, hkey⟩

namespace Capture

variable {rows rows' : Capture} {mode : CaseMode} {s : Schema}

theorem IsNumbered.inRowOrder (hnumbered : rows.IsNumbered) (hs : rows.schema mode = .ok s) :
    s.InRowOrder rows := by
  obtain ⟨a, ha, -, rfl⟩ := schema_eq_ok_iff.1 hs
  have hadded := added_start ha
  have hordered {t : Table} (h : t.MadeOf (rows.userColumns.filter t.captured.hasColumn)
      (rows.userKeys.filter t.captured.hasKey)) := h.inRowOrder
    ((hnumbered.columns.filter _).claimed fun _ => CapturedTable.hasColumn_iff)
    ((hnumbered.keys.filter _).claimed fun _ => CapturedTable.hasKey_iff)
  constructor
  · intro r hr
    obtain ⟨t, ht, hname, hmade⟩ := hadded.first r hr
    exact ⟨t, ht, hname, hordered hmade⟩
  · intro t ht
    exact (hadded.made t ht).imp hordered Table.MadeOf.eq_nil

/-- Rows in another order are assembled to the same schema, whose tables have their columns and keys
in the order of the numbers, or they cannot be assembled either. -/
theorem schema_rearranged (h : rows.Rearranges rows') (hnumbered : rows.IsNumbered)
    (mode : CaseMode) :
    (∃ s, rows.schema mode = .ok s ∧ rows'.schema mode = .ok s ∧ s.InRowOrder rows) ∨
      ∃ e e', rows.schema mode = .error e ∧ rows'.schema mode = .error e' := by
  cases hs : rows.schema mode with
  | ok s => exact .inl ⟨s, rfl, h.schema_eq_ok hnumbered hs, hnumbered.inRowOrder hs⟩
  | error e =>
    cases hs' : rows'.schema mode with
    | ok s =>
      rw [h.symm.schema_eq_ok (hnumbered.rearrange h) hs'] at hs
      cases hs
    | error e' => exact .inr ⟨e, e', rfl, rfl⟩

/-- Positions with gaps, a key in another order than its columns, and a table of the server itself
with a column of a type that there is not. -/
theorem schema_rearranged_gaps :
    let id : CapturedColumn := ⟨"d", "t", "id", 3, "int", "int(10) unsigned", none, none⟩
    let name : CapturedColumn := ⟨"d", "t", "name", 7, "varchar", "varchar(20)", none, none⟩
    let file : CapturedColumn := ⟨"INFORMATION_SCHEMA", "t", "file", 3, "?", "?", none, none⟩
    let rows : Capture := ⟨"utf8mb4", [⟨"d", "utf8mb4"⟩], [⟨"d", "t", "latin1"⟩],
      [id, file, name], [⟨"d", "t", "name", 2⟩, ⟨"d", "t", "id", 5⟩]⟩
    let rows' := { rows with columns := [name, id, file], keys := rows.keys.reverse }
    ∃ s, rows.schema .sensitive = .ok s ∧ rows'.schema .sensitive = .ok s ∧ s.InRowOrder rows ∧
      s.tables.map (fun t => (t.columns.names, t.primaryKey)) =
        [(["id", "name"], ["name", "id"])] := by
  intro id name file rows rows'
  have hrearranges : rows.Rearranges rows' :=
    ⟨rfl, rfl, rfl, List.isPerm_iff.1 (by decide +kernel), (List.reverse_perm rows.keys).symm⟩
  have hnumbered : rows.IsNumbered :=
    ⟨by unfold Numbered; decide +kernel, by unfold Numbered; decide +kernel⟩
  have hcolumns : [id, name].Pairwise fun c d => c.ordinal < d.ordinal := by decide
  have hkeys : rows.keys.Pairwise fun k l => k.ordinal < l.ordinal := by decide
  let t := Table.create "d" "t" "latin1" [⟨"id", .integer .regular false, 2⟩,
    ⟨"name", .text .varying none, 6⟩] ["name", "id"]
  have ht : CapturedTable.table ⟨"d", "t", "latin1"⟩ [id, name] rows.keys = .ok t := by
    rw [CapturedTable.table, mergeSort_eq_of_perm (.refl _) hcolumns,
      mergeSort_eq_of_perm (.refl _) hkeys]
    decide +kernel
  have hs : rows.schema .sensitive = .ok ⟨"utf8mb4", .sensitive, [⟨"d", "utf8mb4", [t]⟩]⟩ := by
    refine schema_eq_ok_iff.2 ⟨⟨_, [], []⟩, ?_, rfl, rfl⟩
    have htables : rows.userTables = [⟨"d", "t", "latin1"⟩] := by decide +kernel
    rw [htables, foldlM_singleton, Assembly.addTable_eq_ok_iff]
    refine ⟨t, ?_, by decide +kernel, by decide +kernel, by decide +kernel⟩
    have hclaimed : (rows.start .sensitive).columns.filter
        (CapturedTable.hasColumn ⟨"d", "t", "latin1"⟩) = [id, name] := by decide +kernel
    have hclaimedKeys : (rows.start .sensitive).keys.filter
        (CapturedTable.hasKey ⟨"d", "t", "latin1"⟩) = rows.keys := by decide +kernel
    rw [hclaimed, hclaimedKeys, ht]
  rcases schema_rearranged hrearranges hnumbered .sensitive with
    ⟨s, hs₁, hs', horder⟩ | ⟨e, -, he, -⟩
  · obtain rfl := Except.ok.inj (hs.symm.trans hs₁)
    exact ⟨_, hs, hs', horder, by decide +kernel⟩
  · cases hs.symm.trans he

end Capture

end SchemaTrail
