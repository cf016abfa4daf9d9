import Mathlib.Data.Multiset.Bind
import SchemaTrail.Proofs.Differences
import SchemaTrail.Proofs.NameKeys

/-!
# Differences seen from the other side

`Schema.diff` compares what has one name on both sides in one scan of the left side, and looks for
what is missing in two scans, one of each side.  All three levels do this in the same way
(`compareByKey`), so that exchanging the sides exchanges the roles of the two scans.  Hence the
discrepancies in the one direction are those in the other with left and right exchanged, up to
their order and to the spelling of names (`Schema.diff_perm_mirrored`).
-/

namespace SchemaTrail

/-! ## Lists compared by keys -/

section KeyedLists

variable {α κ δ ε : Type} [DecidableEq κ] {key : α → κ} {xs ys : List α}

/-- The items of a list whose keys no item of the other one has. -/
def unmatched (key : α → κ) (xs ys : List α) : List α :=
  xs.filter fun x => !ys.any fun y => key y = key x

/-- What is found in two lists whose items are matched by their keys: what `compare` finds in two
items of one key, and the items that are in one of the lists only. -/
def compareByKey (key : α → κ) (compare : α → α → List δ) (onlyLeft onlyRight : α → δ)
    (xs ys : List α) : List δ :=
  (xs.flatMap fun x => (ys.find? fun y => key y = key x).elim [onlyLeft x] (compare x)) ++
    (unmatched key ys xs).map onlyRight

theorem scans_eq_compareByKey {compare : α → α → List δ} {onlyLeft onlyRight : α → δ}
    {item : α → List δ} {missing : α → Bool}
    (hitem : ∀ x ∈ xs, item x = (ys.find? fun y => key y = key x).elim [onlyLeft x] (compare x))
    (hmissing : ∀ y ∈ ys, missing y = !xs.any fun x => key x = key y) :
    xs.flatMap item ++ (ys.filter missing).map onlyRight =
      compareByKey key compare onlyLeft onlyRight xs ys := by
  rw [compareByKey, unmatched, List.flatMap_congr hitem, List.filter_congr hmissing]

/-- Where keys are distinct, what is found first is all that there is of a key. -/
theorem elim_find?_eq (hys : (ys.map key).Nodup) (k : κ) (missing : List δ) (f : α → List δ) :
    (ys.find? fun y => key y = k).elim missing f =
      (if ys.any fun y => key y = k then [] else missing) ++
        ys.flatMap fun y => if k = key y then f y else [] := by
  induction ys with
  | nil => simp
  | cons y ys ih =>
    rw [List.map_cons, List.nodup_cons] at hys
    by_cases hy : key y = k
    · have hrest : ys.flatMap (fun z => if k = key z then f z else []) = [] := by
        rw [List.flatMap_eq_nil_iff]
        intro z hz
        exact if_neg fun hzk => hys.1 (List.mem_map.2 ⟨z, hz, (hy.trans hzk).symm⟩)
      rw [List.find?_cons_of_pos (by simpa using hy), List.flatMap_cons, hrest]
      simp [hy]
    · rw [List.find?_cons_of_neg (by simpa using hy), ih hys.2, List.flatMap_cons]
      simp [hy, Ne.symm hy]

theorem flatMap_ite_eq (p : α → Bool) (f : α → δ) :
    (xs.flatMap fun x => if p x then [] else [f x]) = (xs.filter fun x => !p x).map f := by
  induction xs with
  | nil => rfl
  | cons x xs ih => cases hx : p x <;> simp [hx, ih]

/-- What is found has three parts, of which the last one is the same from either side. -/
theorem compareByKey_perm_parts {compare : α → α → List δ} {onlyLeft onlyRight : α → δ}
    (hys : (ys.map key).Nodup) :
    (compareByKey key compare onlyLeft onlyRight xs ys).Perm
      (((unmatched key xs ys).map onlyLeft ++ (unmatched key ys xs).map onlyRight) ++
        xs.flatMap fun x => ys.flatMap fun y => if key x = key y then compare x y else []) := by
  have hleft : ((unmatched key xs ys).map onlyLeft ++
      xs.flatMap fun x => ys.flatMap fun y => if key x = key y then compare x y else []).Perm
      (xs.flatMap fun x => (ys.find? fun y => key y = key x).elim [onlyLeft x] (compare x)) := by
    simp only [unmatched, ← flatMap_ite_eq, elim_find?_eq hys]
    exact List.flatMap_append_perm _ _ _
  rw [compareByKey, List.append_assoc]
  refine (hleft.symm.append_right _).trans ?_
  rw [List.append_assoc]
  exact List.perm_append_comm.append_left _

theorem flatMap_flatMap_perm (xs ys : List α) (f : α → α → List δ) :
    (xs.flatMap fun x => ys.flatMap fun y => f x y).Perm
      (ys.flatMap fun y => xs.flatMap fun x => f x y) := by
  simp only [← Multiset.coe_eq_coe, ← Multiset.coe_bind]
  exact Multiset.bind_bind _ _

/-- Exchanging the lists exchanges what is in one of them only, if what is compared is exchanged. -/
theorem compareByKey_mirror {compare compare' : α → α → List δ}
    {onlyLeft onlyRight onlyLeft' onlyRight' : α → δ} {f g : δ → ε}
    (hxs : (xs.map key).Nodup) (hys : (ys.map key).Nodup)
    (hcompare : ∀ x ∈ xs, ∀ y ∈ ys, key x = key y →
      ((compare x y).map f).Perm ((compare' y x).map g))
    (hleft : ∀ x ∈ xs, f (onlyLeft x) = g (onlyRight' x))
    (hright : ∀ y ∈ ys, f (onlyRight y) = g (onlyLeft' y)) :
    ((compareByKey key compare onlyLeft onlyRight xs ys).map f).Perm
      ((compareByKey key compare' onlyLeft' onlyRight' ys xs).map g) := by
  refine ((compareByKey_perm_parts hys).map f).trans
    (.trans ?_ ((compareByKey_perm_parts hxs).map g).symm)
  simp only [List.map_append, List.map_flatMap, List.map_map]
  have honlyLeft : (unmatched key xs ys).map (f ∘ onlyLeft) =
      (unmatched key xs ys).map (g ∘ onlyRight') :=
    List.map_congr_left fun x hx => hleft x (List.mem_of_mem_filter hx)
  have honlyRight : (unmatched key ys xs).map (f ∘ onlyRight) =
      (unmatched key ys xs).map (g ∘ onlyLeft') :=
    List.map_congr_left fun y hy => hright y (List.mem_of_mem_filter hy)
  rw [honlyLeft, honlyRight]
  refine .append List.perm_append_comm (.trans ?_ (flatMap_flatMap_perm xs ys _))
  refine List.Perm.flatMap_left _ fun x hx => List.Perm.flatMap_left _ fun y hy => ?_
  by_cases hxy : key x = key y
  · rw [if_pos hxy, if_pos hxy.symm]
    exact hcompare x hx y hy hxy
  · rw [if_neg hxy, if_neg (Ne.symm hxy)]
    exact .nil

end KeyedLists

/-! ## Discrepancies from the other side -/

/-- The other side. -/
def Side.mirror : Side → Side
  | .left => .right
  | .right => .left

/-- The mismatch with left and right exchanged. -/
def AttributeMismatch.mirror : AttributeMismatch → AttributeMismatch
  | .charset left right => .charset right left
  | .signedness left right => .signedness right left
  | .values left right => .values right left
  | .precision left right => .precision right left

namespace Discrepancy

/-- The discrepancy with left and right exchanged. -/
def mirror : Discrepancy → Discrepancy
  | .missingDatabase database side => .missingDatabase database side.mirror
  | .databaseCharset database left right => .databaseCharset database right left
  | .missingTable database table side => .missingTable database table side.mirror
  | .tableCharset database table left right => .tableCharset database table right left
  | .primaryKey database table left right => .primaryKey database table right left
  | .missingColumn database table column side => .missingColumn database table column side.mirror
  | .columnType database table column left right => .columnType database table column right left
  | .columnPosition database table column left right =>
    .columnPosition database table column right left
  | .columnAttribute database table column mismatch =>
    .columnAttribute database table column mismatch.mirror

/-- The discrepancy with the keys of names in the place of the names. -/
def keyed (mode : CaseMode) : Discrepancy → Discrepancy
  | .missingDatabase database side => .missingDatabase (mode.key database) side
  | .databaseCharset database left right => .databaseCharset (mode.key database) left right
  | .missingTable database table side => .missingTable (mode.key database) (mode.key table) side
  | .tableCharset database table left right =>
    .tableCharset (mode.key database) (mode.key table) left right
  | .primaryKey database table left right =>
    .primaryKey (mode.key database) (mode.key table) left right
  | .missingColumn database table column side =>
    .missingColumn (mode.key database) (mode.key table) (Text.lower column) side
  | .columnType database table column left right =>
    .columnType (mode.key database) (mode.key table) (Text.lower column) left right
  | .columnPosition database table column left right =>
    .columnPosition (mode.key database) (mode.key table) (Text.lower column) left right
  | .columnAttribute database table column mismatch =>
    .columnAttribute (mode.key database) (mode.key table) (Text.lower column) mismatch

/-- The discrepancy seen from the other side, up to the spelling of names. -/
def mirrorKeyed (mode : CaseMode) (d : Discrepancy) : Discrepancy :=
  d.mirror.keyed mode

end Discrepancy

open Discrepancy (keyed mirrorKeyed)

/-! ## Columns -/

theorem map_unlessHolds {α β : Type} (f : α → β) (condition : Bool) (item : α) :
    (unlessHolds condition item).map f = unlessHolds condition (f item) := by
  cases condition <;> rfl

theorem equalIgnoringCase_comm (a b : String) :
    Text.equalIgnoringCase a b = Text.equalIgnoringCase b a := by
  rw [Bool.eq_iff_iff, Text.equalIgnoringCase_iff, Text.equalIgnoringCase_iff, eq_comm]

theorem sameCharset_comm (a b : Option String) : sameCharset a b = sameCharset b a := by
  cases a <;> cases b <;> simp [sameCharset, equalIgnoringCase_comm]

theorem sameKey_comm (as bs : List String) : sameKey as bs = sameKey bs as := by
  induction as generalizing bs with
  | nil => cases bs <;> rfl
  | cons a as ih =>
    cases bs with
    | nil => rfl
    | cons b bs => rw [sameKey, sameKey, ih, columnNamesEqual_comm]

theorem ColumnKind.mismatches_mirror (a b : ColumnKind) :
    (a.mismatches b).map AttributeMismatch.mirror = b.mismatches a := by
  simp only [mismatches, List.map_append, map_unlessHolds, AttributeMismatch.mirror,
    sameCharset_comm a.charset?, eq_comm (a := a.signed?), eq_comm (a := a.values?),
    eq_comm (a := a.precision?)]

namespace Table

variable {mode : CaseMode} {t u : Table}

/-- Two tables whose names have the same keys, and whose databases have such names. -/
structure SameKeys (mode : CaseMode) (t u : Table) : Prop where
  database : mode.key t.database = mode.key u.database
  name : mode.key t.name = mode.key u.name

theorem diffColumn_mirror (h : t.SameKeys mode u) {c d : Column}
    (hname : Text.lower c.name = Text.lower d.name) :
    (t.diffColumn c d).map (mirrorKeyed mode) = (u.diffColumn d c).map (keyed mode) := by
  rw [diffColumn, diffColumn]
  by_cases htype : c.typeName = d.typeName
  · rw [if_neg (not_not.2 htype), if_neg (not_not.2 htype.symm), ← c.kind.mismatches_mirror]
    simp only [List.map_append, map_unlessHolds, List.map_map, mirrorKeyed, Discrepancy.mirror,
      keyed, h.database, h.name, hname, eq_comm (a := c.position)]
    congr 1
    refine List.map_congr_left fun m _ => ?_
    simp only [Function.comp_apply, mirrorKeyed, Discrepancy.mirror, keyed, h.database, h.name,
      hname]
  · rw [if_pos htype, if_pos (Ne.symm htype)]
    simp only [List.map_cons, List.map_nil, mirrorKeyed, Discrepancy.mirror, keyed, h.database,
      h.name, hname]

/-- The columns are matched by their names in lower case. -/
theorem diff_eq_compareByKey (t u : Table) :
    t.diff u = unlessHolds (Text.equalIgnoringCase t.charset u.charset)
        (.tableCharset t.database t.name t.charset u.charset) ++
      unlessHolds (sameKey t.primaryKey u.primaryKey)
        (.primaryKey t.database t.name t.primaryKey u.primaryKey) ++
      compareByKey (fun c => Text.lower c.name) t.diffColumn
        (fun c => .missingColumn t.database t.name c.name .right)
        (fun c => .missingColumn t.database t.name c.name .left)
        t.columns.toList u.columns.toList := by
  rw [diff, List.append_assoc]
  refine congrArg _ (scans_eq_compareByKey (fun c _ => ?_) fun d _ => ?_)
  · have hfind : u.column? c.name = u.columns.toList.find? fun d =>
        Text.lower d.name = Text.lower c.name := u.columns.find?_eq c.name
    rw [← hfind]
    cases u.column? c.name <;> rfl
  · rw [column?, ColumnList.find?_eq, ← Option.not_isSome, List.isSome_find?]
    rfl

theorem diff_mirror (h : t.SameKeys mode u) (ht : t.ColumnsDistinct) (hu : u.ColumnsDistinct) :
    ((t.diff u).map (mirrorKeyed mode)).Perm ((u.diff t).map (keyed mode)) := by
  rw [diff_eq_compareByKey t u, diff_eq_compareByKey u t]
  simp only [List.map_append]
  refine .append (.of_eq ?_) (compareByKey_mirror (columnsDistinct_iff.1 ht)
    (columnsDistinct_iff.1 hu) (fun c _ d _ hname => .of_eq (diffColumn_mirror h hname)) ?_ ?_)
  · simp only [map_unlessHolds, mirrorKeyed, Discrepancy.mirror, keyed, h.database, h.name,
      equalIgnoringCase_comm t.charset, sameKey_comm t.primaryKey]
  · intro c _
    simp only [mirrorKeyed, Discrepancy.mirror, keyed, h.database, h.name, Side.mirror]
  · intro d _
    simp only [mirrorKeyed, Discrepancy.mirror, keyed, h.database, h.name, Side.mirror]

end Table

/-! ## Databases and schemas -/

/-- Where equality is an equivalence relation, names are compared as their keys are. -/
theorem CaseMode.EquivalenceOn.namesEqual_eq {mode : CaseMode} {names : String → Prop}
    (h : mode.EquivalenceOn names) {a b : String} (ha : names a) (hb : names b) :
    mode.namesEqual a b = decide (mode.key a = mode.key b) := by
  rw [Bool.eq_iff_iff, decide_eq_true_eq, namesEqual_iff_key (h.symm hb ha)]

/-- What is looked up by name is found by key. -/
theorem CaseMode.EquivalenceOn.find?_eq {mode : CaseMode} {names : String → Prop}
    (h : mode.EquivalenceOn names) {α : Type} {name : α → String} {xs : List α} {a : String}
    (hxs : ∀ x ∈ xs, names (name x)) (ha : names a) :
    (xs.find? fun x => mode.namesEqual (name x) a) =
      xs.find? fun x => mode.key (name x) = mode.key a := by
  rw [← List.head?_filter, ← List.head?_filter,
    List.filter_congr fun x hx => h.namesEqual_eq (hxs x hx) ha]

namespace Database

variable {mode : CaseMode} {names : String → Prop} {d e : Database}

theorem diff_eq_compareByKey (hnames : mode.EquivalenceOn names) (hd : ∀ t ∈ d.tables, names t.name)
    (he : ∀ u ∈ e.tables, names u.name) :
    d.diff mode e = unlessHolds (Text.equalIgnoringCase d.charset e.charset)
        (.databaseCharset d.name d.charset e.charset) ++
      compareByKey (fun t => mode.key t.name) Table.diff
        (fun t => .missingTable d.name t.name .right) (fun t => .missingTable d.name t.name .left)
        d.tables e.tables := by
  rw [diff, List.append_assoc]
  refine congrArg _ (scans_eq_compareByKey (fun t ht => ?_) fun u hu => ?_)
  · rw [table?, hnames.find?_eq he (hd t ht)]
    cases e.tables.find? fun u => decide (mode.key u.name = mode.key t.name) <;> rfl
  · rw [hasTable, ← List.isSome_find?, hnames.find?_eq hd (he u hu), List.isSome_find?]

theorem diff_mirror (hnames : mode.EquivalenceOn names) (h : mode.key d.name = mode.key e.name)
    (hd : d.WellFormed mode) (he : e.WellFormed mode) (hdn : ∀ t ∈ d.tables, names t.name)
    (hen : ∀ u ∈ e.tables, names u.name) :
    ((d.diff mode e).map (mirrorKeyed mode)).Perm ((e.diff mode d).map (keyed mode)) := by
  have hkeys : ∀ {d : Database}, d.WellFormed mode →
      (d.tables.map fun t => mode.key t.name).Nodup := fun {d} hd => by
    have hdistinct := CaseMode.distinct_iff_nodup_key.1 hd.tables_distinct
    rwa [tableNames, List.map_map] at hdistinct
  rw [diff_eq_compareByKey hnames hdn hen, diff_eq_compareByKey hnames hen hdn]
  simp only [List.map_append]
  refine .append (.of_eq ?_) (compareByKey_mirror (hkeys hd) (hkeys he) ?_ ?_ ?_)
  · simp only [map_unlessHolds, mirrorKeyed, Discrepancy.mirror, keyed, h,
      equalIgnoringCase_comm d.charset]
  · exact fun t ht u hu htu => Table.diff_mirror
      ⟨by rw [hd.database_eq t ht, he.database_eq u hu, h], htu⟩
      (hd.columns_distinct t ht) (he.columns_distinct u hu)
  · intro t _
    simp only [mirrorKeyed, Discrepancy.mirror, keyed, h, Side.mirror]
  · intro u _
    simp only [mirrorKeyed, Discrepancy.mirror, keyed, h, Side.mirror]

end Database

namespace Schema

variable {names : String → Prop} {a b : Schema}

theorem diff_eq_compareByKey (hmode : b.caseMode = a.caseMode)
    (hnames : a.caseMode.EquivalenceOn names) (ha : a.AllNames names) (hb : b.AllNames names) :
    a.diff b = compareByKey (fun d => a.caseMode.key d.name) (Database.diff a.caseMode)
      (fun d => .missingDatabase d.name .right) (fun d => .missingDatabase d.name .left)
      a.databases b.databases := by
  rw [diff]
  refine scans_eq_compareByKey (fun d hd => ?_) fun e he => ?_
  · rw [database?, hmode, hnames.find?_eq (fun e he => (hb e he).1) (ha d hd).1]
    cases b.databases.find? fun e => decide (a.caseMode.key e.name = a.caseMode.key d.name) <;> rfl
  · rw [hasDatabase, ← List.isSome_find?, hnames.find?_eq (fun d hd => (ha d hd).1) (hb e he).1,
      List.isSome_find?]

/-- Two well-formed schemas in one mode are compared alike in both directions: the discrepancies in
the one are those in the other with left and right exchanged, up to their order and to the letter
case of names.  So there are as many of them, and there are none if there are none in the other. -/
theorem diff_perm_mirrored (hmode : b.caseMode = a.caseMode)
    (hnames : a.caseMode.EquivalenceOn names) (ha : a.WellFormed) (hb : b.WellFormed)
    (han : a.AllNames names) (hbn : b.AllNames names) :
    ((b.diff a).map (keyed a.caseMode)).Perm ((a.diff b).map (mirrorKeyed a.caseMode)) ∧
      (b.diff a).length = (a.diff b).length ∧ (b.diff a = [] ↔ a.diff b = []) := by
  have hkeys : ∀ {s : Schema}, s.WellFormed →
      (s.databases.map fun d => s.caseMode.key d.name).Nodup := fun {s} hs => by
    have hdistinct := CaseMode.distinct_iff_nodup_key.1 hs.databases_distinct
    rwa [databaseNames, List.map_map] at hdistinct
  have hbkeys := hkeys hb
  rw [hmode] at hbkeys
  have hperm : ((a.diff b).map (mirrorKeyed a.caseMode)).Perm
      ((b.diff a).map (keyed a.caseMode)) := by
    rw [diff_eq_compareByKey hmode hnames han hbn,
      diff_eq_compareByKey hmode.symm (hmode.symm ▸ hnames) hbn han, hmode]
    refine compareByKey_mirror (hkeys ha) hbkeys (fun d hd e he hde => ?_) (fun _ _ => rfl)
      fun _ _ => rfl
    have he' := hb.databases e he
    rw [hmode] at he'
    exact Database.diff_mirror hnames hde (ha.databases d hd) he' (han d hd).2 (hbn e he).2
  have hlength := hperm.length_eq
  rw [List.length_map, List.length_map] at hlength
  refine ⟨hperm.symm, hlength.symm, ?_⟩
  rw [← List.length_eq_zero_iff, ← List.length_eq_zero_iff, hlength]

/-- A column of another type in another position and a table that is on one side only, where the
databases stand in another order and are written in other letter case. -/
theorem diff_perm_mirrored_reordered :
    let id (position : Nat) : Column := ⟨"Id", .integer .regular false, position⟩
    let state (kind : ColumnKind) (position : Nat) : Column := ⟨"state", kind, position⟩
    let table (database name charset : String) (columns : List Column) : Table :=
      .create database name charset columns (columns.take 1 |>.map Column.name)
    let schema (databases : List Database) : Schema := ⟨"utf8mb4", .insensitive, databases⟩
    let a := schema [⟨"Shop", "utf8mb4", [table "Shop" "Items" "latin1"
      [id 0, state (.enum ["on"]) 1], table "Shop" "Old" "ascii" []]⟩, ⟨"Audit", "ascii", []⟩]
    let b := schema [⟨"AUDIT", "latin1", []⟩, ⟨"SHOP", "utf8mb4", [table "SHOP" "ITEMS" "latin1"
      [state (.integer .big true) 0, id 1]]⟩, ⟨"New", "ascii", []⟩]
    (b.diff a).length = 6 ∧
      ((b.diff a).map (keyed .insensitive)).Perm ((a.diff b).map (mirrorKeyed .insensitive)) := by
  intro id state table schema a b
  have hmode : b.caseMode = a.caseMode := rfl
  have hnames := (CaseMode.coherent_isAscii .insensitive).equivalenceOn
  have ha : a.WellFormed := by decide +kernel
  have hb : b.WellFormed := by decide +kernel
  have han : a.AllNames fun n => Text.isAscii n = true := by decide +kernel
  have hbn : b.AllNames fun n => Text.isAscii n = true := by decide +kernel
  exact ⟨by decide +kernel, (diff_perm_mirrored hmode hnames ha hb han hbn).1⟩

end Schema

end SchemaTrail
