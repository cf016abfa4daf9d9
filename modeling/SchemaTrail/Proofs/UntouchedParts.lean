import Mathlib.Data.List.Forall2
import SchemaTrail.Proofs.Differences
import SchemaTrail.Proofs.ExcludedTables
import SchemaTrail.Proofs.NameKeys

/-!
# What a change leaves as it is

A change names the databases and tables that it is about (`Change.namedDatabases`,
`Change.namedTables`).  All others are the same afterwards and in the same order
(`Change.apply_frame`): an update changes the first database or table with a name, a table that is
put in is named itself, and what several updates leave as it is each of them does
(`Schema.SameApartFrom`).  In a well-formed schema, moreover, a table that is altered stays where it
is, and just the tables that are listed take the new charset of their database.
-/

namespace SchemaTrail

open Outcome

/-! ## What a change names -/

/-- Whether one of some names is that of the database. -/
def Database.isAmong (mode : CaseMode) (named : List String) (d : Database) : Bool :=
  named.any fun n => mode.namesEqual d.name n

/-- Whether one of some names is that of a table in the database called `database`. -/
def Table.isAmong (mode : CaseMode) (database : String) (named : List TableName) (t : Table) :
    Bool :=
  named.any fun n => mode.namesEqual database n.database && mode.namesEqual t.name n.table

namespace Change

/-- The tables that a change names: those that it is about, and those that it defines. -/
def namedTables : Change → List TableName
  | .createDatabase .. | .dropDatabase .. => []
  | .alterDatabase database _ tables => tables.map fun table => ⟨database, table⟩
  | .createTable database table definition | .alterTable database table _ definition =>
    [⟨database, table⟩, definition.place]
  | .dropTable database table => [⟨database, table⟩]
  | .renameTables renames => renames.flatMap fun r => [⟨r.database, r.table⟩, r.definition.place]

/-- The databases that a change names. -/
def namedDatabases : Change → List String
  | .createDatabase database _ | .alterDatabase database _ _ | .dropDatabase database => [database]
  | c => c.namedTables.map TableName.database

end Change

/-! ## The same apart from what is named -/

/-- The same database, apart from tables that are named.  If it is not named itself, all of it is
the same. -/
structure Database.SameApartFrom (mode : CaseMode) (named : List TableName) (d d' : Database) :
    Prop where
  name : d'.name = d.name
  charset : d'.charset = d.charset
  tables : (d'.tables.filter fun t => !t.isAmong mode d.name named) =
    d.tables.filter fun t => !t.isAmong mode d.name named
  unnamed : d.isAmong mode (named.map TableName.database) = false → d' = d

/-- The same schema, apart from tables that are named. -/
structure Schema.SameApartFrom (named : List TableName) (s s' : Schema) : Prop where
  charset : s'.charset = s.charset
  caseMode : s'.caseMode = s.caseMode
  databases : List.Forall₂ (Database.SameApartFrom s.caseMode named) s.databases s'.databases

theorem filter_eq_of_forall₂ {α : Type} {R : α → α → Prop} {p : α → Bool} {xs ys : List α}
    (h : List.Forall₂ R xs ys) (hp : ∀ x y, R x y → p y = p x)
    (hsame : ∀ x y, R x y → p x = true → y = x) : ys.filter p = xs.filter p := by
  induction h with
  | nil => rfl
  | @cons x y _ _ hR _ ih =>
    by_cases hx : p x = true
    · rw [hsame x y hR hx, List.filter_cons_of_pos hx, List.filter_cons_of_pos hx, ih]
    · rw [List.filter_cons_of_neg hx, List.filter_cons_of_neg (hp x y hR ▸ hx), ih]

theorem exists_getElem?_of_forall₂ {α β : Type} {R : α → β → Prop} {xs : List α} {ys : List β}
    (h : List.Forall₂ R xs ys) {i : Nat} {x : α} (hx : xs[i]? = some x) :
    ∃ y, ys[i]? = some y ∧ R x y := by
  induction h generalizing i with
  | nil => simp at hx
  | @cons _ y _ _ hR _ ih =>
    cases i with
    | zero =>
      cases hx
      exact ⟨y, rfl, hR⟩
    | succ i => exact ih hx

theorem forall₂_trans {α : Type} {R : α → α → Prop} (hR : ∀ {x y z}, R x y → R y z → R x z)
    {xs ys zs : List α} (h : List.Forall₂ R xs ys) (h' : List.Forall₂ R ys zs) :
    List.Forall₂ R xs zs := by
  induction h generalizing zs with
  | nil => exact h'
  | cons hxy _ ih =>
    cases h' with
    | cons hyz h' => exact .cons (hR hxy hyz) (ih h')

namespace Database

variable {mode : CaseMode} {named : List TableName} {n : TableName} {d d' : Database} {t : Table}

theorem isAmong_of_mem (hn : n ∈ named) (hd : mode.namesEqual d.name n.database = true) :
    d.isAmong mode (named.map TableName.database) = true :=
  List.any_eq_true.2 ⟨n.database, List.mem_map_of_mem hn, hd⟩

theorem tableIsAmong_of_mem (hn : n ∈ named) (hd : mode.namesEqual d.name n.database = true)
    (ht : mode.namesEqual t.name n.table = true) : t.isAmong mode d.name named = true :=
  List.any_eq_true.2 ⟨n, hn, by rw [hd, ht]; rfl⟩

/-- Databases that belong together one by one are the same where they are not named, if each is. -/
theorem filter_unnamed_eq {names : List String} {R : Database → Database → Prop}
    {ds ds' : List Database} (h : List.Forall₂ R ds ds') (hname : ∀ d d', R d d' → d'.name = d.name)
    (hsame : ∀ d d', R d d' → d.isAmong mode names = false → d' = d) :
    (ds'.filter fun d => !d.isAmong mode names) = ds.filter fun d => !d.isAmong mode names := by
  refine filter_eq_of_forall₂ h (fun d d' hd => ?_) fun d d' hd hunnamed => ?_
  · rw [isAmong, isAmong, hname d d' hd]
  · exact hsame d d' hd (by simpa using hunnamed)

namespace SameApartFrom

theorem refl (d : Database) : d.SameApartFrom mode named d :=
  ⟨rfl, rfl, rfl, fun _ => rfl⟩

theorem trans {d₁ d₂ d₃ : Database} (h : SameApartFrom mode named d₁ d₂)
    (h' : SameApartFrom mode named d₂ d₃) : SameApartFrom mode named d₁ d₃ where
  name := h'.name.trans h.name
  charset := h'.charset.trans h.charset
  tables := by
    have htables := h'.tables
    rw [h.name] at htables
    exact htables.trans h.tables
  unnamed hd := by
    obtain rfl := h.unnamed hd
    exact h'.unnamed hd

/-- A database that is named is the same apart from tables that are put in the place of others, if
they are named. -/
theorem of_tables {front old new back : List Table} (hd : d.tables = front ++ old ++ back)
    (hnamed : d.isAmong mode (named.map TableName.database) = true)
    (hold : ∀ t ∈ old, t.isAmong mode d.name named = true)
    (hnew : ∀ t ∈ new, t.isAmong mode d.name named = true) :
    SameApartFrom mode named d { d with tables := front ++ new ++ back } where
  name := rfl
  charset := rfl
  tables := by
    have hnone : ∀ {ts : List Table}, (∀ t ∈ ts, t.isAmong mode d.name named = true) →
        (ts.filter fun t => !t.isAmong mode d.name named) = [] := fun hts =>
      List.filter_eq_nil_iff.2 fun t ht => by simp [hts t ht]
    rw [hd]
    simp only [List.filter_append, hnone hold, hnone hnew]
  unnamed h := absurd (h.symm.trans hnamed) (by decide)

theorem of_updateTable {missing : InvariantError} {change : Table → List Table} (hn : n ∈ named)
    (hd : mode.namesEqual d.name n.database = true)
    (hchange : ∀ t, ∀ u ∈ change t, u.isAmong mode d.name named = true)
    (h : d.updateTable mode n.table missing change = .ok d') : SameApartFrom mode named d d' := by
  obtain ⟨front, t, back, ht, -, hname, rfl⟩ := updateTable_eq_ok_iff.1 h
  have ht : d.tables = front ++ [t] ++ back := by simpa using ht
  refine of_tables ht (isAmong_of_mem hn hd) ?_ (hchange t)
  exact List.forall_mem_singleton.2 (tableIsAmong_of_mem hn hd hname)

theorem of_addTable (hn : t.place ∈ named) (hd : mode.namesEqual d.name t.database = true) :
    SameApartFrom mode named d (d.addTable t) := by
  have htables : d.tables = d.tables ++ [] ++ [] := by simp
  have h := of_tables htables (isAmong_of_mem hn hd) (List.forall_mem_nil _)
    (List.forall_mem_singleton.2 (tableIsAmong_of_mem hn hd (CaseMode.namesEqual_refl _ _)))
  rwa [List.append_nil] at h

end SameApartFrom

end Database

namespace Schema

variable {named : List TableName} {n : TableName} {s s' : Schema} {t : Table}

theorem charset_of_updateDatabase {name : String}
    {change : Database → Except InvariantError Database}
    (h : s.updateDatabase name change = .ok s') : s'.charset = s.charset := by
  obtain ⟨_, _, _, _, _, _, _, _, rfl⟩ := updateDatabase_eq_ok_iff.1 h
  rfl

/-- After an update, each database belongs to one of before, if those that are changed do. -/
theorem forall₂_of_updateDatabase {R : Database → Database → Prop} (hrefl : ∀ d, R d d)
    {name : String} {change : Database → Except InvariantError Database}
    (h : s.updateDatabase name change = .ok s')
    (hchange : ∀ d ∈ s.databases, ∀ d', s.caseMode.namesEqual d.name name = true →
      change d = .ok d' → R d d') : List.Forall₂ R s.databases s'.databases := by
  obtain ⟨front, d, back, d', hd, -, hname, hd', rfl⟩ := updateDatabase_eq_ok_iff.1 h
  have hall : ∀ ds, List.Forall₂ R ds ds := fun ds => List.forall₂_same.2 fun d _ => hrefl d
  have hrel := hchange d (by simp [hd]) d' hname hd'
  rw [hd]
  exact List.rel_append (hall front) (.cons hrel (hall back))

namespace SameApartFrom

theorem refl (s : Schema) : s.SameApartFrom named s :=
  ⟨rfl, rfl, List.forall₂_same.2 fun d _ => .refl d⟩

theorem trans {s₁ s₂ s₃ : Schema} (h : s₁.SameApartFrom named s₂)
    (h' : s₂.SameApartFrom named s₃) : s₁.SameApartFrom named s₃ where
  charset := h'.charset.trans h.charset
  caseMode := h'.caseMode.trans h.caseMode
  databases := by
    have hdatabases := h'.databases
    rw [h.caseMode] at hdatabases
    exact forall₂_trans .trans h.databases hdatabases

theorem of_updateDatabase {name : String} {change : Database → Except InvariantError Database}
    (h : s.updateDatabase name change = .ok s')
    (hchange : ∀ d d', s.caseMode.namesEqual d.name name = true → change d = .ok d' →
      d.SameApartFrom s.caseMode named d') : s.SameApartFrom named s' :=
  ⟨charset_of_updateDatabase h, caseMode_of_updateDatabase h,
    forall₂_of_updateDatabase .refl h fun d _ => hchange d⟩

theorem of_updateTable {change : Table → List Table} (hn : n ∈ named)
    (hchange : ∀ d : Database, s.caseMode.namesEqual d.name n.database = true →
      ∀ t, ∀ u ∈ change t, u.isAmong s.caseMode d.name named = true)
    (h : s.updateTable n.database n.table change = .ok s') : s.SameApartFrom named s' :=
  of_updateDatabase h fun d _ hd hd' => .of_updateTable hn hd (hchange d hd) hd'

theorem of_addTable (hn : t.place ∈ named) (h : s.addTable t = .ok s') :
    s.SameApartFrom named s' :=
  of_updateDatabase h fun _ _ hd hd' => by
    cases hd'
    exact .of_addTable hn hd

/-- A table is replaced in its own database, or is taken from it and put into another. -/
theorem of_replaceTable (hn : n ∈ named) (ht : t.place ∈ named)
    (h : s.replaceTable n.database n.table t = .ok s') : s.SameApartFrom named s' := by
  obtain ⟨-, -, h⟩ := replaceTable_eq_ok_iff.1 h
  split at h
  · rename_i hdatabase
    refine of_updateTable hn (fun d hd _ => List.forall_mem_singleton.2 ?_) h
    have hd := CaseMode.namesEqual_trans _ hd hdatabase
    exact Database.tableIsAmong_of_mem ht hd (CaseMode.namesEqual_refl _ _)
  · obtain ⟨-, without, htake, hadd⟩ := h
    exact (of_updateTable hn (fun _ _ _ => List.forall_mem_nil _) htake).trans
      (of_addTable ht hadd)

theorem of_renames {renames : List Rename}
    (hsources : ∀ r ∈ renames, ⟨r.database, r.table⟩ ∈ named)
    (hplaces : ∀ r ∈ renames, r.definition.place ∈ named)
    (h : renames.foldlM Schema.rename s = .ok s') : s.SameApartFrom named s' :=
  foldlM_induction (motive := fun s' => s.SameApartFrom named s') h (.refl s)
    fun _ hs r hr _ hs' => hs.trans (of_replaceTable (hsources r hr) (hplaces r hr) hs')

end SameApartFrom

end Schema

/-! ## New charsets -/

namespace Table

/-- The table, with another charset if a condition holds. -/
def withCharsetIf (condition : Bool) (charset : String) (t : Table) : Table :=
  if condition then { t with charset } else t

@[simp] theorem withCharsetIf_false (charset : String) (t : Table) :
    t.withCharsetIf false charset = t :=
  rfl

@[simp] theorem withCharsetIf_name (condition : Bool) (charset : String) (t : Table) :
    (t.withCharsetIf condition charset).name = t.name := by
  cases condition <;> rfl

@[simp] theorem withCharsetIf_withCharsetIf (a b : Bool) (charset : String) (t : Table) :
    (t.withCharsetIf a charset).withCharsetIf b charset = t.withCharsetIf (a || b) charset := by
  cases a <;> cases b <;> rfl

end Table

/-- The database with another charset for the tables that are listed. -/
def Database.withTableCharset (mode : CaseMode) (charset : String) (listed : List String)
    (d : Database) : Database :=
  { d with
    tables := d.tables.map fun t =>
      t.withCharsetIf (listed.any fun n => mode.namesEqual t.name n) charset }

namespace Database

variable {mode : CaseMode} {d d' : Database} {name : String}

/-- Where names are distinct, the first table with a name is the only one. -/
theorem updateTable_eq_map {missing : InvariantError} {change : Table → Table}
    (hd : mode.Distinct d.tableNames)
    (h : d.updateTable mode name missing (fun t => [change t]) = .ok d') :
    (d.table? mode name).isSome = true ∧
      d' = { d with
        tables := d.tables.map fun t => if mode.namesEqual t.name name then change t else t } := by
  obtain ⟨front, t, back, ht, hfront, hname, rfl⟩ := updateTable_eq_ok_iff.1 h
  constructor
  · rw [table?, List.find?_isSome]
    exact ⟨t, by simp [ht], hname⟩
  have hkeys := CaseMode.distinct_iff_nodup_key.1 hd
  rw [tableNames, List.map_map, ht, List.map_append, List.map_cons] at hkeys
  have hback : ∀ u ∈ back, mode.namesEqual u.name name = false := fun u hu =>
    Bool.eq_false_iff.2 fun heq => (List.nodup_cons.1 hkeys.of_append_right).1 <|
      List.mem_map.2 ⟨u, hu,
        (CaseMode.key_eq_of_namesEqual heq).trans (CaseMode.key_eq_of_namesEqual hname).symm⟩
  have hsame : ∀ {us : List Table}, (∀ u ∈ us, mode.namesEqual u.name name = false) →
      us.map (fun u => if mode.namesEqual u.name name then change u else u) = us := fun hus =>
    (List.map_congr_left fun u hu => if_neg (by simp [hus u hu])).trans (List.map_id' _)
  rw [ht]
  simp [hsame hfront, hsame hback, hname]

/-- Giving tables a charset one after the other gives it to all of them at once. -/
theorem setTableCharsets_eq {s : Schema} {database charset : String} {tables : List String}
    (hd : s.caseMode.Distinct d.tableNames)
    (h : tables.foldlM (s.setTableCharset database charset) d = .ok d') :
    (∀ n ∈ tables, (d.table? s.caseMode n).isSome = true) ∧
      d' = d.withTableCharset s.caseMode charset tables := by
  induction tables generalizing d with
  | nil =>
    cases h
    simp [withTableCharset]
  | cons n tables ih =>
    rw [List.foldlM_cons, bind_eq_ok_iff] at h
    obtain ⟨d₁, hd₁, hrest⟩ := h
    obtain ⟨hfound, hd₁⟩ := updateTable_eq_map hd hd₁
    replace hd₁ : d₁ = ⟨d.name, d.charset, d.tables.map fun t =>
        t.withCharsetIf (s.caseMode.namesEqual t.name n) charset⟩ := hd₁
    -- The names are the same as before, so that the same tables are found.
    have hnames : d₁.tableNames = d.tableNames := by simp [hd₁, tableNames, Function.comp_def]
    have hfind : ∀ m, (d₁.table? s.caseMode m).isSome = (d.table? s.caseMode m).isSome := by
      intro m
      rw [hd₁, table?, table?, List.isSome_find?, List.isSome_find?, List.any_map]
      simp only [Function.comp_def, Table.withCharsetIf_name]
    obtain ⟨hlisted, rfl⟩ := ih (hnames ▸ hd) hrest
    simp only [hfind] at hlisted
    refine ⟨List.forall_mem_cons.2 ⟨hfound, hlisted⟩, ?_⟩
    simp [withTableCharset, hd₁, Function.comp_def]

end Database

/-! ## Indices -/

theorem findIdx?_append_cons {α : Type} {p : α → Bool} {front back : List α} {a : α}
    (hfront : ∀ b ∈ front, p b = false) (ha : p a = true) :
    (front ++ a :: back).findIdx? p = some front.length := by
  have hnone : front.findIdx? p = none := List.findIdx?_eq_none_iff.2 hfront
  simp [List.findIdx?_append, hnone, List.findIdx?_cons, ha]

namespace Schema

variable {s s' : Schema} {database table : String}

/-- The first database with a name is changed where it is. -/
theorem updateDatabase_eq_set {change : Database → Except InvariantError Database}
    (h : s.updateDatabase database change = .ok s') :
    ∃ i d d', s.databaseIndex? database = some i ∧ s.databases[i]? = some d ∧ change d = .ok d' ∧
      s' = { s with databases := s.databases.set i d' } := by
  obtain ⟨front, d, back, d', hd, hfront, hname, hd', rfl⟩ := updateDatabase_eq_ok_iff.1 h
  refine ⟨front.length, d, d', ?_, by simp [hd], hd', by simp [hd]⟩
  rw [databaseIndex?, hd]
  exact findIdx?_append_cons hfront hname

/-- The first table with a name is replaced where it is. -/
theorem putTable_eq_set {new : Table} (h : s.updateTable database table (fun _ => [new]) = .ok s') :
    ∃ i d j, s.databaseIndex? database = some i ∧ s.databases[i]? = some d ∧
      d.tableIndex? s.caseMode table = some j ∧
      s' = { s with databases := s.databases.set i { d with tables := d.tables.set j new } } := by
  obtain ⟨i, d, d', hi, hd, hd', rfl⟩ := updateDatabase_eq_set h
  obtain ⟨front, t, back, ht, hfront, hname, rfl⟩ := Database.updateTable_eq_ok_iff.1 hd'
  refine ⟨i, d, front.length, hi, hd, ?_, by simp [ht]⟩
  rw [Database.tableIndex?, ht]
  exact findIdx?_append_cons hfront hname

end Schema

/-! ## Changes -/

/-- Two names of one database: the one equals the other, or both find the same one where equality is
an equivalence relation on the names.  Elsewhere names that find the same database need not be
equal: that of a Kelvin sign is found by `k`, which does not equal the sign. -/
def Schema.NameOneDatabase (s : Schema) (a b : String) : Prop :=
  s.caseMode.namesEqual a b = true ∨
    s.database? a = s.database? b ∧ ∃ names : String → Prop,
      s.caseMode.EquivalenceOn names ∧ s.AllNames names ∧ names a ∧ names b

/-- What a change that takes a schema to another leaves as it is. -/
structure Change.Frame (c : Change) (s s' : Schema) : Prop where
  charset : s'.charset = s.charset
  caseMode : s'.caseMode = s.caseMode
  /-- The databases that are not named are the same, in the same order. -/
  databases : (s'.databases.filter fun d => !d.isAmong s.caseMode c.namedDatabases) =
    s.databases.filter fun d => !d.isAmong s.caseMode c.namedDatabases
  /-- Unless a database is dropped, all databases stay where they are, and in them the tables that
  are not named are the same, in the same order. -/
  tables : (∀ database, c ≠ .dropDatabase database) →
    ∀ (i : Nat) (d : Database), s.databases[i]? = some d →
      ∃ d' : Database, s'.databases[i]? = some d' ∧ d'.name = d.name ∧
      ((d'.tables.filter fun t => !t.isAmong s.caseMode d.name c.namedTables) =
        d.tables.filter fun t => !t.isAmong s.caseMode d.name c.namedTables) ∧
      ((∀ database charset tables, c ≠ .alterDatabase database charset tables) →
        d'.charset = d.charset)

theorem Schema.namesEqual_of_nameOneDatabase {s : Schema} {a b : String}
    (h : s.NameOneDatabase a b) (ha : (s.database? a).isSome = true) :
    s.caseMode.namesEqual a b = true := by
  rcases h with h | ⟨hsame, names, hnames, hall, hna, hnb⟩
  · exact h
  · obtain ⟨d, hd⟩ := Option.isSome_iff_exists.1 ha
    obtain ⟨hmem, hda⟩ := mem_of_database? hd
    have hdb := (mem_of_database? (hsame.symm.trans hd)).2
    have hnd := (hall d hmem).1
    exact hnames.trans hna hnd hnb (hnames.symm hnd hna hda) hdb

namespace Change

variable {c : Change} {s s' : Schema}

theorem Frame.of_sameApartFrom (hc : c.namedDatabases = c.namedTables.map TableName.database)
    (h : s.SameApartFrom c.namedTables s') : c.Frame s s' where
  charset := h.charset
  caseMode := h.caseMode
  databases := hc ▸ Database.filter_unnamed_eq h.databases (fun _ _ hd => hd.name)
    fun _ _ hd => hd.unnamed
  tables _ i d hd := by
    obtain ⟨d', hd', hsame⟩ := exists_getElem?_of_forall₂ h.databases hd
    exact ⟨d', hd', hsame.name, hsame.tables, fun _ => hsame.charset⟩

theorem frame_createDatabase {database charset : String}
    (h : (createDatabase database charset).apply s = .ok s') :
    (createDatabase database charset).Frame s s' := by
  rw [apply] at h
  split at h
  · cases h
  · cases h
    refine ⟨rfl, rfl, ?_, fun _ i d hd => ⟨d, ?_, rfl, rfl, fun _ => rfl⟩⟩
    · simp [Schema.addDatabase, Database.isAmong, namedDatabases]
    · obtain ⟨hi, -⟩ := List.getElem?_eq_some_iff.1 hd
      exact (List.getElem?_append_left hi).trans hd

theorem frame_dropDatabase {database : String}
    (h : (dropDatabase database).apply s = .ok s') : (dropDatabase database).Frame s s' := by
  obtain ⟨front, d, back, hd, -, hname, rfl⟩ := Schema.removeDatabase_eq_ok_iff.1 h
  refine ⟨rfl, rfl, ?_, fun h => absurd rfl (h database)⟩
  simp [hd, Database.isAmong, namedDatabases, hname]

/-- A database that is altered takes a charset, and so do the tables that are listed. -/
theorem apply_alterDatabase_eq (hs : s.WellFormed) {database charset : String}
    {tables : List String} (h : (alterDatabase database charset tables).apply s = .ok s') :
    ∃ i d, s.databaseIndex? database = some i ∧ s.databases[i]? = some d ∧
      (∀ n ∈ tables, (d.table? s.caseMode n).isSome = true) ∧
      s' = { s with databases :=
        s.databases.set i ({ d with charset }.withTableCharset s.caseMode charset tables) } := by
  obtain ⟨i, d, d', hi, hd, hd', rfl⟩ := Schema.updateDatabase_eq_set h
  have hdistinct := (hs.databases d (List.mem_of_getElem? hd)).tables_distinct
  obtain ⟨hlisted, rfl⟩ := Database.setTableCharsets_eq (d := { d with charset }) hdistinct hd'
  exact ⟨i, d, hi, hd, hlisted, rfl⟩

end Change

/-- Tables that are not named keep their charset. -/
theorem Database.filter_withTableCharset {mode : CaseMode} {d : Database} {database : String}
    (charset : String) {tables : List String} (hd : mode.namesEqual d.name database = true) :
    let unnamed (t : Table) : Bool :=
      !t.isAmong mode d.name (tables.map fun table => ⟨database, table⟩)
    (d.withTableCharset mode charset tables).tables.filter unnamed = d.tables.filter unnamed := by
  intro unnamed
  have hunnamed : ∀ t, unnamed t = !tables.any fun n => mode.namesEqual t.name n := by
    simp [unnamed, Table.isAmong, hd, Function.comp_def]
  refine filter_eq_of_forall₂ (List.forall₂_map_right_iff.2 (List.forall₂_same.2 fun _ _ => rfl))
    (R := fun t u => u = t.withCharsetIf (tables.any fun n => mode.namesEqual t.name n) charset)
    ?_ ?_
  · rintro t _ rfl
    simp only [hunnamed, Table.withCharsetIf_name]
  · rintro t _ rfl ht
    rw [hunnamed, Bool.not_eq_true'] at ht
    rw [ht, Table.withCharsetIf_false]

namespace Change

variable {c : Change} {s s' : Schema}

theorem frame_alterDatabase (hs : s.WellFormed) {database charset : String}
    {tables : List String} (h : (alterDatabase database charset tables).apply s = .ok s') :
    (alterDatabase database charset tables).Frame s s' := by
  let named : List TableName := tables.map fun table => ⟨database, table⟩
  have hdatabases : List.Forall₂ (fun d d' : Database => d'.name = d.name ∧
      ((d'.tables.filter fun t => !t.isAmong s.caseMode d.name named) =
        d.tables.filter fun t => !t.isAmong s.caseMode d.name named) ∧
      (d.isAmong s.caseMode [database] = false → d' = d)) s.databases s'.databases := by
    refine Schema.forall₂_of_updateDatabase (fun d => ⟨rfl, rfl, fun _ => rfl⟩) h
      fun d hd d' hname hd' => ?_
    obtain ⟨-, rfl⟩ := Database.setTableCharsets_eq (d := { d with charset })
      (hs.databases d hd).tables_distinct hd'
    refine ⟨rfl, Database.filter_withTableCharset (d := { d with charset }) charset hname, ?_⟩
    simp [Database.isAmong, hname]
  refine ⟨Schema.charset_of_updateDatabase h, Schema.caseMode_of_updateDatabase h, ?_,
    fun _ i d hd => ?_⟩
  · exact Database.filter_unnamed_eq hdatabases (fun _ _ hd => hd.1) fun _ _ hd => hd.2.2
  · obtain ⟨d', hd', hname, htables, -⟩ := exists_getElem?_of_forall₂ hdatabases hd
    exact ⟨d', hd', hname, htables, fun h => absurd rfl (h database charset tables)⟩

/-- A change that can be applied leaves as it is what it does not name. -/
theorem frame_of_apply (hs : s.WellFormed) (h : c.apply s = .ok s') : c.Frame s s' := by
  cases c with
  | createDatabase database charset => exact frame_createDatabase h
  | alterDatabase database charset tables => exact frame_alterDatabase hs h
  | dropDatabase database => exact frame_dropDatabase h
  | createTable database table definition =>
    exact .of_sameApartFrom rfl (.of_addTable (by simp [namedTables])
      (Schema.insertTable_eq_ok_iff.1 h).2)
  | alterTable database table old definition =>
    exact .of_sameApartFrom rfl (.of_replaceTable (n := ⟨database, table⟩) (by simp [namedTables])
      (by simp [namedTables]) h)
  | dropTable database table =>
    exact .of_sameApartFrom rfl (.of_updateTable (n := ⟨database, table⟩) (by simp [namedTables])
      (fun _ _ _ => List.forall_mem_nil _) h)
  | renameTables renames =>
    have hnamed : ∀ r ∈ renames, ∀ n ∈ [⟨r.database, r.table⟩, r.definition.place],
        n ∈ (renameTables renames).namedTables := fun r hr n hn =>
      List.mem_flatMap.2 ⟨r, hr, hn⟩
    exact .of_sameApartFrom rfl (.of_renames (fun r hr => hnamed r hr _ (by simp))
      (fun r hr => hnamed r hr _ (by simp)) h)

/-- A table that is altered in its database is put in the place of the old one. -/
theorem apply_alterTable_eq {database table : String} {old definition : Table}
    (hstays : s.NameOneDatabase database definition.database)
    (h : (alterTable database table old definition).apply s = .ok s') :
    ∃ i d j, s.databaseIndex? database = some i ∧ s.databases[i]? = some d ∧
      d.tableIndex? s.caseMode table = some j ∧
      s' = { s with databases :=
        s.databases.set i { d with tables := d.tables.set j definition } } := by
  obtain ⟨⟨t, ht⟩, -, h⟩ := Schema.replaceTable_eq_ok_iff.1 h
  obtain ⟨d, hd, -⟩ := Schema.requireTable_eq_ok_iff.1 ht
  rw [if_pos (Schema.namesEqual_of_nameOneDatabase hstays (by simp [hd]))] at h
  exact Schema.putTable_eq_set h

/-- A change of a well-formed schema leaves as it is what it does not name; a table that is altered
in its database stays where it is; and with the charset of a database just those of the tables that
are listed change. -/
theorem apply_frame (hs : s.WellFormed) (h : c.apply s = .ok s') :
    c.Frame s s' ∧
    (∀ {database table old definition}, c = .alterTable database table old definition →
      s.NameOneDatabase database definition.database →
      ∃ i d j, s.databaseIndex? database = some i ∧ s.databases[i]? = some d ∧
        d.tableIndex? s.caseMode table = some j ∧
        s' = { s with databases :=
          s.databases.set i { d with tables := d.tables.set j definition } }) ∧
    ∀ {database charset tables}, c = .alterDatabase database charset tables →
      ∃ i d, s.databaseIndex? database = some i ∧ s.databases[i]? = some d ∧
        (∀ n ∈ tables, (d.table? s.caseMode n).isSome = true) ∧
        s' = { s with databases :=
          s.databases.set i ({ d with charset }.withTableCharset s.caseMode charset tables) } := by
  refine ⟨frame_of_apply hs h, ?_, ?_⟩
  · rintro database table old definition rfl hstays
    exact apply_alterTable_eq hstays h
  · rintro database charset tables rfl
    exact apply_alterDatabase_eq hs h

/-- A table that is moved to another database, one that is renamed where it is, and a charset that
one of two tables takes. -/
theorem apply_frame_shop :
    let table (database name : String) : Table := .create database name "utf8mb4" [] []
    let s : Schema := ⟨"utf8mb4", .insensitive, [⟨"Audit", "ascii", []⟩,
      ⟨"Shop", "utf8mb4", [table "Shop" "Old", table "Shop" "Users"]⟩, ⟨"Spare", "ascii", []⟩]⟩
    let rename : Change := .renameTables [⟨"shop", "old", table "Spare" "Kept"⟩]
    let alter : Change := .alterTable "shop" "old" (table "Shop" "Old") (table "Shop" "New")
    let recharge : Change := .alterDatabase "shop" "latin1" ["users"]
    (∃ s', rename.apply s = .ok s' ∧ rename.Frame s s') ∧
    (∃ s', alter.apply s = .ok s' ∧ ∃ i d j, s.databaseIndex? "shop" = some i ∧
      s.databases[i]? = some d ∧ d.tableIndex? .insensitive "old" = some j ∧
      s' = { s with databases :=
        s.databases.set i { d with tables := d.tables.set j (table "Shop" "New") } }) ∧
    ∃ s', recharge.apply s = .ok s' ∧ recharge.Frame s s' := by
  intro table s rename alter recharge
  have hs : s.WellFormed := by decide +kernel
  have hok : ∀ c ∈ [rename, alter, recharge], ∃ s', c.apply s = .ok s' := by
    simp only [← isSome_toOption_iff]
    decide +kernel
  obtain ⟨s₁, h₁⟩ := hok rename (by simp)
  obtain ⟨s₂, h₂⟩ := hok alter (by simp)
  obtain ⟨s₃, h₃⟩ := hok recharge (by simp)
  refine ⟨⟨s₁, h₁, (apply_frame hs h₁).1⟩, ⟨s₂, h₂, ?_⟩, s₃, h₃, (apply_frame hs h₃).1⟩
  exact (apply_frame hs h₂).2.1 rfl (.inl (by decide +kernel))

end Change

end SchemaTrail
