import SchemaTrail.Proofs.SoundChanges

/-!
# Schemas with some of their tables

`Schema.keep` leaves a schema those of its tables that satisfy a condition, in databases that all
stay.  What is found there is what is found in the whole schema and is kept, and an update of a
table that is kept does to the kept tables what it does to all of them.
-/

namespace SchemaTrail

open Outcome

/-! ## Definitions -/

/-- The database with those of its tables that satisfy a condition. -/
def Database.keep (q : Table → Bool) (d : Database) : Database :=
  { d with tables := d.tables.filter q }

/-- The schema with those of its tables that satisfy a condition. -/
def Schema.keep (q : Table → Bool) (s : Schema) : Schema :=
  { s with databases := s.databases.map (Database.keep q) }

/-! ## Databases -/

namespace Database

variable {q : Table → Bool} {mode : CaseMode} {d d' : Database} {name : String}

theorem hasTable_keep (h : d.hasTable mode name = false) :
    (d.keep q).hasTable mode name = false := by
  rw [hasTable, List.any_eq_false] at h ⊢
  exact fun t ht => h t (List.mem_filter.1 ht).1

theorem addTable_keep {t : Table} (ht : q t = true) :
    (d.keep q).addTable t = (d.addTable t).keep q := by
  simp [keep, addTable, ht]

/-- An update of a table that is kept, by tables that are kept. -/
theorem updateTable_keep {missing : InvariantError} {change : Table → List Table}
    (h : d.updateTable mode name missing change = .ok d')
    (hfound : ∀ t, d.table? mode name = some t → q t = true)
    (hchange : ∀ t, ∀ u ∈ change t, q u = true) :
    (d.keep q).updateTable mode name missing change = .ok (d'.keep q) := by
  obtain ⟨front, t, back, htables, hfront, hname, rfl⟩ := updateTable_eq_ok_iff.1 h
  have ht : q t = true := hfound t <|
    List.find?_eq_some_iff_append.2 ⟨hname, front, back, htables, by simpa using hfront⟩
  have hnew : (change t).filter q = change t := List.filter_eq_self.2 (hchange t)
  refine updateTable_eq_ok_iff.2 ⟨front.filter q, t, back.filter q, ?_, ?_, hname, ?_⟩
  · rw [keep, htables, List.filter_append, List.filter_cons_of_pos ht]
  · exact fun b hb => hfront b (List.mem_filter.1 hb).1
  · simp [keep, hnew]

/-- Taking out a table that is not kept leaves those that are. -/
theorem keep_takeTable {missing : InvariantError}
    (h : d.updateTable mode name missing (fun _ => []) = .ok d')
    (hfound : ∀ t, d.table? mode name = some t → q t = false) : d'.keep q = d.keep q := by
  obtain ⟨front, t, back, htables, hfront, hname, rfl⟩ := updateTable_eq_ok_iff.1 h
  have ht : q t = false := hfound t <|
    List.find?_eq_some_iff_append.2 ⟨hname, front, back, htables, by simpa using hfront⟩
  simp [keep, htables, ht]

end Database

/-! ## Schemas -/

namespace Schema

variable {q q' : Table → Bool} {s s' : Schema} {database table a b : String} {d : Database}
  {t : Table}

theorem sameDatabases_keep (q : Table → Bool) (s : Schema) : s.SameDatabases (s.keep q) := by
  refine ⟨rfl, ?_⟩
  rw [databaseNames, databaseNames, keep, List.map_map]
  rfl

theorem keep_congr (h : s.AllTables fun _ t => q t = q' t) : s.keep q = s.keep q' := by
  have hdatabases : s.databases.map (Database.keep q) = s.databases.map (Database.keep q') :=
    List.map_inj_left.2 fun d hd => congrArg (fun tables => { d with tables }) <|
      List.filter_congr (h d hd)
  rw [keep, keep, hdatabases]

theorem AllTables.keep {P : String → Table → Prop} (hs : s.AllTables P) (q : Table → Bool) :
    (s.keep q).AllTables P :=
  List.forall_mem_map.2 fun d hd t ht => hs d hd t (List.mem_filter.1 ht).1

/-! ### Looking up -/

theorem database?_keep : (s.keep q).database? a = (s.database? a).map (Database.keep q) := by
  rw [database?, database?, keep, List.find?_map]
  rfl

theorem requireDatabase_keep :
    (s.keep q).requireDatabase a = (s.requireDatabase a).map (Database.keep q) := by
  rw [requireDatabase, requireDatabase, database?_keep]
  cases s.database? a <;> rfl

theorem hasDatabase_keep : (s.keep q).hasDatabase a = s.hasDatabase a := by
  rw [hasDatabase_eq_isSome, hasDatabase_eq_isSome, database?_keep, Option.isSome_map]

theorem hasTable_keep (h : s.hasTable a b = false) : (s.keep q).hasTable a b = false := by
  rw [hasTable, table?] at h ⊢
  rw [database?_keep]
  cases hd : s.database? a with
  | none => rfl
  | some d =>
    rw [hd, Option.bind_some, ← Database.hasTable_eq_isSome] at h
    rw [Option.map_some, Option.bind_some, ← Database.hasTable_eq_isSome]
    exact Database.hasTable_keep h

theorem Named.keep {names : String → Prop} (hs : s.Named names) (q : Table → Bool) :
    (s.keep q).Named names := by
  refine ⟨hs.coherent, ⟨?_, List.forall_mem_map.2 fun d hd => ?_⟩,
    List.forall_mem_map.2 fun d hd => ⟨(hs.allNames d hd).1, fun t ht => ?_⟩⟩
  · rw [(sameDatabases_keep q s).databaseNames]
    exact hs.distinct.databases
  · exact (hs.distinct.tables d hd).sublist (List.filter_sublist.map _)
  · exact hs.tableName_mem hd (List.mem_filter.1 ht).1

theorem Sound.keep {names : String → Prop} (hs : s.Sound names) (q : Table → Bool) :
    (s.keep q).Sound names := by
  have hnamed := hs.named.keep q
  exact ⟨hnamed.coherent, wellFormed_iff.2 ⟨hnamed.distinct, hs.wellFormed.allTables.keep q⟩,
    hnamed.allNames⟩

/-- Where names are distinct, the tables that are found are those that are kept. -/
theorem Named.requireTable_keep_iff {names : String → Prop} (hs : s.Named names)
    (hb : names b) : (s.keep q).requireTable a b = .ok t ↔
      s.requireTable a b = .ok t ∧ q t = true := by
  simp only [requireTable_eq_ok_iff, database?_keep, Option.map_eq_some_iff]
  constructor
  · rintro ⟨-, ⟨d, hd, rfl⟩, ht⟩
    have hmem := (mem_of_database? hd).1
    obtain ⟨ht, hname⟩ := Database.mem_of_table? ht
    obtain ⟨ht, hq⟩ := List.mem_filter.1 ht
    exact ⟨⟨d, hd, (hs.table?_eq_some_iff hmem hb).2 ⟨ht, hname⟩⟩, hq⟩
  · rintro ⟨⟨d, hd, ht⟩, hq⟩
    have hmem := (mem_of_database? hd).1
    obtain ⟨ht, hname⟩ := Database.mem_of_table? ht
    have hkept : d.keep q ∈ (s.keep q).databases := List.mem_map_of_mem hmem
    exact ⟨d.keep q, ⟨d, hd, rfl⟩,
      ((hs.keep q).table?_eq_some_iff hkept hb).2 ⟨List.mem_filter.2 ⟨ht, hq⟩, hname⟩⟩

/-! ### Updating -/

theorem updateDatabase_keep {change change' : Database → Except InvariantError Database}
    (h : s.updateDatabase database change = .ok s')
    (hchange : ∀ d d', s.database? database = some d → change d = .ok d' →
      change' (d.keep q) = .ok (d'.keep q)) :
    (s.keep q).updateDatabase database change' = .ok (s'.keep q) := by
  obtain ⟨front, d, back, d', hd, hfront, hname, hd', rfl⟩ := updateDatabase_eq_ok_iff.1 h
  have hfound : s.database? database = some d :=
    List.find?_eq_some_iff_append.2 ⟨hname, front, back, hd, by simpa using hfront⟩
  refine updateDatabase_eq_ok_iff.2 ⟨front.map (Database.keep q), d.keep q,
    back.map (Database.keep q), d'.keep q, ?_, List.forall_mem_map.2 hfront, hname,
    hchange d d' hfound hd', ?_⟩
  · rw [keep, hd, List.map_append, List.map_cons]
  · rw [keep, List.map_append, List.map_cons]
    rfl

theorem updateTable_keep {change : Table → List Table}
    (h : s.updateTable database table change = .ok s')
    (hfound : ∀ t, s.requireTable database table = .ok t → q t = true)
    (hchange : ∀ t, ∀ u ∈ change t, q u = true) :
    (s.keep q).updateTable database table change = .ok (s'.keep q) :=
  updateDatabase_keep h fun d _ hd hd' => Database.updateTable_keep hd'
    (fun t ht => hfound t (requireTable_eq_ok_iff.2 ⟨d, hd, ht⟩)) hchange

theorem addTable_keep (h : s.addTable t = .ok s') (ht : q t = true) :
    (s.keep q).addTable t = .ok (s'.keep q) :=
  updateDatabase_keep h fun _ _ _ hd' => by
    cases hd'
    rw [Database.addTable_keep ht]

/-- Replacing a table that is kept by one that is kept. -/
theorem replaceTable_keep {new : Table} (h : s.replaceTable database table new = .ok s')
    (hfound : (s.keep q).requireTable database table = .ok t)
    (hkept : ∀ t, s.requireTable database table = .ok t → q t = true) (hnew : q new = true) :
    (s.keep q).replaceTable database table new = .ok (s'.keep q) := by
  obtain ⟨-, hfree, h⟩ := replaceTable_eq_ok_iff.1 h
  refine replaceTable_eq_ok_iff.2 ⟨⟨t, hfound⟩, hfree.imp_right hasTable_keep, ?_⟩
  change if s.caseMode.namesEqual database new.database then _ else _
  by_cases hsame : s.caseMode.namesEqual database new.database = true
  · rw [if_pos hsame] at h
    rw [if_pos hsame]
    exact updateTable_keep h hkept fun _ u hu => List.mem_singleton.1 hu ▸ hnew
  · rw [if_neg hsame] at h
    rw [if_neg hsame]
    obtain ⟨⟨d, hd⟩, without, htake, hadd⟩ := h
    refine ⟨⟨d.keep q, by rw [database?_keep, hd]; rfl⟩, without.keep q, ?_,
      addTable_keep hadd hnew⟩
    exact updateTable_keep htake hkept fun _ _ hu => absurd hu List.not_mem_nil

/-- Taking out a table that is not kept leaves those that are. -/
theorem keep_takeTable (h : s.updateTable database table (fun _ => []) = .ok s')
    (hfound : ∀ t, s.requireTable database table = .ok t → q t = false) :
    s'.keep q = s.keep q := by
  obtain ⟨front, d, back, d', hd, hfront, hname, hd', rfl⟩ := updateDatabase_eq_ok_iff.1 h
  have hsame : s.database? database = some d :=
    List.find?_eq_some_iff_append.2 ⟨hname, front, back, hd, by simpa using hfront⟩
  have hkept : d'.keep q = d.keep q := Database.keep_takeTable hd' fun t ht =>
    hfound t (requireTable_eq_ok_iff.2 ⟨d, hsame, ht⟩)
  simp [keep, hd, hkept]

end Schema

end SchemaTrail
