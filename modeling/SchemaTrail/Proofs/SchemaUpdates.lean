import SchemaTrail.Change.Basic
import SchemaTrail.Proofs.FirstMatch
import SchemaTrail.Proofs.Outcome

/-!
# What updates of a schema do

Every update of a schema changes the first database with a name, and in it perhaps the first table
with a name.  The lemmas here say when an update succeeds and what the schema is made of afterwards,
so that no later proof has to look into the updates.
-/

namespace SchemaTrail

open Outcome

/-! ## Looking up -/

namespace Schema

variable {s s' : Schema} {name database table : String} {d : Database} {t : Table}

theorem requireDatabase_eq_ok_iff : s.requireDatabase name = .ok d ↔ s.database? name = some d := by
  rw [requireDatabase]
  cases s.database? name <;> simp

theorem hasDatabase_eq_isSome : s.hasDatabase name = (s.database? name).isSome := by
  rw [hasDatabase, database?, List.isSome_find?]

theorem requireTable_eq_ok_iff : s.requireTable database table = .ok t ↔
    ∃ d, s.database? database = some d ∧ d.table? s.caseMode table = some t := by
  rw [requireTable, bind_eq_ok_iff]
  refine exists_congr fun d => and_congr requireDatabase_eq_ok_iff ?_
  cases d.table? s.caseMode table <;> simp [pure, Except.pure, throw, throwThe, MonadExceptOf.throw]

theorem mem_of_database? (h : s.database? name = some d) :
    d ∈ s.databases ∧ s.caseMode.namesEqual d.name name = true := by
  have hname := List.find?_some h
  exact ⟨List.mem_of_find?_eq_some h, hname⟩

end Schema

namespace Database

variable {d d' : Database} {mode : CaseMode} {name : String} {t : Table}

theorem hasTable_eq_isSome : d.hasTable mode name = (d.table? mode name).isSome := by
  rw [hasTable, table?, List.isSome_find?]

theorem mem_of_table? (h : d.table? mode name = some t) :
    t ∈ d.tables ∧ mode.namesEqual t.name name = true := by
  have hname := List.find?_some h
  exact ⟨List.mem_of_find?_eq_some h, hname⟩

theorem updateTable_eq_ok_iff {missing : InvariantError} {change : Table → List Table} :
    d.updateTable mode name missing change = .ok d' ↔
      ∃ front t back, d.tables = front ++ t :: back ∧
        (∀ b ∈ front, mode.namesEqual b.name name = false) ∧ mode.namesEqual t.name name = true ∧
        d' = { d with tables := front ++ change t ++ back } := by
  rw [updateTable, map_eq_ok_iff]
  constructor
  · rintro ⟨tables, h, rfl⟩
    obtain ⟨front, t, back, new, ht, hfront, hname, hnew, rfl⟩ := updateFirst_eq_ok_iff.1 h
    cases hnew
    exact ⟨front, t, back, ht, hfront, hname, rfl⟩
  · rintro ⟨front, t, back, ht, hfront, hname, rfl⟩
    exact ⟨_, updateFirst_eq_ok_iff.2 ⟨front, t, back, _, ht, hfront, hname, rfl, rfl⟩, rfl⟩

/-- What holds of all tables and of those that are put in holds of all tables afterwards. -/
theorem forall_updateTable {missing : InvariantError} {change : Table → List Table}
    {P : Table → Prop} (h : d.updateTable mode name missing change = .ok d')
    (hd : ∀ t ∈ d.tables, P t) (hchange : ∀ t ∈ d.tables, ∀ u ∈ change t, P u) :
    d'.name = d.name ∧ d'.charset = d.charset ∧ ∀ t ∈ d'.tables, P t := by
  obtain ⟨front, t, back, ht, -, -, rfl⟩ := updateTable_eq_ok_iff.1 h
  refine ⟨rfl, rfl, ?_⟩
  rw [ht] at hd hchange
  simp only [List.forall_mem_append, List.forall_mem_cons] at hd ⊢
  exact ⟨⟨hd.1, hchange t (by simp)⟩, hd.2.2⟩

theorem updateTable_of_table? (h : d.table? mode name = some t) (missing : InvariantError)
    (change : Table → List Table) : ∃ d', d.updateTable mode name missing change = .ok d' := by
  have hfirst : ∃ tables, updateFirst (fun t => mode.namesEqual t.name name) missing
      (fun t => .ok (change t)) d.tables = .ok tables := updateFirst_of_find? h rfl
  obtain ⟨tables, htables⟩ := hfirst
  exact ⟨_, by rw [updateTable, htables]; rfl⟩

end Database

namespace Schema

variable {s s' : Schema} {name database table : String} {d : Database} {t new : Table}

/-! ## Updating databases -/

theorem updateDatabase_eq_ok_iff {change : Database → Except InvariantError Database} :
    s.updateDatabase name change = .ok s' ↔
      ∃ front d back d', s.databases = front ++ d :: back ∧
        (∀ b ∈ front, s.caseMode.namesEqual b.name name = false) ∧
        s.caseMode.namesEqual d.name name = true ∧ change d = .ok d' ∧
        s' = { s with databases := front ++ d' :: back } := by
  rw [updateDatabase, map_eq_ok_iff]
  constructor
  · rintro ⟨databases, h, rfl⟩
    obtain ⟨front, d, back, new, hd, hfront, hname, hnew, rfl⟩ := updateFirst_eq_ok_iff.1 h
    obtain ⟨d', hd', rfl⟩ := map_eq_ok_iff.1 hnew
    exact ⟨front, d, back, d', hd, hfront, hname, hd', by simp⟩
  · rintro ⟨front, d, back, d', hd, hfront, hname, hd', rfl⟩
    refine ⟨_, updateFirst_eq_ok_iff.2 ⟨front, d, back, [d'], hd, hfront, hname, ?_, rfl⟩, by simp⟩
    rw [hd']
    rfl

theorem caseMode_of_updateDatabase {change : Database → Except InvariantError Database}
    (h : s.updateDatabase name change = .ok s') : s'.caseMode = s.caseMode := by
  obtain ⟨_, _, _, _, _, _, _, _, rfl⟩ := updateDatabase_eq_ok_iff.1 h
  rfl

/-- What holds of all databases and is kept by the update of one holds of all of them afterwards. -/
theorem forall_updateDatabase {change : Database → Except InvariantError Database}
    {P : Database → Prop} (h : s.updateDatabase name change = .ok s')
    (hs : ∀ d ∈ s.databases, P d)
    (hchange : ∀ d ∈ s.databases, s.caseMode.namesEqual d.name name = true →
      ∀ d', change d = .ok d' → P d') : ∀ d ∈ s'.databases, P d := by
  obtain ⟨front, d, back, d', hd, -, hname, hd', rfl⟩ := updateDatabase_eq_ok_iff.1 h
  rw [hd] at hs hchange
  simp only [List.forall_mem_append, List.forall_mem_cons] at hs ⊢
  exact ⟨hs.1, hchange d (by simp) hname d' hd', hs.2.2⟩

theorem updateDatabase_of_database? {change : Database → Except InvariantError Database}
    {d' : Database} (h : s.database? name = some d) (hchange : change d = .ok d') :
    ∃ s', s.updateDatabase name change = .ok s' := by
  obtain ⟨hname, front, back, hd, hfront⟩ := List.find?_eq_some_iff_append.1 h
  exact ⟨_, updateDatabase_eq_ok_iff.2
    ⟨front, d, back, d', hd, by simpa using hfront, hname, hchange, rfl⟩⟩

theorem removeDatabase_eq_ok_iff : s.removeDatabase name = .ok s' ↔
    ∃ front d back, s.databases = front ++ d :: back ∧
      (∀ b ∈ front, s.caseMode.namesEqual b.name name = false) ∧
      s.caseMode.namesEqual d.name name = true ∧ s' = { s with databases := front ++ back } := by
  rw [removeDatabase, map_eq_ok_iff]
  constructor
  · rintro ⟨databases, h, rfl⟩
    obtain ⟨front, d, back, new, hd, hfront, hname, hnew, rfl⟩ := updateFirst_eq_ok_iff.1 h
    cases hnew
    exact ⟨front, d, back, hd, hfront, hname, by simp⟩
  · rintro ⟨front, d, back, hd, hfront, hname, rfl⟩
    exact ⟨_, updateFirst_eq_ok_iff.2 ⟨front, d, back, [], hd, hfront, hname, rfl, rfl⟩, by simp⟩

theorem removeDatabase_of_database? (h : s.database? name = some d) :
    ∃ s', s.removeDatabase name = .ok s' := by
  obtain ⟨hname, front, back, hd, hfront⟩ := List.find?_eq_some_iff_append.1 h
  exact ⟨_, removeDatabase_eq_ok_iff.2 ⟨front, d, back, hd, by simpa using hfront, hname, rfl⟩⟩

/-! ## Updating tables -/

theorem updateTable_of_requireTable (h : s.requireTable database table = .ok t)
    (change : Table → List Table) : ∃ s', s.updateTable database table change = .ok s' := by
  obtain ⟨d, hd, ht⟩ := requireTable_eq_ok_iff.1 h
  obtain ⟨d', hd'⟩ := d.updateTable_of_table? ht (.tableNotFound database table) change
  exact updateDatabase_of_database? hd hd'

/-- Only the table itself can be put in its place without a change of the schema. -/
theorem updateTable_eq_self_iff : s.updateTable database table (fun _ => [new]) = .ok s ↔
    s.requireTable database table = .ok new := by
  rw [requireTable_eq_ok_iff, updateTable, updateDatabase_eq_ok_iff]
  constructor
  · rintro ⟨front, d, back, d', hd, hfront, hname, hd', hs⟩
    have hlist := hd.symm.trans (congrArg databases hs)
    obtain rfl : d = d' := (List.cons.inj (List.append_cancel_left hlist)).1
    obtain ⟨front', t, back', ht, hfront', htable, hd'⟩ := Database.updateTable_eq_ok_iff.1 hd'
    have htables := ht.symm.trans (congrArg Database.tables hd')
    rw [List.append_assoc, List.append_cancel_left_eq, List.singleton_append] at htables
    obtain rfl : t = new := (List.cons.inj htables).1
    exact ⟨d, List.find?_eq_some_iff_append.2 ⟨hname, front, back, hd, by simpa using hfront⟩,
      List.find?_eq_some_iff_append.2 ⟨htable, front', back', ht, by simpa using hfront'⟩⟩
  · rintro ⟨d, hd, ht⟩
    obtain ⟨hname, front, back, hd, hfront⟩ := List.find?_eq_some_iff_append.1 hd
    obtain ⟨htable, front', back', ht, hfront'⟩ := List.find?_eq_some_iff_append.1 ht
    refine ⟨front, d, back, d, hd, by simpa using hfront, hname, ?_, by rw [← hd]⟩
    exact Database.updateTable_eq_ok_iff.2
      ⟨front', new, back', ht, by simpa using hfront', htable, by simp [← ht]⟩

/-- A table is put into a schema by adding it to its database, which must have none of its name. -/
theorem insertTable_eq_ok_iff : s.insertTable new = .ok s' ↔
    s.hasTable new.database new.name = false ∧ s.addTable new = .ok s' := by
  have hthere : ∀ {front d back}, s.databases = front ++ d :: back →
      (∀ b ∈ front, s.caseMode.namesEqual b.name new.database = false) →
      s.caseMode.namesEqual d.name new.database = true →
      s.hasTable new.database new.name = d.hasTable s.caseMode new.name := by
    intro front d back hd hfront hname
    have hfound : s.database? new.database = some d :=
      List.find?_eq_some_iff_append.2 ⟨hname, front, back, hd, by simpa using hfront⟩
    rw [hasTable, table?, hfound, Option.bind_some, Database.hasTable_eq_isSome]
  constructor
  · intro h
    obtain ⟨front, d, back, d', hd, hfront, hname, hd', rfl⟩ := updateDatabase_eq_ok_iff.1 h
    rw [hthere hd hfront hname]
    split at hd'
    · cases hd'
    · rename_i hfree
      exact ⟨Bool.eq_false_iff.2 hfree,
        updateDatabase_eq_ok_iff.2 ⟨front, d, back, d', hd, hfront, hname, hd', rfl⟩⟩
  · rintro ⟨hfree, h⟩
    obtain ⟨front, d, back, d', hd, hfront, hname, hd', rfl⟩ := updateDatabase_eq_ok_iff.1 h
    rw [hthere hd hfront hname] at hfree
    exact updateDatabase_eq_ok_iff.2
      ⟨front, d, back, d', hd, hfront, hname, (if_neg (by simp [hfree])).trans hd', rfl⟩

theorem replaceTable_eq (s : Schema) (database table : String) (new : Table) :
    s.replaceTable database table new = (s.requireTable database table).bind fun _ =>
      if !(s.caseMode.namesEqual database new.database && s.caseMode.namesEqual table new.name) &&
          s.hasTable new.database new.name then
        .error (.tableExists new.database new.name)
      else if s.caseMode.namesEqual database new.database then
        s.updateTable database table fun _ => [new]
      else
        (s.requireDatabase new.database).bind fun _ =>
          (s.updateTable database table fun _ => []).bind fun without => without.addTable new := by
  rw [replaceTable]
  cases s.requireTable database table with
  | error e => rfl
  | ok t =>
    show (if _ then _ else _ : Except InvariantError Schema) = if _ then _ else _
    split
    · rfl
    · split
      · rfl
      · cases s.requireDatabase new.database <;> rfl

/-- The three ways in which a table is replaced: by one in the same database, or by one in another,
in either case of a name that no other table has. -/
theorem replaceTable_eq_ok_iff : s.replaceTable database table new = .ok s' ↔
    (∃ t, s.requireTable database table = .ok t) ∧
    ((s.caseMode.namesEqual database new.database && s.caseMode.namesEqual table new.name) = true ∨
      s.hasTable new.database new.name = false) ∧
    if s.caseMode.namesEqual database new.database then
      s.updateTable database table (fun _ => [new]) = .ok s'
    else (∃ d, s.database? new.database = some d) ∧
      ∃ without, s.updateTable database table (fun _ => []) = .ok without ∧
        without.addTable new = .ok s' := by
  rw [replaceTable, discard_bind_eq_ok_iff]
  refine and_congr Iff.rfl ?_
  by_cases hdatabase : s.caseMode.namesEqual database new.database = true
  · by_cases htable : s.caseMode.namesEqual table new.name = true
    · simp [hdatabase, htable]
    by_cases hthere : s.hasTable new.database new.name = true
    · simp [hdatabase, htable, hthere, throw_bind_ne_ok]
    · simp [hdatabase, hthere]
  by_cases hthere : s.hasTable new.database new.name = true
  · simp [hdatabase, hthere, throw_bind_ne_ok]
  simp only [hdatabase, hthere, Bool.false_and, Bool.not_false, Bool.and_false, Bool.false_eq_true,
    if_false, or_true, true_and]
  rw [discard_bind_eq_ok_iff, bind_eq_ok_iff]
  exact and_congr (exists_congr fun d => requireDatabase_eq_ok_iff) Iff.rfl

/-! ## The mode -/

theorem caseMode_of_replaceTable (h : s.replaceTable database table new = .ok s') :
    s'.caseMode = s.caseMode := by
  obtain ⟨-, -, h⟩ := replaceTable_eq_ok_iff.1 h
  split at h
  · exact caseMode_of_updateDatabase h
  · obtain ⟨-, without, htake, hadd⟩ := h
    rw [caseMode_of_updateDatabase hadd, caseMode_of_updateDatabase htake]

/-- Changes leave the mode of a schema as it is. -/
theorem caseMode_of_apply {c : Change} (h : c.apply s = .ok s') : s'.caseMode = s.caseMode := by
  cases c with
  | createDatabase database charset =>
    rw [Change.apply] at h
    split at h <;> cases h
    rfl
  | alterDatabase database charset tables => exact caseMode_of_updateDatabase h
  | dropDatabase database =>
    obtain ⟨_, _, _, _, _, _, rfl⟩ := removeDatabase_eq_ok_iff.1 h
    rfl
  | createTable database table definition => exact caseMode_of_updateDatabase h
  | alterTable database table old definition => exact caseMode_of_replaceTable h
  | dropTable database table => exact caseMode_of_updateDatabase h
  | renameTables renames =>
    exact foldlM_induction (motive := fun s' => s'.caseMode = s.caseMode) h rfl
      fun _ hs _ _ _ hs' => (caseMode_of_replaceTable hs').trans hs

end Schema

end SchemaTrail
