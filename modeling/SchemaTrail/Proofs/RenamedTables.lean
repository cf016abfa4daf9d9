import SchemaTrail.Proofs.Catalogues
import SchemaTrail.Proofs.FilteredRequests
import SchemaTrail.Proofs.FoldedNames

/-!
# Renamed tables

A batch of renames moves the entries of a catalogue from one key to another, pair by pair from the
left (`Catalogue.rename?`).  Resolving and applying the batch does just this to the catalogue of the
schema, with the same success (`Tracker.run_renames`): the schemas that resolving goes through are
those that the renames, one by one, lead to (`Request.after_renameTables`).
-/

namespace SchemaTrail

open Outcome

namespace Catalogue

/-- The catalogue with a table taken from one key and stored under another. -/
def moveTable (m : Catalogue) (source target : TableName) (v : TableName × TableBody) : Catalogue :=
  { m with tables := (m.tables.erase source).insert target v }

/-- The catalogue after a rename: the table under the key of `source` is stored under the new name,
with its body.  There must be such a table, the database of `target`, and no table under the key of
`target`. -/
def rename? (mode : CaseMode) (m : Catalogue) (source target : TableName) : Option Catalogue :=
  match m.tables.lookup (source.key mode), m.databases.lookup (mode.key target.database) with
  | some (_, body), some database =>
    if target.key mode ∈ m.tables then none
    else some <| m.moveTable (source.key mode) (target.key mode)
      (⟨database, mode.storedName target.table⟩, body)
  | _, _ => none

theorem rename?_eq_some_iff {mode : CaseMode} {m m' : Catalogue} {source target : TableName} :
    m.rename? mode source target = some m' ↔
      ∃ v database, m.tables.lookup (source.key mode) = some v ∧
        m.databases.lookup (mode.key target.database) = some database ∧
        m.tables.lookup (target.key mode) = none ∧
        m.moveTable (source.key mode) (target.key mode)
          (⟨database, mode.storedName target.table⟩, v.2) = m' := by
  rw [rename?]
  cases m.tables.lookup (source.key mode) with
  | none => simp
  | some v =>
    cases m.databases.lookup (mode.key target.database) with
    | none => simp
    | some database => simp [Finmap.lookup_eq_none]

end Catalogue

theorem TableName.key_eq_of_equals {mode : CaseMode} {v w : TableName}
    (h : v.equals mode w = true) : v.key mode = w.key mode := by
  rw [equals, Bool.and_eq_true] at h
  rw [key, key, CaseMode.key_eq_of_namesEqual h.1, CaseMode.key_eq_of_namesEqual h.2]

theorem Schema.requireTable_eq_ok_iff_table? {s : Schema} {database table : String} {t : Table} :
    s.requireTable database table = .ok t ↔ s.table? database table = some t := by
  rw [requireTable_eq_ok_iff, table?, Option.bind_eq_some_iff]

namespace Request

/-- The schema that a request leads to. -/
def after (config : Config) (s : Schema) (r : Request) : Except InvariantError Schema :=
  (r.carryOut config s).map fun o => o.elim s Prod.snd

/-- The schema after one rename that is written in a request. -/
def renameOne (config : Config) (s : Schema) (p : TableName × TableName) :
    Except InvariantError Schema := do
  s.rename (← resolveRename config s p.1 p.2)

variable {config : Config} {s s' : Schema} {renames : List (TableName × TableName)}
  {source target : TableName}

/-! ## Batches -/

/-- Applying the renames that were resolved goes through the schemas that they were resolved in. -/
theorem resolveRenames_bind (config : Config) (s : Schema)
    (renames : List (TableName × TableName)) :
    (resolveRenames config s renames >>= fun resolved => resolved.foldlM Schema.rename s) =
      renames.foldlM (renameOne config) s := by
  induction renames generalizing s with
  | nil => rfl
  | cons p renames ih =>
    obtain ⟨source, target⟩ := p
    rw [List.foldlM_cons, renameOne, resolveRenames]
    cases resolveRename config s source target with
    | error e => rfl
    | ok r =>
      change ((s.rename r >>= fun next => resolveRenames config next renames >>= fun others =>
        pure (r :: others)) >>= fun resolved => resolved.foldlM Schema.rename s) =
          s.rename r >>= fun next => renames.foldlM (renameOne config) next
      cases hnext : s.rename r with
      | error e => rfl
      | ok next =>
        change ((resolveRenames config next renames >>= fun others => pure (r :: others)) >>=
          fun resolved => resolved.foldlM Schema.rename s) = renames.foldlM (renameOne config) next
        rw [← ih next, bind_assoc]
        simp only [pure_bind, List.foldlM_cons, hnext]
        rfl

/-- A batch does one rename after the other. -/
theorem after_renameTables (config : Config) (s : Schema)
    (renames : List (TableName × TableName)) :
    (renameTables renames).after config s = renames.foldlM (renameOne config) s := by
  rw [← resolveRenames_bind, after, carryOut, resolve]
  cases resolveRenames config s renames with
  | error e => rfl
  | ok resolved =>
    change (resolved.foldlM Schema.rename s >>= fun next =>
      pure (some (Change.renameTables resolved, next))).map _ = resolved.foldlM Schema.rename s
    cases resolved.foldlM Schema.rename s <;> rfl

/-! ## One rename -/

theorem renameOne_eq_ok_iff : renameOne config s (source, target) = .ok s' ↔
    ∃ t, s.requireTable source.database source.table = .ok t ∧
      ∃ place, newPlace config s target = .ok place ∧
        s.rename ⟨t.database, t.name, t.relocated place.database place.table⟩ = .ok s' := by
  rw [renameOne, bind_eq_ok_iff]
  simp only [resolveRename_eq_ok_iff]
  constructor
  · rintro ⟨r, ⟨t, ht, place, hplace, rfl⟩, h⟩
    exact ⟨t, ht, place, hplace, h⟩
  · rintro ⟨t, ht, place, hplace, h⟩
    exact ⟨_, ⟨t, ht, place, hplace, rfl⟩, h⟩

theorem newPlace_eq_ok_iff_table? {place : TableName} : newPlace config s target = .ok place ↔
    ∃ d, s.database? target.database = some d ∧ s.table? target.database target.table = none ∧
      ⟨d.name, config.caseMode.storedName target.table⟩ = place := by
  rw [newPlace_eq_ok_iff]
  refine exists_congr fun d => and_congr_right fun hd => and_congr_left fun _ => ?_
  rw [Database.hasTable_eq_isSome, Schema.table?, hd, Option.bind_some, Option.isSome_eq_false_iff,
    Option.isNone_iff_eq_none]

section Step

variable {names : String → Prop} (hs : s.Tracked config names)
include hs

theorem renameOne_tracked (htarget : ∀ a ∈ target.names, names a)
    (h : renameOne config s (source, target) = .ok s') : s'.Tracked config names := by
  rw [renameOne, bind_eq_ok_iff] at h
  obtain ⟨r, hr, h⟩ := h
  exact rename_tracked hs htarget hr h

/-- A table that is found can be renamed if the new name is free. -/
theorem rename_succeeds {t : Table} {place : TableName} (htarget : ∀ a ∈ target.names, names a)
    (ht : s.requireTable source.database source.table = .ok t)
    (hplace : newPlace config s target = .ok place) :
    ∃ s', s.rename ⟨t.database, t.name, t.relocated place.database place.table⟩ = .ok s' := by
  have hfree := newPlace_free hs.caseMode hs.coherent hs.sound htarget hplace
  have hcolumns := (hs.sound.fitsIn_of_requireTable ht).columns_distinct
  exact hs.sound.replaceTable_succeeds (hfree.fitsIn hcolumns)
    (hs.sound.requireTable_stored ht) (.inr hfree.free)

/-- A rename moves one entry of the catalogue. -/
theorem catalogue_of_renameOne {t : Table} {place : TableName}
    (hsource : ∀ a ∈ source.names, names a) (htarget : ∀ a ∈ target.names, names a)
    (ht : s.requireTable source.database source.table = .ok t)
    (hplace : newPlace config s target = .ok place)
    (h : s.rename ⟨t.database, t.name, t.relocated place.database place.table⟩ = .ok s') :
    s'.catalogue = s.catalogue.moveTable (source.key s.caseMode) (target.key s.caseMode)
      (place, t.body) ∧ s'.bodies.Perm s.bodies := by
  have hs' := renameOne_tracked hs htarget (renameOne_eq_ok_iff.2 ⟨t, ht, place, hplace, h⟩)
  have hkeys := hs.named.distinct.nodupKeys
  have hkeys' := hs'.named.distinct.nodupKeys
  have hsame := Schema.SameDatabases.of_replaceTable h
  obtain ⟨u, rest, hold, hnew⟩ := Schema.entries_replaceTable (w := t.place) h
  rw [TableName.key_eq_of_equals (hs.place_of_requireTable ht).2] at hold
  rw [Table.body_relocated] at hnew
  -- The entry that is moved is that of the table that was found.
  have hlookup := hs.named.lookup_tables hsource
  rw [Schema.requireTable_eq_ok_iff_table?.1 ht, Schema.catalogue, Finmap.dlookup_list_toFinmap,
    List.perm_dlookup _ hkeys hold, List.dlookup_cons_eq, Option.map_some, Option.some.injEq]
    at hlookup
  rw [hlookup] at hold
  constructor
  · rw [Schema.catalogue, hsame.databaseNames, hsame.caseMode]
    refine congrArg (Catalogue.mk _) ?_
    rw [← TableName.key_eq_of_equals (newPlace_equals hs htarget hplace)]
    exact toFinmap_eq_insert_erase hkeys hkeys' hold hnew
  · rw [Schema.bodies_eq, Schema.bodies_eq]
    replace hold := hold.map fun e => e.2.2
    replace hnew := hnew.map fun e => e.2.2
    rw [List.map_cons] at hold hnew
    exact hnew.trans hold.symm

/-- A rename that a request means is that of the catalogue: it succeeds where that does, and does
what that does. -/
theorem catalogue_renameOne (hsource : ∀ a ∈ source.names, names a)
    (htarget : ∀ a ∈ target.names, names a) :
    (renameOne config s (source, target)).toOption.map Schema.catalogue =
      s.catalogue.rename? config.caseMode source target := by
  refine Option.ext fun m => ?_
  rw [hs.caseMode, Catalogue.rename?_eq_some_iff, Option.map_eq_some_iff,
    hs.named.lookup_tables hsource, hs.named.lookup_tables htarget,
    hs.named.lookup_databases (htarget _ (by simp [TableName.names]))]
  simp only [toOption_eq_some_iff, Option.map_eq_some_iff, Option.map_eq_none_iff,
    ← Schema.requireTable_eq_ok_iff_table?]
  constructor
  · rintro ⟨s', h, rfl⟩
    obtain ⟨t, ht, place, hplace, h⟩ := renameOne_eq_ok_iff.1 h
    rw [(catalogue_of_renameOne hs hsource htarget ht hplace h).1]
    obtain ⟨d, hd, hfree, rfl⟩ := newPlace_eq_ok_iff_table?.1 hplace
    exact ⟨_, _, ⟨t, ht, rfl⟩, ⟨d, hd, rfl⟩, hfree, by rw [hs.caseMode]⟩
  · rintro ⟨_, _, ⟨t, ht, rfl⟩, ⟨d, hd, rfl⟩, hfree, rfl⟩
    have hplace : newPlace config s target = .ok _ :=
      newPlace_eq_ok_iff_table?.2 ⟨d, hd, hfree, rfl⟩
    obtain ⟨s', h⟩ := rename_succeeds hs htarget ht hplace
    refine ⟨s', renameOne_eq_ok_iff.2 ⟨t, ht, _, hplace, h⟩, ?_⟩
    rw [(catalogue_of_renameOne hs hsource htarget ht hplace h).1, hs.caseMode]

end Step

/-! ## Several renames -/

section Run

variable {names : String → Prop} (hs : s.Tracked config names)
  (hrenames : ∀ p ∈ renames, (∀ a ∈ p.1.names, names a) ∧ ∀ a ∈ p.2.names, names a)
include hs hrenames

theorem catalogue_renames : (renames.foldlM (renameOne config) s).toOption.map Schema.catalogue =
    renames.foldlM (fun m p => m.rename? config.caseMode p.1 p.2) s.catalogue := by
  induction renames generalizing s with
  | nil => rfl
  | cons p renames ih =>
    rw [List.forall_mem_cons] at hrenames
    have hstep := catalogue_renameOne hs hrenames.1.1 hrenames.1.2
    rw [List.foldlM_cons, List.foldlM_cons, ← hstep, toOption_bind]
    cases hnext : renameOne config s (p.1, p.2) with
    | error e => simp [Except.toOption]
    | ok next =>
      have hnext' := renameOne_tracked hs hrenames.1.2 hnext
      simpa [hnext, Except.toOption] using ih hnext' hrenames.2

theorem bodies_renames (h : renames.foldlM (renameOne config) s = .ok s') :
    s'.bodies.Perm s.bodies := by
  refine (foldlM_induction (motive := fun b => b.Tracked config names ∧ b.bodies.Perm s.bodies) h
    ⟨hs, .refl _⟩ fun b hb p hp b' hb' => ?_).2
  obtain ⟨hsource, htarget⟩ := hrenames p hp
  obtain ⟨t, ht, place, hplace, hrename⟩ := renameOne_eq_ok_iff.1 hb'
  exact ⟨renameOne_tracked hb.1 htarget hb',
    (catalogue_of_renameOne hb.1 hsource htarget ht hplace hrename).2.trans hb.2⟩

end Run

/-! ## Renaming in an `ALTER TABLE` statement -/

theorem editedTable_newName {t : Table} (hother : isOwnName s t target = false) :
    editedTable config s t { TableEdit.empty with newName := some target } =
      newPlace config s target >>= fun place => pure (t.relocated place.database place.table) := by
  rw [editedTable, renamedTable]
  change ((if isOwnName s t target then pure t else newPlace config s target >>= fun place =>
    pure (t.relocated place.database place.table)) >>= _) = _
  rw [hother]
  cases newPlace config s target <;> rfl

/-- To rename a table only, and to another name, is a batch of one. -/
theorem after_alterTable {names : String → Prop} (hs : s.Tracked config names)
    (hother : target.key s.caseMode ≠ source.key s.caseMode) :
    (alterTable source { TableEdit.empty with newName := some target }).after config s =
      (renameTables [(source, target)]).after config s := by
  rw [after_renameTables, foldlM_singleton, after, carryOut, resolve, resolveAlterTable, renameOne,
    resolveRename]
  cases ht : s.requireTable source.database source.table with
  | error e => rfl
  | ok t =>
    have hown : isOwnName s t target = false := by
      rw [Bool.eq_false_iff]
      intro hown
      have hsource := TableName.key_eq_of_equals (hs.place_of_requireTable ht).2
      have htarget : target.key s.caseMode = t.place.key s.caseMode :=
        TableName.key_eq_of_equals hown
      exact hother (htarget.trans hsource)
    change ((editedTable config s t _ >>= fun new => pure (some (Change.alterTable t.database t.name
      t new))) >>= _).map _ = _
    rw [editedTable_newName hown]
    cases newPlace config s target with
    | error e => rfl
    | ok place =>
      let new := t.relocated place.database place.table
      change (s.replaceTable t.database t.name new >>= fun next =>
        pure (some (Change.alterTable t.database t.name t new, next))).map _ =
          s.replaceTable t.database t.name new
      cases s.replaceTable t.database t.name new <;> rfl

end Request

namespace Tracker

/-! ## Statements -/

variable {t : Tracker} {call : Option String × String} {s' : Schema}

/-- A tracker holds, after a statement with one request, the schema that the request leads to. -/
theorem follow_schema_of_after {r : Request} (hread : Statement.requests call.1 call.2 = .ok [r])
    (hr : r.isExcluded t.exclusions = false) (h : r.after t.config t.schema = .ok s') :
    (t.follow call).schema = s' := by
  obtain ⟨o, ho, rfl⟩ := map_eq_ok_iff.1 h
  have hadd := Request.addRequest_eq_carryOut hr ⟨[], t.schema⟩
  rw [ho] at hadd
  have hprepare : ∃ p, t.prepare call.1 call.2 = .ok p ∧ p.schema = o.elim t.schema Prod.snd := by
    cases o with
    | none => exact ⟨_, (prepare_singleton_iff hread).2 hadd, rfl⟩
    | some result => exact ⟨_, (prepare_singleton_iff hread).2 hadd, rfl⟩
  obtain ⟨p, hp, hschema⟩ := hprepare
  rw [← hschema, ← commit_schema hp]
  delta follow process
  rw [hp]
  rfl

/-- Statements with one rename each lead, one after the other, to what a batch leads to. -/
theorem run_schema_of_renames {calls : List (Option String × String)}
    {renames : List (TableName × TableName)}
    (hcalls : List.Forall₂ (fun call p =>
      Statement.requests call.1 call.2 = .ok [.renameTables [p]]) calls renames)
    (hr : ∀ p ∈ renames, t.exclusions.hasTable p.1.database p.1.table = false)
    (h : renames.foldlM (Request.renameOne t.config) t.schema = .ok s') :
    (t.run calls).schema = s' := by
  induction hcalls generalizing t with
  | nil =>
    cases h
    rfl
  | @cons call p calls renames hcall _ ih =>
    rw [List.foldlM_cons, bind_eq_ok_iff] at h
    obtain ⟨next, hnext, h⟩ := h
    rw [List.forall_mem_cons] at hr
    have hafter := (Request.after_renameTables t.config t.schema [p]).trans
      (foldlM_singleton.trans hnext)
    have hschema := follow_schema_of_after hcall (by simp [Request.isExcluded, hr.1]) hafter
    obtain ⟨s₁, hs₁⟩ := t.follow_withSchema call
    rw [hs₁] at hschema
    subst hschema
    change ((t.follow call).run calls).schema = s'
    rw [hs₁]
    exact ih (t := { t with schema := s₁ }) hr.2 h

/-- In every schema that a tracker reaches from the empty one, a batch of renames does what its
pairs do, from the left, to the finite map from names to bodies of tables: it can be resolved and
applied if each of them can be done there, and then the catalogue is the one that they lead to, with
the bodies that there were.  It is the same as batches of one pair each, and such a batch is the
same as an `ALTER TABLE` statement that only renames a table to another name; and a tracker that
excludes none of the tables comes to the same schema by a statement with the batch and by statements
with its pairs. -/
theorem run_renames {names : String → Prop} (config : Config) (exclusions : Exclusions)
    (charset : String) (mode : CaseMode) (calls : List (Option String × String))
    (hcoherent : config.caseMode ≠ .sensitive → config.caseMode.Coherent names)
    (hcalls : config.caseMode ≠ .sensitive →
      ∀ call ∈ calls, ∀ a ∈ Statement.names call.1 call.2, names a)
    (renames : List (TableName × TableName))
    (hrenames : config.caseMode ≠ .sensitive →
      ∀ a ∈ (Request.renameTables renames).names, names a) :
    let t := (start config exclusions (.empty charset mode)).run calls
    let batch := Request.renameTables renames
    (batch.after config t.schema).toOption.map Schema.catalogue =
        renames.foldlM (fun m p => m.rename? config.caseMode p.1 p.2) t.schema.catalogue ∧
      (∀ s', batch.after config t.schema = .ok s' → s'.bodies.Perm t.schema.bodies) ∧
      batch.after config t.schema =
        renames.foldlM (fun s p => (Request.renameTables [p]).after config s) t.schema ∧
      (∀ source target : TableName, target.key config.caseMode ≠ source.key config.caseMode →
        (Request.alterTable source { TableEdit.empty with newName := some target }).after config
          t.schema = (Request.renameTables [(source, target)]).after config t.schema) ∧
      ∀ call singles, Statement.requests call.1 call.2 = .ok [batch] →
        List.Forall₂ (fun call p =>
          Statement.requests call.1 call.2 = .ok [.renameTables [p]]) singles renames →
        (∀ p ∈ renames, exclusions.hasTable p.1.database p.1.table = false) →
        ∀ s', batch.after config t.schema = .ok s' →
          (t.follow call).schema = s' ∧ (t.run singles).schema = s' := by
  intro t batch
  have ht := start_run_tracked config exclusions charset mode calls hcoherent hcalls
  have hnames : ∀ p ∈ renames, (∀ a ∈ p.1.names, config.caseMode = .sensitive ∨ names a) ∧
      ∀ a ∈ p.2.names, config.caseMode = .sensitive ∨ names a := by
    refine fun p hp => List.forall_mem_append.1 fun a ha => Decidable.or_iff_not_imp_left.2 ?_
    exact fun hmode => hrenames hmode a (List.mem_flatMap.2 ⟨p, hp, ha⟩)
  simp only [batch, Request.after_renameTables, foldlM_singleton]
  refine ⟨Request.catalogue_renames ht hnames, fun _ => Request.bodies_renames ht hnames,
    trivial, ?_, ?_⟩
  · intro source target hother
    rw [ht.caseMode] at hother
    rw [Request.after_alterTable ht hother, Request.after_renameTables,
      foldlM_singleton]
  · intro call singles hcall hsingles hexcluded s' h
    obtain ⟨s, hs⟩ := (start config exclusions (.empty charset mode)).run_withSchema calls
    have hconfig : t.config = config := congrArg Tracker.config hs
    have hexclusions : t.exclusions = exclusions := congrArg Tracker.exclusions hs
    rw [← hconfig] at h
    rw [← hexclusions] at hexcluded
    constructor
    · refine follow_schema_of_after hcall ?_ ((Request.after_renameTables _ _ _).trans h)
      cases renames with
      | nil => rfl
      | cons p renames => simp [Request.isExcluded, hexcluded p List.mem_cons_self]
    · exact run_schema_of_renames hsingles hexcluded h

/-- Two tables that exchange their names with the help of another database. -/
theorem run_renames_exchanged :
    let config : Config := ⟨.insensitive, .never, "utf8mb4"⟩
    let t := (start config .empty (.empty "utf8mb4" .sensitive)).run
      [(none, "CREATE DATABASE Shop"), (none, "CREATE DATABASE Spare"),
        (some "shop", "CREATE TABLE A (x int)"), (some "SHOP", "CREATE TABLE B (y int)")]
    let renames : List (TableName × TableName) := [(⟨"shop", "a"⟩, ⟨"spare", "Tmp"⟩),
      (⟨"shop", "b"⟩, ⟨"SHOP", "a"⟩), (⟨"Spare", "TMP"⟩, ⟨"shop", "B"⟩)]
    ∃ s', (Request.renameTables renames).after config t.schema = .ok s' ∧
      some s'.catalogue =
        renames.foldlM (fun m p => m.rename? .insensitive p.1 p.2) t.schema.catalogue ∧
      s'.bodies.Perm t.schema.bodies ∧
      (t.follow (some "shop", "RENAME TABLE a TO spare.Tmp, b TO SHOP.a, Spare.TMP TO B")).schema =
        s' ∧
      (t.run [(some "shop", "RENAME TABLE a TO spare.Tmp"),
        (some "shop", "RENAME TABLE b TO SHOP.a"),
        (some "shop", "RENAME TABLE Spare.TMP TO B")]).schema = s' := by
  intro config t renames
  obtain ⟨hcatalogue, hbodies, -, -, hstatements⟩ :=
    run_renames config .empty "utf8mb4" .sensitive
      [(none, "CREATE DATABASE Shop"), (none, "CREATE DATABASE Spare"),
        (some "shop", "CREATE TABLE A (x int)"), (some "SHOP", "CREATE TABLE B (y int)")]
      (fun _ => CaseMode.coherent_isAscii .insensitive) (fun _ => by decide +kernel) renames
      (fun _ => by decide +kernel)
  obtain ⟨s', hs'⟩ : ∃ s', (Request.renameTables renames).after config t.schema = .ok s' :=
    isSome_toOption_iff.1 (by decide +kernel)
  rw [hs'] at hcatalogue
  refine ⟨s', hs', hcatalogue, hbodies s' hs', hstatements _ _ ?_ ?_ (by decide +kernel) s' hs'⟩
  · exact toOption_eq_some_iff.1 (by decide +kernel)
  · exact .cons (toOption_eq_some_iff.1 (by decide +kernel)) <|
      .cons (toOption_eq_some_iff.1 (by decide +kernel)) <|
        .cons (toOption_eq_some_iff.1 (by decide +kernel)) .nil

end Tracker

end SchemaTrail
