import SchemaTrail.Proofs.TrackerRuns

/-!
# Excluded tables in the schema

Requests about excluded tables are passed over, which is decided by the names that tables have
before.  So an excluded table gets into the schema of a tracker only where another table takes its
name (`Change.moves`): a schema without excluded tables stays without them throughout a run if and
only if no such place is excluded while a table is held there (`Tracker.run_unexcluded_iff`).
Letter case does not matter to exclusions, so that neither the mode nor the spelling of names does.
-/

namespace SchemaTrail

open Outcome

/-! ## Names in any letter case -/

namespace CaseMode

theorem lower_eq_of_namesEqual {mode : CaseMode} {a b : String}
    (h : mode.namesEqual a b = true) : Text.lower a = Text.lower b := by
  cases mode with
  | sensitive =>
    rw [namesEqual, beq_iff_eq] at h
    rw [h]
  | lowered | insensitive =>
    rw [namesEqual, Bool.or_eq_true, Bool.and_eq_true, beq_iff_eq] at h
    exact h.elim Text.lower_eq_of_equalIgnoringCase And.right

theorem lower_storedName (mode : CaseMode) (a : String) :
    Text.lower (mode.storedName a) = Text.lower a := by
  cases mode with
  | lowered => exact Text.lower_lower a
  | sensitive | insensitive => rfl

end CaseMode

/-- Two names of tables that differ at most in letter case. -/
structure TableName.Alike (v w : TableName) : Prop where
  database : Text.lower v.database = Text.lower w.database
  table : Text.lower v.table = Text.lower w.table

/-- Whether the table with a name is excluded. -/
def Exclusions.excludes (x : Exclusions) (w : TableName) : Bool :=
  x.hasTable w.database w.table

theorem Exclusions.excludes_congr (x : Exclusions) {v w : TableName} (h : v.Alike w) :
    x.excludes v = x.excludes w := by
  rw [excludes, excludes, hasTable, hasTable, hasDatabase, hasDatabase, h.database, h.table]

/-! ## Places of tables -/

/-- The database and the name of a table. -/
def Table.place (t : Table) : TableName :=
  ⟨t.database, t.name⟩

/-- The places of the tables of a schema. -/
def Schema.places (s : Schema) : List TableName :=
  s.databases.flatMap fun d => d.tables.map Table.place

/-- No table of the schema is excluded. -/
def Schema.Unexcluded (x : Exclusions) (s : Schema) : Prop :=
  ∀ w ∈ s.places, x.excludes w = false

instance (x : Exclusions) (s : Schema) : Decidable (s.Unexcluded x) :=
  inferInstanceAs (Decidable (∀ w ∈ s.places, x.excludes w = false))

/-- The places that a change moves tables to. -/
def Change.moves : Change → List TableName
  | .alterTable _ _ old definition =>
    if definition.place = old.place then [] else [definition.place]
  | .renameTables renames => renames.map fun r => r.definition.place
  | .createDatabase .. | .alterDatabase .. | .dropDatabase _ | .createTable .. | .dropTable .. => []

/-- The names that a request gives to tables that have others. -/
def Request.destinations : Request → List TableName
  | .alterTable _ edit => edit.newName.toList
  | .renameTables renames => renames.map Prod.snd
  | .createDatabase .. | .alterDatabase .. | .dropDatabase .. | .createTable ..
  | .dropTable .. => []

theorem Schema.allTables_places_iff {Q : TableName → Prop} {s : Schema} :
    (s.AllTables fun _ t => Q t.place) ↔ ∀ w ∈ s.places, Q w := by
  simp only [AllTables, places, List.forall_mem_flatMap, List.forall_mem_map]

theorem Schema.place_mem_of_requireTable {s : Schema} {a b : String} {t : Table}
    (h : s.requireTable a b = .ok t) : t.place ∈ s.places := by
  obtain ⟨d, hd, ht⟩ := requireTable_eq_ok_iff.1 h
  exact List.mem_flatMap.2
    ⟨d, (mem_of_database? hd).1, List.mem_map_of_mem (Database.mem_of_table? ht).1⟩

/-! ## Resolving -/

namespace Request

variable {config : Config} {s : Schema} {r : Request} {c : Change}

theorem storedPlace_alike {d : Database} {written : TableName}
    (hd : s.database? written.database = some d) :
    TableName.Alike ⟨d.name, config.caseMode.storedName written.table⟩ written :=
  ⟨CaseMode.lower_eq_of_namesEqual (Schema.mem_of_database? hd).2, CaseMode.lower_storedName _ _⟩

theorem newPlace_alike {written place : TableName} (h : newPlace config s written = .ok place) :
    place.Alike written := by
  obtain ⟨d, hd, -, rfl⟩ := newPlace_eq_ok_iff.1 h
  exact storedPlace_alike hd

/-- An edited table stays in its place or is at that of its new name. -/
theorem editedTable_place {old new : Table} {edit : TableEdit}
    (h : editedTable config s old edit = .ok new) :
    new.place = old.place ∨ ∃ w ∈ edit.newName, new.place.Alike w := by
  obtain ⟨renamed, hrenamed, hsame⟩ := editedTable_samePlace h
  have hnew : new.place = renamed.place := by
    rw [Table.place, Table.place, hsame.database, hsame.name]
  rw [hnew]
  cases hname : edit.newName with
  | none =>
    rw [hname] at hrenamed
    cases hrenamed
    exact .inl rfl
  | some written =>
    rw [hname] at hrenamed
    have hrenamed := renamedTable_some_eq_ok_iff.1 hrenamed
    split at hrenamed
    · subst hrenamed
      exact .inl rfl
    · obtain ⟨place, hplace, rfl⟩ := hrenamed
      exact .inr ⟨written, rfl, newPlace_alike hplace⟩

theorem resolveRenames_alike {renames : List (TableName × TableName)} {resolved : List Rename}
    (h : resolveRenames config s renames = .ok resolved) :
    ∀ q ∈ resolved, ∃ w ∈ renames.map Prod.snd, q.definition.place.Alike w := by
  induction renames generalizing s resolved with
  | nil =>
    cases h
    simp
  | cons p renames ih =>
    obtain ⟨q, hq, next, -, others, hothers, rfl⟩ := resolveRenames_cons_eq_ok_iff.1 h
    obtain ⟨t, -, place, hplace, rfl⟩ := resolveRename_eq_ok_iff.1 hq
    rw [List.forall_mem_cons]
    refine ⟨⟨p.2, by simp, newPlace_alike hplace⟩, fun q hq => ?_⟩
    obtain ⟨w, hw, halike⟩ := ih hothers q hq
    exact ⟨w, List.mem_cons_of_mem _ hw, halike⟩

/-- Tables are moved to places that the request names. -/
theorem moves_of_resolve (h : r.resolve config s = .ok (some c)) :
    ∀ w ∈ c.moves, ∃ v ∈ r.destinations, w.Alike v := by
  cases resolve_eq_some_iff.1 h with
  | @alterTable name edit old new hold hnew =>
    intro w hw
    rw [Change.moves] at hw
    by_cases hplace : new.place = old.place
    · rw [if_pos hplace] at hw
      cases hw
    · rw [if_neg hplace] at hw
      rw [List.mem_singleton.1 hw]
      obtain ⟨v, hv, halike⟩ := (editedTable_place hnew).resolve_left hplace
      exact ⟨v, Option.mem_toList.2 hv, halike⟩
  | renameTables hresolved => exact List.forall_mem_map.2 (resolveRenames_alike hresolved)
  | _ => simp [Change.moves]

/-- A table that is put into a schema stays in its place there, is moved, or is a new one under the
name of the request. -/
theorem definitions_of_resolve (h : r.resolve config s = .ok (some c)) {t : Table}
    (ht : t ∈ c.definitions) : t.place ∈ s.places ∨ t.place ∈ c.moves ∨
      ∀ x, r.isExcluded x = false → x.excludes t.place = false := by
  cases resolve_eq_some_iff.1 h with
  | createTable hd hnew hu =>
    rw [List.mem_singleton.1 ht]
    obtain ⟨hdatabase, hname⟩ := place_of_newTable hu
    right
    right
    intro x hx
    rw [Table.place, hdatabase, hname, x.excludes_congr (storedPlace_alike hd)]
    exact hx
  | @alterTable name edit old new hold hnew =>
    rw [List.mem_singleton.1 ht]
    by_cases hplace : new.place = old.place
    · rw [hplace]
      exact .inl (Schema.place_mem_of_requireTable hold)
    · right
      left
      rw [Change.moves, if_neg hplace]
      exact List.mem_singleton_self _
  | renameTables hresolved =>
    obtain ⟨q, hq, rfl⟩ := List.mem_map.1 ht
    exact .inr (.inl (List.mem_map_of_mem hq))
  | createDatabase hnew => cases ht
  | alterDatabase hd => cases ht
  | dropDatabase hd => cases ht
  | dropTable hu => cases ht

end Request

/-! ## Statements -/

namespace Tracker

variable {t t' : Tracker} {p : Prepared} {selected : Option String} {statement : String}
  {changes : List Change}

/-- What is held after a statement is not excluded, or was moved by one of the changes. -/
theorem places_of_prepare (ht : t.schema.Unexcluded t.exclusions)
    (h : t.prepare selected statement = .ok p) :
    ∀ w ∈ p.schema.places, t.exclusions.excludes w = false ∨ ∃ c ∈ p.changes, w ∈ c.moves := by
  obtain ⟨rs, -, h⟩ := prepare_eq_ok_iff.1 h
  refine foldlM_induction (motive := fun p => ∀ w ∈ p.schema.places,
    t.exclusions.excludes w = false ∨ ∃ c ∈ p.changes, w ∈ c.moves) h (fun w hw => .inl (ht w hw))
    fun p hp r _ p' hp' => ?_
  obtain rfl | ⟨hr, c, s', hresolve, hs', rfl⟩ := addRequest_eq_ok hp'
  · exact hp
  have hp : ∀ w ∈ p.schema.places,
      t.exclusions.excludes w = false ∨ ∃ c' ∈ p.changes ++ [c], w ∈ c'.moves := fun w hw =>
    (hp w hw).imp_right fun ⟨c', hc', hw'⟩ => ⟨c', List.mem_append_left _ hc', hw'⟩
  refine Schema.allTables_places_iff.1 (Schema.AllTables.apply (Schema.allTables_places_iff.2 hp)
    hs' (fun n _ t₁ ht₁ _ _ _ _ => ?_) fun _ _ _ _ h => h)
  obtain hstays | hmoved | hnew := Request.definitions_of_resolve hresolve ht₁
  · exact hp _ hstays
  · exact .inr ⟨c, by simp, hmoved⟩
  · exact .inl (hnew _ hr)

/-- A statement leaves a schema without excluded tables if and only if it holds no table at an
excluded place that it has moved one to. -/
theorem process_unexcluded_iff (ht : t.schema.Unexcluded t.exclusions)
    (h : t.process selected statement = .ok (changes, t')) :
    t'.schema.Unexcluded t.exclusions ↔ ∀ c ∈ changes, ∀ w ∈ c.moves, w ∈ t'.schema.places →
      t.exclusions.excludes w = false := by
  obtain ⟨p, hp, rfl, rfl⟩ := process_eq_ok_iff.1 h
  refine ⟨fun hall c _ w _ hw => hall w hw, fun hmoves w hw => ?_⟩
  have hplaces := places_of_prepare ht hp w
  rw [← commit_schema hp] at hplaces
  obtain hw' | ⟨c, hc, hw'⟩ := hplaces hw
  · exact hw'
  · exact hmoves c hc w hw' hw

/-- What a statement moves goes to places that its requests name. -/
theorem moves_of_prepare (h : t.prepare selected statement = .ok p) {c : Change}
    (hc : c ∈ p.changes) {w : TableName} (hw : w ∈ c.moves) :
    ∃ rs, Statement.requests selected statement = .ok rs ∧
      ∃ r ∈ rs, r.isExcluded t.exclusions = false ∧ ∃ v ∈ r.destinations, w.Alike v := by
  obtain ⟨rs, hrs, h⟩ := prepare_eq_ok_iff.1 h
  refine ⟨rs, hrs, ?_⟩
  have hchanges := foldlM_induction (motive := fun p => ∀ c ∈ p.changes, ∀ w ∈ c.moves,
    ∃ r ∈ rs, r.isExcluded t.exclusions = false ∧ ∃ v ∈ r.destinations, w.Alike v) h (by simp)
    fun p hp r hr p' hp' => ?_
  · exact hchanges c hc w hw
  obtain rfl | ⟨hexcluded, c, s', hresolve, -, rfl⟩ := addRequest_eq_ok hp'
  · exact hp
  · rw [List.forall_mem_append, List.forall_mem_singleton]
    exact ⟨hp, fun w hw => ⟨r, hr, hexcluded, Request.moves_of_resolve hresolve w hw⟩⟩

/-! ## Runs -/

/-- A run leaves a schema without excluded tables if after no call a table is held at an excluded
place that the call has moved one to. -/
theorem run_unexcluded {x : Exclusions} {calls : List (Option String × String)}
    (hx : t.exclusions = x) (ht : t.schema.Unexcluded x)
    (hmoves : ∀ front call, front ++ [call] <+: calls → ∀ changes t',
      (t.run front).process call.1 call.2 = .ok (changes, t') → ∀ c ∈ changes, ∀ w ∈ c.moves,
        w ∈ t'.schema.places → x.excludes w = false) : (t.run calls).schema.Unexcluded x := by
  subst hx
  induction calls generalizing t with
  | nil => exact ht
  | cons call calls ih =>
    obtain ⟨s', hs'⟩ := t.follow_withSchema call
    have hfollow : (t.follow call).schema.Unexcluded t.exclusions := by
      have hfirst := hmoves [] call (by simp)
      delta follow
      cases h : t.process call.1 call.2 with
      | error e => exact ht
      | ok result =>
        obtain ⟨changes, t'⟩ := result
        exact (process_unexcluded_iff ht h).2 (hfirst changes t' h)
    have hexclusions : (t.follow call).exclusions = t.exclusions := by rw [hs']
    rw [← hexclusions] at hfollow hmoves
    have h := ih hfollow fun front call' hcalls =>
      hmoves (call :: front) call' (List.cons_prefix_cons.2 ⟨rfl, hcalls⟩)
    rwa [hexclusions] at h

theorem follow_of_process {call : Option String × String}
    (h : t.process call.1 call.2 = .ok (changes, t')) : t.follow call = t' := by
  delta follow
  rw [h]

/-- A schema without excluded tables stays without them, after each call of a run, if and only if
after no call a table is held at an excluded place that the call has moved one to.  This is so if
no request that is taken into account gives a table an excluded name. -/
theorem run_unexcluded_iff (config : Config) (x : Exclusions) (s : Schema) (hs : s.Unexcluded x)
    (calls : List (Option String × String)) :
    let after := fun front => (start config x s).run front
    ((∀ front, front <+: calls → (after front).schema.Unexcluded x) ↔
      ∀ front call, front ++ [call] <+: calls → ∀ changes t',
        (after front).process call.1 call.2 = .ok (changes, t') → ∀ c ∈ changes, ∀ w ∈ c.moves,
          w ∈ t'.schema.places → x.excludes w = false) ∧
    ((∀ call ∈ calls, ∀ rs, Statement.requests call.1 call.2 = .ok rs → ∀ r ∈ rs,
        r.isExcluded x = false → ∀ w ∈ r.destinations, x.excludes w = false) →
      ∀ front, front <+: calls → (after front).schema.Unexcluded x) := by
  intro after
  have hafter : (∀ front call, front ++ [call] <+: calls → ∀ changes t',
      (after front).process call.1 call.2 = .ok (changes, t') → ∀ c ∈ changes, ∀ w ∈ c.moves,
        w ∈ t'.schema.places → x.excludes w = false) →
      ∀ front, front <+: calls → (after front).schema.Unexcluded x := fun hmoves front hfront =>
    run_unexcluded rfl hs fun front' call hcalls => hmoves front' call (hcalls.trans hfront)
  refine ⟨⟨fun hall front call hcalls changes t' h c _ w _ hw => ?_, hafter⟩, fun hnames => ?_⟩
  · have hnext := hall (front ++ [call]) hcalls
    rw [show after (front ++ [call]) = t' from
      (run_append_singleton _ _ _).trans (follow_of_process h)] at hnext
    exact hnext w hw
  · refine hafter fun front call hcalls changes t' h c hc w hw _ => ?_
    obtain ⟨p, hp, rfl, -⟩ := process_eq_ok_iff.1 h
    obtain ⟨rs, hrs, r, hr, hexcluded, v, hv, halike⟩ := moves_of_prepare hp hc hw
    have hcall : call ∈ calls := hcalls.subset (by simp)
    obtain ⟨s', hs'⟩ := (start config x s).run_withSchema front
    rw [show (after front).exclusions = x by simp only [after, hs']; rfl] at hexcluded
    rw [x.excludes_congr halike]
    exact hnames call hcall rs hrs r hr hexcluded v hv

/-- A table that is renamed, after one that is excluded has taken an excluded name. -/
theorem run_unexcluded_renamed :
    let x : Exclusions := .ofEntries ["audit", "shop.Draft"]
    let s : Schema := ⟨"utf8mb4", .insensitive,
      [⟨"Shop", "utf8mb4", [.create "Shop" "Items" "utf8mb4" [] []]⟩, ⟨"audit", "utf8mb4", []⟩]⟩
    let calls := [(some "shop", "RENAME TABLE DRAFT TO audit.t"),
      (some "shop", "ALTER TABLE items RENAME TO Things")]
    ((start ⟨.insensitive, .never, "utf8mb4"⟩ x s).run calls).schema.Unexcluded x := by
  intro x s calls
  have hnames : ∀ call ∈ calls, ∀ rs ∈ (Statement.requests call.1 call.2).toOption, ∀ r ∈ rs,
      r.isExcluded x = false → ∀ w ∈ r.destinations, x.excludes w = false := by
    decide +kernel
  exact (run_unexcluded_iff _ x s (by decide +kernel) calls).2
    (fun call hcall rs hrs => hnames call hcall rs (toOption_eq_some_iff.2 hrs))
    calls List.prefix_rfl

/-- A table that takes an excluded name. -/
theorem run_renamed_excluded :
    let x : Exclusions := .ofEntries ["audit"]
    let s : Schema := ⟨"utf8mb4", .sensitive,
      [⟨"d", "utf8mb4", [.create "d" "t" "utf8mb4" [] []]⟩, ⟨"audit", "utf8mb4", []⟩]⟩
    let t := start ⟨.sensitive, .never, "utf8mb4"⟩ x s
    s.Unexcluded x ∧
      ∀ statement ∈ ["RENAME TABLE d.t TO audit.t", "ALTER TABLE d.t RENAME TO audit.t"],
        ¬ (t.run [(none, statement)]).schema.Unexcluded x := by
  decide +kernel

end Tracker

end SchemaTrail
