import SchemaTrail.Change.Resolution
import SchemaTrail.Proofs.SchemaUpdates

/-!
# What requests resolve to

`Request.ResolvesTo` says once, for each kind of request, what is looked up in the schema and which
change comes out (`Request.resolve_eq_some_iff`).  Laws of resolved changes are case analyses of it.
-/

namespace SchemaTrail

open Outcome

/-- The tables whose charset changes with that of their database. -/
def Config.followers (config : Config) (d : Database) (charset : String) : List String :=
  match config.cascade with
  | .never => []
  | .inheriting => d.followers charset

namespace Request

/-! ## Parts -/

section Parts

variable {config : Config} {s : Schema} {old renamed new t : Table} {d : Database}
  {written place source target : TableName}

theorem newPlace_eq_ok_iff : newPlace config s written = .ok place ↔
    ∃ d, s.database? written.database = some d ∧ d.hasTable s.caseMode written.table = false ∧
      ⟨d.name, config.caseMode.storedName written.table⟩ = place := by
  rw [newPlace, bind_eq_ok_iff]
  refine exists_congr fun d => and_congr Schema.requireDatabase_eq_ok_iff ?_
  by_cases hthere : d.hasTable s.caseMode written.table = true
  · rw [if_pos hthere]
    simp only [throw_bind_ne_ok, hthere, Bool.true_eq_false, false_and]
  · rw [if_neg hthere]
    simp only [pure_eq_ok_iff, Bool.eq_false_iff.2 hthere, true_and]

theorem newTable_columns_eq_ok_iff {columns : List Column} {primaryKey : List String}
    {charset : Option String} :
    newTable config s d written (.columns columns primaryKey) charset = .ok t ↔
      firstRepeated? [] columns = none ∧
        .create d.name (config.caseMode.storedName written.table) (charset.getD d.charset) columns
          primaryKey = t := by
  simp only [newTable]
  cases firstRepeated? [] columns <;> simp

theorem newTable_like_eq_ok_iff {charset : Option String} :
    newTable config s d written (.like source) charset = .ok t ↔
      ∃ u, s.requireTable source.database source.table = .ok u ∧
        u.relocated d.name (config.caseMode.storedName written.table) = t := by
  simp only [newTable, map_eq_ok_iff]

/-- A new table has the stored form of its name, in the database that it is created in. -/
theorem place_of_newTable {source : TableSource} {charset : Option String}
    (h : newTable config s d written source charset = .ok t) :
    t.database = d.name ∧ t.name = config.caseMode.storedName written.table := by
  cases source with
  | columns columns primaryKey =>
    obtain ⟨-, rfl⟩ := newTable_columns_eq_ok_iff.1 h
    exact ⟨rfl, rfl⟩
  | like source =>
    obtain ⟨u, -, rfl⟩ := newTable_like_eq_ok_iff.1 h
    exact ⟨rfl, rfl⟩

/-- Whether a new name is that of the table already. -/
def isOwnName (s : Schema) (old : Table) (written : TableName) : Bool :=
  s.caseMode.namesEqual written.database old.database &&
    s.caseMode.namesEqual written.table old.name

theorem renamedTable_some_eq_ok_iff : renamedTable config s old (some written) = .ok renamed ↔
    if isOwnName s old written then old = renamed
    else ∃ place, newPlace config s written = .ok place ∧
      old.relocated place.database place.table = renamed := by
  change (if isOwnName s old written then pure old else newPlace config s written >>= fun place =>
    pure (old.relocated place.database place.table)) = _ ↔ _
  by_cases hown : isOwnName s old written = true
  · rw [if_pos hown, if_pos hown, pure_eq_ok_iff]
  · rw [if_neg hown, if_neg hown]
    simp only [bind_eq_ok_iff, pure_eq_ok_iff]

theorem editedTable_eq_ok_iff {edit : TableEdit} : editedTable config s old edit = .ok new ↔
    ∃ renamed, renamedTable config s old edit.newName = .ok renamed ∧ ∃ edited,
      Table.editColumns ⟨old.database, old.name⟩
        { renamed with charset := edit.charset.getD renamed.charset } edit.columns = .ok edited ∧
      { edit.convertTo.elim edited edited.convertTo with
        primaryKey := edit.primaryKey.getD
          (edit.convertTo.elim edited edited.convertTo).primaryKey } = new := by
  simp only [editedTable, bind_eq_ok_iff, pure_eq_ok_iff]

theorem resolveRename_eq_ok_iff {r : Rename} : resolveRename config s source target = .ok r ↔
    ∃ t, s.requireTable source.database source.table = .ok t ∧
      ∃ place, newPlace config s target = .ok place ∧
        ⟨t.database, t.name, t.relocated place.database place.table⟩ = r := by
  simp only [resolveRename, bind_eq_ok_iff, pure_eq_ok_iff]

theorem resolveRenames_cons_eq_ok_iff {renames : List (TableName × TableName)}
    {resolved : List Rename} :
    resolveRenames config s ((source, target) :: renames) = .ok resolved ↔
      ∃ r, resolveRename config s source target = .ok r ∧ ∃ next, s.rename r = .ok next ∧
        ∃ others, resolveRenames config next renames = .ok others ∧ r :: others = resolved := by
  simp only [resolveRenames, bind_eq_ok_iff, pure_eq_ok_iff]

/-- A guarded request for a table that is there can be resolved, too. -/
theorem exists_resolveCreateTable_iff {name : TableName} {source : TableSource}
    {charset : Option String} {guarded : Bool} :
    (∃ o, resolveCreateTable config s name source charset guarded = .ok o) ↔
      ∃ d, s.database? name.database = some d ∧
        if d.hasTable s.caseMode name.table then guarded = true
        else ∃ t, newTable config s d name source charset = .ok t := by
  simp only [resolveCreateTable, bind_eq_ok_iff, Schema.requireDatabase_eq_ok_iff]
  rw [exists_comm]
  refine exists_congr fun d => exists_and_left.trans (and_congr_right fun _ => ?_)
  by_cases hthere : d.hasTable s.caseMode name.table = true
  · simp only [if_pos hthere]
    cases guarded <;> simp [pure, Except.pure, throw, throwThe, MonadExceptOf.throw]
  · simp only [if_neg hthere, bind_eq_ok_iff]
    exact ⟨fun ⟨_, t, ht, _⟩ => ⟨t, ht⟩, fun ⟨t, ht⟩ => ⟨_, t, ht, rfl⟩⟩

theorem exists_resolve_renameTables_iff {renames : List (TableName × TableName)} :
    (∃ o, (Request.renameTables renames).resolve config s = .ok o) ↔
      ∃ resolved, resolveRenames config s renames = .ok resolved := by
  simp only [resolve, map_eq_ok_iff]
  exact ⟨fun ⟨_, resolved, h, _⟩ => ⟨resolved, h⟩, fun ⟨resolved, h⟩ => ⟨_, resolved, h, rfl⟩⟩

end Parts

/-! ## Changes -/

variable (config : Config) (s : Schema)

/-- The change that a request leads to, with what is found in the schema. -/
inductive ResolvesTo : Request → Change → Prop
  | createDatabase {database : String} {charset : Option String} {guarded : Bool}
      (hnew : s.hasDatabase database = false) :
    ResolvesTo (.createDatabase database charset guarded)
      (.createDatabase (config.caseMode.storedName database) (charset.getD s.charset))
  | alterDatabase {database charset : String} {d : Database} (hd : s.database? database = some d) :
    ResolvesTo (.alterDatabase database (some charset))
      (.alterDatabase d.name charset (config.followers d charset))
  | dropDatabase {database : String} {guarded : Bool} {d : Database}
      (hd : s.database? database = some d) :
    ResolvesTo (.dropDatabase database guarded) (.dropDatabase d.name)
  | createTable {name : TableName} {source : TableSource} {charset : Option String}
      {guarded : Bool} {d : Database} {t : Table} (hd : s.database? name.database = some d)
      (hnew : d.hasTable s.caseMode name.table = false)
      (ht : newTable config s d name source charset = .ok t) :
    ResolvesTo (.createTable name source charset guarded) (.createTable d.name t.name t)
  | alterTable {name : TableName} {edit : TableEdit} {old new : Table}
      (hold : s.requireTable name.database name.table = .ok old)
      (hnew : editedTable config s old edit = .ok new) :
    ResolvesTo (.alterTable name edit) (.alterTable old.database old.name old new)
  | dropTable {name : TableName} {guarded : Bool} {t : Table}
      (ht : s.requireTable name.database name.table = .ok t) :
    ResolvesTo (.dropTable name guarded) (.dropTable t.database t.name)
  | renameTables {renames : List (TableName × TableName)} {resolved : List Rename}
      (hresolved : resolveRenames config s renames = .ok resolved) :
    ResolvesTo (.renameTables renames) (.renameTables resolved)

variable {config s} {r : Request} {c : Change}

theorem ResolvesTo.of_resolve (h : r.resolve config s = .ok (some c)) :
    r.ResolvesTo config s c := by
  cases r with
  | createDatabase database charset guarded =>
    change resolveCreateDatabase config s database charset guarded = _ at h
    rw [resolveCreateDatabase] at h
    split at h
    · cases guarded <;> cases h
    · rename_i hnew
      cases h
      exact .createDatabase (Bool.eq_false_iff.2 hnew)
  | alterDatabase database charset =>
    obtain ⟨d, hd, h⟩ := bind_eq_ok_iff.1 h
    cases charset <;> cases h
    exact .alterDatabase (Schema.requireDatabase_eq_ok_iff.1 hd)
  | dropDatabase database guarded =>
    change resolveDropDatabase s database guarded = _ at h
    unfold resolveDropDatabase at h
    split at h
    · rename_i d hd
      cases h
      exact .dropDatabase hd
    · cases guarded <;> cases h
  | createTable name source charset guarded =>
    obtain ⟨d, hd, h⟩ := bind_eq_ok_iff.1 h
    split at h
    · cases guarded <;> cases h
    · rename_i hnew
      obtain ⟨t, ht, h⟩ := bind_eq_ok_iff.1 h
      cases h
      exact .createTable (Schema.requireDatabase_eq_ok_iff.1 hd) (Bool.eq_false_iff.2 hnew) ht
  | alterTable name edit =>
    obtain ⟨old, hold, h⟩ := bind_eq_ok_iff.1 h
    obtain ⟨new, hnew, h⟩ := bind_eq_ok_iff.1 h
    cases h
    exact .alterTable hold hnew
  | dropTable name guarded =>
    change resolveDropTable s name guarded = _ at h
    unfold resolveDropTable at h
    split at h
    · rename_i t ht
      cases h
      exact .dropTable ht
    · cases guarded <;> cases h
  | renameTables renames =>
    obtain ⟨resolved, hresolved, h⟩ := map_eq_ok_iff.1 h
    cases h
    exact .renameTables hresolved

theorem resolve_eq_some_iff : r.resolve config s = .ok (some c) ↔ r.ResolvesTo config s c := by
  refine ⟨.of_resolve, fun h => ?_⟩
  cases h with
  | createDatabase hnew =>
    rw [resolve, resolveCreateDatabase, hnew]
    rfl
  | alterDatabase hd => exact bind_eq_ok_iff.2 ⟨_, Schema.requireDatabase_eq_ok_iff.2 hd, rfl⟩
  | dropDatabase hd =>
    rw [resolve, resolveDropDatabase, hd]
  | createTable hd hnew ht =>
    refine bind_eq_ok_iff.2 ⟨_, Schema.requireDatabase_eq_ok_iff.2 hd, ?_⟩
    rw [if_neg (by simp [hnew])]
    exact bind_eq_ok_iff.2 ⟨_, ht, rfl⟩
  | alterTable hold hnew =>
    exact bind_eq_ok_iff.2 ⟨_, hold, bind_eq_ok_iff.2 ⟨_, hnew, rfl⟩⟩
  | dropTable ht =>
    rw [resolve, resolveDropTable, ht]
  | renameTables hresolved => exact map_eq_ok_iff.2 ⟨_, hresolved, rfl⟩

end Request

end SchemaTrail
