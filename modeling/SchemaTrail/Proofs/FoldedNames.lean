import SchemaTrail.Change.Resolution
import SchemaTrail.Proofs.NameFolding
import SchemaTrail.Proofs.SchemaUpdates
import SchemaTrail.Tracker.Basic

/-!
# Requests in any letter case

Where names are stored in lower case, it does not matter in which case a request writes the names of
databases and tables: requests that differ in the case of the letters `A` to `Z` of these names
alone all fail, or are all passed over, or all make the same change and leave the same schema
(`Request.carryOut_of_folded_eq`).  It is enough to look at the request that has all of these names
in lower case (`Request.resolve_folded`), which the lemmas do for one step of the resolution after
the other.
-/

namespace SchemaTrail

open Outcome

/-! ## Names with the letters `A` to `Z` in lower case -/

/-- The name with the letters `A` to `Z` in lower case. -/
def TableName.folded (w : TableName) : TableName :=
  ⟨Text.asciiLower w.database, Text.asciiLower w.table⟩

/-- The source with the name of another table in lower case. -/
def TableSource.folded : TableSource → TableSource
  | .columns cs key => .columns cs key
  | .like other => .like other.folded

/-- The edit with the new name of the table in lower case. -/
def TableEdit.folded (e : TableEdit) : TableEdit :=
  { e with newName := e.newName.map TableName.folded }

/-- The request with all names of databases and tables in lower case, and nothing else. -/
def Request.folded : Request → Request
  | .createDatabase database charset guarded =>
    .createDatabase (Text.asciiLower database) charset guarded
  | .alterDatabase database charset => .alterDatabase (Text.asciiLower database) charset
  | .dropDatabase database guarded => .dropDatabase (Text.asciiLower database) guarded
  | .createTable name source charset guarded =>
    .createTable name.folded source.folded charset guarded
  | .alterTable name edit => .alterTable name.folded edit.folded
  | .dropTable name guarded => .dropTable name.folded guarded
  | .renameTables renames => .renameTables (renames.map fun r => (r.1.folded, r.2.folded))

/-- What a request does to a schema: nothing if it is passed over, else its change, with the schema
after it. -/
def Request.carryOut (config : Config) (s : Schema) (r : Request) :
    Except InvariantError (Option (Change × Schema)) := do
  match ← r.resolve config s with
  | none => return none
  | some change => return some (change, ← change.apply s)

/-! ## Names -/

namespace Text

theorem lower_asciiLower (a : String) : lower (asciiLower a) = lower a :=
  lower_eq_of_equalIgnoringCase (equalIgnoringCase_asciiLower a).1

theorem isAscii_asciiLower (a : String) : isAscii (asciiLower a) = isAscii a := by
  obtain ⟨h, h'⟩ := equalIgnoringCase_asciiLower a
  exact Bool.eq_iff_iff.2 ⟨isAscii_of_equalIgnoringCase h, isAscii_of_equalIgnoringCase h'⟩

end Text

namespace CaseMode

variable {mode : CaseMode}

theorem namesEqual_asciiLower_right (hmode : mode ≠ .sensitive) (a b : String) :
    mode.namesEqual a (Text.asciiLower b) = mode.namesEqual a b := by
  rw [Bool.eq_iff_iff, namesEqual_iff_ascii hmode, namesEqual_iff_ascii hmode,
    Text.lower_asciiLower, Text.isAscii_asciiLower]

theorem namesEqual_asciiLower_left (hmode : mode ≠ .sensitive) (a b : String) :
    mode.namesEqual (Text.asciiLower a) b = mode.namesEqual a b := by
  rw [Bool.eq_iff_iff, namesEqual_iff_ascii hmode, namesEqual_iff_ascii hmode,
    Text.lower_asciiLower, Text.isAscii_asciiLower]

theorem storedName_asciiLower (hmode : mode = .lowered) (a : String) :
    mode.storedName (Text.asciiLower a) = mode.storedName a := by
  subst hmode
  exact Text.lower_asciiLower a

end CaseMode

/-! ## Looking up -/

variable {config : Config} {s : Schema} {mode : CaseMode}

theorem Database.hasTable_asciiLower (hmode : mode ≠ .sensitive) (d : Database) (name : String) :
    d.hasTable mode (Text.asciiLower name) = d.hasTable mode name := by
  simp only [Database.hasTable, CaseMode.namesEqual_asciiLower_right hmode]

theorem Database.table?_asciiLower (hmode : mode ≠ .sensitive) (d : Database) (name : String) :
    d.table? mode (Text.asciiLower name) = d.table? mode name := by
  simp only [Database.table?, CaseMode.namesEqual_asciiLower_right hmode]

section

variable (hs : s.caseMode ≠ .sensitive)
include hs

theorem Schema.database?_asciiLower (name : String) :
    s.database? (Text.asciiLower name) = s.database? name := by
  simp only [Schema.database?, CaseMode.namesEqual_asciiLower_right hs]

theorem Schema.hasDatabase_asciiLower (name : String) :
    s.hasDatabase (Text.asciiLower name) = s.hasDatabase name := by
  simp only [Schema.hasDatabase, CaseMode.namesEqual_asciiLower_right hs]

theorem Schema.requireDatabase_asciiLower (name : String) :
    (s.requireDatabase (Text.asciiLower name)).toOption = (s.requireDatabase name).toOption := by
  rw [Schema.requireDatabase, Schema.requireDatabase, Schema.database?_asciiLower hs]
  cases s.database? name <;> rfl

theorem Schema.requireTable_folded (w : TableName) :
    (s.requireTable w.folded.database w.folded.table).toOption =
      (s.requireTable w.database w.table).toOption := by
  rw [Schema.requireTable, Schema.requireTable, toOption_bind, toOption_bind, TableName.folded,
    Schema.requireDatabase_asciiLower hs]
  congr 1
  funext d
  rw [Database.table?_asciiLower hs]
  cases d.table? s.caseMode w.table <;> rfl

end

/-! ## Resolving -/

namespace Request

section

variable (hconfig : config.caseMode = .lowered) (hs : s.caseMode ≠ .sensitive)
include hs

theorem resolveAlterDatabase_folded (database : String) (charset : Option String) :
    (resolveAlterDatabase config s (Text.asciiLower database) charset).toOption =
      (resolveAlterDatabase config s database charset).toOption := by
  rw [resolveAlterDatabase, resolveAlterDatabase, toOption_bind, toOption_bind,
    Schema.requireDatabase_asciiLower hs]

theorem resolveDropDatabase_folded (database : String) (guarded : Bool) :
    (resolveDropDatabase s (Text.asciiLower database) guarded).toOption =
      (resolveDropDatabase s database guarded).toOption := by
  rw [resolveDropDatabase, resolveDropDatabase, Schema.database?_asciiLower hs]
  cases s.database? database <;> cases guarded <;> rfl

theorem resolveDropTable_folded (name : TableName) (guarded : Bool) :
    (resolveDropTable s name.folded guarded).toOption =
      (resolveDropTable s name guarded).toOption := by
  have htable := Schema.requireTable_folded hs name
  rw [resolveDropTable, resolveDropTable]
  cases hfolded : s.requireTable name.folded.database name.folded.table <;>
    cases hwritten : s.requireTable name.database name.table <;>
      rw [hfolded, hwritten] at htable <;> cases htable <;> cases guarded <;> rfl

include hconfig

theorem resolveCreateDatabase_folded (database : String) (charset : Option String)
    (guarded : Bool) :
    (resolveCreateDatabase config s (Text.asciiLower database) charset guarded).toOption =
      (resolveCreateDatabase config s database charset guarded).toOption := by
  rw [resolveCreateDatabase, resolveCreateDatabase, Schema.hasDatabase_asciiLower hs,
    CaseMode.storedName_asciiLower hconfig]
  cases s.hasDatabase database <;> cases guarded <;> rfl

theorem newTable_folded (d : Database) (name : TableName) (source : TableSource)
    (charset : Option String) :
    (newTable config s d name.folded source.folded charset).toOption =
      (newTable config s d name source charset).toOption := by
  have hname := CaseMode.storedName_asciiLower hconfig name.table
  cases source with
  | columns cs key =>
    simp only [newTable, TableSource.folded, TableName.folded, hname]
    cases firstRepeated? [] cs <;> rfl
  | like other =>
    simp only [newTable, TableSource.folded, toOption_map, Schema.requireTable_folded hs]
    simp only [TableName.folded, hname]

theorem resolveCreateTable_folded (name : TableName) (source : TableSource)
    (charset : Option String) (guarded : Bool) :
    (resolveCreateTable config s name.folded source.folded charset guarded).toOption =
      (resolveCreateTable config s name source charset guarded).toOption := by
  rw [resolveCreateTable, resolveCreateTable, toOption_bind, toOption_bind, TableName.folded,
    Schema.requireDatabase_asciiLower hs]
  congr 1
  funext d
  rw [Database.hasTable_asciiLower hs]
  split
  · cases guarded <;> rfl
  · rw [toOption_bind, toOption_bind, ← newTable_folded hconfig hs d name, TableName.folded]

theorem newPlace_folded (name : TableName) :
    (newPlace config s name.folded).toOption = (newPlace config s name).toOption := by
  rw [newPlace, newPlace, toOption_bind, toOption_bind, TableName.folded,
    Schema.requireDatabase_asciiLower hs]
  congr 1
  funext d
  rw [Database.hasTable_asciiLower hs, CaseMode.storedName_asciiLower hconfig]
  split <;> rfl

theorem renamedTable_folded (old : Table) (newName : Option TableName) :
    (renamedTable config s old (newName.map TableName.folded)).toOption =
      (renamedTable config s old newName).toOption := by
  cases newName with
  | none => rfl
  | some name =>
    have hplace := newPlace_folded hconfig hs name
    simp only [renamedTable, Option.map_some]
    rw [TableName.folded, CaseMode.namesEqual_asciiLower_left hs,
      CaseMode.namesEqual_asciiLower_left hs]
    split
    · rfl
    · rw [toOption_bind, toOption_bind, ← hplace, TableName.folded]

theorem editedTable_folded (old : Table) (edit : TableEdit) :
    (editedTable config s old edit.folded).toOption = (editedTable config s old edit).toOption := by
  rw [editedTable, editedTable, toOption_bind, toOption_bind, TableEdit.folded,
    renamedTable_folded hconfig hs]

theorem resolveAlterTable_folded (name : TableName) (edit : TableEdit) :
    (resolveAlterTable config s name.folded edit.folded).toOption =
      (resolveAlterTable config s name edit).toOption := by
  rw [resolveAlterTable, resolveAlterTable, toOption_bind, toOption_bind,
    Schema.requireTable_folded hs]
  congr 1
  funext old
  rw [toOption_bind, toOption_bind, editedTable_folded hconfig hs]

theorem resolveRename_folded (source target : TableName) :
    (resolveRename config s source.folded target.folded).toOption =
      (resolveRename config s source target).toOption := by
  rw [resolveRename, resolveRename, toOption_bind, toOption_bind, Schema.requireTable_folded hs]
  congr 1
  funext t
  rw [toOption_bind, toOption_bind, newPlace_folded hconfig hs]

/-- A rename of a table leaves the case mode as it is, so that the next one can be folded, too. -/
theorem resolveRenames_folded (renames : List (TableName × TableName)) :
    (resolveRenames config s (renames.map fun r => (r.1.folded, r.2.folded))).toOption =
      (resolveRenames config s renames).toOption := by
  induction renames generalizing s with
  | nil => rfl
  | cons r renames ih =>
    rw [List.map_cons, resolveRenames, resolveRenames, toOption_bind, toOption_bind,
      resolveRename_folded hconfig hs]
    congr 1
    funext rename
    rw [toOption_bind, toOption_bind]
    cases hnext : s.rename rename with
    | error e => rfl
    | ok next =>
      have hmode : next.caseMode = s.caseMode := Schema.caseMode_of_replaceTable hnext
      show (resolveRenames config next _ >>= _).toOption =
        (resolveRenames config next _ >>= _).toOption
      rw [toOption_bind, toOption_bind, ih (hmode ▸ hs)]

/-- Folding the names of a request changes neither whether it resolves nor to what. -/
theorem resolve_folded (r : Request) :
    (r.folded.resolve config s).toOption = (r.resolve config s).toOption := by
  cases r with
  | createDatabase database charset guarded =>
    exact resolveCreateDatabase_folded hconfig hs database charset guarded
  | alterDatabase database charset => exact resolveAlterDatabase_folded hs database charset
  | dropDatabase database guarded => exact resolveDropDatabase_folded hs database guarded
  | createTable name source charset guarded =>
    exact resolveCreateTable_folded hconfig hs name source charset guarded
  | alterTable name edit => exact resolveAlterTable_folded hconfig hs name edit
  | dropTable name guarded => exact resolveDropTable_folded hs name guarded
  | renameTables renames =>
    rw [folded, resolve, resolve, toOption_map, toOption_map, resolveRenames_folded hconfig hs]

theorem carryOut_folded (r : Request) :
    (r.folded.carryOut config s).toOption = (r.carryOut config s).toOption := by
  rw [carryOut, carryOut, toOption_bind, toOption_bind, resolve_folded hconfig hs]

end

/-- A tracker carries out the requests that are not excluded. -/
theorem addRequest_eq_carryOut {t : Tracker} {r : Request}
    (hr : r.isExcluded t.exclusions = false) (p : Prepared) :
    t.addRequest p r = (r.carryOut t.config p.schema).map fun
      | none => p
      | some (change, next) => ⟨p.changes ++ [change], next⟩ := by
  rw [Tracker.addRequest, carryOut, if_neg (by simp [hr])]
  cases r.resolve t.config p.schema with
  | error e => rfl
  | ok o =>
    cases o with
    | none => rfl
    | some change =>
      change (change.apply p.schema >>= _) = Except.map _ (change.apply p.schema >>= _)
      cases change.apply p.schema <;> rfl

/-- Where names are stored in lower case, two requests that differ in the case of the letters `A` to
`Z` of names of databases and tables alone both fail, or both are passed over, or both make the same
change and leave the same schema. -/
theorem carryOut_of_folded_eq {r r' : Request} (hconfig : config.caseMode = .lowered)
    (hs : s.caseMode = .lowered) (h : r.folded = r'.folded) :
    ((∃ e, r.carryOut config s = .error e) ∧ ∃ e, r'.carryOut config s = .error e) ∨
    (r.carryOut config s = .ok none ∧ r'.carryOut config s = .ok none) ∨
    ∃ c s', r.carryOut config s = .ok (some (c, s')) ∧
      r'.carryOut config s = .ok (some (c, s')) := by
  have hsensitive : s.caseMode ≠ .sensitive := by simp [hs]
  have hsame : (r.carryOut config s).toOption = (r'.carryOut config s).toOption := by
    rw [← carryOut_folded hconfig hsensitive r, h, carryOut_folded hconfig hsensitive r']
  cases hr : r.carryOut config s with
  | error e =>
    cases hr' : r'.carryOut config s with
    | error e' => exact .inl ⟨⟨e, rfl⟩, e', rfl⟩
    | ok o => simp [hr, hr', Except.toOption] at hsame
  | ok o =>
    rw [hr] at hsame
    have hr' := toOption_eq_some_iff.1 hsame.symm
    cases o with
    | none => exact .inr (.inl ⟨rfl, hr'⟩)
    | some p => exact .inr (.inr ⟨p.1, p.2, rfl, hr'⟩)

/-- A batch in which the second rename writes the name that the first one has given in another
case. -/
theorem carryOut_of_folded_eq_renames :
    let config : Config := { Config.standard with caseMode := .lowered }
    let t : Table := .create "d" "t" "utf8mb4" [] []
    let s : Schema := ⟨"utf8mb4", .lowered, [⟨"d", "utf8mb4", [t]⟩]⟩
    let batch : Request := .renameTables [(⟨"D", "T"⟩, ⟨"d", "U"⟩), (⟨"d", "u"⟩, ⟨"D", "V"⟩)]
    let batch' : Request := .renameTables [(⟨"d", "t"⟩, ⟨"D", "u"⟩), (⟨"D", "U"⟩, ⟨"d", "v"⟩)]
    ∃ c s', batch.carryOut config s = .ok (some (c, s')) ∧
      batch'.carryOut config s = .ok (some (c, s')) := by
  intro config t s batch batch'
  have hsome : (batch.carryOut config s).toOption.join.isSome = true := by decide +kernel
  rcases @carryOut_of_folded_eq config s batch batch' rfl rfl (by decide) with
    ⟨⟨e, he⟩, -⟩ | ⟨hnone, -⟩ | h
  · rw [he] at hsome
    cases hsome
  · rw [hnone] at hsome
    cases hsome
  · exact h

end Request

end SchemaTrail
