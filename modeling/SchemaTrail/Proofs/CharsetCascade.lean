import SchemaTrail.Proofs.Documents
import SchemaTrail.Proofs.TrackerRuns
import SchemaTrail.Proofs.UntouchedParts

/-!
# New charsets of databases

A database that takes another charset may take its tables along: those that have its old charset, in
any case of its letters, if the configuration says so, and no others (`Table.Cascades`).  Which ones
these are is looked up once, when the request is resolved.  The change lists them by their names, so
that it does the same to the schema wherever it is applied, whatever the configuration there
(`Tracker.run_alterDatabase`).
-/

namespace SchemaTrail

open Outcome

/-! ## Tables -/

/-- What becomes of a table whose database had one charset and takes another. -/
structure Table.Cascades (cascade : CharsetCascade) (old new : String) (t t' : Table) : Prop where
  rest : t' = { t with charset := t'.charset }
  follows : cascade = .inheriting → Text.equalIgnoringCase t.charset old = true →
    Text.equalIgnoringCase t'.charset new = true
  stays : cascade = .never ∨ Text.equalIgnoringCase t.charset old = false → t' = t

/-- What becomes of a database that takes a charset. -/
structure Database.Cascades (cascade : CharsetCascade) (new : String) (d d' : Database) : Prop where
  name : d'.name = d.name
  charset : d'.charset = new
  tables : List.Forall₂ (Table.Cascades cascade d.charset new) d.tables d'.tables

theorem Table.withCharsetIf_eq (condition : Bool) (charset : String) (t : Table) :
    t.withCharsetIf condition charset =
      { t with charset := (t.withCharsetIf condition charset).charset } := by
  cases condition <;> rfl

namespace Database

variable {mode : CaseMode} {d : Database} {charset : String} {t : Table}

/-- Where names are distinct, a table is listed among the followers just if it follows itself. -/
theorem any_followers (hd : mode.Distinct d.tableNames) (ht : t ∈ d.tables) (charset : String) :
    ((d.followers charset).any fun n => mode.namesEqual t.name n) =
      (Text.equalIgnoringCase t.charset d.charset &&
        !Text.equalIgnoringCase t.charset charset) := by
  rw [followers, List.any_map, Bool.eq_iff_iff, List.any_eq_true]
  constructor
  · rintro ⟨u, hu, hname⟩
    obtain ⟨hu, hfollows⟩ := List.mem_filter.1 hu
    rwa [hd.eq_of_namesEqual ht hu hname]
  · exact fun hfollows =>
      ⟨t, List.mem_filter.2 ⟨ht, hfollows⟩, CaseMode.namesEqual_refl mode t.name⟩

/-- The tables that a request lists are those that follow their database. -/
theorem cascades_withTableCharset (hd : mode.Distinct d.tableNames) (config : Config)
    (charset : String) :
    d.Cascades config.cascade charset
      ({ d with charset }.withTableCharset mode charset (config.followers d charset)) := by
  refine ⟨rfl, rfl, List.forall₂_map_right_iff.2 (List.forall₂_same.2 fun t ht => ?_)⟩
  rw [Config.followers]
  refine ⟨Table.withCharsetIf_eq _ _ _, fun hcascade hold => ?_, fun hstays => ?_⟩
  · simp only [hcascade, any_followers hd ht, hold, Bool.true_and]
    cases hnew : Text.equalIgnoringCase t.charset charset with
    | true => exact hnew
    | false => exact Text.equalIgnoringCase_refl charset
  · cases hcascade : config.cascade with
    | never => rfl
    | inheriting =>
      obtain hnever | hold := hstays
      · rw [hcascade] at hnever
        cases hnever
      · simp only [any_followers hd ht, hold, Bool.false_and, Table.withCharsetIf_false]

end Database

/-! ## Changes -/

/-- The change that a request for a charset resolves to takes the database where it is to the
charset, and the tables that follow. -/
theorem Schema.Tracked.apply_alterDatabase {config : Config} {names : String → Prop} {s : Schema}
    (hs : s.Tracked config names) {database new : String} {c : Change}
    (h : (Request.alterDatabase database (some new)).resolve config s = .ok (some c)) :
    ∃ i d d', s.database? database = some d ∧ s.databases[i]? = some d ∧
      d.Cascades config.cascade new d' ∧ c.lowered = c ∧
      c.apply s = .ok { s with databases := s.databases.set i d' } := by
  cases Request.resolve_eq_some_iff.1 h with
  | @alterDatabase _ _ d hd =>
    have happlicable : (Change.alterDatabase d.name new (config.followers d new)).Applicable _ s :=
      Request.alterDatabase_applicable hs.sound hd new
    obtain ⟨s', happly⟩ := happlicable.succeeds
    obtain ⟨i, e, hi, he, -, rfl⟩ := Change.apply_alterDatabase_eq hs.sound.wellFormed happly
    have hmem := (mem_of_database? hd).1
    -- The change names the database as it is stored, and finds the same one.
    obtain rfl : e = d := by
      obtain ⟨hlt, hname, -⟩ := List.findIdx?_eq_some_iff_getElem.1 hi
      obtain rfl : s.databases[i] = e := (List.getElem_eq_iff hlt).2 he
      exact hs.sound.wellFormed.databases_distinct.eq_of_namesEqual (List.getElem_mem hlt) hmem
        hname
    have hdistinct := (hs.sound.wellFormed.databases e hmem).tables_distinct
    exact ⟨i, e, _, hd, he, Database.cascades_withTableCharset hdistinct config new, rfl, happly⟩

/-! ## Runs -/

namespace Tracker

variable {names : String → Prop}

/-- In every schema that a tracker reaches from the empty one, a request for a charset of a database
succeeds if it can be resolved.  The database takes the charset, its tables do as the configuration
says, and all the rest stays as it is.  The one change that is found is read back from its text as
it is, and takes the schema to the same one under any other configuration. -/
theorem run_alterDatabase (config : Config) (exclusions : Exclusions) (charset : String)
    (mode : CaseMode) (calls : List (Option String × String))
    (hcoherent : config.caseMode ≠ .sensitive → config.caseMode.Coherent names)
    (hcalls : config.caseMode ≠ .sensitive →
      ∀ call ∈ calls, ∀ a ∈ Statement.names call.1 call.2, names a) :
    let t := (start config exclusions (.empty charset mode)).run calls
    ∀ selected statement database new change,
      Statement.requests selected statement = .ok [.alterDatabase database (some new)] →
      (Request.alterDatabase database (some new)).resolve config t.schema = .ok (some change) →
      ∃ i d d', t.schema.database? database = some d ∧ t.schema.databases[i]? = some d ∧
        d.Cascades config.cascade new d' ∧
        let s' : Schema := { t.schema with databases := t.schema.databases.set i d' }
        t.process selected statement = .ok ([change], { t with schema := s' }) ∧
        Change.ofText? change.text = some change ∧
        ∀ u : Tracker, u.schema = t.schema → u.applyAll [change] = .ok { u with schema := s' } := by
  intro t selected statement database new change hread hresolve
  have ht := start_run_tracked config exclusions charset mode calls hcoherent hcalls
  have hconfig : t.config = config :=
    run_config (start config exclusions (.empty charset mode)) calls
  obtain ⟨i, d, d', hd, hi, hcascades, hlowered, happly⟩ := ht.apply_alterDatabase hresolve
  refine ⟨i, d, d', hd, hi, hcascades, ?_, ?_, fun u hu => ?_⟩
  · have hadd : t.addRequest ⟨[], t.schema⟩ (.alterDatabase database (some new)) = _ :=
      addRequest_of_some rfl (hconfig.symm ▸ hresolve) happly
    exact process_eq_ok_iff.2 ⟨_, (prepare_singleton_iff hread).2 hadd, rfl, rfl⟩
  · rw [Change.ofText?_text, hlowered]
  · refine map_eq_ok_iff.2 ⟨_, bind_eq_ok_iff.2 ⟨_, ?_, rfl⟩, rfl⟩
    rw [hu]
    exact happly

/-- The tables `a`, whose charset is written in other letters than that of the database, and `c`
follow it; `b` does not, and `e` need not.  A tracker without a cascade takes over the change. -/
theorem run_alterDatabase_inheriting :
    let config : Config := ⟨.insensitive, .inheriting, "utf8mb4"⟩
    let t := (start config .empty (.empty "LATIN1" .sensitive)).run
      [(none, "CREATE DATABASE Shop"),
        (some "shop", "CREATE TABLE a (x int) CHARACTER SET latin1"),
        (some "shop", "CREATE TABLE b (x int) CHARACTER SET ascii"),
        (some "SHOP", "CREATE TABLE c (x varchar(5))"),
        (some "shop", "CREATE TABLE e (x int) CHARACTER SET utf8")]
    let c := Change.alterDatabase "Shop" "utf8" ["a", "c"]
    ∃ t', t.process none "ALTER DATABASE SHOP CHARACTER SET utf8" = .ok ([c], t') ∧
      t'.schema.databases.map (fun d => (d.charset, d.tables.map Table.charset)) =
        [("utf8", ["utf8", "ascii", "utf8", "utf8"])] ∧
      ({ t with config := .standard } : Tracker).applyAll [c] =
        .ok { t' with config := .standard } := by
  intro config t c
  -- Both are evaluated together, since they share the schema.
  obtain ⟨hresolve, hcharsets⟩ :
      ((Request.alterDatabase "SHOP" (some "utf8")).resolve config t.schema).toOption =
          some (some c) ∧
        (t.process none "ALTER DATABASE SHOP CHARACTER SET utf8").toOption.map
          (fun p => p.2.schema.databases.map fun d => (d.charset, d.tables.map Table.charset)) =
            some [("utf8", ["utf8", "ascii", "utf8", "utf8"])] := by
    decide +kernel
  obtain ⟨i, d, d', -, -, -, hprocess, -, happly⟩ :=
    run_alterDatabase config .empty "LATIN1" .sensitive
      [(none, "CREATE DATABASE Shop"),
        (some "shop", "CREATE TABLE a (x int) CHARACTER SET latin1"),
        (some "shop", "CREATE TABLE b (x int) CHARACTER SET ascii"),
        (some "SHOP", "CREATE TABLE c (x varchar(5))"),
        (some "shop", "CREATE TABLE e (x int) CHARACTER SET utf8")]
      (fun _ => CaseMode.coherent_isAscii .insensitive) (fun _ => by decide +kernel) none
      "ALTER DATABASE SHOP CHARACTER SET utf8" "SHOP" "utf8" c
      (toOption_eq_some_iff.1 (by decide +kernel)) (toOption_eq_some_iff.1 hresolve)
  refine ⟨_, hprocess, ?_, happly { t with config := .standard } rfl⟩
  rw [hprocess] at hcharsets
  exact Option.some.inj hcharsets

end Tracker

end SchemaTrail
