import SchemaTrail.Proofs.FilteredRequests
import SchemaTrail.Proofs.ReaderResults
import SchemaTrail.Proofs.StatementErrors

/-!
# Tracking without the excluded tables

A statement that succeeds in a schema is followed in the schema without its excluded tables, too,
if and only if the requests that are not passed over read none of these (`Request.tablesRead`).
Else the tracker halts (`Tracker.process_without_iff`).
-/

namespace SchemaTrail

open Outcome

/-- Whether a tracker cannot go on after a statement. -/
def Tracker.Halts (t : Tracker) (selected : Option String) (statement : String) : Prop :=
  ∃ e, t.process selected statement = .error e ∧ e.isFatal = true

instance (t : Tracker) (selected : Option String) (statement : String) :
    Decidable (t.Halts selected statement) :=
  match h : t.process selected statement with
  | .ok _ => isFalse fun ⟨_, he, _⟩ => nomatch h.symm.trans he
  | .error e => decidable_of_iff (e.isFatal = true) ⟨fun hfatal => ⟨e, h, hfatal⟩,
    fun ⟨_, he, hfatal⟩ => Except.error.inj (h.symm.trans he) ▸ hfatal⟩

/-! ## Statements -/

namespace Tracker

variable {t u : Tracker} {names : String → Prop} {p p' : Prepared} {selected : Option String}
  {statement : String}

/-- Taking a request into account succeeds if it is passed over or can be resolved. -/
theorem addRequest_succeeds_iff {r : Request} (hp : p.schema.Tracked t.config names)
    (hr : ∀ a ∈ r.names, names a) : (∃ p', t.addRequest p r = .ok p') ↔
      (r.isExcluded t.exclusions = false → ∃ o, r.resolve t.config p.schema = .ok o) := by
  by_cases hexcluded : r.isExcluded t.exclusions = true
  · simp [addRequest_of_excluded hexcluded, hexcluded]
  rw [Bool.not_eq_true] at hexcluded
  rw [forall_prop_of_true hexcluded]
  constructor
  · rintro ⟨p', hp'⟩
    rw [addRequest, if_neg (by simp [hexcluded])] at hp'
    obtain ⟨o, ho, -⟩ := bind_eq_ok_iff.1 hp'
    exact ⟨o, ho⟩
  · rintro ⟨_ | c, hresolve⟩
    · exact ⟨p, addRequest_of_none hexcluded hresolve⟩
    · obtain ⟨s', hs'⟩ := (hp.applicable hr hresolve).succeeds
      exact ⟨_, addRequest_of_some hexcluded hresolve hs'⟩

theorem requests_of_process (h : ∃ result, t.process selected statement = .ok result) :
    ∃ rs, Statement.requests selected statement = .ok rs := by
  obtain ⟨result, h⟩ := h
  obtain ⟨p, hp, -⟩ := map_eq_ok_iff.1 h
  obtain ⟨rs, hrs, -⟩ := prepare_eq_ok_iff.1 hp
  exact ⟨rs, hrs⟩

theorem process_succeeds_iff {rs : List Request}
    (hrs : Statement.requests selected statement = .ok rs) :
    (∃ result, t.process selected statement = .ok result) ↔
      ∃ p, rs.foldlM t.addRequest ⟨[], t.schema⟩ = .ok p := by
  simp only [process, map_eq_ok_iff, prepare_eq_ok_iff, hrs, Except.ok.injEq, exists_eq_left']
  constructor
  · rintro ⟨_, p, hp, -⟩
    exact ⟨p, hp⟩
  · rintro ⟨p, hp⟩
    exact ⟨_, p, hp, rfl⟩

/-- A tracker halts after a statement that can be read unless it follows it. -/
theorem halts_iff {rs : List Request} (hrs : Statement.requests selected statement = .ok rs) :
    t.Halts selected statement ↔ ¬ ∃ result, t.process selected statement = .ok result := by
  rw [Halts, process]
  cases hp : t.prepare selected statement with
  | ok p => simp [Except.map]
  | error e => simp [Except.map, isFatal_of_read hrs hp]

/-! ### Tables that are dropped -/

section Drops

variable {x : Exclusions} {s' : Schema} {name : TableName} {guarded : Bool} {found : Table}

theorem dropTable_without_of_excluded (hs : p.schema.Tracked t.config names)
    (ht : p.schema.requireTable name.database name.table = .ok found)
    (h : (Change.dropTable found.database found.name).apply p.schema = .ok s')
    (hexcluded : x.excludes name = true) : s'.without x = p.schema.without x := by
  have hstored := hs.sound.requireTable_stored ht
  refine Schema.keep_takeTable h fun u hu => ?_
  cases hstored.symm.trans hu
  rw [hs.excludes_of_requireTable ht, hexcluded]
  rfl

theorem dropTable_without (hs : p.schema.Tracked t.config names)
    (ht : p.schema.requireTable name.database name.table = .ok found)
    (h : (Change.dropTable found.database found.name).apply p.schema = .ok s')
    (hexcluded : x.excludes name = false) :
    (Change.dropTable found.database found.name).apply (p.schema.without x) =
      .ok (s'.without x) := by
  have hstored := hs.sound.requireTable_stored ht
  refine Schema.updateTable_keep h (fun u hu => ?_) fun _ _ hu => absurd hu List.not_mem_nil
  cases hstored.symm.trans hu
  rw [hs.excludes_of_requireTable ht, hexcluded]
  rfl

/-- Where a tracker without exclusions drops a table, another one does so among the tables that it
does not exclude, or passes it over. -/
theorem addDrop_without {p₁ : Prepared} (hp : p.schema.Tracked t.config names)
    (hname : ∀ a ∈ name.names, names a) (hexclusions : t.exclusions = .empty)
    (hp' : p'.schema = p.schema.without u.exclusions)
    (h : t.addRequest p (.dropTable name guarded) = .ok p₁) :
    ∃ p₁', u.addRequest p' (.dropTable name guarded) = .ok p₁' ∧
      p₁'.schema = p₁.schema.without u.exclusions := by
  have hr : ∀ a ∈ (Request.dropTable name guarded).names, names a := hname
  have hkept : (Request.dropTable name guarded).isExcluded t.exclusions = false := by
    rw [hexclusions]
    rfl
  obtain ⟨o, ho⟩ := (addRequest_succeeds_iff hp hr).1 ⟨p₁, h⟩ hkept
  have hresolve (hexcluded : u.exclusions.excludes name = false) :
      (Request.dropTable name guarded).resolve u.config p'.schema = .ok o := by
    rw [hp']
    exact Request.resolveDropTable_without hp hname hexcluded ho
  cases o with
  | none =>
    cases h.symm.trans (addRequest_of_none hkept ho)
    cases hexcluded : u.exclusions.excludes name with
    | true => exact ⟨p', addRequest_of_excluded hexcluded, hp'⟩
    | false => exact ⟨p', addRequest_of_none hexcluded (hresolve hexcluded), hp'⟩
  | some c =>
    obtain ⟨s', hs'⟩ := (hp.applicable hr ho).succeeds
    cases h.symm.trans (addRequest_of_some hkept ho hs')
    cases Request.resolve_eq_some_iff.1 ho with
    | dropTable ht =>
      cases hexcluded : u.exclusions.excludes name with
      | true =>
        exact ⟨p', addRequest_of_excluded hexcluded,
          hp'.trans (dropTable_without_of_excluded hp ht hs' hexcluded).symm⟩
      | false =>
        have happly := dropTable_without hp ht hs' hexcluded
        rw [← hp'] at happly
        have hrest : (Request.dropTable name guarded).isExcluded u.exclusions = false := hexcluded
        exact ⟨_, addRequest_of_some hrest (hresolve hexcluded) happly, rfl⟩

theorem addDrops_without {rs : List Request}
    (hrs : ∀ r ∈ rs, ∃ name guarded, r = .dropTable name guarded)
    (hnames : ∀ r ∈ rs, ∀ a ∈ r.names, names a) {p₁ : Prepared}
    (hp : p.schema.Tracked t.config names) (hexclusions : t.exclusions = .empty)
    (hp' : p'.schema = p.schema.without u.exclusions)
    (h : rs.foldlM t.addRequest p = .ok p₁) : ∃ p₁', rs.foldlM u.addRequest p' = .ok p₁' := by
  induction rs generalizing p p' with
  | nil => exact ⟨p', rfl⟩
  | cons r rs ih =>
    rw [List.forall_mem_cons] at hrs hnames
    obtain ⟨name, guarded, rfl⟩ := hrs.1
    rw [List.foldlM_cons] at h
    obtain ⟨p₂, hp₂, h⟩ := bind_eq_ok_iff.1 h
    obtain ⟨p₂', hp₂', hschema⟩ := addDrop_without hp hnames.1 hexclusions hp' hp₂
    obtain ⟨p₁', hp₁'⟩ := ih hrs.2 hnames.2 (addRequest_tracked hp hnames.1 hp₂) hschema h
    exact ⟨p₁', by rw [List.foldlM_cons]; exact bind_eq_ok_iff.2 ⟨p₂', hp₂', hp₁'⟩⟩

end Drops

/-! ### The statements that fail -/

/-- Where a tracker without exclusions takes a request into account, one of the same configuration
does so among the tables that it does not exclude, or passes it over, unless it reads another. -/
theorem addRequest_without_iff {r : Request} (hp : p.schema.Tracked t.config names)
    (hr : ∀ a ∈ r.names, names a) (hexclusions : t.exclusions = .empty)
    (hconfig : u.config = t.config) (hp' : p'.schema = p.schema.without u.exclusions)
    (h : ∃ p₁, t.addRequest p r = .ok p₁) : (∃ p₁, u.addRequest p' r = .ok p₁) ↔
      (r.isExcluded u.exclusions = false →
        ∀ w ∈ r.tablesRead p.schema, u.exclusions.excludes w = false) := by
  have hu : p'.schema.Tracked u.config names := by
    rw [hconfig, hp']
    exact hp.keep _
  rw [addRequest_succeeds_iff hp hr, hexclusions] at h
  rw [addRequest_succeeds_iff hu hr, hconfig, hp']
  exact forall_congr' fun hexcluded =>
    Request.resolve_without_iff hp hr hexcluded (h r.isExcluded_empty)

/-- A statement that a tracker without exclusions follows is followed among the tables that are not
excluded if and only if the requests that are not passed over read none of the others. -/
theorem process_without_succeeds_iff (ht : t.schema.Tracked t.config names)
    (hnames : ∀ a ∈ Statement.names selected statement, names a)
    (hexclusions : t.exclusions = .empty) (hconfig : u.config = t.config)
    (hschema : u.schema = t.schema.without u.exclusions) {rs : List Request}
    (hrs : Statement.requests selected statement = .ok rs)
    (h : ∃ result, t.process selected statement = .ok result) :
    (∃ result, u.process selected statement = .ok result) ↔
      ∀ r ∈ rs, r.isExcluded u.exclusions = false →
        ∀ w ∈ r.tablesRead t.schema, u.exclusions.excludes w = false := by
  rw [process_succeeds_iff hrs] at h ⊢
  have hnames : ∀ r ∈ rs, ∀ a ∈ r.names, names a :=
    fun r hr a ha => hnames a (Statement.mem_names hrs hr ha)
  rcases Statement.requests_shape hrs with ⟨r, rfl⟩ | hdrops
  · rw [List.forall_mem_singleton] at hnames ⊢
    rw [foldlM_singleton] at h ⊢
    exact addRequest_without_iff ht hnames hexclusions hconfig hschema h
  · obtain ⟨p₁, hp₁⟩ := h
    refine iff_of_true (addDrops_without hdrops hnames ht hexclusions hschema hp₁) fun r hr _ => ?_
    obtain ⟨name, guarded, rfl⟩ := hdrops r hr
    exact List.forall_mem_nil _

/-- In every schema that a tracker reaches from the empty one, a statement that succeeds without
exclusions also does so with them, in the schema without the excluded tables, if and only if the
requests that are not passed over read none of these.  The tracker halts at all others. -/
theorem process_without_iff (config : Config) (x y : Exclusions) (charset : String)
    (mode : CaseMode) (calls : List (Option String × String))
    (hcoherent : config.caseMode ≠ .sensitive → config.caseMode.Coherent names)
    (hcalls : config.caseMode ≠ .sensitive →
      ∀ call ∈ calls, ∀ a ∈ Statement.names call.1 call.2, names a) :
    let s := ((start config y (.empty charset mode)).run calls).schema
    ∀ selected statement,
      (config.caseMode ≠ .sensitive → ∀ a ∈ Statement.names selected statement, names a) →
      (∃ result, (start config .empty s).process selected statement = .ok result) →
        ∃ rs, Statement.requests selected statement = .ok rs ∧
          ((∃ result, (start config x (s.without x)).process selected statement = .ok result) ↔
            ∀ r ∈ rs, r.isExcluded x = false → ∀ w ∈ r.tablesRead s, x.excludes w = false) ∧
          ((start config x (s.without x)).Halts selected statement ↔
            ∃ r ∈ rs, r.isExcluded x = false ∧ ∃ w ∈ r.tablesRead s, x.excludes w = true) := by
  intro s selected statement hstatement h
  have hs := start_run_tracked config y charset mode calls hcoherent hcalls
  have hunfiltered : start config .empty s = ⟨config, .empty, s⟩ := by
    rw [start, hs.caseMode]
  have hfiltered : start config x (s.without x) = ⟨config, x, s.without x⟩ := by
    rw [start, hs.caseMode]
    rfl
  obtain ⟨rs, hrs⟩ := requests_of_process h
  rw [hunfiltered] at h
  rw [hfiltered]
  have hsucceeds := process_without_succeeds_iff (t := ⟨config, .empty, s⟩)
    (u := ⟨config, x, s.without x⟩) hs
    (fun a ha => Decidable.or_iff_not_imp_left.2 fun hmode => hstatement hmode a ha) rfl rfl rfl
    hrs h
  refine ⟨rs, hrs, hsucceeds, ?_⟩
  rw [halts_iff hrs, hsucceeds]
  simp

/-- A table that takes an excluded name and gives it up again. -/
theorem process_without_renamed :
    let config : Config := ⟨.insensitive, .never, "utf8mb4"⟩
    let x : Exclusions := .ofEntries ["shop.Draft", "SHOP.log"]
    let calls := [(none, "CREATE DATABASE Shop"), (some "shop", "CREATE TABLE Items (Id int)"),
      (some "shop", "CREATE TABLE Log (Id int)")]
    let s := ((start config .empty (.empty "utf8mb4" .sensitive)).run calls).schema
    let statement := "RENAME TABLE ITEMS TO Draft, DRAFT TO Things"
    ∃ result, (start config x (s.without x)).process (some "shop") statement = .ok result := by
  intro config x calls s statement
  obtain ⟨rs, hrs, hiff, -⟩ := process_without_iff config x .empty "utf8mb4" .sensitive calls
    (fun _ => CaseMode.coherent_isAscii .insensitive) (fun _ => by decide +kernel) (some "shop")
    statement (fun _ => by decide +kernel) (isSome_toOption_iff.1 (by decide +kernel))
  have hread : ∀ rs ∈ (Statement.requests (some "shop") statement).toOption, ∀ r ∈ rs,
      r.isExcluded x = false → ∀ w ∈ r.tablesRead s, x.excludes w = false := by
    decide +kernel
  exact hiff.2 (hread rs (toOption_eq_some_iff.2 hrs))

/-- An excluded table that is renamed together with another one, and one that a new table is to be
like. -/
theorem halts_without_excluded :
    let x : Exclusions := .ofEntries ["audit"]
    let s := ((start .standard .empty (.empty "utf8mb4" .sensitive)).run
      [(none, "CREATE DATABASE audit"), (some "audit", "CREATE TABLE a (c int)"),
        (none, "CREATE DATABASE d"), (some "d", "CREATE TABLE t (c int)")]).schema
    ∀ statement ∈ ["RENAME TABLE audit.a TO audit.b, d.t TO d.u", "CREATE TABLE d.u LIKE audit.a"],
      ((start .standard .empty s).process none statement).toOption.isSome ∧
        (start .standard x (s.without x)).Halts none statement := by
  decide +kernel

end Tracker

end SchemaTrail
