import SchemaTrail.Proofs.ExcludedTables
import SchemaTrail.Proofs.KeptTables

/-!
# Requests without the excluded tables

A request that can be resolved in a schema can also be resolved in the schema without its excluded
tables, unless it reads one of these (`Request.resolve_without_iff`): the table that a new one is to
be like, or one that a batch of renames begins with.  While a batch is followed the tables that it
has moved are held, too, even where they took an excluded name (`Exclusions.keeps`).
-/

namespace SchemaTrail

open Outcome

/-! ## Definitions -/

/-- The schema without the tables that are excluded. -/
def Schema.without (x : Exclusions) (s : Schema) : Schema :=
  s.keep fun t => !x.excludes t.place

/-- Whether two names of tables are the same. -/
def TableName.equals (mode : CaseMode) (v w : TableName) : Bool :=
  mode.namesEqual v.database w.database && mode.namesEqual v.table w.table

/-- The tables that a new table takes its columns from. -/
def TableSource.tables : TableSource → List TableName
  | .columns .. => []
  | .like source => [source]

namespace Request

/-- The sources of renames that no rename before them has as its target; `targets` are those of the
renames that were before. -/
def freshSources (mode : CaseMode) (targets : List TableName) :
    List (TableName × TableName) → List TableName
  | [] => []
  | (source, target) :: renames =>
    let rest := freshSources mode (target :: targets) renames
    if targets.any fun v => source.equals mode v then rest else source :: rest

/-- The tables that a request has to find in a schema, and that may be excluded without the request
being passed over. -/
def tablesRead (s : Schema) : Request → List TableName
  | .createTable name source _ _ =>
    if s.hasTable name.database name.table then [] else source.tables
  | .renameTables renames => freshSources s.caseMode [] renames
  | .createDatabase .. | .alterDatabase .. | .dropDatabase .. | .alterTable .. | .dropTable .. => []

end Request

/-- The tables that are held while renames are followed without the excluded ones: those that are
not excluded, and those that were moved. -/
def Exclusions.keeps (x : Exclusions) (mode : CaseMode) (targets : List TableName) (t : Table) :
    Bool :=
  !x.excludes t.place || targets.any fun v => t.place.equals mode v

theorem Schema.without_eq_keeps (x : Exclusions) (s : Schema) :
    s.without x = s.keep (x.keeps s.caseMode []) :=
  keep_congr fun _ _ _ _ => (Bool.or_false _).symm

theorem TableName.equals_congr {mode : CaseMode} {names : String → Prop} (h : mode.Coherent names)
    {u v w : TableName} (hu : ∀ a ∈ u.names, names a) (hv : ∀ a ∈ v.names, names a)
    (hw : ∀ a ∈ w.names, names a) (huv : u.equals mode v = true) :
    u.equals mode w = v.equals mode w := by
  simp only [TableName.names, List.forall_mem_cons] at hu hv hw
  rw [equals, Bool.and_eq_true] at huv
  rw [equals, equals, h.congr_left hu.1 hv.1 hw.1 huv.1, h.congr_left hu.2.1 hv.2.1 hw.2.1 huv.2]

theorem Request.isExcluded_empty (r : Request) : r.isExcluded .empty = false := by
  cases r with
  | createDatabase | alterDatabase | dropDatabase | createTable | alterTable | dropTable => rfl
  | renameTables renames =>
    cases renames with
    | nil => rfl
    | cons p renames => rfl

/-! ## Looking up -/

namespace Schema.Tracked

variable {config : Config} {names : String → Prop} {s : Schema} (hs : s.Tracked config names)
  {a b : String} {t : Table} {x : Exclusions}
include hs

theorem named : s.Named names :=
  (hs.sound.of_stored hs.coherent).named

theorem keep (q : Table → Bool) : (s.keep q).Tracked config names :=
  ⟨hs.caseMode, hs.coherent, hs.sound.keep q⟩

/-- The place of a table that is found is named by the names that find it. -/
theorem place_of_requireTable (h : s.requireTable a b = .ok t) :
    (∀ c ∈ t.place.names, names c) ∧ t.place.equals s.caseMode ⟨a, b⟩ = true := by
  have hfit := hs.sound.fitsIn_of_requireTable h
  have hdatabase := hs.sound.named.databaseName_mem hfit.database_mem
  obtain ⟨d, hd, ht⟩ := requireTable_eq_ok_iff.1 h
  refine ⟨by simpa [TableName.names, Table.place] using ⟨hdatabase.1, hfit.name_mem.1⟩, ?_⟩
  rw [TableName.equals, Table.place, hs.sound.database_eq hd ht, (mem_of_database? hd).2,
    (Database.mem_of_table? ht).2]
  rfl

theorem excludes_of_requireTable (h : s.requireTable a b = .ok t) :
    x.excludes t.place = x.excludes ⟨a, b⟩ := by
  have hequals := (hs.place_of_requireTable h).2
  rw [TableName.equals, Bool.and_eq_true] at hequals
  exact x.excludes_congr ⟨CaseMode.lower_eq_of_namesEqual hequals.1,
    CaseMode.lower_eq_of_namesEqual hequals.2⟩

theorem requireTable_without_iff (hb : names b) : (s.without x).requireTable a b = .ok t ↔
    s.requireTable a b = .ok t ∧ x.excludes ⟨a, b⟩ = false := by
  rw [without, hs.named.requireTable_keep_iff hb, Bool.not_eq_true']
  exact and_congr_right fun h => by rw [hs.excludes_of_requireTable h]

end Schema.Tracked

/-! ## Renaming tables -/

namespace Request

variable {config : Config} {names : String → Prop} {s : Schema} {q : Table → Bool}
  {x : Exclusions} {source target place : TableName} {targets : List TableName} {t : Table}

theorem newPlace_keep (h : newPlace config s target = .ok place) :
    newPlace config (s.keep q) target = .ok place := by
  obtain ⟨d, hd, hnew, rfl⟩ := newPlace_eq_ok_iff.1 h
  refine newPlace_eq_ok_iff.2 ⟨d.keep q, ?_, Database.hasTable_keep hnew, rfl⟩
  rw [Schema.database?_keep, hd]
  rfl

/-- A new place is named by the name that is written for it. -/
theorem newPlace_equals (hs : s.Tracked config names) (htarget : ∀ a ∈ target.names, names a)
    (h : newPlace config s target = .ok place) : place.equals s.caseMode target = true := by
  obtain ⟨d, hd, -, rfl⟩ := newPlace_eq_ok_iff.1 h
  have htable := htarget target.table (by simp [TableName.names])
  rw [TableName.equals, (Schema.mem_of_database? hd).2, hs.caseMode,
    hs.coherent.namesEqual_stored htable]
  rfl

/-- A table that is found is held if its name is not excluded or was given to it by a rename. -/
theorem keeps_of_requireTable (hs : s.Tracked config names) (hsource : ∀ a ∈ source.names, names a)
    (htargets : ∀ v ∈ targets, ∀ a ∈ v.names, names a)
    (h : s.requireTable source.database source.table = .ok t) :
    x.keeps s.caseMode targets t =
      (!x.excludes source || targets.any fun v => source.equals s.caseMode v) := by
  obtain ⟨hplace, hequals⟩ := hs.place_of_requireTable h
  have hany : (targets.any fun v => t.place.equals s.caseMode v) =
      targets.any fun v => source.equals s.caseMode v := by
    rw [Bool.eq_iff_iff, List.any_eq_true, List.any_eq_true]
    refine exists_congr fun v => and_congr_right fun hv => ?_
    rw [TableName.equals_congr hs.coherent hplace hsource (htargets v hv) hequals]
  rw [Exclusions.keeps, hs.excludes_of_requireTable h, hany]

/-- Where a place is free, having moved a table there before would make no difference. -/
theorem keeps_target (hs : s.Tracked config names) (htarget : ∀ a ∈ target.names, names a)
    (h : newPlace config s target = .ok place) : s.AllTables fun _ u =>
      x.keeps s.caseMode targets u = x.keeps s.caseMode (target :: targets) u := by
  obtain ⟨d, hd, hnew, -⟩ := newPlace_eq_ok_iff.1 h
  obtain ⟨hd, hdname⟩ := Schema.mem_of_database? hd
  intro e he u hu
  have hfree : u.place.equals s.caseMode target = false := by
    rw [Bool.eq_false_iff]
    intro hequals
    rw [TableName.equals, Table.place, Bool.and_eq_true,
      (hs.sound.wellFormed.databases e he).database_eq u hu] at hequals
    rw [hs.named.database_unique (htarget target.database (by simp [TableName.names])) he hd
      hequals.1 hdname] at hu
    exact List.any_eq_false.1 hnew u hu hequals.2
  simp [Exclusions.keeps, hfree]

theorem rename_tracked (hs : s.Tracked config names) (htarget : ∀ a ∈ target.names, names a)
    {r : Rename} (hr : resolveRename config s source target = .ok r) {next : Schema}
    (hnext : s.rename r = .ok next) : next.Tracked config names :=
  hs.apply (c := .alterTable r.database r.table r.definition r.definition)
    (resolveRename_fits hs.caseMode hs.coherent hs.sound htarget hr) hnext

/-- A rename of a table that is held does the same to the tables that are held. -/
theorem rename_keep (hs : s.Tracked config names) {r : Rename}
    (ht : s.requireTable source.database source.table = .ok t) (hq : q t = true)
    (hnew : q r.definition = true)
    (hr : ⟨t.database, t.name, t.relocated place.database place.table⟩ = r) {next : Schema}
    (hnext : s.rename r = .ok next) : (s.keep q).rename r = .ok (next.keep q) := by
  subst hr
  have hstored := hs.sound.requireTable_stored ht
  have hname := (hs.sound.fitsIn_of_requireTable ht).name_mem
  refine Schema.replaceTable_keep hnext
    ((hs.sound.named.requireTable_keep_iff hname).2 ⟨hstored, hq⟩) (fun u hu => ?_) hnew
  rw [hstored] at hu
  cases hu
  exact hq

theorem exists_resolveRenames_cons_iff {renames : List (TableName × TableName)} {r : Rename}
    {next : Schema} (hr : resolveRename config s source target = .ok r)
    (hnext : s.rename r = .ok next) :
    (∃ resolved, resolveRenames config s ((source, target) :: renames) = .ok resolved) ↔
      ∃ others, resolveRenames config next renames = .ok others := by
  constructor
  · rintro ⟨resolved, h⟩
    obtain ⟨r', hr', next', hnext', others, hothers, -⟩ := resolveRenames_cons_eq_ok_iff.1 h
    cases hr.symm.trans hr'
    cases hnext.symm.trans hnext'
    exact ⟨others, hothers⟩
  · rintro ⟨others, hothers⟩
    exact ⟨_, resolveRenames_cons_eq_ok_iff.2 ⟨r, hr, next, hnext, others, hothers, rfl⟩⟩

section Steps

variable {renames : List (TableName × TableName)} {r : Rename}
  (hs : s.Tracked config names) (hsource : ∀ a ∈ source.names, names a)
  (ht : s.requireTable source.database source.table = .ok t)
include hs hsource ht

/-- After a rename of a table that is held, that of its target is held, too. -/
theorem exists_resolveRenames_keep_iff (htarget : ∀ a ∈ target.names, names a)
    (hplace : newPlace config s target = .ok place)
    (hr : ⟨t.database, t.name, t.relocated place.database place.table⟩ = r) {next : Schema}
    (hnext : s.rename r = .ok next) (hheld : x.keeps s.caseMode targets t = true) :
    (∃ resolved, resolveRenames config (s.keep (x.keeps s.caseMode targets))
        ((source, target) :: renames) = .ok resolved) ↔
      ∃ others, resolveRenames config (next.keep (x.keeps s.caseMode (target :: targets))) renames =
        .ok others := by
  rw [Schema.keep_congr (keeps_target hs htarget hplace)]
  have hq : x.keeps s.caseMode (target :: targets) t = true := by
    rw [Exclusions.keeps, Bool.or_eq_true] at hheld ⊢
    exact hheld.imp_right fun hany => by rw [List.any_cons, hany, Bool.or_true]
  have hnew : x.keeps s.caseMode (target :: targets) r.definition = true := by
    subst hr
    rw [Exclusions.keeps, List.any_cons, show Table.place _ = place from rfl,
      newPlace_equals hs htarget hplace]
    simp
  have htable := hsource source.table (by simp [TableName.names])
  have hfound := (hs.named.requireTable_keep_iff htable).2 ⟨ht, hq⟩
  exact exists_resolveRenames_cons_iff
    (resolveRename_eq_ok_iff.2 ⟨t, hfound, place, newPlace_keep hplace, hr⟩)
    (rename_keep hs ht hq hnew hr hnext)

theorem resolveRenames_keep_ne_ok {q : Table → Bool} (hheld : q t = false)
    {resolved : List Rename} :
    resolveRenames config (s.keep q) ((source, target) :: renames) ≠ .ok resolved := by
  intro h
  obtain ⟨r, hr, -⟩ := resolveRenames_cons_eq_ok_iff.1 h
  obtain ⟨u, hu, -⟩ := resolveRename_eq_ok_iff.1 hr
  have htable := hsource source.table (by simp [TableName.names])
  obtain ⟨hu, hq⟩ := (hs.named.requireTable_keep_iff htable).1 hu
  cases ht.symm.trans hu
  exact Bool.false_ne_true (hheld.symm.trans hq)

end Steps

/-- Renames that can be resolved can be resolved among the tables that are held if and only if each
of them begins with one of these or with a table that was moved. -/
theorem resolveRenames_keep_iff {renames : List (TableName × TableName)} {resolved : List Rename}
    (hs : s.Tracked config names) (htargets : ∀ v ∈ targets, ∀ a ∈ v.names, names a)
    (hrenames : ∀ r ∈ renames, ∀ a ∈ r.1.names ++ r.2.names, names a)
    (h : resolveRenames config s renames = .ok resolved) :
    (∃ resolved', resolveRenames config (s.keep (x.keeps s.caseMode targets)) renames =
      .ok resolved') ↔ ∀ w ∈ freshSources s.caseMode targets renames, x.excludes w = false := by
  induction renames generalizing s targets resolved with
  | nil => simp [resolveRenames, freshSources]
  | cons p renames ih =>
    obtain ⟨source, target⟩ := p
    rw [List.forall_mem_cons, List.forall_mem_append] at hrenames
    obtain ⟨⟨hsource, htarget⟩, hrenames⟩ := hrenames
    obtain ⟨r, hr, next, hnext, others, hothers, rfl⟩ := resolveRenames_cons_eq_ok_iff.1 h
    obtain ⟨t, ht, place, hplace, hr'⟩ := resolveRename_eq_ok_iff.1 hr
    have hheld := keeps_of_requireTable (x := x) hs hsource htargets ht
    rw [freshSources]
    by_cases hkept : x.keeps s.caseMode targets t = true
    · have ih := ih (rename_tracked hs htarget hr hnext)
        (List.forall_mem_cons.2 ⟨htarget, htargets⟩) hrenames hothers
      rw [Schema.caseMode_of_replaceTable hnext] at ih
      rw [exists_resolveRenames_keep_iff hs hsource ht htarget hplace hr' hnext hkept, ih]
      rw [hheld, Bool.or_eq_true, Bool.not_eq_true'] at hkept
      by_cases hany : (targets.any fun v => source.equals s.caseMode v) = true
      · rw [if_pos hany]
      · rw [if_neg hany, List.forall_mem_cons]
        exact (and_iff_right (hkept.resolve_right hany)).symm
    · rw [Bool.not_eq_true] at hkept
      refine iff_of_false ?_ ?_
      · rintro ⟨_, h⟩
        exact resolveRenames_keep_ne_ok hs hsource ht hkept h
      rw [hheld, Bool.or_eq_false_iff, Bool.not_eq_false'] at hkept
      rw [if_neg (by simp [hkept.2]), List.forall_mem_cons, hkept.1]
      exact fun hall => absurd hall.1 (by simp)

/-! ## Other requests -/

theorem editedTable_keep {old new : Table} {edit : TableEdit}
    (h : editedTable config s old edit = .ok new) :
    editedTable config (s.keep q) old edit = .ok new := by
  obtain ⟨renamed, hrenamed, hedited⟩ := editedTable_eq_ok_iff.1 h
  refine editedTable_eq_ok_iff.2 ⟨renamed, ?_, hedited⟩
  cases hname : edit.newName with
  | none =>
    rw [hname] at hrenamed
    exact hrenamed
  | some written =>
    rw [hname, renamedTable_some_eq_ok_iff] at hrenamed
    rw [renamedTable_some_eq_ok_iff]
    change if isOwnName s old written then _ else _
    by_cases hown : isOwnName s old written = true
    · rw [if_pos hown] at hrenamed ⊢
      exact hrenamed
    · rw [if_neg hown] at hrenamed ⊢
      obtain ⟨place, hplace, hrenamed⟩ := hrenamed
      exact ⟨place, newPlace_keep hplace, hrenamed⟩

section Others

variable (hs : s.Tracked config names)
include hs

/-- There is a table of a name that is not excluded among the tables that are not. -/
theorem hasTable_without {d : Database} {name : TableName}
    (hexcluded : x.excludes name = false) (hd : s.database? name.database = some d) :
    (d.keep fun t => !x.excludes t.place).hasTable s.caseMode name.table =
      d.hasTable s.caseMode name.table := by
  cases hthere : d.hasTable s.caseMode name.table with
  | false => exact Database.hasTable_keep hthere
  | true =>
    rw [Database.hasTable_eq_isSome, Option.isSome_iff_exists] at hthere
    obtain ⟨t, ht⟩ := hthere
    have hfound := Schema.requireTable_eq_ok_iff.2 ⟨d, hd, ht⟩
    obtain ⟨hmem, hequal⟩ := Database.mem_of_table? ht
    refine List.any_eq_true.2 ⟨t, List.mem_filter.2 ⟨hmem, ?_⟩, hequal⟩
    rw [hs.excludes_of_requireTable hfound, Bool.not_eq_true']
    exact hexcluded

theorem newTable_without_iff {d : Database} {name : TableName} {source : TableSource}
    {charset : Option String} (hsource : ∀ w ∈ source.tables, ∀ a ∈ w.names, names a)
    (h : newTable config s d name source charset = .ok t) (d' : Database) :
    (∃ t', newTable config (s.without x) d' name source charset = .ok t') ↔
      ∀ w ∈ source.tables, x.excludes w = false := by
  cases source with
  | columns columns primaryKey =>
    have hrepeated := (newTable_columns_eq_ok_iff.1 h).1
    exact iff_of_true ⟨_, newTable_columns_eq_ok_iff.2 ⟨hrepeated, rfl⟩⟩ (List.forall_mem_nil _)
  | like source =>
    rw [TableSource.tables, List.forall_mem_singleton] at hsource ⊢
    have htable := hsource source.table (by simp [TableName.names])
    obtain ⟨u, hu, -⟩ := newTable_like_eq_ok_iff.1 h
    simp only [newTable_like_eq_ok_iff, hs.requireTable_without_iff htable]
    constructor
    · rintro ⟨_, u', ⟨-, hkept⟩, -⟩
      exact hkept
    · exact fun hkept => ⟨_, u, ⟨hu, hkept⟩, rfl⟩

theorem resolveCreateTable_without_iff {name : TableName} {source : TableSource}
    {charset : Option String} {guarded : Bool}
    (hr : ∀ a ∈ (Request.createTable name source charset guarded).names, names a)
    (hexcluded : x.excludes name = false)
    (h : ∃ o, resolveCreateTable config s name source charset guarded = .ok o) :
    (∃ o, resolveCreateTable config (s.without x) name source charset guarded = .ok o) ↔
      ∀ w ∈ (Request.createTable name source charset guarded).tablesRead s,
        x.excludes w = false := by
  rw [exists_resolveCreateTable_iff] at h ⊢
  obtain ⟨d, hd, h⟩ := h
  have hkept : (s.without x).database? name.database =
      some (d.keep fun t => !x.excludes t.place) := by
    rw [Schema.without, Schema.database?_keep, hd]
    rfl
  have hthere : (d.keep fun t => !x.excludes t.place).hasTable (s.without x).caseMode name.table =
      d.hasTable s.caseMode name.table := hasTable_without hs hexcluded hd
  have hfound : s.hasTable name.database name.table = d.hasTable s.caseMode name.table := by
    rw [Schema.hasTable, Schema.table?, hd, Option.bind_some, Database.hasTable_eq_isSome]
  simp only [hkept, Option.some.injEq, exists_eq_left', hthere, tablesRead, hfound]
  by_cases hnew : d.hasTable s.caseMode name.table = true
  · simp only [if_pos hnew] at h ⊢
    exact iff_of_true h (List.forall_mem_nil _)
  · simp only [if_neg hnew] at h ⊢
    obtain ⟨t, ht⟩ := h
    refine newTable_without_iff hs (fun w hw a ha => hr a ?_) ht _
    cases source with
    | columns => cases hw
    | like source =>
      cases List.mem_singleton.1 hw
      exact List.mem_append_right _ ha

theorem resolveDropTable_without {name : TableName} {guarded : Bool}
    (hname : ∀ a ∈ name.names, names a) (hexcluded : x.excludes name = false) {o : Option Change}
    (h : resolveDropTable s name guarded = .ok o) :
    resolveDropTable (s.without x) name guarded = .ok o := by
  rw [resolveDropTable] at h ⊢
  have htable := hname name.table (by simp [TableName.names])
  cases ht : s.requireTable name.database name.table with
  | ok t =>
    rw [(hs.requireTable_without_iff htable).2 ⟨ht, hexcluded⟩]
    rwa [ht] at h
  | error e =>
    rw [ht] at h
    cases hkept : (s.without x).requireTable name.database name.table with
    | ok t => cases ht.symm.trans ((hs.requireTable_without_iff htable).1 hkept).1
    | error e' =>
      cases guarded with
      | true => exact h
      | false => cases h

end Others

/-- A request that is not passed over, and can be resolved, can be resolved among the tables that
are not excluded if and only if it reads none of the others. -/
theorem resolve_without_iff (hs : s.Tracked config names) {r : Request}
    (hr : ∀ a ∈ r.names, names a) (hexcluded : r.isExcluded x = false)
    (h : ∃ o, r.resolve config s = .ok o) :
    (∃ o, r.resolve config (s.without x) = .ok o) ↔
      ∀ w ∈ r.tablesRead s, x.excludes w = false := by
  cases r with
  | createDatabase database charset guarded =>
    refine iff_of_true ?_ (List.forall_mem_nil _)
    simp only [resolve, resolveCreateDatabase, Schema.without, Schema.hasDatabase_keep] at h ⊢
    exact h
  | alterDatabase database charset =>
    refine iff_of_true ?_ (List.forall_mem_nil _)
    obtain ⟨o, h⟩ := h
    obtain ⟨d, hd, -⟩ := bind_eq_ok_iff.1 h
    have hkept : (s.without x).requireDatabase database =
        .ok (d.keep fun t => !x.excludes t.place) := by
      rw [Schema.without, Schema.requireDatabase_keep, hd]
      rfl
    exact ⟨_, bind_eq_ok_iff.2 ⟨_, hkept, rfl⟩⟩
  | dropDatabase database guarded =>
    refine iff_of_true ?_ (List.forall_mem_nil _)
    simp only [resolve, resolveDropDatabase, Schema.without, Schema.database?_keep] at h ⊢
    cases hd : s.database? database with
    | none =>
      rw [hd] at h
      exact h
    | some d => exact ⟨_, rfl⟩
  | createTable name source charset guarded =>
    exact resolveCreateTable_without_iff hs hr hexcluded h
  | alterTable name edit =>
    refine iff_of_true ?_ (List.forall_mem_nil _)
    obtain ⟨o, h⟩ := h
    obtain ⟨old, hold, h⟩ := bind_eq_ok_iff.1 h
    obtain ⟨new, hnew, -⟩ := bind_eq_ok_iff.1 h
    have htable := hr name.table (by simp [Request.names, TableName.names])
    have hfound := (hs.requireTable_without_iff htable).2 ⟨hold, hexcluded⟩
    exact ⟨_, bind_eq_ok_iff.2 ⟨old, hfound, bind_eq_ok_iff.2 ⟨new, editedTable_keep hnew, rfl⟩⟩⟩
  | dropTable name guarded =>
    obtain ⟨o, h⟩ := h
    exact iff_of_true ⟨o, resolveDropTable_without hs hr hexcluded h⟩ (List.forall_mem_nil _)
  | renameTables renames =>
    have hrenames : ∀ r ∈ renames, ∀ a ∈ r.1.names ++ r.2.names, names a :=
      fun p hp a ha => hr a (List.mem_flatMap.2 ⟨p, hp, ha⟩)
    rw [exists_resolve_renameTables_iff] at h ⊢
    obtain ⟨resolved, hresolved⟩ := h
    rw [Schema.without_eq_keeps,
      resolveRenames_keep_iff hs (List.forall_mem_nil _) hrenames hresolved]
    rfl

end Request

end SchemaTrail
