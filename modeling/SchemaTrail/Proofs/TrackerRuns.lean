import SchemaTrail.Proofs.Resolution
import SchemaTrail.Tracker.Basic

/-!
# Runs of a tracker

A tracker follows statements one after the other (`Tracker.run`), and stays as it is where one
fails.  From the empty schema on it holds well-formed schemas only (`run_wellFormed`), and
what a request resolves to in one of these can be applied to it, so that after a statement has been
read only resolving its requests can fail (`run_applicable`).  Without letter case this takes
names of a coherent set.
-/

namespace SchemaTrail

open Outcome

/-- The names of databases and tables that are written in a statement, if it can be read. -/
def Statement.names (selected : Option String) (statement : String) : List String :=
  ((requests selected statement).toOption.getD []).flatMap Request.names

theorem Statement.mem_names {selected : Option String} {statement : String} {rs : List Request}
    (h : requests selected statement = .ok rs) {r : Request} (hr : r ∈ rs) {a : String}
    (ha : a ∈ r.names) : a ∈ names selected statement := by
  rw [names, h]
  exact List.mem_flatMap.2 ⟨r, hr, ha⟩

/-- A schema that a tracker with a configuration may hold while all names belong to a set. -/
structure Schema.Tracked (config : Config) (names : String → Prop) (s : Schema) : Prop where
  caseMode : config.caseMode = s.caseMode
  coherent : s.caseMode.Coherent names
  sound : s.Sound (s.caseMode.Stored names)

namespace Schema.Tracked

variable {config : Config} {names : String → Prop} {s s' : Schema} (hs : s.Tracked config names)

theorem empty (h : config.caseMode.Coherent names) (charset : String) :
    (Schema.empty charset config.caseMode).Tracked config names :=
  ⟨rfl, h, h.coherent_stored, ⟨.nil, by simp [Schema.empty]⟩, by simp [Schema.empty, AllNames]⟩

include hs

theorem apply {c : Change} (hc : c.Fits (s.caseMode.Stored names) s) (h : c.apply s = .ok s') :
    s'.Tracked config names := by
  have hmode := caseMode_of_apply h
  refine ⟨hs.caseMode.trans hmode.symm, ?_, ?_⟩
  · rw [hmode]
    exact hs.coherent
  · rw [hmode]
    exact hc.sound hs.sound h

theorem applicable {r : Request} (hr : ∀ a ∈ r.names, names a) {c : Change}
    (h : r.resolve config s = .ok (some c)) : c.Applicable (s.caseMode.Stored names) s :=
  Request.resolve_applicable hs.caseMode hs.coherent hs.sound hr h

end Schema.Tracked

namespace Tracker

/-! ## Steps -/

section Steps

variable {t : Tracker} {names : String → Prop} {p p' : Prepared} {selected : Option String}
  {statement : String}

theorem addRequest_of_excluded {r : Request} (hr : r.isExcluded t.exclusions = true) :
    t.addRequest p r = .ok p := by
  rw [addRequest, if_pos hr]
  rfl

theorem addRequest_of_none {r : Request} (hr : r.isExcluded t.exclusions = false)
    (hresolve : r.resolve t.config p.schema = .ok none) : t.addRequest p r = .ok p := by
  rw [addRequest, if_neg (by simp [hr]), hresolve]
  rfl

theorem addRequest_of_resolve {r : Request} (hr : r.isExcluded t.exclusions = false) {c : Change}
    (hresolve : r.resolve t.config p.schema = .ok (some c)) :
    t.addRequest p r = (c.apply p.schema).map fun s => ⟨p.changes ++ [c], s⟩ := by
  rw [addRequest, if_neg (by simp [hr]), hresolve]
  simp only [bind, Except.bind]
  cases c.apply p.schema <;> rfl

theorem addRequest_of_some {r : Request} (hr : r.isExcluded t.exclusions = false) {c : Change}
    (hresolve : r.resolve t.config p.schema = .ok (some c)) {s' : Schema}
    (happly : c.apply p.schema = .ok s') :
    t.addRequest p r = .ok ⟨p.changes ++ [c], s'⟩ := by
  rw [addRequest_of_resolve hr hresolve, happly]
  rfl

/-- A request adds nothing, or it is not excluded and adds the change that it resolves to. -/
theorem addRequest_eq_ok {r : Request} (h : t.addRequest p r = .ok p') :
    p' = p ∨ r.isExcluded t.exclusions = false ∧ ∃ c s',
      r.resolve t.config p.schema = .ok (some c) ∧ c.apply p.schema = .ok s' ∧
        p' = ⟨p.changes ++ [c], s'⟩ := by
  rw [addRequest] at h
  by_cases hexcluded : r.isExcluded t.exclusions = true
  · rw [if_pos hexcluded] at h
    cases h
    exact .inl rfl
  rw [if_neg hexcluded] at h
  obtain ⟨change, hresolve, h⟩ := bind_eq_ok_iff.1 h
  cases change with
  | none =>
    cases h
    exact .inl rfl
  | some c =>
    obtain ⟨s', hs', h⟩ := bind_eq_ok_iff.1 h
    cases h
    exact .inr ⟨Bool.eq_false_iff.2 hexcluded, c, s', hresolve, hs', rfl⟩

/-- A statement is prepared by reading it and taking its requests into account. -/
theorem prepare_eq_ok_iff : t.prepare selected statement = .ok p ↔
    ∃ rs, Statement.requests selected statement = .ok rs ∧
      rs.foldlM t.addRequest ⟨[], t.schema⟩ = .ok p := by
  rw [prepare, bind_eq_ok_iff]
  exact exists_congr fun rs => and_congr mapError_eq_ok_iff foldlM_mapError_eq_ok_iff

theorem prepare_singleton_iff {r : Request}
    (hread : Statement.requests selected statement = .ok [r]) :
    t.prepare selected statement = .ok p ↔ t.addRequest ⟨[], t.schema⟩ r = .ok p := by
  rw [prepare_eq_ok_iff, hread]
  simp

/-- A statement fails if it cannot be read, or at the first of its requests that cannot be taken
into account; the error tells of the schema that the requests before have led to. -/
theorem prepare_eq_error_iff {e : StatementError} : t.prepare selected statement = .error e ↔
    (∃ cause, Statement.requests selected statement = .error cause ∧
      failure selected statement t.schema none cause = e) ∨
    ∃ front r back p cause, Statement.requests selected statement = .ok (front ++ r :: back) ∧
      front.foldlM t.addRequest ⟨[], t.schema⟩ = .ok p ∧ t.addRequest p r = .error cause ∧
      failure selected statement p.schema (some r.target) (.invariant cause) = e := by
  rw [prepare, bind_eq_error_iff, mapError_eq_error_iff]
  refine or_congr Iff.rfl ⟨?_, ?_⟩
  · rintro ⟨rs, hread, hfold⟩
    obtain ⟨front, r, back, p, rfl, hfront, hr⟩ := foldlM_eq_error_iff.1 hfold
    obtain ⟨cause, hcause, he⟩ := mapError_eq_error_iff.1 hr
    exact ⟨front, r, back, p, cause, mapError_eq_ok_iff.1 hread,
      foldlM_mapError_eq_ok_iff.1 hfront, hcause, he⟩
  · rintro ⟨front, r, back, p, cause, hread, hfront, hcause, he⟩
    exact ⟨front ++ r :: back, mapError_eq_ok_iff.2 hread, foldlM_eq_error_iff.2
      ⟨front, r, back, p, rfl, foldlM_mapError_eq_ok_iff.2 hfront,
        mapError_eq_error_iff.2 ⟨cause, hcause, he⟩⟩⟩

/-- What holds of a schema and is kept by every change that a request resolves to, and what holds of
all these changes. -/
theorem addRequests_induction {I : Schema → Prop} {J : Change → Prop} {rs : List Request}
    (h : rs.foldlM t.addRequest p = .ok p') (hp : I p.schema ∧ ∀ c ∈ p.changes, J c)
    (hstep : ∀ s, I s → ∀ r ∈ rs, ∀ c s', r.resolve t.config s = .ok (some c) →
      c.apply s = .ok s' → I s' ∧ J c) : I p'.schema ∧ ∀ c ∈ p'.changes, J c := by
  refine foldlM_induction (motive := fun p => I p.schema ∧ ∀ c ∈ p.changes, J c) h hp
    fun p hp r hr p' hp' => ?_
  obtain rfl | ⟨-, c, s', hresolve, hs', rfl⟩ := addRequest_eq_ok hp'
  · exact hp
  · obtain ⟨hI, hJ⟩ := hstep p.schema hp.1 r hr c s' hresolve hs'
    refine ⟨hI, ?_⟩
    rw [List.forall_mem_append, List.forall_mem_singleton]
    exact ⟨hp.2, hJ⟩

/-- The changes that were prepared lead from the schema before to the one after them. -/
theorem applyAll_of_prepare (h : t.prepare selected statement = .ok p) :
    t.schema.applyAll p.changes = .ok p.schema := by
  obtain ⟨rs, -, h⟩ := prepare_eq_ok_iff.1 h
  refine foldlM_induction (motive := fun p => t.schema.applyAll p.changes = .ok p.schema) h rfl
    fun p hp r _ p' hp' => ?_
  obtain rfl | ⟨-, c, s', -, hs', rfl⟩ := addRequest_eq_ok hp'
  · exact hp
  · rw [Schema.applyAll] at hp ⊢
    rw [List.foldlM_append, hp]
    exact bind_eq_ok_iff.2 ⟨p.schema, rfl, bind_eq_ok_iff.2 ⟨s', hs', rfl⟩⟩

/-- Where nothing is changed the schema that was prepared is the one before. -/
theorem commit_schema (h : t.prepare selected statement = .ok p) :
    (t.commit p).schema = p.schema := by
  rw [commit]
  by_cases hchanges : p.changes.isEmpty = true
  · have happly := applyAll_of_prepare h
    rw [List.isEmpty_iff.1 hchanges] at happly
    rw [if_pos hchanges]
    exact Except.ok.inj happly
  · rw [if_neg hchanges]

theorem process_eq_ok_iff {changes : List Change} {t' : Tracker} :
    t.process selected statement = .ok (changes, t') ↔
      ∃ p, t.prepare selected statement = .ok p ∧ p.changes = changes ∧ t.commit p = t' := by
  rw [process, map_eq_ok_iff]
  simp only [Prod.mk.injEq]

/-- What a statement that is followed does to the schema is what it was prepared to do. -/
theorem exists_process_iff {P : Schema → Prop} :
    (∃ changes t', t.process selected statement = .ok (changes, t') ∧ P t'.schema) ↔
      ∃ p, t.prepare selected statement = .ok p ∧ P p.schema := by
  simp only [process_eq_ok_iff]
  constructor
  · rintro ⟨_, _, ⟨p, hp, rfl, rfl⟩, h⟩
    exact ⟨p, hp, commit_schema hp ▸ h⟩
  · rintro ⟨p, hp, h⟩
    exact ⟨_, _, ⟨p, hp, rfl, rfl⟩, (commit_schema hp).symm ▸ h⟩

theorem addRequest_tracked {r : Request} (hp : p.schema.Tracked t.config names)
    (hr : ∀ a ∈ r.names, names a) (h : t.addRequest p r = .ok p') :
    p'.schema.Tracked t.config names := by
  obtain rfl | ⟨-, c, s', hresolve, hs', rfl⟩ := addRequest_eq_ok h
  · exact hp
  · exact hp.apply (hp.applicable hr hresolve).fits hs'

theorem addRequests_tracked {rs : List Request} (hp : p.schema.Tracked t.config names)
    (hrs : ∀ r ∈ rs, ∀ a ∈ r.names, names a) (h : rs.foldlM t.addRequest p = .ok p') :
    p'.schema.Tracked t.config names :=
  foldlM_induction (motive := fun p => p.schema.Tracked t.config names) h hp
    fun _ hp r hr _ hp' => addRequest_tracked hp (hrs r hr) hp'

/-- A request that can be resolved but not added does not exist. -/
theorem addRequest_eq_error {r : Request} (hp : p.schema.Tracked t.config names)
    (hr : ∀ a ∈ r.names, names a) {e : InvariantError} (h : t.addRequest p r = .error e) :
    r.resolve t.config p.schema = .error e := by
  rw [addRequest] at h
  by_cases hexcluded : r.isExcluded t.exclusions = true
  · rw [if_pos hexcluded] at h
    cases h
  rw [if_neg hexcluded] at h
  rcases bind_eq_error_iff.1 h with hresolve | ⟨change, hresolve, h⟩
  · exact hresolve
  cases change with
  | none => cases h
  | some c =>
    obtain ⟨s', hs'⟩ := (hp.applicable hr hresolve).succeeds
    simp only [hs'] at h
    cases h

/-- What can go wrong with a statement: it cannot be read, or one of its requests cannot be resolved
in the schema that those before it leave. -/
inductive Fails (t : Tracker) (selected : Option String) (statement : String) :
    StatementError → Prop
  | read {cause : SchemaError} (h : Statement.requests selected statement = .error cause) :
    Fails t selected statement (failure selected statement t.schema none cause)
  | resolve {front back : List Request} {r : Request} {p : Prepared} {cause : InvariantError}
    (hread : Statement.requests selected statement = .ok (front ++ r :: back))
    (hfront : front.foldlM t.addRequest ⟨[], t.schema⟩ = .ok p)
    (hresolve : r.resolve t.config p.schema = .error cause) :
    Fails t selected statement
      (failure selected statement p.schema (some r.target) (.invariant cause))

theorem prepare_fails (ht : t.schema.Tracked t.config names)
    (hnames : ∀ a ∈ Statement.names selected statement, names a) {e : StatementError}
    (h : t.prepare selected statement = .error e) : t.Fails selected statement e := by
  rcases prepare_eq_error_iff.1 h with
    ⟨cause, hcause, rfl⟩ | ⟨front, r, back, p, cause, hread, hfront, hcause, rfl⟩
  · exact .read hcause
  have hrequests : ∀ q ∈ front ++ r :: back, ∀ a ∈ q.names, names a :=
    fun q hq a ha => hnames a (Statement.mem_names hread hq ha)
  have hp := addRequests_tracked ht
    (fun q hq => hrequests q (List.mem_append_left _ hq)) hfront
  exact .resolve hread hfront (addRequest_eq_error hp (hrequests r (by simp)) hcause)

end Steps

/-! ## Runs -/

/-- The tracker after a call with the selected database and a statement; a call that fails leaves
it as it is. -/
def follow (t : Tracker) (call : Option String × String) : Tracker :=
  match t.process call.1 call.2 with
  | .ok (_, t') => t'
  | .error _ => t

/-- The tracker after several calls. -/
def run (t : Tracker) (calls : List (Option String × String)) : Tracker :=
  calls.foldl follow t

variable {t : Tracker} {names : String → Prop} {calls : List (Option String × String)}

theorem run_append_singleton (t : Tracker) (calls : List (Option String × String))
    (call : Option String × String) : t.run (calls ++ [call]) = (t.run calls).follow call :=
  List.foldl_append

/-- Calls change nothing but the schema. -/
theorem follow_withSchema (t : Tracker) (call : Option String × String) :
    ∃ s, t.follow call = { t with schema := s } := by
  delta follow process
  cases t.prepare call.1 call.2 with
  | error e => exact ⟨t.schema, rfl⟩
  | ok p =>
    simp only [Except.map, commit]
    split
    · exact ⟨t.schema, rfl⟩
    · exact ⟨p.schema, rfl⟩

theorem run_withSchema (t : Tracker) (calls : List (Option String × String)) :
    ∃ s, t.run calls = { t with schema := s } := by
  induction calls generalizing t with
  | nil => exact ⟨t.schema, rfl⟩
  | cons call calls ih =>
    obtain ⟨s, hs⟩ := t.follow_withSchema call
    obtain ⟨s', hs'⟩ := ih (t.follow call)
    rw [hs] at hs'
    exact ⟨s', by rw [← hs', ← hs]; rfl⟩

theorem run_config (t : Tracker) (calls : List (Option String × String)) :
    (t.run calls).config = t.config := by
  obtain ⟨s, hs⟩ := t.run_withSchema calls
  rw [hs]

/-- What holds of a schema and is kept by every change that a request of a call resolves to holds at
the end of a run. -/
theorem run_induction {I : Schema → Prop} (ht : I t.schema)
    (hstep : ∀ call ∈ calls, ∀ rs, Statement.requests call.1 call.2 = .ok rs → ∀ s, I s →
      ∀ r ∈ rs, ∀ c s', r.resolve t.config s = .ok (some c) → c.apply s = .ok s' → I s') :
    I (t.run calls).schema := by
  induction calls generalizing t with
  | nil => exact ht
  | cons call calls ih =>
    rw [List.forall_mem_cons] at hstep
    obtain ⟨s', hs'⟩ := t.follow_withSchema call
    refine ih (t := t.follow call) ?_ (by rw [hs']; exact hstep.2)
    delta follow process
    cases hp : t.prepare call.1 call.2 with
    | error e => exact ht
    | ok p =>
      obtain ⟨rs, hrs, h⟩ := prepare_eq_ok_iff.1 hp
      have hI := (addRequests_induction (J := fun _ => True) h ⟨ht, fun _ _ => trivial⟩
        fun s hs r hr c s' hresolve happly =>
          ⟨hstep.1 rs hrs s hs r hr c s' hresolve happly, trivial⟩).1
      show I (t.commit p).schema
      rw [commit_schema hp]
      exact hI

theorem run_tracked (ht : t.schema.Tracked t.config names)
    (hnames : ∀ call ∈ calls, ∀ a ∈ Statement.names call.1 call.2, names a) :
    (t.run calls).schema.Tracked t.config names :=
  run_induction ht fun call hcall _ hrs _ hs _ hr _ _ hresolve happly => by
    have hnames := fun a ha => hnames call hcall a (Statement.mem_names hrs hr ha)
    exact hs.apply (hs.applicable hnames hresolve).fits happly

/-! ## Runs from the empty schema -/

/-- With letter case the set of all names will do. -/
theorem start_run_tracked (config : Config) (exclusions : Exclusions) (charset : String)
    (mode : CaseMode) (calls : List (Option String × String))
    (hcoherent : config.caseMode ≠ .sensitive → config.caseMode.Coherent names)
    (hcalls : config.caseMode ≠ .sensitive →
      ∀ call ∈ calls, ∀ a ∈ Statement.names call.1 call.2, names a) :
    ((start config exclusions (.empty charset mode)).run calls).schema.Tracked config
      fun a => config.caseMode = .sensitive ∨ names a := by
  have hset : config.caseMode.Coherent fun a => config.caseMode = .sensitive ∨ names a := by
    by_cases hmode : config.caseMode = .sensitive
    · rw [hmode]
      exact CaseMode.coherent_sensitive _
    · simpa [hmode] using hcoherent hmode
  exact run_tracked (t := start config exclusions (.empty charset mode))
    (Schema.Tracked.empty hset charset) fun call hcall a ha =>
      Decidable.or_iff_not_imp_left.2 fun hmode => hcalls hmode call hcall a ha

/-- Every schema that a tracker reaches from the empty one is well-formed, and its names are stored
in the form that the mode asks for. -/
theorem run_wellFormed (config : Config) (exclusions : Exclusions) (charset : String)
    (mode : CaseMode) (calls : List (Option String × String))
    (hcoherent : config.caseMode ≠ .sensitive → config.caseMode.Coherent names)
    (hcalls : config.caseMode ≠ .sensitive →
      ∀ call ∈ calls, ∀ a ∈ Statement.names call.1 call.2, names a) :
    let s := ((start config exclusions (.empty charset mode)).run calls).schema
    s.caseMode = config.caseMode ∧ s.WellFormed ∧
      s.AllNames fun a => config.caseMode.storedName a = a := by
  intro s
  have hs := start_run_tracked config exclusions charset mode calls hcoherent hcalls
  refine ⟨hs.caseMode.symm, hs.sound.wellFormed, fun d hd => ?_⟩
  rw [hs.caseMode]
  exact ⟨(hs.sound.name_mem hd).2, fun t ht => (hs.sound.tableName_mem hd ht).2⟩

/-- Names that are stored in lower case, in a run where a call fails. -/
theorem run_wellFormed_lowered :
    ((start ⟨.lowered, .never, "utf8mb4"⟩ .empty (.empty "utf8mb4" .lowered)).run
      [(none, "CREATE DATABASE Shop"), (some "SHOP", "CREATE TABLE Items (Id int, Label text)"),
        (some "shop", "CREATE TABLE items (Id int)"),
        (some "shop", "RENAME TABLE ITEMS TO Things")]).schema.WellFormed :=
  (run_wellFormed _ _ _ _ _ (fun _ => CaseMode.coherent_isAscii .lowered)
    (fun _ => by decide +kernel)).2.1

/-- In every schema that a tracker reaches from the empty one, what a request resolves to can be
applied, and a statement that can be read fails only where a request cannot be resolved. -/
theorem run_applicable (config : Config) (exclusions : Exclusions) (charset : String)
    (mode : CaseMode) (calls : List (Option String × String))
    (hcoherent : config.caseMode ≠ .sensitive → config.caseMode.Coherent names)
    (hcalls : config.caseMode ≠ .sensitive →
      ∀ call ∈ calls, ∀ a ∈ Statement.names call.1 call.2, names a) :
    let t := (start config exclusions (.empty charset mode)).run calls
    (∀ r : Request, (config.caseMode ≠ .sensitive → ∀ a ∈ r.names, names a) →
      ∀ c, r.resolve config t.schema = .ok (some c) → ∃ s', c.apply t.schema = .ok s') ∧
    ∀ selected statement,
      (config.caseMode ≠ .sensitive → ∀ a ∈ Statement.names selected statement, names a) →
        ∀ e, t.process selected statement = .error e → t.Fails selected statement e := by
  intro t
  have ht := start_run_tracked config exclusions charset mode calls hcoherent hcalls
  refine ⟨fun r hr c hc => ?_, fun selected statement hstatement e he => ?_⟩
  · have hr : ∀ a ∈ r.names, config.caseMode = .sensitive ∨ names a := fun a ha =>
      Decidable.or_iff_not_imp_left.2 fun hmode => hr hmode a ha
    exact (ht.applicable hr hc).succeeds
  · have hconfig : t.config = config :=
      run_config (start config exclusions (.empty charset mode)) calls
    have ht : t.schema.Tracked t.config fun a => config.caseMode = .sensitive ∨ names a := by
      rw [hconfig]
      exact ht
    refine prepare_fails ht (fun a ha => ?_) ?_
    · exact Decidable.or_iff_not_imp_left.2 fun hmode => hstatement hmode a ha
    · rw [process] at he
      cases hp : t.prepare selected statement with
      | ok p =>
        rw [hp] at he
        cases he
      | error e' =>
        rw [hp] at he
        cases he
        rfl

/-- A table that is dropped by a name in another letter case. -/
theorem run_applicable_insensitive :
    let t := (start ⟨.insensitive, .never, "utf8mb4"⟩ .empty (.empty "utf8mb4" .sensitive)).run
      [(none, "CREATE DATABASE Shop"), (some "SHOP", "CREATE TABLE Items (Id int)")]
    ∃ s', (Change.dropTable "Shop" "Items").apply t.schema = .ok s' :=
  (run_applicable ⟨.insensitive, .never, "utf8mb4"⟩ .empty "utf8mb4" .sensitive
    [(none, "CREATE DATABASE Shop"), (some "SHOP", "CREATE TABLE Items (Id int)")]
    (fun _ => CaseMode.coherent_isAscii .insensitive) (fun _ => by decide +kernel)).1
    (.dropTable ⟨"shop", "ITEMS"⟩ false) (fun _ => by decide +kernel) _
    (toOption_eq_some_iff.1 (by decide +kernel))

end Tracker

end SchemaTrail
