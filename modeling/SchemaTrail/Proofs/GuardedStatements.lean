import SchemaTrail.Proofs.ReaderResults
import SchemaTrail.Proofs.ReaderSteps
import SchemaTrail.Proofs.RenamedTables

/-!
# Guarded statements

A statement with a guard creates what is not there yet, or drops what is there, and passes over the
rest.  Once it has been followed there is nothing left for it to do: followed again, it has no
changes (`Tracker.process_guarded`).  One that drops databases or tables never fails in a
well-formed schema, however often a table is listed (`Tracker.process_guardedDrop`).
-/

namespace SchemaTrail

open Outcome

/-! ## Statements -/

/-- Whether a request passes over what it would create if that is there, or over what it would drop
if that is not. -/
def Request.isGuarded : Request → Bool
  | .createDatabase _ _ guarded | .dropDatabase _ guarded | .createTable _ _ _ guarded
  | .dropTable _ guarded => guarded
  | .alterDatabase .. | .alterTable .. | .renameTables _ => false

/-- Whether a request drops a database or a table. -/
def Request.isDrop : Request → Bool
  | .dropDatabase .. | .dropTable .. => true
  | .createDatabase .. | .alterDatabase .. | .createTable .. | .alterTable .. | .renameTables _ =>
    false

namespace Statement

/-- Whether a token stands for what a statement creates or drops. -/
def namesObject (k : Token.Kind) : Bool :=
  k = .keyword .table || namesDatabase k

/-- Whether a statement begins with `CREATE TABLE IF NOT EXISTS` or `CREATE DATABASE IF NOT
EXISTS`. -/
def isGuardedCreation (statement : String) : Bool :=
  match (Cursor.ofStatement statement).kinds with
  | .keyword .create :: k :: .keyword .ifWord :: .keyword .not :: .keyword .exists :: _ =>
    namesObject k
  | _ => false

/-- Whether a statement begins with `DROP TABLE IF EXISTS` or `DROP DATABASE IF EXISTS`. -/
def isGuardedDrop (statement : String) : Bool :=
  match (Cursor.ofStatement statement).kinds with
  | .keyword .drop :: k :: .keyword .ifWord :: .keyword .exists :: _ => namesObject k
  | _ => false

variable {selected : Option String} {statement : String} {c next : Cursor} {rs : List Request}

theorem Cursor.of_kinds_cons {k : Token.Kind} {kinds : List Token.Kind} (h : c.kinds = k :: kinds) :
    c.kind = k ∧ c.advance.kinds = kinds := by
  rw [c.kind_eq, c.kinds_advance, h]
  exact ⟨rfl, rfl⟩

/-- A guard that begins and can be read is there. -/
theorem guarded_of_kind {rest : Reader Bool} {guarded : Bool} (hrest : Gives rest (· = true))
    (hkind : c.kind = .keyword .ifWord)
    (h : (do if ← takeKeyword .ifWord then rest else return false) c = .ok (guarded, next)) :
    guarded = true := by
  rw [takeKeyword, takeIf_bind, if_pos (by simp [hkind])] at h
  exact hrest _ _ _ h

theorem takeIfExists_of_kind {guarded : Bool} (hkind : c.kind = .keyword .ifWord)
    (h : takeIfExists c = .ok (guarded, next)) : guarded = true :=
  guarded_of_kind (yields_after fun _ => gives_pure rfl) hkind h

theorem takeIfNotExists_of_kind {guarded : Bool} (hkind : c.kind = .keyword .ifWord)
    (h : takeIfNotExists c = .ok (guarded, next)) : guarded = true :=
  guarded_of_kind (yields_after fun _ => yields_after fun _ => gives_pure rfl) hkind h

theorem readCreateTable_guarded (hkind : c.kind = .keyword .ifWord) {r : Request}
    (h : readCreateTable selected c = .ok (r, next)) : r.isGuarded = true := by
  obtain ⟨guarded, _, hguarded, h⟩ := read_bind_iff.1 h
  obtain rfl := takeIfNotExists_of_kind hkind hguarded
  obtain ⟨_, _, -, h⟩ := read_bind_iff.1 h
  obtain ⟨_, _, -, h⟩ := read_bind_iff.1 h
  obtain ⟨_, _, -, h⟩ := read_bind_iff.1 h
  cases h
  rfl

theorem readCreateDatabase_guarded (hkind : c.kind = .keyword .ifWord) {r : Request}
    (h : readCreateDatabase c = .ok (r, next)) : r.isGuarded = true := by
  obtain ⟨guarded, _, hguarded, h⟩ := read_bind_iff.1 h
  obtain rfl := takeIfNotExists_of_kind hkind hguarded
  obtain ⟨_, _, -, h⟩ := read_bind_iff.1 h
  obtain ⟨_, _, -, h⟩ := read_bind_iff.1 h
  cases h
  rfl

theorem readDropTable_guarded (hkind : c.kind = .keyword .ifWord)
    (h : readDropTable selected c = .ok (rs, next)) :
    ∀ r ∈ rs, r.isGuarded = true ∧ r.isDrop = true := by
  obtain ⟨guarded, _, hguarded, h⟩ := read_bind_iff.1 h
  obtain rfl := takeIfExists_of_kind hkind hguarded
  obtain ⟨names, _, -, h⟩ := read_bind_iff.1 h
  obtain ⟨_, _, -, h⟩ := read_bind_iff.1 h
  cases h
  exact List.forall_mem_map.2 fun _ _ => ⟨rfl, rfl⟩

theorem readDropDatabase_guarded (hkind : c.kind = .keyword .ifWord) {r : Request}
    (h : readDropDatabase c = .ok (r, next)) : r.isGuarded = true ∧ r.isDrop = true := by
  obtain ⟨guarded, _, hguarded, h⟩ := read_bind_iff.1 h
  obtain rfl := takeIfExists_of_kind hkind hguarded
  obtain ⟨_, _, -, h⟩ := read_bind_iff.1 h
  cases h
  exact ⟨rfl, rfl⟩

/-- Where a token stands for what is created or dropped, the statement is about tables or about
databases. -/
theorem object_cases {table database : Reader (Option (List Request))}
    {answer : Option (List Request)} (hobject : namesObject c.kind = true)
    (h : readObject table database c = .ok (answer, next)) :
    table c.advance = .ok (answer, next) ∨ database c.advance = .ok (answer, next) := by
  rw [namesObject, Bool.or_eq_true] at hobject
  rw [readObject, takeKeyword, takeIf_bind] at h
  split at h
  next => exact .inl h
  next hother =>
    replace h : (takeIf namesDatabase >>= fun named =>
      if named then database else return none) c = _ := h
    rw [takeIf_bind, if_pos (hobject.resolve_left hother)] at h
    exact .inr h

/-- A statement that asks for something is read. -/
theorem readStatement_of_requests (h : requests selected statement = .ok rs) : rs = [] ∨
    ∃ next, readStatement selected (.ofStatement statement) = .ok (some rs, next) := by
  rw [requests] at h
  split at h
  · cases h
    exact .inl rfl
  · obtain ⟨answer, next, hanswer, ⟨-, rfl⟩ | ⟨rfl, -⟩⟩ := read_eq_ok_iff.1 h
    · exact .inl rfl
    · exact .inr ⟨next, hanswer⟩

/-- The requests of a statement that creates something behind a guard are guarded. -/
theorem isGuarded_of_creation (hguarded : isGuardedCreation statement = true)
    (h : requests selected statement = .ok rs) : ∀ r ∈ rs, r.isGuarded = true := by
  rw [isGuardedCreation] at hguarded
  split at hguarded
  next k kinds hkinds =>
    obtain rfl | ⟨next, hread⟩ := readStatement_of_requests h
    · simp
    obtain ⟨hcreate, hkinds⟩ := Cursor.of_kinds_cons hkinds
    obtain ⟨hobject, hkinds⟩ := Cursor.of_kinds_cons hkinds
    obtain ⟨hif, -⟩ := Cursor.of_kinds_cons hkinds
    rw [readStatement, kind_bind, hcreate] at hread
    obtain hread | hread := object_cases (hobject ▸ hguarded) hread
    · obtain ⟨r, _, hr, hread⟩ := read_bind_iff.1 hread
      cases hread
      exact List.forall_mem_singleton.2 (readCreateTable_guarded hif hr)
    · obtain ⟨r, _, hr, hread⟩ := read_bind_iff.1 hread
      cases hread
      exact List.forall_mem_singleton.2 (readCreateDatabase_guarded hif hr)
  next => cases hguarded

/-- The requests of a statement that drops something behind a guard are guarded. -/
theorem isGuarded_of_drop (hguarded : isGuardedDrop statement = true)
    (h : requests selected statement = .ok rs) :
    ∀ r ∈ rs, r.isGuarded = true ∧ r.isDrop = true := by
  rw [isGuardedDrop] at hguarded
  split at hguarded
  next k kinds hkinds =>
    obtain rfl | ⟨next, hread⟩ := readStatement_of_requests h
    · simp
    obtain ⟨hdrop, hkinds⟩ := Cursor.of_kinds_cons hkinds
    obtain ⟨hobject, hkinds⟩ := Cursor.of_kinds_cons hkinds
    obtain ⟨hif, -⟩ := Cursor.of_kinds_cons hkinds
    rw [readStatement, kind_bind, hdrop] at hread
    obtain hread | hread := object_cases (hobject ▸ hguarded) hread
    · obtain ⟨rs, _, hrs, hread⟩ := read_bind_iff.1 hread
      cases hread
      exact readDropTable_guarded hif hrs
    · obtain ⟨r, _, hr, hread⟩ := read_bind_iff.1 hread
      cases hread
      exact List.forall_mem_singleton.2 (readDropDatabase_guarded hif hr)
  next => cases hguarded

end Statement

/-! ## Keys of what is there -/

namespace Schema

variable {names : String → Prop} {s s' : Schema} {w : TableName} {a : String}

namespace Named

/-- A name finds a database if its key is that of one. -/
theorem database?_isSome_iff (hs : s.Named names) (ha : names a) :
    (s.database? a).isSome = true ↔ s.caseMode.key a ∈ s.databaseNames.map s.caseMode.key := by
  simp only [Option.isSome_iff_exists, hs.database?_eq_some_iff ha, databaseNames, List.map_map,
    List.mem_map, Function.comp_apply]
  exact exists_congr fun d => and_congr_right fun hd => hs.namesEqual_database_iff hd ha

/-- A name finds a table if its key is that of one. -/
theorem table?_isSome_iff (hs : s.Named names) (hw : ∀ a ∈ w.names, names a) :
    (s.table? w.database w.table).isSome = true ↔ w.key s.caseMode ∈ s.entries.keys := by
  rw [← List.dlookup_isSome, ← Finmap.dlookup_list_toFinmap]
  have hlookup := hs.lookup_tables hw
  rw [catalogue] at hlookup
  rw [hlookup, Option.isSome_map]

end Named

/-- A database that is removed takes its key with it. -/
theorem key_notMem_of_removeDatabase (hs : s.caseMode.Distinct s.databaseNames)
    (h : s.removeDatabase a = .ok s') :
    s.caseMode.key a ∉ s'.databaseNames.map s.caseMode.key := by
  obtain ⟨front, d, back, hd, -, hname, rfl⟩ := removeDatabase_eq_ok_iff.1 h
  rw [CaseMode.distinct_iff_nodup_key, databaseNames, hd] at hs
  rw [← CaseMode.key_eq_of_namesEqual hname, databaseNames]
  simp only [List.map_append, List.map_cons] at hs ⊢
  exact (List.nodup_middle.1 hs).notMem

/-- A table that is taken away takes its key with it, and no key comes in its place. -/
theorem keys_of_takeTable (hs : s.NamesDistinct)
    (h : s.updateTable w.database w.table (fun _ => []) = .ok s') :
    w.key s.caseMode ∉ s'.entries.keys ∧ s'.entries.keys ⊆ s.entries.keys := by
  obtain ⟨d, t, hd, ht, front, back, hentries, hentries'⟩ := entries_updateTable h
  have hkeys := hs.nodupKeys
  rw [entry_eq hd ht] at hentries
  rw [List.map_nil, List.append_nil] at hentries'
  rw [hentries, List.NodupKeys] at hkeys
  rw [hentries, hentries']
  simp only [List.keys, List.map_append, List.map_cons] at hkeys ⊢
  exact ⟨(List.nodup_middle.1 hkeys).notMem, by simp⟩

/-- A table that is put in has its key there. -/
theorem key_mem_of_insertTable {t : Table} (h : s.insertTable t = .ok s') :
    t.place.key s.caseMode ∈ s'.entries.keys := by
  obtain ⟨d, hd, hentries⟩ := entries_addTable (insertTable_eq_ok_iff.1 h).2
  rw [entry_eq (w := t.place) hd (CaseMode.namesEqual_refl _ _)] at hentries
  exact (hentries.map Sigma.fst).mem_iff.2 (by simp)

end Schema

/-! ## Requests -/

namespace Request

variable {config : Config} {s : Schema} {database : String} {name : TableName}

theorem resolve_createDatabase_of_isSome (h : (s.database? database).isSome = true)
    (charset : Option String) :
    (createDatabase database charset true).resolve config s = .ok none := by
  rw [resolve, resolveCreateDatabase, Schema.hasDatabase_eq_isSome, if_pos h]
  rfl

theorem resolve_dropDatabase_of_none (h : s.database? database = none) :
    (dropDatabase database true).resolve config s = .ok none := by
  rw [resolve, resolveDropDatabase, h]
  rfl

theorem resolve_createTable_of_isSome (h : (s.table? name.database name.table).isSome = true)
    (source : TableSource) (charset : Option String) :
    (createTable name source charset true).resolve config s = .ok none := by
  obtain ⟨t, ht⟩ := Option.isSome_iff_exists.1 h
  obtain ⟨d, hd, ht⟩ := Option.bind_eq_some_iff.1 ht
  have hthere : d.hasTable s.caseMode name.table = true := by
    rw [Database.hasTable_eq_isSome, ht]
    rfl
  refine bind_eq_ok_iff.2 ⟨d, Schema.requireDatabase_eq_ok_iff.2 hd, ?_⟩
  rw [if_pos hthere]
  rfl

theorem resolve_dropTable_eq_none_iff :
    (dropTable name true).resolve config s = .ok none ↔
      s.table? name.database name.table = none := by
  rw [resolve, resolveDropTable]
  cases h : s.requireTable name.database name.table with
  | ok t => simp [Schema.requireTable_eq_ok_iff_table?.1 h]
  | error e =>
    have hnone : s.table? name.database name.table = none := by
      refine Option.eq_none_iff_forall_ne_some.2 fun t ht => ?_
      rw [Schema.requireTable_eq_ok_iff_table?.2 ht] at h
      cases h
    simp [hnone]

end Request

/-! ## Steps -/

namespace Schema.Tracked

variable {config : Config} {names : String → Prop} {s s' : Schema} {r : Request} {c : Change}

/-- A guarded request that has been carried out finds nothing to do. -/
theorem resolve_eq_none (hs : s.Tracked config names) (hr : ∀ a ∈ r.names, names a)
    (hguarded : r.isGuarded = true) (h : r.resolve config s = .ok (some c))
    (happly : c.apply s = .ok s') : r.resolve config s' = .ok none := by
  have hnamed := hs.named
  have hs' := hs.apply (hs.applicable hr h).fits happly
  have hmode := caseMode_of_apply happly
  have hstored : ∀ a, names a →
      s.caseMode.key (config.caseMode.storedName a) = s.caseMode.key a := by
    intro a ha
    rw [hs.caseMode]
    exact CaseMode.key_eq_of_namesEqual (hs.coherent.namesEqual_stored ha)
  cases Request.resolve_eq_some_iff.1 h with
  | @createDatabase database charset guarded hnew =>
    obtain rfl : guarded = true := hguarded
    refine Request.resolve_createDatabase_of_isSome ?_ charset
    rw [hs'.named.database?_isSome_iff (hr database (by simp [Request.names])), hmode,
      ← hstored database (hr database (by simp [Request.names]))]
    rw [Change.apply] at happly
    split at happly
    · cases happly
    · cases happly
      simp [addDatabase, databaseNames]
  | @dropDatabase database guarded d hd =>
    obtain rfl : guarded = true := hguarded
    refine Request.resolve_dropDatabase_of_none ?_
    have hkey := key_notMem_of_removeDatabase hnamed.distinct.databases happly
    rw [CaseMode.key_eq_of_namesEqual (mem_of_database? hd).2, ← hmode,
      ← hs'.named.database?_isSome_iff (hr database (by simp [Request.names]))] at hkey
    simpa using hkey
  | @createTable name source charset guarded d t hd hnew ht =>
    obtain rfl : guarded = true := hguarded
    have hname : ∀ a ∈ name.names, names a := by
      intro a ha
      cases source with
      | columns columns primaryKey => exact hr a ha
      | like other => exact hr a (List.mem_append_left _ ha)
    refine Request.resolve_createTable_of_isSome ?_ source charset
    obtain ⟨hdatabase, htable⟩ := Request.place_of_newTable ht
    have hkey : t.place.key s.caseMode = name.key s.caseMode := by
      rw [TableName.key, TableName.key, Table.place, hdatabase, htable,
        CaseMode.key_eq_of_namesEqual (mem_of_database? hd).2,
        hstored name.table (hname _ (by simp [TableName.names]))]
    rw [hs'.named.table?_isSome_iff hname, hmode, ← hkey]
    exact key_mem_of_insertTable happly
  | @dropTable name guarded t ht =>
    obtain rfl : guarded = true := hguarded
    rw [Request.resolve_dropTable_eq_none_iff]
    have hkey := (keys_of_takeTable (w := t.place) hnamed.distinct happly).1
    rw [TableName.key_eq_of_equals (hs.place_of_requireTable ht).2, ← hmode,
      ← hs'.named.table?_isSome_iff (w := ⟨name.database, name.table⟩) hr] at hkey
    simpa using hkey
  | alterDatabase | alterTable | renameTables => cases hguarded

/-- A table that is not there for a request to drop is not there after others are dropped. -/
theorem resolve_dropTable_of_dropTable {name : TableName} {database table : String}
    (hs : s.Tracked config names) (hs' : s'.Tracked config names)
    (hname : ∀ a ∈ name.names, names a)
    (h : (Request.dropTable name true).resolve config s = .ok none)
    (happly : (Change.dropTable database table).apply s = .ok s') :
    (Request.dropTable name true).resolve config s' = .ok none := by
  rw [Request.resolve_dropTable_eq_none_iff] at h ⊢
  have hkeys := (keys_of_takeTable (w := ⟨database, table⟩) hs.named.distinct happly).2
  have hkey : name.key s.caseMode ∉ s.entries.keys := by
    rw [← hs.named.table?_isSome_iff hname, h]
    simp
  have hkey' := fun hmem => hkey (hkeys hmem)
  rw [← caseMode_of_apply happly, ← hs'.named.table?_isSome_iff hname] at hkey'
  simpa using hkey'

end Schema.Tracked

namespace Tracker

variable {t : Tracker} {names : String → Prop} {p p' : Prepared} {r : Request} {rs : List Request}

/-- A request that is excluded or finds nothing to do in a schema. -/
def Idle (t : Tracker) (s : Schema) (r : Request) : Prop :=
  r.isExcluded t.exclusions = true ∨ r.resolve t.config s = .ok none

theorem addRequest_of_idle (h : t.Idle p.schema r) : t.addRequest p r = .ok p := by
  cases hexcluded : r.isExcluded t.exclusions with
  | true => exact addRequest_of_excluded hexcluded
  | false => exact addRequest_of_none hexcluded (h.resolve_left (by simp [hexcluded]))

theorem addRequests_of_idle (h : ∀ r ∈ rs, t.Idle p.schema r) :
    rs.foldlM t.addRequest p = .ok p := by
  induction rs with
  | nil => rfl
  | cons r rs ih =>
    rw [List.forall_mem_cons] at h
    rw [List.foldlM_cons, addRequest_of_idle h.1]
    exact ih h.2

/-- A request is idle and adds nothing, or it adds the change that it resolves to. -/
theorem addRequest_cases (h : t.addRequest p r = .ok p') : t.Idle p.schema r ∧ p' = p ∨
    ∃ c s', r.resolve t.config p.schema = .ok (some c) ∧ c.apply p.schema = .ok s' ∧
      p' = ⟨p.changes ++ [c], s'⟩ := by
  rw [addRequest] at h
  by_cases hexcluded : r.isExcluded t.exclusions = true
  · rw [if_pos hexcluded] at h
    cases h
    exact .inl ⟨.inl hexcluded, rfl⟩
  rw [if_neg hexcluded] at h
  obtain ⟨change, hresolve, h⟩ := bind_eq_ok_iff.1 h
  cases change with
  | none =>
    cases h
    exact .inl ⟨.inr hresolve, rfl⟩
  | some c =>
    obtain ⟨s', hs', h⟩ := bind_eq_ok_iff.1 h
    cases h
    exact .inr ⟨c, s', hresolve, hs', rfl⟩

/-- A guarded request is idle once it has been taken into account. -/
theorem addRequest_idle (hp : p.schema.Tracked t.config names) (hr : ∀ a ∈ r.names, names a)
    (hguarded : r.isGuarded = true) (h : t.addRequest p r = .ok p') : t.Idle p'.schema r := by
  obtain ⟨hidle, rfl⟩ | ⟨c, s', hresolve, hs', rfl⟩ := addRequest_cases h
  · exact hidle
  · exact .inr (hp.resolve_eq_none hr hguarded hresolve hs')

/-- An idle request to drop a table stays idle when other tables are dropped. -/
theorem Idle.addRequest {name : TableName} (hname : ∀ a ∈ name.names, names a)
    (hp : p.schema.Tracked t.config names) (hr : ∀ a ∈ r.names, names a)
    (hdrop : ∃ other guarded, r = .dropTable other guarded)
    (hidle : t.Idle p.schema (.dropTable name true)) (h : t.addRequest p r = .ok p') :
    t.Idle p'.schema (.dropTable name true) := by
  have hp' := addRequest_tracked hp hr h
  obtain ⟨other, guarded, rfl⟩ := hdrop
  refine hidle.imp_right fun hnone => ?_
  obtain rfl | ⟨-, c, s', hresolve, hs', rfl⟩ := addRequest_eq_ok h
  · exact hnone
  · cases Request.resolve_eq_some_iff.1 hresolve with
    | dropTable ht => exact hp.resolve_dropTable_of_dropTable hp' hname hnone hs'

/-! ## Statements that are followed again -/

/-- Requests to drop tables are idle once they have all been taken into account, whatever tables
they name. -/
theorem addRequests_idle_of_drops (hp : p.schema.Tracked t.config names)
    (hrs : ∀ r ∈ rs, ∀ a ∈ r.names, names a) (hdrops : ∀ r ∈ rs, ∃ name, r = .dropTable name true)
    (h : rs.foldlM t.addRequest p = .ok p') : ∀ r ∈ rs, t.Idle p'.schema r := by
  induction rs generalizing p with
  | nil => simp
  | cons r rs ih =>
    rw [List.foldlM_cons, bind_eq_ok_iff] at h
    obtain ⟨m, hm, h⟩ := h
    rw [List.forall_mem_cons] at hrs hdrops ⊢
    obtain ⟨⟨name, rfl⟩, hdrops⟩ := hdrops
    have hm' := addRequest_tracked hp hrs.1 hm
    refine ⟨?_, ih hm' hrs.2 hdrops h⟩
    have hidle := addRequest_idle hp hrs.1 rfl hm
    refine (foldlM_induction (motive := fun q => q.schema.Tracked t.config names ∧
      t.Idle q.schema (.dropTable name true)) h ⟨hm', hidle⟩ fun q hq r hr q' hq' => ?_).2
    obtain ⟨other, rfl⟩ := hdrops r hr
    exact ⟨addRequest_tracked hq.1 (hrs.2 _ hr) hq',
      hq.2.addRequest hrs.1 hq.1 (hrs.2 _ hr) ⟨other, true, rfl⟩ hq'⟩

variable {selected : Option String} {statement : String} {changes : List Change} {t' : Tracker}

theorem commit_eq (h : t.prepare selected statement = .ok p) :
    t.commit p = { t with schema := p.schema } := by
  have hschema := commit_schema h
  rw [commit] at hschema ⊢
  split at hschema
  next hchanges => rw [if_pos hchanges, ← hschema]
  next hchanges => rw [if_neg hchanges]

/-- A statement whose requests are all idle has no changes. -/
theorem process_of_idle (hread : Statement.requests selected statement = .ok rs)
    (h : ∀ r ∈ rs, t.Idle t.schema r) : t.process selected statement = .ok ([], t) :=
  process_eq_ok_iff.2 ⟨⟨[], t.schema⟩,
    prepare_eq_ok_iff.2 ⟨rs, hread, addRequests_of_idle (p := ⟨[], t.schema⟩) h⟩, rfl, rfl⟩

/-- A guarded statement that has been followed has no changes when it is followed again. -/
theorem process_guarded (ht : t.schema.Tracked t.config names)
    (hnames : ∀ a ∈ Statement.names selected statement, names a)
    (hguarded : (Statement.isGuardedCreation statement || Statement.isGuardedDrop statement) = true)
    (h : t.process selected statement = .ok (changes, t')) :
    t'.process selected statement = .ok ([], t') := by
  obtain ⟨p, hp, -, rfl⟩ := process_eq_ok_iff.1 h
  obtain ⟨rs, hread, hfold⟩ := prepare_eq_ok_iff.1 hp
  have hrs : ∀ r ∈ rs, ∀ a ∈ r.names, names a :=
    fun r hr a ha => hnames a (Statement.mem_names hread hr ha)
  have hrequests : ∀ r ∈ rs, r.isGuarded = true := by
    rw [Bool.or_eq_true] at hguarded
    exact hguarded.elim (fun h => Statement.isGuarded_of_creation h hread)
      fun h r hr => (Statement.isGuarded_of_drop h hread r hr).1
  have hidle : ∀ r ∈ rs, t.Idle p.schema r := by
    obtain ⟨r, rfl⟩ | hdrops := Statement.requests_shape hread
    · rw [foldlM_singleton] at hfold
      rw [List.forall_mem_singleton] at hrs hrequests ⊢
      exact addRequest_idle ht hrs hrequests hfold
    · refine addRequests_idle_of_drops ht hrs (fun r hr => ?_) hfold
      obtain ⟨name, guarded, rfl⟩ := hdrops r hr
      obtain rfl : guarded = true := hrequests _ hr
      exact ⟨name, rfl⟩
  rw [commit_eq hp]
  exact process_of_idle hread hidle

end Tracker

/-! ## Dropping never fails -/

namespace Schema

variable {s s' : Schema} {a b : String} {t : Table}

/-- The databases of the schema have distinct names, and every table names its database. -/
structure Placed (s : Schema) : Prop where
  distinct : s.caseMode.Distinct s.databaseNames
  tables : s.AllTables fun database t => t.database = database

theorem WellFormed.placed (hs : s.WellFormed) : s.Placed :=
  ⟨hs.databases_distinct, fun d hd => (hs.databases d hd).database_eq⟩

namespace Placed

variable (hs : s.Placed)
include hs

theorem database?_name {d : Database} (hd : d ∈ s.databases) : s.database? d.name = some d := by
  obtain ⟨e, he⟩ : ∃ e, s.database? d.name = some e :=
    Option.isSome_iff_exists.1 (List.find?_isSome.2 ⟨d, hd, CaseMode.namesEqual_refl _ _⟩)
  obtain ⟨hmem, hname⟩ := mem_of_database? he
  rw [he, hs.distinct.eq_of_namesEqual hmem hd hname]

/-- A table that is found is found under the names that it is stored under, too. -/
theorem requireTable_place (h : s.requireTable a b = .ok t) :
    ∃ u, s.requireTable t.database t.name = .ok u := by
  obtain ⟨d, hd, ht⟩ := requireTable_eq_ok_iff.1 h
  have hd := (mem_of_database? hd).1
  have ht := (Database.mem_of_table? ht).1
  obtain ⟨u, hu⟩ : ∃ u, d.table? s.caseMode t.name = some u :=
    Option.isSome_iff_exists.1 (List.find?_isSome.2 ⟨t, ht, CaseMode.namesEqual_refl _ _⟩)
  refine ⟨u, requireTable_eq_ok_iff.2 ⟨d, ?_, hu⟩⟩
  rw [hs.tables d hd t ht]
  exact hs.database?_name hd

theorem takeTable (h : s.updateTable a b (fun _ => []) = .ok s') : s'.Placed := by
  have hsame := SameDatabases.of_updateTable h
  refine ⟨?_, hs.tables.takeTable h⟩
  rw [hsame.caseMode, hsame.databaseNames]
  exact hs.distinct

theorem removeDatabase (h : s.removeDatabase a = .ok s') : s'.Placed := by
  obtain ⟨front, d, back, hd, -, -, rfl⟩ := removeDatabase_eq_ok_iff.1 h
  have hdistinct := hs.distinct
  rw [databaseNames, hd, List.map_append, List.map_cons, CaseMode.Distinct.split_iff] at hdistinct
  refine ⟨?_, fun e he => hs.tables e ?_⟩
  · rw [databaseNames, List.map_append]
    exact hdistinct.1
  · rw [hd, List.mem_append, List.mem_cons]
    exact (List.mem_append.1 he).imp_right .inr

end Placed

end Schema

namespace Tracker

variable {t : Tracker} {names : String → Prop} {p : Prepared} {r : Request} {rs : List Request}
  {selected : Option String} {statement : String}

theorem addRequest_drop (hp : p.schema.Placed) (hguarded : r.isGuarded = true)
    (hdrop : r.isDrop = true) : ∃ p', t.addRequest p r = .ok p' ∧ p'.schema.Placed := by
  cases hexcluded : r.isExcluded t.exclusions with
  | true => exact ⟨p, addRequest_of_excluded hexcluded, hp⟩
  | false =>
    cases r with
    | dropDatabase database guarded =>
      obtain rfl : guarded = true := hguarded
      cases hd : p.schema.database? database with
      | none =>
        have hnone : (Request.dropDatabase database true).resolve t.config p.schema = .ok none :=
          Request.resolve_dropDatabase_of_none hd
        exact ⟨p, addRequest_of_none hexcluded hnone, hp⟩
      | some d =>
        have hname := hp.database?_name (Schema.mem_of_database? hd).1
        obtain ⟨s', hs'⟩ := Schema.removeDatabase_of_database? hname
        have hresolve : (Request.dropDatabase database true).resolve t.config p.schema =
            .ok (some (.dropDatabase d.name)) := Request.resolve_eq_some_iff.2 (.dropDatabase hd)
        exact ⟨_, addRequest_of_some hexcluded hresolve hs', hp.removeDatabase hs'⟩
    | dropTable name guarded =>
      obtain rfl : guarded = true := hguarded
      cases ht : p.schema.table? name.database name.table with
      | none =>
        have hnone : (Request.dropTable name true).resolve t.config p.schema = .ok none :=
          Request.resolve_dropTable_eq_none_iff.2 ht
        exact ⟨p, addRequest_of_none hexcluded hnone, hp⟩
      | some u =>
        rw [← Schema.requireTable_eq_ok_iff_table?] at ht
        obtain ⟨v, hv⟩ := hp.requireTable_place ht
        obtain ⟨s', hs'⟩ := Schema.updateTable_of_requireTable hv fun _ => []
        have hresolve : (Request.dropTable name true).resolve t.config p.schema =
            .ok (some (.dropTable u.database u.name)) :=
          Request.resolve_eq_some_iff.2 (.dropTable ht)
        exact ⟨_, addRequest_of_some hexcluded hresolve hs', hp.takeTable hs'⟩
    | createDatabase | alterDatabase | createTable | alterTable | renameTables => cases hdrop

/-- A guarded statement that drops databases or tables and can be read succeeds in a well-formed
schema. -/
theorem process_guardedDrop (ht : t.schema.WellFormed)
    (hdrop : Statement.isGuardedDrop statement = true)
    (hread : Statement.requests selected statement = .ok rs) :
    ∃ changes t', t.process selected statement = .ok (changes, t') := by
  have hrs := Statement.isGuarded_of_drop hdrop hread
  obtain ⟨p, hp⟩ : ∃ p, rs.foldlM t.addRequest ⟨[], t.schema⟩ = .ok p :=
    foldlM_succeeds (motive := fun p => p.schema.Placed) ht.placed
      fun p hp r hr => addRequest_drop hp (hrs r hr).1 (hrs r hr).2
  exact ⟨_, _, process_eq_ok_iff.2 ⟨p, prepare_eq_ok_iff.2 ⟨rs, hread, hp⟩, rfl, rfl⟩⟩

/-! ## Runs -/

/-- In every schema that a tracker reaches from the empty one, a guarded statement that succeeds has
no changes when it is followed again, and leaves the schema as it is.  In any well-formed schema a
guarded statement that drops databases or tables succeeds if only it can be read. -/
theorem run_twice (config : Config) (exclusions : Exclusions) (charset : String)
    (mode : CaseMode) (calls : List (Option String × String))
    (hcoherent : config.caseMode ≠ .sensitive → config.caseMode.Coherent names)
    (hcalls : config.caseMode ≠ .sensitive →
      ∀ call ∈ calls, ∀ a ∈ Statement.names call.1 call.2, names a) :
    let t := (start config exclusions (.empty charset mode)).run calls
    (∀ selected statement,
      (config.caseMode ≠ .sensitive → ∀ a ∈ Statement.names selected statement, names a) →
      (Statement.isGuardedCreation statement || Statement.isGuardedDrop statement) = true →
      ∀ changes t', t.process selected statement = .ok (changes, t') →
        t'.process selected statement = .ok ([], t')) ∧
    ∀ (u : Tracker) (selected : Option String) (statement : String), u.schema.WellFormed →
      Statement.isGuardedDrop statement = true →
        ((∃ changes u', u.process selected statement = .ok (changes, u')) ↔
          ∃ rs, Statement.requests selected statement = .ok rs) := by
  intro t
  refine ⟨fun selected statement hnames hguarded changes t' h => ?_,
    fun u selected statement hu hdrop =>
      ⟨?_, fun ⟨rs, hread⟩ => process_guardedDrop hu hdrop hread⟩⟩
  · have hconfig : t.config = config :=
      run_config (start config exclusions (.empty charset mode)) calls
    have ht : t.schema.Tracked t.config fun a => config.caseMode = .sensitive ∨ names a := by
      rw [hconfig]
      exact start_run_tracked config exclusions charset mode calls hcoherent hcalls
    refine process_guarded ht (fun a ha => ?_) hguarded h
    exact Decidable.or_iff_not_imp_left.2 fun hmode => hnames hmode a ha
  · rintro ⟨changes, u', h⟩
    obtain ⟨p, hp, -⟩ := process_eq_ok_iff.1 h
    obtain ⟨rs, hread, -⟩ := prepare_eq_ok_iff.1 hp
    exact ⟨rs, hread⟩

/-- A table is listed under two spellings, beside one of a database that is not there. -/
theorem run_twice_lowered :
    let t := (start ⟨.lowered, .never, "utf8mb4"⟩ .empty (.empty "utf8mb4" .lowered)).run
      [(none, "CREATE DATABASE Shop"), (some "SHOP", "CREATE TABLE Items (Id int)")]
    let statement := "DROP TABLE IF EXISTS ITEMS, Shop.items, Spare.Items"
    ∃ t', t.process (some "shop") statement = .ok ([.dropTable "shop" "items"], t') ∧
      t'.process (some "shop") statement = .ok ([], t') := by
  intro t statement
  obtain ⟨hagain, hdrop⟩ := run_twice ⟨.lowered, .never, "utf8mb4"⟩ .empty "utf8mb4" .lowered
    [(none, "CREATE DATABASE Shop"), (some "SHOP", "CREATE TABLE Items (Id int)")]
    (fun _ => CaseMode.coherent_isAscii .lowered) (fun _ => by decide +kernel)
  have hform : Statement.isGuardedDrop statement = true := by decide +kernel
  have hwellFormed : t.schema.WellFormed :=
    (start_run_tracked _ _ _ _ _ (fun _ => CaseMode.coherent_isAscii .lowered)
      (fun _ => by decide +kernel)).sound.wellFormed
  obtain ⟨changes, t', h⟩ := (hdrop t (some "shop") statement hwellFormed hform).2
    (isSome_toOption_iff.1 (by decide +kernel))
  have hchanges : (t.process (some "shop") statement).toOption.map Prod.fst =
      some [.dropTable "shop" "items"] := by decide +kernel
  rw [h] at hchanges
  obtain rfl : changes = [.dropTable "shop" "items"] := Option.some.inj hchanges
  have hnames : ∀ a ∈ Statement.names (some "shop") statement, Text.isAscii a = true := by
    decide +kernel
  exact ⟨t', h, hagain (some "shop") statement (fun _ => hnames) (by simp [hform]) _ t' h⟩

end Tracker

end SchemaTrail
