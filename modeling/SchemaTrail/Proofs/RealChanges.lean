import SchemaTrail.Proofs.GuardedStatements
import SchemaTrail.Proofs.PassedOver
import SchemaTrail.Proofs.RecorderRuns

/-!
# Changes that are recorded

A statement is recorded unless all of its requests are idle, and then it adds one entry.  What
creates or drops something always makes another schema of the one before it.  But an alteration is
recorded even if it leads to the same schema, as that of a table does where nothing but indexes are
asked for (`Recorder.record_changes`).
-/

namespace SchemaTrail

open Outcome

/-! ## Changes that lead to the same schema -/

namespace Change

variable {s s' : Schema} {c : Change}

/-- Whether a change alters what is there, so that nothing is created or dropped. -/
def isAlteration : Change → Bool
  | .alterDatabase .. | .alterTable .. | .renameTables _ => true
  | .createDatabase .. | .dropDatabase _ | .createTable .. | .dropTable .. => false

theorem length_entries_of_dropTable {database table : String}
    (h : (dropTable database table).apply s = .ok s') :
    s'.entries.length + 1 = s.entries.length := by
  obtain ⟨d, t, -, -, front, back, hentries, hentries'⟩ := Schema.entries_updateTable h
  rw [hentries, hentries']
  simp only [List.map_nil, List.append_nil, List.length_append, List.length_cons]
  omega

/-- Only an alteration can lead to the schema that was there before. -/
theorem isAlteration_of_apply_eq_self (h : c.apply s = .ok s) : c.isAlteration = true := by
  cases c with
  | createDatabase database charset =>
    rw [apply] at h
    split at h
    · cases h
    · have hlength := congrArg (fun s => s.databases.length) (Except.ok.inj h)
      simp [Schema.addDatabase] at hlength
  | dropDatabase database =>
    obtain ⟨front, d, back, hd, -, -, hs⟩ := Schema.removeDatabase_eq_ok_iff.1 h
    have hlength := congrArg List.length (hd.symm.trans (congrArg Schema.databases hs))
    simp at hlength
  | createTable database table definition =>
    obtain ⟨d, -, hentries⟩ := Schema.entries_addTable (Schema.insertTable_eq_ok_iff.1 h).2
    have hlength := hentries.length_eq
    simp at hlength
  | dropTable database table =>
    have hlength := length_entries_of_dropTable h
    omega
  | alterDatabase | alterTable | renameTables => rfl

/-- To alter a table that is not renamed leads to the same schema if the table that is stored is the
new one already. -/
theorem apply_alterTable_eq_self_iff {config : Config} {edit : TableEdit} {old new : Table}
    (hnew : Request.editedTable config s old edit = .ok new) (hstay : edit.newName = none) :
    (alterTable old.database old.name old new).apply s = .ok s ↔
      s.requireTable old.database old.name = .ok new := by
  obtain ⟨renamed, hrenamed, hsame⟩ := Request.editedTable_samePlace hnew
  rw [hstay] at hrenamed
  cases hrenamed
  rw [apply, ← hsame.database, ← hsame.name, Schema.replaceTable_own_eq_ok_iff,
    Schema.updateTable_eq_self_iff]
  exact ⟨And.right, fun h => ⟨⟨new, h⟩, h⟩⟩

end Change

/-! ## Changes of a statement -/

namespace Tracker

variable {t : Tracker} {p p' : Prepared} {rs : List Request} {selected : Option String}
  {statement : String}

theorem addRequests_extend_changes (h : rs.foldlM t.addRequest p = .ok p') :
    p.changes <+: p'.changes := by
  refine foldlM_induction (motive := fun q => p.changes <+: q.changes) h (List.prefix_refl _)
    fun q hq r _ q' hq' => ?_
  obtain ⟨-, rfl⟩ | ⟨c, s', -, -, rfl⟩ := addRequest_cases hq'
  · exact hq
  · exact hq.trans (List.prefix_append _ _)

/-- Requests that add no changes are all idle. -/
theorem idle_of_addRequests (h : rs.foldlM t.addRequest p = .ok p')
    (hchanges : p'.changes = p.changes) : ∀ r ∈ rs, t.Idle p.schema r := by
  induction rs with
  | nil => simp
  | cons r rs ih =>
    rw [List.foldlM_cons, bind_eq_ok_iff] at h
    obtain ⟨m, hm, h⟩ := h
    obtain ⟨hidle, rfl⟩ | ⟨c, s', -, -, rfl⟩ := addRequest_cases hm
    · exact List.forall_mem_cons.2 ⟨hidle, ih h⟩
    · have hlength := (addRequests_extend_changes h).length_le
      rw [hchanges, List.length_append, List.length_singleton] at hlength
      omega

theorem changes_eq_nil_iff (hread : Statement.requests selected statement = .ok rs)
    (h : t.prepare selected statement = .ok p) :
    p.changes = [] ↔ ∀ r ∈ rs, t.Idle t.schema r := by
  obtain ⟨rs', hread', hfold⟩ := prepare_eq_ok_iff.1 h
  cases hread.symm.trans hread'
  refine ⟨fun hnil => idle_of_addRequests hfold hnil, fun hidle => ?_⟩
  cases (addRequests_of_idle (p := ⟨[], t.schema⟩) hidle).symm.trans hfold
  rfl

/-- Each table that is dropped is missing in the end. -/
theorem length_entries_of_drops (hdrops : ∀ r ∈ rs, ∃ name guarded, r = .dropTable name guarded)
    (h : rs.foldlM t.addRequest ⟨[], t.schema⟩ = .ok p) :
    p.schema.entries.length + p.changes.length = t.schema.entries.length := by
  refine foldlM_induction (motive := fun q =>
    q.schema.entries.length + q.changes.length = t.schema.entries.length) h rfl
    fun q hq r hr q' hq' => ?_
  obtain ⟨name, guarded, rfl⟩ := hdrops r hr
  obtain ⟨-, rfl⟩ | ⟨c, s', hresolve, hs', rfl⟩ := addRequest_cases hq'
  · exact hq
  · cases Request.resolve_eq_some_iff.1 hresolve with
    | dropTable ht =>
      have hlength := Change.length_entries_of_dropTable hs'
      dsimp only
      rw [List.length_append, List.length_singleton]
      omega

/-- A statement that leads to the schema that was there before has no changes, or one request, for
an alteration. -/
theorem prepare_schema_eq_self (h : t.prepare selected statement = .ok p)
    (hsame : p.schema = t.schema) : p.changes = [] ∨
      ∃ r c, Statement.requests selected statement = .ok [r] ∧
        r.resolve t.config t.schema = .ok (some c) ∧ c.isAlteration = true ∧
          c.apply t.schema = .ok t.schema ∧ p.changes = [c] := by
  obtain ⟨rs, hread, hfold⟩ := prepare_eq_ok_iff.1 h
  obtain ⟨r, rfl⟩ | hdrops := Statement.requests_shape hread
  · rw [foldlM_singleton] at hfold
    obtain ⟨-, rfl⟩ | ⟨c, s', hresolve, hs', rfl⟩ := addRequest_cases hfold
    · exact .inl rfl
    · cases hsame
      exact .inr ⟨r, c, hread, hresolve, Change.isAlteration_of_apply_eq_self hs', hs', rfl⟩
  · have hlength := length_entries_of_drops hdrops hfold
    rw [hsame] at hlength
    exact .inl (List.length_eq_zero_iff.1 (by omega))

end Tracker

/-! ## Entries -/

namespace Recorder

/-- A statement that is followed at a position after all others adds one entry to the ledger, unless
all of its requests are idle, and then there is none; so there is one where the schema becomes
another.  A statement that leads to the same schema and is recorded all the same has one request,
for an alteration.  That of a table that is not renamed leads to the same schema if the table that
is stored is the altered one already, and is always recorded. -/
theorem record_changes (r : Recorder) (now : Timestamp) (s : LoggedStatement) {p : Prepared}
    {rs : List Request} (hcheck : r.ledger.check s.position = .ok ())
    (hread : Statement.requests s.database s.statement = .ok rs)
    (hprepare : r.tracker.prepare s.database s.statement = .ok p) :
    let t := r.tracker
    let e := s.entry now p.changes
    let recorded := r.record now s = .ok (some e, r.recorded e p.schema) ∧
      (r.recorded e p.schema).ledger.entries = r.ledger.entries ++ [e]
    ((∀ q ∈ rs, t.Idle t.schema q) → p.schema = t.schema ∧ r.record now s = .ok (none, r)) ∧
    ((¬∀ q ∈ rs, t.Idle t.schema q) → recorded) ∧
    (p.schema ≠ t.schema → recorded) ∧
    (p.schema = t.schema → r.record now s = .ok (none, r) ∨
      recorded ∧ ∃ q c, rs = [q] ∧ q.resolve t.config t.schema = .ok (some c) ∧
        c.isAlteration = true ∧ c.apply t.schema = .ok t.schema) ∧
    ∀ name edit old new, rs = [.alterTable name edit] → edit.newName = none →
      t.exclusions.hasTable name.database name.table = false →
      t.schema.requireTable name.database name.table = .ok old →
      Request.editedTable t.config t.schema old edit = .ok new →
        recorded ∧
          (p.schema = t.schema ↔ t.schema.requireTable old.database old.name = .ok new) := by
  intro t e recorded
  have hnil := Tracker.changes_eq_nil_iff hread hprepare
  have hnone : p.changes = [] → p.schema = t.schema ∧ r.record now s = .ok (none, r) := by
    intro h
    have happly := Tracker.applyAll_of_prepare hprepare
    rw [h] at happly
    refine ⟨(Except.ok.inj happly).symm, ?_⟩
    rw [record_eq, hcheck, hprepare]
    dsimp only
    rw [h]
    rfl
  have hsome : p.changes ≠ [] → recorded := by
    intro h
    refine ⟨?_, rfl⟩
    rw [record_eq, hcheck, hprepare]
    dsimp only
    rw [if_neg (by simpa using h)]
  refine ⟨fun hidle => hnone (hnil.2 hidle), fun hidle => hsome fun h => hidle (hnil.1 h),
    fun hother => hsome fun h => hother (hnone h).1, fun hsame => ?_, ?_⟩
  · by_cases hchanges : p.changes = []
    · exact .inl (hnone hchanges).2
    · obtain h | ⟨q, c, hq, hresolve, halteration, happly, -⟩ :=
        Tracker.prepare_schema_eq_self hprepare hsame
      · exact absurd h hchanges
      · cases hread.symm.trans hq
        exact .inr ⟨hsome hchanges, q, c, rfl, hresolve, halteration, happly⟩
  · rintro name edit old new rfl hstay hexcluded hold hnew
    have hresolve : (Request.alterTable name edit).resolve t.config t.schema =
        .ok (some (.alterTable old.database old.name old new)) :=
      Request.resolve_eq_some_iff.2 (.alterTable hold hnew)
    have hadd := (Tracker.prepare_singleton_iff hread).1 hprepare
    rw [Tracker.addRequest_of_resolve (r := .alterTable name edit) hexcluded hresolve,
      map_eq_ok_iff] at hadd
    obtain ⟨s', hs', rfl⟩ := hadd
    refine ⟨hsome (by simp), ?_⟩
    rw [← Change.apply_alterTable_eq_self_iff hnew hstay, hs', Except.ok.injEq]

/-- A column is given the definition and the place that it has. -/
theorem record_changes_modified :
    let table : Table := .create "d" "t" "utf8mb4" [⟨"a", .integer .regular true, 0⟩] []
    let base : Schema := ⟨"utf8mb4", .sensitive, [⟨"d", "utf8mb4", [table]⟩]⟩
    let r := started base .standard
    let s : LoggedStatement := ⟨⟨"b.1", 1⟩, none, "ALTER TABLE d.t MODIFY a int FIRST"⟩
    let e := s.entry .epoch [.alterTable "d" "t" table table]
    r.record .epoch s = .ok (some e, r.recorded e base) := by
  intro table base r s e
  have hread : Statement.requests s.database s.statement = .ok [.alterTable ⟨"d", "t"⟩
      ⟨[.change "a" ⟨"a", .integer .regular true, 0⟩ .first false], none, none, none, none⟩] :=
    toOption_eq_some_iff.1 (by decide +kernel)
  have hprepare : r.tracker.prepare s.database s.statement =
      .ok ⟨[.alterTable "d" "t" table table], base⟩ := toOption_eq_some_iff.1 (by decide +kernel)
  obtain ⟨-, -, -, -, halter⟩ := record_changes r .epoch s rfl hread hprepare
  exact (halter _ _ table table rfl rfl rfl rfl (toOption_eq_some_iff.1 (by decide +kernel))).1.1

/-- A statement that asks for an index only is recorded, and leads to the same schema. -/
theorem record_index :
    let table : Table := .create "d" "t" "utf8mb4" [⟨"a", .integer .regular true, 0⟩] []
    let base : Schema := ⟨"utf8mb4", .sensitive, [⟨"d", "utf8mb4", [table]⟩]⟩
    let r := started base .standard
    let s : LoggedStatement := ⟨⟨"b.1", 1⟩, none, "ALTER TABLE d.t ADD INDEX i (a)"⟩
    ∃ e r', r.record .epoch s = .ok (some e, r') ∧
      e.changes = [.alterTable "d" "t" table table] ∧ r'.tracker.schema = r.tracker.schema ∧
        r'.ledger.entries = r.ledger.entries ++ [e] := by
  intro table base r s
  have hcheck : r.ledger.check s.position = .ok () := rfl
  have hprepare : r.tracker.prepare s.database s.statement =
      .ok ⟨[.alterTable "d" "t" table table], base⟩ := toOption_eq_some_iff.1 (by decide +kernel)
  have hrecord : r.record .epoch s =
      .ok (some (s.entry .epoch [.alterTable "d" "t" table table]),
        r.recorded (s.entry .epoch [.alterTable "d" "t" table table]) base) := by
    rw [record_eq, hcheck, hprepare]
    rfl
  exact ⟨_, _, hrecord, rfl, rfl, rfl⟩

end Recorder

end SchemaTrail
