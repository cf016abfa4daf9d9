import SchemaTrail.Proofs.LowerCharsets

/-!
# Changes that are recorded

A schema that is read from a document has the charsets of its columns in lower case.  If its other
charsets are so, too, then every change that a tracker finds from there on is read back from its
text as it is (`process_changes_readBack`).  Otherwise a column may inherit a charset that is not in
lower case, and is read back with another one.
-/

namespace SchemaTrail

/-! ## Schemas that are read -/

/-- The charsets that are inherited in a schema, those of the schema, its databases and its tables,
are in lower case. -/
structure Schema.DefaultsLower (s : Schema) : Prop where
  charset : Text.IsLower s.charset
  databases : ∀ d ∈ s.databases, Text.IsLower d.charset ∧ ∀ t ∈ d.tables, Text.IsLower t.charset

/-- The charsets of all columns of a schema are in lower case. -/
def Schema.ColumnsLower (s : Schema) : Prop :=
  ∀ d ∈ s.databases, ∀ t ∈ d.tables, ∀ c ∈ t.columns.toList, c.CharsetLower

theorem Schema.charsetsLower_iff {s : Schema} :
    s.CharsetsLower ↔ s.DefaultsLower ∧ s.ColumnsLower := by
  constructor
  · exact fun h => ⟨⟨h.charset, fun d hd => ⟨(h.databases d hd).charset,
      fun t ht => ((h.databases d hd).tables t ht).charset⟩⟩,
      fun d hd t ht => ((h.databases d hd).tables t ht).columns⟩
  · exact fun ⟨hdefaults, hcolumns⟩ => ⟨hdefaults.charset, fun d hd =>
      ⟨(hdefaults.databases d hd).1, fun t ht =>
        ⟨(hdefaults.databases d hd).2 t ht, hcolumns d hd t ht⟩⟩⟩

/-- What holds of everything that is read holds of all elements of a list that is read. -/
theorem Json.forall_of_list? {α : Type} {read : Json → Option α} {P : α → Prop}
    (hread : ∀ j a, read j = some a → P a) {j : Json} {as : List α}
    (h : j.list? read = some as) : ∀ a ∈ as, P a := by
  cases j with
  | array items =>
    rw [list?] at h
    induction items generalizing as with
    | nil =>
      cases h
      simp
    | cons x xs ih =>
      rw [List.mapM_cons] at h
      obtain ⟨a, ha, h⟩ := Option.bind_eq_some_iff.1 h
      obtain ⟨others, hothers, h⟩ := Option.bind_eq_some_iff.1 h
      cases h
      exact List.forall_mem_cons.2 ⟨hread x a ha, ih hothers⟩
  | _ => cases h

theorem Record.of_required? {α : Type} {r : Record} {name : String} {read : Json → Option α}
    {a : α} (h : r.required? name read = some a) : ∃ j, read j = some a := by
  obtain ⟨j, -, hj⟩ := Option.bind_eq_some_iff.1 h
  exact ⟨j, hj⟩

theorem Record.of_orElse? {α : Type} {r : Record} {name : String} {missing : α}
    {read : Json → Option α} {a : α} (h : r.orElse? name missing read = some a) :
    a = missing ∨ ∃ j, read j = some a := by
  rw [orElse?] at h
  split at h
  · exact .inl (Option.some.inj h).symm
  · exact .inr ⟨_, h⟩

theorem Column.charsetLower_of_ofJson? {j : Json} {c : Column} (h : ofJson? j = some c) :
    c.CharsetLower := by
  simp only [ofJson?, Option.bind_eq_bind, Option.bind_eq_some_iff] at h
  obtain ⟨_, -, _, -, _, -, _, -, _, -, _, -, _, -, h⟩ := h
  exact Column.charsetLower_of_declare (Outcome.toOption_eq_some_iff.1 h)

theorem Table.columnsLower_of_ofJson? {j : Json} {t : Table} (h : ofJson? j = some t) :
    ∀ c ∈ t.columns.toList, c.CharsetLower := by
  simp only [ofJson?, Option.bind_eq_bind, Option.bind_eq_some_iff] at h
  obtain ⟨_, -, _, -, _, -, _, -, _, -, columns, hcolumns, h⟩ := h
  cases h
  obtain ⟨j, hj⟩ := Record.of_required? hcolumns
  obtain ⟨cs, hcs, rfl⟩ := Option.map_eq_some_iff.1 hj
  exact ColumnList.charsetLower_ofList <|
    Json.forall_of_list? (fun _ _ => Column.charsetLower_of_ofJson?) hcs

theorem Database.columnsLower_of_ofJson? {j : Json} {d : Database} (h : ofJson? j = some d) :
    ∀ t ∈ d.tables, ∀ c ∈ t.columns.toList, c.CharsetLower := by
  simp only [ofJson?, Option.bind_eq_bind, Option.bind_eq_some_iff] at h
  obtain ⟨_, -, _, -, _, -, tables, htables, h⟩ := h
  cases h
  rcases Record.of_orElse? htables with rfl | ⟨j, hj⟩
  · simp
  · exact Json.forall_of_list? (fun _ _ => Table.columnsLower_of_ofJson?) hj

/-- The columns of a schema that is read have their charsets in lower case. -/
theorem Schema.columnsLower_of_ofJson? {j : Json} {s : Schema} (h : ofJson? j = some s) :
    s.ColumnsLower := by
  simp only [ofJson?, Option.bind_eq_bind, Option.bind_eq_some_iff] at h
  obtain ⟨_, -, _, -, _, -, databases, hdatabases, h⟩ := h
  cases h
  rcases Record.of_orElse? hdatabases with rfl | ⟨j, hj⟩
  · simp [ColumnsLower]
  · exact Json.forall_of_list? (fun _ _ => Database.columnsLower_of_ofJson?) hj

/-! ## Runs -/

namespace Tracker

variable {t : Tracker}

theorem start_charsetsLower {j : Json} {base : Schema} (hbase : Schema.ofJson? j = some base)
    (hdefaults : base.DefaultsLower) (config : Config) (exclusions : Exclusions) :
    (start config exclusions base).schema.CharsetsLower := by
  have hlower := Schema.charsetsLower_iff.2 ⟨hdefaults, Schema.columnsLower_of_ofJson? hbase⟩
  exact ⟨hlower.charset, hlower.databases⟩

theorem run_charsetsLower (ht : t.schema.CharsetsLower) (calls : List (Option String × String)) :
    (t.run calls).schema.CharsetsLower :=
  run_induction ht fun _ _ _ hrs _ hs r hr _ _ hresolve happly =>
    hs.apply (Request.resolve_charsetsLower hs (Statement.requests_charsetsLower hrs r hr) hresolve)
      happly

theorem prepare_charsetsLower (ht : t.schema.CharsetsLower) {selected : Option String}
    {statement : String} {p : Prepared} (h : t.prepare selected statement = .ok p) :
    p.schema.CharsetsLower ∧ ∀ c ∈ p.changes, c.CharsetsLower := by
  obtain ⟨rs, hrs, h⟩ := prepare_eq_ok_iff.1 h
  refine addRequests_induction h ⟨ht, by simp⟩ fun s hs r hr c s' hresolve happly => ?_
  have hc := Request.resolve_charsetsLower hs (Statement.requests_charsetsLower hrs r hr) hresolve
  exact ⟨hs.apply hc happly, hc⟩

/-- Every change that a tracker finds is read back from its text with the charsets of its columns in
lower case.  That is the change itself, and has the same text, exactly if they are so already; and
they are if the schema that was read at the start had its inherited charsets in lower case. -/
theorem process_changes_readBack {j : Json} {base : Schema} (hbase : Schema.ofJson? j = some base)
    (config : Config) (exclusions : Exclusions) (calls : List (Option String × String))
    (selected : Option String) (statement : String) {changes : List Change} {t : Tracker}
    (h : ((start config exclusions base).run calls).process selected statement =
      .ok (changes, t)) :
    ∀ c ∈ changes, Change.ofText? c.text = some c.lowered ∧
      (Change.ofText? c.text = some c ↔ c.lowered = c) ∧
      (c.lowered.text = c.text ↔ c.lowered = c) ∧
      (base.DefaultsLower → c.lowered = c) := by
  intro c hc
  obtain ⟨hread, htext⟩ := c.ofText?_text_eq_self_iff
  refine ⟨c.ofText?_text, hread, htext, fun hdefaults => ?_⟩
  obtain ⟨p, hp, hprocess⟩ := Outcome.map_eq_ok_iff.1 h
  cases hprocess
  have hstart := start_charsetsLower hbase hdefaults config exclusions
  exact ((prepare_charsetsLower (run_charsetsLower hstart calls) hp).2 c hc).lowered_eq_self

/-- A column that inherits a charset in upper case is read back with another. -/
theorem process_changes_upper :
    let base : Schema := ⟨"UTF8MB4", .sensitive, []⟩
    let definition : Table := ⟨"d", "t", "UTF8MB4", [],
      .ofList [⟨"c", .text .varying (some "UTF8MB4"), 0⟩]⟩
    let c := Change.createTable "d" "t" definition
    ((start .standard .empty base).run [(none, "CREATE DATABASE d")]).process none
        "CREATE TABLE d.t (c varchar(5))" =
      .ok ([c], ⟨.standard, .empty, { base with databases := [⟨"d", "UTF8MB4", [definition]⟩] }⟩) ∧
    Change.ofText? c.text ≠ some c ∧ c.lowered.text ≠ c.text := by
  intro base definition c
  have hbase : Schema.ofJson? (.object [("charset", .string "UTF8MB4")]) = some base := rfl
  have hprocess : ((start .standard .empty base).run [(none, "CREATE DATABASE d")]).process none
      "CREATE TABLE d.t (c varchar(5))" = .ok ([c], ⟨.standard, .empty,
        { base with databases := [⟨"d", "UTF8MB4", [definition]⟩] }⟩) :=
    Outcome.toOption_eq_some_iff.1 (by decide +kernel)
  have hread := process_changes_readBack hbase _ _ _ _ _ hprocess c List.mem_cons_self
  have hne : c.lowered ≠ c := by decide
  exact ⟨hprocess, fun h => hne (hread.2.1.1 h), fun h => hne (hread.2.2.1.1 h)⟩

end Tracker

end SchemaTrail
