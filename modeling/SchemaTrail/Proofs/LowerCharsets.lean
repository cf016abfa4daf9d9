import SchemaTrail.Proofs.ColumnKinds
import SchemaTrail.Proofs.StatementCharsets
import SchemaTrail.Proofs.TrackerRuns

/-!
# Schemas with charsets in lower case

A column takes its charset from its declaration, from its table when it is added, or from a
conversion, and a table takes its charset from the statement or its database.  So in a schema where
all charsets are in lower case they stay so (`Change.CharsetsLower.apply`), and a change that is
resolved there is read back as it is written.
-/

namespace SchemaTrail

open Outcome

/-! ## Definitions -/

/-- The charset of a table and those of its columns are in lower case. -/
structure Table.CharsetsLower (t : Table) : Prop where
  charset : Text.IsLower t.charset
  columns : ∀ c ∈ t.columns.toList, c.CharsetLower

/-- The charset of a database and all charsets of its tables are in lower case. -/
structure Database.CharsetsLower (d : Database) : Prop where
  charset : Text.IsLower d.charset
  tables : ∀ t ∈ d.tables, t.CharsetsLower

/-- All charsets of a schema are in lower case. -/
structure Schema.CharsetsLower (s : Schema) : Prop where
  charset : Text.IsLower s.charset
  databases : ∀ d ∈ s.databases, d.CharsetsLower

/-- All charsets of a change are in lower case. -/
def Change.CharsetsLower : Change → Prop
  | .createDatabase _ charset | .alterDatabase _ charset _ => Text.IsLower charset
  | .createTable _ _ definition => definition.CharsetsLower
  | .alterTable _ _ old definition => old.CharsetsLower ∧ definition.CharsetsLower
  | .renameTables renames => ∀ r ∈ renames, r.definition.CharsetsLower
  | .dropDatabase _ | .dropTable _ _ => True

/-! ## Columns -/

theorem ColumnKind.lowered_inheritCharset {k : ColumnKind} (hk : k.lowered = k) {charset : String}
    (h : Text.IsLower charset) :
    (k.inheritCharset charset).lowered = k.inheritCharset charset := by
  cases k with
  | text size declared =>
    cases declared with
    | none => exact congrArg (fun s => text size (some s)) h
    | some s => exact hk
  | _ => rfl

theorem ColumnKind.lowered_convertCharset {k : ColumnKind} (hk : k.lowered = k) {charset : String}
    (h : Text.IsLower charset) :
    (k.convertCharset charset).lowered = k.convertCharset charset := by
  cases k with
  | text size declared =>
    show (if _ then _ else _ : ColumnKind).lowered = if _ then _ else _
    split
    · exact hk
    · exact congrArg (fun s => text size (some s)) h
  | _ => rfl

theorem ColumnEdit.CharsetLower.added {edit : ColumnEdit} (h : edit.CharsetLower) :
    ∀ c ∈ edit.added, c.CharsetLower := by
  cases edit with
  | add column _ _ | change _ column _ _ => exact List.forall_mem_singleton.2 h
  | remove _ _ | rename _ _ => exact List.forall_mem_nil _

theorem ColumnList.charsetLower_iff {l : ColumnList} :
    (∀ k ∈ l.kinds, k.lowered = k) ↔ ∀ c ∈ l.toList, c.CharsetLower :=
  forall_kinds_iff

/-- Numbering columns does not change their charsets. -/
theorem ColumnList.charsetLower_ofList {columns : List Column}
    (h : ∀ c ∈ columns, c.CharsetLower) : ∀ c ∈ (ofList columns).toList, c.CharsetLower := by
  refine charsetLower_iff.1 ?_
  rw [kinds_ofList]
  exact List.forall_mem_map.2 h

/-! ## Tables -/

namespace Table

variable {here : TableName} {t t' : Table}

theorem charsetsLower_create {database name charset : String} {columns : List Column}
    {primaryKey : List String} (hcharset : Text.IsLower charset)
    (hcolumns : ∀ c ∈ columns, c.CharsetLower) :
    (create database name charset columns primaryKey).CharsetsLower :=
  ⟨hcharset, ColumnList.charsetLower_ofList <| List.forall_mem_map.2 fun c hc =>
    ColumnKind.lowered_inheritCharset (hcolumns c hc) hcharset⟩

theorem CharsetsLower.convertTo (ht : t.CharsetsLower) {charset : String}
    (h : Text.IsLower charset) : (t.convertTo charset).CharsetsLower := by
  refine ⟨h, ColumnList.charsetLower_iff.1 ?_⟩
  rw [Table.convertTo, ColumnList.kinds_map (f := (·.convertCharset charset)) _ fun _ => rfl]
  exact List.forall_mem_map.2 fun k hk =>
    ColumnKind.lowered_convertCharset (ColumnList.charsetLower_iff.2 ht.columns k hk) h

theorem CharsetsLower.editColumns {edits : List ColumnEdit} (ht : t.CharsetsLower)
    (hedits : ∀ edit ∈ edits, edit.CharsetLower) (h : t.editColumns here edits = .ok t') :
    t'.CharsetsLower := by
  obtain ⟨hcharset, hkinds⟩ := kindsFrom_of_editColumns h
  refine ⟨hcharset ▸ ht.charset, ColumnList.charsetLower_iff.1 fun k hk => ?_⟩
  rcases List.mem_append.1 (hkinds hk) with hk | hk
  · exact ColumnList.charsetLower_iff.2 ht.columns k hk
  · obtain ⟨c, hc, rfl⟩ := List.mem_map.1 hk
    obtain ⟨edit, hedit, hc⟩ := List.mem_flatMap.1 hc
    exact ColumnKind.lowered_inheritCharset ((hedits edit hedit).added c hc) ht.charset

end Table

/-! ## Changes that are read back as they are -/

theorem Column.lowered_eq_self_iff {c : Column} : c.lowered = c ↔ c.CharsetLower :=
  ⟨fun h => congrArg Column.kind h, fun h => by rw [Column.lowered, h]⟩

theorem Table.lowered_eq_self_iff {t : Table} :
    t.lowered = t ↔ ∀ c ∈ t.columns.toList, c.CharsetLower := by
  have hcolumns : t.lowered = t ↔ t.columns.map Column.lowered = t.columns :=
    ⟨fun h => congrArg Table.columns h, fun h => by rw [Table.lowered, h]⟩
  have hposition : ∀ c : Column, c.lowered.position = c.position := fun _ => rfl
  rw [hcolumns, ColumnList.map_eq_self_iff _ hposition]
  exact forall₂_congr fun _ _ => Column.lowered_eq_self_iff

theorem Change.CharsetsLower.lowered_eq_self {c : Change} (h : c.CharsetsLower) :
    c.lowered = c := by
  cases c with
  | createTable database table definition =>
    exact congrArg _ (Table.lowered_eq_self_iff.2 h.columns)
  | alterTable database table old definition =>
    rw [Change.lowered, Table.lowered_eq_self_iff.2 h.1.columns,
      Table.lowered_eq_self_iff.2 h.2.columns]
  | renameTables renames =>
    have hmap : renames.map Rename.lowered = renames.map id := List.map_inj_left.2 fun r hr => by
      rw [Rename.lowered, Table.lowered_eq_self_iff.2 (h r hr).columns]
      rfl
    rw [Change.lowered, hmap, List.map_id]
  | _ => rfl

/-! ## Applying -/

namespace Schema.CharsetsLower

variable {s s' : Schema} (hs : s.CharsetsLower) {database table : String}
include hs

theorem updateDatabase {change : Database → Except InvariantError Database}
    (h : s.updateDatabase database change = .ok s')
    (hchange : ∀ d, d.CharsetsLower → ∀ d', change d = .ok d' → d'.CharsetsLower) :
    s'.CharsetsLower := by
  refine ⟨?_, forall_updateDatabase h hs.databases fun d hd _ => hchange d (hs.databases d hd)⟩
  obtain ⟨_, _, _, _, _, _, _, _, rfl⟩ := updateDatabase_eq_ok_iff.1 h
  exact hs.charset

theorem updateTable {change : Table → List Table} (h : s.updateTable database table change = .ok s')
    (hchange : ∀ t, ∀ u ∈ change t, u.CharsetsLower) : s'.CharsetsLower :=
  hs.updateDatabase h fun d hd d' hd' => by
    obtain ⟨-, hcharset, htables⟩ :=
      Database.forall_updateTable hd' hd.tables fun t _ => hchange t
    exact ⟨hcharset ▸ hd.charset, htables⟩

theorem addTable {t : Table} (ht : t.CharsetsLower) (h : s.addTable t = .ok s') :
    s'.CharsetsLower :=
  hs.updateDatabase h fun d hd d' hd' => by
    cases hd'
    refine ⟨hd.charset, ?_⟩
    rw [Database.addTable, List.forall_mem_append, List.forall_mem_singleton]
    exact ⟨hd.tables, ht⟩

theorem replaceTable {new : Table} (hnew : new.CharsetsLower)
    (h : s.replaceTable database table new = .ok s') : s'.CharsetsLower := by
  obtain ⟨-, -, h⟩ := replaceTable_eq_ok_iff.1 h
  split at h
  · exact hs.updateTable h fun _ _ hu => List.mem_singleton.1 hu ▸ hnew
  · obtain ⟨-, without, hwithout, h⟩ := h
    exact (hs.updateTable hwithout fun _ _ hu => absurd hu List.not_mem_nil).addTable hnew h

omit hs in
theorem setTableCharset {charset : String} (hcharset : Text.IsLower charset) {d d' : Database}
    (hd : d.CharsetsLower) (h : s.setTableCharset database charset d table = .ok d') :
    d'.CharsetsLower := by
  obtain ⟨-, hsame, htables⟩ := Database.forall_updateTable h hd.tables fun t ht u hu =>
    List.mem_singleton.1 hu ▸ ⟨hcharset, (hd.tables t ht).columns⟩
  exact ⟨hsame ▸ hd.charset, htables⟩

/-- Applying a change with charsets in lower case keeps the charsets of a schema in lower case. -/
theorem apply {c : Change} (hc : c.CharsetsLower) (h : c.apply s = .ok s') : s'.CharsetsLower := by
  cases c with
  | createDatabase database charset =>
    rw [Change.apply] at h
    split at h
    · cases h
    · cases h
      refine ⟨hs.charset, ?_⟩
      rw [Schema.addDatabase, List.forall_mem_append, List.forall_mem_singleton]
      exact ⟨hs.databases, hc, by simp⟩
  | alterDatabase database charset tables =>
    refine hs.updateDatabase h fun d hd d' hd' => ?_
    exact foldlM_induction (motive := Database.CharsetsLower) hd' ⟨hc, hd.tables⟩
      fun _ hb _ _ _ h => setTableCharset hc hb h
  | dropDatabase database =>
    obtain ⟨front, d, back, hd, -, -, rfl⟩ := removeDatabase_eq_ok_iff.1 h
    refine ⟨hs.charset, fun e he => hs.databases e ?_⟩
    rw [hd, List.mem_append, List.mem_cons]
    exact (List.mem_append.1 he).imp_right .inr
  | createTable database table definition => exact hs.addTable hc (insertTable_eq_ok_iff.1 h).2
  | alterTable database table old definition => exact hs.replaceTable hc.2 h
  | dropTable database table => exact hs.updateTable h fun _ _ hu => absurd hu List.not_mem_nil
  | renameTables renames =>
    exact foldlM_induction (motive := Schema.CharsetsLower) h hs
      fun _ hs r hr _ h => hs.replaceTable (hc r hr) h

end Schema.CharsetsLower

/-! ## Resolving -/

section Resolving

variable {s : Schema} (hs : s.CharsetsLower) {config : Config}
include hs

theorem Schema.CharsetsLower.of_database? {name : String} {d : Database}
    (h : s.database? name = some d) : d.CharsetsLower :=
  hs.databases d (Schema.mem_of_database? h).1

theorem Schema.CharsetsLower.of_requireTable {database table : String} {t : Table}
    (h : s.requireTable database table = .ok t) : t.CharsetsLower := by
  obtain ⟨d, hd, ht⟩ := Schema.requireTable_eq_ok_iff.1 h
  exact (hs.of_database? hd).tables t (Database.mem_of_table? ht).1

namespace Request

theorem newTable_charsetsLower {d : Database} (hd : d.CharsetsLower) {written : TableName}
    {source : TableSource} (hsource : source.CharsetsLower) {charset : Option String}
    (hcharset : ∀ s ∈ charset, Text.IsLower s) {t : Table}
    (h : newTable config s d written source charset = .ok t) : t.CharsetsLower := by
  cases source with
  | like other =>
    obtain ⟨u, hu, rfl⟩ := newTable_like_eq_ok_iff.1 h
    have hu := hs.of_requireTable hu
    exact ⟨hu.charset, hu.columns⟩
  | columns columns primaryKey =>
    obtain ⟨-, rfl⟩ := newTable_columns_eq_ok_iff.1 h
    refine Table.charsetsLower_create ?_ hsource
    cases charset with
    | none => exact hd.charset
    | some charset => exact hcharset charset rfl

omit hs in
theorem renamedTable_charsetsLower {old renamed : Table} (hold : old.CharsetsLower)
    {newName : Option TableName} (h : renamedTable config s old newName = .ok renamed) :
    renamed.CharsetsLower := by
  cases newName with
  | none =>
    cases h
    exact hold
  | some written =>
    have h := renamedTable_some_eq_ok_iff.1 h
    split at h
    · subst h
      exact hold
    · obtain ⟨place, -, rfl⟩ := h
      exact ⟨hold.charset, hold.columns⟩

omit hs in
theorem editedTable_charsetsLower {old new : Table} (hold : old.CharsetsLower) {edit : TableEdit}
    (hedit : edit.CharsetsLower) (h : editedTable config s old edit = .ok new) :
    new.CharsetsLower := by
  obtain ⟨renamed, hrenamed, edited, hedited, rfl⟩ := editedTable_eq_ok_iff.1 h
  have hmoved := renamedTable_charsetsLower hold hrenamed
  have hrecharged : Table.CharsetsLower
      { renamed with charset := edit.charset.getD renamed.charset } := by
    refine ⟨?_, hmoved.columns⟩
    cases hcharset : edit.charset with
    | none => exact hmoved.charset
    | some charset => exact hedit.charset charset hcharset
  have hedited := hrecharged.editColumns hedit.columns hedited
  have hconverted : (edit.convertTo.elim edited edited.convertTo).CharsetsLower := by
    cases hconvertTo : edit.convertTo with
    | none => exact hedited
    | some charset => exact hedited.convertTo (hedit.convertTo charset hconvertTo)
  exact ⟨hconverted.charset, hconverted.columns⟩

omit hs in
theorem resolveRenames_charsetsLower {renames : List (TableName × TableName)}
    {resolved : List Rename} (hs : s.CharsetsLower)
    (h : resolveRenames config s renames = .ok resolved) :
    ∀ r ∈ resolved, r.definition.CharsetsLower := by
  induction renames generalizing s resolved with
  | nil =>
    cases h
    simp
  | cons p renames ih =>
    obtain ⟨r, hr, next, hnext, others, hothers, rfl⟩ := resolveRenames_cons_eq_ok_iff.1 h
    have hdefinition : r.definition.CharsetsLower := by
      obtain ⟨t, ht, place, -, rfl⟩ := resolveRename_eq_ok_iff.1 hr
      have ht := hs.of_requireTable ht
      exact ⟨ht.charset, ht.columns⟩
    exact List.forall_mem_cons.2 ⟨hdefinition, ih (hs.replaceTable hdefinition hnext) hothers⟩

/-- What a request with charsets in lower case resolves to has its charsets in lower case. -/
theorem resolve_charsetsLower {r : Request} (hr : r.CharsetsLower) {c : Change}
    (h : r.resolve config s = .ok (some c)) : c.CharsetsLower := by
  cases resolve_eq_some_iff.1 h with
  | @createDatabase database charset guarded hnew =>
    cases charset with
    | none => exact hs.charset
    | some charset => exact hr charset rfl
  | alterDatabase hd => exact hr _ rfl
  | dropDatabase hd => exact trivial
  | createTable hd hnew ht => exact newTable_charsetsLower hs (hs.of_database? hd) hr.1 hr.2 ht
  | alterTable hold hnew =>
    have hold := hs.of_requireTable hold
    exact ⟨hold, editedTable_charsetsLower hold hr hnew⟩
  | dropTable ht => exact trivial
  | renameTables hresolved => exact resolveRenames_charsetsLower hs hresolved

end Request

end Resolving

end SchemaTrail
