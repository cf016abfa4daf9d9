import SchemaTrail.Proofs.ColumnKinds
import SchemaTrail.Proofs.TrackerRuns

/-!
# Charsets of tracked columns

A table gives its charset to every column of texts that is added without one.  So in a schema that a
tracker reaches from the empty one, no column takes a charset from its table any more
(`Tracker.start_run_hasCharsets`).
-/

namespace SchemaTrail

open Outcome

/-! ## Kinds that have a charset -/

namespace ColumnKind

/-- A kind that takes no charset from a table: one of texts with a charset, or not of texts. -/
def HasCharset (k : ColumnKind) : Prop :=
  ∀ charset, k.inheritCharset charset = k

theorem hasCharset_inheritCharset (k : ColumnKind) (charset : String) :
    (k.inheritCharset charset).HasCharset := by
  intro other
  cases k with
  | text size declared => cases declared <;> rfl
  | _ => rfl

theorem HasCharset.convertCharset {k : ColumnKind} (hk : k.HasCharset) (charset : String) :
    (k.convertCharset charset).HasCharset := by
  intro other
  cases k with
  | text size declared =>
    show (if _ then _ else _ : ColumnKind).inheritCharset other = if _ then _ else _
    split
    · exact hk other
    · rfl
  | _ => rfl

end ColumnKind

/-! ## Tables -/

namespace Table

variable {here : TableName} {t t' : Table}

/-- No column of the table takes a charset from it. -/
def HasCharsets (t : Table) : Prop :=
  ∀ k ∈ t.columns.kinds, k.HasCharset

theorem hasCharsets_create (database name charset : String) (columns : List Column)
    (primaryKey : List String) : (create database name charset columns primaryKey).HasCharsets := by
  rw [HasCharsets, create, ColumnList.kinds_ofList, List.map_map]
  exact List.forall_mem_map.2 fun c _ => c.kind.hasCharset_inheritCharset charset

theorem HasCharsets.convertTo (ht : t.HasCharsets) (charset : String) :
    (t.convertTo charset).HasCharsets := by
  rw [HasCharsets, Table.convertTo,
    ColumnList.kinds_map (f := (·.convertCharset charset)) _ fun _ => rfl]
  exact List.forall_mem_map.2 fun k hk => (ht k hk).convertCharset charset

theorem HasCharsets.editColumns {edits : List ColumnEdit} (ht : t.HasCharsets)
    (h : t.editColumns here edits = .ok t') : t'.HasCharsets := by
  intro k hk
  rcases List.mem_append.1 ((kindsFrom_of_editColumns h).kinds hk) with hk | hk
  · exact ht k hk
  · obtain ⟨c, -, rfl⟩ := List.mem_map.1 hk
    exact c.kind.hasCharset_inheritCharset t.charset

end Table

/-! ## Resolving -/

/-- No column of the schema takes a charset from its table. -/
def Schema.HasCharsets (s : Schema) : Prop :=
  s.AllTables fun _ t => t.HasCharsets

namespace Schema.HasCharsets

variable {s s' : Schema} (hs : s.HasCharsets) {config : Config}
include hs

theorem of_requireTable {database table : String} {t : Table}
    (h : s.requireTable database table = .ok t) : t.HasCharsets := by
  obtain ⟨d, hd, ht⟩ := requireTable_eq_ok_iff.1 h
  exact hs d (mem_of_database? hd).1 t (Database.mem_of_table? ht).1

theorem newTable {d : Database} {written : TableName} {source : TableSource}
    {charset : Option String} {t : Table}
    (h : Request.newTable config s d written source charset = .ok t) : t.HasCharsets := by
  cases source with
  | like other =>
    obtain ⟨u, hu, rfl⟩ := Request.newTable_like_eq_ok_iff.1 h
    have hu : u.HasCharsets := hs.of_requireTable hu
    exact hu
  | columns columns primaryKey =>
    obtain ⟨-, rfl⟩ := Request.newTable_columns_eq_ok_iff.1 h
    exact Table.hasCharsets_create _ _ _ columns primaryKey

omit hs in
theorem editedTable {old new : Table} (hold : old.HasCharsets) {edit : TableEdit}
    (h : Request.editedTable config s old edit = .ok new) : new.HasCharsets := by
  obtain ⟨renamed, hrenamed, edited, hedited, rfl⟩ := Request.editedTable_eq_ok_iff.1 h
  have hcolumns : renamed.columns = old.columns := by
    cases hname : edit.newName with
    | none =>
      rw [hname] at hrenamed
      cases hrenamed
      rfl
    | some written =>
      rw [hname, Request.renamedTable_some_eq_ok_iff] at hrenamed
      split at hrenamed
      · rw [hrenamed]
      · obtain ⟨place, -, rfl⟩ := hrenamed
        rfl
  have hedited : edited.HasCharsets := by
    refine Table.HasCharsets.editColumns ?_ hedited
    show ∀ k ∈ renamed.columns.kinds, k.HasCharset
    rw [hcolumns]
    exact hold
  show (edit.convertTo.elim edited edited.convertTo).HasCharsets
  cases edit.convertTo with
  | none => exact hedited
  | some charset => exact hedited.convertTo charset

omit hs in
theorem resolveRenames {renames : List (TableName × TableName)} {resolved : List Rename}
    (hs : s.HasCharsets) (h : Request.resolveRenames config s renames = .ok resolved) :
    ∀ r ∈ resolved, r.definition.HasCharsets := by
  induction renames generalizing s resolved with
  | nil =>
    cases h
    simp
  | cons p renames ih =>
    obtain ⟨r, hr, next, hnext, others, hothers, rfl⟩ :=
      Request.resolveRenames_cons_eq_ok_iff.1 h
    have hdefinition : r.definition.HasCharsets := by
      obtain ⟨t, ht, place, -, rfl⟩ := Request.resolveRename_eq_ok_iff.1 hr
      have ht : t.HasCharsets := hs.of_requireTable ht
      exact ht
    have hnext : next.HasCharsets :=
      AllTables.replaceTable hs hnext fun _ _ _ _ _ _ => hdefinition
    exact List.forall_mem_cons.2 ⟨hdefinition, ih hnext hothers⟩

/-- The tables that a resolved change defines have charsets. -/
theorem definitions {r : Request} {c : Change} (h : r.resolve config s = .ok (some c)) :
    ∀ t ∈ c.definitions, t.HasCharsets := by
  cases Request.resolve_eq_some_iff.1 h with
  | createDatabase | alterDatabase | dropDatabase | dropTable => exact List.forall_mem_nil _
  | createTable hd hnew ht => exact List.forall_mem_singleton.2 (hs.newTable ht)
  | alterTable hold hnew =>
    exact List.forall_mem_singleton.2 (editedTable (hs.of_requireTable hold) hnew)
  | renameTables hresolved => exact List.forall_mem_map.2 (resolveRenames hs hresolved)

end Schema.HasCharsets

/-! ## Runs -/

/-- A run keeps it so that columns of texts have a charset. -/
theorem Tracker.run_hasCharsets {t : Tracker} (ht : t.schema.HasCharsets)
    (calls : List (Option String × String)) : (t.run calls).schema.HasCharsets :=
  run_induction (I := Schema.HasCharsets) ht fun _ _ _ _ _ hs _ _ _ _ hresolve happly =>
    Schema.AllTables.apply hs happly (fun _ _ t ht _ _ _ _ => hs.definitions hresolve t ht)
      fun _ _ _ _ ht => ht

/-- In every schema that a tracker reaches from the empty one, columns of texts have a charset. -/
theorem Tracker.start_run_hasCharsets (config : Config) (exclusions : Exclusions)
    (charset : String) (mode : CaseMode) (calls : List (Option String × String)) :
    ((start config exclusions (.empty charset mode)).run calls).schema.HasCharsets :=
  run_hasCharsets (t := start config exclusions (.empty charset mode)) (List.forall_mem_nil _) calls

end SchemaTrail
