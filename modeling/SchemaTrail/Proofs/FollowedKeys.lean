import SchemaTrail.Proofs.EditedLists

/-!
# Primary keys follow columns

A primary key is a list of names of columns, kept apart from the columns.  What an edit of a column
does to it can be said of the names alone (`ColumnEdit.followKey`): a renamed column gets its new
name, a removed one goes.  The key that an `ALTER TABLE` statement without a key of its own leaves
is the one that was there with this done for each edit in turn, and it names columns of the table if
the old one did (`Request.resolve_primaryKey`).
-/

namespace SchemaTrail

open Outcome

/-- A primary key with one name in place of another. -/
def renamedKey (old new : String) (key : List String) : List String :=
  key.map fun k => if columnNamesEqual k old then new else k

/-- A primary key without a name. -/
def filteredKey (name : String) (key : List String) : List String :=
  key.filter fun k => !columnNamesEqual k name

/-- A primary key after an edit of a column.  A change or removal that is passed over is of a column
that there is not, so that a key that names columns does not have its name. -/
def ColumnEdit.followKey (key : List String) : ColumnEdit → List String
  | .add .. => key
  | .change name column .. => renamedKey name column.name key
  | .remove name _ => filteredKey name key
  | .rename name newName => renamedKey name newName key

/-- Every name of the primary key is that of a column. -/
def Table.KeyNamesColumns (t : Table) : Prop :=
  ∀ k ∈ t.primaryKey, ∃ c ∈ t.columns.toList, columnNamesEqual k c.name = true

instance (t : Table) : Decidable t.KeyNamesColumns :=
  inferInstanceAs (Decidable (∀ k ∈ t.primaryKey, ∃ c ∈ t.columns.toList,
    columnNamesEqual k c.name = true))

/-! ## Names in lower case -/

section Keys

variable {key as bs keys keys' rest : List String} {old new : String}

theorem sameNames_iff : List.Forall₂ (fun a b => columnNamesEqual a b = true) as bs ↔
    as.map Text.lower = bs.map Text.lower := by
  simp only [columnNamesEqual_iff]
  rw [← List.forall₂_eq_eq_eq, List.forall₂_map_left_iff, List.forall₂_map_right_iff]

theorem lower_renamedKey (old new : String) (key : List String) :
    (renamedKey old new key).map Text.lower =
      (key.map Text.lower).map fun k => if k = Text.lower old then Text.lower new else k := by
  rw [renamedKey, List.map_map, List.map_map]
  refine List.map_congr_left fun k _ => ?_
  simp only [Function.comp_apply, columnNamesEqual_iff]
  exact apply_ite Text.lower _ _ _

theorem lower_filteredKey (old : String) (key : List String) :
    (filteredKey old key).map Text.lower =
      (key.map Text.lower).filter fun k => k ≠ Text.lower old := by
  rw [filteredKey, List.filter_map]
  refine congrArg _ (List.filter_congr fun k _ => ?_)
  rw [Bool.eq_iff_iff, Bool.not_eq_true', ← Bool.not_eq_true, columnNamesEqual_iff]
  simp

theorem lower_renamedKey_congr (h : as.map Text.lower = bs.map Text.lower) :
    (renamedKey old new as).map Text.lower = (renamedKey old new bs).map Text.lower := by
  rw [lower_renamedKey, lower_renamedKey, h]

theorem lower_filteredKey_congr (h : as.map Text.lower = bs.map Text.lower) :
    (filteredKey old as).map Text.lower = (filteredKey old bs).map Text.lower := by
  rw [lower_filteredKey, lower_filteredKey, h]

/-- Renaming a name that the key does not have, or to another letter case, changes no name. -/
theorem lower_renamedKey_eq (new : String) (key : List String)
    (h : Text.lower old = Text.lower new ∨ Text.lower old ∉ key.map Text.lower) :
    (renamedKey old new key).map Text.lower = key.map Text.lower := by
  rw [lower_renamedKey]
  refine (List.map_congr_left fun k hk => ?_).trans (List.map_id _)
  split
  · rename_i hold
    rcases h with hsame | hnot
    · exact hsame ▸ hold.symm
    · exact absurd (hold ▸ hk) hnot
  · rfl

theorem lower_filteredKey_eq (h : Text.lower old ∉ key.map Text.lower) :
    (filteredKey old key).map Text.lower = key.map Text.lower := by
  rw [lower_filteredKey, List.filter_eq_self]
  exact fun k hk => decide_eq_true fun heq => h (heq ▸ hk)

/-- If columns exchange one name for another, so does a key that names columns. -/
theorem renamedKey_mem (hkeys : keys.Perm (Text.lower old :: rest))
    (hkeys' : keys'.Perm (Text.lower new :: rest)) (h : ∀ k ∈ key.map Text.lower, k ∈ keys) :
    ∀ k ∈ (renamedKey old new key).map Text.lower, k ∈ keys' := by
  rw [lower_renamedKey, List.forall_mem_map]
  intro k hk
  rw [hkeys'.mem_iff, List.mem_cons]
  split
  · exact .inl rfl
  · rename_i hne
    rcases List.mem_cons.1 (hkeys.mem_iff.1 (h k hk)) with heq | hrest
    · exact absurd heq hne
    · exact .inr hrest

theorem filteredKey_mem (hkeys : keys.Perm (Text.lower old :: rest))
    (h : ∀ k ∈ key.map Text.lower, k ∈ keys) :
    ∀ k ∈ (filteredKey old key).map Text.lower, k ∈ rest := by
  rw [lower_filteredKey]
  intro k hk
  obtain ⟨hk, hne⟩ := List.mem_filter.1 hk
  exact (List.mem_cons.1 (hkeys.mem_iff.1 (h k hk))).resolve_left (of_decide_eq_true hne)

end Keys

namespace Table

variable {here : TableName} {t t' : Table} {key : List String}

theorem keyNamesColumns_iff :
    t.KeyNamesColumns ↔ ∀ k ∈ t.primaryKey.map Text.lower, k ∈ t.columns.keys := by
  rw [KeyNamesColumns, List.forall_mem_map]
  refine forall₂_congr fun k _ => ?_
  rw [ColumnList.keys, List.mem_map]
  exact exists_congr fun c => and_congr_right fun _ => columnNamesEqual_iff.trans eq_comm

/-! ## Edits -/

/-- The primary key of the table is the given one, up to letter case, and names columns. -/
structure HasKey (t : Table) (key : List String) : Prop where
  lower_eq : t.primaryKey.map Text.lower = key.map Text.lower
  mem_keys : ∀ k ∈ key.map Text.lower, k ∈ t.columns.keys

theorem HasKey.not_mem (h : t.HasKey key) {name : String}
    (hindex : t.columns.indexOf? name = none) :
    Text.lower name ∉ key.map Text.lower := by
  intro hmem
  have hthere := ColumnList.contains_iff.2 (h.mem_keys _ hmem)
  rw [ColumnList.indexOf?_eq_none_iff.1 hindex] at hthere
  cases hthere

variable (hkey : t.HasKey key)
include hkey

/-- An edit that is done to a table is followed by its primary key. -/
theorem HasKey.editColumn {edit : ColumnEdit} (h : t.editColumn here edit = .ok t') :
    t'.HasKey (edit.followKey key) := by
  cases editColumn_eq_ok_iff.1 h with
  | addPassedOver => exact hkey
  | add =>
    exact ⟨hkey.lower_eq, fun k hk =>
      (ColumnList.keys_insert _).mem_iff.2 (List.mem_cons_of_mem _ (hkey.mem_keys k hk))⟩
  | @changePassedOver name column placement hmissing =>
    have hsame := lower_renamedKey_eq column.name key (.inr (hkey.not_mem hmissing))
    exact ⟨hkey.lower_eq.trans hsame.symm, hsame ▸ hkey.mem_keys⟩
  | replace hcurrent hsame =>
    have hkept := lower_renamedKey_eq _ key (.inl (columnNamesEqual_iff.1 hsame))
    exact ⟨hkey.lower_eq.trans hkept.symm, renamedKey_mem (ColumnList.keys_erase hcurrent)
      (ColumnList.keys_insert _) hkey.mem_keys⟩
  | change hcurrent =>
    exact ⟨lower_renamedKey_congr hkey.lower_eq, renamedKey_mem (ColumnList.keys_erase hcurrent)
      (ColumnList.keys_insert _) hkey.mem_keys⟩
  | removePassedOver hmissing =>
    have hsame := lower_filteredKey_eq (hkey.not_mem hmissing)
    exact ⟨hkey.lower_eq.trans hsame.symm, hsame ▸ hkey.mem_keys⟩
  | remove hindex =>
    exact ⟨lower_filteredKey_congr hkey.lower_eq,
      filteredKey_mem (ColumnList.keys_erase hindex) hkey.mem_keys⟩
  | rename hindex =>
    exact ⟨lower_renamedKey_congr hkey.lower_eq, renamedKey_mem (ColumnList.keys_erase hindex)
      (ColumnList.keys_modify hindex _ fun _ => rfl) hkey.mem_keys⟩

/-- So are several edits, one after the other. -/
theorem HasKey.editColumns {edits : List ColumnEdit} (h : t.editColumns here edits = .ok t') :
    t'.HasKey (edits.foldl ColumnEdit.followKey key) := by
  induction edits generalizing t key with
  | nil =>
    cases h
    exact hkey
  | cons edit edits ih =>
    rw [Table.editColumns, List.foldlM_cons] at h
    obtain ⟨next, hstep, hrest⟩ := bind_eq_ok_iff.1 h
    exact ih (hkey.editColumn hstep) hrest

omit hkey in
/-- Another charset of the texts of a table leaves its key. -/
theorem HasKey.elim_convertTo (h : t.HasKey key) (charset : Option String) :
    (charset.elim t t.convertTo).HasKey key := by
  cases charset with
  | none => exact h
  | some charset =>
    have hkeys : (t.convertTo charset).columns.keys = t.columns.keys :=
      ColumnList.keys_map fun _ => rfl
    exact ⟨h.lower_eq, fun k hk => hkeys ▸ h.mem_keys k hk⟩

end Table

namespace Request

variable {config : Config} {s : Schema} {old : Table}

/-- If an edit of a table whose key names columns gives it no key of its own, then the definition
that it is resolved to has the old key with each edit of a column followed in turn, and this key
names columns again.  The columns need not have distinct names. -/
theorem resolve_primaryKey (name : TableName) {edit : TableEdit} {resolved : Option Change}
    (hold : s.requireTable name.database name.table = .ok old) (hcolumns : old.KeyNamesColumns)
    (hkey : edit.primaryKey = none)
    (h : (Request.alterTable name edit).resolve config s = .ok resolved) :
    ∃ new, resolved = some (.alterTable old.database old.name old new) ∧ new.KeyNamesColumns ∧
      List.Forall₂ (fun a b => columnNamesEqual a b = true) new.primaryKey
        (edit.columns.foldl ColumnEdit.followKey old.primaryKey) := by
  obtain ⟨found, hfound, h⟩ := bind_eq_ok_iff.1 h
  obtain ⟨new, hedit, h⟩ := bind_eq_ok_iff.1 h
  cases hold.symm.trans hfound
  obtain ⟨renamed, hrenamed, edited, hedited, hresult⟩ := editedTable_eq_ok_iff.1 hedit
  have hstart : Table.HasKey { renamed with charset := edit.charset.getD renamed.charset }
      old.primaryKey := by
    rw [renamedTable_eq_relocated hrenamed]
    exact ⟨rfl, Table.keyNamesColumns_iff.1 hcolumns⟩
  have hend := (hstart.editColumns hedited).elim_convertTo edit.convertTo
  rw [hkey, Option.getD_none] at hresult
  have hnew : edit.convertTo.elim edited edited.convertTo = new := hresult
  rw [hnew] at hend
  refine ⟨new, (pure_eq_ok_iff.1 h).symm, Table.keyNamesColumns_iff.2 ?_,
    sameNames_iff.2 hend.lower_eq⟩
  rw [hend.lower_eq]
  exact hend.mem_keys

/-- Two columns of the key exchange their names by way of a third, and one is taken out and put
back: the key has it no longer. -/
theorem resolve_primaryKey_exchanged :
    let number (name : String) : Column := ⟨name, .integer .regular true, 0⟩
    let old : Table := .create "shop" "items" "latin1" [number "a", number "b", number "c"]
      ["A", "c", "b"]
    let s : Schema := ⟨"utf8mb4", .sensitive, [⟨"shop", "utf8mb4", [old]⟩]⟩
    let edits : List ColumnEdit := [.rename "a" "spare", .change "B" (number "a") .first false,
      .rename "SPARE" "b", .remove "C" false, .add (number "c") .standard false,
      .change "spare" (number "a") .first true]
    ∃ new, (Request.alterTable ⟨"shop", "items"⟩ ⟨edits, none, none, none, none⟩).resolve .standard
        s = .ok (some (.alterTable "shop" "items" old new)) ∧ new.KeyNamesColumns ∧
      List.Forall₂ (fun a b => columnNamesEqual a b = true) new.primaryKey ["b", "a"] := by
  intro number old s edits
  obtain ⟨resolved, hresolved⟩ : ∃ resolved, (Request.alterTable ⟨"shop", "items"⟩
      ⟨edits, none, none, none, none⟩).resolve .standard s = .ok resolved :=
    isSome_toOption_iff.1 (by decide +kernel)
  have hkey : edits.foldl ColumnEdit.followKey old.primaryKey = ["b", "a"] := by decide +kernel
  have hold : s.requireTable "shop" "items" = .ok old := rfl
  obtain ⟨new, rfl, hcolumns, hsame⟩ := resolve_primaryKey ⟨"shop", "items"⟩ hold
    (by decide +kernel) rfl hresolved
  exact ⟨new, hresolved, hcolumns, hkey ▸ hsame⟩

end Request

end SchemaTrail
