import SchemaTrail.Proofs.ColumnNames

/-!
# Kinds of columns in edited tables

An edit of the columns of a table leaves the kinds of the columns as they are, takes some out, and
adds that of a new column, whose texts take the charset of the table if they have none
(`Table.kindsFrom_of_editColumns`).  So what holds of all kinds is kept by edits if it holds of the
kinds that they add.
-/

namespace SchemaTrail

open Outcome

namespace ColumnList

variable {l : ColumnList} {index : Nat}

/-- The kinds of the columns. -/
def kinds (l : ColumnList) : List ColumnKind :=
  l.toList.map Column.kind

theorem kind_mem {c : Column} (hc : c ∈ l.toList) : c.kind ∈ l.kinds :=
  List.mem_map_of_mem hc

theorem forall_kinds_iff {P : ColumnKind → Prop} :
    (∀ k ∈ l.kinds, P k) ↔ ∀ c ∈ l.toList, P c.kind :=
  List.forall_mem_map

@[simp] theorem kinds_ofList (columns : List Column) :
    (ofList columns).kinds = columns.map Column.kind := by
  apply List.ext_getElem <;> simp [kinds, Column.movedTo]

theorem kinds_insert (l : ColumnList) (index : Nat) (column : Column) :
    (l.insert index column).kinds ⊆ column.kind :: l.kinds := by
  rw [insert, kinds_ofList]
  exact ((List.perm_insertIdx column l.toList (Nat.min_le_right index l.size)).map _).subset

theorem kinds_erase (l : ColumnList) (index : Nat) : (l.erase index).kinds ⊆ l.kinds := by
  rw [erase_eq, kinds_ofList]
  exact ((List.eraseIdx_sublist l.toList index).map _).subset

theorem kinds_modify (l : ColumnList) (index : Nat) {change : Column → Column}
    (h : ∀ c, (change c).kind = c.kind) : (l.modify index change).kinds = l.kinds := by
  rw [modify, kinds_ofList, kinds]
  refine List.ext_getElem (by simp) fun i _ _ => ?_
  rw [List.getElem_map, List.getElem_map, List.getElem_modify]
  split
  · exact h _
  · rfl

theorem kinds_map (l : ColumnList) {change : Column → Column} {f : ColumnKind → ColumnKind}
    (h : ∀ c, (change c).kind = f c.kind) : (l.map change).kinds = l.kinds.map f := by
  rw [map_eq, kinds_ofList, kinds, List.map_map, List.map_map]
  exact List.map_congr_left fun c _ => h c

end ColumnList

/-- The columns that an edit adds. -/
def ColumnEdit.added : ColumnEdit → List Column
  | .add column _ _ | .change _ column _ _ => [column]
  | .remove .. | .rename .. => []

namespace Table

variable {here : TableName} {t t' : Table}

/-- What an edit does to the charset of a table and to the kinds of its columns. -/
structure KindsFrom (added : List Column) (t t' : Table) : Prop where
  charset : t'.charset = t.charset
  kinds : t'.columns.kinds ⊆
    t.columns.kinds ++ added.map fun c => c.kind.inheritCharset t.charset

namespace KindsFrom

variable {added more : List Column}

theorem refl (t : Table) : t.KindsFrom added t :=
  ⟨rfl, List.subset_append_left _ _⟩

theorem trans {t₁ t₂ t₃ : Table} (h : t₁.KindsFrom added t₂) (h' : t₂.KindsFrom more t₃) :
    t₁.KindsFrom (added ++ more) t₃ := by
  refine ⟨h'.charset.trans h.charset, fun k hk => ?_⟩
  have hk := h'.kinds hk
  rw [h.charset, List.mem_append] at hk
  rw [List.map_append, ← List.append_assoc, List.mem_append]
  exact hk.imp_left fun hk => h.kinds hk

theorem insertColumn (t : Table) (index : Nat) (column : Column) :
    t.KindsFrom [column] (t.insertColumn index column) := by
  refine ⟨rfl, fun k hk => ?_⟩
  have hk := ColumnList.kinds_insert _ _ _ hk
  rw [List.mem_append, List.map_singleton, List.mem_singleton]
  exact (List.mem_cons.1 hk).symm

theorem eraseColumn (t : Table) (index : Nat) : t.KindsFrom [] (t.eraseColumn index) :=
  ⟨rfl, fun _ hk => List.mem_append_left _ (ColumnList.kinds_erase _ _ hk)⟩

end KindsFrom

theorem kindsFrom_of_editColumn {edit : ColumnEdit} (h : t.editColumn here edit = .ok t') :
    t.KindsFrom edit.added t' := by
  cases editColumn_eq_ok_iff.1 h with
  | addPassedOver | changePassedOver | removePassedOver => exact .refl t
  | add => exact .insertColumn t _ _
  | @replace name column placement guarded current index hcurrent hsame =>
    exact (KindsFrom.eraseColumn t current).trans (.insertColumn _ index column)
  | @change name column placement guarded current index =>
    have hchanged := (KindsFrom.eraseColumn t current).trans (.insertColumn _ index column)
    exact ⟨hchanged.charset, hchanged.kinds⟩
  | @remove name guarded index => exact ⟨rfl, (KindsFrom.eraseColumn t index).kinds⟩
  | @rename name newName index =>
    have hkinds : (t.columns.modify index (·.renamed newName)).kinds = t.columns.kinds :=
      ColumnList.kinds_modify _ _ fun _ => rfl
    exact ⟨rfl, hkinds ▸ List.subset_append_left _ _⟩

/-- Edits of its columns leave a table with kinds that it had, or that the edits add. -/
theorem kindsFrom_of_editColumns {edits : List ColumnEdit}
    (h : t.editColumns here edits = .ok t') : t.KindsFrom (edits.flatMap ColumnEdit.added) t' := by
  induction edits generalizing t with
  | nil =>
    cases h
    exact .refl _
  | cons edit edits ih =>
    obtain ⟨next, hnext, h⟩ := bind_eq_ok_iff.1 h
    exact (kindsFrom_of_editColumn hnext).trans (ih h)

end Table

end SchemaTrail
