import SchemaTrail.Change.Resolution
import SchemaTrail.Proofs.EditSteps
import SchemaTrail.Proofs.LetterCase

/-!
# Names of columns

Two names of columns are equal if they are the same in lower case, so that the columns of a table
have distinct names if these lower-case names, the keys, are distinct.  Every edit of the columns
adds, takes out or exchanges one key, up to their order.
-/

namespace SchemaTrail

open Outcome

namespace ColumnList

variable {l : ColumnList} {name : String} {index : Nat}

/-- The names of the columns in lower case. -/
def keys (l : ColumnList) : List String :=
  l.toList.map fun c => Text.lower c.name

@[simp] theorem keys_ofList (columns : List Column) :
    (ofList columns).keys = columns.map fun c => Text.lower c.name := by
  apply List.ext_getElem <;> simp [keys, Column.movedTo]

theorem contains_iff : l.contains name = true ↔ Text.lower name ∈ l.keys := by
  simp [contains_eq, keys, Column.isNamed]

theorem contains_eq_false_iff : l.contains name = false ↔ Text.lower name ∉ l.keys := by
  rw [← contains_iff, Bool.not_eq_true]

theorem indexOf?_eq_none_iff : l.indexOf? name = none ↔ l.contains name = false := by
  rw [contains, Option.isSome_eq_false_iff, Option.isNone_iff_eq_none]

/-- The column at the index of a name, with what is before and after it. -/
theorem split_of_indexOf? (h : l.indexOf? name = some index) :
    ∃ front c back, l.toList = front ++ c :: back ∧ front.length = index ∧
      Text.lower c.name = Text.lower name := by
  rw [indexOf?_eq] at h
  obtain ⟨hlt, hc, -⟩ := List.findIdx?_eq_some_iff_getElem.1 h
  refine ⟨l.toList.take index, l.toList[index], l.toList.drop (index + 1), ?_, ?_, ?_⟩
  · rw [List.getElem_cons_drop, List.take_append_drop]
  · exact List.length_take_of_le (Nat.le_of_lt hlt)
  · simpa [Column.isNamed] using hc

theorem keys_insert (column : Column) :
    (l.insert index column).keys.Perm (Text.lower column.name :: l.keys) := by
  rw [insert, keys_ofList]
  exact (List.perm_insertIdx column l.toList (Nat.min_le_right index l.size)).map _

theorem keys_erase (h : l.indexOf? name = some index) :
    l.keys.Perm (Text.lower name :: (l.erase index).keys) := by
  obtain ⟨front, c, back, hl, rfl, hname⟩ := split_of_indexOf? h
  rw [erase_eq, keys_ofList, keys, hl]
  simp [List.eraseIdx_append_of_length_le, hname]

theorem keys_modify (h : l.indexOf? name = some index) (change : Column → Column)
    {newName : String} (hchange : ∀ c, (change c).name = newName) :
    (l.modify index change).keys.Perm (Text.lower newName :: (l.erase index).keys) := by
  obtain ⟨front, c, back, hl, rfl, -⟩ := split_of_indexOf? h
  rw [modify, erase_eq, keys_ofList, keys_ofList, hl, List.modify_eq_take_cons_drop (by simp)]
  simp [List.eraseIdx_append_of_length_le, hchange]

theorem keys_map {change : Column → Column} (h : ∀ c, (change c).name = c.name) :
    (l.map change).keys = l.keys := by
  rw [map_eq, keys_ofList, List.map_map]
  simp [keys, h]

end ColumnList

/-! ## Tables with distinct columns -/

namespace Table

/-- No two columns of the table have equal names. -/
def ColumnsDistinct (t : Table) : Prop :=
  t.columns.names.Pairwise fun a b => columnNamesEqual a b = false

theorem columnsDistinct_iff {t : Table} : t.ColumnsDistinct ↔ t.columns.keys.Nodup := by
  rw [ColumnsDistinct, ColumnList.names, ColumnList.keys, List.Nodup, List.pairwise_map,
    List.pairwise_map]
  simp only [← Bool.not_eq_true, columnNamesEqual_iff, ne_eq]

theorem ColumnsDistinct.of_keys_eq {t t' : Table} (ht : t.ColumnsDistinct)
    (h : t'.columns.keys = t.columns.keys) : t'.ColumnsDistinct := by
  rw [columnsDistinct_iff] at ht ⊢
  rwa [h]

theorem ColumnsDistinct.convertTo {t : Table} (ht : t.ColumnsDistinct) (charset : String) :
    (t.convertTo charset).ColumnsDistinct :=
  ht.of_keys_eq (ColumnList.keys_map fun _ => rfl)

/-- The columns of a new table are distinct if no name is repeated in their declaration. -/
theorem firstRepeated?_eq_none {before columns : List Column}
    (h : firstRepeated? before columns = none)
    (hbefore : (before.map fun c => Text.lower c.name).Nodup) :
    ((before ++ columns).map fun c => Text.lower c.name).Nodup := by
  induction columns generalizing before with
  | nil => simpa using hbefore
  | cons c columns ih =>
    rw [firstRepeated?] at h
    by_cases hc : (before.any fun b => columnNamesEqual b.name c.name) = true
    · rw [if_pos hc] at h
      cases h
    · rw [if_neg hc] at h
      have hnew : ∀ b ∈ before, Text.lower b.name ≠ Text.lower c.name := by
        simpa [columnNamesEqual_iff] using hc
      have hnext := ih h (by
        rw [List.map_append, List.map_singleton, List.nodup_append]
        refine ⟨hbefore, by simp, fun a ha b hb => ?_⟩
        obtain ⟨d, hd, rfl⟩ := List.mem_map.1 ha
        rw [List.mem_singleton.1 hb]
        exact hnew d hd)
      simpa using hnext

theorem columnsDistinct_create {database name charset : String} {columns : List Column}
    {primaryKey : List String} (h : firstRepeated? [] columns = none) :
    (create database name charset columns primaryKey).ColumnsDistinct := by
  rw [columnsDistinct_iff, create, ColumnList.keys_ofList, List.map_map]
  exact firstRepeated?_eq_none h .nil

/-! ## Edits -/

variable {here : TableName} {t t' : Table}

/-- Exchanging a key for one that there is not elsewhere keeps keys distinct. -/
theorem nodup_exchange {keys keys' rest : List String} {a b : String} (hkeys : keys.Nodup)
    (h : keys.Perm (a :: rest)) (h' : keys'.Perm (b :: rest)) (hb : a = b ∨ b ∉ keys) :
    keys'.Nodup := by
  rw [h'.nodup_iff]
  rw [h.nodup_iff] at hkeys
  rcases hb with rfl | hb
  · exact hkeys
  · rw [h.mem_iff, List.mem_cons, not_or] at hb
    exact List.nodup_cons.2 ⟨hb.2, (List.nodup_cons.1 hkeys).2⟩

/-- What edits of columns keep: the place of the table, and that its columns are distinct. -/
structure SamePlace (t t' : Table) : Prop where
  database : t'.database = t.database
  name : t'.name = t.name
  columns_distinct : t.ColumnsDistinct → t'.ColumnsDistinct

theorem editColumn_samePlace {edit : ColumnEdit}
    (h : t.editColumn here edit = .ok t') : t.SamePlace t' := by
  cases editColumn_eq_ok_iff.1 h with
  | addPassedOver | changePassedOver | removePassedOver => exact ⟨rfl, rfl, id⟩
  | add hnew =>
    refine ⟨rfl, rfl, fun ht => columnsDistinct_iff.2 ?_⟩
    rw [insertColumn, (ColumnList.keys_insert _).nodup_iff, List.nodup_cons]
    exact ⟨ColumnList.contains_eq_false_iff.1 hnew, columnsDistinct_iff.1 ht⟩
  | replace hcurrent hsame =>
    exact ⟨rfl, rfl, fun ht => columnsDistinct_iff.2 <|
      nodup_exchange (columnsDistinct_iff.1 ht) (ColumnList.keys_erase hcurrent)
        (ColumnList.keys_insert _) (.inl (columnNamesEqual_iff.1 hsame))⟩
  | change hcurrent _ hnew =>
    exact ⟨rfl, rfl, fun ht => columnsDistinct_iff.2 <|
      nodup_exchange (columnsDistinct_iff.1 ht) (ColumnList.keys_erase hcurrent)
        (ColumnList.keys_insert _) (.inr (ColumnList.contains_eq_false_iff.1 hnew))⟩
  | remove hindex =>
    refine ⟨rfl, rfl, fun ht => columnsDistinct_iff.2 ?_⟩
    have hkeys := columnsDistinct_iff.1 ht
    rw [(ColumnList.keys_erase hindex).nodup_iff, List.nodup_cons] at hkeys
    exact hkeys.2
  | rename hindex hfree =>
    rw [columnNamesEqual_iff, ColumnList.contains_eq_false_iff] at hfree
    exact ⟨rfl, rfl, fun ht => columnsDistinct_iff.2 <|
      nodup_exchange (columnsDistinct_iff.1 ht) (ColumnList.keys_erase hindex)
        (ColumnList.keys_modify hindex _ fun _ => rfl) hfree⟩

/-- Edits of its columns leave a table in its place, with distinct columns if it had such. -/
theorem editColumns_samePlace {edits : List ColumnEdit}
    (h : t.editColumns here edits = .ok t') : t.SamePlace t' := by
  refine foldlM_induction (motive := fun t' => t.SamePlace t') h ⟨rfl, rfl, id⟩
    fun t₁ ht₁ edit _ t₂ ht₂ => ?_
  have hstep := editColumn_samePlace ht₂
  exact ⟨hstep.database.trans ht₁.database, hstep.name.trans ht₁.name,
    fun ht => hstep.columns_distinct (ht₁.columns_distinct ht)⟩

end Table

end SchemaTrail
