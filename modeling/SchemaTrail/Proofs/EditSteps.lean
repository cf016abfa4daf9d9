import SchemaTrail.Change.ColumnEdits
import SchemaTrail.Proofs.Outcome

/-!
# What an edit of a column does

`Table.EditsTo` says once, for each kind of edit, when it can be done to a table and which table
comes out (`Table.editColumn_eq_ok_iff`).  Laws of edits are case analyses of it.
-/

namespace SchemaTrail

open Outcome

namespace Table

/-- The table that an edit of a column leads to. -/
inductive EditsTo (here : TableName) (t : Table) : ColumnEdit → Table → Prop
  | addPassedOver {column : Column} {placement : Placement}
      (hthere : t.columns.contains column.name = true) :
    EditsTo here t (.add column placement true) t
  | add {column : Column} {placement : Placement} {guarded : Bool} {index : Nat}
      (hnew : t.columns.contains column.name = false)
      (hindex : placement.index here t.columns t.columns.size = .ok index) :
    EditsTo here t (.add column placement guarded) (t.insertColumn index column)
  | changePassedOver {name : String} {column : Column} {placement : Placement}
      (hmissing : t.columns.indexOf? name = none) :
    EditsTo here t (.change name column placement true) t
  /-- Another column takes the place, under the same name. -/
  | replace {name : String} {column : Column} {placement : Placement} {guarded : Bool}
      {current index : Nat} (hcurrent : t.columns.indexOf? name = some current)
      (hsame : columnNamesEqual name column.name = true)
      (hindex : placement.index here (t.eraseColumn current).columns current = .ok index) :
    EditsTo here t (.change name column placement guarded)
      ((t.eraseColumn current).insertColumn index column)
  /-- Another column takes the place, under a name that there is not yet. -/
  | change {name : String} {column : Column} {placement : Placement} {guarded : Bool}
      {current index : Nat} (hcurrent : t.columns.indexOf? name = some current)
      (hother : columnNamesEqual name column.name = false)
      (hnew : t.columns.contains column.name = false)
      (hindex : placement.index here (t.eraseColumn current).columns current = .ok index) :
    EditsTo here t (.change name column placement guarded)
      (((t.eraseColumn current).insertColumn index column).renameKeyColumn name column.name)
  | removePassedOver {name : String} (hmissing : t.columns.indexOf? name = none) :
    EditsTo here t (.remove name true) t
  | remove {name : String} {guarded : Bool} {index : Nat}
      (hindex : t.columns.indexOf? name = some index) :
    EditsTo here t (.remove name guarded) ((t.eraseColumn index).dropKeyColumn name)
  | rename {name newName : String} {index : Nat} (hindex : t.columns.indexOf? name = some index)
      (hfree : columnNamesEqual name newName = true ∨ t.columns.contains newName = false) :
    EditsTo here t (.rename name newName)
      ((t.renameColumn index newName).renameKeyColumn name newName)

variable {here : TableName} {t t' : Table} {edit : ColumnEdit} {column : Column}
  {placement : Placement} {guarded : Bool} {name newName : String}

theorem EditsTo.of_addColumn (h : t.addColumn here column placement guarded = .ok t') :
    t.EditsTo here (.add column placement guarded) t' := by
  rw [addColumn] at h
  cases hthere : t.columns.contains column.name with
  | true =>
    rw [hthere, if_pos rfl] at h
    cases guarded <;> cases h
    exact .addPassedOver hthere
  | false =>
    rw [hthere, if_neg Bool.false_ne_true] at h
    obtain ⟨index, hindex, h⟩ := bind_eq_ok_iff.1 h
    cases h
    exact .add hthere hindex

theorem EditsTo.of_changeColumn (h : t.changeColumn here name column placement guarded = .ok t') :
    t.EditsTo here (.change name column placement guarded) t' := by
  rw [changeColumn] at h
  cases hcurrent : t.columns.indexOf? name with
  | none =>
    rw [hcurrent] at h
    cases guarded <;> cases h
    exact .changePassedOver hcurrent
  | some current =>
    simp only [hcurrent] at h
    split at h
    · cases h
    rename_i hcheck
    obtain ⟨index, hindex, h⟩ := bind_eq_ok_iff.1 h
    cases hsame : columnNamesEqual name column.name with
    | true =>
      rw [hsame] at h
      cases h
      exact .replace hcurrent hsame hindex
    | false =>
      rw [hsame] at h hcheck
      cases h
      exact .change hcurrent hsame (Bool.eq_false_iff.2 hcheck) hindex

theorem EditsTo.of_removeColumn (h : t.removeColumn here name guarded = .ok t') :
    t.EditsTo here (.remove name guarded) t' := by
  rw [removeColumn] at h
  cases hindex : t.columns.indexOf? name with
  | none =>
    rw [hindex] at h
    cases guarded <;> cases h
    exact .removePassedOver hindex
  | some index =>
    rw [hindex] at h
    cases h
    exact .remove hindex

theorem EditsTo.of_renameColumnTo (h : t.renameColumnTo here name newName = .ok t') :
    t.EditsTo here (.rename name newName) t' := by
  rw [renameColumnTo] at h
  cases hindex : t.columns.indexOf? name with
  | none =>
    rw [hindex] at h
    cases h
  | some index =>
    simp only [hindex] at h
    split at h
    · cases h
    · rename_i hcheck
      cases h
      cases hsame : columnNamesEqual name newName with
      | true => exact .rename hindex (.inl hsame)
      | false =>
        rw [hsame] at hcheck
        exact .rename hindex (.inr (Bool.eq_false_iff.2 hcheck))

theorem EditsTo.editColumn (h : t.EditsTo here edit t') : t.editColumn here edit = .ok t' := by
  cases h with
  | addPassedOver hthere => exact if_pos hthere
  | add hnew hindex =>
    exact (if_neg (by simp [hnew])).trans (bind_eq_ok_iff.2 ⟨_, hindex, rfl⟩)
  | changePassedOver hmissing =>
    rw [Table.editColumn, changeColumn, hmissing]
    rfl
  | replace hcurrent hsame hindex =>
    rw [Table.editColumn, changeColumn, hcurrent]
    simp only [hsame]
    exact bind_eq_ok_iff.2 ⟨_, hindex, rfl⟩
  | change hcurrent hother hnew hindex =>
    rw [Table.editColumn, changeColumn, hcurrent]
    simp only [hother, hnew]
    exact bind_eq_ok_iff.2 ⟨_, hindex, rfl⟩
  | removePassedOver hmissing =>
    rw [Table.editColumn, removeColumn, hmissing]
    rfl
  | remove hindex => rw [Table.editColumn, removeColumn, hindex]
  | rename hindex hfree =>
    rw [Table.editColumn, renameColumnTo, hindex]
    rcases hfree with hsame | hnew
    · simp only [hsame]
      rfl
    · simp [hnew]

/-- Exactly the edits of the relation can be done. -/
theorem editColumn_eq_ok_iff : t.editColumn here edit = .ok t' ↔ t.EditsTo here edit t' := by
  refine ⟨fun h => ?_, EditsTo.editColumn⟩
  cases edit with
  | add column placement guarded => exact .of_addColumn h
  | change name column placement guarded => exact .of_changeColumn h
  | remove name guarded => exact .of_removeColumn h
  | rename name newName => exact .of_renameColumnTo h

end Table

end SchemaTrail
