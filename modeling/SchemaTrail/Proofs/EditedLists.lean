import Mathlib.Data.List.InsertIdx
import Mathlib.Data.List.Nodup
import SchemaTrail.Proofs.ChangedTables
import SchemaTrail.Proofs.ColumnKinds
import SchemaTrail.Proofs.Documents
import SchemaTrail.Proofs.ResolvedRequests

/-!
# Edits of a plain list of columns

What the edits of an `ALTER TABLE` statement mean can be said without positions and without an index
of names: `ColumnEdit.onList` does one edit to a plain list, in which columns are searched from the
front.  The columns of a table with distinct columns are edited in just this way, in success and in
failure (`Table.columns_editColumns`), and so is the definition that the statement is resolved to
(`Request.resolve_columns_eq`).
-/

namespace SchemaTrail

open Outcome

/-! ## Plain lists -/

namespace Columns

/-- The columns before the first one with a name, that column, and those behind it. -/
def split? (name : String) : List Column → Option (List Column × Column × List Column)
  | [] => none
  | c :: cs =>
    if columnNamesEqual c.name name then some ([], c, cs)
    else (split? name cs).map fun (front, found, back) => (c :: front, found, back)

/-- The list with a column put where a placement says; `standard` is the list with the column at the
standard place. -/
def put (here : TableName) (columns standard : List Column) (column : Column) :
    Placement → Except InvariantError (List Column)
  | .standard => .ok standard
  | .first => .ok (column :: columns)
  | .after name =>
    match split? name columns with
    | some (front, c, back) => .ok (front ++ c :: column :: back)
    | none => .error (.columnNotFound here.database here.table name)

end Columns

/-- Does one edit to a list of columns.  Columns of texts without a charset that are put in take the
given one. -/
def ColumnEdit.onList (here : TableName) (charset : String) (columns : List Column) :
    ColumnEdit → Except InvariantError (List Column)
  | .add column placement guarded =>
    match Columns.split? column.name columns with
    | some _ =>
      if guarded then .ok columns
      else .error (.columnExists here.database here.table column.name)
    | none =>
      let new := column.inheritCharset charset
      Columns.put here columns (columns ++ [new]) new placement
  | .change name column placement guarded =>
    match Columns.split? name columns with
    | some (front, _, back) =>
      if (Columns.split? column.name (front ++ back)).isSome then
        .error (.columnExists here.database here.table column.name)
      else
        let new := column.inheritCharset charset
        Columns.put here (front ++ back) (front ++ new :: back) new placement
    | none =>
      if guarded then .ok columns
      else .error (.columnNotFound here.database here.table name)
  | .remove name guarded =>
    match Columns.split? name columns with
    | some (front, _, back) => .ok (front ++ back)
    | none =>
      if guarded then .ok columns
      else .error (.columnNotFound here.database here.table name)
  | .rename name newName =>
    match Columns.split? name columns with
    | some (front, c, back) =>
      if (Columns.split? newName (front ++ back)).isSome then
        .error (.columnExists here.database here.table newName)
      else .ok (front ++ c.renamed newName :: back)
    | none => .error (.columnNotFound here.database here.table name)

namespace Columns

variable {name : String} {columns front back : List Column} {c : Column}

theorem split?_cons (name : String) (c : Column) (cs : List Column) :
    split? name (c :: cs) = if Text.lower c.name = Text.lower name then some ([], c, cs)
      else (split? name cs).map fun r => (c :: r.1, r.2) := by
  rw [split?]
  simp only [columnNamesEqual_iff]

theorem split?_eq_some (h : split? name columns = some (front, c, back)) :
    columns = front ++ c :: back ∧ Text.lower c.name = Text.lower name := by
  induction columns generalizing front with
  | nil => cases h
  | cons d columns ih =>
    rw [split?_cons] at h
    split at h
    · rename_i hname
      cases h
      exact ⟨rfl, hname⟩
    · obtain ⟨⟨front', c', back'⟩, hrest, heq⟩ := Option.map_eq_some_iff.1 h
      cases heq
      obtain ⟨rfl, hname⟩ := ih hrest
      exact ⟨rfl, hname⟩

theorem isSome_split?_iff : (split? name columns).isSome = true ↔
    Text.lower name ∈ columns.map fun c => Text.lower c.name := by
  induction columns with
  | nil => simp [split?]
  | cons c columns ih =>
    rw [split?_cons, List.map_cons, List.mem_cons]
    split
    · rename_i hname
      exact iff_of_true rfl (.inl hname.symm)
    · rename_i hname
      rw [Option.isSome_map, ih, or_iff_right (Ne.symm hname)]

end Columns

/-! ## Numbered lists -/

namespace ColumnList

variable {columns columns' front back : List Column} {c : Column}

theorem names_ofList (columns : List Column) :
    (ofList columns).toList.map Column.name = columns.map Column.name := by
  apply List.ext_getElem <;> simp [Column.movedTo]

/-- The positions that columns have before they are numbered do not matter. -/
theorem ofList_congr (h : columns.map (·.movedTo 0) = columns'.map (·.movedTo 0)) :
    ofList columns = ofList columns' := by
  rw [← ofList_movedTo columns, h, ofList_movedTo]

theorem movedTo_toList_ofList (columns : List Column) :
    (ofList columns).toList.map (·.movedTo 0) = columns.map (·.movedTo 0) := by
  apply List.ext_getElem <;> simp [Column.movedTo]

theorem indexOf?_ofList (name : String) (columns : List Column) :
    (ofList columns).indexOf? name = (Columns.split? name columns).map fun r => r.1.length := by
  have hnames : (ofList columns).indexOf? name =
      (columns.map Column.name).findIdx? fun a => Text.lower a = Text.lower name := by
    rw [indexOf?_eq, ← names_ofList, List.findIdx?_map]
    rfl
  rw [hnames]
  clear hnames
  induction columns with
  | nil => rfl
  | cons c columns ih =>
    rw [List.map_cons, List.findIdx?_cons, Columns.split?_cons, ih]
    by_cases hname : Text.lower c.name = Text.lower name
    · simp [hname]
    · simp [hname, Function.comp_def]

theorem contains_ofList (name : String) (columns : List Column) :
    (ofList columns).contains name = (Columns.split? name columns).isSome := by
  rw [Bool.eq_iff_iff, contains_iff, keys_ofList, Columns.isSome_split?_iff]

theorem insertIdx_length (front back : List Column) (c : Column) :
    (front ++ back).insertIdx front.length c = front ++ c :: back := by
  induction front with
  | nil => rfl
  | cons d front ih => rw [List.cons_append, List.length_cons, List.insertIdx_succ_cons, ih]; rfl

theorem insert_ofList (front back : List Column) (c : Column) :
    (ofList (front ++ back)).insert front.length c = ofList (front ++ c :: back) := by
  rw [insert, ← insertIdx_length front back c]
  refine ofList_congr ?_
  rw [List.map_insertIdx, List.map_insertIdx, movedTo_toList_ofList]
  congr 1
  simp [size]

theorem erase_ofList (front back : List Column) (c : Column) :
    (ofList (front ++ c :: back)).erase front.length = ofList (front ++ back) := by
  have hlist : front ++ back = (front ++ c :: back).eraseIdx front.length := by
    simp [List.eraseIdx_append_of_length_le]
  rw [erase_eq, hlist]
  refine ofList_congr ?_
  rw [← List.eraseIdx_map, ← List.eraseIdx_map, movedTo_toList_ofList]

theorem modify_ofList (front back : List Column) (c : Column) {change : Column → Column}
    (h : ∀ c, (change c).movedTo 0 = change (c.movedTo 0)) :
    (ofList (front ++ c :: back)).modify front.length change =
      ofList (front ++ change c :: back) := by
  rw [modify, List.modify_eq_take_cons_drop (by simp)]
  refine ofList_congr ?_
  have hmoved : (change (c.movedTo front.length)).movedTo 0 = (change c).movedTo 0 := by
    rw [h, h]
    rfl
  rw [List.map_append, List.map_cons, List.map_take, List.map_drop, movedTo_toList_ofList, h]
  simpa [List.drop_append, ← h] using hmoved

theorem size_ofList (columns : List Column) : (ofList columns).size = columns.length := by
  simp [size]

theorem map_ofList (columns : List Column) {change : Column → Column}
    (h : ∀ c, (change c).movedTo 0 = change (c.movedTo 0)) :
    (ofList columns).map change = ofList (columns.map change) := by
  have hlist : ∀ l : List Column,
      (l.map change).map (·.movedTo 0) = (l.map (·.movedTo 0)).map change := by
    intro l
    rw [List.map_map, List.map_map]
    exact List.map_congr_left fun c _ => h c
  rw [map_eq]
  refine ofList_congr ?_
  rw [hlist, movedTo_toList_ofList, ← hlist]

end ColumnList

/-! ## Edits of tables -/

namespace Table

variable (here : TableName) {t : Table} {columns : List Column}

/-- A column is inserted where it is put in the plain list. -/
theorem columns_insertColumn (h : t.columns = .ofList columns) (front back : List Column)
    (hcolumns : columns = front ++ back) (column : Column) :
    (t.insertColumn front.length column).columns =
      .ofList (front ++ column.inheritCharset t.charset :: back) := by
  rw [insertColumn, h, hcolumns, ColumnList.insert_ofList]

/-- The index that a placement means, and the list with the column put there. -/
theorem columns_put (h : t.columns = .ofList columns) (column : Column) (placement : Placement)
    (front back : List Column) (hcolumns : columns = front ++ back) :
    ((placement.index here t.columns front.length).map fun index =>
        (t.insertColumn index column).columns) =
      (Columns.put here columns (front ++ column.inheritCharset t.charset :: back)
        (column.inheritCharset t.charset) placement).map ColumnList.ofList := by
  cases placement with
  | standard => exact congrArg Except.ok (columns_insertColumn h front back hcolumns column)
  | first => exact congrArg Except.ok (columns_insertColumn h [] columns rfl column)
  | after name =>
    rw [Placement.index, Columns.put, h, ColumnList.indexOf?_ofList]
    cases hsplit : Columns.split? name columns with
    | none => rfl
    | some r =>
      obtain ⟨before, c, behind⟩ := r
      obtain ⟨hlist, -⟩ := Columns.split?_eq_some hsplit
      have hlength : before.length + 1 = (before ++ [c]).length := by simp
      refine congrArg Except.ok ?_
      show (t.insertColumn (before.length + 1) column).columns = _
      rw [hlength, columns_insertColumn h (before ++ [c]) behind (by simp [hlist])]
      simp

theorem columns_addColumn (h : t.columns = .ofList columns) (column : Column)
    (placement : Placement) (guarded : Bool) :
    (t.addColumn here column placement guarded).map Table.columns =
      ((ColumnEdit.add column placement guarded).onList here t.charset columns).map .ofList := by
  rw [addColumn, ColumnEdit.onList]
  have hthere : t.columns.contains column.name = (Columns.split? column.name columns).isSome := by
    rw [h, ColumnList.contains_ofList]
  cases hsplit : Columns.split? column.name columns with
  | some r =>
    rw [hsplit, Option.isSome_some] at hthere
    rw [if_pos hthere]
    cases guarded with
    | true => exact congrArg Except.ok h
    | false => rfl
  | none =>
    rw [hsplit, Option.isSome_none] at hthere
    rw [if_neg (by simp [hthere])]
    have hput := columns_put here h column placement columns [] (by simp)
    rw [← ColumnList.size_ofList, ← h] at hput
    rw [← hput]
    cases placement.index here t.columns t.columns.size <;> rfl

/-- Whether another column than the one that is found has a name. -/
theorem taken_iff {name : String} (newName : String) {front back : List Column} {c : Column}
    (hdistinct : t.ColumnsDistinct) (h : t.columns = .ofList (front ++ c :: back))
    (hname : Text.lower c.name = Text.lower name) :
    (!columnNamesEqual name newName && t.columns.contains newName) =
      (Columns.split? newName (front ++ back)).isSome := by
  rw [columnsDistinct_iff, h, ColumnList.keys_ofList, List.map_append, List.map_cons,
    List.nodup_middle, ← List.map_append, List.nodup_cons, hname] at hdistinct
  rw [Bool.eq_iff_iff, Bool.and_eq_true, Bool.not_eq_true', ← Bool.not_eq_true,
    columnNamesEqual_iff, ColumnList.contains_iff, h, ColumnList.keys_ofList,
    Columns.isSome_split?_iff, List.map_append, List.map_cons, List.mem_append, List.mem_cons,
    hname, or_left_comm, ← List.mem_append, ← List.map_append]
  constructor
  · rintro ⟨hne, heq | hmem⟩
    · exact absurd heq.symm hne
    · exact hmem
  · intro hmem
    exact ⟨fun heq => hdistinct.1 (heq ▸ hmem), .inr hmem⟩

theorem columns_changeColumn (hdistinct : t.ColumnsDistinct) (h : t.columns = .ofList columns)
    (name : String) (column : Column) (placement : Placement) (guarded : Bool) :
    (t.changeColumn here name column placement guarded).map Table.columns =
      ((ColumnEdit.change name column placement guarded).onList here t.charset columns).map
        .ofList := by
  rw [changeColumn, ColumnEdit.onList, h, ColumnList.indexOf?_ofList]
  cases hsplit : Columns.split? name columns with
  | none =>
    cases guarded with
    | true => exact congrArg Except.ok h
    | false => rfl
  | some r =>
    obtain ⟨front, c, back⟩ := r
    obtain ⟨rfl, hname⟩ := Columns.split?_eq_some hsplit
    have htaken := taken_iff column.name hdistinct h hname
    simp only [Option.map_some, ← h, htaken]
    by_cases hother : (Columns.split? column.name (front ++ back)).isSome = true
    · rw [if_pos hother, if_pos hother]
      rfl
    · rw [if_neg hother, if_neg hother]
      have hwithout : (t.eraseColumn front.length).columns = .ofList (front ++ back) := by
        rw [eraseColumn, h, ColumnList.erase_ofList]
      have hput := columns_put here hwithout column placement front back rfl
      refine Eq.trans ?_ hput
      cases placement.index here (t.eraseColumn front.length).columns front.length with
      | error e => rfl
      | ok index => cases columnNamesEqual name column.name <;> rfl

theorem columns_removeColumn (h : t.columns = .ofList columns) (name : String) (guarded : Bool) :
    (t.removeColumn here name guarded).map Table.columns =
      ((ColumnEdit.remove name guarded).onList here t.charset columns).map .ofList := by
  rw [removeColumn, ColumnEdit.onList, h, ColumnList.indexOf?_ofList]
  cases hsplit : Columns.split? name columns with
  | none =>
    cases guarded with
    | true => exact congrArg Except.ok h
    | false => rfl
  | some r =>
    obtain ⟨front, c, back⟩ := r
    obtain ⟨rfl, -⟩ := Columns.split?_eq_some hsplit
    have hwithout : (t.eraseColumn front.length).columns = .ofList (front ++ back) := by
      rw [eraseColumn, h, ColumnList.erase_ofList]
    exact congrArg Except.ok hwithout

theorem columns_renameColumnTo (hdistinct : t.ColumnsDistinct) (h : t.columns = .ofList columns)
    (name newName : String) :
    (t.renameColumnTo here name newName).map Table.columns =
      ((ColumnEdit.rename name newName).onList here t.charset columns).map .ofList := by
  rw [renameColumnTo, ColumnEdit.onList, h, ColumnList.indexOf?_ofList]
  cases hsplit : Columns.split? name columns with
  | none => rfl
  | some r =>
    obtain ⟨front, c, back⟩ := r
    obtain ⟨rfl, hname⟩ := Columns.split?_eq_some hsplit
    simp only [Option.map_some, ← h, taken_iff newName hdistinct h hname]
    by_cases hother : (Columns.split? newName (front ++ back)).isSome = true
    · rw [if_pos hother, if_pos hother]
      rfl
    · rw [if_neg hother, if_neg hother]
      have hrenamed : (t.renameColumn front.length newName).columns =
          .ofList (front ++ c.renamed newName :: back) := by
        rw [renameColumn, h]
        exact ColumnList.modify_ofList front back c fun _ => rfl
      exact congrArg Except.ok hrenamed

/-- An edit does to the columns of a table what it does to a plain list. -/
theorem columns_editColumn (hdistinct : t.ColumnsDistinct) (h : t.columns = .ofList columns)
    (edit : ColumnEdit) :
    (t.editColumn here edit).map Table.columns =
      (edit.onList here t.charset columns).map .ofList := by
  cases edit with
  | add column placement guarded => exact columns_addColumn here h column placement guarded
  | change name column placement guarded =>
    exact columns_changeColumn here hdistinct h name column placement guarded
  | remove name guarded => exact columns_removeColumn here h name guarded
  | rename name newName => exact columns_renameColumnTo here hdistinct h name newName

/-- Several edits do, too: each finds the columns as those before have left them. -/
theorem columns_editColumns (hdistinct : t.ColumnsDistinct) (h : t.columns = .ofList columns)
    (edits : List ColumnEdit) :
    (t.editColumns here edits).map Table.columns =
      (edits.foldlM (ColumnEdit.onList here t.charset) columns).map .ofList := by
  induction edits generalizing t columns with
  | nil => exact congrArg Except.ok h
  | cons edit edits ih =>
    have hstep := columns_editColumn here hdistinct h edit
    rw [editColumns, List.foldlM_cons, List.foldlM_cons]
    cases hedited : t.editColumn here edit with
    | error e =>
      rw [hedited] at hstep
      rw [map_eq_error_iff.1 hstep.symm]
      rfl
    | ok t' =>
      rw [hedited] at hstep
      obtain ⟨columns', hcolumns', hlist⟩ := map_eq_ok_iff.1 hstep.symm
      rw [hcolumns']
      have hrest := ih ((editColumn_samePlace hedited).columns_distinct hdistinct) hlist.symm
      rw [(kindsFrom_of_editColumn hedited).charset] at hrest
      exact hrest

end Table

/-! ## Definitions that statements are resolved to -/

namespace Request

variable {config : Config} {s : Schema} {old renamed : Table}

/-- Renaming a table changes nothing but its place. -/
theorem renamedTable_eq_relocated {newName : Option TableName}
    (h : renamedTable config s old newName = .ok renamed) :
    renamed = old.relocated renamed.database renamed.name := by
  cases newName with
  | none =>
    cases h
    rfl
  | some written =>
    have h := renamedTable_some_eq_ok_iff.1 h
    split at h
    · subst h
      rfl
    · obtain ⟨place, -, rfl⟩ := h
      rfl

/-- The columns of the definition that an edit of a table is resolved to are those of the table with
the edits done to them as to a plain list, numbered from zero; resolving fails where this fails, or
for the new name of the table. -/
theorem resolve_columns_eq (config : Config) (s : Schema) (name : TableName) (edit : TableEdit)
    {old : Table} (hold : s.requireTable name.database name.table = .ok old)
    (hdistinct : old.ColumnsDistinct) :
    ((Request.alterTable name edit).resolve config s).map
        (Option.map fun c => c.definitions.map Table.columns) = do
      discard <| renamedTable config s old edit.newName
      let columns ← edit.columns.foldlM (ColumnEdit.onList ⟨old.database, old.name⟩
        (edit.charset.getD old.charset)) old.columns.toList
      return some [.ofList (edit.convertTo.elim columns fun charset =>
        columns.map (·.convertCharset charset))] := by
  change (resolveAlterTable config s name edit).map _ = _
  rw [resolveAlterTable, hold]
  change (editedTable config s old edit >>= fun new =>
    pure (some (Change.alterTable old.database old.name old new))).map _ = _
  rw [editedTable]
  cases hrenamed : renamedTable config s old edit.newName with
  | error e => rfl
  | ok renamed =>
    have hplace := renamedTable_eq_relocated hrenamed
    obtain ⟨hcolumns, hcharset⟩ : renamed.columns = .ofList old.columns.toList ∧
        renamed.charset = old.charset := by
      rw [hplace, ColumnList.ofList_toList]
      exact ⟨rfl, rfl⟩
    have hkeys : renamed.columns.keys = old.columns.keys := by
      rw [hcolumns, ColumnList.ofList_toList]
    have hedits := Table.columns_editColumns ⟨old.database, old.name⟩
      (t := { renamed with charset := edit.charset.getD renamed.charset })
      (hdistinct.of_keys_eq hkeys) hcolumns edit.columns
    simp only [hcharset] at hedits
    simp only [bind, Except.bind, hcharset]
    cases hedited : Table.editColumns ⟨old.database, old.name⟩
        { renamed with charset := edit.charset.getD old.charset } edit.columns with
    | error e =>
      rw [hedited] at hedits
      rw [map_eq_error_iff.1 hedits.symm]
      rfl
    | ok edited =>
      rw [hedited] at hedits
      obtain ⟨columns, hplain, hlist⟩ := map_eq_ok_iff.1 hedits.symm
      rw [hplain]
      have hconverted : (edit.convertTo.elim edited edited.convertTo).columns =
          .ofList (edit.convertTo.elim columns fun charset =>
            columns.map (·.convertCharset charset)) := by
        cases edit.convertTo with
        | none => exact hlist.symm
        | some charset =>
          show edited.columns.map (·.convertCharset charset) = _
          rw [← hlist]
          exact ColumnList.map_ofList columns fun _ => rfl
      exact congrArg (fun l => Except.ok (some [l])) hconverted

/-- A column is put in front, one is moved and given another name, one is passed over, and one is
renamed; but no column can be moved behind itself. -/
theorem resolve_columns_eq_moved :
    let number (name : String) : Column := ⟨name, .integer .regular true, 0⟩
    let text (name : String) (charset : Option String) : Column := ⟨name, .text .varying charset, 0⟩
    let s : Schema := ⟨"utf8mb4", .sensitive, [⟨"shop", "utf8mb4",
      [.create "shop" "items" "latin1" [number "id", text "name" none] ["id"]]⟩]⟩
    let edits : List ColumnEdit := [.add (text "note" none) .first false,
      .change "ID" (number "key") (.after "NAME") false, .remove "ghost" true,
      .rename "name" "title"]
    let resolved (edits : List ColumnEdit) :=
      ((Request.alterTable ⟨"shop", "items"⟩ ⟨edits, none, none, some "utf8mb4", none⟩).resolve
        .standard s).map (Option.map fun c => c.definitions.map Table.columns)
    resolved edits = .ok (some [.ofList
      [text "note" (some "utf8mb4"), text "title" (some "latin1"), number "key"]]) ∧
    resolved [.change "id" (number "id") (.after "ID") false] =
      .error (.columnNotFound "shop" "items" "ID") := by
  intro number text s edits resolved
  have hold : s.requireTable "shop" "items" =
      .ok (.create "shop" "items" "latin1" [number "id", text "name" none] ["id"]) := rfl
  have hdistinct : (Table.create "shop" "items" "latin1" [number "id", text "name" none]
      ["id"]).ColumnsDistinct := Table.columnsDistinct_iff.2 (by decide +kernel)
  refine ⟨(resolve_columns_eq .standard s ⟨"shop", "items"⟩ _ hold hdistinct).trans ?_,
    (resolve_columns_eq .standard s ⟨"shop", "items"⟩ _ hold hdistinct).trans ?_⟩
  · exact toOption_eq_some_iff.1 (by decide +kernel)
  · exact error?_eq_some_iff.1 (by decide +kernel)

end Request

end SchemaTrail
