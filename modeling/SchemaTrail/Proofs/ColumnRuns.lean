import SchemaTrail.Proofs.EditedLists

/-!
# Runs of operations on column lists

The operations on a column list against the same operations on a plain list, in which columns have
no positions that matter and are searched from the front (`ColumnList.Operation.onPlain`).  One
operation, and hence a whole run, takes the same columns out of both and leaves the plain list
numbered (`ColumnList.run_ofList`).  Every column list is consistent (`ColumnList.consistent`): the
positions are the places of the columns, and the index of names finds what the search finds.
-/

namespace SchemaTrail

namespace ColumnList

/-! ## Operations -/

/-- An operation on a list of columns.  What becomes of a column when all are changed may depend on
its place. -/
inductive Operation where
  | insert (index : Nat) (column : Column)
  | remove (index : Nat)
  | updateEach (change : Nat → Column → Column)

namespace Operation

/-- Does an operation to a column list, and says which column it takes out, if it takes one out. -/
def apply : Operation → ColumnList → Option Column × ColumnList
  | insert index column, l => (none, l.insert index column)
  | remove index, l => l.remove index
  | updateEach change, l => (none, l.mapIdx change)

/-- Does an operation to a plain list.  A column gets its place as its position when it is taken out
or changed. -/
def onPlain : Operation → List Column → Option Column × List Column
  | insert index column, columns => (none, columns.take index ++ column :: columns.drop index)
  | remove index, columns =>
    match columns[index]? with
    | some column => (some (column.movedTo index), columns.take index ++ columns.drop (index + 1))
    | none => (none, columns)
  | updateEach change, columns => (none, columns.mapIdx fun i c => change i (c.movedTo i))

/-- Does operations one after the other, and says what each of them takes out. -/
def runOn {σ : Type} (step : Operation → σ → Option Column × σ) :
    List Operation → σ → List (Option Column) × σ
  | [], state => ([], state)
  | op :: ops, state =>
    let rest := runOn step ops (step op state).2
    ((step op state).1 :: rest.1, rest.2)

end Operation

/-- A run of operations on a column list. -/
def run (ops : List Operation) (l : ColumnList) : List (Option Column) × ColumnList :=
  Operation.runOn Operation.apply ops l

/-- A run of operations on a plain list. -/
def plainRun (ops : List Operation) (columns : List Column) : List (Option Column) × List Column :=
  Operation.runOn Operation.onPlain ops columns

/-! ## Consistency -/

/-- Every column has its place as its position, and the index of names finds the first column whose
name is the given one. -/
structure Consistent (l : ColumnList) : Prop where
  positions : ∀ i c, l.get? i = some c → c.position = i
  index : ∀ name, l.indexOf? name = l.toList.findIdx? fun c => columnNamesEqual c.name name

theorem consistent (l : ColumnList) : l.Consistent where
  positions := by
    intro i c hget
    obtain ⟨hi, rfl⟩ := List.getElem?_eq_some_iff.1 hget
    exact l.position_getElem hi
  index := by
    intro name
    rw [indexOf?_eq]
    congr 1
    funext c
    rw [Bool.eq_iff_iff, columnNamesEqual_iff, Column.isNamed, decide_eq_true_iff]

/-- A list that is made of columns, or read from JSON that describes them. -/
inductive Start : List Column → ColumnList → Prop
  | made (columns : List Column) : Start columns (ofList columns)
  | read {j : Json} {columns : List Column} {l : ColumnList}
      (hcolumns : j.list? Column.ofJson? = some columns) (hread : ofJson? j = some l) :
      Start columns l

variable {columns : List Column} {l : ColumnList}

theorem Start.eq_ofList (h : Start columns l) : l = ofList columns := by
  cases h with
  | made => rfl
  | read hcolumns hread =>
    rw [ofJson?, hcolumns] at hread
    exact (Option.some.inj hread).symm

/-! ## One operation -/

/-- An index behind the end is the end. -/
theorem insert_take_drop (columns : List Column) (index : Nat) (column : Column) :
    (ofList columns).insert index column =
      ofList (columns.take index ++ column :: columns.drop index) := by
  rw [← insert_ofList (columns.take index) (columns.drop index), List.take_append_drop]
  simp [insert, size]

theorem remove_of_size_le {index : Nat} (h : l.size ≤ index) : l.remove index = (none, l) := by
  rw [remove, get?, List.getElem?_eq_none h]

theorem remove_ofList {index : Nat} {column : Column} (h : columns[index]? = some column) :
    (ofList columns).remove index =
      (some (column.movedTo index), ofList (columns.take index ++ columns.drop (index + 1))) := by
  obtain ⟨hindex, rfl⟩ := List.getElem?_eq_some_iff.1 h
  have hget : (ofList columns).get? index = some (columns[index].movedTo index) := by
    simp [get?, hindex]
  have hlength : (columns.take index).length = index := by
    simpa using Nat.min_eq_left (Nat.le_of_lt hindex)
  have herase := erase_ofList (columns.take index) (columns.drop (index + 1)) columns[index]
  rw [← List.drop_eq_getElem_cons hindex, List.take_append_drop, hlength, erase_eq] at herase
  rw [remove, hget]
  exact congrArg (some (columns[index].movedTo index), ·) herase

theorem mapIdx_ofList (columns : List Column) (change : Nat → Column → Column) :
    (ofList columns).mapIdx change = ofList (columns.mapIdx fun i c => change i (c.movedTo i)) := by
  rw [mapIdx, toList_ofList, List.mapIdx_mapIdx]
  rfl

/-- An operation on a column list takes out what it takes out of the plain list, and leaves what it
leaves there. -/
theorem Operation.apply_ofList (op : Operation) (columns : List Column) :
    op.apply (ofList columns) = ((op.onPlain columns).1, ofList (op.onPlain columns).2) := by
  cases op with
  | insert index column => exact congrArg (none, ·) (insert_take_drop columns index column)
  | remove index =>
    cases hcolumn : columns[index]? with
    | none =>
      have hsize : (ofList columns).size ≤ index := by
        simpa [size_ofList] using hcolumn
      simp only [apply, onPlain, hcolumn, remove_of_size_le hsize]
    | some column => simp only [apply, onPlain, hcolumn, remove_ofList hcolumn]
  | updateEach change => exact congrArg (none, ·) (mapIdx_ofList columns change)

/-! ## Runs -/

theorem run_ofList (ops : List Operation) (columns : List Column) :
    run ops (ofList columns) = ((plainRun ops columns).1, ofList (plainRun ops columns).2) := by
  unfold run plainRun
  induction ops generalizing columns with
  | nil => rfl
  | cons op ops ih => simp only [Operation.runOn, Operation.apply_ofList, ih]

/-- However operations follow each other, they take out what they take out of the plain list; the
column list holds the columns of the plain list in their order, it is consistent, and behind its end
there is nothing to take out. -/
theorem run_of_start (h : Start columns l) (ops : List Operation) :
    (run ops l).1 = (plainRun ops columns).1 ∧
      (run ops l).2.toList = (plainRun ops columns).2.mapIdx (fun i c => c.movedTo i) ∧
      (run ops l).2.Consistent ∧
      ∀ index, (plainRun ops columns).2.length ≤ index →
        (run ops l).2.remove index = (none, (run ops l).2) := by
  obtain rfl := h.eq_ofList
  rw [run_ofList]
  refine ⟨rfl, toList_ofList _, consistent _, fun index hindex => remove_of_size_le ?_⟩
  rwa [size_ofList]

/-- Two columns with one name are read; then the first of them is taken out, and a column that was
put behind them gets the name of the second. -/
theorem run_of_start_clashing :
    let read : Json := .array [.object [("type", .string "date"), ("name", .string "Ä")],
      .object [("type", .string "year"), ("name", .string "ä")]]
    let ops : List Operation := [.insert 9 ⟨"b", .json, 4⟩, .remove 0, .remove 7,
      .updateEach fun i c => if i = 0 then c else c.renamed "Ä"]
    ∃ l, ofJson? read = some l ∧ l.indexOf? "ä" = some 0 ∧
      (run ops l).1 = [none, some ⟨"Ä", .date, 0⟩, none, none] ∧
      (run ops l).2.toList = [⟨"ä", .year, 0⟩, ⟨"Ä", .json, 1⟩] ∧
      (run ops l).2.indexOf? "Ä" = some 0 := by
  intro read ops
  have hcolumns : read.list? Column.ofJson? = some [⟨"Ä", .date, 0⟩, ⟨"ä", .year, 0⟩] := by
    dsimp only [read]
    decide +kernel
  have hread : ofJson? read = some (ofList [⟨"Ä", .date, 0⟩, ⟨"ä", .year, 0⟩]) := by
    rw [ofJson?, hcolumns]
    rfl
  obtain ⟨hanswers, hlist, hconsistent, -⟩ := run_of_start (.read hcolumns hread) ops
  refine ⟨_, hread, by decide +kernel, hanswers.trans ?_, hlist.trans ?_, ?_⟩
  · dsimp only [ops]
    decide +kernel
  · dsimp only [ops]
    decide +kernel
  · rw [hconsistent.index, hlist]
    dsimp only [ops]
    decide +kernel

end ColumnList

end SchemaTrail
