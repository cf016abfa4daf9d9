import SchemaTrail.Column.Basic
import SchemaTrail.Schema.CaseMode

/-!
# Lists of columns

The columns of a table are a list in which every column knows its position, with an index of their
names beside it.  Every operation that changes the list numbers it and makes the index anew.  A
column is found through the index by its name without letter case; of several with one name, the
first (`ColumnList.indexOf?_eq`).
-/

namespace SchemaTrail

/-- Whether a column has a name, up to letter case. -/
def Column.isNamed (c : Column) (name : String) : Bool :=
  Text.lower c.name = Text.lower name

/-- The column is where it stands in its list already. -/
theorem Column.movedTo_of_position {c : Column} {i : Nat} (h : c.position = i) :
    c.movedTo i = c := by
  subst h
  rfl

/-! ## Indices of names -/

/-- The places of columns by their names in lower case. -/
structure NameIndex where
  places : List (String × Nat)
  deriving Repr

namespace NameIndex

/-- The place that a name in lower case has. -/
def find? (index : NameIndex) (key : String) : Option Nat :=
  index.places.lookup key

/-- Gives a name in lower case a place, unless it has one. -/
def insertIfNew (index : NameIndex) (key : String) (place : Nat) : NameIndex :=
  if (index.find? key).isSome then index else ⟨(key, place) :: index.places⟩

/-- Gives columns places, the first of them the given one. -/
def extend (index : NameIndex) (place : Nat) : List Column → NameIndex
  | [] => index
  | c :: cs => (index.insertIfNew (Text.lower c.name) place).extend (place + 1) cs

/-- The index of columns that are counted from zero. -/
def ofColumns (columns : List Column) : NameIndex :=
  extend ⟨[]⟩ 0 columns

theorem find?_insertIfNew (index : NameIndex) (key k : String) (place : Nat) :
    (index.insertIfNew key place).find? k =
      (index.find? k).or (if key = k then some place else none) := by
  unfold insertIfNew
  by_cases hk : key = k
  · subst hk
    cases hplace : index.find? key with
    | none => simp [find?]
    | some old => simp [hplace]
  · rw [if_neg hk, Option.or_none]
    split
    · rfl
    · have hbeq : (k == key) = false := by simpa using Ne.symm hk
      simp [find?, List.lookup_cons, hbeq]

theorem find?_extend (index : NameIndex) (place : Nat) (columns : List Column) (key : String) :
    (index.extend place columns).find? key =
      (index.find? key).or
        ((columns.findIdx? fun c => Text.lower c.name = key).map (· + place)) := by
  induction columns generalizing index place with
  | nil => simp [extend]
  | cons c columns ih =>
    rw [extend, ih, find?_insertIfNew, Option.or_assoc, List.findIdx?_cons]
    by_cases hc : Text.lower c.name = key
    · simp [hc]
    · simp [hc, Function.comp_def, Nat.add_assoc, Nat.add_comm 1]

/-- The place of a name is that of the first column with the name. -/
theorem find?_ofColumns (columns : List Column) (key : String) :
    (ofColumns columns).find? key = columns.findIdx? fun c => Text.lower c.name = key := by
  rw [ofColumns, find?_extend]
  simp [find?]

end NameIndex

/-! ## Lists -/

/-- A list of columns with their positions, counted from zero, and the index of their names. -/
structure ColumnList where
  toList : List Column
  byName : NameIndex
  numbered : toList.map Column.position = List.range toList.length
  indexed : byName = .ofColumns toList
  deriving Repr

namespace ColumnList

theorem ext {l m : ColumnList} (h : l.toList = m.toList) : l = m := by
  obtain ⟨columns, _, _, rfl⟩ := l
  obtain ⟨columns', _, _, rfl⟩ := m
  cases h
  rfl

instance : DecidableEq ColumnList := fun l m =>
  decidable_of_iff (l.toList = m.toList) ⟨ext, congrArg toList⟩

/-- The list of the given columns, whatever positions they have. -/
def ofList (columns : List Column) : ColumnList where
  toList := columns.mapIdx fun i c => c.movedTo i
  byName := .ofColumns (columns.mapIdx fun i c => c.movedTo i)
  numbered := by
    apply List.ext_getElem <;> simp [Column.movedTo]
  indexed := rfl

@[simp] theorem toList_ofList (columns : List Column) :
    (ofList columns).toList = columns.mapIdx fun i c => c.movedTo i := rfl

theorem position_getElem (l : ColumnList) {i : Nat} (h : i < l.toList.length) :
    l.toList[i].position = i := by
  have hposition := congrArg (·[i]?) l.numbered
  simpa [List.getElem?_map, List.getElem?_eq_getElem h, List.getElem?_range h] using hposition

theorem ofList_toList (l : ColumnList) : ofList l.toList = l := by
  refine ext (List.ext_getElem (by simp) fun i hi hi' => ?_)
  simpa using Column.movedTo_of_position (l.position_getElem hi')

/-- The number of columns. -/
def size (l : ColumnList) : Nat :=
  l.toList.length

/-- Whether there are no columns. -/
def isEmpty (l : ColumnList) : Bool :=
  l.toList.isEmpty

/-- The column at an index. -/
def get? (l : ColumnList) (index : Nat) : Option Column :=
  l.toList[index]?

/-- The names of the columns. -/
def names (l : ColumnList) : List String :=
  l.toList.map Column.name

/-! ### Columns by their names -/

/-- The index of the first column with a name. -/
def indexOf? (l : ColumnList) (name : String) : Option Nat :=
  l.byName.find? (Text.lower name)

/-- The first column with a name. -/
def find? (l : ColumnList) (name : String) : Option Column :=
  (l.indexOf? name).bind l.get?

/-- Whether there is a column with a name. -/
def contains (l : ColumnList) (name : String) : Bool :=
  (l.indexOf? name).isSome

theorem indexOf?_eq (l : ColumnList) (name : String) :
    l.indexOf? name = l.toList.findIdx? fun c => c.isNamed name := by
  rw [indexOf?, l.indexed, NameIndex.find?_ofColumns]
  rfl

theorem find?_eq (l : ColumnList) (name : String) :
    l.find? name = l.toList.find? fun c => c.isNamed name := by
  unfold find? get?
  rw [indexOf?_eq]
  induction l.toList with
  | nil => rfl
  | cons c columns ih =>
    rw [List.findIdx?_cons, List.find?_cons]
    cases c.isNamed name with
    | true => rfl
    | false => simpa [Option.bind_map, Function.comp_def] using ih

theorem contains_eq (l : ColumnList) (name : String) :
    l.contains name = l.toList.any fun c => c.isNamed name := by
  rw [contains, indexOf?_eq, List.findIdx?_isSome]

/-! ### Changes -/

/-- Puts a column at an index, or at the end if the list is shorter. -/
def insert (l : ColumnList) (index : Nat) (column : Column) : ColumnList :=
  ofList (l.toList.insertIdx (min index l.size) column)

/-- Takes out the column at an index, if there is one. -/
def remove (l : ColumnList) (index : Nat) : Option Column × ColumnList :=
  match l.get? index with
  | some column => (some column, ofList (l.toList.eraseIdx index))
  | none => (none, l)

/-- Removes the column at an index, if there is one. -/
def erase (l : ColumnList) (index : Nat) : ColumnList :=
  (l.remove index).2

/-- Changes the column at an index, if there is one. -/
def modify (l : ColumnList) (index : Nat) (change : Column → Column) : ColumnList :=
  ofList (l.toList.modify index change)

/-- Changes every column, each as its index says. -/
def mapIdx (l : ColumnList) (change : Nat → Column → Column) : ColumnList :=
  ofList (l.toList.mapIdx change)

/-- Changes every column. -/
def map (l : ColumnList) (change : Column → Column) : ColumnList :=
  l.mapIdx fun _ => change

theorem erase_eq (l : ColumnList) (index : Nat) :
    l.erase index = ofList (l.toList.eraseIdx index) := by
  unfold erase remove get?
  split
  · rfl
  next hnone =>
    rw [List.eraseIdx_of_length_le (List.getElem?_eq_none_iff.1 hnone), ofList_toList]

theorem map_eq (l : ColumnList) (change : Column → Column) :
    l.map change = ofList (l.toList.map change) := by
  rw [map, mapIdx]
  congr 1
  apply List.ext_getElem <;> simp

end ColumnList

end SchemaTrail
