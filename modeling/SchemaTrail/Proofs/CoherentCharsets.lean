import SchemaTrail.Proofs.AssembledTables
import SchemaTrail.Proofs.EditedLists
import SchemaTrail.Proofs.RecordedChanges

/-!
# Coherent charsets

In every schema that a tracker reaches from an empty or a captured one, texts have a charset and
byte strings have `binary`, and the kind of a column is the one that is declared by its type and by
what the kind says besides, with the charset in lower case (`Column.Coherent`).  A charset that is
inherited stays as it is spelled; so the kind is exactly the declared one if those of the schema at
the start are in lower case.  A conversion of a table gives the charset to its texts, except those
in `binary`, and changes nothing else about columns (`Tracker.run_coherent`).
-/

namespace SchemaTrail

open Outcome

/-! ## Columns -/

/-- The kind of a column is declared by its type and attributes that describe it. -/
def Column.IsDeclared (c : Column) : Prop :=
  ∀ a : Attributes, a.Describe c.kind → ColumnKind.declare? c.typeName a = some c.kind

/-- Texts have a charset and byte strings have `binary`, and a kind is the declared one if its
charset is in lower case. -/
structure Column.Coherent (c : Column) : Prop where
  texts : ∀ size : StringSize, c.typeName = size.textName →
    ∃ charset, c.kind.charset? = some charset
  bytes : ∀ size : StringSize, c.typeName = size.bytesName →
    c.kind.charset? = some binaryCharset
  declared : c.IsDeclared ↔ c.CharsetLower

/-- A column before and after a conversion: texts that are not in `binary` take the charset. -/
structure Column.ConvertsTo (charset : String) (c c' : Column) : Prop where
  name : c'.name = c.name
  position : c'.position = c.position
  texts : ∀ size declared, c.kind = .text size declared → declared ≠ some binaryCharset →
    c'.kind = .text size (some charset)
  others : (∀ size declared, c.kind = .text size declared → declared = some binaryCharset) →
    c'.kind = c.kind

/-! ## Types of texts and byte strings -/

theorem StringSize.textName_injective {a b : StringSize} (h : a.textName = b.textName) : a = b := by
  cases a <;> cases b <;> first | rfl | exact absurd h (by decide)

theorem StringSize.bytesName_injective {a b : StringSize} (h : a.bytesName = b.bytesName) :
    a = b := by
  cases a <;> cases b <;> first | rfl | exact absurd h (by decide)

namespace ColumnKind

variable {k : ColumnKind} {size : StringSize}

theorem eq_text_of_typeName (h : k.typeName = size.textName) :
    ∃ charset, k = .text size charset := by
  cases k with
  | text other charset => exact ⟨charset, by rw [StringSize.textName_injective h]⟩
  | integer other _ =>
    cases other <;> cases size <;> simp [typeName, IntegerSize.typeName, StringSize.textName] at h
  | bytes other =>
    cases other <;> cases size <;> simp [typeName, StringSize.bytesName, StringSize.textName] at h
  | spatial other =>
    cases other <;> cases size <;> simp [typeName, Shape.typeName, StringSize.textName] at h
  | _ => cases size <;> simp [typeName, StringSize.textName] at h

theorem eq_bytes_of_typeName (h : k.typeName = size.bytesName) : k = .bytes size := by
  cases k with
  | bytes other => rw [StringSize.bytesName_injective h]
  | text other _ =>
    obtain ⟨charset, htext⟩ := eq_text_of_typeName h.symm (k := .bytes size)
    cases htext
  | integer other _ =>
    cases other <;> cases size <;> simp [typeName, IntegerSize.typeName, StringSize.bytesName] at h
  | spatial other =>
    cases other <;> cases size <;> simp [typeName, Shape.typeName, StringSize.bytesName] at h
  | _ => cases size <;> simp [typeName, StringSize.bytesName] at h

end ColumnKind

theorem Column.isDeclared_iff {c : Column} : c.IsDeclared ↔ c.CharsetLower := by
  constructor
  · intro h
    have hkind := h c.kind.attributes c.kind.attributes_describe
    rw [typeName, ColumnKind.declare?_typeName c.kind.attributes_describe] at hkind
    exact Option.some.inj hkind
  · intro h a ha
    rw [typeName, ColumnKind.declare?_typeName ha, h]

theorem Column.coherent_of_hasCharset {c : Column} (h : c.kind.HasCharset) : c.Coherent where
  texts size hname := by
    obtain ⟨charset, hkind⟩ := ColumnKind.eq_text_of_typeName hname
    rw [hkind] at h ⊢
    cases charset with
    | none => cases h binaryCharset
    | some charset => exact ⟨charset, rfl⟩
  bytes size hname := by
    rw [ColumnKind.eq_bytes_of_typeName hname]
    rfl
  declared := isDeclared_iff

theorem Column.convertsTo_convertCharset (charset : String) (c : Column) :
    c.ConvertsTo charset (c.convertCharset charset) where
  name := rfl
  position := rfl
  texts size declared hkind hcharset := by
    rw [convertCharset, hkind]
    exact if_neg fun hbinary => hcharset (of_decide_eq_true hbinary)
  others hothers := by
    rw [convertCharset]
    cases hkind : c.kind with
    | text size declared =>
      rw [hothers size declared hkind]
      rfl
    | _ => rfl

/-! ## Schemas to start from -/

/-- The schemas that a tracker starts from: an empty one, or one that is assembled from rows. -/
inductive Schema.IsStart : Schema → Prop
  | empty (charset : String) (mode : CaseMode) : IsStart (.empty charset mode)
  | captured {rows : Capture} {mode : CaseMode} {s : Schema} (h : rows.schema mode = .ok s) :
    IsStart s

/-- What holds of each table that is made for a row holds of the tables of an assembled schema. -/
theorem Capture.schema_allTables {rows : Capture} {mode : CaseMode} {s : Schema}
    {P : Table → Prop} (h : rows.schema mode = .ok s)
    (hP : ∀ (r : CapturedTable) columns keys t, r.table columns keys = .ok t → P t) :
    s.AllTables fun _ t => P t := by
  obtain ⟨a, ha, -, rfl⟩ := schema_eq_ok_iff.1 h
  refine foldlM_induction (motive := fun a => a.schema.AllTables fun _ t => P t) ha ?_
    fun a hall r _ a' hstep => ?_
  · exact List.forall_mem_map.2 fun _ _ => List.forall_mem_nil _
  · obtain ⟨t, ht, hs, -, -⟩ := Assembly.addTable_eq_ok_iff.1 hstep
    exact Schema.AllTables.addTable hall hs fun _ _ _ => hP r _ _ t ht

theorem CapturedTable.hasCharsets_of_table {r : CapturedTable} {columns : List CapturedColumn}
    {keys : List CapturedKey} {t : Table} (h : r.table columns keys = .ok t) : t.HasCharsets := by
  obtain ⟨cs, -, h⟩ := bind_eq_ok_iff.1 h
  cases h
  exact Table.hasCharsets_create _ _ _ cs _

theorem CapturedTable.charsetsLower_of_table {r : CapturedTable} {columns : List CapturedColumn}
    {keys : List CapturedKey} {t : Table} (h : r.table columns keys = .ok t)
    (ht : Text.IsLower t.charset) : t.CharsetsLower := by
  obtain ⟨cs, hcs, h⟩ := bind_eq_ok_iff.1 h
  cases h
  have hlower := (forall₂_of_mapM hcs).flip.imp fun c row hrow =>
    (⟨Column.charsetLower_of_declare hrow, trivial⟩ : c.CharsetLower ∧ True)
  exact Table.charsetsLower_create ht ((List.forall₂_and_left _ _).1 hlower).1

namespace Schema.IsStart

variable {s : Schema} (h : s.IsStart)
include h

theorem hasCharsets : s.HasCharsets := by
  cases h with
  | empty charset mode => exact List.forall_mem_nil _
  | captured h =>
    exact Capture.schema_allTables h fun _ _ _ _ => CapturedTable.hasCharsets_of_table

theorem charsetsLower (hs : s.DefaultsLower) : s.CharsetsLower := by
  refine charsetsLower_iff.2 ⟨hs, ?_⟩
  cases h with
  | empty charset mode => exact List.forall_mem_nil _
  | captured h =>
    have htables := Capture.schema_allTables h fun _ _ _ _ => CapturedTable.charsetsLower_of_table
    exact fun d hd t ht => (htables d hd t ht ((hs.databases d hd).2 t ht)).columns

end Schema.IsStart

/-! ## Columns that edits leave -/

/-- Whether an edit changes, removes or renames columns of a name. -/
def ColumnEdit.touches (name : String) : ColumnEdit → Bool
  | .add .. => false
  | .change edited _ _ _ | .remove edited _ | .rename edited _ => columnNamesEqual edited name

namespace Table

/-- The columns of the table without their positions. -/
def unnumbered (t : Table) : List Column :=
  t.columns.toList.map (·.movedTo 0)

/-- The columns of the table that none of some edits touches. -/
def untouched (t : Table) (edits : List ColumnEdit) : List Column :=
  t.unnumbered.filter fun c => !edits.any (·.touches c.name)

variable {here : TableName} {t t' : Table} {edit : ColumnEdit} {name : String} {index : Nat}

theorem unnumbered_of_columns {columns : List Column} (h : t.columns = .ofList columns) :
    t.unnumbered = columns.map (·.movedTo 0) := by
  rw [unnumbered, h]
  exact ColumnList.movedTo_toList_ofList columns

theorem unnumbered_insertColumn_sublist (t : Table) (index : Nat) (column : Column) :
    t.unnumbered.Sublist (t.insertColumn index column).unnumbered := by
  rw [unnumbered_of_columns (t := t.insertColumn index column) rfl]
  exact (List.sublist_insertIdx _ _ _).map _

/-- Without the column that a name finds there are still all columns of other names. -/
theorem filter_unnumbered_sublist_eraseColumn (h : t.columns.indexOf? name = some index) :
    (t.unnumbered.filter fun c => !columnNamesEqual name c.name).Sublist
      (t.eraseColumn index).unnumbered := by
  obtain ⟨front, c, back, hcolumns, rfl, hname⟩ := ColumnList.split_of_indexOf? h
  have htouched : columnNamesEqual name c.name = true := columnNamesEqual_iff.2 hname.symm
  have herased : t.columns.toList.eraseIdx front.length = front ++ back := by
    rw [hcolumns]
    simp [List.eraseIdx_append_of_length_le]
  rw [unnumbered_of_columns (t := t.eraseColumn front.length) (t.columns.erase_eq _), herased,
    unnumbered, hcolumns, List.filter_map]
  refine List.Sublist.map _ ?_
  rw [List.filter_append, List.filter_cons_of_neg (by simp [Column.movedTo, htouched])]
  exact List.filter_sublist.append List.filter_sublist

theorem eraseIdx_sublist_modify {α : Type} (xs : List α) (index : Nat) (change : α → α) :
    (xs.eraseIdx index).Sublist (xs.modify index change) := by
  induction xs generalizing index with
  | nil => simp
  | cons x xs ih =>
    cases index with
    | zero => simp
    | succ index => simpa using ih index

theorem unnumbered_eraseColumn_sublist_renameColumn (t : Table) (index : Nat) (newName : String) :
    (t.eraseColumn index).unnumbered.Sublist (t.renameColumn index newName).unnumbered := by
  rw [unnumbered_of_columns (t := t.eraseColumn index) (t.columns.erase_eq _),
    unnumbered_of_columns (t := t.renameColumn index newName) rfl]
  exact (eraseIdx_sublist_modify _ _ _).map _

theorem EditsTo.untouched_sublist (h : t.EditsTo here edit t') :
    (t.unnumbered.filter fun c => !edit.touches c.name).Sublist t'.unnumbered := by
  cases h with
  | addPassedOver | changePassedOver | removePassedOver => exact List.filter_sublist
  | add => exact List.filter_sublist.trans (unnumbered_insertColumn_sublist t _ _)
  | replace hcurrent =>
    exact (filter_unnumbered_sublist_eraseColumn hcurrent).trans
      (unnumbered_insertColumn_sublist _ _ _)
  | change hcurrent =>
    exact (filter_unnumbered_sublist_eraseColumn hcurrent).trans
      (unnumbered_insertColumn_sublist _ _ _)
  | remove hindex => exact filter_unnumbered_sublist_eraseColumn hindex
  | rename hindex =>
    exact (filter_unnumbered_sublist_eraseColumn hindex).trans
      (unnumbered_eraseColumn_sublist_renameColumn t _ _)

/-- The columns that edits do not touch stay, in their order. -/
theorem untouched_sublist_of_editColumns {edits : List ColumnEdit}
    (h : t.editColumns here edits = .ok t') : (t.untouched edits).Sublist t'.unnumbered := by
  induction edits generalizing t with
  | nil =>
    cases h
    exact List.filter_sublist
  | cons edit edits ih =>
    obtain ⟨next, hnext, h⟩ := bind_eq_ok_iff.1 h
    have hfirst : t.untouched (edit :: edits) =
        (t.unnumbered.filter fun c => !edit.touches c.name).filter
          fun c => !edits.any (·.touches c.name) := by
      rw [untouched, List.filter_filter]
      exact List.filter_congr fun c _ => by rw [List.any_cons, Bool.not_or, Bool.and_comm]
    rw [hfirst]
    exact ((editColumn_eq_ok_iff.1 hnext).untouched_sublist.filter _).trans (ih h)

end Table

/-! ## Conversions -/

/-- What a conversion adds to an edit of a table: without it the edit leads from `old` to `plain`,
with it to `new`.  The columns that are not edited are those of the old table. -/
structure Table.ConvertsTo (charset : String) (edits : List ColumnEdit) (old plain new : Table) :
    Prop where
  untouched : (old.untouched edits).Sublist plain.unnumbered
  columns : List.Forall₂ (Column.ConvertsTo charset) plain.columns.toList new.columns.toList
  rest : new = { plain with charset, columns := new.columns }

theorem Table.forall₂_convertTo (t : Table) (charset : String) :
    List.Forall₂ (Column.ConvertsTo charset) t.columns.toList
      (t.convertTo charset).columns.toList := by
  have hmap : (t.convertTo charset).columns.toList =
      t.columns.toList.map (·.convertCharset charset) := t.columns.toList_map fun _ => rfl
  rw [hmap, List.forall₂_map_right_iff, List.forall₂_same]
  exact fun c _ => c.convertsTo_convertCharset charset

theorem Request.editedTable_convertTo {config : Config} {s : Schema} {old new : Table}
    {edit : TableEdit} {charset : String} (hedit : edit.convertTo = some charset)
    (h : editedTable config s old edit = .ok new) :
    ∃ plain, editedTable config s old { edit with convertTo := none } = .ok plain ∧
      old.ConvertsTo charset edit.columns plain new := by
  obtain ⟨renamed, hrenamed, edited, hedited, rfl⟩ := editedTable_eq_ok_iff.1 h
  refine ⟨_, editedTable_eq_ok_iff.2 ⟨renamed, hrenamed, edited, hedited, rfl⟩, ?_, ?_, ?_⟩
  · rw [renamedTable_eq_relocated hrenamed] at hedited
    have huntouched := Table.untouched_sublist_of_editColumns hedited
    exact huntouched
  · rw [hedit]
    exact edited.forall₂_convertTo charset
  · rw [hedit]
    rfl

/-- An edit of a table that converts it can be done just if it can be done without converting. -/
theorem Request.resolve_convertTo {config : Config} {s : Schema} {name : TableName}
    {edit : TableEdit} {charset : String} (hedit : edit.convertTo = some charset) {c : Change}
    (h : (alterTable name edit).resolve config s = .ok (some c)) :
    ∃ old plain new, c = .alterTable old.database old.name old new ∧
      (alterTable name { edit with convertTo := none }).resolve config s =
        .ok (some (.alterTable old.database old.name old plain)) ∧
      old.ConvertsTo charset edit.columns plain new := by
  cases resolve_eq_some_iff.1 h with
  | @alterTable _ _ old new hold hnew =>
    obtain ⟨plain, hplain, hconverts⟩ := editedTable_convertTo hedit hnew
    exact ⟨old, plain, new, rfl, resolve_eq_some_iff.2 (.alterTable hold hplain), hconverts⟩

/-! ## Runs -/

namespace Tracker

variable {s₀ : Schema}

/-- In all schemas that a tracker reaches the charsets of columns are coherent; the kinds of columns
are the declared ones if the charsets at the start are in lower case; and a conversion gives its
charset to the texts of a table that are not in `binary` and to the table, and does nothing else. -/
theorem run_coherent (h : s₀.IsStart) (config : Config) (exclusions : Exclusions)
    (calls : List (Option String × String)) :
    let s := ((start config exclusions s₀).run calls).schema
    s.AllTables (fun _ t => ∀ c ∈ t.columns.toList, c.Coherent) ∧
    (s₀.DefaultsLower → s.AllTables fun _ t => ∀ c ∈ t.columns.toList, c.IsDeclared) ∧
    ∀ s name edit charset c, edit.convertTo = some charset →
      (Request.alterTable name edit).resolve config s = .ok (some c) →
      ∃ old plain new, c = .alterTable old.database old.name old new ∧
        (Request.alterTable name { edit with convertTo := none }).resolve config s =
          .ok (some (.alterTable old.database old.name old plain)) ∧
        old.ConvertsTo charset edit.columns plain new := by
  intro s
  refine ⟨fun d hd t ht c hc => ?_, fun hlower d hd t ht c hc => ?_,
    fun s name edit charset c hedit hc => Request.resolve_convertTo hedit hc⟩
  · have hstart : (start config exclusions s₀).schema.HasCharsets := h.hasCharsets
    exact Column.coherent_of_hasCharset
      (run_hasCharsets hstart calls d hd t ht c.kind (ColumnList.kind_mem hc))
  · obtain ⟨hcharset, hdatabases⟩ := h.charsetsLower hlower
    have hstart : (start config exclusions s₀).schema.CharsetsLower := ⟨hcharset, hdatabases⟩
    exact Column.isDeclared_iff.2
      (((run_charsetsLower hstart calls).databases d hd).tables t ht |>.columns c hc)

/-- A captured table that is converted together with columns that are added, one of them of texts in
`binary`. -/
theorem run_coherent_converted :
    let rows : Capture := ⟨"utf8mb4", [⟨"d", "utf8mb4"⟩], [⟨"d", "t", "latin1"⟩],
      [⟨"d", "t", "a", 4, "TEXT", "text", none, none⟩], []⟩
    let s₀ : Schema := ⟨"utf8mb4", .sensitive, [⟨"d", "utf8mb4",
      [⟨"d", "t", "latin1", [], .ofList [⟨"a", .text .regular (some "latin1"), 0⟩]⟩]⟩]⟩
    let s := ((start ⟨.sensitive, .never, "utf8mb4"⟩ .empty s₀).run [(some "d",
      "ALTER TABLE t ADD b blob, CONVERT TO CHARACTER SET Utf8, ADD c char CHARSET BINARY")]).schema
    rows.schema .sensitive = .ok s₀ ∧
      s.tables.map (fun t => (t.charset, t.columns.toList.map fun c => c.kind.charset?)) =
        [("utf8", [some "utf8", some "binary", some "binary"])] ∧
      s.AllTables (fun _ t => ∀ c ∈ t.columns.toList, c.Coherent) ∧
      s.AllTables fun _ t => ∀ c ∈ t.columns.toList, c.IsDeclared := by
  intro rows s₀ s
  have hrows : rows.schema .sensitive = .ok s₀ := by decide +kernel
  have hlower : s₀.DefaultsLower := by
    constructor <;> unfold Text.IsLower <;> decide +kernel
  obtain ⟨hcoherent, hdeclared, -⟩ :=
    run_coherent (.captured hrows) ⟨.sensitive, .never, "utf8mb4"⟩ .empty [(some "d",
      "ALTER TABLE t ADD b blob, CONVERT TO CHARACTER SET Utf8, ADD c char CHARSET BINARY")]
  exact ⟨hrows, by decide +kernel, hcoherent, hdeclared hlower⟩

/-- A column inherits a charset in upper case, with which no column is declared. -/
theorem run_charset_upper :
    let s := ((start ⟨.sensitive, .never, "UTF8MB4"⟩ .empty (.empty "UTF8MB4" .sensitive)).run
      [(none, "CREATE DATABASE d"), (none, "CREATE TABLE d.t (c varchar(5))")]).schema
    ∃ t ∈ s.tables, ∃ c ∈ t.columns.toList, ¬c.IsDeclared := by
  intro s
  have hupper : ∃ t ∈ s.tables, ∃ c ∈ t.columns.toList, c.kind.lowered ≠ c.kind := by decide +kernel
  obtain ⟨t, ht, c, hc, hkind⟩ := hupper
  exact ⟨t, ht, c, hc, fun h => hkind (Column.isDeclared_iff.1 h)⟩

end Tracker

end SchemaTrail
