import SchemaTrail.Change.Document
import SchemaTrail.Proofs.JsonText
import SchemaTrail.Proofs.LetterCase

/-!
# Documents that are written and read

Reading a column that is written gives it at position zero, and with its charset in lower case: a
declaration lowers the charset, but a column may inherit one that is not in lower case
(`Column.ofJson?_toJson`).  So a table or a change is read back with the charsets of its columns
lowered, and otherwise as it is written (`Change.ofJson?_toJson`).
-/

namespace SchemaTrail

/-! ## Charsets of columns in lower case -/

/-- The kind with its charset in lower case. -/
def ColumnKind.lowered : ColumnKind → ColumnKind
  | .text size charset => .text size (charset.map Text.asciiLower)
  | k => k

/-- The column with its charset in lower case. -/
def Column.lowered (c : Column) : Column :=
  { c with kind := c.kind.lowered }

/-- The table with the charsets of its columns in lower case. -/
def Table.lowered (t : Table) : Table :=
  { t with columns := t.columns.map Column.lowered }

/-- The renamed table with the charsets of its columns in lower case. -/
def Rename.lowered (r : Rename) : Rename :=
  { r with definition := r.definition.lowered }

/-- The change with the charsets of all columns in lower case. -/
def Change.lowered : Change → Change
  | .createTable database table definition => .createTable database table definition.lowered
  | .alterTable database table old definition =>
    .alterTable database table old.lowered definition.lowered
  | .renameTables renames => .renameTables (renames.map Rename.lowered)
  | c => c

theorem ColumnKind.lowered_lowered (k : ColumnKind) : k.lowered.lowered = k.lowered := by
  cases k with
  | text size charset =>
    rw [lowered, lowered, Option.map_map]
    exact congrArg _ (Option.map_congr fun s _ => Text.asciiLower_asciiLower s)
  | _ => rfl

/-! ## Records -/

namespace Json

variable {α β : Type}

theorem record?_object {names : List String} {fields : Record} (hknown : ∀ f ∈ fields, f.1 ∈ names)
    (hnodup : (fields.map Prod.fst).Nodup) : record? names (.object fields) = some fields := by
  have hfilter : (fields.filter fun f => names.contains f.1) = fields :=
    List.filter_eq_self.2 fun f hf => List.contains_iff_mem.2 (hknown f hf)
  rw [record?, hfilter]
  exact if_pos hnodup

theorem record?_object_of_sublist {names : List String} {fields : Record}
    (h : (fields.map Prod.fst).Sublist names) (hnames : names.Nodup) :
    record? names (.object fields) = some fields :=
  record?_object (fun _ hf => h.subset (List.mem_map_of_mem hf)) (h.nodup hnames)

theorem mem_fieldIfSome {name : String} {write : α → Json} {x : Option α} {f : String × Json} :
    f ∈ fieldIfSome name write x ↔ ∃ a ∈ x, f = (name, write a) := by
  cases x <;> simp [fieldIfSome]

theorem names_fieldIfSome (name : String) (write : α → Json) (x : Option α) :
    ((fieldIfSome name write x).map Prod.fst).Sublist [name] := by
  cases x with
  | none => exact List.nil_sublist _
  | some a => exact List.Sublist.refl _

theorem lookup_fieldIfSome {name key : String} {write : α → Json} {x : Option α} :
    (fieldIfSome name write x).lookup key = if key = name then x.map write else none := by
  cases x with
  | none => simp [fieldIfSome]
  | some a =>
    by_cases hkey : key = name
    · simp [fieldIfSome, hkey]
    · simp [fieldIfSome, List.lookup_cons, beq_false_of_ne hkey, hkey]

theorem list?_map {read : Json → Option β} {write : α → Json} {f : α → β} {as : List α}
    (h : ∀ a ∈ as, read (write a) = some (f a)) :
    (Json.array (as.map write)).list? read = some (as.map f) := by
  rw [list?]
  induction as with
  | nil => rfl
  | cons a as ih =>
    rw [List.forall_mem_cons] at h
    rw [List.map_cons, List.mapM_cons, h.1, ih h.2]
    rfl

@[simp] theorem list?_ofStrings (xs : List String) : (ofStrings xs).list? string? = some xs := by
  have hmap : (Json.array (xs.map .string)).list? string? = some (xs.map id) :=
    list?_map fun _ _ => rfl
  rwa [List.map_id] at hmap

end Json

theorem Record.optional?_map {α β : Type} {r : Record} {name : String} {x : Option α}
    {write : α → Json} {read : Json → Option β} {f : α → β} (hfield : r.lookup name = x.map write)
    (hread : ∀ a, (write a).optional? read = some (some (f a))) :
    r.optional? name read = some (x.map f) := by
  rw [optional?, hfield]
  cases x with
  | none => rfl
  | some a => exact hread a

/-! ## Columns -/

/-- The attributes of a declaration that gives a kind. -/
def ColumnKind.attributes (k : ColumnKind) : Attributes :=
  ⟨k.signed?.getD true, k.charset?, k.precision?.map (·.val), k.values?.getD [], false⟩

/-- The canonical names of types. -/
def typeNames : List String :=
  ["tinyint", "smallint", "mediumint", "int", "bigint", "char", "varchar", "tinytext", "text",
    "mediumtext", "longtext", "binary", "varbinary", "tinyblob", "blob", "mediumblob", "longblob",
    "geometry", "geometrycollection", "linestring", "multilinestring", "multipoint",
    "multipolygon", "polygon", "point", "float", "double", "decimal", "date", "datetime",
    "timestamp", "time", "year", "bit", "enum", "set", "json"]

theorem ColumnKind.typeName_mem (k : ColumnKind) : k.typeName ∈ typeNames := by
  cases k with
  | integer size _ | text size _ | bytes size => cases size <;> exact List.mem_of_elem_eq_true rfl
  | spatial shape => cases shape <;> exact List.mem_of_elem_eq_true rfl
  | _ => exact List.mem_of_elem_eq_true rfl

/-- Canonical names are in lower case, without blanks around them, and none is `serial`. -/
theorem typeNames_plain : ∀ name ∈ typeNames, Text.asciiLower (Text.trim name) = name ∧
    Text.equalIgnoringCase name "serial" = false := by
  decide +kernel

/-- A canonical name is the name of no alias. -/
theorem ColumnKind.resolveAlias_typeName (k : ColumnKind) :
    resolveAlias k.typeName (k.precision?.map (·.val)) = k.typeName := by
  cases k with
  | integer size _ | text size _ | bytes size => cases size <;> rfl
  | spatial shape => cases shape <;> rfl
  | _ => rfl

/-- Attributes that say of a kind what its type does not. -/
structure Attributes.Describe (a : Attributes) (k : ColumnKind) : Prop where
  byte : a.byte = false
  length : a.length = k.precision?.map (·.val)
  charset : a.charset = k.charset?
  signed : ∀ signed ∈ k.signed?, a.signed = signed
  values : ∀ values ∈ k.values?, a.values = values

theorem ColumnKind.attributes_describe (k : ColumnKind) : k.attributes.Describe k where
  byte := rfl
  length := rfl
  charset := rfl
  signed _ h := congrArg (·.getD true) h
  values _ h := congrArg (·.getD []) h

/-- The canonical name with attributes that describe a kind declares it, with its charset
lowered. -/
theorem ColumnKind.declare?_typeName {k : ColumnKind} {a : Attributes} (h : a.Describe k) :
    declare? k.typeName a = some k.lowered := by
  obtain ⟨hplain, hserial⟩ := typeNames_plain k.typeName k.typeName_mem
  have hcanonical : canonicalTypeName k.typeName a.byte a.length = k.typeName := by
    rw [canonicalTypeName, hplain, h.byte, h.length]
    exact k.resolveAlias_typeName
  rw [declare?, hcanonical, hserial, Bool.not_false, Bool.and_true, h.length, h.charset]
  have hprecision : ∀ p : Precision, precisionOf (some p.val) = p := fun p =>
    Fin.ext (Nat.min_eq_left (Nat.le_of_lt_succ p.isLt))
  cases k with
  | integer size signed => rw [h.signed signed rfl]; cases size <;> rfl
  | text size _ | bytes size => cases size <;> rfl
  | spatial shape => cases shape <;> rfl
  | datetime p => exact congrArg (fun p => some (datetime p)) (hprecision p)
  | timestamp p => exact congrArg (fun p => some (timestamp p)) (hprecision p)
  | time p => exact congrArg (fun p => some (time p)) (hprecision p)
  | enum values => exact congrArg (fun v => some (enum v)) (h.values values rfl)
  | set values => exact congrArg (fun v => some (set v)) (h.values values rfl)
  | _ => rfl

/-- The fields that a column is written with. -/
def Column.fields (c : Column) : Record :=
  [("type", .string c.typeName), ("name", .string c.name)] ++
    Json.fieldIfSome "charset" .string c.kind.charset? ++
    Json.fieldIfSome "signed" .bool c.kind.signed? ++
    Json.fieldIfSome "enum-values" Json.ofStrings c.kind.values? ++
    Json.fieldIfSome "column-length" (Json.ofNat ·.val) c.kind.precision?

theorem Column.record?_toJson (c : Column) :
    c.toJson.record? ["type", "name", "charset", "signed", "enum-values", "column-length"] =
      some c.fields := by
  refine Json.record?_object_of_sublist ?_ (by decide)
  have hnames : (["type", "name"] : List String).Sublist ["type", "name"] := .refl _
  simp only [List.map_append]
  exact (((hnames.append (Json.names_fieldIfSome _ _ _)).append
    (Json.names_fieldIfSome _ _ _)).append (Json.names_fieldIfSome _ _ _)).append
      (Json.names_fieldIfSome _ _ _)

theorem Column.lookup_fields (c : Column) :
    c.fields.lookup "charset" = c.kind.charset?.map .string ∧
      c.fields.lookup "signed" = c.kind.signed?.map .bool ∧
      c.fields.lookup "enum-values" = c.kind.values?.map Json.ofStrings ∧
      c.fields.lookup "column-length" = c.kind.precision?.map (Json.ofNat ·.val) := by
  simp [fields, List.lookup_append, List.lookup_cons, Json.lookup_fieldIfSome]

theorem Column.ofJson?_toJson_eq_declare (c : Column) :
    ofJson? c.toJson = (declare c.name c.typeName 0 c.kind.attributes).toOption := by
  obtain ⟨hcharset, hsigned, hvalues, hlength⟩ := c.lookup_fields
  have htype : Record.required? c.fields "type" Json.string? = some c.typeName := rfl
  have hname : Record.required? c.fields "name" Json.string? = some c.name := rfl
  have hcharset : Record.optional? c.fields "charset" Json.string? =
      some (c.kind.charset?.map id) := Record.optional?_map hcharset fun _ => rfl
  have hsigned : Record.optional? c.fields "signed" Json.bool? = some (c.kind.signed?.map id) :=
    Record.optional?_map hsigned fun _ => rfl
  have hvalues : Record.optional? c.fields "enum-values" (Json.list? Json.string?) =
      some (c.kind.values?.map id) :=
    Record.optional?_map hvalues fun xs => congrArg (Option.map some) (Json.list?_ofStrings xs)
  have hlength : Record.optional? c.fields "column-length" (Json.word? 64) =
      some (c.kind.precision?.map (·.val)) :=
    Record.optional?_map hlength fun p =>
      congrArg (Option.map some) (Json.word?_ofNat (Nat.lt_trans p.isLt (by decide)))
  rw [Option.map_id] at hcharset hsigned hvalues
  rw [ofJson?, c.record?_toJson, Option.bind_eq_bind, Option.bind_some, htype]
  simp only [Option.bind_eq_bind, Option.bind_some, hname, hcharset, hsigned, hvalues, hlength]
  rfl

/-- A column is read back at position zero, with its charset in lower case. -/
theorem Column.ofJson?_toJson (c : Column) :
    ofJson? c.toJson = some (c.lowered.movedTo 0) := by
  rw [ofJson?_toJson_eq_declare, declare, typeName,
    ColumnKind.declare?_typeName c.kind.attributes_describe]
  rfl

theorem Column.readable_toJson {depth : Nat} (h : depth + 1 < Json.depthLimit) (c : Column) :
    c.toJson.Readable depth := by
  refine .object (by omega) fun f hf => ?_
  simp only [List.mem_append, List.mem_cons, List.not_mem_nil, or_false] at hf
  rcases hf with (((((rfl | rfl) | hf) | hf) | hf) | hf)
  · exact .string _ _
  · exact .string _ _
  · obtain ⟨s, -, rfl⟩ := Json.mem_fieldIfSome.1 hf
    exact .string _ _
  · obtain ⟨b, -, rfl⟩ := Json.mem_fieldIfSome.1 hf
    exact .bool _ _
  · obtain ⟨xs, -, rfl⟩ := Json.mem_fieldIfSome.1 hf
    exact .array h (List.forall_mem_map.2 fun s _ => .string _ _)
  · obtain ⟨p, -, rfl⟩ := Json.mem_fieldIfSome.1 hf
    have hp := p.isLt
    refine Json.Readable.ofInt (i := (p.val : Int)) _ ?_ ?_
    · simp
    · simp
      omega

/-! ## Tables -/

namespace ColumnList

/-- Columns are numbered anew, whatever positions they have. -/
theorem ofList_movedTo (columns : List Column) :
    ofList (columns.map (·.movedTo 0)) = ofList columns := by
  refine ext (List.ext_getElem (by simp) fun i h h' => ?_)
  simp [Column.movedTo]

/-- Changing columns where they are keeps their numbers. -/
theorem toList_map (l : ColumnList) {change : Column → Column}
    (h : ∀ c, (change c).position = c.position) : (l.map change).toList = l.toList.map change := by
  refine List.ext_getElem (by simp [map_eq]) fun i hi hi' => ?_
  have hlt : i < l.toList.length := by simpa using hi'
  have hposition : (change l.toList[i]).position = i := by
    rw [h, l.position_getElem]
  simpa [map_eq] using Column.movedTo_of_position hposition

theorem map_eq_self_iff (l : ColumnList) {change : Column → Column}
    (h : ∀ c, (change c).position = c.position) :
    l.map change = l ↔ ∀ c ∈ l.toList, change c = c := by
  have hlist : l.toList.map change = l.toList.map id ↔ ∀ c ∈ l.toList, change c = id c :=
    List.map_inj_left
  rw [List.map_id, ← l.toList_map h] at hlist
  rw [← (show _ ↔ ∀ c ∈ l.toList, change c = c from hlist)]
  exact ⟨fun heq => congrArg toList heq, ext⟩

theorem ofJson?_toJson (l : ColumnList) : ofJson? l.toJson = some (l.map Column.lowered) := by
  rw [ofJson?, toJson, Json.list?_map fun c _ => c.ofJson?_toJson, Option.map_some, map_eq,
    ← ofList_movedTo (l.toList.map Column.lowered), List.map_map]
  rfl

end ColumnList

namespace Table

/-- A table is read back with the charsets of its columns in lower case. -/
theorem ofJson?_toJson (t : Table) : ofJson? t.toJson = some t.lowered := by
  have hrecord : t.toJson.record? ["database", "table", "charset", "primary-key", "columns"] =
      some [("database", .string t.database), ("table", .string t.name),
        ("charset", .string t.charset), ("primary-key", .ofStrings t.primaryKey),
        ("columns", t.columns.toJson)] :=
    Json.record?_object (by simp) (by simp)
  rw [ofJson?, hrecord]
  simp [Record.required?, Record.orElse?, List.lookup_cons, Json.string?, lowered,
    ColumnList.ofJson?_toJson]

theorem readable_toJson {depth : Nat} (h : depth + 3 < Json.depthLimit) (t : Table) :
    t.toJson.Readable depth := by
  refine .object (by omega) ?_
  simp only [List.forall_mem_cons]
  refine ⟨.string _ _, .string _ _, .string _ _, .array (by omega) ?_, .array (by omega) ?_,
    by simp⟩
  · exact List.forall_mem_map.2 fun key _ => .string _ _
  · exact List.forall_mem_map.2 fun c _ => c.readable_toJson (by omega)

end Table

/-! ## Changes -/

theorem Rename.ofJson?_toJson (r : Rename) : ofJson? r.toJson = some r.lowered := by
  have hrecord : r.toJson.record? ["database", "table", "def"] =
      some [("database", .string r.database), ("table", .string r.table),
        ("def", r.definition.toJson)] :=
    Json.record?_object (by simp) (by simp)
  rw [ofJson?, hrecord]
  simp [Record.required?, List.lookup_cons, Json.string?, lowered, Table.ofJson?_toJson]

theorem Rename.readable_toJson {depth : Nat} (h : depth + 4 < Json.depthLimit) (r : Rename) :
    r.toJson.Readable depth := by
  refine .object (by omega) ?_
  simp only [List.forall_mem_cons]
  exact ⟨.string _ _, .string _ _, r.definition.readable_toJson (by omega), by simp⟩

namespace Change

theorem readable_fields {depth : Nat} (h : depth + 6 < Json.depthLimit) (c : Change) :
    ∀ f ∈ c.fields, f.2.Readable (depth + 1) := by
  have htable : ∀ t : Table, t.toJson.Readable (depth + 1) := fun t =>
    t.readable_toJson (by omega)
  cases c with
  | alterDatabase database charset tables =>
    have hlist : (Json.ofStrings tables).Readable (depth + 1) :=
      .array (by omega) (List.forall_mem_map.2 fun t _ => .string _ _)
    cases htables : tables.isEmpty <;>
      simp [fields, components, htables, Json.Readable.string, hlist]
  | renameTables renames =>
    have hlist : (Json.array (renames.map Rename.toJson)).Readable (depth + 1) :=
      .array (by omega) (List.forall_mem_map.2 fun r _ => r.readable_toJson (by omega))
    simp [fields, components, Json.Readable.string, hlist]
  | _ => simp [fields, components, Json.Readable.string, htable]

theorem readable_toJson {depth : Nat} (h : depth + 6 < Json.depthLimit) (c : Change) :
    c.toJson.Readable depth :=
  .object (by omega) (c.readable_fields h)

/-- The kind of a change is in one field of its own. -/
theorem ofFields?_fields {kindOf? : Json → Option String} {c : Change}
    (h : kindOf? (.string c.kind) = some c.kind) :
    ofFields? kindOf? c.fields = ofComponents? c.kind (.object c.components) := by
  have htype : ∀ f ∈ c.components, f.1 ≠ "type" := by
    cases c with
    | alterDatabase database charset tables =>
      cases htables : tables.isEmpty <;> simp [components, htables]
    | _ => simp [components]
  have hkind : (c.components.filter fun f => decide (f.1 = "type")) = [] :=
    List.filter_eq_nil_iff.2 fun f hf => by simpa using htype f hf
  have hrest : (c.components.filter fun f => decide (f.1 ≠ "type")) = c.components :=
    List.filter_eq_self.2 fun f hf => by simpa using htype f hf
  rw [ofFields?, fields, List.filter_cons_of_pos (by simp), hkind,
    List.filter_cons_of_neg (by simp), hrest]
  simp only [h, Option.bind_eq_bind, Option.bind_some]

theorem ofComponents?_components (c : Change) :
    ofComponents? c.kind (.object c.components) = some c.lowered := by
  cases c with
  | alterDatabase database charset tables =>
    cases tables with
    | nil =>
      simp only [ofComponents?, kind, components]
      rw [Json.record?_object (by simp) (by simp)]
      rfl
    | cons table tables =>
      simp only [ofComponents?, kind, components]
      rw [Json.record?_object (by simp) (by simp)]
      simp [Record.required?, Record.orElse?, List.lookup_cons, Json.string?, lowered]
  | renameTables renames =>
    have hlist : (Json.array (renames.map Rename.toJson)).list? Rename.ofJson? =
        some (renames.map Rename.lowered) :=
      Json.list?_map fun r _ => r.ofJson?_toJson
    simp only [ofComponents?, kind, components]
    rw [Json.record?_object (by simp) (by simp)]
    simp [Record.required?, hlist, lowered]
  | _ =>
    simp only [ofComponents?, kind, components]
    rw [Json.record?_object (by simp) (by simp)]
    simp [Record.required?, List.lookup_cons, Json.string?, lowered, Table.ofJson?_toJson]

/-- A change is read back with the charsets of its columns in lower case. -/
theorem ofJson?_toJson (c : Change) : ofJson? c.toJson = some c.lowered := by
  have hreadable : c.toJson.Readable 0 := c.readable_toJson (by decide)
  rw [ofJson?, hreadable.normalizeNumbers?, Option.bind_eq_bind, Option.bind_some]
  show ofFields? Json.string? c.fields = _
  rw [ofFields?_fields rfl, ofComponents?_components]

/-! ## Texts of changes -/

/-- The text of a change. -/
def text (c : Change) : String :=
  c.toJson.compress

/-- Reads a text as a change. -/
def ofText? (s : String) : Option Change :=
  (Json.read? s).bind ofJson?

theorem ofText?_text (c : Change) : ofText? c.text = some c.lowered := by
  have hreadable : c.toJson.Readable 0 := c.readable_toJson (by decide)
  rw [ofText?, text, Json.read?_compress hreadable, Option.bind_some, ofJson?_toJson]

end Change

/-! ## Texts that stay the same -/

theorem Column.lowered_eq_self_of_toJson {c : Column} (h : c.lowered.toJson = c.toJson) :
    c.lowered = c := by
  cases hkind : c.kind with
  | text size charset =>
    cases charset with
    | none => rw [lowered, hkind, ColumnKind.lowered, Option.map_none, ← hkind]
    | some s =>
      have hs : Text.asciiLower s = s := by
        simpa [toJson, lowered, hkind, ColumnKind.lowered, typeName, ColumnKind.typeName,
          ColumnKind.charset?, ColumnKind.signed?, ColumnKind.values?, ColumnKind.precision?,
          Json.fieldIfSome] using h
      rw [lowered, hkind, ColumnKind.lowered, Option.map_some, hs, ← hkind]
  | _ =>
    rw [lowered, hkind, ColumnKind.lowered, ← hkind]
    simp

theorem Table.lowered_eq_self_of_toJson {t : Table} (h : t.lowered.toJson = t.toJson) :
    t.lowered = t := by
  have hposition : ∀ c : Column, c.lowered.position = c.position := fun _ => rfl
  have hcolumns : (t.columns.map Column.lowered).toList.map Column.toJson =
      t.columns.toList.map Column.toJson := by
    simpa [toJson, lowered, ColumnList.toJson] using h
  rw [ColumnList.toList_map _ hposition, List.map_map] at hcolumns
  have hall := List.map_inj_left.1 hcolumns
  rw [lowered, (ColumnList.map_eq_self_iff _ hposition).2 fun c hc =>
    Column.lowered_eq_self_of_toJson (hall c hc)]

namespace Change

theorem lowered_eq_self_of_toJson {c : Change} (h : c.lowered.toJson = c.toJson) :
    c.lowered = c := by
  cases c with
  | createTable database table definition =>
    have hdefinition : definition.lowered.toJson = definition.toJson := by
      simpa [toJson, fields, components, lowered, kind] using h
    rw [lowered, Table.lowered_eq_self_of_toJson hdefinition]
  | alterTable database table old definition =>
    have hboth : old.lowered.toJson = old.toJson ∧
        definition.lowered.toJson = definition.toJson := by
      simpa [toJson, fields, components, lowered, kind] using h
    rw [lowered, Table.lowered_eq_self_of_toJson hboth.1, Table.lowered_eq_self_of_toJson hboth.2]
  | renameTables renames =>
    have hmap : renames.map (Rename.toJson ∘ Rename.lowered) = renames.map Rename.toJson := by
      simpa [toJson, fields, components, lowered, kind] using h
    have hall : renames.map Rename.lowered = renames.map id := List.map_inj_left.2 fun r hr => by
      have hdefinition : r.definition.lowered.toJson = r.definition.toJson := by
        simpa [Rename.toJson, Rename.lowered] using List.map_inj_left.1 hmap r hr
      rw [Rename.lowered, Table.lowered_eq_self_of_toJson hdefinition]
      rfl
    rw [lowered, hall, List.map_id]
  | _ => rfl

/-- A change is read back as it is, or written again as it was, if its columns have their charsets
in lower case, and only then. -/
theorem ofText?_text_eq_self_iff (c : Change) :
    (ofText? c.text = some c ↔ c.lowered = c) ∧ (c.lowered.text = c.text ↔ c.lowered = c) := by
  refine ⟨by rw [ofText?_text, Option.some_inj], fun h => ?_, congrArg text⟩
  have hreadable : ∀ c : Change, Json.read? c.text = some c.toJson := fun c =>
    Json.read?_compress (c.readable_toJson (by decide))
  have hjson := congrArg Json.read? h
  rw [hreadable, hreadable, Option.some_inj] at hjson
  exact lowered_eq_self_of_toJson hjson

end Change

end SchemaTrail
