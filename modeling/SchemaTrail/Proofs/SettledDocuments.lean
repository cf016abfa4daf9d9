import SchemaTrail.Proofs.LedgerText
import SchemaTrail.Proofs.LoweredSchemas
import SchemaTrail.Proofs.RecordedChanges

/-!
# Documents that settle

A document may be read in many forms: types by their aliases, attributes that the type does not use,
positions with a plus sign, times with any offset.  What is read is written in one form only, and
that is read as the same value again (`documents_settle`): after one reading nothing changes any
more.  The values that are read at all are those that can be shown as they are.
-/

namespace SchemaTrail

/-- A reader and a writer that settle on the values with a property.  These are the values that are
read at all, and each of them is written such that it is read again, and written again in the same
way. -/
structure Settles {α : Type} (read : String → Option α) (write : α → String) (P : α → Prop) :
    Prop where
  values : ∀ a, (∃ s, read s = some a) ↔ P a
  again : ∀ s a, read s = some a → read (write a) = some a ∧
    (read (write a)).map write = some (write a)

/-- A reader and a writer of JSON settle on the values with a property if all values that are read
have it, and those with it are read back. -/
theorem settles_of_json {α : Type} {read : Json → Option α} {write : α → Json} {P : α → Prop}
    (hread : ∀ j a, read j = some a → P a)
    (hwrite : ∀ a, P a → (write a).Readable 0 ∧ read (write a) = some a) :
    Settles (fun s => (Json.read? s).bind read) (fun a => (write a).compress) P := by
  have hvalue : ∀ s a, (Json.read? s).bind read = some a → P a := fun s a ha => by
    obtain ⟨j, -, hj⟩ := Option.bind_eq_some_iff.1 ha
    exact hread j a hj
  have hback : ∀ a, P a → (Json.read? (write a).compress).bind read = some a := fun a ha => by
    rw [Json.read?_compress (hwrite a ha).1, Option.bind_some, (hwrite a ha).2]
  refine ⟨fun a => ⟨fun ⟨s, hs⟩ => hvalue s a hs, fun ha => ⟨_, hback a ha⟩⟩, fun s a ha => ?_⟩
  have hagain := hback a (hvalue s a ha)
  exact ⟨hagain, congrArg (Option.map fun a => (write a).compress) hagain⟩

/-! ## Schemas -/

namespace Database

theorem ofJson?_toJson (d : Database) : ofJson? d.toJson = some d.lowered := by
  have hrecord : d.toJson.record? ["name", "charset", "tables"] =
      some [("name", .string d.name), ("charset", .string d.charset),
        ("tables", .array (d.tables.map Table.toJson))] :=
    Json.record?_object (by simp) (by simp)
  have htables : (Json.array (d.tables.map Table.toJson)).list? Table.ofJson? =
      some (d.tables.map Table.lowered) := Json.list?_map fun t _ => t.ofJson?_toJson
  rw [ofJson?, hrecord]
  simp [Record.required?, Record.orElse?, List.lookup_cons, Json.string?, htables, lowered]

theorem readable_toJson {depth : Nat} (h : depth + 5 < Json.depthLimit) (d : Database) :
    d.toJson.Readable depth := by
  refine .object (by omega) ?_
  simp only [List.forall_mem_cons]
  refine ⟨.string _ _, .string _ _, .array (by omega) ?_, by simp⟩
  exact List.forall_mem_map.2 fun t _ => t.readable_toJson (by omega)

end Database

namespace Schema

/-- A schema is read back with the charsets of its columns in lower case. -/
theorem ofJson?_toJson (s : Schema) : ofJson? s.toJson = some s.lowered := by
  have hrecord : s.toJson.record? ["charset", "case-sensitivity", "databases"] =
      some [("charset", .string s.charset), ("case-sensitivity", .string s.caseMode.name),
        ("databases", .array (s.databases.map Database.toJson))] :=
    Json.record?_object (by simp) (by simp)
  have hmode : (Json.string s.caseMode.name).oneOf? CaseMode.names = some s.caseMode := by
    cases s.caseMode <;> rfl
  have hdatabases : (Json.array (s.databases.map Database.toJson)).list? Database.ofJson? =
      some (s.databases.map Database.lowered) := Json.list?_map fun d _ => d.ofJson?_toJson
  rw [ofJson?, hrecord]
  simp [Record.required?, Record.orElse?, List.lookup_cons, Json.string?, hmode, hdatabases,
    lowered, loweredIn]

theorem readable_toJson (s : Schema) : s.toJson.Readable 0 := by
  refine .object (by decide) ?_
  simp only [List.forall_mem_cons]
  refine ⟨.string _ _, .string _ _, .array (by decide) ?_, by simp⟩
  exact List.forall_mem_map.2 fun d _ => d.readable_toJson (by decide)

end Schema

theorem Database.lowered_eq_self_iff {d : Database} :
    d.lowered = d ↔ ∀ t ∈ d.tables, ∀ c ∈ t.columns.toList, c.CharsetLower := by
  have htables : d.lowered = d ↔ d.tables.map Table.lowered = d.tables.map id := by
    rw [List.map_id]
    exact ⟨fun h => congrArg Database.tables h, fun h => by rw [lowered, h]⟩
  rw [htables, List.map_inj_left]
  exact forall₂_congr fun t _ => Table.lowered_eq_self_iff

theorem Schema.lowered_eq_self_iff {s : Schema} : s.lowered = s ↔ s.ColumnsLower := by
  have hdatabases : s.lowered = s ↔ s.databases.map Database.lowered = s.databases.map id := by
    rw [List.map_id]
    exact ⟨fun h => congrArg Schema.databases h, fun h => by rw [lowered, loweredIn, h]⟩
  rw [hdatabases, List.map_inj_left]
  exact forall₂_congr fun d _ => Database.lowered_eq_self_iff

namespace Schema

/-- The text of a schema. -/
def text (s : Schema) : String :=
  s.toJson.compress

/-- Reads a text as a schema. -/
def ofText? (s : String) : Option Schema :=
  (Json.read? s).bind ofJson?

theorem settles : Settles ofText? text fun s => s.lowered = s :=
  settles_of_json (fun _ _ h => lowered_eq_self_iff.2 (columnsLower_of_ofJson? h))
    fun s h => ⟨s.readable_toJson, by rw [ofJson?_toJson, h]⟩

end Schema

/-! ## Changes -/

theorem Rename.lowered_of_ofJson? {j : Json} {r : Rename} (h : ofJson? j = some r) :
    r.lowered = r := by
  simp only [ofJson?, Option.bind_eq_bind, Option.bind_eq_some_iff] at h
  obtain ⟨_, -, _, -, _, -, definition, hdefinition, h⟩ := h
  cases h
  obtain ⟨j, hj⟩ := Record.of_required? hdefinition
  rw [lowered, Table.lowered_eq_self_iff.2 (Table.columnsLower_of_ofJson? hj)]

namespace Change

theorem lowered_of_ofComponents? {kind : String} {j : Json} {c : Change}
    (h : ofComponents? kind j = some c) : c.lowered = c := by
  have htable {r : Record} {name : String} {t : Table}
      (h : r.required? name Table.ofJson? = some t) : t.lowered = t := by
    obtain ⟨j, hj⟩ := Record.of_required? h
    exact Table.lowered_eq_self_iff.2 (Table.columnsLower_of_ofJson? hj)
  unfold ofComponents? at h
  split at h
  case h_8 => cases h
  all_goals simp only [Option.bind_eq_bind, Option.bind_eq_some_iff] at h
  case h_1 | h_6 =>
    obtain ⟨_, -, _, -, _, -, h⟩ := h
    cases h
    rfl
  case h_2 =>
    obtain ⟨_, -, _, -, _, -, _, -, h⟩ := h
    cases h
    rfl
  case h_3 =>
    obtain ⟨_, -, _, -, h⟩ := h
    cases h
    rfl
  case h_4 =>
    obtain ⟨_, -, _, -, _, -, definition, hdefinition, h⟩ := h
    cases h
    rw [lowered, htable hdefinition]
  case h_5 =>
    obtain ⟨_, -, _, -, _, -, old, hold, definition, hdefinition, h⟩ := h
    cases h
    rw [lowered, htable hold, htable hdefinition]
  case h_7 =>
    obtain ⟨_, -, renames, hrenames, h⟩ := h
    cases h
    obtain ⟨j, hj⟩ := Record.of_required? hrenames
    have hall := Json.forall_of_list? (fun _ _ => Rename.lowered_of_ofJson?) hj
    rw [lowered, List.map_congr_left hall, List.map_id']

theorem lowered_of_ofFields? {kindOf? : Json → Option String} {fields : Record} {c : Change}
    (h : ofFields? kindOf? fields = some c) : c.lowered = c := by
  rw [ofFields?] at h
  split at h
  · obtain ⟨kind, -, h⟩ := Option.bind_eq_some_iff.1 h
    exact lowered_of_ofComponents? h
  · cases h

theorem lowered_of_ofJson? {j : Json} {c : Change} (h : ofJson? j = some c) : c.lowered = c := by
  obtain ⟨j', -, h⟩ := Option.bind_eq_some_iff.1 h
  split at h
  · exact lowered_of_ofFields? h
  · exact lowered_of_ofComponents? h
  · cases h

theorem settles : Settles ofText? text fun c => c.lowered = c :=
  settles_of_json (fun _ _ => lowered_of_ofJson?)
    fun c h => ⟨c.readable_toJson (by decide), by rw [ofJson?_toJson, h]⟩

end Change

/-! ## Entries -/

theorem Position.of_ofText? {s : String} {p : Position} (h : ofText? s = some p) :
    p.file ≠ "" ∧ p.offset < Nat.pow 2 64 := by
  obtain ⟨⟨file, digits⟩, -, h⟩ := Option.bind_eq_some_iff.1 h
  obtain ⟨offset, hoffset, h⟩ := Option.bind_eq_some_iff.1 h
  split at h
  · cases h
  next hfile =>
    cases h
    rw [readOffset?, Option.filter_eq_some_iff] at hoffset
    exact ⟨hfile, of_decide_eq_true hoffset.2⟩

namespace Entry

variable {e : Entry} {j : Json}

/-- An entry that was read is the one that its line shows, if its time is. -/
theorem shown_eq_self (h : ofJson? j = some e) (hshown : e.recordedAt.shown = e.recordedAt) :
    e.shown = e := by
  simp only [ofJson?, Option.bind_eq_bind, Option.bind_eq_some_iff] at h
  obtain ⟨_, -, _, -, _, -, _, -, changes, hchanges, _, -, h⟩ := h
  cases h
  obtain ⟨j, hj⟩ := Record.of_required? hchanges
  have hall := Json.forall_of_list? (fun _ _ => Change.lowered_of_ofJson?) hj
  rw [shown, hshown, List.map_congr_left hall, List.map_id']

theorem position_of_ofJson? (h : ofJson? j = some e) :
    e.position.file ≠ "" ∧ e.position.offset < Nat.pow 2 64 := by
  simp only [ofJson?, Option.bind_eq_bind, Option.bind_eq_some_iff] at h
  obtain ⟨_, -, position, hposition, _, -, _, -, _, -, _, -, h⟩ := h
  cases h
  obtain ⟨j, hj⟩ := Record.of_required? hposition
  obtain ⟨s, -, hs⟩ := Option.bind_eq_some_iff.1 hj
  exact Position.of_ofText? hs

theorem shown_of_ofJson? (h : ofJson? j = some e) : e.shown = e := by
  refine shown_eq_self h ?_
  simp only [ofJson?, Option.bind_eq_bind, Option.bind_eq_some_iff] at h
  obtain ⟨_, -, _, -, _, -, _, -, _, -, recordedAt, hrecordedAt, h⟩ := h
  cases h
  obtain ⟨j, hj⟩ := Record.of_required? hrecordedAt
  obtain ⟨s, -, hs⟩ := Option.bind_eq_some_iff.1 hj
  exact Timestamp.shown_of_ofText? hs

/-- The text of an entry. -/
def text (e : Entry) : String :=
  e.toJson.compress

/-- An entry that is shown as it is, with a position that can be read. -/
structure Settled (e : Entry) : Prop where
  shown : e.shown = e
  file : e.position.file ≠ ""
  offset : e.position.offset < Nat.pow 2 64

theorem settles : Settles ofLine? text Settled :=
  settles_of_json
    (fun _ _ h => ⟨shown_of_ofJson? h, (position_of_ofJson? h).1, (position_of_ofJson? h).2⟩)
    fun e h => ⟨e.readable_toJson, by rw [ofJson?_toJson h.offset, if_neg h.file, h.shown]⟩

end Entry

/-! ## Events -/

/-- The fields of a change are none of those that an event has besides. -/
theorem Change.contains_ownNames (c : Change) :
    ∀ f ∈ c.fields, Event.ownNames.contains f.1 = false := by
  cases c with
  | alterDatabase database charset tables =>
    cases htables : tables.isEmpty <;> simp [fields, components, Event.ownNames, htables]
  | _ => simp [fields, components, Event.ownNames]

namespace Event

/-- The text of an event. -/
def text (e : Event) : String :=
  e.toJson.compress

/-- Reads a text as an event. -/
def ofText? (s : String) : Option Event :=
  (Json.read? s).bind ofJson?

/-- An event whose change has the charsets of its columns in lower case, whose time is a number of
64 bits, and whose position can be read. -/
structure Settled (e : Event) : Prop where
  change : e.change.lowered = e.change
  early : -Nat.pow 2 63 ≤ e.time
  late : e.time ≤ Nat.pow 2 63 - 1
  file : e.position.file ≠ ""
  offset : e.position.offset < Nat.pow 2 64

/-- The fields of an event that do not belong to the change. -/
def ownFields (e : Event) : Record :=
  [("ts", .ofInt e.time), ("sql", .string e.statement), ("position", e.position.toJson)]

theorem filter_fields (e : Event) :
    (e.change.fields ++ e.ownFields).filter (fun f => ownNames.contains f.1) = e.ownFields ∧
      (e.change.fields ++ e.ownFields).filter (fun f => !ownNames.contains f.1) =
        e.change.fields := by
  have hchange := e.change.contains_ownNames
  rw [List.filter_append, List.filter_append]
  constructor
  · rw [List.filter_eq_nil_iff.2 fun f hf => Bool.eq_false_iff.1 (hchange f hf)]
    rfl
  · rw [List.filter_eq_self.2 fun f hf => by rw [hchange f hf, Bool.not_false]]
    exact List.append_nil _

variable {e : Event}

theorem Settled.readable_toJson (h : e.Settled) : e.toJson.Readable 0 := by
  refine .object (by decide) (List.forall_mem_append.2 ⟨e.change.readable_fields (by decide), ?_⟩)
  simp only [List.forall_mem_cons]
  have hlate : e.time ≤ Nat.pow 2 64 - 1 := Int.le_trans h.late (by decide)
  exact ⟨.ofInt _ h.early hlate, .string _ _, .string _ _, by simp⟩

theorem Settled.ofJson?_toJson (h : e.Settled) : ofJson? e.toJson = some e := by
  obtain ⟨hown, hothers⟩ := e.filter_fields
  have hrecord : (Json.object (e.change.fields ++ e.ownFields)).record? ownNames =
      some e.ownFields := by
    have hnodup : (e.ownFields.map Prod.fst).Nodup := show ["ts", "sql", "position"].Nodup by decide
    rw [Json.record?, hown]
    exact if_pos hnodup
  have htime : e.ownFields.required? "ts" (Json.intBetween? (-Nat.pow 2 63) (Nat.pow 2 63 - 1)) =
      some e.time := by
    have hbetween : (-Nat.pow 2 63 ≤ e.time && e.time ≤ Nat.pow 2 63 - 1) = true := by
      simp only [h.early, h.late, decide_true, Bool.and_self]
    show (Json.ofInt e.time).int?.filter _ = _
    rw [Json.int?_ofInt, Option.filter, if_pos hbetween]
  have hstatement : e.ownFields.required? "sql" Json.string? = some e.statement := rfl
  have hposition : e.ownFields.required? "position" Position.ofJson? = some e.position := by
    show Position.ofText? e.position.text = _
    rw [Position.ofText?_text h.offset, if_neg h.file]
  have hnormal : Json.normalizeFields? e.change.fields = some e.change.fields :=
    Json.normalizeFields?_eq_some fun f hf =>
      (e.change.readable_fields (show 0 + 6 < Json.depthLimit by decide) f hf).normalizeNumbers?
  have hchange : Change.ofFields? kindOf? e.change.fields = some e.change := by
    rw [Change.ofFields?_fields rfl, Change.ofComponents?_components, h.change]
  have hfields : e.toJson = .object (e.change.fields ++ e.ownFields) := rfl
  rw [hfields, ofJson?]
  simp only [Option.bind_eq_bind, hrecord, Option.bind_some, htime, hstatement, hposition, hothers,
    hnormal, hchange]
  rfl

theorem settled_of_ofJson? {j : Json} (h : ofJson? j = some e) : e.Settled := by
  cases j with
  | object fields =>
    simp only [ofJson?, Option.bind_eq_bind, Option.bind_eq_some_iff] at h
    obtain ⟨_, -, time, htime, _, -, position, hposition, _, -, change, hchange, h⟩ := h
    cases h
    obtain ⟨j, hj⟩ := Record.of_required? htime
    obtain ⟨-, hbetween⟩ := Option.filter_eq_some_iff.1 hj
    rw [Bool.and_eq_true, decide_eq_true_iff, decide_eq_true_iff] at hbetween
    obtain ⟨j', hj'⟩ := Record.of_required? hposition
    obtain ⟨s, -, hs⟩ := Option.bind_eq_some_iff.1 hj'
    obtain ⟨hfile, hoffset⟩ := Position.of_ofText? hs
    exact ⟨Change.lowered_of_ofFields? hchange, hbetween.1, hbetween.2, hfile, hoffset⟩
  | _ => cases h

theorem settles : Settles ofText? text Settled :=
  settles_of_json (fun _ _ => settled_of_ofJson?) fun _ h => ⟨h.readable_toJson, h.ofJson?_toJson⟩

end Event

/-- Schemas, changes, entries of a ledger and events settle when they are read: on the schemas and
changes whose columns have their charsets in lower case, and on the entries and events for which
this holds, whose position can be read, and whose time can be written. -/
theorem documents_settle :
    Settles Schema.ofText? Schema.text (fun s => s.lowered = s) ∧
    Settles Change.ofText? Change.text (fun c => c.lowered = c) ∧
    Settles Entry.ofLine? Entry.text Entry.Settled ∧
    Settles Event.ofText? Event.text Event.Settled :=
  ⟨Schema.settles, Change.settles, Entry.settles, Event.settles⟩

/-- An event with aliases in several cases, lengths, attributes that are of no use, a kind that is
counted and a position with zeros. -/
theorem documents_settle_aliases :
    let column := fun declared (attributes : Record) =>
      Json.object ([("type", .string declared), ("name", .string "c")] ++ attributes)
    let columns := Json.array [
      column " INTEGER " [("signed", .bool false), ("enum-values", .ofStrings ["a"])],
      column "Text" [("column-length", .ofNat 200), ("charset", .string "LATIN1")],
      column "TIMESTAMP" [("column-length", .ofNat 9)]]
    let table := Json.object [("database", .string "d"), ("table", .string "t"),
      ("charset", .string "utf8"), ("columns", columns)]
    let document := Json.object [("sql", .string ""), ("position", .string "b.1:+007"),
      ("ts", .ofInt (-1)), ("type", .ofNat 3), ("def", table), ("table", .string "t"),
      ("database", .string "d")]
    let e : Event := ⟨.createTable "d" "t" ⟨"d", "t", "utf8", [], .ofList [
      ⟨"c", .integer .regular false, 0⟩, ⟨"c", .text .tiny (some "latin1"), 1⟩,
      ⟨"c", .timestamp 6, 2⟩]⟩, -1, "", ⟨"b.1", 7⟩⟩
    Event.ofText? document.compress = some e ∧ e.text ≠ document.compress ∧
      Event.ofText? e.text = some e ∧ (Event.ofText? e.text).map Event.text = some e.text := by
  intro column columns table document e
  have hread : Event.ofText? document.compress = some e := by
    rw [Event.ofText?, Json.read?, Json.compress, String.toList_ofList]
    decide +kernel
  exact ⟨hread, by decide +kernel, documents_settle.2.2.2.again _ e hread⟩

end SchemaTrail
