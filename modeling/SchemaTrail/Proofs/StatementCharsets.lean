import SchemaTrail.Proofs.ClauseResults
import SchemaTrail.Proofs.Documents

/-!
# Charsets in statements

Charsets that are written in a statement are read in lower case, wherever they stand: as options of
databases and tables, as attributes of columns, or after `CONVERT TO`
(`Statement.requests_charsetsLower`).
-/

namespace SchemaTrail

open Outcome

/-! ## Charsets in lower case -/

/-- A text without the letters `A` to `Z`. -/
def Text.IsLower (s : String) : Prop :=
  asciiLower s = s

theorem Text.isLower_asciiLower (s : String) : IsLower (asciiLower s) :=
  asciiLower_asciiLower s

/-- A column whose charset, if it has one, is in lower case. -/
def Column.CharsetLower (c : Column) : Prop :=
  c.kind.lowered = c.kind

/-- The charset of a declaration is kept in lower case. -/
theorem ColumnKind.lowered_of_declare? {declared : String} {a : Attributes} {k : ColumnKind}
    (h : declare? declared a = some k) : k.lowered = k := by
  unfold declare? ofTypeName? at h
  split at h
  all_goals cases h
  all_goals first
    | rfl
    | exact ColumnKind.lowered_lowered (.text _ a.charset)

theorem Column.charsetLower_of_declare {name declared : String} {position : Nat} {a : Attributes}
    {c : Column} (h : declare name declared position a = .ok c) : c.CharsetLower := by
  rw [declare] at h
  cases hkind : ColumnKind.declare? declared a with
  | none =>
    rw [hkind] at h
    cases h
  | some kind =>
    rw [hkind] at h
    cases h
    exact ColumnKind.lowered_of_declare? hkind

/-! ## Requests -/

/-- The columns of a new table have charsets in lower case. -/
def TableSource.CharsetsLower : TableSource → Prop
  | .columns cs _ => ∀ c ∈ cs, c.CharsetLower
  | .like _ => True

/-- A column that is added or changed has its charset in lower case. -/
def ColumnEdit.CharsetLower : ColumnEdit → Prop
  | .add column _ _ | .change _ column _ _ => column.CharsetLower
  | .remove _ _ | .rename _ _ => True

/-- All charsets of an edit are in lower case. -/
structure TableEdit.CharsetsLower (e : TableEdit) : Prop where
  columns : ∀ edit ∈ e.columns, edit.CharsetLower
  convertTo : ∀ s ∈ e.convertTo, Text.IsLower s
  charset : ∀ s ∈ e.charset, Text.IsLower s

/-- All charsets of a request are in lower case. -/
def Request.CharsetsLower : Request → Prop
  | .createDatabase _ charset _ | .alterDatabase _ charset => ∀ s ∈ charset, Text.IsLower s
  | .createTable _ source charset _ => source.CharsetsLower ∧ ∀ s ∈ charset, Text.IsLower s
  | .alterTable _ edit => edit.CharsetsLower
  | .dropDatabase _ _ | .dropTable _ _ | .renameTables _ => True

namespace Statement

/-! ## Charset options -/

theorem isLower_of_optionNameOf (k : Token.Kind) (text name : String)
    (h : optionNameOf k text = some name) : Text.IsLower name := by
  unfold optionNameOf at h
  split at h
  all_goals first
    | exact Option.some.inj h ▸ Text.isLower_asciiLower _
    | cases h

theorem readOptionName_isLower : Gives readOptionName Text.IsLower :=
  yields_after fun _ => gives_readAs isLower_of_optionNameOf

theorem isLower_charsetOfCollation (collation : String) :
    Text.IsLower (charsetOfCollation collation) :=
  Text.isLower_asciiLower _

/-- A charset option with its charset in lower case. -/
def CharsetOption.CharsetLower : CharsetOption → Prop
  | .charset name => Text.IsLower name
  | .collation _ => True

theorem charsetOf_isLower {options : List CharsetOption} (h : ∀ o ∈ options, o.CharsetLower) :
    ∀ s ∈ charsetOf options, Text.IsLower s := by
  intro s hs
  rw [charsetOf, Option.mem_def, Option.or_eq_some_iff] at hs
  rcases hs with hs | ⟨-, hs⟩
  · obtain ⟨o, ho, hs⟩ := List.exists_of_findSome?_eq_some hs
    cases o with
    | charset name =>
      cases hs
      exact h _ (List.mem_reverse.1 ho)
    | collation name => cases hs
  · obtain ⟨o, ho, hs⟩ := List.exists_of_findSome?_eq_some hs
    cases o with
    | charset name => cases hs
    | collation name =>
      rw [← Option.some.inj hs]
      exact isLower_charsetOfCollation name

theorem takeCharsetOption_charsetLower :
    Gives takeCharsetOption fun o => ∀ a ∈ o, a.CharsetLower := by
  have hcharset : ∀ {r : Reader String}, Gives r Text.IsLower →
      Gives (do return some (.charset (← r)) : Reader _)
        fun o => ∀ a ∈ o, CharsetOption.CharsetLower a :=
    fun hr => yields_bind hr fun name hname => gives_pure fun a ha => by
      cases ha
      exact hname
  refine yields_after fun _ => yields_ite (hcharset (readSetName_gives readOptionName_isLower)) <|
    yields_after fun _ => yields_ite (hcharset readOptionName_isLower) <|
      yields_after fun _ => yields_ite ?_ (gives_pure (by simp))
  exact yields_after fun name => gives_pure (by simp [CharsetOption.CharsetLower])

/-- Options that are read, of which the others are skipped, set a charset in lower case. -/
theorem readOptions_isLower {skip : Reader (Option (List CharsetOption))}
    (hskip : Gives skip fun o => ∀ options ∈ o, options = []) :
    Gives (readOptions skip) fun o => ∀ s ∈ o, Text.IsLower s := by
  have hround : Gives (readOption skip) fun o => ∀ options ∈ o, ∀ a ∈ options, a.CharsetLower := by
    refine yields_bind takeCharsetOption_charsetLower fun o ho => ?_
    cases o with
    | some option => exact gives_pure (by simpa using ho)
    | none =>
      intro c o next h options hoptions
      rw [hskip c o next h options hoptions]
      simp
  refine yields_bind (gives_many hround) fun options hoptions =>
    gives_pure <| charsetOf_isLower fun o ho => ?_
  obtain ⟨list, hlist, ho⟩ := List.mem_flatten.1 ho
  exact hoptions list hlist o ho

theorem readTableOptions_isLower :
    Gives readTableOptions fun o => ∀ s ∈ o, Text.IsLower s := by
  refine readOptions_isLower (yields_after fun k => ?_)
  split
  all_goals first
    | exact yields_after fun _ => gives_pure (by simp)
    | exact yields_fail _
    | exact yields_ite (gives_pure (by simp)) (yields_after fun _ => gives_pure (by simp))

theorem readDatabaseOptions_isLower :
    Gives readDatabaseOptions fun o => ∀ s ∈ o, Text.IsLower s :=
  readOptions_isLower <| yields_after fun _ => yields_ite (gives_pure (by simp))
    (yields_after fun _ => gives_pure (by simp))

/-! ## Columns -/

theorem charsetLower_of_definition {written : WrittenColumn} {d : ColumnDefinition}
    (h : written.definition = .ok d) : d.column.CharsetLower := by
  obtain ⟨column, hdeclare, rfl⟩ := map_eq_ok_iff.1 h
  exact Column.charsetLower_of_declare hdeclare

theorem readColumn_charsetLower : Gives readColumn fun d => d.column.CharsetLower := by
  refine yields_after fun name => yields_after fun type => yields_after fun attributes => ?_
  intro c d next h
  exact charsetLower_of_definition (ofResult_eq_ok_iff.1 h).1

/-- An element whose column, if it is one, has its charset in lower case. -/
def TableElement.CharsetLower : TableElement → Prop
  | .column d => d.column.CharsetLower
  | .primaryKey _ | .other => True

theorem readElement_charsetLower : Gives readElement TableElement.CharsetLower := by
  refine yields_after fun _ => yields_after fun k => ?_
  split
  all_goals first
    | exact yields_afterAdvance <| yields_after fun _ => gives_pure trivial
    | exact yields_after fun _ => gives_pure trivial
    | exact yields_bind readColumn_charsetLower fun d hd => gives_pure hd

theorem elementColumns_charsetLower {elements : List TableElement}
    (h : ∀ e ∈ elements, e.CharsetLower) : ∀ c ∈ elementColumns elements, c.CharsetLower := by
  intro c hc
  obtain ⟨e, he, hc⟩ := List.mem_filterMap.1 hc
  cases e with
  | column d =>
    cases hc
    exact h _ he
  | primaryKey columns => cases hc
  | other => cases hc

theorem readTableSource_charsetsLower (selected : Option String) :
    Gives (readTableSource selected) TableSource.CharsetsLower := by
  refine yields_after fun _ => yields_ite (yields_after fun _ => gives_pure trivial) ?_
  refine yields_after fun _ => yields_ite ?_ (yields_fail _)
  refine yields_after fun _ => yields_ite ?_ ?_
  · exact yields_after fun _ => yields_after fun _ => gives_pure trivial
  · exact yields_bind (gives_readGroup readElement_charsetLower) fun elements h =>
      gives_pure (elementColumns_charsetLower h)

/-! ## Clauses of edits -/

/-- All charsets of a part of an edit are in lower case. -/
def AlterPart.CharsetsLower : AlterPart → Prop
  | .column edit => edit.CharsetLower
  | .convertTo name | .charset name => Text.IsLower name
  | .primaryKey _ | .newName _ | .collation _ | .partitions => True

theorem addPart_charsetsLower {e : TableEdit} {part : AlterPart} (he : e.CharsetsLower)
    (hpart : part.CharsetsLower) : (addPart e part).CharsetsLower := by
  obtain ⟨hcolumns, hconvertTo, hcharset⟩ := he
  cases part with
  | column edit =>
    refine ⟨?_, hconvertTo, hcharset⟩
    rw [addPart, List.forall_mem_append, List.forall_mem_singleton]
    exact ⟨hcolumns, hpart⟩
  | convertTo charset =>
    refine ⟨hcolumns, ?_, hcharset⟩
    rintro s ⟨⟩
    exact hpart
  | charset name =>
    refine ⟨hcolumns, hconvertTo, ?_⟩
    rintro s ⟨⟩
    exact hpart
  | collation name =>
    refine ⟨hcolumns, hconvertTo, fun s hs => ?_⟩
    rw [addPart, Option.mem_def, Option.or_eq_some_iff] at hs
    rcases hs with hs | ⟨-, hs⟩
    · exact hcharset s hs
    · rw [← Option.some.inj hs]
      exact isLower_charsetOfCollation name
  | primaryKey | newName | partitions => exact ⟨hcolumns, hconvertTo, hcharset⟩

theorem editOf_charsetsLower {parts : List AlterPart} (h : ∀ part ∈ parts, part.CharsetsLower) :
    (editOf parts).CharsetsLower := by
  suffices hfold : ∀ e : TableEdit, e.CharsetsLower → (parts.foldl addPart e).CharsetsLower from
    hfold .empty ⟨by simp [TableEdit.empty], by simp [TableEdit.empty], by simp [TableEdit.empty]⟩
  induction parts with
  | nil => exact fun e he => he
  | cons part parts ih =>
    rw [List.forall_mem_cons] at h
    exact fun e he => ih h.2 _ (addPart_charsetsLower he h.1)

theorem keyPart_charsetsLower (d : ColumnDefinition) : ∀ part ∈ keyPart d, part.CharsetsLower := by
  intro part hpart
  rw [keyPart] at hpart
  split at hpart
  · rw [List.mem_singleton.1 hpart]
    exact trivial
  · cases hpart

/-- The parts that a column with its key part makes up. -/
theorem keyPart_append_charsetsLower {d : ColumnDefinition} {edit : ColumnEdit}
    (h : edit.CharsetLower) : ∀ part ∈ keyPart d ++ [.column edit], part.CharsetsLower := by
  rw [List.forall_mem_append, List.forall_mem_singleton]
  exact ⟨keyPart_charsetsLower d, h⟩

/-- Of columns and charsets in lower case a clause makes nothing else. -/
theorem ClauseGives.charsetsLower {parts : List AlterPart} {k : Token.Kind}
    (h : ClauseGives (·.column.CharsetLower) Text.IsLower parts k) :
    ∀ part ∈ parts, part.CharsetsLower := by
  cases h with
  | added _ hds placement guarded =>
    intro part hpart
    obtain ⟨d, hd, hpart⟩ := List.mem_flatMap.1 hpart
    have hedit : (ColumnEdit.add d.column placement guarded).CharsetLower := hds d hd
    exact keyPart_append_charsetsLower hedit part hpart
  | changed hd => exact keyPart_append_charsetsLower hd
  | convertTo hname => exact List.forall_mem_singleton.2 hname
  | charsets _ hparts =>
    intro part hpart
    obtain ⟨name, ⟨rfl, hname⟩ | rfl⟩ := hparts part hpart
    · exact hname
    · exact trivial
  | ignored => simp
  | _ => exact List.forall_mem_singleton.2 trivial

theorem readAlterClause_charsetsLower (selected : Option String) :
    Gives (readAlterClause selected) fun parts => ∀ part ∈ parts, part.CharsetsLower :=
  fun c parts next h => (readAlterClause_gives readColumn_charsetLower readOptionName_isLower
    selected c parts next h).charsetsLower

theorem readAlterClauses_charsetsLower (selected : Option String) :
    Gives (readAlterClauses selected) fun parts => ∀ part ∈ parts, part.CharsetsLower := by
  have hround : Gives (readNextClause selected) fun o =>
      ∀ parts ∈ o, ∀ part ∈ parts, AlterPart.CharsetsLower part := by
    refine yields_after fun _ => yields_ite (yields_after fun _ => yields_ite ?_ ?_) ?_
    · exact gives_pure (by simp)
    · exact yields_bind (readAlterClause_charsetsLower selected) fun parts h =>
        gives_pure (by simpa using h)
    · exact gives_pure (by simp)
  refine yields_after fun _ => yields_ite (gives_pure (by simp)) ?_
  refine yields_bind (readAlterClause_charsetsLower selected) fun first hfirst =>
    yields_bind (q := fun parts => ∀ part ∈ parts, part.CharsetsLower) ?_ fun others hothers =>
      gives_pure (List.forall_mem_append.2 ⟨hfirst, hothers⟩)
  refine yields_bind (gives_many hround) fun others h => gives_pure fun part hpart => ?_
  obtain ⟨parts, hparts, hpart⟩ := List.mem_flatten.1 hpart
  exact h parts hparts part hpart

/-! ## Statements -/

theorem readCreateDatabase_charsetsLower : Gives readCreateDatabase Request.CharsetsLower :=
  yields_after fun _ => yields_after fun _ => yields_bind readDatabaseOptions_isLower fun _ h =>
    gives_pure h

theorem readAlterDatabase_charsetsLower (selected : Option String) :
    Gives (readAlterDatabase selected) Request.CharsetsLower :=
  yields_after fun _ => yields_bind readDatabaseOptions_isLower fun _ h => gives_pure h

theorem readCreateTable_charsetsLower (selected : Option String) :
    Gives (readCreateTable selected) Request.CharsetsLower :=
  yields_after fun _ => yields_after fun _ => yields_bind (readTableSource_charsetsLower selected)
    fun _ hsource => yields_bind readTableOptions_isLower fun _ h => gives_pure ⟨hsource, h⟩

theorem readAlterTable_charsetsLower (selected : Option String) :
    Gives (readAlterTable selected) fun o => ∀ r ∈ o, r.CharsetsLower := by
  refine yields_after fun name => yields_bind (readAlterClauses_charsetsLower selected)
    fun parts h => gives_pure fun r hr => ?_
  rw [alterRequest?] at hr
  split at hr
  · cases hr
  · cases hr
    exact editOf_charsetsLower h

/-- The charsets that are written in a statement are read in lower case. -/
theorem requests_charsetsLower {selected : Option String} {statement : String}
    {rs : List Request} (h : requests selected statement = .ok rs) :
    ∀ r ∈ rs, r.CharsetsLower := by
  have hone : ∀ {r : Reader Request}, Gives r Request.CharsetsLower →
      Gives r fun r => ∀ r' ∈ [r], r'.CharsetsLower :=
    fun h c r next hr => List.forall_mem_singleton.2 (h c r next hr)
  have hlower : StatementsGive selected fun rs => ∀ r ∈ rs, r.CharsetsLower := {
    nothing := by simp
    createTable := hone (readCreateTable_charsetsLower selected)
    createDatabase := hone readCreateDatabase_charsetsLower
    alterTable := fun c o next ho r hr =>
      List.forall_mem_singleton.2 (readAlterTable_charsetsLower selected c o next ho r hr)
    alterDatabase := hone (readAlterDatabase_charsetsLower selected)
    dropTable := yields_after fun _ => yields_after fun _ => yields_after fun _ =>
      gives_pure (by simp [Request.CharsetsLower])
    dropDatabase := hone (yields_after fun _ => yields_after fun _ => gives_pure trivial)
    renameTables := hone (yields_after fun _ => gives_pure trivial) }
  exact hlower.requests h

end Statement

end SchemaTrail
