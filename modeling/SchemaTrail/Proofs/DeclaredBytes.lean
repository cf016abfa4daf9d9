import SchemaTrail.Proofs.JoinedStatements

/-!
# Declared byte strings

The attribute `BYTE` of a column makes byte strings of texts.  The charset `binary` in its place
does not: the column stays one of texts, with `binary` as its charset unless another is named behind
it (`Statement.readColumn_binary`).  So the two declarations agree only where no column of texts is
declared, or where `BYTE` stands at another place too.
-/

namespace SchemaTrail

open Outcome

/-! ## Kinds -/

/-- The byte strings that correspond to texts. -/
def ColumnKind.asBytes : ColumnKind → ColumnKind
  | .text size _ => .bytes size
  | k => k

theorem bytesTypeName_of_ne {name : String} (h : ∀ size : StringSize, name ≠ size.textName) :
    bytesTypeName name = name := by
  unfold bytesTypeName
  split
  · exact absurd rfl (h .fixed)
  · exact absurd rfl (h .varying)
  · exact absurd rfl (h .tiny)
  · exact absurd rfl (h .regular)
  · exact absurd rfl (h .medium)
  · exact absurd rfl (h .long)
  · rfl

theorem bytesTypeName_ne_textName (name : String) (size : StringSize) :
    bytesTypeName name ≠ size.textName := by
  by_cases h : ∃ size : StringSize, name = size.textName
  · obtain ⟨other, rfl⟩ := h
    cases other <;> cases size <;> decide
  · rw [bytesTypeName_of_ne fun size hname => h ⟨size, hname⟩]
    exact fun hname => h ⟨size, hname⟩

theorem canonicalTypeName_byte (declared : String) (byte : Bool) (length : Option Nat) :
    canonicalTypeName declared true length =
      bytesTypeName (canonicalTypeName declared byte length) := by
  simp only [canonicalTypeName, if_true]
  cases byte with
  | false => simp
  | true => simp [bytesTypeName_of_ne (bytesTypeName_ne_textName _)]

/-- No type of texts is one of byte strings. -/
theorem canonicalTypeName_eq_textName_iff {declared : String} {byte : Bool} {length : Option Nat}
    {size : StringSize} : canonicalTypeName declared byte length = size.textName ↔
      byte = false ∧ canonicalTypeName declared false length = size.textName := by
  cases byte with
  | false => simp
  | true => simp [canonicalTypeName_byte declared false, bytesTypeName_ne_textName]

namespace ColumnKind

variable {name declared : String} {signed : Bool} {charset : Option String} {length : Option Nat}
  {values : List String} {size : StringSize} {a : Attributes} {k : ColumnKind}

theorem asBytes_eq_iff : k.asBytes = k ↔ ∀ size charset, k ≠ .text size charset := by
  cases k <;> simp [asBytes]

/-- Only the canonical names of texts are those of columns of texts. -/
theorem ofTypeName?_eq_text_iff {charset' : Option String} :
    ofTypeName? name signed charset length values = some (.text size charset') ↔
      name = size.textName ∧ charset' = charset := by
  constructor
  · intro h
    unfold ofTypeName? at h
    split at h
    all_goals cases h
    all_goals exact ⟨rfl, rfl⟩
  · rintro ⟨rfl, rfl⟩
    cases size <;> rfl

theorem ofTypeName?_bytesTypeName (name : String) (signed : Bool)
    (charset charset' : Option String) (length : Option Nat) (values : List String) :
    ofTypeName? (bytesTypeName name) signed charset' length values =
      (ofTypeName? name signed charset length values).map asBytes := by
  by_cases h : ∃ size : StringSize, name = size.textName
  · obtain ⟨size, rfl⟩ := h
    cases size <;> rfl
  · rw [bytesTypeName_of_ne fun size hname => h ⟨size, hname⟩]
    unfold ofTypeName?
    split
    all_goals first
      | rfl
      | exact absurd ⟨.fixed, rfl⟩ h
      | exact absurd ⟨.varying, rfl⟩ h
      | exact absurd ⟨.tiny, rfl⟩ h
      | exact absurd ⟨.regular, rfl⟩ h
      | exact absurd ⟨.medium, rfl⟩ h
      | exact absurd ⟨.long, rfl⟩ h

/-- Asking for byte strings is the same as taking those that correspond to what is declared,
whichever charset is named. -/
theorem declare?_byte (declared : String) (a : Attributes) (charset : Option String) :
    declare? declared { a with byte := true, charset } = (declare? declared a).map asBytes := by
  rw [declare?, declare?, canonicalTypeName_byte declared a.byte]
  exact ofTypeName?_bytesTypeName _ _ _ _ _ _

theorem declare?_eq_text_iff {charset' : Option String} :
    declare? declared a = some (.text size charset') ↔
      canonicalTypeName declared a.byte a.length = size.textName ∧
        charset' = a.charset.map Text.asciiLower :=
  ofTypeName?_eq_text_iff

end ColumnKind

namespace Statement

variable {α : Type} {c here next : Cursor} {charset : String}
  {x y front rest xs left : List Content}

/-! ## Attributes of the encoding -/

/-- The tokens of the name of a charset, with or without an equals sign. -/
inductive OptionName (charset : String) : List Content → Prop
  | bare {k : Token.Kind} {text : String} (h : optionNameOf k text = some charset) :
    OptionName charset [(k, text)]
  | afterSign {k : Token.Kind} {sign text : String} (h : optionNameOf k text = some charset) :
    OptionName charset [(.symbol .eq, sign), (k, text)]

/-- The tokens of an attribute that names a charset. -/
inductive NamesCharset (charset : String) : List Content → Prop
  | characterSet {first second : String} {name : List Content} (h : OptionName charset name) :
    NamesCharset charset ((.keyword .character, first) :: (.keyword .set, second) :: name)
  | charset {first : String} {name : List Content} (h : OptionName charset name) :
    NamesCharset charset ((.keyword .charset, first) :: name)

/-- The token of the attribute `BYTE`. -/
inductive NamesByte : List Content → Prop
  | word {word text : String} (h : Text.equalIgnoringCase word "byte" = true) :
    NamesByte [(.identifier word, text)]

theorem reads_afterAdvance {r : Reader α} {a : α} (x : Content) (h : ReadsContents r xs a left) :
    ReadsContents (afterAdvance r) (x :: xs) a left :=
  Reads.bind (Q := fun c => c.contents = xs)
    (fun c hc => ⟨c.advance, rfl, Cursor.contents_advance hc⟩) h

theorem reads_expectKeyword (k : Keyword) (text : String) (xs : List Content) :
    ReadsContents (expectKeyword k) ((.keyword k, text) :: xs) () xs :=
  Reads.bind (f := fun b => if b = true then pure () else unexpected k.spelling)
    (reads_takeKeyword xs) (reads_pure () _)

theorem reads_readOptionName {name : List Content} (h : OptionName charset name)
    (rest : List Content) : ReadsContents readOptionName (name ++ rest) charset rest := by
  cases h with
  | @bare k text h =>
    have hnone : ReadsContents (takeSymbol .eq) ((k, text) :: rest) false ((k, text) :: rest) :=
      reads_takeIf_none fun c hc => by
        rw [Cursor.kind_of_contents hc]
        cases k <;> first | rfl | cases h
    exact hnone.discard.bind (reads_readAs h rest)
  | @afterSign k sign text h =>
    exact (reads_takeSymbol _).discard.bind (reads_readAs h rest)

theorem reads_attribute_of_namesCharset (hx : NamesCharset charset x) (rest : List Content) :
    ReadsContents readAttribute (x ++ rest) (some (.charset charset)) rest := by
  cases hx with
  | characterSet h =>
    exact reads_kind_bind <| reads_afterAdvance _ <|
      ((reads_expectKeyword _ _ _).bind (reads_readOptionName h rest)).bind (reads_pure _ _)
  | charset h =>
    exact reads_kind_bind <| reads_afterAdvance _ <|
      (reads_readOptionName h rest).bind (reads_pure _ _)

theorem reads_attribute_of_namesByte (hy : NamesByte y) (rest : List Content) :
    ReadsContents readAttribute (y ++ rest) (some .byte) rest := by
  cases hy with
  | word h =>
    refine reads_kind_bind (fun c hc => ⟨c.advance, ?_, Cursor.contents_advance hc⟩)
    show Except.ok (some (if _ then _ else _), _) = _
    rw [if_pos h]

/-! ## Column definitions -/

/-- The definition with more attributes behind its own. -/
def WrittenColumn.with (written : WrittenColumn) (more : List ColumnAttribute) : WrittenColumn :=
  { written with attributes := written.attributes ++ more }

/-- Reads a number of attributes. -/
def readAttributes : Nat → Reader (List ColumnAttribute)
  | 0 => return []
  | n + 1 => do
    match ← readAttribute with
    | some a => return a :: (← readAttributes n)
    | none => unexpected "attribute"

/-- Reads a column definition up to its first attributes. -/
def readFront (n : Nat) : Reader WrittenColumn :=
  return ⟨← readColumnName, ← readType, ← readAttributes n⟩

/-- The definition with byte strings instead of texts. -/
def ColumnDefinition.asBytes (d : ColumnDefinition) : ColumnDefinition :=
  { d with column := { d.column with kind := d.column.kind.asBytes } }

variable {n : Nat} {written : WrittenColumn} {d : ColumnDefinition} {before : List ColumnAttribute}

theorem readAttribute_progresses : Progresses readAttribute :=
  (readAttribute_isRound (v := .definition) (d := 0)).progresses

theorem readAttributes_steps : ∀ n, Steps .definition 0 0 (readAttributes n)
  | 0 => steps_pure .definition 0 _
  | n + 1 => readAttribute_isRound.steps.bind fun o => by
    cases o with
    | none => exact steps_unexpected _
    | some a => exact (readAttributes_steps n).bind fun _ => steps_pure .definition 0 _

theorem readFront_steps (n : Nat) : Steps .definition 0 0 (readFront n) :=
  readColumnName_steps.bind fun _ => readType_steps.bind fun _ =>
    (readAttributes_steps n).bind fun _ => steps_pure .definition 0 _

/-- The attributes that are read one by one are the first of all that are read. -/
theorem many_of_readAttributes (h : readAttributes n c = .ok (before, here)) :
    many readAttribute c = (many readAttribute here).map fun r => (before ++ r.1, r.2) := by
  induction n generalizing c before with
  | zero =>
    cases h
    generalize many readAttribute here = result
    cases result <;> rfl
  | succ n ih =>
    obtain ⟨o, m, ho, h⟩ := read_bind_iff.1 h
    cases o with
    | none => cases h
    | some a =>
      obtain ⟨as, m', has, h⟩ := read_bind_iff.1 h
      cases h
      rw [readAttribute_progresses.many_of_some ho, ih has]
      generalize many readAttribute here = result
      cases result <;> rfl

theorem readColumn_of_readFront (h : readFront n c = .ok (written, here)) :
    readColumn c = .ok (d, next) ↔ ∃ others, many readAttribute here = .ok (others, next) ∧
      (written.with others).definition = .ok d := by
  obtain ⟨name, m, hname, h⟩ := read_bind_iff.1 h
  obtain ⟨type, m', htype, h⟩ := read_bind_iff.1 h
  obtain ⟨before, m'', hbefore, h⟩ := read_bind_iff.1 h
  cases h
  rw [readColumn, bind_of_eq_ok hname, bind_of_eq_ok htype, read_bind_iff]
  simp only [many_of_readAttributes hbefore, map_eq_ok_iff]
  constructor
  · rintro ⟨attributes, m'', ⟨⟨others, next'⟩, hothers, heq⟩, h⟩
    cases heq
    obtain ⟨hdefined, rfl⟩ := ofResult_eq_ok_iff.1 h
    exact ⟨others, hothers, hdefined⟩
  · rintro ⟨others, hothers, h⟩
    exact ⟨before ++ others, next, ⟨(others, next), hothers, rfl⟩,
      ofResult_eq_ok_iff.2 ⟨h, rfl⟩⟩

/-! ## Byte strings instead of texts in `binary` -/

variable {others : List ColumnAttribute}

/-- A charset that is named stands for all that are named before it and for that of the type. -/
theorem attributedCharset_append (declared : Option String) (before others : List ColumnAttribute)
    (charset : String) : attributedCharset declared (before ++ .charset charset :: others) =
      attributedCharset (some charset) others := by
  simp [attributedCharset, List.findSome?_append]

theorem definition_eq_ok_iff : written.definition = .ok d ↔ ∃ kind,
    ColumnKind.declare? written.type.name written.declared = some kind ∧
      d = ⟨⟨written.name, kind, 0⟩, written.attributes.contains .primaryKey⟩ := by
  rw [WrittenColumn.definition, Column.declare]
  cases ColumnKind.declare? written.type.name written.declared with
  | none => simp [Except.map]
  | some kind => simp [Except.map, eq_comm]

/-- `BYTE` in the place of a charset makes byte strings of texts. -/
theorem definition_byte (h : (written.with (.charset charset :: others)).definition = .ok d) :
    (written.with (.byte :: others)).definition = .ok d.asBytes := by
  obtain ⟨kind, hkind, rfl⟩ := definition_eq_ok_iff.1 h
  have hdeclared : (written.with (.byte :: others)).declared =
      { (written.with (.charset charset :: others)).declared with
        byte := true, charset := (written.with (.byte :: others)).declared.charset } := by
    simp [WrittenColumn.declared, WrittenColumn.with]
  refine definition_eq_ok_iff.2 ⟨kind.asBytes, ?_, ?_⟩
  · rw [hdeclared]
    exact (ColumnKind.declare?_byte _ _ _).trans (congrArg (Option.map ColumnKind.asBytes) hkind)
  · simp [ColumnDefinition.asBytes, WrittenColumn.with]

/-- Texts are defined where their type is declared and `BYTE` stands nowhere. -/
theorem definition_text_iff (h : (written.with (.charset charset :: others)).definition = .ok d)
    {size : StringSize} {charset' : Option String} :
    d.column.kind = .text size charset' ↔
      (.byte ∉ written.attributes ++ others ∧
        canonicalTypeName written.type.name false written.type.length = size.textName) ∧
      charset' = (attributedCharset (some charset) others).map Text.asciiLower := by
  obtain ⟨kind, hkind, rfl⟩ := definition_eq_ok_iff.1 h
  have hcharset : (written.with (.charset charset :: others)).declared.charset =
      attributedCharset (some charset) others := attributedCharset_append _ _ _ _
  have hbyte : (written.with (.charset charset :: others)).declared.byte = false ↔
      .byte ∉ written.attributes ++ others := by
    simp [WrittenColumn.declared, WrittenColumn.with]
  show kind = .text size charset' ↔ _
  rw [← Option.some_inj, ← hkind, ColumnKind.declare?_eq_text_iff, hcharset,
    canonicalTypeName_eq_textName_iff, hbyte]
  rfl

theorem ColumnDefinition.asBytes_eq_iff :
    d.asBytes = d ↔ ∀ size charset, d.column.kind ≠ .text size charset := by
  obtain ⟨⟨name, kind, position⟩, isPrimaryKey⟩ := d
  simp [asBytes, ColumnKind.asBytes_eq_iff]

theorem NamesCharset.beginsEncoding (hx : NamesCharset charset x) (rest : List Content) :
    beginsEncoding (headKind (x ++ rest)) = true := by
  cases hx <;> rfl

theorem NamesByte.beginsEncoding (hy : NamesByte y) (rest : List Content) :
    beginsEncoding (headKind (y ++ rest)) = true := by
  cases hy with
  | word h => exact h

/-- A definition with `CHARACTER SET binary` anywhere among its attributes is that of texts, in the
charset that is named last, and with `BYTE` in that place it is that of the corresponding byte
strings.  So the two agree only if the type is none of texts, or if `BYTE` stands elsewhere. -/
theorem readColumn_binary (hx : NamesCharset binaryCharset x) (hy : NamesByte y)
    (hc : c.contents = front ++ (x ++ rest)) (hfront : readFront n c = .ok (written, here))
    (hhere : here.contents = x ++ rest) (h : readColumn c = .ok (d, next)) :
    ∃ others, ReadsContents (many readAttribute) rest others next.contents ∧
      ReadsContents readColumn (front ++ (y ++ rest)) d.asBytes next.contents ∧
      (∀ size charset, d.column.kind = .text size charset ↔
        (.byte ∉ written.attributes ++ others ∧
          canonicalTypeName written.type.name false written.type.length = size.textName) ∧
        charset = (attributedCharset (some binaryCharset) others).map Text.asciiLower) ∧
      (d.asBytes = d ↔ .byte ∈ written.attributes ++ others ∨ ∀ size : StringSize,
        canonicalTypeName written.type.name false written.type.length ≠ size.textName) := by
  obtain ⟨attributes, hmany, hdefined⟩ := (readColumn_of_readFront hfront).1 h
  obtain ⟨m, hattribute, hm⟩ := reads_attribute_of_namesCharset hx rest here hhere
  rw [readAttribute_progresses.many_of_some hattribute] at hmany
  obtain ⟨⟨others, m'⟩, hothers, heq⟩ := map_eq_ok_iff.1 hmany
  cases heq
  have hrest : ReadsContents (many readAttribute) rest others m'.contents :=
    hm ▸ (Steps.many (readAttribute_isRound (d := 0))).reads hothers
  refine ⟨others, hrest, fun c' hc' => ?_, fun _ _ => definition_text_iff hdefined, ?_⟩
  · obtain ⟨here', hfront', hhere'⟩ := (readFront_steps n).reads_up_to
      (.inr ⟨hx.beginsEncoding rest, hy.beginsEncoding rest⟩) hc hfront hhere c' hc'
    obtain ⟨next', hmany', hnext'⟩ := Reads.many_cons readAttribute_progresses
      (reads_attribute_of_namesByte hy rest) hrest here' hhere'
    exact ⟨next', (readColumn_of_readFront hfront').2 ⟨_, hmany', definition_byte hdefined⟩,
      hnext'⟩
  · rw [ColumnDefinition.asBytes_eq_iff]
    simp only [ne_eq, definition_text_iff hdefined]
    constructor
    · intro hno
      by_cases hbyte : .byte ∈ written.attributes ++ others
      · exact .inl hbyte
      · exact .inr fun size hsize => hno size _ ⟨⟨hbyte, hsize⟩, rfl⟩
    · rintro (hbyte | htype) size charset ⟨⟨hno, hsize⟩, -⟩
      · exact hno hbyte
      · exact htype size hsize

theorem readColumn_binary_varchar :
    let front : List Content := [(.identifier "c", "c"), (.identifier "varchar", "varchar"),
      (.symbol .leftParen, "("), (.integer 5, "5"), (.symbol .rightParen, ")"),
      (.keyword .not, "NOT"), (.keyword .null, "NULL")]
    let charset : List Content := [(.keyword .character, "CHARACTER"), (.keyword .set, "SET"),
      (.symbol .eq, "="), (.string "Binary", "'Binary'")]
    let rest : List Content := [(.keyword .comment, "COMMENT"), (.string "x", "'x'")]
    let c := Cursor.ofStatement "c varchar(5) NOT NULL CHARACTER SET = 'Binary' COMMENT 'x'"
    c.contents = front ++ (charset ++ rest) ∧ ∃ d next, readColumn c = .ok (d, next) ∧
      d.column.kind = .text .varying (some binaryCharset) ∧
      ReadsContents readColumn (front ++ ([(.identifier "BYTE", "BYTE")] ++ rest)) d.asBytes
        next.contents := by
  intro front charset rest c
  have hcontents : c.contents = front ++ (charset ++ rest) := by decide +kernel
  have hfront : (readFront 2 c).toOption.map (·.2.contents) = some (charset ++ rest) := by
    decide +kernel
  have hrun : (readColumn c).toOption.map (·.1.column.kind) =
      some (.text .varying (some binaryCharset)) := by
    decide +kernel
  obtain ⟨⟨written, here⟩, hwritten, hhere⟩ := Option.map_eq_some_iff.1 hfront
  obtain ⟨⟨d, next⟩, hd, hkind⟩ := Option.map_eq_some_iff.1 hrun
  rw [toOption_eq_some_iff] at hwritten hd
  have hx : NamesCharset binaryCharset charset := .characterSet (.afterSign (by decide +kernel))
  have hy : NamesByte [(.identifier "BYTE", "BYTE")] := .word (by decide +kernel)
  obtain ⟨-, -, hreads, -⟩ := readColumn_binary hx hy hcontents hwritten hhere hd
  exact ⟨hcontents, d, next, hd, hkind, hreads⟩

/-- A column of a new table is of type `char` in `binary`, where `BYTE` makes it one of `binary`. -/
theorem read_char_binary :
    (read none "CREATE TABLE d.t (c char(5) CHARACTER SET binary)").toOption.map createdColumns =
      some [⟨"c", .text .fixed (some binaryCharset), 0⟩] ∧
    (read none "CREATE TABLE d.t (c char(5) BYTE)").toOption.map createdColumns =
      some [⟨"c", .bytes .fixed, 0⟩] := by
  decide +kernel

end Statement

end SchemaTrail
