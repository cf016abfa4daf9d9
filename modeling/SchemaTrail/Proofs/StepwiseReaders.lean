import SchemaTrail.Proofs.LetterCase
import SchemaTrail.Proofs.StepwiseRounds
import SchemaTrail.Statement.Reading

/-!
# The steps of the readers

All readers of statements go step by step, and so do the rounds of their loops.  The lemmas follow
the definitions of the readers, each for the settings in which the reader stands.  So reading a
statement runs into no endless loop (`Statement.readRequests_ne_endless`).
-/

namespace SchemaTrail.Statement

open Outcome

variable {α β : Type} {v : Setting} {d : Nat} {k : Token.Kind} {c next : Cursor}

/-! ## Loops -/

theorem skipWhile_steps {wanted : Token.Kind → Bool}
    (hwanted : ∀ k, wanted k = true → isPlain k = true)
    (hv : v = .definition → ∀ k, wanted k = true → beginsEncoding k = false) :
    Steps v d d (skipWhile wanted) := by
  refine (Steps.many (isRound_behind (steps_pure v d (some ())) fun k hk => ?_)).discard
  have hplain := hwanted k hk
  exact ⟨standsWithin_of_isPlain hplain, keepsDepth_of_isPlain hplain,
    Setting.alike_eq_false hplain fun h => hv h k hk⟩

section

variable {item : Reader α}

/-- Within a group a comma is not the end of a clause. -/
theorem Steps.separated (h : Steps v (d + 1) (d + 1) item) :
    Steps v (d + 1) (d + 1) (separated item) := by
  have hround : IsRound v (d + 1) (readBehind .comma item) :=
    isRound_behind_symbol (h.map some) rfl rfl (Setting.alike_succ fun _ => rfl)
  exact h.bind fun _ => (Steps.many hround).bind fun _ => steps_pure v (d + 1) _

/-- Items up to the parenthesis that closes their group. -/
theorem Steps.readGroup (h : Steps v (d + 1) (d + 1) item) : Steps v (d + 1) d (readGroup item) :=
  h.separated.bind fun _ => expectClose_steps.bind fun _ => steps_pure v d _

end

/-! ## Skipping -/

theorem skipGroup_steps : Steps v d d skipGroup :=
  fun _ => .group

theorem skipGroupIfNext_steps : Steps v d d skipGroupIfNext :=
  steps_kind (fun k => (skipGroup_steps.ite (steps_pure v d _)) k) rfl rfl rfl rfl fun _ => rfl

theorem skipPart_isRound : IsRound v d skipPart := by
  refine isRound_kind (fun k => ?_) rfl rfl rfl rfl fun _ => rfl
  split
  · exact isRoundAt_skipGroup fun _ => steps_pure v d _
  next hopen => exact isRoundAt_skipToken hopen fun _ => steps_pure v d _

theorem skipClause_steps : Steps v d d skipClause :=
  (Steps.many skipPart_isRound).discard

theorem isPlain_of_isSign (hk : isSign k = true) : isPlain k = true := by
  rcases Bool.or_eq_true_iff.1 hk with h | h
  all_goals
    rw [of_decide_eq_true h]
    rfl

theorem skipValue_steps : Steps v d d skipValue := by
  have hsigns : Steps v d d (skipWhile isSign) :=
    skipWhile_steps (fun _ => isPlain_of_isSign) fun _ k hk => by
      rcases Bool.or_eq_true_iff.1 hk with h | h
      all_goals
        rw [of_decide_eq_true h]
        rfl
  refine hsigns.bind fun _ => steps_kind (fun k => ?_) rfl rfl rfl rfl fun _ => rfl
  split
  · exact .group
  next hopen => exact StepsAt.ite (fun _ => steps_unexpected _ _) fun hk =>
      (stepsAt_skipToken (Bool.eq_false_iff.2 hk) hopen).andThen fun _ => skipGroupIfNext_steps

/-! ## Names -/

theorem isPlain_of_nameOf {afterPoint : Bool} (k : Token.Kind) (text name : String)
    (h : nameOf afterPoint k text = some name) : isPlain k = true := by
  unfold nameOf at h
  split at h
  all_goals first
    | rfl
    | cases h

theorem readName_steps (afterPoint : Bool) (what : String) :
    Steps v d d (readName afterPoint what) :=
  readAs_steps what isPlain_of_nameOf

theorem requireDatabase_steps (selected : Option String) :
    Steps v d d (requireDatabase selected) := by
  cases selected with
  | some database => exact steps_pure v d database
  | none => exact steps_fail fun _ => .inl rfl

theorem takeDot_steps : Steps v d d (takeSymbol .dot) :=
  takeSymbol_steps rfl

theorem inSelected_steps (selected : Option String) (table : String) :
    Steps v d d (inSelected selected table) :=
  (requireDatabase_steps selected).bind fun _ => steps_pure v d _

theorem readTableName_steps (selected : Option String) : Steps v d d (readTableName selected) :=
  takeDot_steps.taken ((readName_steps _ _).bind (inSelected_steps selected)) <|
    (readName_steps _ _).bind fun first => takeDot_steps.taken
      ((readName_steps _ _).bind fun _ => steps_pure v d _) (inSelected_steps selected first)

theorem readNextName_isRound : IsRound v d readNextName :=
  isRound_behind_symbol ((readName_steps _ _).map some) rfl rfl
    (Setting.alike_eq_false rfl fun _ => rfl)

theorem readColumnName_steps : Steps v d d readColumnName :=
  (readName_steps _ _).bind fun _ => (Steps.many readNextName_isRound).bind fun _ =>
    steps_pure v d _

theorem isPlain_of_optionNameOf (k : Token.Kind) (text name : String)
    (h : optionNameOf k text = some name) : isPlain k = true := by
  unfold optionNameOf at h
  split at h
  all_goals first
    | rfl
    | cases h

theorem readOptionName_steps : Steps v d d readOptionName :=
  (takeSymbol_steps rfl).discard.bind fun _ => readAs_steps _ isPlain_of_optionNameOf

theorem readSetName_steps : Steps v d d readSetName :=
  (expectKeyword_steps fun _ => rfl).bind fun _ => readOptionName_steps

theorem takeIfExists_steps : Steps v d d takeIfExists :=
  (takeKeyword_steps fun _ => rfl).taken
    ((expectKeyword_steps fun _ => rfl).bind fun _ => steps_pure v d _) (steps_pure v d _)

theorem takeIfNotExists_steps : Steps v d d takeIfNotExists :=
  (takeKeyword_steps fun _ => rfl).taken
    ((expectKeyword_steps fun _ => rfl).bind fun _ => (expectKeyword_steps fun _ => rfl).bind
      fun _ => steps_pure v d _) (steps_pure v d _)

theorem takeCharsetOption_steps : Steps .statement d d takeCharsetOption :=
  (takeKeyword_steps (v := .statement) nofun).taken
    (readSetName_steps.bind fun _ => steps_pure .statement d _) <|
      (takeKeyword_steps (v := .statement) nofun).taken
        (readOptionName_steps.bind fun _ => steps_pure .statement d _) <|
          (takeKeyword_steps fun _ => rfl).taken
            (readOptionName_steps.bind fun _ => steps_pure .statement d _)
            (steps_pure .statement d _)

/-! ## Columns -/

theorem isPlain_of_valueOf (k : Token.Kind) (text value : String)
    (h : valueOf k text = some value) : isPlain k = true := by
  unfold valueOf at h
  split at h
  all_goals first
    | rfl
    | cases h

theorem readValue_steps : Steps v d d readValue :=
  readAs_steps _ isPlain_of_valueOf

theorem readValues_steps : Steps v d d readValues :=
  expectOpen_steps.bind fun _ => readValue_steps.readGroup

theorem isPlain_of_numberOf (k : Token.Kind) (text : String) (n : Nat)
    (h : numberOf k text = some n) : isPlain k = true := by
  unfold numberOf at h
  split at h
  · rfl
  · cases h

theorem readNumber_steps : Steps v d d readNumber :=
  readAs_steps _ isPlain_of_numberOf

theorem readLength_steps : Steps v d d readLength :=
  expectOpen_steps.bind fun _ => readNumber_steps.readGroup.bind fun _ => steps_pure v d _

theorem readTypeWord_steps : Steps v d d readTypeWord := by
  refine readAs_steps _ fun k text word h => ?_
  unfold typeWordOf at h
  split at h
  all_goals first
    | rfl
    | cases h

/-- A word of a type is not `BYTE`. -/
theorem takeWord_steps {word : String} (hword : Text.equalIgnoringCase "byte" word = false) :
    Steps v d d (takeWord word) := by
  refine steps_takeIf (fun k hk => ?_) fun _ k hk => ?_
  · split at hk
    · rfl
    · cases hk
  · split at hk
    next w =>
      rw [← Bool.not_eq_true, Text.equalIgnoringCase_iff] at hword
      rw [Text.equalIgnoringCase_iff] at hk
      refine Bool.eq_false_iff.2 fun hbyte => hword ?_
      rw [beginsEncoding, Text.equalIgnoringCase_iff] at hbyte
      rw [← hbyte, hk]
    next => cases hk

theorem readTypeName_steps (word : String) : Steps v d d (readTypeName word) := by
  have hvarchar : ∀ full short, Steps v d d
      (do return if ← takeWord "varchar" then full else short : Reader String) :=
    fun _ _ => (takeWord_steps (by decide)).bind fun _ => steps_pure v d _
  unfold readTypeName
  split
  · exact (takeKeyword_steps fun _ => rfl).bind fun _ => steps_pure v d _
  · exact (takeKeyword_steps fun _ => rfl).taken (steps_pure v d _) (hvarchar _ _)
  · exact (takeKeyword_steps fun _ => rfl).taken (steps_pure v d _) (hvarchar _ _)
  · exact (takeKeyword_steps fun _ => rfl).taken (steps_pure v d _) (hvarchar _ _)
  · exact (takeWord_steps (by decide)).taken (steps_pure v d _)
      ((takeWord_steps (by decide)).bind fun _ => steps_pure v d _)
  · exact steps_pure v d _

theorem readType_steps : Steps v d d readType := by
  refine (takeKeyword_steps fun _ => rfl).bind fun _ => readTypeWord_steps.bind fun word =>
    (readTypeName_steps word).bind fun name =>
      steps_kind (fun k => Steps.ite (Steps.ite ?_ ?_) (steps_pure v d _) k)
        rfl rfl rfl rfl fun _ => rfl
  · exact readValues_steps.bind fun _ => steps_pure v d _
  · exact readLength_steps.bind fun _ => steps_pure v d _

/-- Where an attribute of the encoding begins, it is read. -/
theorem readAttribute_isRound : IsRound v d readAttribute := by
  have hsome : ∀ a, Steps v d d (return some a : Reader (Option ColumnAttribute)) :=
    fun a => steps_pure v d (some a)
  refine isRound_kind_of_takes (fun k => ?_) rfl rfl rfl ?_
  · split
    case h_5 word =>
      exact isRoundAt_afterAdvance (k := .identifier word) rfl ((steps_pure v d _).map some)
    case h_6 => exact isRoundAt_afterAdvance rfl (readSetName_steps.bind fun _ => hsome _)
    case h_9 =>
      exact isRoundAt_afterAdvance rfl ((expectKeyword_steps fun _ => rfl).bind fun _ => hsome _)
    case h_11 =>
      exact isRoundAt_afterAdvance rfl
        ((takeKeyword_steps fun _ => rfl).discard.bind fun _ => hsome _)
    case h_14 =>
      exact isRoundAt_afterAdvance rfl ((takeKeyword_steps fun _ => rfl).taken
        (skipValue_steps.bind fun _ => hsome _) (hsome _))
    case h_15 => exact isRoundAt_skipGroup fun _ => hsome _
    case h_16 hopen => exact isRoundAt_skipToken hopen fun _ => hsome _
    all_goals first
      | exact isRoundAt_none _
      | exact isRoundAt_afterAdvance rfl (hsome _)
      | exact isRoundAt_afterAdvance rfl (readOptionName_steps.bind fun _ => hsome _)
      | exact isRoundAt_afterAdvance rfl (skipValue_steps.bind fun _ => hsome _)
  · have htakes : ∀ k, k ≠ .eof → ∀ {r : Reader (Option ColumnAttribute)},
        Steps .statement 0 0 r → TakesAt k (afterAdvance r) :=
      fun k hk _ hr => (takesAt_advance hk).bind fun _ => hr
    refine forall_beginsEncoding ?_ ?_ fun word _ => ?_
    · exact htakes (.keyword .character) nofun
        (readSetName_steps.bind fun _ => steps_pure .statement 0 _)
    · exact htakes (.keyword .charset) nofun
        (readOptionName_steps.bind fun _ => steps_pure .statement 0 _)
    · exact htakes (.identifier word) nofun ((steps_pure .statement 0 _).map some)

/-- A column is refused for its type. -/
theorem ofStatement_of_definition {written : WrittenColumn} {e : SchemaError}
    (h : written.definition = .error e) : e.OfStatement := by
  rw [WrittenColumn.definition, map_eq_error_iff, Column.declare] at h
  split at h
  · cases h
  · cases h
    exact .inr rfl

theorem readColumn_steps : Steps v d d readColumn :=
  readColumnName_steps.bind fun _ => readType_steps.bind fun _ =>
    (Steps.many readAttribute_isRound).bind fun _ =>
      ofResult_steps fun _ => ofStatement_of_definition

theorem readPlacement_steps : Steps v d d readPlacement :=
  (takeKeyword_steps fun _ => rfl).taken (steps_pure v d _) <|
    (takeKeyword_steps fun _ => rfl).taken (readColumnName_steps.bind fun _ => steps_pure v d _)
      (steps_pure v d _)

/-! ## Keys -/

theorem seekColumns_isRound : IsRound .statement d seekColumns :=
  isRound_kind_statement fun k => .ite (fun _ => isRoundAt_none k) fun _ =>
    .ite (fun _ => isRoundAt_unexpected k _) fun hk =>
      isRoundAt_bind (ne_eof_of_not_endsStatement hk)
        (stepsAt_skipToken_statement (Bool.eq_false_iff.2 hk) d d)
        (takesAt_skipToken (ne_eof_of_not_endsStatement hk)) fun _ => steps_pure .statement d _

theorem seekColumns_progresses : Progresses seekColumns :=
  (seekColumns_isRound (d := 0)).progresses

/-- Columns of a key are looked for up to a parenthesis. -/
theorem kind_of_seekColumns {units : List Unit} (h : many seekColumns c = .ok (units, next)) :
    next.kind = .symbol .leftParen := by
  refine many_induction (P := fun _ _ next => next.kind = .symbol .leftParen)
    (fun c m hnone => ?_) (fun _ _ _ _ _ _ hrest => hrest) h
  rw [seekColumns, kind_bind] at hnone
  split at hnone
  next hopen =>
    cases hnone
    exact hopen
  next =>
    split at hnone
    · cases hnone
    · obtain ⟨_, heq, -⟩ := some_map_eq_ok_iff.1 hnone
      cases heq

theorem openColumns_statement : Steps .statement d (d + 1) openColumns := by
  intro k
  refine .bind ((Steps.many seekColumns_isRound).discard k)
    fun c _ next _ h => ?_
  obtain ⟨units, h⟩ := discard_eq_ok_iff.1 h
  rw [kind_of_seekColumns h]
  exact .advance rfl (.opens d)

theorem openColumns_eq_map (c : Cursor) :
    openColumns c = (many seekColumns c).map fun r => ((), r.2.advance) := by
  show ((many seekColumns c).map _).bind _ = _
  cases many seekColumns c <;> rfl

theorem openColumns_open (hk : c.kind = .symbol .leftParen) :
    openColumns c = .ok ((), c.advance) := by
  have hseek : seekColumns c = .ok (none, c) := by
    rw [seekColumns, kind_bind, if_pos hk]
    rfl
  rw [openColumns_eq_map, many_of_none hseek]
  rfl

/-- Whether a token stands between the beginning of a key and its list of columns. -/
def LeadsToColumns (k : Token.Kind) : Prop :=
  k ≠ .symbol .leftParen ∧ endsStatement k = false ∧ ∀ fault, k ≠ .error fault

theorem seekColumns_eq_some (hk : LeadsToColumns c.kind) :
    seekColumns c = .ok (some (), c.advance) := by
  rw [seekColumns, kind_bind, if_neg hk.1, hk.2.1]
  exact some_map_eq_ok_iff.2 ⟨(), rfl, skipToken_eq_ok hk.2.2⟩

/-- A list of columns is looked for token by token. -/
theorem openColumns_advance (hk : LeadsToColumns c.kind) :
    openColumns c = openColumns c.advance := by
  rw [openColumns_eq_map, openColumns_eq_map,
    seekColumns_progresses.many_of_some (seekColumns_eq_some hk)]
  cases many seekColumns c.advance <;> rfl

theorem leadsToColumns {u : Unit} (h : openColumns c = .ok (u, next))
    (hopen : c.kind ≠ .symbol .leftParen) : LeadsToColumns c.kind := by
  rw [openColumns_eq_map] at h
  refine ⟨hopen, Bool.eq_false_iff.2 fun hends => ?_, fun fault hfault => ?_⟩
  · have hseek : seekColumns c = .error (.failed (c.unexpected "key column list")) := by
      rw [seekColumns, kind_bind, if_neg hopen, hends]
      rfl
    rw [many_of_error hseek] at h
    cases h
  · have hseek : seekColumns c = .error (.failed (c.unexpected "token")) := by
      rw [seekColumns, kind_bind, if_neg hopen, hfault]
      exact some_map_eq_error_iff.2 (skipToken_eq_error hfault)
    rw [many_of_error hseek] at h
    cases h

theorem openColumns_ne_ok (hc : c.contents = []) (u : Unit) (next : Cursor) :
    openColumns c ≠ .ok (u, next) := by
  intro h
  have hkind : c.kind = .eof := Cursor.kind_of_contents hc
  have hends := (leadsToColumns h (by simp [hkind])).2.1
  rw [hkind] at hends
  cases hends

/-- In a clause the list of columns is opened, or there is none behind the clause. -/
theorem openColumns_exchanges (k : Token.Kind) : Exchanges .clause 0 1 k openColumns := by
  rintro c u next w t - ⟨hw, ht⟩ - hc h
  clear k
  induction w generalizing c with
  | nil =>
    cases ht with
    | nil => exact absurd h (openColumns_ne_ok hc u next)
    | rightParen =>
      have hkind : c.kind = .symbol .rightParen := Cursor.kind_of_contents hc
      rw [openColumns_advance (leadsToColumns h (by simp [hkind]))] at h
      exact absurd h (openColumns_ne_ok (Cursor.contents_advance hc) u next)
  | cons x xs ih =>
    have hkind : c.kind = x.1 := Cursor.kind_of_contents hc
    cases hw with
    | opens hxs =>
      rw [openColumns_open hkind] at h
      cases h
      refine ⟨xs, List.suffix_cons _ _, ⟨hxs, ht⟩, Cursor.contents_advance hc,
        fun t' _ c' hc' => ?_⟩
      exact ⟨_, openColumns_open (Cursor.kind_of_contents hc'), Cursor.contents_advance hc'⟩
    | plain hx _ _ hxs =>
      have hopen : c.kind ≠ .symbol .leftParen := by
        rw [hkind]
        exact (ne_paren_of_keepsDepth hx).1
      have hleads := leadsToColumns h hopen
      rw [openColumns_advance hleads] at h
      obtain ⟨left, hleft, hfront, hnext, hreads⟩ := ih c.advance hxs (Cursor.contents_advance hc) h
      refine ⟨left, hleft.trans (List.suffix_cons _ _), hfront, hnext, fun t' ht' c' hc' => ?_⟩
      have hkind' : c'.kind = x.1 := Cursor.kind_of_contents hc'
      rw [openColumns_advance (hkind'.trans hkind.symm ▸ hleads)]
      exact hreads t' ht' c'.advance (Cursor.contents_advance hc')

theorem openColumns_steps : Steps .clause 0 1 openColumns :=
  fun k => .known (openColumns_statement k) (openColumns_exchanges k)

theorem readKeyColumn_steps : Steps v d d readKeyColumn :=
  readColumnName_steps.bind fun _ => skipGroupIfNext_steps.bind fun _ =>
    (takeEither_steps (fun _ => rfl) fun _ => rfl).discard.bind fun _ => steps_pure v d _

theorem readKeyColumns_steps : Steps .clause 0 0 readKeyColumns :=
  openColumns_steps.bind fun _ => readKeyColumn_steps.readGroup

/-! ## Constraints -/

theorem skipConstraintName_steps : Steps v d d skipConstraintName :=
  steps_kind (fun k => ((steps_pure v d ()).ite (readName_steps _ _).discard) k)
    rfl rfl rfl rfl fun _ => rfl

theorem skipConstraint_isRound : IsRound v d skipConstraint :=
  isRound_behind_keyword (skipConstraintName_steps.map some) fun _ => rfl

theorem skipConstraintNames_steps : Steps v d d skipConstraintNames :=
  (Steps.many skipConstraint_isRound).discard

theorem readPrimaryKey_steps : Steps .clause 0 0 readPrimaryKey :=
  (expectKeyword_steps fun _ => rfl).bind fun _ => readKeyColumns_steps.bind fun _ =>
    skipClause_steps.bind fun _ => steps_pure .clause 0 _

/-! ## Creating a table -/

theorem readElement_steps : Steps .clause 0 0 readElement := by
  refine skipConstraintNames_steps.bind fun _ => steps_kind_clause (fun k => ?_) rfl rfl rfl
  split
  all_goals first
    | exact .afterAdvance rfl (readPrimaryKey_steps.bind fun _ => steps_pure .clause 0 _)
    | exact (skipClause_steps.bind fun _ => steps_pure .clause 0 _) _
    | exact (readColumn_steps.bind fun _ => steps_pure .clause 0 _) _

theorem readElements_steps : Steps .statement 1 0 readElements :=
  (readElement_steps.statement 1 1).readGroup.bind fun _ => steps_pure .statement 0 _

theorem readSourceName_steps (selected : Option String) :
    Steps .statement 1 0 (readSourceName selected) :=
  (readTableName_steps selected).bind fun _ => expectClose_steps.bind fun _ =>
    steps_pure .statement 0 _

/-- What is read behind the parenthesis that opens a group, if it is next. -/
theorem Steps.takenOpen {yes no : Reader α} {d' : Nat} (hyes : Steps v (d + 1) d' yes)
    (hno : Steps v d d' no) : Steps v d d' (do if ← takeSymbol .leftParen then yes else no) := by
  refine steps_takeIf_bind (fun k hk => ?_) hno fun k hk => ?_
  · rw [of_decide_eq_true hk]
    exact .andThen (.advance rfl (.opens d)) fun _ => hyes
  · rw [of_decide_eq_true hk]
    cases v with
    | clause => exact Bool.and_false _
    | _ => rfl

theorem readTableSource_steps (selected : Option String) :
    Steps .statement 0 0 (readTableSource selected) :=
  (takeKeyword_steps fun _ => rfl).taken
    ((readTableName_steps selected).bind fun _ => steps_pure .statement 0 _) <|
      Steps.takenOpen ((takeKeyword_steps fun _ => rfl).taken (readSourceName_steps selected)
        readElements_steps) (steps_unexpected _)

theorem skipTableOption_isRound : IsRound .statement 0 skipTableOption := by
  have hnone : Steps .statement 0 0 (return some [] : Reader (Option (List CharsetOption))) :=
    steps_pure .statement 0 _
  refine isRound_kind_statement fun k => ?_
  split
  all_goals first
    | exact isRoundAt_bind nofun (.rest nofun) takesAt_skipAll fun _ => hnone
    | exact isRoundAt_unexpected _ _
    | exact isRoundAt_skipGroup fun _ => hnone
    | exact isRoundAt_skipToken_statement fun _ => hnone

theorem skipDatabaseOption_isRound : IsRound .statement 0 skipDatabaseOption :=
  isRound_kind_statement fun _ => isRoundAt_skipToken_statement fun _ => steps_pure .statement 0 _

section

variable {skip : Reader (Option (List CharsetOption))}

theorem optionOr_steps (h : Steps .statement 0 0 skip) (o : Option CharsetOption) :
    Steps .statement 0 0 (optionOr skip o) := by
  cases o with
  | some o => exact steps_pure .statement 0 _
  | none => exact h

/-- A charset option is read behind its word.  Without one, another option is passed over. -/
theorem readOption_isRound (h : IsRound .statement 0 skip) :
    IsRound .statement 0 (readOption skip) where
  steps := takeCharsetOption_steps.bind (optionOr_steps h.steps)
  progresses := by
    have hoption : ∀ {r : Reader (Option CharsetOption)}, Steps .statement 0 0 r →
        Steps .statement 0 0 (r >>= optionOr skip) :=
      fun hr => hr.bind (optionOr_steps h.steps)
    exact progresses_takeIf_bind rfl
      (hoption (readSetName_steps.bind fun _ => steps_pure .statement 0 _)) <|
        progresses_takeIf_bind rfl
          (hoption (readOptionName_steps.bind fun _ => steps_pure .statement 0 _)) <|
            progresses_takeIf_bind rfl
              (hoption (readOptionName_steps.bind fun _ => steps_pure .statement 0 _))
              h.progresses

theorem readOptions_steps (h : IsRound .statement 0 skip) :
    Steps .statement 0 0 (readOptions skip) :=
  (Steps.many (readOption_isRound h)).bind fun _ => steps_pure .statement 0 _

end

theorem readTableOptions_steps : Steps .statement 0 0 readTableOptions :=
  readOptions_steps skipTableOption_isRound

theorem readDatabaseOptions_steps : Steps .statement 0 0 readDatabaseOptions :=
  readOptions_steps skipDatabaseOption_isRound

/-! ## Altering a table -/

theorem ignoreClause_steps : Steps v d d ignoreClause :=
  skipClause_steps.bind fun _ => steps_pure v d _

theorem ignorePartitions_steps : Steps v d d ignorePartitions :=
  skipClause_steps.bind fun _ => steps_pure v d _

theorem readAddedColumn_steps : Steps v d d readAddedColumn :=
  takeIfNotExists_steps.bind fun _ => readColumn_steps.bind fun _ => readPlacement_steps.bind
    fun _ => steps_pure v d _

theorem readAddedColumns_steps : Steps v d d readAddedColumns :=
  Steps.takenOpen (readColumn_steps.readGroup.bind fun _ => steps_pure v d _) readAddedColumn_steps

theorem readAdd_steps : Steps .clause 0 0 readAdd := by
  refine skipConstraintNames_steps.bind fun _ => (takeKeyword_steps fun _ => rfl).taken
    readAddedColumns_steps (steps_kind_clause (fun k => ?_) rfl rfl rfl)
  split
  all_goals first
    | exact .afterAdvance rfl (readPrimaryKey_steps.bind fun _ => steps_pure .clause 0 _)
    | exact ignoreClause_steps _
    | exact ignorePartitions_steps _
    | exact readAddedColumns_steps _

theorem readChanged_steps (guarded : Bool) (name : Option String) :
    Steps v d d (readChanged guarded name) :=
  readColumn_steps.bind fun _ => readPlacement_steps.bind fun _ => steps_pure v d _

theorem readChange_steps : Steps v d d readChange :=
  (takeKeyword_steps fun _ => rfl).discard.bind fun _ => takeIfExists_steps.bind fun _ =>
    readColumnName_steps.bind fun _ => readChanged_steps _ _

theorem readModify_steps : Steps v d d readModify :=
  (takeKeyword_steps fun _ => rfl).discard.bind fun _ => takeIfExists_steps.bind fun _ =>
    readChanged_steps _ _

theorem readRemovedColumn_steps : Steps v d d readRemovedColumn :=
  (takeKeyword_steps fun _ => rfl).discard.bind fun _ => takeIfExists_steps.bind fun _ =>
    readColumnName_steps.bind fun _ =>
      (takeEither_steps (fun _ => rfl) fun _ => rfl).discard.bind fun _ => steps_pure v d _

theorem readDrop_steps : Steps .clause 0 0 readDrop := by
  refine steps_kind_clause (fun k => ?_) rfl rfl rfl
  split
  all_goals first
    | exact .afterAdvance rfl ((expectKeyword_steps fun _ => rfl).bind fun _ =>
        steps_pure .clause 0 _)
    | exact ignoreClause_steps _
    | exact ignorePartitions_steps _
    | exact readRemovedColumn_steps _

theorem readRenamedColumn_steps : Steps v d d readRenamedColumn :=
  readColumnName_steps.bind fun _ => (expectKeyword_steps fun _ => rfl).bind fun _ =>
    readColumnName_steps.bind fun _ => steps_pure v d _

theorem readNewName_steps (selected : Option String) : Steps v d d (readNewName selected) :=
  (takeEither_steps (fun _ => rfl) fun _ => rfl).discard.bind fun _ =>
    (readTableName_steps selected).bind fun _ => steps_pure v d _

theorem readRename_steps (selected : Option String) : Steps .clause 0 0 (readRename selected) := by
  refine steps_kind_clause (fun k => ?_) rfl rfl rfl
  split
  all_goals first
    | exact .afterAdvance rfl readRenamedColumn_steps
    | exact ignoreClause_steps _
    | exact readNewName_steps selected _

theorem expectCharset_steps : Steps .clause d d expectCharset :=
  (takeKeyword_steps (v := .clause) nofun).taken readSetName_steps
    ((expectKeyword_steps (v := .clause) nofun).bind fun _ => readOptionName_steps)

theorem readConvert_steps : Steps .clause d d readConvert :=
  (expectKeyword_steps fun _ => rfl).bind fun _ => expectCharset_steps.bind fun _ =>
    skipClause_steps.bind fun _ => steps_pure .clause d _

theorem readCharsetPart_steps : Steps .clause d d readCharsetPart := by
  refine steps_kind_clause (fun k => ?_) rfl rfl rfl
  split
  · exact .afterAdvance rfl (readSetName_steps.bind fun _ => steps_pure .clause d _)
  · exact .afterAdvance rfl (readOptionName_steps.bind fun _ => steps_pure .clause d _)
  · exact .pure []

theorem readCollationPart_steps : Steps v d d readCollationPart :=
  (takeKeyword_steps fun _ => rfl).taken (readOptionName_steps.bind fun _ => steps_pure v d _)
    (steps_pure v d _)

theorem readCharsetClause_steps : Steps .clause d d readCharsetClause :=
  readCharsetPart_steps.bind fun _ => readCollationPart_steps.bind fun _ => steps_pure .clause d _

theorem readDefault_steps : Steps .clause d d readDefault :=
  steps_kind_clause (fun k => (readCharsetClause_steps.ite (steps_unexpected _)) k) rfl rfl rfl

theorem readAlterClause_steps (selected : Option String) :
    Steps .clause 0 0 (readAlterClause selected) := by
  refine steps_kind_clause (fun k => ?_) rfl rfl rfl
  split
  · exact .afterAdvance rfl readAdd_steps
  · exact .afterAdvance rfl readChange_steps
  · exact .afterAdvance rfl readModify_steps
  · exact .afterAdvance rfl readDrop_steps
  · exact .afterAdvance rfl (readRename_steps selected)
  · exact .afterAdvance rfl readConvert_steps
  · exact .afterAdvance rfl readDefault_steps
  · exact .andThen (.rest nofun) fun _ => steps_pure .clause 0 _
  · exact (readCharsetClause_steps.ite (ignorePartitions_steps.ite ignoreClause_steps)) _

theorem readClauseIfAny_steps (selected : Option String) :
    Steps .statement 0 0 (readClauseIfAny selected) :=
  steps_kind_statement fun k => ((steps_pure .statement 0 none).ite
    (((readAlterClause_steps selected).statement 0 0).map some)) k

theorem readNextClause_isRound (selected : Option String) :
    IsRound .statement 0 (readNextClause selected) :=
  isRound_behind_symbol (readClauseIfAny_steps selected) rfl rfl rfl

theorem readMoreClauses_steps (selected : Option String) :
    Steps .statement 0 0 (readMoreClauses selected) :=
  (Steps.many (readNextClause_isRound selected)).map _

theorem readAlterClauses_steps (selected : Option String) :
    Steps .statement 0 0 (readAlterClauses selected) :=
  steps_kind_statement fun k => ((steps_pure .statement 0 []).ite
    (((readAlterClause_steps selected).statement 0 0).bind fun _ =>
      (readMoreClauses_steps selected).bind fun _ => steps_pure .statement 0 _)) k

/-! ## Statements -/

theorem readCreateDatabase_steps : Steps .statement 0 0 readCreateDatabase :=
  takeIfNotExists_steps.bind fun _ => (readName_steps _ _).bind fun _ =>
    readDatabaseOptions_steps.bind fun _ => steps_pure .statement 0 _

theorem readDatabaseName_steps (selected : Option String) :
    Steps .statement d d (readDatabaseName selected) := by
  refine fun k => .readAsOr (fun k text name h => ?_) (requireDatabase_steps selected k) nofun
  rw [databaseNameOf] at h
  split at h
  · cases h
  · exact isPlain_of_nameOf k text name h

theorem readAlterDatabase_steps (selected : Option String) :
    Steps .statement 0 0 (readAlterDatabase selected) :=
  (readDatabaseName_steps selected).bind fun _ => readDatabaseOptions_steps.bind fun _ =>
    steps_pure .statement 0 _

theorem readDropDatabase_steps : Steps .statement 0 0 readDropDatabase :=
  takeIfExists_steps.bind fun _ => (readName_steps _ _).bind fun _ => steps_pure .statement 0 _

theorem readCreateTable_steps (selected : Option String) :
    Steps .statement 0 0 (readCreateTable selected) :=
  takeIfNotExists_steps.bind fun _ => (readTableName_steps selected).bind fun _ =>
    (readTableSource_steps selected).bind fun _ => readTableOptions_steps.bind fun _ =>
      steps_pure .statement 0 _

theorem readAlterTable_steps (selected : Option String) :
    Steps .statement 0 0 (readAlterTable selected) :=
  (readTableName_steps selected).bind fun _ => (readAlterClauses_steps selected).bind fun _ =>
    steps_pure .statement 0 _

theorem readDropTable_steps (selected : Option String) :
    Steps .statement 0 0 (readDropTable selected) :=
  takeIfExists_steps.bind fun _ =>
    ((readTableName_steps (v := .statement) (d := 1) selected).separated.statement 0 0).bind
      fun _ => (takeEither_steps (fun _ => rfl) fun _ => rfl).discard.bind fun _ =>
        steps_pure .statement 0 _

theorem readRenamePair_steps (selected : Option String) : Steps v d d (readRenamePair selected) :=
  (readTableName_steps selected).bind fun _ => (expectKeyword_steps fun _ => rfl).bind fun _ =>
    (readTableName_steps selected).bind fun _ => steps_pure v d _

theorem readRenameTables_steps (selected : Option String) :
    Steps .statement 0 0 (readRenameTables selected) :=
  ((readRenamePair_steps (v := .statement) (d := 1) selected).separated.statement 0 0).bind
    fun _ => steps_pure .statement 0 _

theorem takeDatabase_steps : Steps v d d (takeIf namesDatabase) :=
  takeEither_steps (fun _ => rfl) fun _ => rfl

theorem readObject_steps {table database : Reader (Option (List Request))}
    (htable : Steps .statement 0 0 table) (hdatabase : Steps .statement 0 0 database) :
    Steps .statement 0 0 (readObject table database) :=
  (takeKeyword_steps fun _ => rfl).taken htable <|
    takeDatabase_steps.taken hdatabase (steps_pure .statement 0 _)

theorem readCreate_steps (selected : Option String) : Steps .statement 0 0 (readCreate selected) :=
  readObject_steps ((readCreateTable_steps selected).bind fun _ => steps_pure .statement 0 _)
    (readCreateDatabase_steps.bind fun _ => steps_pure .statement 0 _)

theorem isPlain_of_isAlterOption (hk : isAlterOption k = true) : isPlain k = true := by
  simp only [isAlterOption, Bool.or_eq_true, decide_eq_true_eq] at hk
  rcases hk with (rfl | rfl) | rfl
  all_goals rfl

theorem readAlter_steps (selected : Option String) : Steps .statement 0 0 (readAlter selected) :=
  (skipWhile_steps (v := .statement) (fun _ => isPlain_of_isAlterOption) nofun).bind fun _ =>
    readObject_steps ((readAlterTable_steps selected).bind fun _ => steps_pure .statement 0 _)
      ((readAlterDatabase_steps selected).bind fun _ => steps_pure .statement 0 _)

theorem readDropStatement_steps (selected : Option String) :
    Steps .statement 0 0 (readDropStatement selected) :=
  readObject_steps ((readDropTable_steps selected).bind fun _ => steps_pure .statement 0 _)
    (readDropDatabase_steps.bind fun _ => steps_pure .statement 0 _)

theorem readRenameStatement_steps (selected : Option String) :
    Steps .statement 0 0 (readRenameStatement selected) :=
  (takeKeyword_steps fun _ => rfl).taken
    ((readRenameTables_steps selected).bind fun _ => steps_pure .statement 0 _)
    (steps_pure .statement 0 _)

theorem readStatement_steps (selected : Option String) :
    Steps .statement 0 0 (readStatement selected) := by
  refine steps_kind_statement fun k => ?_
  split
  · exact .afterAdvance rfl (readCreate_steps selected)
  · exact .afterAdvance rfl (readAlter_steps selected)
  · exact .afterAdvance rfl (readDropStatement_steps selected)
  · exact .afterAdvance rfl (readRenameStatement_steps selected)
  · exact steps_unexpected _ _
  · exact .pure none

theorem expectEnd_error {x : Stop} (h : expectEnd c = .error x) :
    ∃ e, x = .failed e ∧ e.OfStatement := by
  rcases read_bind_error_iff.1 h with h | ⟨_, m, -, h⟩
  · rw [discard_eq_error_iff, takeSymbol, takeIf_eq] at h
    cases h
  · rw [kind_bind] at h
    split at h
    · cases h
    · cases h
      exact ⟨_, rfl, .inl rfl⟩

/-- Whatever a statement is, reading it stops short with an error of the statement if at all. -/
theorem readRequests_error {selected : Option String} {x : Stop}
    (h : readRequests selected c = .error x) : ∃ e, x = .failed e ∧ e.OfStatement := by
  rcases read_bind_error_iff.1 h with h | ⟨answer, m, -, h⟩
  · exact (readStatement_steps selected).error h
  · cases answer with
    | none => cases h
    | some requests =>
      rcases read_bind_error_iff.1 h with h | ⟨_, m', -, h⟩
      · exact expectEnd_error h
      · cases h

/-- Reading a statement runs into no endless loop. -/
theorem readRequests_ne_endless (selected : Option String) (c : Cursor) :
    readRequests selected c ≠ .error .endless := by
  intro h
  obtain ⟨e, heq, -⟩ := readRequests_error h
  cases heq

end SchemaTrail.Statement
