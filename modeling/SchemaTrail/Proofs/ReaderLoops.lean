import SchemaTrail.Proofs.LeftTokens

/-!
# Reading ends

The loops of the readers are listed in `Statement.Loop`.  Every round of a loop passes over a token,
or the loop is left, and where the statement ends no loop goes on
(`Statement.Loop.round_progresses`).  So loops end by themselves, and with them the reading of every
statement (`Statement.read_ends`).
-/

namespace SchemaTrail.Statement

/-! ## Loops -/

/-- The items that are listed with commas between them. -/
inductive Listed : Type → Type
  /-- Values of a type, in `readValues`. -/
  | value : Listed String
  /-- Numbers behind a type, in `readLength`. -/
  | number : Listed Nat
  /-- Elements of a new table, in `readElements`. -/
  | element : Listed TableElement
  /-- Columns that are added, in `readAddedColumns`. -/
  | column : Listed ColumnDefinition
  /-- Columns of a key, in `readKeyColumns`. -/
  | keyColumn : Listed String
  /-- Tables that are dropped, in `readDropTable`. -/
  | table (selected : Option String) : Listed TableName
  /-- Tables that are renamed, in `readRenameTables`. -/
  | rename (selected : Option String) : Listed (TableName × TableName)

/-- Reads an item of a list. -/
def Listed.read {α : Type} : Listed α → Reader α
  | .value => readValue
  | .number => readNumber
  | .element => readElement
  | .column => readColumn
  | .keyColumn => readKeyColumn
  | .table selected => readTableName selected
  | .rename selected => readRenamePair selected

/-- The loops of the readers, each with what its rounds give. -/
inductive Loop : Type → Type 1
  /-- Signs in front of a value, in `skipValue`. -/
  | signs : Loop Unit
  /-- Tokens and groups of a clause that is skipped, in `skipClause`. -/
  | clause : Loop Unit
  /-- All tokens that are left of a partition clause, in `skipAll`. -/
  | rest : Loop Unit
  /-- Names of a column behind points, in `readColumnName`. -/
  | names : Loop String
  /-- Items of a list behind commas, in `separated`. -/
  | items {α : Type} (item : Listed α) : Loop α
  /-- Attributes of a column, in `readColumn`. -/
  | attributes : Loop ColumnAttribute
  /-- Tokens in front of the columns of a key, in `openColumns`. -/
  | beforeKey : Loop Unit
  /-- Names of constraints, in `skipConstraintNames`. -/
  | constraints : Loop Unit
  /-- Options of a table, in `readTableOptions`. -/
  | tableOptions : Loop (List CharsetOption)
  /-- Options of a database, in `readDatabaseOptions`. -/
  | databaseOptions : Loop (List CharsetOption)
  /-- Clauses of an `ALTER TABLE` statement behind commas, in `readMoreClauses`. -/
  | clauses (selected : Option String) : Loop (List AlterPart)
  /-- Words between `ALTER` and `TABLE`, in `readAlter`. -/
  | modifiers : Loop Unit

/-- A round of a loop, which gives nothing where the loop is left. -/
def Loop.round {α : Type} : Loop α → Reader (Option α)
  | .signs => skipIf isSign
  | .clause => skipPart
  | .rest => skipIf (· ≠ .eof)
  | .names => readNextName
  | .items item => readBehind .comma item.read
  | .attributes => readAttribute
  | .beforeKey => seekColumns
  | .constraints => skipConstraint
  | .tableOptions => readOption skipTableOption
  | .databaseOptions => readOption skipDatabaseOption
  | .clauses selected => readNextClause selected
  | .modifiers => skipIf isAlterOption

variable {α : Type}

theorem Listed.read_steps (item : Listed α) : Steps .statement 0 0 item.read := by
  cases item with
  | value => exact readValue_steps
  | number => exact readNumber_steps
  | element => exact readElement_steps.statement 0 0
  | column => exact readColumn_steps
  | keyColumn => exact readKeyColumn_steps
  | table selected => exact readTableName_steps selected
  | rename selected => exact readRenamePair_steps selected

/-- Every round of a loop that goes on passes over a token. -/
theorem Loop.round_progresses (l : Loop α) : Progresses l.round := by
  cases l with
  | signs => exact progresses_skipIf rfl
  | clause => exact (skipPart_isRound (v := .statement) (d := 0)).progresses
  | rest => exact progresses_skipIf rfl
  | names => exact (readNextName_isRound (v := .statement) (d := 0)).progresses
  | items item => exact (isRound_behind_symbol (item.read_steps.map some) rfl rfl rfl).progresses
  | attributes => exact (readAttribute_isRound (v := .statement) (d := 0)).progresses
  | beforeKey => exact seekColumns_progresses
  | constraints => exact (skipConstraint_isRound (v := .statement) (d := 0)).progresses
  | tableOptions => exact (readOption_isRound skipTableOption_isRound).progresses
  | databaseOptions => exact (readOption_isRound skipDatabaseOption_isRound).progresses
  | clauses selected => exact (readNextClause_isRound selected).progresses
  | modifiers => exact progresses_skipIf rfl

/-! ## Clauses within clauses -/

/-- Behind `DEFAULT`, which is passed over, a charset clause is read as one of its own. -/
theorem readAlterClause_default (selected : Option String) {c : Cursor}
    (hc : c.kind = .keyword .default) (hnext : beginsCharset c.advance.kind = true) :
    c.advance.tokens.length < c.tokens.length ∧
      readAlterClause selected c = readAlterClause selected c.advance := by
  refine ⟨Cursor.length_advance (by simp [hc]), ?_⟩
  have hdefault : readAlterClause selected c = readCharsetClause c.advance := by
    rw [readAlterClause, kind_bind, hc]
    show readDefault c.advance = _
    rw [readDefault, kind_bind, if_pos hnext]
  rw [hdefault, readAlterClause, kind_bind]
  generalize c.advance.kind = k at hnext
  unfold beginsCharset at hnext
  split at hnext
  · rfl
  · rfl
  · rfl
  · cases hnext

/-! ## Groups -/

/-- A group is closed token by token: at each of them the search ends or goes on behind it. -/
theorem closeGroup_cons (finish : Span) (depth : Nat) (previous : Span) (t : Token)
    (ts : List Token) :
    (∃ e, closeGroup finish depth previous (t :: ts) = .error e) ∨
      closeGroup finish depth previous (t :: ts) = .ok ⟨t.span, ts, finish⟩ ∨
      ∃ depth', closeGroup finish depth previous (t :: ts) =
        closeGroup finish depth' t.span ts := by
  rcases closeGroup_cons_cases t.kind depth with hfails | hends | ⟨m, hgoes⟩
  · exact .inl (hfails finish previous t ts rfl)
  · exact .inr (.inl (hends finish previous t ts rfl))
  · exact .inr (.inr ⟨m, hgoes finish previous t ts rfl⟩)

/-! ## Statements -/

/-- Reading a statement gives what its readers give. -/
theorem read_cases (selected : Option String) (statement : String) :
    (∃ requests next, readRequests selected (.ofStatement statement) = .ok (requests, next) ∧
      read selected statement = .ok requests) ∨
    ∃ e, readRequests selected (.ofStatement statement) = .error (.failed e) ∧
      read selected statement = .error e := by
  cases hread : read selected statement with
  | ok requests =>
    obtain ⟨⟨_, next⟩, hrun, rfl⟩ := Outcome.map_eq_ok_iff.1 hread
    exact .inl ⟨_, next, settled_eq_ok_iff.1 hrun, rfl⟩
  | error e => exact .inr ⟨e, read_eq_error_iff.1 hread, rfl⟩

/-- Reading a statement ends, whatever its text and the selected database.  No run of the readers,
from any place, has a loop with more rounds than there are tokens, and so every statement has a
result, which is that of its run.  Each round of a loop passes over a token or is the last, and it
is the last at the end of the statement, so that the loop ends by itself and not for the number of
its rounds; a clause within a clause is read from a later token; and groups are closed token by
token. -/
theorem read_ends (selected : Option String) (statement : String) :
    (∀ c, readRequests selected c ≠ .error .endless) ∧
      ((∃ requests next, readRequests selected (.ofStatement statement) = .ok (requests, next) ∧
        read selected statement = .ok requests) ∨
        ∃ e, readRequests selected (.ofStatement statement) = .error (.failed e) ∧
          read selected statement = .error e) ∧
      (∀ (α : Type) (l : Loop α), Progresses l.round ∧ ∀ c, LoopRuns l.round c (many l.round c)) ∧
      (∀ c : Cursor, c.kind = .keyword .default → beginsCharset c.advance.kind = true →
        c.advance.tokens.length < c.tokens.length ∧
          readAlterClause selected c = readAlterClause selected c.advance) ∧
      ∀ finish depth previous, (∃ e, closeGroup finish depth previous [] = .error e) ∧
        ∀ t ts, (∃ e, closeGroup finish depth previous (t :: ts) = .error e) ∨
          closeGroup finish depth previous (t :: ts) = .ok ⟨t.span, ts, finish⟩ ∨
          ∃ depth', closeGroup finish depth previous (t :: ts) =
            closeGroup finish depth' t.span ts :=
  ⟨readRequests_ne_endless selected, read_cases selected statement,
    fun _ l => ⟨l.round_progresses, l.round_progresses.loopRuns⟩,
    fun _ => readAlterClause_default selected, fun _ _ _ => ⟨⟨_, rfl⟩, closeGroup_cons _ _ _⟩⟩

end SchemaTrail.Statement
