import SchemaTrail.Proofs.JoinedClauses
import SchemaTrail.Proofs.RelevantStatements

/-!
# Guarded clauses

A column clause of an `ALTER TABLE` statement may be guarded by `IF EXISTS` or `IF NOT EXISTS`.
`Statement.readGuarded` is a grammar of the statements that consist of one guarded clause and
nothing else.  Read with all other statements, such a statement asks for one edit of a column,
together with a new primary key if the definition of the column makes it one
(`Statement.read_of_readGuarded`).
-/

namespace SchemaTrail

open Outcome

/-- A column clause with a guard. -/
inductive GuardedClause where
  /-- Adds a column, if there is none of its name. -/
  | add (column : Column) (placement : Placement) (isKey : Bool)
  /-- Puts a column in the place of the one with a name, if there is one. -/
  | change (name : String) (column : Column) (placement : Placement) (isKey : Bool)
  /-- Removes the column with a name, if there is one. -/
  | remove (name : String)
  deriving DecidableEq, Repr

namespace GuardedClause

/-- What is to be done to the columns. -/
def edit : GuardedClause → ColumnEdit
  | .add column placement _ => .add column placement true
  | .change name column placement _ => .change name column placement true
  | .remove name => .remove name true

/-- The primary key that the definition of the column makes. -/
def key? : GuardedClause → Option (List String)
  | .add column _ isKey | .change _ column _ isKey => if isKey then some [column.name] else none
  | .remove _ => none

/-- What the statement asks to be done to the table. -/
def tableEdit (g : GuardedClause) : TableEdit :=
  ⟨[g.edit], none, none, none, g.key?⟩

/-- The parts of which this is put together. -/
def parts (g : GuardedClause) : List Statement.AlterPart :=
  g.key?.toList.map .primaryKey ++ [.column g.edit]

theorem editOf_parts (g : GuardedClause) : Statement.editOf g.parts = g.tableEdit := by
  rw [parts, tableEdit]
  cases g.key? <;> rfl

theorem partitions_not_mem_parts (g : GuardedClause) : .partitions ∉ g.parts := by
  rw [parts]
  cases g.key? <;> simp

end GuardedClause

namespace Statement

/-! ## The grammar -/

/-- Reads the guard of a column clause, which has to be next, perhaps after `COLUMN`. -/
def expectGuard (guard : Reader Bool) : Reader Unit := do
  discard <| takeKeyword .column
  unless ← guard do unexpected "guard"

/-- Reads what follows `ADD`. -/
def readGuardedAdd : Reader GuardedClause := do
  expectGuard takeIfNotExists
  let d ← readColumn
  return .add d.column (← readPlacement) d.isPrimaryKey

/-- Reads the definition of a column that takes the place of another, by default of the one of its
own name. -/
def readGuardedDefinition (name : Option String) : Reader GuardedClause := do
  let d ← readColumn
  return .change (name.getD d.column.name) d.column (← readPlacement) d.isPrimaryKey

/-- Reads what follows `CHANGE`. -/
def readGuardedChange : Reader GuardedClause := do
  expectGuard takeIfExists
  let name ← readColumnName
  readGuardedDefinition (some name)

/-- Reads what follows `MODIFY`. -/
def readGuardedModify : Reader GuardedClause := do
  expectGuard takeIfExists
  readGuardedDefinition none

/-- Reads what follows `DROP`. -/
def readGuardedDrop : Reader GuardedClause := do
  expectGuard takeIfExists
  let name ← readColumnName
  discard <| takeEither .restrict .cascade
  return .remove name

/-- Reads a guarded clause. -/
def readGuardedClause : Reader GuardedClause := do
  match ← kind with
  | .keyword .add => afterAdvance readGuardedAdd
  | .keyword .change => afterAdvance readGuardedChange
  | .keyword .modify => afterAdvance readGuardedModify
  | .keyword .drop => afterAdvance readGuardedDrop
  | _ => unexpected "guarded column clause"

/-- Reads an `ALTER TABLE` statement that consists of a guarded clause, up to its end. -/
def readGuardedStatement (selected : Option String) : Reader (TableName × GuardedClause) := do
  expectKeyword .alter
  skipWhile isAlterOption
  expectKeyword .table
  let name ← readTableName selected
  let clause ← readGuardedClause
  expectEnd
  return (name, clause)

/-- The table and the guarded clause of a statement that consists of one. -/
def readGuarded (selected : Option String) (statement : String) :
    Except Stop (TableName × GuardedClause) :=
  ((readGuardedStatement selected).run (.ofStatement statement)).map (·.1)

/-! ## Steps of readers -/

variable {α β : Type} {c next : Cursor}

/-- The cursor after a keyword that may be next. -/
def Cursor.past (c : Cursor) (k : Keyword) : Cursor :=
  if c.kind = .keyword k then c.advance else c

theorem takeKeyword_eq (k : Keyword) (c : Cursor) :
    takeKeyword k c = .ok (decide (c.kind = .keyword k), c.past k) := by
  rw [takeKeyword, takeIf_eq, Cursor.past]
  by_cases hkind : c.kind = .keyword k <;> simp [hkind]

theorem expectKeyword_eq_ok {k : Keyword} (h : expectKeyword k c = .ok ((), next)) :
    c.kind = .keyword k ∧ next = c.advance := by
  obtain ⟨taken, m, htaken, h⟩ := read_bind_iff.1 h
  rw [takeKeyword, takeIf_eq] at htaken
  by_cases hkind : c.kind = .keyword k
  · simp only [hkind, decide_true, if_true] at htaken
    cases htaken
    cases h
    exact ⟨hkind, rfl⟩
  · simp only [hkind, decide_false, Bool.false_eq_true, if_false] at htaken
    cases htaken
    cases h

/-- A guard begins with `IF`. -/
theorem kind_of_guard {rest : Reader Bool}
    (h : (do if ← takeKeyword .ifWord then rest else return false) c = .ok (true, next)) :
    c.kind = .keyword .ifWord := by
  rw [takeKeyword, takeIf_bind] at h
  by_cases hkind : c.kind = .keyword .ifWord
  · exact hkind
  · rw [if_neg (by simpa using hkind)] at h
    cases h

theorem expectGuard_eq_ok {guard : Reader Bool} (h : expectGuard guard c = .ok ((), next)) :
    guard (c.past .column) = .ok (true, next) := by
  obtain ⟨_, m, htaken, h⟩ := read_bind_iff.1 h
  obtain ⟨taken, htaken⟩ := discard_eq_ok_iff.1 htaken
  rw [takeKeyword_eq] at htaken
  cases htaken
  obtain ⟨there, m, hthere, h⟩ := read_bind_iff.1 h
  cases there with
  | true =>
    cases h
    exact hthere
  | false => cases h

/-- The word `COLUMN` in front of a guard may be left out. -/
theorem kind_of_guard_past {rest : Reader Bool}
    (h : (do if ← takeKeyword .ifWord then rest else return false) (c.past .column) =
      .ok (true, next)) :
    c.kind = .keyword .column ∨ c.kind = .keyword .ifWord ∧ c.past .column = c := by
  have hif := kind_of_guard h
  rw [Cursor.past] at hif ⊢
  by_cases hcolumn : c.kind = .keyword .column
  · exact .inl hcolumn
  · rw [if_neg hcolumn] at hif ⊢
    exact .inr ⟨hif, rfl⟩

/-- No constraint is named in front of another word than `CONSTRAINT`. -/
theorem skipConstraintNames_of_ne (h : c.kind ≠ .keyword .constraint) :
    skipConstraintNames c = .ok ((), c) := by
  refine discard_eq_ok_iff.2 ⟨[], many_of_none ?_⟩
  rw [skipConstraint, takeKeyword, takeIf_bind, if_neg (by simpa using h)]
  rfl

/-! ## Clauses -/

theorem keyPart_eq (d : ColumnDefinition) : keyPart d =
    (if d.isPrimaryKey then some [d.column.name] else none).toList.map .primaryKey := by
  rw [keyPart]
  split <;> rfl

variable {g : GuardedClause}

theorem readAdd_of_guarded (h : readGuardedAdd c = .ok (g, next)) :
    readAdd c = .ok (g.parts, next) := by
  obtain ⟨_, m, hguard, h⟩ := read_bind_iff.1 h
  have hguard := expectGuard_eq_ok hguard
  obtain ⟨d, m', hd, h⟩ := read_bind_iff.1 h
  obtain ⟨placement, m'', hplacement, h⟩ := read_bind_iff.1 h
  cases h
  have hadded : readAddedColumns (c.past .column) =
      .ok ((GuardedClause.add d.column placement d.isPrimaryKey).parts, next) := by
    rw [readAddedColumns, takeSymbol, takeIf_bind, kind_of_guard hguard, if_neg (by decide)]
    refine read_bind_iff.2 ⟨_, _, hguard, read_bind_iff.2 ⟨_, _, hd, read_bind_iff.2
      ⟨_, _, hplacement, ?_⟩⟩⟩
    rw [addedParts, keyPart_eq]
    rfl
  rw [readAdd]
  rcases kind_of_guard_past hguard with hcolumn | ⟨hif, hpast⟩
  · refine read_bind_iff.2 ⟨_, _, skipConstraintNames_of_ne (by simp [hcolumn]), ?_⟩
    refine read_bind_iff.2 ⟨_, _, takeKeyword_eq _ _, ?_⟩
    simp only [hcolumn]
    exact hadded
  · refine read_bind_iff.2 ⟨_, _, skipConstraintNames_of_ne (by simp [hif]), ?_⟩
    refine read_bind_iff.2 ⟨_, _, takeKeyword_eq _ _, ?_⟩
    rw [hpast] at hadded ⊢
    simp only [hif]
    refine read_bind_iff.2 ⟨_, _, rfl, ?_⟩
    simp only [hif]
    exact hadded

theorem readChanged_of_guarded {name : Option String}
    (h : readGuardedDefinition name c = .ok (g, next)) :
    readChanged true name c = .ok (g.parts, next) := by
  obtain ⟨d, m, hd, h⟩ := read_bind_iff.1 h
  obtain ⟨placement, m', hplacement, h⟩ := read_bind_iff.1 h
  cases h
  refine read_bind_iff.2 ⟨_, _, hd, read_bind_iff.2 ⟨_, _, hplacement, ?_⟩⟩
  rw [keyPart_eq]
  rfl

theorem readChange_of_guarded (h : readGuardedChange c = .ok (g, next)) :
    readChange c = .ok (g.parts, next) := by
  obtain ⟨_, m, hguard, h⟩ := read_bind_iff.1 h
  obtain ⟨name, m', hname, h⟩ := read_bind_iff.1 h
  exact read_bind_iff.2 ⟨_, _, discard_eq_ok_iff.2 ⟨_, takeKeyword_eq _ _⟩, read_bind_iff.2
    ⟨_, _, expectGuard_eq_ok hguard, read_bind_iff.2 ⟨_, _, hname, readChanged_of_guarded h⟩⟩⟩

theorem readModify_of_guarded (h : readGuardedModify c = .ok (g, next)) :
    readModify c = .ok (g.parts, next) := by
  obtain ⟨_, m, hguard, h⟩ := read_bind_iff.1 h
  exact read_bind_iff.2 ⟨_, _, discard_eq_ok_iff.2 ⟨_, takeKeyword_eq _ _⟩, read_bind_iff.2
    ⟨_, _, expectGuard_eq_ok hguard, readChanged_of_guarded h⟩⟩

theorem readDrop_of_guarded (h : readGuardedDrop c = .ok (g, next)) :
    readDrop c = .ok (g.parts, next) := by
  obtain ⟨_, m, hguard, h⟩ := read_bind_iff.1 h
  have hguard := expectGuard_eq_ok hguard
  obtain ⟨name, m', hname, h⟩ := read_bind_iff.1 h
  obtain ⟨_, m'', hend, h⟩ := read_bind_iff.1 h
  cases h
  have hdropped : readRemovedColumn c = .ok ((GuardedClause.remove name).parts, next) :=
    read_bind_iff.2 ⟨_, _, discard_eq_ok_iff.2 ⟨_, takeKeyword_eq _ _⟩, read_bind_iff.2
      ⟨_, _, hguard, read_bind_iff.2 ⟨_, _, hname, read_bind_iff.2 ⟨_, _, hend, rfl⟩⟩⟩⟩
  rw [readDrop, kind_bind]
  rcases kind_of_guard_past hguard with hcolumn | ⟨hif, -⟩
  · simp only [hcolumn]
    exact hdropped
  · simp only [hif]
    exact hdropped

theorem readAlterClause_of_guarded (selected : Option String)
    (h : readGuardedClause c = .ok (g, next)) :
    endsStatement c.kind = false ∧ readAlterClause selected c = .ok (g.parts, next) := by
  rw [readGuardedClause, kind_bind] at h
  rw [readAlterClause, kind_bind]
  generalize c.kind = k at h
  split at h
  · exact ⟨rfl, readAdd_of_guarded h⟩
  · exact ⟨rfl, readChange_of_guarded h⟩
  · exact ⟨rfl, readModify_of_guarded h⟩
  · exact ⟨rfl, readDrop_of_guarded h⟩
  · cases h

/-! ## Statements -/

theorem kind_of_expectEnd (h : expectEnd c = .ok ((), next)) : c.kind ≠ .symbol .comma := by
  intro hcomma
  have hends := endsStatement_of_expectEnd h
  rw [hcomma] at hends
  cases hends

/-- If the statement ends after a guarded clause, then it has no other. -/
theorem readAlterClauses_of_guarded (selected : Option String)
    (h : readGuardedClause c = .ok (g, next)) (hend : next.kind ≠ .symbol .comma) :
    readAlterClauses selected c = .ok (g.parts, next) := by
  obtain ⟨hkind, hclause⟩ := readAlterClause_of_guarded selected h
  rw [readAlterClauses_eq hkind]
  refine read_bind_iff.2 ⟨_, _, hclause, read_bind_iff.2 ⟨[], next, readMoreClauses_none hend, ?_⟩⟩
  show Except.ok (g.parts ++ [], next) = _
  rw [List.append_nil]

theorem readAlterTable_of_guarded {selected : Option String} {name : TableName} {m : Cursor}
    (hname : readTableName selected c = .ok (name, m)) (h : readGuardedClause m = .ok (g, next))
    (hend : next.kind ≠ .symbol .comma) :
    readAlterTable selected c = .ok (some (.alterTable name g.tableEdit), next) := by
  refine read_bind_iff.2 ⟨_, _, hname, read_bind_iff.2
    ⟨_, _, readAlterClauses_of_guarded selected h hend, ?_⟩⟩
  have hpartitions : g.parts.contains .partitions = false := by
    simpa using g.partitions_not_mem_parts
  rw [alterRequest?, hpartitions, g.editOf_parts]
  rfl

/-- A statement that consists of a guarded clause asks for what the clause says. -/
theorem read_of_readGuarded {selected : Option String} {statement : String} {name : TableName}
    (h : readGuarded selected statement = .ok (name, g)) :
    read selected statement = .ok [.alterTable name g.tableEdit] := by
  obtain ⟨⟨_, finish⟩, h, heq⟩ := map_eq_ok_iff.1 h
  obtain ⟨_, c₁, halter, h⟩ := read_bind_iff.1 h
  obtain ⟨_, c₂, hoptions, h⟩ := read_bind_iff.1 h
  obtain ⟨_, c₃, htable, h⟩ := read_bind_iff.1 h
  obtain ⟨name', c₄, hname, h⟩ := read_bind_iff.1 h
  obtain ⟨clause, c₅, hclause, h⟩ := read_bind_iff.1 h
  obtain ⟨_, c₆, hend, h⟩ := read_bind_iff.1 h
  cases h
  cases heq
  obtain ⟨hkind, rfl⟩ := expectKeyword_eq_ok halter
  obtain ⟨hkind', rfl⟩ := expectKeyword_eq_ok htable
  have hread : readStatement selected (.ofStatement statement) =
      .ok (some [.alterTable name g.tableEdit], c₅) := by
    rw [readStatement, kind_bind, hkind]
    refine read_bind_iff.2 ⟨_, _, rfl, read_bind_iff.2 ⟨_, _, hoptions, ?_⟩⟩
    rw [readObject, takeKeyword, takeIf_bind, hkind']
    exact read_bind_iff.2 ⟨_, _, readAlterTable_of_guarded hname hclause (kind_of_expectEnd hend),
      rfl⟩
  exact read_eq_ok_iff.2 ⟨_, _, hread, .inr ⟨rfl, _, hend⟩⟩

end Statement

end SchemaTrail
