import SchemaTrail.Proofs.ReadStatements
import SchemaTrail.Proofs.ScannedWords

/-!
# Statements that are relevant

The first tokens of a statement tell whether it has to be read at all (`Statement.isRelevant`): one
that is not about tables or databases asks for nothing (`Statement.read_eq_nil`).
-/

namespace SchemaTrail

open Outcome

namespace Statement

/-- Whether tokens begin with the word for a table or a database. -/
def beginsObject : List Token.Kind → Bool
  | .keyword .table :: _ | .keyword .database :: _ | .keyword .schema :: _ => true
  | _ => false

/-- Whether a statement with these tokens is about tables or databases, or begins with a fault. -/
def isRelevant : List Token.Kind → Bool
  | .keyword .create :: ks | .keyword .drop :: ks => beginsObject ks
  | .keyword .alter :: ks => beginsObject (ks.dropWhile isAlterOption)
  | .keyword .rename :: ks => ks.head? = some (.keyword .table)
  | .error _ :: _ => true
  | _ => false

variable {c : Cursor}

/-! ## Statements that ask for nothing -/

/-- Neither a table nor a database is taken if the tokens begin with none. -/
theorem readObject_eq_none (table database : Reader (Option (List Request)))
    (h : beginsObject c.kinds = false) : readObject table database c = .ok (none, c) := by
  have hkind : decide (c.kind = .keyword .table) = false ∧ namesDatabase c.kind = false := by
    rw [Cursor.kind_eq]
    generalize c.kinds = ks at h
    cases ks with
    | nil => exact ⟨rfl, rfl⟩
    | cons k ks =>
      have hne : k ≠ .keyword .table ∧ k ≠ .keyword .database ∧ k ≠ .keyword .schema := by
        refine ⟨?_, ?_, ?_⟩ <;>
        · rintro rfl
          cases h
      simp [namesDatabase, hne]
  rw [readObject, takeKeyword, takeIf_bind, hkind.1]
  simp only [Bool.false_eq_true, if_false]
  rw [takeIf_bind, hkind.2]
  rfl

theorem isAlterOption_eof : isAlterOption .eof = false :=
  rfl

theorem readAlter_eq_none (selected : Option String)
    (h : beginsObject (c.kinds.dropWhile isAlterOption) = false) :
    ∃ next, readAlter selected c = .ok (none, next) := by
  obtain ⟨next, hskip, hkinds⟩ := skipWhile_eq isAlterOption_eof c
  rw [← hkinds] at h
  exact ⟨next, read_bind_iff.2 ⟨(), next, hskip, readObject_eq_none _ _ h⟩⟩

theorem readRenameStatement_eq_none (selected : Option String)
    (h : c.kinds.head? ≠ some (.keyword .table)) :
    readRenameStatement selected c = .ok (none, c) := by
  have htable : decide (c.kind = .keyword .table) = false := by
    rw [Cursor.kind_eq]
    generalize c.kinds = ks at h
    cases ks with
    | nil => rfl
    | cons k ks => simpa using h
  rw [readRenameStatement, takeKeyword, takeIf_bind, htable]
  rfl

/-- A statement that is not relevant asks for nothing. -/
theorem readStatement_eq_none (selected : Option String) (h : isRelevant c.kinds = false) :
    ∃ next, readStatement selected c = .ok (none, next) := by
  have hadvance : ∀ r : Reader (Option (List Request)), afterAdvance r c = r c.advance :=
    fun _ => rfl
  rw [readStatement, kind_bind, Cursor.kind_eq]
  have htail := c.kinds_advance
  generalize c.kinds = ks at h htail
  cases ks with
  | nil => exact ⟨c, rfl⟩
  | cons k ks =>
    rw [List.headD_cons]
    rw [List.tail_cons] at htail
    split
    · exact ⟨_, (hadvance _).trans (readObject_eq_none _ _ (htail ▸ h))⟩
    · exact (readAlter_eq_none selected (htail ▸ h)).imp fun _ h => (hadvance _).trans h
    · exact ⟨_, (hadvance _).trans (readObject_eq_none _ _ (htail ▸ h))⟩
    · have hhead := readRenameStatement_eq_none selected (htail ▸ of_decide_eq_false h)
      exact ⟨_, (hadvance _).trans hhead⟩
    · cases h
    · exact ⟨c, rfl⟩

theorem Cursor.kinds_ofStatement (statement : String) :
    (ofStatement statement).kinds = Token.code 0 statement.toList := by
  rw [Token.code, ← Token.map_kind_tokenize, List.filter_map]
  rfl

theorem read_eq_nil {statement : String}
    (h : isRelevant (Token.code 0 statement.toList) = false) (selected : Option String) :
    read selected statement = .ok [] := by
  obtain ⟨next, hnext⟩ :=
    readStatement_eq_none selected ((Cursor.kinds_ofStatement statement).symm ▸ h)
  exact read_eq_ok_iff.2 ⟨none, next, hnext, .inl ⟨rfl, rfl⟩⟩

end Statement

end SchemaTrail
