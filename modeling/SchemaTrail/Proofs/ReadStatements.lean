import SchemaTrail.Statement.Basic

/-!
# Statements that are read

A statement is read if its readers succeed and nothing follows it (`Statement.read_eq_ok_iff`).
-/

namespace SchemaTrail.Statement

open Outcome

variable {α : Type} {c next : Cursor} {selected : Option String} {statement : String}
  {requests : List Request}

theorem settled_eq_ok_iff {x : Except Stop α} {h : x ≠ .error .endless} {a : α} :
    settled x h = .ok a ↔ x = .ok a := by
  rcases x with (e | _) | b
  · exact iff_of_false nofun nofun
  · exact absurd rfl h
  · exact ⟨fun heq => congrArg _ (Except.ok.inj heq), fun heq => congrArg _ (Except.ok.inj heq)⟩

theorem settled_eq_error_iff {x : Except Stop α} {h : x ≠ .error .endless} {e : SchemaError} :
    settled x h = .error e ↔ x = .error (.failed e) := by
  rcases x with (e' | _) | b
  · simp [settled]
  · exact absurd rfl h
  · exact iff_of_false nofun nofun

theorem read_eq_ok_iff :
    read selected statement = .ok requests ↔ ∃ answer next,
      readStatement selected (.ofStatement statement) = .ok (answer, next) ∧
        ((answer = none ∧ requests = []) ∨
          (answer = some requests ∧ ∃ m, expectEnd next = .ok ((), m))) := by
  simp only [read, map_eq_ok_iff, settled_eq_ok_iff]
  constructor
  · rintro ⟨⟨_, m⟩, hrun, rfl⟩
    obtain ⟨answer, next, hanswer, hrun⟩ := read_bind_iff.1 hrun
    refine ⟨answer, next, hanswer, ?_⟩
    cases answer with
    | none =>
      cases hrun
      exact .inl ⟨rfl, rfl⟩
    | some requests =>
      obtain ⟨_, m', hend, hrun⟩ := read_bind_iff.1 hrun
      cases hrun
      exact .inr ⟨rfl, _, hend⟩
  · rintro ⟨answer, next, hanswer, ⟨rfl, rfl⟩ | ⟨rfl, m, hend⟩⟩
    · exact ⟨([], next), read_bind_iff.2 ⟨none, next, hanswer, rfl⟩, rfl⟩
    · exact ⟨(requests, m), read_bind_iff.2 ⟨some requests, next, hanswer,
        read_bind_iff.2 ⟨(), m, hend, rfl⟩⟩, rfl⟩

theorem read_eq_error_iff {e : SchemaError} :
    read selected statement = .error e ↔
      readRequests selected (.ofStatement statement) = .error (.failed e) := by
  rw [read, map_eq_error_iff, settled_eq_error_iff]

theorem endsStatement_of_expectEnd (h : expectEnd c = .ok ((), next)) :
    endsStatement c.kind = true := by
  obtain ⟨_, m, htake, h⟩ := read_bind_iff.1 h
  obtain ⟨taken, htake⟩ := discard_eq_ok_iff.1 htake
  rw [takeSymbol, takeIf_eq] at htake
  split at htake
  next hsemicolon =>
    rw [of_decide_eq_true hsemicolon]
    rfl
  next =>
    cases htake
    rw [kind_bind] at h
    split at h
    next heof =>
      rw [heof]
      rfl
    next => cases h

/-- A statement of which no tokens are left asks for what is read. -/
theorem read_of_tokens_nil {answer : Option (List Request)}
    (h : readStatement selected (.ofStatement statement) = .ok (answer, next))
    (hend : next.tokens = []) : read selected statement = .ok (answer.getD []) := by
  refine read_eq_ok_iff.2 ⟨answer, next, h, ?_⟩
  cases answer with
  | none => exact .inl ⟨rfl, rfl⟩
  | some requests =>
    have hkind : next.kind = .eof := by rw [Cursor.kind, hend]
    refine .inr ⟨rfl, next, read_bind_iff.2 ⟨(), next, ?_, ?_⟩⟩
    · exact discard_eq_ok_iff.2 ⟨false, by rw [takeSymbol, takeIf_eq, hkind]; rfl⟩
    · rw [kind_bind, hkind]
      rfl

end SchemaTrail.Statement
