import SchemaTrail.Proofs.ReadStatements
import SchemaTrail.Proofs.TrackerRuns

/-!
# Errors of statements

A statement that cannot be read has a fault of syntax or declares a column with a type that there
is not (`Statement.ofStatement_of_requests`): whatever the readers come upon, they never fail for a
change that does not fit a schema or for a value that cannot be written.

So the error of a statement is fatal if and only if the statement can be read, and any other one is
the same for all trackers (`Tracker.isFatal_iff_read`).
-/

namespace SchemaTrail

open Outcome

theorem SchemaError.OfStatement.isFatal {e : SchemaError} (h : e.OfStatement) :
    e.isFatal = false := by
  rcases h with h | h <;> simp [SchemaError.isFatal, h]

/-- A statement that cannot be read has a fault of syntax or declares a type that there is not. -/
theorem Statement.ofStatement_of_requests {selected : Option String} {statement : String}
    {e : SchemaError} (h : requests selected statement = .error e) : e.OfStatement := by
  rw [requests] at h
  split at h
  · cases h
  · obtain ⟨e', heq, he'⟩ := readRequests_error (read_eq_error_iff.1 h)
    cases heq
    exact he'

/-! ## Trackers -/

namespace Tracker

variable {t : Tracker} {selected : Option String} {statement : String} {e : StatementError}

/-- The error of a statement that cannot be read, or of a request of one that can. -/
theorem prepare_error_cases (h : t.prepare selected statement = .error e) :
    (∃ cause, Statement.requests selected statement = .error cause ∧ cause.OfStatement ∧
      e = failure selected statement t.schema none cause) ∨
    ∃ rs, Statement.requests selected statement = .ok rs ∧ e.isFatal = true := by
  rcases prepare_eq_error_iff.1 h with ⟨cause, hread, rfl⟩ |
    ⟨front, r, back, p, cause, hread, -, -, rfl⟩
  · exact .inl ⟨cause, hread, Statement.ofStatement_of_requests hread, rfl⟩
  · exact .inr ⟨_, hread, rfl⟩

/-- After a statement has been read, every error is fatal. -/
theorem isFatal_of_read {rs : List Request} (hread : Statement.requests selected statement = .ok rs)
    (h : t.prepare selected statement = .error e) : e.isFatal = true := by
  rcases prepare_error_cases h with ⟨cause, hunread, -, -⟩ | ⟨-, -, hfatal⟩
  · rw [hread] at hunread
    cases hunread
  · exact hfatal

/-- The error of a statement is fatal if and only if the statement can be read.  Else it is the
error of reading it, of syntax or of a type, about nothing in the schema; and every tracker fails
with it, whatever its schema, configuration and excluded tables, and sums up its own schema. -/
theorem isFatal_iff_read (h : t.prepare selected statement = .error e) :
    (e.isFatal = true ↔ ∃ rs, Statement.requests selected statement = .ok rs) ∧
    (e.isFatal = false →
      Statement.requests selected statement = .error e.cause ∧
      (e.cause.errorClass = .syntactic ∨ e.cause.errorClass = .unsupportedType) ∧
      e.target = none ∧
      ∀ u : Tracker, u.prepare selected statement =
        .error { e with schema := u.schema.summary none }) := by
  rcases prepare_error_cases h with ⟨cause, hread, hcause, rfl⟩ | ⟨rs, hread, hfatal⟩
  · refine ⟨iff_of_false ?_ ?_, fun _ => ⟨hread, hcause, rfl, fun u => ?_⟩⟩
    · exact Bool.eq_false_iff.1 hcause.isFatal
    · rintro ⟨rs, hrs⟩
      rw [hread] at hrs
      cases hrs
    · exact prepare_eq_error_iff.2 (.inl ⟨cause, hread, rfl⟩)
  · refine ⟨iff_of_true hfatal ⟨rs, hread⟩, fun hnot => ?_⟩
    rw [hfatal] at hnot
    cases hnot

/-- A table that is not there is dropped, and one is created with a type that there is not. -/
theorem isFatal_iff_read_type :
    let t := start .standard .empty (.empty "utf8mb4" .sensitive)
    let drop := "DROP TABLE d.t"
    let create := "CREATE TABLE d.t (c int, e shape)"
    (∃ e, t.prepare none drop = .error e ∧ e.isFatal = true) ∧
    ∃ e, t.prepare none create = .error e ∧ e.isFatal = false ∧
      e.cause = .unsupportedType "e" "shape" ∧
      ∀ u : Tracker, u.prepare none create = .error { e with schema := u.schema.summary none } := by
  intro t drop create
  have hdrop : t.prepare none drop = .error (failure none drop t.schema (some ⟨"d", some "t"⟩)
      (.invariant (.databaseNotFound "d"))) := error?_eq_some_iff.1 (by decide +kernel)
  have hcreate : t.prepare none create = .error (failure none create t.schema none
      (.unsupportedType "e" "shape")) := error?_eq_some_iff.1 (by decide +kernel)
  refine ⟨⟨_, hdrop, ?_⟩, _, hcreate, rfl, rfl, ((isFatal_iff_read hcreate).2 rfl).2.2.2⟩
  exact (isFatal_iff_read hdrop).1.2 (isSome_toOption_iff.1 (by decide +kernel))

end Tracker

end SchemaTrail
