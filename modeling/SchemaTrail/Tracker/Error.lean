import SchemaTrail.Error
import SchemaTrail.Schema.Target

/-!
# Errors of statements

A `StatementError` says why a statement could not be followed, together with the statement, what it
is about, and what the schema had there.
-/

namespace SchemaTrail

/-- A statement that could not be followed. -/
structure StatementError where
  statement : String
  /-- The database that was selected. -/
  selected : Option String
  /-- What the failing request is about, if the statement could be read. -/
  target : Option Target
  /-- A summary of the schema at that point. -/
  schema : String
  cause : SchemaError
  deriving DecidableEq, Repr

namespace StatementError

/-- The message of an error, in several lines. -/
def message (e : StatementError) : String :=
  e.cause.message ++ "\n  statement: " ++ e.statement ++
    "\n  current database: " ++ e.selected.getD "(none)" ++
    e.target.elim "" (fun t => "\n  target: " ++ t.text) ++
    "\n  tracked schema: " ++ e.schema

/-- Whether the schema has parted from the one on the server. -/
def isFatal (e : StatementError) : Bool :=
  e.cause.isFatal

end StatementError

end SchemaTrail
