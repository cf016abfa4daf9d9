import SchemaTrail.Proofs.StepwiseReaders
import SchemaTrail.Statement.Untracked

/-!
# Reading a statement

`Statement.read` reads a statement of the language and gives the requests it makes, which are none
if it is not about databases and tables.  `Statement.requests` looks first whether the statement is
one of those that are not tracked, which need not be read.
-/

namespace SchemaTrail.Statement

/-- The result of a reader that does not run into an endless loop. -/
def settled {α : Type} : (x : Except Stop α) → x ≠ .error .endless → Except SchemaError α
  | .ok a, _ => .ok a
  | .error (.failed e), _ => .error e
  | .error .endless, h => absurd rfl h

/-- The requests of a statement that is run while a database is selected. -/
def read (selected : Option String) (statement : String) : Except SchemaError (List Request) :=
  (settled (readRequests selected (.ofStatement statement))
    (readRequests_ne_endless selected _)).map (·.1)

/-- The requests of a statement, none if it is one of those that are not tracked. -/
def requests (selected : Option String) (statement : String) : Except SchemaError (List Request) :=
  if isUntracked statement then .ok [] else read selected statement

end SchemaTrail.Statement
