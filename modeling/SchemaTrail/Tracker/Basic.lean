import SchemaTrail.Change.Resolution
import SchemaTrail.Statement.Basic
import SchemaTrail.Tracker.Error

/-!
# Following statements

A `Tracker` holds the schema of a server and follows it from one statement to the next.
`Tracker.prepare` works out what a statement changes and `Tracker.commit` takes it over, so that the
changes can be kept in between; `Tracker.process` does both.
-/

namespace SchemaTrail

/-- The state of following a server. -/
structure Tracker where
  config : Config
  /-- The tables whose changes are passed over. -/
  exclusions : Exclusions
  schema : Schema
  deriving DecidableEq, Repr

/-- What a statement changes, and the schema after it. -/
structure Prepared where
  changes : List Change
  schema : Schema
  deriving DecidableEq, Repr

namespace Tracker

/-- Starts from a schema, which takes the case mode that is configured. -/
def start (config : Config) (exclusions : Exclusions) (s : Schema) : Tracker :=
  ⟨config, exclusions, { s with caseMode := config.caseMode }⟩

/-- Takes one more request of a statement into account. -/
def addRequest (t : Tracker) (p : Prepared) (r : Request) : Except InvariantError Prepared := do
  if r.isExcluded t.exclusions then return p
  else match ← r.resolve t.config p.schema with
    | none => return p
    | some change => return ⟨p.changes ++ [change], ← change.apply p.schema⟩

/-- The error of a statement that fails where the schema is `s`. -/
def failure (selected : Option String) (statement : String) (s : Schema) (target : Option Target)
    (cause : SchemaError) : StatementError :=
  ⟨statement, selected, target, s.summary target, cause⟩

/-- Works out what a statement changes.  Each request sees the schema that the ones before it
leave. -/
def prepare (t : Tracker) (selected : Option String) (statement : String) :
    Except StatementError Prepared := do
  let requests ← (Statement.requests selected statement).mapError
    (failure selected statement t.schema none)
  requests.foldlM (fun p r => (t.addRequest p r).mapError fun e =>
    failure selected statement p.schema (some r.target) (.invariant e)) ⟨[], t.schema⟩

/-- Takes over what was prepared. -/
def commit (t : Tracker) (p : Prepared) : Tracker :=
  if p.changes.isEmpty then t else { t with schema := p.schema }

/-- Follows a statement, and gives its changes. -/
def process (t : Tracker) (selected : Option String) (statement : String) :
    Except StatementError (List Change × Tracker) :=
  (t.prepare selected statement).map fun p => (p.changes, t.commit p)

/-- Applies changes that were kept, all of them or none. -/
def applyAll (t : Tracker) (changes : List Change) : Except InvariantError Tracker :=
  (t.schema.applyAll changes).map fun schema => { t with schema }

end Tracker

end SchemaTrail
