import SchemaTrail.Ledger.Basic
import SchemaTrail.Tracker.Basic

/-!
# Recording

A `Recorder` follows statements and records those that change the schema.  It can be stopped at any
time and resumed from its ledger.
-/

namespace SchemaTrail

/-- A tracker and the ledger of what it has followed. -/
structure Recorder where
  tracker : Tracker
  ledger : Ledger
  deriving DecidableEq, Repr

namespace Recorder

/-- Resumes from a ledger, whose entries begin at the schema `base`. -/
def resume (base : Schema) (config : Config) (ledger : Ledger) : Except InvariantError Recorder :=
  (ledger.replay base none).map fun s => ⟨.start config .empty s, ledger⟩

/-- Follows a statement.  Gives its entry, unless it changes nothing, and the recorder after it,
which holds once the line of the entry is written. -/
def record (r : Recorder) (now : Timestamp) (s : LoggedStatement) :
    Except LedgerError (Option Entry × Recorder) := do
  r.ledger.check s.position
  let prepared ← (r.tracker.prepare s.database s.statement).mapError .statement
  if prepared.changes.isEmpty then return (none, r)
  else
    let e : Entry := ⟨s.position, s.statement, s.database, prepared.changes, now⟩
    let ledger ← r.ledger.append e
    return (some e, ⟨r.tracker.commit prepared, ledger⟩)

end Recorder

end SchemaTrail
