import SchemaTrail.Change.Document
import SchemaTrail.Json.Reader
import SchemaTrail.Ledger.Position
import SchemaTrail.Ledger.Timestamp

/-!
# Entries of a ledger

An `Entry` records a statement with its changes.  `LoggedStatement` is a statement as it comes from
the log, and `Event` one change of an entry together with the statement, as it is passed on to
others.
-/

namespace SchemaTrail

/-- A statement of the log. -/
structure LoggedStatement where
  position : Position
  /-- The database that is selected. -/
  database : Option String
  statement : String
  deriving DecidableEq, Repr

namespace LoggedStatement

/-- The statement in JSON. -/
def toJson (s : LoggedStatement) : Json :=
  .object [("position", s.position.toJson), ("database", .ofString? s.database),
    ("sql", .string s.statement)]

/-- Reads a statement. -/
def ofJson? (j : Json) : Option LoggedStatement := do
  let r ← j.record? ["position", "database", "sql"]
  let position ← r.required? "position" Position.ofJson?
  let database ← r.optional? "database" Json.string?
  let statement ← r.required? "sql" Json.string?
  return ⟨position, database, statement⟩

end LoggedStatement

/-- A recorded statement. -/
structure Entry where
  position : Position
  statement : String
  /-- The database that was selected. -/
  database : Option String
  /-- What the statement changed. -/
  changes : List Change
  recordedAt : Timestamp
  deriving DecidableEq, Repr

namespace Entry

/-- The entry in JSON. -/
def toJson (e : Entry) : Json :=
  .object [("position", e.position.toJson), ("sql", .string e.statement),
    ("database", .ofString? e.database), ("changes", .array (e.changes.map Change.toJson)),
    ("recorded-at", e.recordedAt.toJson)]

/-- Reads an entry. -/
def ofJson? (j : Json) : Option Entry := do
  let r ← j.record? ["position", "sql", "database", "changes", "recorded-at"]
  let position ← r.required? "position" Position.ofJson?
  let statement ← r.required? "sql" Json.string?
  let database ← r.optional? "database" Json.string?
  let changes ← r.required? "changes" (Json.list? Change.ofJson?)
  let recordedAt ← r.required? "recorded-at" Timestamp.ofJson?
  return ⟨position, statement, database, changes, recordedAt⟩

/-- The line of a ledger that holds the entry. -/
def line (e : Entry) : String :=
  e.toJson.compress ++ "\n"

/-- Reads the entry that a line of a ledger holds. -/
def ofLine? (line : String) : Option Entry :=
  (Json.read? line).bind ofJson?

end Entry

/-! ## Events -/

/-- A change that is passed on to others. -/
structure Event where
  change : Change
  /-- When the change was recorded, in milliseconds from the epoch. -/
  time : Int
  statement : String
  position : Position
  deriving DecidableEq, Repr

/-- The events of an entry, one for each change. -/
def Entry.events (e : Entry) : List Event :=
  e.changes.map fun change => ⟨change, e.recordedAt.milliseconds, e.statement, e.position⟩

namespace Event

/-- The event in JSON, where the fields of the change stand next to the others. -/
def toJson (e : Event) : Json :=
  .object (e.change.fields ++ [("ts", .ofInt e.time), ("sql", .string e.statement),
    ("position", e.position.toJson)])

/-- The kind of a change, which in an event may also be written as its number. -/
def kindOf? (j : Json) : Option String :=
  match j.word? 64 with
  | some n => Change.kinds[n]?
  | none => j.string?

/-- The names of the fields that do not belong to the change. -/
def ownNames : List String :=
  ["ts", "sql", "position"]

/-- Reads an event. -/
def ofJson? (j : Json) : Option Event := do
  match j with
  | .object fields =>
    let r ← j.record? ownNames
    let time ← r.required? "ts" (Json.intBetween? (-Nat.pow 2 63) (Nat.pow 2 63 - 1))
    let statement ← r.required? "sql" Json.string?
    let position ← r.required? "position" Position.ofJson?
    let others ← Json.normalizeFields? (fields.filter fun f => !ownNames.contains f.1)
    let change ← Change.ofFields? kindOf? others
    return ⟨change, time, statement, position⟩
  | _ => none

end Event

end SchemaTrail
