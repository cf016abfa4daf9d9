import SchemaTrail.Json.Record
import SchemaTrail.Schema.CaseMode

/-!
# Configuration

What has to be known about the server in order to follow its schema.
-/

namespace SchemaTrail

/-- Whether a new charset of a database reaches its tables. -/
inductive CharsetCascade where
  | never
  /-- The tables whose charset is that of the database take the new one. -/
  | inheriting
  deriving DecidableEq, Repr

/-- The names of the settings in documents. -/
def CharsetCascade.names : List (String × CharsetCascade) :=
  [("never", .never), ("inheriting-tables", .inheriting)]

/-- The name of a setting in documents. -/
def CharsetCascade.name : CharsetCascade → String
  | .never => "never"
  | .inheriting => "inheriting-tables"

/-- The configuration of a tracker. -/
structure Config where
  caseMode : CaseMode
  cascade : CharsetCascade
  /-- The charset of an empty schema. -/
  serverCharset : String
  deriving DecidableEq, Repr

namespace Config

/-- The configuration where nothing is set. -/
def standard : Config := ⟨.sensitive, .never, "utf8mb4"⟩

/-- The configuration in JSON. -/
def toJson (c : Config) : Json :=
  .object [("case-sensitivity", .string c.caseMode.name),
    ("charset-cascade", .string c.cascade.name), ("server-charset", .string c.serverCharset)]

/-- Reads a configuration; what is missing is as in the standard one. -/
def ofJson? (j : Json) : Option Config := do
  let r ← j.record? ["case-sensitivity", "charset-cascade", "server-charset"]
  let caseMode ← r.orElse? "case-sensitivity" standard.caseMode (Json.oneOf? CaseMode.names)
  let cascade ← r.orElse? "charset-cascade" standard.cascade (Json.oneOf? CharsetCascade.names)
  let serverCharset ← r.orElse? "server-charset" standard.serverCharset Json.string?
  return ⟨caseMode, cascade, serverCharset⟩

end Config

end SchemaTrail
