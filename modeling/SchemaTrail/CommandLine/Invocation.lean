import SchemaTrail.CommandLine.Arguments
import SchemaTrail.Config
import SchemaTrail.Ledger.Position

/-!
# Invocations

An `Invocation` is what arguments and environment ask the program to do.  The options for the
configuration stand before the name of a command and the options of the command after it.  A setting
that no argument gives is taken from the environment.
-/

namespace SchemaTrail.CommandLine

/-- A command. -/
inductive Command where
  /-- Follows statements and records what they change. -/
  | apply (ledger : String) (base : Option String) (statements : String)
      (printEvents skipErrors : Bool)
  /-- Prints the schema at a position of a ledger. -/
  | replay (ledger : String) (base : Option String) (last : Option Position)
  /-- Compares two schemas, of which the right one may be given as captured rows. -/
  | diff (left right : String) (captured : Bool)
  deriving DecidableEq, Repr

/-- What the program is asked to do. -/
inductive Invocation where
  /-- Prints the version. -/
  | version
  /-- Runs a command. -/
  | run (config : Config) (command : Command)
  deriving DecidableEq, Repr

/-! ## Settings -/

/-- The case modes by the names they have in arguments. -/
def caseModes : List (String × CaseMode) :=
  [("sensitive", .sensitive), ("lower", .lowered), ("compare", .insensitive)]

/-- The settings of the cascade by the names they have in arguments. -/
def cascades : List (String × CharsetCascade) :=
  [("never", .never), ("inheriting", .inheriting)]

/-- A setting that is read, or the standard one if nothing is given. -/
def readOr {α : Type} (standard : α) (read : String → Option α) : Option String → Option α
  | none => some standard
  | some s => read s

/-- The options for the configuration. -/
def configOptions : List OptionSpec :=
  [⟨"case-sensitivity", none, .value⟩, ⟨"charset-cascade", none, .value⟩,
    ⟨"server-charset", none, .value⟩, ⟨"verbose", some 'v', .flag⟩, ⟨"version", some 'V', .final⟩]

/-- The configuration that options and environment give. -/
def readConfig (environment : List (String × String)) (g : Given) : Option Config := do
  let setting (name inEnvironment : String) : Option String :=
    (g.value? name).or (environment.lookup inEnvironment)
  let caseMode ← readOr Config.standard.caseMode (fun s => caseModes.lookup s)
    (setting "case-sensitivity" "SCHEMA_CASE_SENSITIVITY")
  let cascade ← readOr Config.standard.cascade (fun s => cascades.lookup s)
    (setting "charset-cascade" "SCHEMA_CHARSET_CASCADE")
  let serverCharset := (setting "server-charset" "SCHEMA_SERVER_CHARSET").getD
    Config.standard.serverCharset
  return ⟨caseMode, cascade, serverCharset⟩

/-- The variables of the environment that are looked at. -/
def environmentNames : List String :=
  ["SCHEMA_CASE_SENSITIVITY", "SCHEMA_CHARSET_CASCADE", "SCHEMA_SERVER_CHARSET"]

/-! ## Commands -/

/-- The ledger that is used if none is given. -/
def standardLedger : String := "schema-history.jsonl"

/-- The options of commands that use a ledger. -/
def ledgerOptions : List OptionSpec :=
  [⟨"history", none, .value⟩, ⟨"base", some 'b', .value⟩]

/-- A path, which must not be empty. -/
def readPath (s : String) : Option String :=
  if s.isEmpty then none else some s

/-- An optional path, which must not be empty. -/
def readOptionalPath : Option String → Option (Option String)
  | none => some none
  | some s => (readPath s).map some

/-- The ledger and the base that options give. -/
def readLedgerPaths (g : Given) : Option (String × Option String) := do
  let ledger ← readOr standardLedger readPath (g.value? "history")
  let base ← readOptionalPath (g.value? "base")
  return (ledger, base)

/-- Reads the arguments of `apply`. -/
def readApply (arguments : List String) : Option Command := do
  let g ← readArguments
    (ledgerOptions ++ [⟨"events", none, .flag⟩, ⟨"skip-errors", none, .flag⟩]) arguments
  let (ledger, base) ← readLedgerPaths g
  match g.operands with
  | [statements] =>
    return .apply ledger base (← readPath statements) (g.has "events") (g.has "skip-errors")
  | _ => none

/-- Reads the arguments of `replay`. -/
def readReplay (arguments : List String) : Option Command := do
  let g ← readArguments (ledgerOptions ++ [⟨"until", some 'u', .value⟩]) arguments
  let (ledger, base) ← readLedgerPaths g
  let last ← readOr none (fun s => (Position.ofText? s).map some) (g.value? "until")
  if g.operands.isEmpty then return .replay ledger base last else none

/-- Reads the arguments of `diff`. -/
def readDiff (arguments : List String) : Option Command := do
  let g ← readArguments [⟨"capture", none, .flag⟩] arguments
  match g.operands with
  | [left, right] => return .diff (← readPath left) (← readPath right) (g.has "capture")
  | _ => none

/-- The commands by their names, with the readers of their arguments. -/
def commands : List (String × (List String → Option Command)) :=
  [("apply", readApply), ("replay", readReplay), ("diff", readDiff)]

/-! ## Invocations -/

/-- Reads the options for the configuration up to the name of a command. -/
def readFrom (environment : List (String × String)) (r : Reading) :
    List String → Option Invocation
  | [] => none
  | argument :: rest =>
    match if r.isFree then commands.lookup argument else none with
    | some readCommand => do
      let command ← readCommand rest
      let config ← readConfig environment r.given
      return .run config command
    | none => do
      let next ← r.step configOptions argument
      if next.given.has "version" then (readConfig [] next.given).map fun _ => .version
      else if next.given.operands.isEmpty then readFrom environment next rest
      else none

/-- What arguments and environment ask for. -/
def Invocation.read (environment : List (String × String)) (arguments : List String) :
    Option Invocation :=
  readFrom environment .start arguments

end SchemaTrail.CommandLine
