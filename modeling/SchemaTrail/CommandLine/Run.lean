import SchemaTrail.Capture.Assembly
import SchemaTrail.CommandLine.Invocation
import SchemaTrail.Ledger.Recorder
import SchemaTrail.Schema.Difference

/-!
# Running commands

A command needs files, a clock and a place to print to.  A `Host` offers them in any monad, so that
`execute` runs on a real machine as well as on a simulated one.
-/

namespace SchemaTrail.CommandLine

/-- What is found at a path. -/
inductive FileContent where
  | missing
  /-- Something that cannot be read as a text, for the given reason. -/
  | unreadable (reason : String)
  | text (content : String)
  deriving DecidableEq, Repr

/-- What a command needs from its surroundings. -/
structure Host (m : Type → Type) where
  /-- Reads what is found at a path. -/
  read : String → m FileContent
  /-- Appends a text to a file, which is created if there is none.  Tells whether it was written. -/
  append : String → String → m Bool
  /-- Prints a text. -/
  print : String → m Unit
  /-- The present time. -/
  now : m Timestamp

/-- Why a command failed. -/
inductive Failure where
  /-- A file cannot be read. -/
  | reading (path : String)
  /-- A file does not hold what it should. -/
  | parsing (path : String)
  /-- The file of statements cannot be opened. -/
  | opening (path : String)
  /-- A line of the file of statements holds no statement. -/
  | noStatement (path : String) (line : Nat)
  /-- The statement at a position could not be followed or recorded. -/
  | recording (position : Position)
  /-- The file of statements is there, but cannot be read for the given reason. -/
  | unreadableStatements (reason : String)
  /-- The file of a ledger is there, but cannot be read for the given reason. -/
  | unreadableLedger (reason : String)
  /-- A ledger is at fault. -/
  | ledger (path : String) (error : LedgerError)
  /-- A schema cannot be assembled. -/
  | schema (error : SchemaError)
  /-- Two schemas differ. -/
  | differences (count : Nat)
  deriving DecidableEq, Repr

/-- The message of a failure. -/
def Failure.message : Failure → String
  | .reading path => "reading " ++ path
  | .parsing path => "parsing " ++ path
  | .opening path => "opening " ++ path
  | .noStatement path line => path ++ ":" ++ toString line
  | .recording position => "at position " ++ position.text
  | .unreadableStatements reason => reason
  | .unreadableLedger reason => "IO error: " ++ reason
  | .ledger path e => e.message path
  | .schema e => e.message
  | .differences count => toString count ++ " difference(s) found"

section Running

variable {m : Type → Type} [Monad m] (host : Host m)

/-! ## Files -/

/-- The value that a file holds. -/
def load {α : Type} (decode : Json → Option α) (path : String) : ExceptT Failure m α := do
  match ← host.read path with
  | .text content =>
    match (Json.read? content).bind decode with
    | some a => return a
    | none => throw (.parsing path)
  | .missing | .unreadable _ => throw (.reading path)

/-- The schema that a ledger begins at: that of a file, or the empty one. -/
def loadBase (config : Config) : Option String → ExceptT Failure m Schema
  | some path => load host Schema.ofJson? path
  | none => return .empty config.serverCharset config.caseMode

/-- The ledger that a file holds.  A missing file is an empty ledger. -/
def openLedger (path : String) : ExceptT Failure m Ledger := do
  match ← host.read path with
  | .missing => return .empty
  | .unreadable reason => throw (.unreadableLedger reason)
  | .text content =>
    match Ledger.ofText content with
    | .ok ledger => return ledger
    | .error e => throw (.ledger path e)

/-! ## Commands -/

/-- Where and how statements are recorded. -/
structure ApplyOptions where
  ledger : String
  statements : String
  printEvents : Bool
  skipErrors : Bool

/-- Writes an entry to the ledger and prints its events. -/
def publish (o : ApplyOptions) (e : Entry) : ExceptT Failure m Unit := do
  unless ← host.append o.ledger e.line do throw (.recording e.position)
  if o.printEvents then e.events.forM fun event => host.print (event.toJson.compress ++ "\n")

/-- Whether a statement with this error may be passed over. -/
def ApplyOptions.skips (o : ApplyOptions) : LedgerError → Bool
  | .statement e => o.skipErrors && !e.isFatal
  | _ => false

/-- Follows and records the statements that lines hold, of which the first has the given number. -/
def applyLines (o : ApplyOptions) (r : Recorder) (number : Nat) :
    List String → ExceptT Failure m Unit
  | [] => return ()
  | line :: rest =>
    if Text.isBlankLine line then applyLines o r (number + 1) rest
    else match (Json.read? line).bind LoggedStatement.ofJson? with
      | none => throw (.noStatement o.statements number)
      | some s => do
        match r.record (← host.now) s with
        | .ok (none, next) => applyLines o next (number + 1) rest
        | .ok (some e, next) =>
          publish host o e
          applyLines o next (number + 1) rest
        | .error e =>
          if o.skips e then applyLines o r (number + 1) rest else throw (.recording s.position)

/-- Runs `apply`. -/
def runApply (config : Config) (base : Option String) (o : ApplyOptions) :
    ExceptT Failure m Unit := do
  let s ← loadBase host config base
  let ledger ← openLedger host o.ledger
  match Recorder.resume s config ledger with
  | .error e => throw (.schema (.invariant e))
  | .ok r =>
    match ← host.read o.statements with
    | .text content => applyLines host o r 1 (Text.lines content)
    | .missing => throw (.opening o.statements)
    | .unreadable reason => throw (.unreadableStatements reason)

/-- Runs `replay`. -/
def runReplay (config : Config) (path : String) (base : Option String) (last : Option Position) :
    ExceptT Failure m Unit := do
  let s ← loadBase host config base
  let ledger ← openLedger host path
  match ledger.replay s last with
  | .ok schema => host.print (schema.toJson.pretty ++ "\n")
  | .error e => throw (.schema (.invariant e))

/-- The schema of captured rows in a file. -/
def loadCapture (mode : CaseMode) (path : String) : ExceptT Failure m Schema := do
  let rows ← load host Capture.ofJson? path
  match rows.schema mode with
  | .ok s => return s
  | .error e => throw (.schema e)

/-- Runs `diff`. -/
def runDiff (config : Config) (left right : String) (captured : Bool) :
    ExceptT Failure m Unit := do
  let l ← load host Schema.ofJson? left
  let r ← if captured then loadCapture host config.caseMode right
    else load host Schema.ofJson? right
  let ds := l.diff r
  unless ds.isEmpty do
    host.print (Discrepancy.describeAll left right ds)
    throw (.differences ds.length)

/-- Runs a command. -/
def Command.run (config : Config) : Command → ExceptT Failure m Unit
  | .apply ledger base statements printEvents skipErrors =>
    runApply host config base ⟨ledger, statements, printEvents, skipErrors⟩
  | .replay ledger base last => runReplay host config ledger base last
  | .diff left right captured => runDiff host config left right captured

/-! ## The program -/

/-- How the program ends. -/
inductive Outcome where
  | success
  | failure (failure : Failure)
  /-- The arguments ask for nothing that can be done. -/
  | usage
  deriving DecidableEq, Repr

/-- The code that is returned to the caller. -/
def Outcome.exitCode : Outcome → Nat
  | .success => 0
  | .failure _ => 1
  | .usage => 2

/-- The name of the program and its version. -/
def versionText : String := "mysql-schema-replay 0.1.0"

/-- Does what arguments and environment ask for. -/
def execute (environment : List (String × String)) (arguments : List String) : m Outcome := do
  match Invocation.read environment arguments with
  | none => return .usage
  | some .version =>
    host.print (versionText ++ "\n")
    return .success
  | some (.run config command) =>
    match ← (command.run host config).run with
    | .ok () => return .success
    | .error e => return .failure e

end Running

end SchemaTrail.CommandLine
