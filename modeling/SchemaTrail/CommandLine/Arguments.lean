/-!
# Arguments of a command line

Arguments are options and operands.  An option has a name of several letters after two dashes, or
one letter after a single dash, and may take a value: the rest of its argument, or the argument that
follows.  After an argument of two dashes there are only operands.  A `Reading` takes one argument
after the other.
-/

namespace SchemaTrail.CommandLine

/-- What follows an option. -/
inductive OptionForm where
  /-- Nothing. -/
  | flag
  /-- Nothing, and no more arguments are looked at. -/
  | final
  /-- A value. -/
  | value
  deriving DecidableEq, Repr

/-- An option that may be given. -/
structure OptionSpec where
  name : String
  letter : Option Char
  form : OptionForm
  deriving DecidableEq, Repr

/-- What arguments say. -/
structure Given where
  /-- The options by their names, with their values. -/
  options : List (String × String)
  operands : List String
  deriving DecidableEq, Repr

namespace Given

/-- No arguments. -/
def none : Given := ⟨[], []⟩

/-- The value of an option. -/
def value? (g : Given) (name : String) : Option String :=
  g.options.lookup name

/-- Whether an option is given. -/
def has (g : Given) (name : String) : Bool :=
  (g.value? name).isSome

/-- Adds an option, which must not be given twice. -/
def addOption (g : Given) (name value : String) : Option Given :=
  if g.has name then .none else some { g with options := (name, value) :: g.options }

end Given

/-- Arguments that are being read. -/
structure Reading where
  given : Given
  /-- The option whose value is the next argument. -/
  awaiting : Option String
  /-- Whether all further arguments are operands. -/
  onlyOperands : Bool
  deriving DecidableEq, Repr

namespace Reading

/-- Nothing has been read. -/
def start : Reading := ⟨.none, none, false⟩

/-- Whether the next argument may be an operand. -/
def isFree (r : Reading) : Bool :=
  r.awaiting.isNone && !r.onlyOperands

/-- Takes an option with its value. -/
def takeOption (r : Reading) (name value : String) : Option Reading :=
  (r.given.addOption name value).map fun given => { r with given, awaiting := none }

/-- Takes an option that is written with its name. -/
def takeNamed (specs : List OptionSpec) (r : Reading) (name : String) (attached : Option String) :
    Option Reading := do
  let spec ← specs.find? (·.name = name)
  match spec.form, attached with
  | .value, some value => r.takeOption spec.name value
  | .value, none => return { r with awaiting := some spec.name }
  | _, none => r.takeOption spec.name ""
  | _, some _ => none

/-- Takes options that are written with their letters, one after the other. -/
def takeLetters (specs : List OptionSpec) (r : Reading) : List Char → Option Reading
  | [] => some r
  | c :: rest => do
    let spec ← specs.find? (·.letter = some c)
    match spec.form, rest with
    | .flag, _ => takeLetters specs (← r.takeOption spec.name "") rest
    | .final, _ => r.takeOption spec.name ""
    | .value, [] => return { r with awaiting := some spec.name }
    | .value, '=' :: value => r.takeOption spec.name (String.ofList value)
    | .value, value => r.takeOption spec.name (String.ofList value)

/-- Takes an operand, or a value that is awaited. -/
def takePlain (r : Reading) (argument : String) : Option Reading :=
  match r.awaiting with
  | some name => r.takeOption name argument
  | none => some { r with given.operands := r.given.operands ++ [argument] }

/-- Takes an argument.  A value that is awaited must not look like an option. -/
def step (specs : List OptionSpec) (r : Reading) (argument : String) : Option Reading :=
  if r.onlyOperands then r.takePlain argument
  else match argument.toList with
    | ['-', '-'] => if r.awaiting.isSome then none else some { r with onlyOperands := true }
    | '-' :: '-' :: long =>
      if r.awaiting.isSome then none
      else
        let attached := match long.dropWhile (· ≠ '=') with
          | [] => none
          | _ :: value => some (String.ofList value)
        r.takeNamed specs (String.ofList (long.takeWhile (· ≠ '='))) attached
    | '-' :: c :: letters =>
      if r.awaiting.isSome then none else r.takeLetters specs (c :: letters)
    | _ => r.takePlain argument

/-- What the arguments say, if no value is missing. -/
def finish (r : Reading) : Option Given :=
  if r.awaiting.isSome then none else some r.given

end Reading

/-- What arguments say. -/
def readArguments (specs : List OptionSpec) (arguments : List String) : Option Given :=
  (arguments.foldlM (Reading.step specs) .start).bind Reading.finish

end SchemaTrail.CommandLine
