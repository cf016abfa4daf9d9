import SchemaTrail.CommandLine.Run
import Std.Time.DateTime

/-!
# The command line

`main` runs the program on the files, the clock and the environment of the machine.
-/

namespace SchemaTrail.CommandLine

/-- What a fault in reading a path of the machine tells about it.  A fault that names the path comes
from opening it: there is nothing if a part of the path is no directory. -/
def contentOfFault : IO.Error → FileContent
  | .noFileOrDirectory .. | .inappropriateType (some _) .. => .missing
  | .inappropriateType none .. => .unreadable "Is a directory (os error 21)"
  | .userError _ => .unreadable "stream did not contain valid UTF-8"
  | e => .unreadable (toString e)

/-- Reads what is found at a path of the machine. -/
def readMachineFile (path : String) : IO FileContent := do
  try return .text (← IO.FS.readFile path)
  catch e => return contentOfFault e

/-- Appends a text to a file of the machine. -/
def appendMachineFile (path content : String) : IO Bool := do
  try
    IO.FS.withFile path .append fun file => do
      file.putStr content
      file.flush
    return true
  catch _ => return false

/-- The time of the machine's clock. -/
def machineTime : IO Timestamp := do
  let now := Std.Time.PlainDateTime.ofWallTime ((← Std.Time.Timestamp.now).toWallTime .zero)
  let date : Date := ⟨now.date.year, now.date.month.toNat, now.date.day.toNat⟩
  let time : TimeOfDay := ⟨now.time.hour.toNat, now.time.minute.toNat, now.time.second.toNat,
    now.time.nanosecond.toNat⟩
  return (Timestamp.of? date time).getD .epoch

/-- The machine that the program runs on. -/
def machine : Host IO where
  read := readMachineFile
  append := appendMachineFile
  print text := do
    (← IO.getStdout).putStr text
  now := machineTime

/-- The variables of the environment that are set. -/
def machineVariables : IO (List (String × String)) :=
  environmentNames.filterMapM fun name => return (← IO.getEnv name).map fun value => (name, value)

end SchemaTrail.CommandLine

/-- Runs the program. -/
def main (arguments : List String) : IO UInt32 := do
  let environment ← SchemaTrail.CommandLine.machineVariables
  let outcome ←
    SchemaTrail.CommandLine.execute SchemaTrail.CommandLine.machine environment arguments
  match outcome with
  | .success => pure ()
  | .failure e => IO.eprintln ("Error: " ++ e.message)
  | .usage => IO.eprintln "usage: mysql-schema-replay [OPTIONS] (apply | replay | diff) ..."
  return outcome.exitCode.toUInt32
