import SchemaTrail.Column.Value
import SchemaTrail.Token.Basic

/-!
# Errors

The causes for which a statement is refused, a change does not fit a schema, or a value cannot be
written, each with its message.  Only a change that does not fit is fatal: it shows that the schema
has parted from the one on the server.
-/

namespace SchemaTrail

/-! ## Statements that cannot be read -/

/-- What is wrong with a statement. -/
inductive SyntaxProblem where
  /-- Something else was expected than what was found. -/
  | unexpected (expected : String) (found : Token.Kind)
  /-- A table without a database is named while none is selected. -/
  | noDatabase
  deriving DecidableEq, Repr

/-- A problem and the place where it was found. -/
structure SyntaxError where
  problem : SyntaxProblem
  span : Span
  deriving DecidableEq, Repr

/-- The message of a problem. -/
def SyntaxProblem.message : SyntaxProblem → String
  | .unexpected expected .eof => "Unexpected end of input: expected " ++ expected
  | .unexpected expected (.error fault) => fault.message ++ " (expected " ++ expected ++ ")"
  | .unexpected expected found =>
    "Unexpected token: expected " ++ expected ++ ", found " ++ found.describe
  | .noDatabase => "No database selected"

/-- The message of an error: the problem and its place. -/
def SyntaxError.message (e : SyntaxError) : String :=
  e.problem.message ++ " at position " ++ toString e.span.start ++ ".." ++ toString e.span.stop

/-! ## Changes that do not fit -/

/-- Why a change does not fit a schema. -/
inductive InvariantError where
  | databaseNotFound (database : String)
  | databaseExists (database : String)
  | tableNotFound (database table : String)
  | tableExists (database table : String)
  | columnNotFound (database table column : String)
  | columnExists (database table column : String)
  deriving DecidableEq, Repr

/-- The message of an error. -/
def InvariantError.message : InvariantError → String
  | .databaseNotFound d => "Database '" ++ d ++ "' does not exist"
  | .databaseExists d => "Database '" ++ d ++ "' already exists"
  | .tableNotFound d t => "Table '" ++ d ++ "." ++ t ++ "' does not exist"
  | .tableExists d t => "Table '" ++ d ++ "." ++ t ++ "' already exists"
  | .columnNotFound d t c => "Column '" ++ c ++ "' does not exist in '" ++ d ++ "." ++ t ++ "'"
  | .columnExists d t c => "Column '" ++ c ++ "' already exists in '" ++ d ++ "." ++ t ++ "'"

/-! ## All errors of the schema -/

/-- An error in reading a statement, changing a schema or writing a value. -/
inductive SchemaError where
  | syntactic (error : SyntaxError)
  /-- A column was declared with a type that there is not. -/
  | unsupportedType (column typeName : String)
  | invariant (error : InvariantError)
  /-- Bytes of a charset cannot be decoded. -/
  | unsupportedCharset (column charset : String)
  /-- A value does not fit its column. -/
  | invalidValue (column typeName : String) (value : Value)
  deriving DecidableEq, Repr

/-- The class of an error. -/
inductive ErrorClass where
  | syntactic
  | unsupportedType
  | structural
  | value
  deriving DecidableEq, Repr

namespace SchemaError

/-- The message of an error. -/
def message : SchemaError → String
  | .syntactic e => "Syntax error: " ++ e.message
  | .unsupportedType column typeName =>
    "Unsupported column type '" ++ typeName ++ "' for column '" ++ column ++ "'"
  | .invariant e => e.message
  | .unsupportedCharset column charset =>
    "Unsupported charset '" ++ charset ++ "' for column '" ++ column ++ "'"
  | .invalidValue column typeName value =>
    "Cannot render " ++ value.describe ++ " for column '" ++ column ++ "' of type " ++ typeName

/-- The class of an error. -/
def errorClass : SchemaError → ErrorClass
  | .syntactic _ => .syntactic
  | .unsupportedType .. => .unsupportedType
  | .invariant _ => .structural
  | .unsupportedCharset .. | .invalidValue .. => .value

/-- Whether the schema has parted from the one on the server. -/
def isFatal (e : SchemaError) : Bool :=
  e.errorClass = .structural

end SchemaError

end SchemaTrail
