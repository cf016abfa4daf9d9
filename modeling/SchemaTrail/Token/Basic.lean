import SchemaTrail.Decimal.Layout
import SchemaTrail.Text.Hex
import SchemaTrail.Text.Quoted
import SchemaTrail.Token.Keyword

/-!
# Tokens

A statement is a sequence of tokens.  A token has a kind, with the value of a literal or the name of
an identifier, the range of bytes it takes up in the statement, and its text.
-/

namespace SchemaTrail

/-- A range of bytes of a statement, the end excluded. -/
structure Span where
  start : Nat
  stop : Nat
  deriving DecidableEq, Repr, Inhabited

namespace Token

/-- An operator or separator. -/
inductive Symbol where
  | plus | minus | star | slash | percent | eq | notEq | lt | ltEq | gt | gtEq
  | bitAnd | bitOr | caret | bitNot | bang
  | leftParen | rightParen | comma | semicolon | dot | colon | question | at
  deriving DecidableEq, Repr

/-- The name of an operator or separator in messages. -/
def Symbol.name : Symbol → String
  | .plus => "Plus"
  | .minus => "Minus"
  | .star => "Star"
  | .slash => "Slash"
  | .percent => "Percent"
  | .eq => "Eq"
  | .notEq => "NotEq"
  | .lt => "Lt"
  | .ltEq => "LtEq"
  | .gt => "Gt"
  | .gtEq => "GtEq"
  | .bitAnd => "BitAnd"
  | .bitOr => "BitOr"
  | .caret => "Caret"
  | .bitNot => "BitNot"
  | .bang => "Bang"
  | .leftParen => "LeftParen"
  | .rightParen => "RightParen"
  | .comma => "Comma"
  | .semicolon => "Semicolon"
  | .dot => "Dot"
  | .colon => "Colon"
  | .question => "Question"
  | .at => "At"

/-- Why a piece of text is no token of the language. -/
inductive Fault where
  | unexpectedCharacter (c : Char)
  | unterminatedString
  | unterminatedName
  | unterminatedHex
  | badHex (fault : Text.Hex.Fault)
  | badBits
  | badFloat
  deriving DecidableEq, Repr

/-- The message of a fault. -/
def Fault.message : Fault → String
  | .unexpectedCharacter c => "Unexpected character: " ++ String.ofList [c]
  | .unterminatedString => "Unterminated string literal"
  | .unterminatedName => "Unterminated quoted identifier"
  | .unterminatedHex => "Unterminated hex literal"
  | .badHex .oddLength => "Invalid hex literal: Odd number of digits"
  | .badHex (.notADigit value index) =>
    "Invalid hex literal: Invalid character " ++ Text.quotedSingle (Char.ofNat value.toNat) ++
      " at position " ++ toString index
  | .badBits => "Invalid bit literal"
  | .badFloat => "Invalid float: invalid float literal"

/-- What a token is. -/
inductive Kind where
  /-- An integer below `2 ^ 64`; a sign is a token of its own. -/
  | integer (value : Nat)
  /-- A number with a point or an exponent, or an integer that is too large. -/
  | float (value : Decimal.Binary)
  /-- A text between single quotes. -/
  | string (text : String)
  /-- A text between double quotes. -/
  | doubleQuoted (text : String)
  | hexLiteral (bytes : List UInt8)
  /-- A sequence of binary digits. -/
  | bitLiteral (digits : String)
  /-- A name, bare or between backquotes. -/
  | identifier (name : String)
  | keyword (word : Keyword)
  | symbol (symbol : Symbol)
  /-- The end of the statement. -/
  | eof
  | error (fault : Fault)
  deriving DecidableEq, Repr

/-- Numbers in messages have at least one place, and an exponent from `10 ^ 16` on and below
`10 ^ -4`. -/
def floatLayout : Decimal.Layout :=
  ⟨fun e => -4 ≤ e && e < 16, true, false, .up⟩

/-- A floating-point number in messages. -/
def floatText (x : Decimal.Binary) : String :=
  floatLayout.write .double x

/-- The token in messages: its name, with its value between parentheses. -/
def Kind.describe : Kind → String
  | .integer n => "Integer(" ++ toString n ++ ")"
  | .float x => "Float(" ++ floatText x ++ ")"
  | .string s => "String(" ++ Text.quoted s ++ ")"
  | .doubleQuoted s => "DoubleQuoted(" ++ Text.quoted s ++ ")"
  | .hexLiteral bytes =>
    "HexLiteral([" ++ ", ".intercalate (bytes.map fun b => toString b.toNat) ++ "])"
  | .bitLiteral s => "BitLiteral(" ++ Text.quoted s ++ ")"
  | .identifier s => "Identifier(" ++ Text.quoted s ++ ")"
  | .keyword k => "Keyword(" ++ k.name ++ ")"
  | .symbol s => s.name
  | .eof => "Eof"
  | .error fault => "Error(" ++ Text.quoted fault.message ++ ")"

end Token

/-- A token of a statement. -/
structure Token where
  kind : Token.Kind
  span : Span
  text : String
  deriving DecidableEq, Repr

end SchemaTrail
