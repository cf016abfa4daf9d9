import SchemaTrail.Error
import SchemaTrail.Token.Lexer

/-!
# Reading tokens

A `Reader` reads from a `Cursor`, which holds the tokens that are still to be read.  It may stop
short, with an error of the schema or, as far as its type goes, in a loop that does not end.  This
module has the readers of single tokens, the loops, and the readers that skip what is of no
interest.
-/

namespace SchemaTrail.Statement

/-- The tokens that are still to be read. -/
structure Cursor where
  /-- The place of the token that was read last. -/
  previous : Span
  tokens : List Token
  /-- The place of the end of the statement. -/
  finish : Span

namespace Cursor

/-- The cursor at the start of a statement. -/
def ofStatement (statement : String) : Cursor :=
  let tokens := Token.tokenize statement
  ⟨⟨0, 0⟩, tokens.filter (·.kind ≠ .eof), ((tokens.getLast?).map (·.span)).getD ⟨0, 0⟩⟩

/-- What the next token is. -/
def kind (c : Cursor) : Token.Kind :=
  match c.tokens with
  | [] => .eof
  | t :: _ => t.kind

/-- The place of the next token. -/
def span (c : Cursor) : Span :=
  match c.tokens with
  | [] => c.finish
  | t :: _ => t.span

/-- The cursor after the next token. -/
def advance (c : Cursor) : Cursor :=
  match c.tokens with
  | [] => c
  | t :: ts => ⟨t.span, ts, c.finish⟩

/-- The error that something else was expected than the next token. -/
def unexpected (c : Cursor) (expected : String) : SchemaError :=
  .syntactic ⟨.unexpected expected c.kind, c.span⟩

end Cursor

/-- Why a reader stops short. -/
inductive Stop where
  /-- The statement cannot be read. -/
  | failed (e : SchemaError)
  /-- A loop has had a round for each token and one more, and goes on. -/
  | endless

/-- A reader of tokens. -/
abbrev Reader := StateT Cursor (Except Stop)

/-! ## Single tokens -/

/-- What the next token is. -/
def kind : Reader Token.Kind :=
  return (← get).kind

/-- Passes over the next token. -/
def advance : Reader Unit :=
  modify Cursor.advance

/-- What the next token stands for, by its kind and its text. -/
def nextAs {α : Type} (f : Token.Kind → String → Option α) : Reader (Option α) :=
  return (← get).tokens.head?.bind fun t => f t.kind t.text

/-- Fails with an error that depends on the place. -/
def fail {α : Type} (e : Cursor → SchemaError) : Reader α := fun c =>
  .error (.failed (e c))

/-- Fails, since something else was expected than the next token. -/
def unexpected {α : Type} (expected : String) : Reader α :=
  fail (·.unexpected expected)

/-- Gives a result that does not depend on the tokens, or fails with its error. -/
def ofResult {α : Type} : Except SchemaError α → Reader α
  | .ok a => pure a
  | .error e => fail fun _ => e

/-- Passes over the next token and reads what follows. -/
def afterAdvance {α : Type} (next : Reader α) : Reader α := do
  advance
  next

/-- Reads the next token as what it stands for, and something else if it stands for nothing. -/
def readAsOr {α : Type} (f : Token.Kind → String → Option α) (other : Reader α) : Reader α := do
  match ← nextAs f with
  | some a => afterAdvance (return a)
  | none => other

/-- Reads the next token as what it has to stand for. -/
def readAs {α : Type} (f : Token.Kind → String → Option α) (expected : String) : Reader α :=
  readAsOr f (unexpected expected)

/-- Passes over the next token, which must not be faulty. -/
def skipToken : Reader Unit := do
  match ← kind with
  | .error _ => unexpected "token"
  | _ => advance

/-- Passes over the next token if it is of a kind, and tells whether it is. -/
def takeIf (wanted : Token.Kind → Bool) : Reader Bool := do
  if wanted (← kind) then
    advance
    return true
  else return false

/-- Takes a symbol, if it is next. -/
def takeSymbol (s : Token.Symbol) : Reader Bool :=
  takeIf (· = .symbol s)

/-- Takes a keyword, if it is next. -/
def takeKeyword (k : Keyword) : Reader Bool :=
  takeIf (· = .keyword k)

/-- Takes one of two keywords, if it is next. -/
def takeEither (k l : Keyword) : Reader Bool :=
  takeIf fun kind => kind = .keyword k || kind = .keyword l

/-- Takes a word that is not a keyword, if it is next. -/
def takeWord (word : String) : Reader Bool :=
  takeIf fun
    | .identifier w => Text.equalIgnoringCase w word
    | _ => false

/-- Takes a symbol, which has to be next. -/
def expectSymbol (s : Token.Symbol) : Reader Unit := do
  unless ← takeSymbol s do unexpected s.name

/-- Takes a keyword, which has to be next. -/
def expectKeyword (k : Keyword) : Reader Unit := do
  unless ← takeKeyword k do unexpected k.spelling

/-! ## Loops -/

/-- Runs a loop for a number of rounds at most. -/
def repeated {α : Type} (round : Reader (Option α)) : Nat → Reader (List α)
  | 0 => fun _ => .error .endless
  | n + 1 => do
    match ← round with
    | some a => return a :: (← repeated round n)
    | none => return []

/-- Runs a loop round by round until one gives nothing.  There may be a round for each token, and
the one that leaves the loop. -/
def many {α : Type} (round : Reader (Option α)) : Reader (List α) := fun c =>
  repeated round (c.tokens.length + 1) c

/-- Passes over the next token if it is of a kind. -/
def skipIf (wanted : Token.Kind → Bool) : Reader (Option Unit) := do
  if ← takeIf wanted then return some () else return none

/-- Passes over tokens as long as they are of a kind. -/
def skipWhile (wanted : Token.Kind → Bool) : Reader Unit :=
  discard <| many (skipIf wanted)

/-- Reads an item behind a symbol, if the symbol is next. -/
def readBehind {α : Type} (s : Token.Symbol) (item : Reader α) : Reader (Option α) := do
  if ← takeSymbol s then return some (← item) else return none

/-- Reads items with commas between them. -/
def separated {α : Type} (item : Reader α) : Reader (List α) := do
  let first ← item
  return first :: (← many (readBehind .comma item))

/-- Reads items with commas between them, up to the parenthesis that closes their group. -/
def readGroup {α : Type} (item : Reader α) : Reader (List α) := do
  let items ← separated item
  expectSymbol .rightParen
  return items

/-! ## Skipping -/

/-- Whether a token ends the statement. -/
def endsStatement : Token.Kind → Bool
  | .symbol .semicolon | .eof => true
  | _ => false

/-- Whether a token ends a clause. -/
def endsClause : Token.Kind → Bool
  | .symbol .comma | .symbol .rightParen | .symbol .semicolon | .eof => true
  | _ => false

/-- Passes over tokens up to the parenthesis that closes a group, where `depth` groups within it are
open. -/
def closeGroup (finish : Span) (depth : Nat) (previous : Span) :
    List Token → Except SchemaError Cursor
  | [] => .error (Cursor.unexpected ⟨previous, [], finish⟩ "')'")
  | t :: ts =>
    match t.kind with
    | .symbol .leftParen => closeGroup finish (depth + 1) t.span ts
    | .symbol .rightParen =>
      if depth = 0 then .ok ⟨t.span, ts, finish⟩ else closeGroup finish (depth - 1) t.span ts
    | .error _ => .error (Cursor.unexpected ⟨previous, t :: ts, finish⟩ "')'")
    | _ => closeGroup finish depth t.span ts

/-- Passes over a group of tokens between parentheses. -/
def skipGroup : Reader Unit := do
  expectSymbol .leftParen
  set (← ofResult (closeGroup (← get).finish 0 (← get).previous (← get).tokens))

/-- Passes over a group of tokens, if one is next. -/
def skipGroupIfNext : Reader Unit := do
  if (← kind) = .symbol .leftParen then skipGroup

/-- Passes over a part of a clause, a token or a group, unless the clause ends. -/
def skipPart : Reader (Option Unit) := do
  match ← kind with
  | .symbol .leftParen => some <$> skipGroup
  | k => if endsClause k then return none else some <$> skipToken

/-- Passes over tokens up to the end of the clause. -/
def skipClause : Reader Unit :=
  discard <| many skipPart

/-- Passes over all tokens that are left, faulty ones too. -/
def skipAll : Reader Unit :=
  skipWhile (· ≠ .eof)

/-- Whether a token is a sign. -/
def isSign (k : Token.Kind) : Bool :=
  k = .symbol .minus || k = .symbol .plus

/-- Passes over a value: a literal, a name, a call or a group, with any signs before it. -/
def skipValue : Reader Unit := do
  skipWhile isSign
  match ← kind with
  | .symbol .leftParen => skipGroup
  | k =>
    if endsClause k then unexpected "value"
    else
      skipToken
      skipGroupIfNext

end SchemaTrail.Statement
