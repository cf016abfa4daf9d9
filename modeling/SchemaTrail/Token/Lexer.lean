import SchemaTrail.Text.Blank
import SchemaTrail.Token.Basic

/-!
# Splitting a statement into tokens

`lexemes` splits a text into lexemes: each consists of a gap of blanks and comments and of the text
of a token.  The last one is the end of the statement.  Gaps and texts together are the whole
statement, so that `tokenize` can tell which bytes a token takes up.

Comments reach from `--` or `#` to the end of the line or from a slash and a star to a star and a
slash.  A comment that opens with an exclamation mark, or with `M` and one, is executable: its
opener, with the digits of a version, and its end belong to gaps, and what lies between is code.
-/

namespace SchemaTrail.Token

/-- A gap and the token after it. -/
structure Lexeme where
  gap : List Char
  text : List Char
  kind : Kind
  deriving DecidableEq, Repr

/-- Whether a character may occur in a bare name. -/
def isWordChar (c : Char) : Bool :=
  c.isAlphanum || c = '_' || c = '$' || 0x80 ≤ c.toNat

/-! ## Gaps -/

/-- What follows the rest of the line. -/
def skipLine (cs : List Char) : List Char :=
  cs.dropWhile (· ≠ '\n')

/-- What follows the end of a comment. -/
def skipBlock : List Char → List Char
  | [] => []
  | '*' :: '/' :: rest => rest
  | _ :: rest => skipBlock rest

/-- What follows the mark and version of an executable comment, given what follows its opener. -/
def skipVersion? : List Char → Option (List Char)
  | '!' :: rest => some (rest.dropWhile Char.isDigit)
  | 'M' :: '!' :: rest => some (rest.dropWhile Char.isDigit)
  | _ => none

theorem skipLine_suffix (cs : List Char) : skipLine cs <:+ cs :=
  List.dropWhile_suffix _

theorem skipBlock_suffix (cs : List Char) : skipBlock cs <:+ cs := by
  fun_induction skipBlock cs with
  | case1 => exact List.suffix_rfl
  | case2 rest => exact ⟨['*', '/'], rfl⟩
  | case3 c rest _ ih => exact ih.trans (List.suffix_cons _ _)

theorem skipVersion?_suffix {cs rest : List Char} (h : skipVersion? cs = some rest) :
    rest <:+ cs := by
  unfold skipVersion? at h
  split at h <;> cases h
  · exact (List.dropWhile_suffix _).trans (List.suffix_cons _ _)
  · exact (List.dropWhile_suffix _).trans ((List.suffix_cons _ _).trans (List.suffix_cons _ _))

/-- Skips blanks and comments where `opened` executable comments are open.  Returns how many are
open then, and what follows. -/
def skipGap (opened : Nat) (cs : List Char) : Nat × List Char :=
  match cs with
  | '-' :: '-' :: rest =>
    have := (skipLine_suffix rest).length_le
    skipGap opened (skipLine rest)
  | '#' :: rest =>
    have := (skipLine_suffix rest).length_le
    skipGap opened (skipLine rest)
  | '*' :: '/' :: rest => if 0 < opened then skipGap (opened - 1) rest else (opened, cs)
  | '/' :: '*' :: rest =>
    match h : skipVersion? rest with
    | some code =>
      have := (skipVersion?_suffix h).length_le
      skipGap (opened + 1) code
    | none =>
      have := (skipBlock_suffix rest).length_le
      skipGap opened (skipBlock rest)
  | c :: rest => if Text.isBlank c then skipGap opened rest else (opened, cs)
  | [] => (opened, [])
termination_by cs.length
decreasing_by all_goals (simp_wf <;> omega)

theorem skipGap_suffix (opened : Nat) (cs : List Char) : (skipGap opened cs).2 <:+ cs := by
  fun_induction skipGap opened cs with
  | case1 opened rest _ ih =>
    exact ih.trans ((skipLine_suffix rest).trans ⟨['-', '-'], rfl⟩)
  | case2 opened rest _ ih => exact ih.trans ((skipLine_suffix rest).trans ⟨['#'], rfl⟩)
  | case3 opened rest _ ih => exact ih.trans ⟨['*', '/'], rfl⟩
  | case4 => exact List.suffix_rfl
  | case5 opened rest code h _ ih =>
    exact ih.trans ((skipVersion?_suffix h).trans ⟨['/', '*'], rfl⟩)
  | case6 opened rest h _ ih => exact ih.trans ((skipBlock_suffix rest).trans ⟨['/', '*'], rfl⟩)
  | case7 opened c rest _ _ _ _ _ ih => exact ih.trans (List.suffix_cons _ _)
  | case8 => exact List.suffix_rfl
  | case9 => exact List.suffix_rfl

/-- Drops the letter that marks a text of the national character set. -/
def dropNational : List Char → List Char
  | 'n' :: '\'' :: rest => '\'' :: rest
  | 'N' :: '\'' :: rest => '\'' :: rest
  | cs => cs

theorem dropNational_suffix (cs : List Char) : dropNational cs <:+ cs := by
  unfold dropNational
  split
  · exact List.suffix_cons _ _
  · exact List.suffix_cons _ _
  · exact List.suffix_rfl

/-! ## Quoted texts and names -/

/-- What a backslash and a character stand for.  The escapes of the two wildcards keep the
backslash. -/
def unescape : Char → List Char
  | '0' => ['\x00']
  | 'b' => ['\x08']
  | 'n' => ['\n']
  | 'r' => ['\r']
  | 't' => ['\t']
  | 'Z' => ['\x1a']
  | '%' => ['\\', '%']
  | '_' => ['\\', '_']
  | c => [c]

/-- The value of a text up to its closing quote, and what follows.  A doubled quote stands for one.
A backslash at the very end closes the text too. -/
def stringBody? (quote : Char) : List Char → Option (List Char × List Char)
  | [] => none
  | c :: rest =>
    if c = quote then
      match rest with
      | [] => some ([], [])
      | d :: rest' =>
        if d = quote then (stringBody? quote rest').map fun r => (quote :: r.1, r.2)
        else some ([], d :: rest')
    else if c = '\\' then
      match rest with
      | [] => some ([], [])
      | d :: rest' => (stringBody? quote rest').map fun r => (unescape d ++ r.1, r.2)
    else (stringBody? quote rest).map fun r => (c :: r.1, r.2)

/-- The name up to its closing backquote, and what follows.  A doubled backquote stands for one. -/
def nameBody? : List Char → Option (List Char × List Char)
  | [] => none
  | '\x60' :: '\x60' :: rest => (nameBody? rest).map fun r => ('\x60' :: r.1, r.2)
  | '\x60' :: rest => some ([], rest)
  | c :: rest => (nameBody? rest).map fun r => (c :: r.1, r.2)

/-- A text after its opening quote. -/
def scanString (quote : Char) (cs : List Char) : Kind × List Char :=
  match stringBody? quote cs with
  | none => (.error .unterminatedString, [])
  | some (value, rest) =>
    let value := String.ofList value
    (if quote = '"' then .doubleQuoted value else .string value, rest)

/-- A name after its opening backquote. -/
def scanName (cs : List Char) : Kind × List Char :=
  match nameBody? cs with
  | none => (.error .unterminatedName, [])
  | some (name, rest) => (.identifier (String.ofList name), rest)

/-! ## Bytes and bits -/

/-- The token of a sequence of hexadecimal digits. -/
def hexKind (digits : List Char) : Kind :=
  match Text.Hex.decode (String.ofList digits) with
  | .ok bytes => .hexLiteral bytes
  | .error fault => .error (.badHex fault)

/-- Hexadecimal digits after an opening quote. -/
def scanHex (cs : List Char) : Kind × List Char :=
  match cs.dropWhile (· ≠ '\'') with
  | [] => (.error .unterminatedHex, [])
  | _ :: rest => (hexKind (cs.takeWhile (· ≠ '\'')), rest)

/-- Whether a character is a binary digit. -/
def isBit (c : Char) : Bool :=
  c = '0' || c = '1'

/-- Whether a character is a hexadecimal digit. -/
def isHexDigit (c : Char) : Bool :=
  c.isDigit || ('a' ≤ c && c ≤ 'f') || ('A' ≤ c && c ≤ 'F')

/-- Binary digits after an opening quote. -/
def scanBits (cs : List Char) : Kind × List Char :=
  match cs.dropWhile isBit with
  | [] => (.error .badBits, [])
  | c :: rest =>
    (if c = '\'' then .bitLiteral (String.ofList (cs.takeWhile isBit)) else .error .badBits, rest)

/-! ## Words and numbers -/

/-- The token of a word. -/
def wordKind (word : String) : Kind :=
  match Keyword.ofWord? word with
  | some k => .keyword k
  | none => .identifier word

/-- A bare name or a keyword. -/
def scanWord (cs : List Char) : Kind × List Char :=
  (wordKind (String.ofList (cs.takeWhile isWordChar)), cs.dropWhile isWordChar)

/-- Whether an exponent follows its mark. -/
def exponentFollows : List Char → Bool
  | [] => false
  | c :: rest =>
    c.isDigit || ((c = '+' || c = '-') && match rest with
      | [] => false
      | d :: _ => d.isDigit)

/-- Whether digits, given what follows them, begin a name. -/
def wordFollows : List Char → Bool
  | [] => false
  | c :: rest => if c = 'e' ∨ c = 'E' then !exponentFollows rest else isWordChar c

/-- Splits off a point and the digits after it.  A point before a name does not belong to the
number. -/
def takeFraction : List Char → List Char × List Char
  | ['.'] => (['.'], [])
  | '.' :: c :: rest =>
    if c.isDigit then
      ('.' :: (c :: rest).takeWhile Char.isDigit, (c :: rest).dropWhile Char.isDigit)
    else if isWordChar c ∨ c = '\x60' then ([], '.' :: c :: rest)
    else (['.'], c :: rest)
  | cs => ([], cs)

/-- Splits off an exponent, which may lack its digits. -/
def takeExponent : List Char → List Char × List Char
  | [] => ([], [])
  | c :: rest =>
    if c = 'e' ∨ c = 'E' then
      match rest with
      | [] => ([c], [])
      | d :: tail =>
        if d = '+' ∨ d = '-' then
          (c :: d :: tail.takeWhile Char.isDigit, tail.dropWhile Char.isDigit)
        else (c :: (d :: tail).takeWhile Char.isDigit, (d :: tail).dropWhile Char.isDigit)
    else ([], c :: rest)

/-- The token of a number. -/
def numberKind (digits fraction exponent : List Char) : Kind :=
  if fraction = [] ∧ exponent = [] then
    let n := Nat.ofDigitChars 10 digits 0
    if n < Nat.pow 2 64 then .integer n else .float (Decimal.Format.double.ofDecimal false n 0)
  else match Decimal.Numeral.read? (digits ++ fraction ++ exponent) with
    | some x => .float (Decimal.Format.double.ofNumeral x)
    | none => .error .badFloat

/-- A number, or a name that starts with a digit. -/
def scanNumber (cs : List Char) : Kind × List Char :=
  let rest := cs.dropWhile Char.isDigit
  if wordFollows rest then scanWord cs
  else
    let fraction := takeFraction rest
    let exponent := takeExponent fraction.2
    (numberKind (cs.takeWhile Char.isDigit) fraction.1 exponent.1, exponent.2)

/-- A hexadecimal or binary number, whose letter is `radix`, if the word after the letter consists
of its digits. -/
def prefixed? (radix : Char) (cs : List Char) : Option (Kind × List Char) :=
  let digits := cs.takeWhile isWordChar
  let rest := cs.dropWhile isWordChar
  if digits = [] then none
  else if radix = 'x' then
    if digits.all isHexDigit then
      some (hexKind (if digits.length % 2 = 1 then '0' :: digits else digits), rest)
    else none
  else if digits.all isBit then some (.bitLiteral (String.ofList digits), rest)
  else none

/-! ## Operators -/

/-- The operator or separator at the start of a text. -/
def symbol? : List Char → Option (Symbol × List Char)
  | '!' :: '=' :: rest => some (.notEq, rest)
  | '<' :: '=' :: rest => some (.ltEq, rest)
  | '<' :: '>' :: rest => some (.notEq, rest)
  | '>' :: '=' :: rest => some (.gtEq, rest)
  | '(' :: rest => some (.leftParen, rest)
  | ')' :: rest => some (.rightParen, rest)
  | ',' :: rest => some (.comma, rest)
  | ';' :: rest => some (.semicolon, rest)
  | '.' :: rest => some (.dot, rest)
  | ':' :: rest => some (.colon, rest)
  | '?' :: rest => some (.question, rest)
  | '@' :: rest => some (.at, rest)
  | '+' :: rest => some (.plus, rest)
  | '-' :: rest => some (.minus, rest)
  | '*' :: rest => some (.star, rest)
  | '/' :: rest => some (.slash, rest)
  | '%' :: rest => some (.percent, rest)
  | '^' :: rest => some (.caret, rest)
  | '~' :: rest => some (.bitNot, rest)
  | '&' :: rest => some (.bitAnd, rest)
  | '|' :: rest => some (.bitOr, rest)
  | '=' :: rest => some (.eq, rest)
  | '!' :: rest => some (.bang, rest)
  | '<' :: rest => some (.lt, rest)
  | '>' :: rest => some (.gt, rest)
  | _ => none

/-- The operator that `c` begins, or a character that no token begins with. -/
def scanSymbol (c : Char) (rest : List Char) : Kind × List Char :=
  match symbol? (c :: rest) with
  | some (s, after) => (.symbol s, after)
  | none => (.error (.unexpectedCharacter c), rest)

/-! ## Tokens -/

/-- The token that `c` begins, and what follows. -/
def scan (c : Char) (rest : List Char) : Kind × List Char :=
  if c = '\'' ∨ c = '"' then scanString c rest
  else if c = '\x60' then scanName rest
  else
    match rest with
    | '\'' :: body =>
      if c = 'x' ∨ c = 'X' then scanHex body
      else if c = 'b' ∨ c = 'B' then scanBits body
      else if c.isDigit then scanNumber (c :: rest)
      else if isWordChar c then scanWord (c :: rest)
      else scanSymbol c rest
    | _ =>
      if c.isDigit then
        match c, rest with
        | '0', 'x' :: digits => (prefixed? 'x' digits).getD (scanNumber (c :: rest))
        | '0', 'b' :: digits => (prefixed? 'b' digits).getD (scanNumber (c :: rest))
        | _, _ => scanNumber (c :: rest)
      else if isWordChar c then scanWord (c :: rest)
      else scanSymbol c rest

/-! ### A token takes up its first character and what follows is left -/

theorem stringBody?_suffix {quote : Char} {cs : List Char} {r : List Char × List Char}
    (h : stringBody? quote cs = some r) : r.2 <:+ cs := by
  fun_induction stringBody? quote cs generalizing r with
  | case1 => simp at h
  | case2 => cases h; exact List.nil_suffix
  | case3 rest ih =>
    obtain ⟨r', hr', rfl⟩ := Option.map_eq_some_iff.1 h
    exact (ih hr').trans ⟨[quote, quote], rfl⟩
  | case4 d rest hd => cases h; exact List.suffix_cons _ _
  | case5 => cases h; exact List.nil_suffix
  | case6 d rest hq ih =>
    obtain ⟨r', hr', rfl⟩ := Option.map_eq_some_iff.1 h
    exact (ih hr').trans ⟨['\\', d], rfl⟩
  | case7 c rest hq hb ih =>
    obtain ⟨r', hr', rfl⟩ := Option.map_eq_some_iff.1 h
    exact (ih hr').trans (List.suffix_cons _ _)

theorem nameBody?_suffix {cs : List Char} {r : List Char × List Char}
    (h : nameBody? cs = some r) : r.2 <:+ cs := by
  fun_induction nameBody? cs generalizing r with
  | case1 => simp at h
  | case2 rest ih =>
    obtain ⟨r', hr', rfl⟩ := Option.map_eq_some_iff.1 h
    exact (ih hr').trans ⟨['\x60', '\x60'], rfl⟩
  | case3 rest => cases h; exact List.suffix_cons _ _
  | case4 c rest _ _ ih =>
    obtain ⟨r', hr', rfl⟩ := Option.map_eq_some_iff.1 h
    exact (ih hr').trans (List.suffix_cons _ _)

theorem scanString_suffix (quote : Char) (cs : List Char) : (scanString quote cs).2 <:+ cs := by
  unfold scanString
  split
  · exact List.nil_suffix
  · next h => exact stringBody?_suffix h

theorem scanName_suffix (cs : List Char) : (scanName cs).2 <:+ cs := by
  unfold scanName
  split
  · exact List.nil_suffix
  · next h => exact nameBody?_suffix h

theorem suffix_of_dropWhile_eq_cons {p : Char → Bool} {cs rest : List Char} {c : Char}
    (h : cs.dropWhile p = c :: rest) : rest <:+ cs :=
  (List.suffix_cons c rest).trans (h ▸ List.dropWhile_suffix p)

theorem scanHex_suffix (cs : List Char) : (scanHex cs).2 <:+ cs := by
  unfold scanHex
  split
  · exact List.nil_suffix
  · next h => exact suffix_of_dropWhile_eq_cons h

theorem scanBits_suffix (cs : List Char) : (scanBits cs).2 <:+ cs := by
  unfold scanBits
  split
  · exact List.nil_suffix
  · next h => exact suffix_of_dropWhile_eq_cons h

theorem scanWord_suffix {c : Char} (rest : List Char) (h : isWordChar c = true) :
    (scanWord (c :: rest)).2 <:+ rest := by
  simp only [scanWord, List.dropWhile_cons, h, if_true]
  exact List.dropWhile_suffix _

theorem takeFraction_suffix (cs : List Char) : (takeFraction cs).2 <:+ cs := by
  unfold takeFraction
  split
  · exact List.nil_suffix
  · split
    · exact (List.dropWhile_suffix _).trans (List.suffix_cons _ _)
    · split
      · exact List.suffix_rfl
      · exact List.suffix_cons _ _
  · exact List.suffix_rfl

theorem takeExponent_suffix (cs : List Char) : (takeExponent cs).2 <:+ cs := by
  unfold takeExponent
  split
  · exact List.suffix_rfl
  · split
    · split
      · exact List.nil_suffix
      · split
        · exact (List.dropWhile_suffix _).trans
            ((List.suffix_cons _ _).trans (List.suffix_cons _ _))
        · exact (List.dropWhile_suffix _).trans (List.suffix_cons _ _)
    · exact List.suffix_rfl

theorem isWordChar_of_isDigit {c : Char} (h : c.isDigit = true) : isWordChar c = true := by
  simp [isWordChar, Char.isAlphanum, h]

theorem scanNumber_suffix {c : Char} (rest : List Char) (h : c.isDigit = true) :
    (scanNumber (c :: rest)).2 <:+ rest := by
  unfold scanNumber
  simp only
  split
  · exact scanWord_suffix rest (isWordChar_of_isDigit h)
  · refine (takeExponent_suffix _).trans ((takeFraction_suffix _).trans ?_)
    simp only [List.dropWhile_cons, h, if_true]
    exact List.dropWhile_suffix _

theorem prefixed?_suffix {radix : Char} {cs : List Char} {r : Kind × List Char}
    (h : prefixed? radix cs = some r) : r.2 <:+ cs := by
  simp only [prefixed?] at h
  repeat' split at h
  all_goals first
    | (simp only [Option.some.injEq] at h; subst h; exact List.dropWhile_suffix _)
    | simp at h

theorem symbol?_suffix {c : Char} {rest : List Char} {r : Symbol × List Char}
    (h : symbol? (c :: rest) = some r) : r.2 <:+ rest := by
  unfold symbol? at h
  split at h <;> simp only [List.cons.injEq, reduceCtorEq] at * <;> grind

theorem scanSymbol_suffix (c : Char) (rest : List Char) : (scanSymbol c rest).2 <:+ rest := by
  unfold scanSymbol
  split
  · next h => exact symbol?_suffix h
  · exact List.suffix_rfl

theorem prefixedOrNumber_suffix {c letter radix : Char} (digits : List Char)
    (h : c.isDigit = true) :
    ((prefixed? radix digits).getD (scanNumber (c :: letter :: digits))).2 <:+
      letter :: digits := by
  cases hp : prefixed? radix digits with
  | none => exact scanNumber_suffix _ h
  | some r => exact (prefixed?_suffix hp).trans (List.suffix_cons _ _)

/-- What follows a token is what is left of the text after its first character at most. -/
theorem scan_suffix (c : Char) (rest : List Char) : (scan c rest).2 <:+ rest := by
  unfold scan
  split
  · exact scanString_suffix _ _
  · split
    · exact scanName_suffix _
    · split
      · next body =>
        split
        · exact (scanHex_suffix _).trans (List.suffix_cons _ _)
        · split
          · exact (scanBits_suffix _).trans (List.suffix_cons _ _)
          · split
            · next h => exact scanNumber_suffix _ h
            · split
              · next h => exact scanWord_suffix _ h
              · exact scanSymbol_suffix _ _
      · split
        · next h =>
          split
          · exact prefixedOrNumber_suffix _ (by decide)
          · exact prefixedOrNumber_suffix _ (by decide)
          · exact scanNumber_suffix _ h
        · split
          · next h => exact scanWord_suffix _ h
          · exact scanSymbol_suffix _ _

/-! ### All tokens of a text -/

/-- The part of `cs` before its suffix `rest`. -/
def before (cs rest : List Char) : List Char :=
  cs.take (cs.length - rest.length)

theorem before_append {cs rest : List Char} (h : rest <:+ cs) : before cs rest ++ rest = cs := by
  obtain ⟨front, rfl⟩ := h
  simp [before]

/-- What follows a gap: the text from the next token on. -/
def codeAfter (opened : Nat) (cs : List Char) : List Char :=
  dropNational (skipGap opened cs).2

theorem codeAfter_suffix (opened : Nat) (cs : List Char) : codeAfter opened cs <:+ cs :=
  (dropNational_suffix _).trans (skipGap_suffix opened cs)

/-- The lexemes of a text at whose start `opened` executable comments are open. -/
def lexemes (opened : Nat) (cs : List Char) : List Lexeme :=
  match _h : codeAfter opened cs with
  | [] => [⟨cs, [], .eof⟩]
  | c :: rest =>
    have := (codeAfter_suffix opened cs).length_le
    have := (scan_suffix c rest).length_le
    let token := scan c rest
    ⟨before cs (c :: rest), before (c :: rest) token.2, token.1⟩ ::
      lexemes (skipGap opened cs).1 token.2
termination_by cs.length
decreasing_by simp_all; omega

/-- Gaps and texts of the lexemes together are the whole text. -/
theorem lexemes_flatMap (opened : Nat) (cs : List Char) :
    ((lexemes opened cs).flatMap fun l => l.gap ++ l.text) = cs := by
  fun_induction lexemes opened cs with
  | case1 opened cs h => simp
  | case2 opened cs c rest h _ _ token ih =>
    have hcode : before cs (c :: rest) ++ (c :: rest) = cs :=
      before_append (h ▸ codeAfter_suffix opened cs)
    have htoken : before (c :: rest) token.2 ++ token.2 = c :: rest :=
      before_append ((scan_suffix c rest).trans (List.suffix_cons c rest))
    simp only [List.flatMap_cons, ih, List.append_assoc, htoken, hcode]

/-- The number of bytes of a text. -/
def byteSize : List Char → Nat
  | [] => 0
  | c :: cs => c.utf8Size + byteSize cs

/-- The tokens of lexemes that begin at a byte offset. -/
def place (offset : Nat) : List Lexeme → List Token
  | [] => []
  | l :: ls =>
    let start := offset + byteSize l.gap
    let stop := start + byteSize l.text
    ⟨l.kind, ⟨start, stop⟩, String.ofList l.text⟩ :: place stop ls

/-- The tokens of a statement, the last of which is its end. -/
def tokenize (statement : String) : List Token :=
  place 0 (lexemes 0 statement.toList)

end SchemaTrail.Token
