import SchemaTrail.Json.Value

/-!
# The tokens of JSON

`Json.Token.readAll?` takes a text apart into brackets, separators and scalars.  Blanks between
tokens are a space, a tab or a line break.  A string with half a surrogate pair is a token of its
own, `flawed`.
-/

namespace SchemaTrail.Json

/-- A token of JSON. -/
inductive Token where
  | openArray
  | closeArray
  | openObject
  | closeObject
  | comma
  | colon
  | null
  | bool (value : Bool)
  | number (literal : String)
  | string (text : String)
  | flawed
  deriving DecidableEq, Repr

namespace Token

/-! ## Strings -/

/-- The value of a hexadecimal digit. -/
def hexValue? (c : Char) : Option Nat :=
  if c.isDigit then some (c.toNat - 0x30)
  else if 'a' ≤ c ∧ c ≤ 'f' then some (c.toNat - 0x57)
  else if 'A' ≤ c ∧ c ≤ 'F' then some (c.toNat - 0x37)
  else none

/-- The value of four hexadecimal digits. -/
def hexWord? (a b c d : Char) : Option Nat := do
  let a ← hexValue? a
  let b ← hexValue? b
  let c ← hexValue? c
  let d ← hexValue? d
  return ((a * 16 + b) * 16 + c) * 16 + d

/-- The character of an escape of one letter. -/
def unescape? : Char → Option Char
  | '"' => some '"'
  | '\\' => some '\\'
  | '/' => some '/'
  | 'b' => some '\x08'
  | 'f' => some '\x0c'
  | 'n' => some '\n'
  | 'r' => some '\r'
  | 't' => some '\t'
  | _ => none

/-- The character written as a surrogate pair. -/
def ofSurrogates (high low : Nat) : Char :=
  Char.ofNat (0x10000 + (high - 0xd800) * 0x400 + (low - 0xdc00))

/-- One unit of a string: the character it denotes, or nothing for half a surrogate pair. -/
structure StringUnit where
  value : Option Char
  rest : List Char

/-- Reads one unit of a string, which does not start with a quote. -/
def stringUnit? : List Char → Option StringUnit
  | [] => none
  | '\\' :: 'u' :: a :: b :: c :: d :: rest =>
    (hexWord? a b c d).bind fun n =>
      if n < 0xd800 ∨ 0xe000 ≤ n then some ⟨some (Char.ofNat n), rest⟩
      else if 0xdc00 ≤ n then some ⟨none, rest⟩
      else match rest with
        | '\\' :: 'u' :: a' :: b' :: c' :: d' :: rest' =>
          (hexWord? a' b' c' d').bind fun low =>
            if 0xdc00 ≤ low ∧ low < 0xe000 then some ⟨some (ofSurrogates n low), rest'⟩
            else some ⟨none, rest⟩
        | _ => some ⟨none, rest⟩
  | '\\' :: c :: rest => (unescape? c).map fun c => ⟨some c, rest⟩
  | c :: rest => if c.toNat < 0x20 ∨ c = '\\' then none else some ⟨some c, rest⟩

theorem length_stringUnit? {cs : List Char} {u : StringUnit} (h : stringUnit? cs = some u) :
    u.rest.length < cs.length := by
  unfold stringUnit? at h
  split at h
  · simp at h
  · simp only [Option.bind_eq_some_iff] at h
    obtain ⟨n, -, h⟩ := h
    split at h
    · cases h; simp only [List.length_cons]; omega
    · split at h
      · cases h; simp only [List.length_cons]; omega
      · split at h
        · simp only [Option.bind_eq_some_iff] at h
          obtain ⟨low, -, h⟩ := h
          split at h <;> cases h <;> simp only [List.length_cons] <;> omega
        · cases h; simp only [List.length_cons]; omega
  · simp only [Option.map_eq_some_iff] at h
    obtain ⟨_, -, rfl⟩ := h
    simp only [List.length_cons]; omega
  · split at h
    · simp at h
    · cases h; simp only [List.length_cons]; omega

/-- Reads a string after its opening quote; `read` is what has been read of it, last character
first, or nothing once it has a flaw. -/
def string? (read : Option (List Char)) (cs : List Char) : Option (Token × List Char) :=
  match cs with
  | '"' :: rest => some (read.elim .flawed fun r => .string (String.ofList r.reverse), rest)
  | cs =>
    match h : stringUnit? cs with
    | none => none
    | some u =>
      have := length_stringUnit? h
      string? (u.value.bind fun c => read.map (c :: ·)) u.rest
termination_by cs.length

theorem length_string? {read : Option (List Char)} {cs : List Char} {r : Token × List Char}
    (h : string? read cs = some r) : r.2.length < cs.length := by
  fun_induction string? read cs with
  | case1 => cases h; simp
  | case2 => simp at h
  | case3 read cs hne u hu hlt ih =>
    have := ih h
    omega

/-! ## Numbers -/

/-- Splits off a non-empty run of digits. -/
def digits? (cs : List Char) : Option (List Char × List Char) :=
  let run := cs.takeWhile Char.isDigit
  if run = [] then none else some (run, cs.dropWhile Char.isDigit)

/-- Splits off an optional fraction. -/
def fraction? : List Char → Option (List Char × List Char)
  | '.' :: rest => (digits? rest).map fun r => ('.' :: r.1, r.2)
  | cs => some ([], cs)

/-- Splits off an optional exponent. -/
def exponent? : List Char → Option (List Char × List Char)
  | [] => some ([], [])
  | c :: rest =>
    if c = 'e' ∨ c = 'E' then
      match rest with
      | [] => none
      | s :: tail =>
        if s = '+' ∨ s = '-' then (digits? tail).map fun r => (c :: s :: r.1, r.2)
        else (digits? (s :: tail)).map fun r => (c :: r.1, r.2)
    else some ([], c :: rest)

/-- Splits off the digits before the point: a zero, or digits that do not start with one. -/
def whole? : List Char → Option (List Char × List Char)
  | '0' :: rest => some (['0'], rest)
  | cs => digits? cs

/-- Splits off a number without its sign. -/
def unsigned? (cs : List Char) : Option (List Char × List Char) :=
  (whole? cs).bind fun w =>
    (fraction? w.2).bind fun f =>
      (exponent? f.2).map fun e => (w.1 ++ f.1 ++ e.1, e.2)

/-- Splits off a number. -/
def number? : List Char → Option (List Char × List Char)
  | '-' :: rest => (unsigned? rest).map fun r => ('-' :: r.1, r.2)
  | cs => unsigned? cs

theorem length_digits? {cs : List Char} {r : List Char × List Char} (h : digits? cs = some r) :
    r.2.length < cs.length := by
  simp only [digits?] at h
  split at h
  · simp at h
  · next hne =>
    cases h
    have hsplit :=
      congrArg List.length (List.takeWhile_append_dropWhile (p := Char.isDigit) (l := cs))
    have hpos := List.length_pos_iff.2 hne
    simp only [List.length_append] at hsplit
    simp only
    omega

theorem length_whole? {cs : List Char} {r : List Char × List Char} (h : whole? cs = some r) :
    r.2.length < cs.length := by
  unfold whole? at h
  split at h
  · cases h; simp
  · exact length_digits? h

theorem length_fraction? {cs : List Char} {r : List Char × List Char} (h : fraction? cs = some r) :
    r.2.length ≤ cs.length := by
  unfold fraction? at h
  split at h
  · obtain ⟨d, hd, rfl⟩ := Option.map_eq_some_iff.1 h
    have := length_digits? hd
    simp; omega
  · cases h; simp

theorem length_exponent? {cs : List Char} {r : List Char × List Char} (h : exponent? cs = some r) :
    r.2.length ≤ cs.length := by
  unfold exponent? at h
  split at h
  · cases h; simp
  · split at h
    · split at h
      · simp at h
      · split at h <;>
        · obtain ⟨d, hd, rfl⟩ := Option.map_eq_some_iff.1 h
          have := length_digits? hd
          simp at this ⊢; omega
    · cases h; simp

theorem length_unsigned? {cs : List Char} {r : List Char × List Char} (h : unsigned? cs = some r) :
    r.2.length < cs.length := by
  simp only [unsigned?, Option.bind_eq_some_iff, Option.map_eq_some_iff] at h
  obtain ⟨w, hw, f, hf, e, he, rfl⟩ := h
  have := length_whole? hw
  have := length_fraction? hf
  have := length_exponent? he
  simp only
  omega

theorem length_number? {cs : List Char} {r : List Char × List Char} (h : number? cs = some r) :
    r.2.length < cs.length := by
  unfold number? at h
  split at h
  · obtain ⟨u, hu, rfl⟩ := Option.map_eq_some_iff.1 h
    have := length_unsigned? hu
    simp only [List.length_cons]
    omega
  · exact length_unsigned? h

/-! ## Tokens -/

/-- Whether a character may stand between tokens. -/
def isSpace (c : Char) : Bool :=
  c = ' ' || c = '\n' || c = '\t' || c = '\r'

/-- Reads one token from a text that does not start with a blank. -/
def read? : List Char → Option (Token × List Char)
  | [] => none
  | '[' :: rest => some (.openArray, rest)
  | ']' :: rest => some (.closeArray, rest)
  | '{' :: rest => some (.openObject, rest)
  | '}' :: rest => some (.closeObject, rest)
  | ',' :: rest => some (.comma, rest)
  | ':' :: rest => some (.colon, rest)
  | 'n' :: 'u' :: 'l' :: 'l' :: rest => some (.null, rest)
  | 't' :: 'r' :: 'u' :: 'e' :: rest => some (.bool true, rest)
  | 'f' :: 'a' :: 'l' :: 's' :: 'e' :: rest => some (.bool false, rest)
  | '"' :: rest => string? (some []) rest
  | cs => (number? cs).map fun r => (.number (String.ofList r.1), r.2)

theorem length_read? {cs : List Char} {r : Token × List Char} (h : read? cs = some r) :
    r.2.length < cs.length := by
  unfold read? at h
  split at h
  case h_1 => simp at h
  case h_11 =>
    have := length_string? h
    simp only [List.length_cons]
    omega
  case h_12 =>
    obtain ⟨n, hn, rfl⟩ := Option.map_eq_some_iff.1 h
    exact length_number? hn
  all_goals cases h; simp <;> omega

/-- The tokens of a text. -/
def readAll? (cs : List Char) : Option (List Token) :=
  match cs with
  | [] => some []
  | c :: rest =>
    if isSpace c then readAll? rest
    else
      match h : read? (c :: rest) with
      | none => none
      | some (t, after) =>
        have : after.length < rest.length + 1 := length_read? h
        (readAll? after).map (t :: ·)
termination_by cs.length

end Token

end SchemaTrail.Json
