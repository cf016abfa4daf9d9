import SchemaTrail.Calendar.Basic
import SchemaTrail.Decimal.Numeral
import SchemaTrail.Json.Value
import SchemaTrail.Text.Blank

/-!
# Timestamps

A `Timestamp` says when something was recorded, in universal time.  It is written as RFC 3339 says,
with the letter `Z` for universal time.  It may be read with another offset, with a blank in the
place of the letter `T`, and with blanks before its parts.
-/

namespace SchemaTrail

/-- The first and the last year of a timestamp. -/
def yearRange : Int × Int := (-262143, 262142)

/-- Whether a day and time can be those of a timestamp. -/
def isInstant (date : Date) (time : TimeOfDay) : Bool :=
  date.isValid && yearRange.1 ≤ date.year && date.year ≤ yearRange.2 && time.isValid

/-- A point in time. -/
structure Timestamp where
  date : Date
  time : TimeOfDay
  valid : isInstant date time = true
  deriving DecidableEq, Repr

namespace Timestamp

/-- The point in time at which all clocks start. -/
def epoch : Timestamp := ⟨⟨1970, 1, 1⟩, ⟨0, 0, 0, 0⟩, by decide⟩

/-- A day and a time as a timestamp. -/
def of? (date : Date) (time : TimeOfDay) : Option Timestamp :=
  if h : isInstant date time = true then some ⟨date, time, h⟩ else none

/-- The number of milliseconds from the epoch. -/
def milliseconds (t : Timestamp) : Int :=
  t.date.dayNumber * 86400000 + t.time.milliseconds

/-! ## Writing -/

/-- The fewest digits, in groups of three, that show a fraction of a second in full. -/
def fractionDigits (nanosecond : Nat) : Nat :=
  if nanosecond % nanosPerSecond = 0 then 0
  else if nanosecond % 1000000 = 0 then 3
  else if nanosecond % 1000 = 0 then 6
  else 9

/-- The timestamp as a text. -/
def text (t : Timestamp) : String :=
  t.date.text ++ "T" ++ t.time.text (fractionDigits t.time.nanosecond) ++ "Z"

/-- The timestamp in JSON. -/
def toJson (t : Timestamp) : Json :=
  .string t.text

/-! ## Reading -/

/-- A reader of characters, which may fail. -/
abbrev Scanner := StateT (List Char) Option

/-- Passes over blanks. -/
def skipBlanks : Scanner Unit :=
  modify fun cs => cs.dropWhile Text.isBlank

/-- Reads a number of digits, as many as there are but at most `limit`. -/
def scanDigits (limit : Nat) : Scanner (List Char) := fun cs =>
  let digits := (cs.take limit).takeWhile Char.isDigit
  if digits.isEmpty then none else some (digits, cs.drop digits.length)

/-- Reads a number with at most `limit` digits, after any blanks. -/
def scanNumber (limit : Nat) : Scanner Nat := do
  skipBlanks
  return Nat.ofDigitChars 10 (← scanDigits limit) 0

/-- Reads one of several characters. -/
def scanOneOf (wanted : List Char) : Scanner Char := fun
  | [] => none
  | c :: cs => if wanted.contains c then some (c, cs) else none

/-- Reads a character after any blanks. -/
def scanMark (mark : Char) : Scanner Unit := do
  skipBlanks
  discard <| scanOneOf [mark]

/-- Reads a year: four digits at most, or any number after a sign. -/
def scanYear : Scanner Int := do
  skipBlanks
  match ← get with
  | '-' :: cs =>
    set cs
    return -(Nat.ofDigitChars 10 (← scanDigits cs.length) 0 : Int)
  | '+' :: cs =>
    set cs
    return Nat.ofDigitChars 10 (← scanDigits cs.length) 0
  | _ => return Nat.ofDigitChars 10 (← scanDigits 4) 0

/-- Reads a day. -/
def scanDate : Scanner Date := do
  let year ← scanYear
  scanMark '-'
  let month ← scanNumber 2
  scanMark '-'
  return ⟨year, month, ← scanNumber 2⟩

/-- Reads the fraction of a second, if there is one.  Digits after the ninth are passed over. -/
def scanFraction : Scanner Nat := fun
  | '.' :: cs => do
    let (digits, rest) ← scanDigits 9 cs
    let nanosecond := Nat.ofDigitChars 10 digits 0 * Nat.pow 10 (9 - digits.length)
    return (nanosecond, rest.dropWhile Char.isDigit)
  | cs => some (0, cs)

/-- Reads a time of day.  The sixtieth second is a leap second. -/
def scanTime : Scanner TimeOfDay := do
  let hour ← scanNumber 2
  scanMark ':'
  let minute ← scanNumber 2
  scanMark ':'
  let second ← scanNumber 2
  let fraction ← scanFraction
  return if second = 60 then ⟨hour, minute, 59, nanosPerSecond + fraction⟩
    else ⟨hour, minute, second, fraction⟩

/-- Reads a number of exactly two digits. -/
def scanTwoDigits : Scanner Nat := fun cs =>
  match cs with
  | a :: b :: rest =>
    if a.isDigit && b.isDigit then some (Nat.ofDigitChars 10 [a, b] 0, rest) else none
  | _ => none

/-- Reads an offset from universal time in minutes: a sign, two digits for hours and two for
minutes. -/
def scanSignedOffset : Scanner Int := do
  let sign ← scanOneOf ['+', '-', '−']
  let hours ← scanTwoDigits
  modify fun cs => cs.dropWhile fun c => c = ':' || Text.isBlank c
  let minutes ← scanTwoDigits
  if minutes < 60 ∧ hours < 24 then
    let offset : Int := hours * 60 + minutes
    return if sign = '+' then offset else -offset
  else failure

/-- Reads an offset from universal time in minutes. -/
def scanOffset : Scanner Int := fun cs =>
  if (cs.take 3).map Char.toUpper = ['U', 'T', 'C'] then some (0, cs.drop 3)
  else match cs with
    | 'Z' :: rest | 'z' :: rest => some (0, rest)
    | _ => scanSignedOffset cs

/-- The timestamp of a day and time that lie `offset` minutes after universal time. -/
def ofLocal? (date : Date) (time : TimeOfDay) (offset : Int) : Option Timestamp :=
  if isInstant date time then
    let minutes : Int := (time.hour * 60 + time.minute : Nat) - offset
    let day := if minutes < 0 then date.previous else if minutes < 1440 then date else date.next
    let within := (minutes % 1440).toNat
    of? day { time with hour := within / 60, minute := within % 60 }
  else none

/-- Reads a timestamp up to the blanks after it. -/
def scan : Scanner Timestamp := do
  let date ← scanDate
  discard <| scanOneOf ['t', 'T', ' ']
  let time ← scanTime
  skipBlanks
  let offset ← scanOffset
  skipBlanks
  (ofLocal? date time offset : Option Timestamp)

/-- Reads a text as a timestamp. -/
def ofText? (s : String) : Option Timestamp :=
  match scan.run s.toList with
  | some (t, []) => some t
  | _ => none

/-- Reads a timestamp. -/
def ofJson? (j : Json) : Option Timestamp :=
  j.string?.bind ofText?

end Timestamp

end SchemaTrail
