import Autoplay.Decimal.Notation
import Autoplay.Text.Blank

/-!
# Dates and times of day

Dates of the Gregorian calendar and moments, a date with a time of day, without a time zone. The
text of a moment is `YYYY-MM-DDTHH:MM:SS`, with three, six or nine digits behind a point when the
second has a fraction. A minute may have a sixty-first second.
-/

namespace Autoplay

/-- A date. -/
structure Date where
  /-- Year; zero and negative years are allowed. -/
  year : Int
  /-- Month, from 1. -/
  month : Nat
  /-- Day of the month, from 1. -/
  day : Nat
deriving Repr, DecidableEq, Inhabited

namespace Date

/-- Every fourth year is a leap year, except centuries that are no multiple of 400. -/
def isLeap (year : Int) : Bool :=
  year % 4 == 0 && (year % 100 != 0 || year % 400 == 0)

/-- The number of days of a month. -/
def daysIn (year : Int) (month : Nat) : Nat :=
  if month = 2 then (if isLeap year then 29 else 28)
  else if month = 4 ∨ month = 6 ∨ month = 9 ∨ month = 11 then 30
  else 31

/-- The years that dates can have. -/
def yearInRange (year : Int) : Bool :=
  -262143 ≤ year && year ≤ 262142

/-- The date of a year, month and day, if there is one. -/
def make? (year : Int) (month day : Nat) : Option Date :=
  if yearInRange year && 1 ≤ month && month ≤ 12 && 1 ≤ day && day ≤ daysIn year month then
    some ⟨year, month, day⟩
  else none

/-- A year in four digits; a sign is written for years before 0 and after 9999. -/
def yearText (year : Int) : String :=
  if 0 ≤ year ∧ year ≤ 9999 then Decimal.padded 4 year.toNat
  else (if year < 0 then "-" else "+") ++ Decimal.padded 4 year.natAbs

/-- The date as `YYYY-MM-DD`. -/
def text (d : Date) : String :=
  yearText d.year ++ "-" ++ Decimal.padded 2 d.month ++ "-" ++ Decimal.padded 2 d.day

/-- The date as `YYYYMMDD`. -/
def compact (d : Date) : String :=
  yearText d.year ++ Decimal.padded 2 d.month ++ Decimal.padded 2 d.day

/-- The month as `YYYY-MM`. -/
def monthText (d : Date) : String :=
  yearText d.year ++ "-" ++ Decimal.padded 2 d.month

end Date

/-- A date and a time of day. -/
structure Moment where
  /-- The date. -/
  date : Date
  /-- Seconds since midnight. -/
  second : Nat
  /-- Nanoseconds since that second; a sixty-first second counts on from `10^9`. -/
  nanos : Nat
deriving Repr, DecidableEq, Inhabited

namespace Moment

/-- The parts of a moment, the weightiest first. -/
def key (m : Moment) : List Int :=
  [m.date.year, m.date.month, m.date.day, m.second, m.nanos]

/-- Lexicographic order of two keys. -/
def keyLe : List Int → List Int → Bool
  | [], _ => true
  | _ :: _, [] => false
  | a :: as, b :: bs => a < b || (a == b && keyLe as bs)

/-- One moment is not after another. -/
def notAfter (a b : Moment) : Bool :=
  keyLe a.key b.key

/-- The fraction of a second: none, or three, six or nine digits behind a point. -/
def fractionText (nanos : Nat) : String :=
  if nanos = 0 then ""
  else if nanos % 1000000 = 0 then "." ++ Decimal.padded 3 (nanos / 1000000)
  else if nanos % 1000 = 0 then "." ++ Decimal.padded 6 (nanos / 1000)
  else "." ++ Decimal.padded 9 nanos

/-- The moment as `YYYY-MM-DDTHH:MM:SS` with its fraction. -/
def text (m : Moment) : String :=
  let leap := 1000000000 ≤ m.nanos
  let second := m.second % 60 + (if leap then 1 else 0)
  let nanos := if leap then m.nanos - 1000000000 else m.nanos
  m.date.text ++ "T" ++ Decimal.padded 2 (m.second / 3600) ++ ":"
    ++ Decimal.padded 2 (m.second / 60 % 60) ++ ":" ++ Decimal.padded 2 second ++ fractionText nanos

/-- Why a text is not a moment. -/
inductive ReadError where
  /-- A character that cannot stand there. -/
  | invalid
  /-- The text ends too early. -/
  | tooShort
  /-- The text goes on behind the moment. -/
  | tooLong
  /-- A part has a value that it cannot have. -/
  | outOfRange
deriving Repr, DecidableEq

/-- The wording of a reading error. -/
def ReadError.message : ReadError → String
  | .invalid => "input contains invalid characters"
  | .tooShort => "premature end of input"
  | .tooLong => "trailing input"
  | .outOfRange => "input is out of range"

/-- The value of a digit. -/
def digitValue? (c : Char) : Option Nat :=
  if c.isDigit then some (c.toNat - 48) else none

/-- Reads on through at most `room` digits, with `n` read so far. -/
def moreDigits (n : Nat) : Nat → List Char → Nat × List Char
  | 0, s => (n, s)
  | _, [] => (n, [])
  | room + 1, c :: s =>
    match digitValue? c with
    | some d => moreDigits (10 * n + d) room s
    | none => (n, c :: s)

/-- Reads a number of one to `room` digits that a 64-bit word holds. -/
def number (room : Nat) : List Char → Except ReadError (Nat × List Char)
  | [] => .error .tooShort
  | c :: s =>
    match digitValue? c with
    | none => .error .invalid
    | some d =>
      let (n, rest) := moreDigits d (room - 1) s
      if n < 0x8000000000000000 then .ok (n, rest) else .error .outOfRange

/-- Reads a number of one or two digits between two bounds, blanks in front skipped. -/
def part (low high : Nat) (s : List Char) : Except ReadError (Nat × List Char) := do
  let (n, rest) ← number 2 (Text.trimStart s)
  if low ≤ n && n ≤ high then .ok (n, rest) else .error .outOfRange

/-- Reads a year: four digits at most, or any number of them behind a sign. -/
def yearPart (s : List Char) : Except ReadError (Int × List Char) := do
  let s := Text.trimStart s
  let (year, rest) ←
    match s with
    | '-' :: s => do
      let (n, rest) ← number s.length s
      pure (-(n : Int), rest)
    | '+' :: s => do
      let (n, rest) ← number s.length s
      pure ((n : Int), rest)
    | s => do
      let (n, rest) ← number 4 s
      pure ((n : Int), rest)
  if -0x80000000 ≤ year && year < 0x80000000 then .ok (year, rest) else .error .outOfRange

/-- Reads a separator, blanks in front skipped. -/
def separator (c : Char) (s : List Char) : Except ReadError (List Char) :=
  match Text.trimStart s with
  | [] => .error .tooShort
  | d :: rest => if d = c then .ok rest else .error .invalid

/-- Reads the fraction of a second, if there is one: nine digits count, further ones are skipped. -/
def fraction (s : List Char) : Except ReadError (Nat × List Char) := do
  match s with
  | '.' :: s =>
    let (n, rest) ← number 9 s
    let places := s.length - rest.length
    pure (n * Nat.pow 10 (9 - places), rest.dropWhile Char.isDigit)
  | s => pure (0, s)

/-- Reads a moment. -/
def ofText (text : String) : Except ReadError Moment := do
  let (year, s) ← yearPart text.toList
  let s ← separator '-' s
  let (month, s) ← part 1 12 s
  let s ← separator '-' s
  let (day, s) ← part 1 31 s
  let s ← separator 'T' s
  let (hour, s) ← part 0 23 s
  let s ← separator ':' s
  let (minute, s) ← part 0 59 s
  let s ← separator ':' s
  let (second, s) ← part 0 60 s
  let (nanos, s) ← fraction s
  if !(Text.trimStart s).isEmpty then throw .tooLong
  match Date.make? year month day with
  | none => throw .outOfRange
  | some date =>
    let leap := second = 60
    pure ⟨date, hour * 3600 + minute * 60 + (if leap then 59 else second),
      nanos + (if leap then 1000000000 else 0)⟩

end Moment

end Autoplay
