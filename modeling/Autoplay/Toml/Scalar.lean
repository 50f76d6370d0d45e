import Autoplay.Calendar
import Autoplay.Document.Basic

/-!
# Plain TOML values

Numbers, truth values, dates and times, and the four kinds of strings. A reader returns the value
and what is left of the text.
-/

namespace Autoplay.Toml

/-- Blanks inside a line. -/
def isBlank (c : Char) : Bool := c == ' ' || c == '\t'

/-- Characters that may stand in a comment or string as they are. -/
def isPrintable (c : Char) : Bool :=
  c == '\t' || (0x20 ≤ c.toNat && c.toNat != 0x7F)

/-- Skips the blanks of a line. -/
def skipBlanks (s : List Char) : List Char := s.dropWhile isBlank

/-- A line end in front of the text, and the text behind it. -/
def newline? : List Char → Option (List Char)
  | '\n' :: rest => some rest
  | '\r' :: '\n' :: rest => some rest
  | _ => none

/-- The value of a digit in a base. -/
def digitIn? (base : Nat) (c : Char) : Option Nat :=
  let v :=
    if c.isDigit then c.toNat - 48
    else if 'a' ≤ c ∧ c ≤ 'f' then c.toNat - 87
    else if 'A' ≤ c ∧ c ≤ 'F' then c.toNat - 55
    else 99
  if v < base then some v else none

/-- Digits of a base that may be separated by single underscores; `after` tells whether a digit came
right before. -/
def digitsIn? (base : Nat) (after : Bool) : List Char → Option (List Nat)
  | [] => if after then some [] else none
  | '_' :: rest => if after then digitsIn? base false rest else none
  | c :: rest => do
    let d ← digitIn? base c
    let ds ← digitsIn? base true rest
    some (d :: ds)

/-- The number that digits write in a base. -/
def ofDigits (base : Nat) (ds : List Nat) : Nat :=
  ds.foldl (fun n d => base * n + d) 0

/-- Digits of a decimal whole part: several digits do not start with zero. -/
def wholeDigits? (s : List Char) : Option (List Nat) := do
  let ds ← digitsIn? 10 false s
  if ds.head? = some 0 ∧ s ≠ ['0'] then none else some ds

/-- Takes a sign off. -/
def splitSign : List Char → Bool × List Char
  | '-' :: s => (true, s)
  | '+' :: s => (false, s)
  | s => (false, s)

/-- The whole number that a word writes, if it fits into 64 bits with a sign. -/
def integer? (word : List Char) : Option Document :=
  let value? : Option Int :=
    match word with
    | '0' :: 'x' :: ds => (digitsIn? 16 false ds).map fun ds => (ofDigits 16 ds : Int)
    | '0' :: 'o' :: ds => (digitsIn? 8 false ds).map fun ds => (ofDigits 8 ds : Int)
    | '0' :: 'b' :: ds => (digitsIn? 2 false ds).map fun ds => (ofDigits 2 ds : Int)
    | _ =>
      let (negative, ds) := splitSign word
      (wholeDigits? ds).map fun ds =>
        if negative then -(ofDigits 10 ds : Int) else (ofDigits 10 ds : Int)
  match value? with
  | some n => if -0x8000000000000000 ≤ n ∧ n < 0x8000000000000000 then some (.integer n) else none
  | none => none

/-- The floating-point number that a word writes: one with a fraction or an exponent that is not
beyond the largest double, infinity, or no number. -/
def float? (word : List Char) : Option Document := do
  let (negative, s) := splitSign word
  if s = ['i', 'n', 'f'] then
    return .float (if negative then -(1.0 / 0.0) else 1.0 / 0.0)
  if s = ['n', 'a', 'n'] then
    return .float (if negative then -(0.0 / 0.0) else 0.0 / 0.0)
  let isE (c : Char) : Bool := c == 'e' || c == 'E'
  let mantissa := s.takeWhile (!isE ·)
  let power := s.dropWhile (!isE ·)
  let whole ← wholeDigits? (mantissa.takeWhile (· ≠ '.'))
  let places ←
    match mantissa.dropWhile (· ≠ '.') with
    | [] => some []
    | _ :: ds => digitsIn? 10 false ds
  let exponent : Int ←
    match power with
    | [] => some 0
    | _ :: ds =>
      let (down, ds) := splitSign ds
      (digitsIn? 10 false ds).map fun ds =>
        if down then -(ofDigits 10 ds : Int) else (ofDigits 10 ds : Int)
  if mantissa.all (· ≠ '.') ∧ power = [] then none
  else
    let coefficient := ofDigits 10 (whole ++ places)
    let e := exponent - places.length
    let bounded := max (-100000) (min 100000 e)
    let x :=
      if coefficient = 0 then 0.0
      else Float.ofScientific coefficient (decide (bounded < 0)) bounded.natAbs
    if x.isInf && !negative then none else some (.float (if negative then -x else x))

/-- The number that exactly `n` digits write, and what is left. -/
def fixedDigits? : Nat → List Char → Option (Nat × List Char)
  | 0, s => some (0, s)
  | n + 1, c :: s => do
    let d ← digitIn? 10 c
    let (m, rest) ← fixedDigits? n s
    some (d * Nat.pow 10 n + m, rest)
  | _, [] => none

/-- A number of two digits up to `high`. -/
def twoDigits? (high : Nat) (s : List Char) : Option (Nat × List Char) := do
  let (n, rest) ← fixedDigits? 2 s
  if n ≤ high then some (n, rest) else none

/-- One given character. -/
def literal? (c : Char) : List Char → Option (List Char)
  | d :: rest => if c = d then some rest else none
  | [] => none

/-- What is left behind a time of day `HH:MM:SS` with an optional fraction. -/
def time? (s : List Char) : Option (List Char) := do
  let (_, s) ← twoDigits? 23 s
  let s ← literal? ':' s
  let (_, s) ← twoDigits? 59 s
  let s ← literal? ':' s
  let (_, s) ← twoDigits? 60 s
  match s with
  | '.' :: ds =>
    if (ds.head?.map Char.isDigit) = some true then some (ds.dropWhile Char.isDigit) else none
  | s => some s

/-- What is left behind a date `YYYY-MM-DD`. -/
def date? (s : List Char) : Option (List Char) := do
  let (year, s) ← fixedDigits? 4 s
  let s ← literal? '-' s
  let (month, s) ← twoDigits? 12 s
  let s ← literal? '-' s
  let (day, s) ← twoDigits? 31 s
  if 1 ≤ month ∧ 1 ≤ day ∧ day ≤ Date.daysIn year month then some s else none

/-- Whether nothing but a distance from universal time is left. -/
def isOffset : List Char → Bool
  | [] => true
  | ['Z'] => true
  | ['z'] => true
  | c :: s =>
    (c == '+' || c == '-') && ((do
      let (_, s) ← twoDigits? 23 s
      let s ← literal? ':' s
      let (_, s) ← twoDigits? 59 s
      pure (s == [])) : Option Bool) == some true

/-- The name under which a date or time stands in a document. -/
def momentField : String := "moment"

/-- The date, time, or date and time that a word writes. -/
def moment? (word : List Char) : Option Document :=
  let value : Document := .record [(momentField, .text (String.ofList word))]
  match date? word with
  | some [] => some value
  | some (c :: rest) =>
    if c = 'T' ∨ c = 't' ∨ c = ' ' then
      match time? rest with
      | some s => if isOffset s then some value else none
      | none => none
    else none
  | none =>
    match time? word with
    | some [] => some value
    | _ => none

/-- Characters of numbers, words and dates. -/
def isWordChar (c : Char) : Bool :=
  c.isAlphanum || c == '+' || c == '-' || c == '_' || c == '.' || c == ':'

/-- The word in front of the text; a date takes up a time of day behind one blank. -/
def splitWord (s : List Char) : List Char × List Char :=
  let word := s.takeWhile isWordChar
  let rest := s.dropWhile isWordChar
  match rest with
  | ' ' :: behind =>
    if (date? word) = some []
        ∧ ((behind.take 3).map fun c => c.isDigit || c == ':') = [true, true, true]
    then (word ++ ' ' :: behind.takeWhile isWordChar, behind.dropWhile isWordChar)
    else (word, rest)
  | _ => (word, rest)

/-- A value that is written as a word. -/
def wordValue? (word : List Char) : Option Document :=
  if word = ['t', 'r', 'u', 'e'] then some (.bool true)
  else if word = ['f', 'a', 'l', 's', 'e'] then some (.bool false)
  else (moment? word).or ((float? word).or (integer? word))

/-- The character with a number, if there is one. -/
def scalar? (n : Nat) : Option Char :=
  if n < 0xD800 ∨ (0xE000 ≤ n ∧ n < 0x110000) then some (Char.ofNat n) else none

/-- The number that exactly `n` hexadecimal digits write, and what is left. -/
def fixedHex? : Nat → List Char → Option (Nat × List Char)
  | 0, s => some (0, s)
  | n + 1, c :: s => do
    let d ← digitIn? 16 c
    let (m, rest) ← fixedHex? n s
    some (d * Nat.pow 16 n + m, rest)
  | _, [] => none

/-- The character of an escape, the text starting behind its backslash. -/
def escape? : List Char → Option (Char × List Char)
  | 'b' :: s => some (Char.ofNat 8, s)
  | 't' :: s => some ('\t', s)
  | 'n' :: s => some ('\n', s)
  | 'f' :: s => some (Char.ofNat 12, s)
  | 'r' :: s => some ('\r', s)
  | '"' :: s => some ('"', s)
  | '\\' :: s => some ('\\', s)
  | 'u' :: s => do
    let (n, s) ← fixedHex? 4 s
    let c ← scalar? n
    some (c, s)
  | 'U' :: s => do
    let (n, s) ← fixedHex? 8 s
    let c ← scalar? n
    some (c, s)
  | _ => none

/-- The text of a string in double quotes, from behind the opening quote; at most
`fuel` characters. -/
def basic? : Nat → List Char → Option (List Char × List Char)
  | 0, _ => none
  | _, '"' :: s => some ([], s)
  | fuel + 1, '\\' :: s => do
    let (c, s) ← escape? s
    let (text, s) ← basic? fuel s
    some (c :: text, s)
  | fuel + 1, c :: s =>
    if isPrintable c then do
      let (text, s) ← basic? fuel s
      some (c :: text, s)
    else none
  | _, [] => none

/-- The text of a string in single quotes, from behind the opening quote. -/
def literalString? : List Char → Option (List Char × List Char)
  | '\'' :: s => some ([], s)
  | c :: s =>
    if isPrintable c then do
      let (text, s) ← literalString? s
      some (c :: text, s)
    else none
  | [] => none

/-- The number of quotes `q` in front of a text. -/
def quotesAhead (q : Char) (s : List Char) : Nat := (s.takeWhile (· == q)).length

/-- Closes a string of several lines where at least three quotes stand: up to two of them, in front
of the last three, belong to the text. -/
def closeLong (q : Char) (s : List Char) : Option (List Char × List Char) :=
  let n := min 5 (quotesAhead q s)
  if n < 3 then none else some (List.replicate (n - 3) q, s.drop n)

/-- Skips blanks and line ends, at most `fuel` of them. -/
def skipLines : Nat → List Char → List Char
  | 0, s => s
  | fuel + 1, s =>
    match newline? s with
    | some rest => skipLines fuel rest
    | none =>
      match s with
      | c :: rest => if isBlank c then skipLines fuel rest else s
      | [] => []

/-- The text of a double-quoted string of several lines, from behind its opening quotes; at most
`fuel` characters. A backslash at the end of a line joins it with the next text. -/
def longBasic? : Nat → List Char → Option (List Char × List Char)
  | 0, _ => none
  | fuel + 1, s =>
    if quotesAhead '"' s ≥ 3 then closeLong '"' s
    else
      match newline? s with
      | some rest => do
        let (text, s) ← longBasic? fuel rest
        some ('\n' :: text, s)
      | none =>
        match s with
        | [] => none
        | '\\' :: behind =>
          match newline? (skipBlanks behind) with
          | some rest => longBasic? fuel (skipLines rest.length rest)
          | none => do
            let (c, s) ← escape? behind
            let (text, s) ← longBasic? fuel s
            some (c :: text, s)
        | c :: rest =>
          if isPrintable c then do
            let (text, s) ← longBasic? fuel rest
            some (c :: text, s)
          else none

/-- The text of a single-quoted string of several lines, from behind its opening quotes; at most
`fuel` characters. -/
def longLiteral? : Nat → List Char → Option (List Char × List Char)
  | 0, _ => none
  | fuel + 1, s =>
    if quotesAhead '\'' s ≥ 3 then closeLong '\'' s
    else
      match newline? s with
      | some rest => do
        let (text, s) ← longLiteral? fuel rest
        some ('\n' :: text, s)
      | none =>
        match s with
        | [] => none
        | c :: rest =>
          if isPrintable c then do
            let (text, s) ← longLiteral? fuel rest
            some (c :: text, s)
          else none

/-- Drops the line end right behind the opening quotes of a string of several lines. -/
def dropFirstNewline (s : List Char) : List Char := (newline? s).getD s

/-- A string of any kind. -/
def string? (s : List Char) : Option (List Char × List Char) :=
  match s with
  | '"' :: '"' :: '"' :: rest => longBasic? (rest.length + 1) (dropFirstNewline rest)
  | '"' :: rest => basic? (rest.length + 1) rest
  | '\'' :: '\'' :: '\'' :: rest => longLiteral? (rest.length + 1) (dropFirstNewline rest)
  | '\'' :: rest => literalString? rest
  | _ => none

end Autoplay.Toml
