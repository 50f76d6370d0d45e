import Autoplay.Document.Basic

/-!
# Number literals

A literal without fraction and exponent is a whole number as long as it fits into 64 bits, unsigned
or, behind a minus sign, signed; minus zero and larger whole numbers are floating-point numbers. A
floating-point literal is read by its leading digits, as many as fit into 64 unsigned bits,
converted and scaled by one power of ten; each of the two operations rounds once. A value beyond the
largest double is an error.
-/

namespace Autoplay.Json

/-- The first whole number that does not fit into 64 bits. -/
def wordLimit : Nat := 0x10000000000000000

/-- Digits taken into a significand, with the power of ten that the others are worth. -/
structure Significand where
  /-- The digits taken. -/
  value : Nat
  /-- The exponent of the last digit taken. -/
  exponent : Int
deriving Repr, DecidableEq

/-- Takes up the digits of a whole part: those that no longer fit raise the exponent. -/
def takeWhole (s : Significand) : List Char → Significand
  | [] => s
  | c :: rest =>
    let next := 10 * s.value + (c.toNat - 48)
    if s.exponent = 0 ∧ next < wordLimit then takeWhole ⟨next, 0⟩ rest
    else takeWhole ⟨s.value, s.exponent + 1⟩ rest

/-- Takes up the digits of a fraction, up to the first that no longer fits. -/
def takeFraction (s : Significand) : List Char → Significand
  | [] => s
  | c :: rest =>
    let next := 10 * s.value + (c.toNat - 48)
    if next < wordLimit then takeFraction ⟨next, s.exponent - 1⟩ rest else s

/-- Scales a number by a power of ten, `none` if the result is too large. Below `10^-308` the number
is first scaled by `10^-308`, up to `budget` times; then it is zero. -/
def scale (x : Float) (exponent : Int) : Nat → Option Float
  | 0 => some 0.0
  | budget + 1 =>
    if exponent.natAbs ≤ 308 then
      let power := Float.ofScientific 1 false exponent.natAbs
      if 0 ≤ exponent then
        let y := x * power
        if y.isInf then none else some y
      else some (x / power)
    else if x == 0.0 then some x
    else if 0 ≤ exponent then none
    else scale (x / Float.ofScientific 1 false 308) (exponent + 308) budget

/-- The floating-point number of a significand. -/
def Significand.toFloat? (s : Significand) : Option Float :=
  scale (Float.ofNat s.value) s.exponent 4

/-- The whole number of an exponent's digits. -/
def decimal (ds : List Char) : Nat :=
  ds.foldl (fun n c => 10 * n + (c.toNat - 48)) 0

/-- A number literal cut into its parts. -/
structure Literal where
  /-- Whether it starts with a minus sign. -/
  negative : Bool
  /-- The digits before the point. -/
  whole : List Char
  /-- The digits behind the point, if there is a point. -/
  fraction : Option (List Char)
  /-- The sign and digits of the exponent, if there is one. -/
  exponent : Option (Bool × List Char)
deriving Repr, DecidableEq

namespace Literal

/-- Cuts off an exponent; nothing may follow it. -/
def exponentPart? : List Char → Option (Option (Bool × List Char))
  | [] => some none
  | c :: s =>
    if c = 'e' ∨ c = 'E' then
      let (negative, ds) :=
        match s with
        | '+' :: ds => (false, ds)
        | '-' :: ds => (true, ds)
        | ds => (false, ds)
      if ds.all Char.isDigit ∧ ds ≠ [] then some (some (negative, ds)) else none
    else none

/-- Cuts off a fraction, of at least one digit. -/
def fractionPart? : List Char → Option (Option (List Char) × List Char)
  | '.' :: s =>
    let ds := s.takeWhile Char.isDigit
    if ds = [] then none else some (some ds, s.dropWhile Char.isDigit)
  | s => some (none, s)

/-- Cuts a literal into its parts; a whole part of several digits does not start with zero. -/
def ofChars? (s : List Char) : Option Literal := do
  let (negative, s) :=
    match s with
    | '-' :: rest => (true, rest)
    | s => (false, s)
  let whole := s.takeWhile Char.isDigit
  if whole = [] ∨ (whole.head? = some '0' ∧ whole ≠ ['0']) then none
  else
    let (fraction, s) ← fractionPart? (s.dropWhile Char.isDigit)
    let exponent ← exponentPart? s
    some ⟨negative, whole, fraction, exponent⟩

/-- The largest exponent that is told apart from a larger one. -/
def exponentLimit : Nat := 0x80000000

/-- The size of a literal as a floating-point number. -/
def magnitude? (l : Literal) : Option Float :=
  let s := takeFraction (takeWhole ⟨0, 0⟩ l.whole) (l.fraction.getD [])
  match l.exponent with
  | none => s.toFloat?
  | some (negative, ds) =>
    let e := decimal ds
    if e < exponentLimit then
      Significand.toFloat? ⟨s.value, s.exponent + (if negative then -(e : Int) else e)⟩
    else if s.value ≠ 0 ∧ !negative then none
    else some 0.0

/-- The value of a literal. -/
def value? (l : Literal) : Option Document :=
  let n := decimal l.whole
  if l.fraction.isNone ∧ l.exponent.isNone ∧ !l.negative ∧ n < wordLimit then some (.integer n)
  else if l.fraction.isNone ∧ l.exponent.isNone ∧ l.negative ∧ 0 < n ∧ n ≤ 0x8000000000000000 then
    some (.integer (-n))
  else
    l.magnitude?.map fun x => .float (if l.negative then -x else x)

end Literal

/-- The value of a number literal. -/
def number? (s : List Char) : Option Document :=
  (Literal.ofChars? s).bind Literal.value?

end Autoplay.Json
