import Autoplay.Decimal.Notation
import Autoplay.Decimal.Rounding

/-!
# Durations

Lengths of time in whole nanoseconds. Settings and workflow steps give them in seconds with a
fraction; messages write them in the largest of seconds, milliseconds, microseconds and nanoseconds
that is not above them, either with all their digits or rounded to one place.
-/

namespace Autoplay

/-- A length of time. -/
structure Duration where
  /-- Whole nanoseconds. -/
  nanos : Nat
deriving Repr, DecidableEq, Inhabited

namespace Duration

/-- No time at all. -/
def zero : Duration := ⟨0⟩

/-- Whole milliseconds. -/
def ofMillis (n : Nat) : Duration := ⟨n * 1000000⟩

/-- Durations hold less than `2^64` seconds. -/
def limit : Nat := 0x10000000000000000 * 1000000000

/-- A number of seconds to the nearest nanosecond, a tie to the even one. What is not positive or
not finite counts as no time; there is no duration of `2^64` seconds or more. -/
def ofSeconds? (seconds : Float) : Option Duration :=
  match Decimal.ofFloat seconds with
  | (false, .finite b) =>
    let nanos := Decimal.roundHalfEven (b.m * 1000000000 * Nat.pow 2 b.q.toNat)
      (Nat.pow 2 (-b.q).toNat)
    if nanos < limit then some ⟨nanos⟩ else none
  | _ => some zero

/-- The unit in which a duration is written: its name and its number of decimal places in
nanoseconds. -/
def unit (d : Duration) : String × Nat :=
  if 1000000000 ≤ d.nanos then ("s", 9)
  else if 1000000 ≤ d.nanos then ("ms", 6)
  else if 1000 ≤ d.nanos then ("µs", 3)
  else ("ns", 0)

/-- All digits, without trailing zeros behind the point: `1.5s`, `200ms`. -/
def text (d : Duration) : String :=
  let (name, places) := d.unit
  let whole := Decimal.digits (d.nanos / Nat.pow 10 places)
  let fraction := d.nanos % Nat.pow 10 places
  if fraction = 0 then whole ++ name
  else
    let ds := (Decimal.padded places fraction).toList.reverse.dropWhile (· == '0')
    whole ++ "." ++ String.ofList ds.reverse ++ name

/-- Rounded to one place behind the point, a tie to the even digit: `1.5s`, `200.0ms`. -/
def brief (d : Duration) : String :=
  let (name, places) := d.unit
  let tenths := Decimal.roundHalfEven (d.nanos * 10) (Nat.pow 10 places)
  Decimal.digits (tenths / 10) ++ "." ++ Decimal.digits (tenths % 10) ++ name

end Duration

end Autoplay
