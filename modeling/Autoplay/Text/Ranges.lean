import Autoplay.Text.Blank

/-!
# Character data written as text

The properties of characters that this library needs are kept as text: entries separated by blanks,
code points in hexadecimal. This module reads that notation. A set of characters is a list of ranges
`a-b` or single code points `a`, by increasing code point.
-/

namespace Autoplay.Text

/-- The value of one hexadecimal digit, `0` for any other character. -/
def hexDigit (c : Char) : Nat :=
  if '0' ≤ c ∧ c ≤ '9' then c.toNat - 48
  else if 'A' ≤ c ∧ c ≤ 'F' then c.toNat - 55
  else if 'a' ≤ c ∧ c ≤ 'f' then c.toNat - 87
  else 0

/-- The number that a text of hexadecimal digits writes. -/
def hexNat (text : String) : Nat :=
  text.toList.foldl (fun n c => 16 * n + hexDigit c) 0

/-- The number that a text of decimal digits writes. -/
def decimalNat (text : String) : Nat :=
  text.toList.foldl (fun n c => 10 * n + hexDigit c) 0

/-- A set of characters, as ranges of code points. -/
structure Ranges where
  /-- The ranges, ends included. -/
  bounds : Array (Nat × Nat)

namespace Ranges

/-- Reads one range, `a-b` or `a`. -/
def readRange (entry : String) : Nat × Nat :=
  match entry.splitOn "-" with
  | [a, b] => (hexNat a, hexNat b)
  | _ => (hexNat entry, hexNat entry)

/-- Reads a set of characters. -/
def ofText (text : String) : Ranges :=
  ⟨((words text).map readRange).toArray⟩

/-- Membership: some range holds the code point. -/
def contains (r : Ranges) (c : Char) : Bool :=
  r.bounds.any fun (a, b) => decide (a ≤ c.toNat) && decide (c.toNat ≤ b)

end Ranges

end Autoplay.Text
