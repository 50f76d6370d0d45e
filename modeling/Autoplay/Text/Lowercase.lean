import Autoplay.Text.Ranges
import Autoplay.Text.Table.CaseContext
import Autoplay.Text.Table.Lowercase

/-!
# Lowercase

The full lowercase mapping of Unicode: each character by its own mapping, U+0130 to two characters,
and the capital sigma by its context, final sigma at the end of a word and medial sigma elsewhere.
-/

namespace Autoplay.Text

/-- A run of lowercase mappings: `first + stride * i` goes to `image + stride * i` for `i
< count`. -/
structure CaseRun where
  /-- First character of the run. -/
  first : Nat
  /-- Number of characters. -/
  count : Nat
  /-- Distance between neighbours. -/
  stride : Nat
  /-- Image of the first character. -/
  image : Nat

namespace CaseRun

/-- Reads one entry of the table. -/
def ofEntry (entry : String) : CaseRun :=
  match entry.splitOn "=" with
  | [source, image] =>
    match source.splitOn "*" with
    | [first, run] =>
      match run.splitOn "/" with
      | [count, stride] => ⟨hexNat first, decimalNat count, decimalNat stride, hexNat image⟩
      | _ => ⟨hexNat first, decimalNat run, 1, hexNat image⟩
    | _ => ⟨hexNat source, 1, 1, hexNat image⟩
  | _ => ⟨0, 0, 1, 0⟩

/-- The image of a code point, if the run holds it. -/
def image? (r : CaseRun) (n : Nat) : Option Nat :=
  if r.first ≤ n ∧ (n - r.first) % r.stride = 0 ∧ (n - r.first) / r.stride < r.count then
    some (r.image + (n - r.first))
  else none

end CaseRun

/-- The lowercase mappings of single characters. -/
def caseRuns : Array CaseRun :=
  ((words Table.lowercase).map CaseRun.ofEntry).toArray

/-- The property Cased. -/
def casedRanges : Ranges := Ranges.ofText Table.cased

/-- The property Case_Ignorable. -/
def caseIgnorableRanges : Ranges := Ranges.ofText Table.caseIgnorable

/-- The lowercase form of a character taken alone. -/
def lowercaseChar (c : Char) : List Char :=
  if c.toNat < 128 then [c.toLower]
  else if c.toNat = 0x130 then ['i', Char.ofNat 0x307]
  else
    match caseRuns.findSome? (·.image? c.toNat) with
    | some n => [Char.ofNat n]
    | none => [c]

/-- Whether the first character that case does not ignore is a cased letter. -/
def casedAhead (s : List Char) : Bool :=
  match s.dropWhile caseIgnorableRanges.contains with
  | c :: _ => casedRanges.contains c
  | [] => false

/-- The lowercase form of `s`, where `before` holds the characters before `s`, nearest first. -/
def lowercaseAfter (before : List Char) : List Char → List Char
  | [] => []
  | c :: rest =>
    let here :=
      if c.toNat = 0x3A3 then
        if casedAhead before && !casedAhead rest then [Char.ofNat 0x3C2] else [Char.ofNat 0x3C3]
      else lowercaseChar c
    here ++ lowercaseAfter (c :: before) rest

/-- The lowercase form of a text. -/
def lowercase (s : String) : String :=
  String.ofList (lowercaseAfter [] s.toList)

end Autoplay.Text
