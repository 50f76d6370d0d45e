import Std.Data.HashMap
import Autoplay.Text.Ranges
import Autoplay.Text.Table.CombiningClass
import Autoplay.Text.Table.Composition
import Autoplay.Text.Table.Decomposition

/-!
# Compatibility composition

The normal form NFKC: every character is replaced by its full compatibility decomposition, runs of
combining marks are sorted by their class, and what has a primary composite is composed again.
Hangul syllables are decomposed and composed by their arithmetic.
-/

namespace Autoplay.Text

/-- Neighbouring characters with their decompositions, from the first one on. -/
def neighbours (first : Nat) : List (List Nat) → List (Nat × List Char)
  | [] => []
  | image :: images => (first, image.map Char.ofNat) :: neighbours (first + 1) images

/-- Full compatibility decompositions by code point. -/
def decompositionOf : Std.HashMap Nat (List Char) :=
  Std.HashMap.ofList (Table.decompositions.flatMap fun (a, images) => neighbours a images)

/-- Primary composites by their two parts. -/
def compositeOf : Std.HashMap (Nat × Nat) Char :=
  Std.HashMap.ofList <| Table.compositions.flatMap fun (a, pairs) =>
    pairs.map fun (b, whole) => ((a, b), Char.ofNat whole)

/-- Canonical combining classes other than zero, by code point. -/
def combiningClassOf : Std.HashMap Nat Nat :=
  Std.HashMap.ofList <| (words Table.combiningClasses).flatMap fun entry =>
    match entry.splitOn "=" with
    | [range, k] =>
      let (a, b) := Ranges.readRange range
      (List.range (b + 1 - a)).map fun i => (a + i, decimalNat k)
    | _ => []

/-- The canonical combining class of a character. -/
def combiningClass (c : Char) : Nat :=
  if c.toNat < 0x300 then 0 else combiningClassOf.getD c.toNat 0

/-- Hangul syllables are numbered by leading consonant, vowel and trailing consonant: 19, 21 and 28
of them, from U+AC00. -/
def hangulParts (n : Nat) : List Char :=
  let s := n - 0xAC00
  let lead := Char.ofNat (0x1100 + s / 588)
  let vowel := Char.ofNat (0x1161 + s % 588 / 28)
  if s % 28 = 0 then [lead, vowel] else [lead, vowel, Char.ofNat (0x11A7 + s % 28)]

/-- The full compatibility decomposition of a character. -/
def decompose (c : Char) : List Char :=
  let n := c.toNat
  if n < 0xA0 then [c]
  else if 0xAC00 ≤ n ∧ n ≤ 0xD7A3 then hangulParts n
  else decompositionOf.getD n [c]

/-- Puts a mark behind the marks of no greater class that end the reversed text. -/
def insertMark (c : Char) (k : Nat) : List Char → List Char
  | [] => [c]
  | d :: before =>
    if combiningClass d > k then d :: insertMark c k before else c :: d :: before

/-- Canonical order: within a run of marks, by increasing class, equal classes as they came. -/
def sortMarks (s : List Char) : List Char :=
  (s.foldl (fun before c =>
    let k := combiningClass c
    if k = 0 then c :: before else insertMark c k before) []).reverse

/-- The character that two neighbours compose to. -/
def composePair (a b : Char) : Option Char :=
  let x := a.toNat
  let y := b.toNat
  if 0x1100 ≤ x ∧ x ≤ 0x1112 ∧ 0x1161 ≤ y ∧ y ≤ 0x1175 then
    some (Char.ofNat (0xAC00 + ((x - 0x1100) * 21 + (y - 0x1161)) * 28))
  else if 0xAC00 ≤ x ∧ x ≤ 0xD7A3 ∧ (x - 0xAC00) % 28 = 0 ∧ 0x11A8 ≤ y ∧ y ≤ 0x11C2 then
    some (Char.ofNat (x + (y - 0x11A7)))
  else compositeOf[(x, y)]?

/-- Composition in progress: the text before the last starter, that starter, and the marks kept
after it; texts are reversed. -/
structure Composing where
  /-- What can no longer change. -/
  settled : List Char
  /-- The last starter, which may still take up marks. -/
  starter : Option Char
  /-- Marks after the starter that did not compose with it. -/
  marks : List Char

namespace Composing

/-- The text so far, reversed. -/
def text (p : Composing) : List Char :=
  p.marks ++ p.starter.toList ++ p.settled

/-- Takes up one more character: it composes with the starter unless a mark between them has the
same or a greater class, or is itself a starter. -/
def push (p : Composing) (c : Char) : Composing :=
  let k := combiningClass c
  let blocked :=
    match p.marks with
    | [] => false
    | d :: _ => decide (combiningClass d ≥ k)
  let joined :=
    match p.starter with
    | some a => if blocked then none else composePair a c
    | none => none
  match joined with
  | some whole => { p with starter := some whole }
  | none =>
    if k = 0 then ⟨p.text, some c, []⟩ else { p with marks := c :: p.marks }

end Composing

/-- The normal form NFKC of a text. -/
def compatibilityForm (s : String) : String :=
  let start : Composing := ⟨[], none, []⟩
  String.ofList ((sortMarks (s.toList.flatMap decompose)).foldl Composing.push start).text.reverse

end Autoplay.Text
