/-!
# Similarity of texts

Two measures compare a recognised text with a name: the edit distance and the length of the longest
common subsequence. Both are computed row by row: the row of a part of the first text holds the
measure of that part against every part of the second text. Divided by the longer length they give
similarities between 0 and 1, of which the greater one counts. The similarities are defined over any
numbers that can be subtracted, divided and compared; names are matched in single precision.
-/

namespace Autoplay.Recognition

/-- The entries of the next row of edit distances behind its first one: `c` is the next character of
the first text, `left` the entry before, and the list the row above from the entry before on. -/
def editEntries (c : Char) (left : Nat) : List Char → List Nat → List Nat
  | d :: b, diagonal :: above :: row =>
    let here := min (min (above + 1) (left + 1)) (diagonal + if c = d then 0 else 1)
    here :: editEntries c here b (above :: row)
  | _, _ => []

/-- The next row of edit distances. -/
def editRow (b : List Char) (row : List Nat) (c : Char) : List Nat :=
  let first := row.headD 0 + 1
  first :: editEntries c first b row

/-- The least number of insertions, deletions and substitutions of one character that turn the first
text into the second. -/
def editDistance (a b : List Char) : Nat :=
  (a.foldl (editRow b) (List.range (b.length + 1))).getLastD 0

/-- The entries of the next row of common lengths behind its first one, with the same arguments as
`editEntries`. -/
def commonEntries (c : Char) (left : Nat) : List Char → List Nat → List Nat
  | d :: b, diagonal :: above :: row =>
    let here := if c = d then diagonal + 1 else max above left
    here :: commonEntries c here b (above :: row)
  | _, _ => []

/-- The next row of common lengths. -/
def commonRow (b : List Char) (row : List Nat) (c : Char) : List Nat :=
  0 :: commonEntries c 0 b row

/-- The length of the longest common subsequence. -/
def commonLength (a b : List Char) : Nat :=
  (a.foldl (commonRow b) (List.replicate (b.length + 1) 0)).getLastD 0

/-- Counts in single precision. -/
instance natCastSingle : NatCast Float32 := ⟨Float32.ofNat⟩

/-- The greater of two numbers. -/
def greater {K : Type} [LT K] [DecidableLT K] (x y : K) : K := if x < y then y else x

/-- The share of the longer text that both have in common. -/
def commonSimilarity {K : Type} [NatCast K] [Div K] (a b : List Char) : K :=
  let longest := max a.length b.length
  if longest = 0 then (1 : Nat) else commonLength a b / longest

variable {K : Type} [NatCast K] [Sub K] [Div K] [LT K] [DecidableLT K]

/-- One less the share of the longer text that has to be edited. -/
def editSimilarity (a b : List Char) : K :=
  let longest := max a.length b.length
  if longest = 0 then (1 : Nat)
  else greater ((1 : Nat) - editDistance a b / longest) (0 : Nat)

/-- The greater of both similarities: the first copes with wrong characters, the second with missing
ones. -/
def similarity (a b : List Char) : K :=
  greater (editSimilarity a b) (commonSimilarity a b)

end Autoplay.Recognition
