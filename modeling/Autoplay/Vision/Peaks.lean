import Autoplay.Vision.Correlation

/-!
# Peaks of a score map

The places of a score map with the best scores, of which no two are near each other: places are
taken by falling score, and one that is near a place taken before is left out.
-/

namespace Autoplay

/-- A place of a score map and its score. -/
structure Peak where
  /-- Column. -/
  x : Nat
  /-- Row. -/
  y : Nat
  /-- Score. -/
  score : Float32

/-- The place of a number in the order of all numbers, the negative zero below the positive one. -/
def scoreRank (x : Float32) : Int :=
  let bits := x.toBits.toNat
  if bits < 0x80000000 then bits else -(bits - 0x80000000 : Int) - 1

namespace Peak

/-- The peaks of a map with a finite score that is not below a bound, row by row. -/
def candidates (scores : ScoreMap) (least : Float32) : List Peak :=
  scores.places.filterMap fun (x, y) =>
    match scores.at? x y with
    | some s => if s.isFinite && least ≤ s then some ⟨x, y, s⟩ else none
    | none => none

/-- The distance of two numbers. -/
def apart (a b : Nat) : Nat := (a - b) + (b - a)

/-- Whether two peaks are near each other: nearer than the radius in both directions. -/
def near (radius : Nat) (p q : Peak) : Bool :=
  apart p.x q.x < radius && apart p.y q.y < radius

/-- Takes peaks one by one unless they are near one taken before, until there are enough; `kept`
holds those taken before, the last one first. -/
def thin (radius limit : Nat) (kept : List Peak) : List Peak → List Peak
  | [] => kept
  | p :: rest =>
    if kept.any fun k => near radius k p then thin radius limit kept rest
    else if limit ≤ kept.length + 1 then p :: kept
    else thin radius limit (p :: kept) rest

/-- The best peaks by falling score, the earlier one in row order first among equals. -/
def best (scores : ScoreMap) (least : Float32) (limit radius : Nat) : List Peak :=
  let sorted := (candidates scores least).mergeSort fun a b => scoreRank b.score ≤ scoreRank a.score
  (thin (max 1 radius) limit [] sorted).reverse

end Peak

namespace Raster

/-- The place of the first of the greatest scores. -/
def summit (scores : ScoreMap) : Option Peak :=
  scores.places.foldl (fun best (x, y) =>
    match scores.at? x y, best with
    | none, best => best
    | some s, none => some ⟨x, y, s⟩
    | some s, some b => if b.score < s then some ⟨x, y, s⟩ else some b) none

end Raster

end Autoplay
