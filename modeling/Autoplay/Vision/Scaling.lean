import Autoplay.Vision.Picture

/-!
# Scaling of pictures

Two ways to change the size of a grey picture: shrinking by a whole factor, where each cell becomes
the mean of those that it covers, and resizing to any size, where each cell is a mean of its
neighbours whose weights fall off linearly. Resizing goes over the columns first and over the rows
then.
-/

namespace Autoplay

namespace Scaling

/-- The sum of the cells of a rectangle. -/
def blockSum (p : GreyPicture) (left right top bottom : Nat) : Nat :=
  (List.range (bottom - top)).foldl (fun s j =>
    (List.range (right - left)).foldl (fun s i => s + (p.getD (left + i) (top + j) 0).toNat) s) 0

/-- The cells of a line of `size` ones that cell `o` of a line of `newSize` ones covers. -/
def covered (size newSize o : Nat) : Nat × Nat :=
  let ratio := Float32.ofNat size / Float32.ofNat newSize
  let first := Float32.ofNat o * ratio
  let start := min (first.ceil.toUInt32.toNat) (size - 1)
  let stop := min (max (first + ratio).ceil.toUInt32.toNat start) size
  (start, stop)

/-- A smaller picture each of whose cells is the mean of those that it covers. -/
def thumbnail (p : GreyPicture) (width height : Nat) : GreyPicture :=
  .tabulate width height fun x y =>
    let (left, right) := covered p.width width x
    let (top, bottom) := covered p.height height y
    let n := (right - left) * (bottom - top)
    UInt8.ofNat ((blockSum p left right top bottom + n / 2) / n)

/-- A picture shrunk by a whole factor, to one cell at least. -/
def shrink (p : GreyPicture) (factor : Nat) : GreyPicture :=
  thumbnail p (max 1 (p.width / factor)) (max 1 (p.height / factor))

/-- The cells that a cell of a resized line is made of: the first one, and their weights. -/
structure Taps where
  /-- The first cell. -/
  start : Nat
  /-- The weights of it and the following ones. -/
  weights : List Float32

/-- A number of a line, not below zero and not above a limit. -/
def clampIndex (x : Float32) (low high : Nat) : Nat :=
  min high (max low x.toUInt32.toNat)

/-- What cell `o` of a line resized from `size` to `newSize` is made of. -/
def taps (size newSize o : Nat) : Taps :=
  let ratio := Float32.ofNat size / Float32.ofNat newSize
  let spread := if ratio < 1 then 1 else ratio
  let centre := (Float32.ofNat o + 0.5) * ratio
  let start := clampIndex (centre - spread).floor 0 (size - 1)
  let stop := clampIndex (centre + spread).ceil (start + 1) size
  let centre := centre - 0.5
  let raw := (List.range (stop - start)).map fun i =>
    let d := ((Float32.ofNat (start + i) - centre) / spread).abs
    if d < 1 then 1 - d else 0
  let sum := raw.foldl (· + ·) 0
  ⟨start, raw.map (· / sum)⟩

/-- The weighted sum of cells. -/
def weighted (cell : Nat → Float32) : Nat → List Float32 → Float32 → Float32
  | _, [], s => s
  | i, w :: rest, s => weighted cell (i + 1) rest (s + cell i * w)

/-- A number as the lightness of a cell: the nearest one, halves going up. -/
def lightness (x : Float32) : UInt8 :=
  let x := if x < 0 then 0 else if 255 < x then 255 else x
  x.round.toUInt8

/-- A picture resized to a width and a height. -/
def resize (p : GreyPicture) (width height : Nat) : GreyPicture :=
  if width = p.width ∧ height = p.height then p
  else
    let rows := (Array.range height).map (taps p.height height)
    let columns := (Array.range width).map (taps p.width width)
    let tall : Raster Float32 := .tabulate p.width height fun x y =>
      match rows[y]? with
      | some t => weighted (fun j => (p.getD x j 0).toFloat32) t.start t.weights 0
      | none => 0
    .tabulate width height fun x y =>
      match columns[x]? with
      | some t => lightness (weighted (fun i => tall.getD i y 0) t.start t.weights 0)
      | none => 0

end Scaling

end Autoplay
