import Autoplay.Png.Chunk
import Autoplay.Png.Deflate
import Autoplay.Vision.Picture

/-!
# Pictures in files

The picture of a file of chunks. Its rows are filtered: each byte is written as the difference to
what its neighbours to the left and above suggest. Samples have one to sixteen bits; they are
shades, colours, or numbers of colours in a table, and how transparent a pixel is does not matter
here. Pictures that come in several passes are not read.
-/

namespace Autoplay.Png

/-- How the samples of a picture make up its pixels. -/
inductive ColourKind where
  /-- A shade. -/
  | grey
  /-- Red, green and blue. -/
  | rgb
  /-- The number of a colour in a table. -/
  | indexed
  /-- A shade and how transparent it is. -/
  | greyAlpha
  /-- Red, green and blue, and how transparent the colour is. -/
  | rgba
deriving DecidableEq, Repr

namespace ColourKind

/-- The kind of a number. -/
def ofNumber? : Nat → Option ColourKind
  | 0 => some .grey
  | 2 => some .rgb
  | 3 => some .indexed
  | 4 => some .greyAlpha
  | 6 => some .rgba
  | _ => none

/-- The number of samples of a pixel. -/
def samples : ColourKind → Nat
  | .grey => 1
  | .rgb => 3
  | .indexed => 1
  | .greyAlpha => 2
  | .rgba => 4

/-- The numbers of bits that a sample may have. -/
def depths : ColourKind → List Nat
  | .grey => [1, 2, 4, 8, 16]
  | .indexed => [1, 2, 4, 8]
  | _ => [8, 16]

end ColourKind

/-- What a file says about its picture. -/
structure Header where
  /-- Number of columns. -/
  width : Nat
  /-- Number of rows. -/
  height : Nat
  /-- Bits of a sample. -/
  depth : Nat
  /-- Kind of pixels. -/
  kind : ColourKind

namespace Header

/-- Reads what a file says about its picture. -/
def ofData? (data : List UInt8) : Option Header := do
  if data.length ≠ 13 then none
  let width := Chunk.number (data.take 4)
  let height := Chunk.number ((data.drop 4).take 4)
  match data.drop 8 with
  | [depth, kind, compression, filters, passes] =>
    let kind ← ColourKind.ofNumber? kind.toNat
    let depth := depth.toNat
    if depth ∈ kind.depths ∧ 0 < width ∧ 0 < height
        ∧ compression = 0 ∧ filters = 0 ∧ passes = 0 then
      some { width, height, depth, kind }
    else none
  | _ => none

/-- The number of bits of a pixel. -/
def pixelBits (h : Header) : Nat := h.kind.samples * h.depth

/-- The number of bytes of a row. -/
def rowBytes (h : Header) : Nat := (h.width * h.pixelBits + 7) / 8

/-- How many bytes to the left the same sample of the pixel before is. -/
def stride (h : Header) : Nat := max 1 (h.pixelBits / 8)

end Header

/-- Of the bytes to the left, above, and above to the left the one that is nearest to where the
three of them lead. -/
def nearest (left above corner : Nat) : Nat :=
  let goal : Int := (left : Int) + above - corner
  let far (n : Nat) := (goal - n).natAbs
  if far left ≤ far above ∧ far left ≤ far corner then left
  else if far above ≤ far corner then above
  else corner

/-- What the neighbours of a byte suggest, by the number of the filter. -/
def suggested? (filter left above corner : Nat) : Option Nat :=
  match filter with
  | 0 => some 0
  | 1 => some left
  | 2 => some above
  | 3 => some ((left + above) / 2)
  | 4 => some (nearest left above corner)
  | _ => none

/-- Restores a filtered row from the one above it. -/
def restoreRow? (stride filter : Nat) (above : Array UInt8) (row : List UInt8) :
    Option (Array UInt8) :=
  row.foldlM (fun out b =>
    let i := out.size
    let leftOf (a : Array UInt8) : Nat := if i < stride then 0 else (a.getD (i - stride) 0).toNat
    (suggested? filter (leftOf out) (above.getD i 0).toNat (leftOf above)).map fun n =>
      out.push (b + UInt8.ofNat n)) #[]

/-- Restores a number of rows. -/
def restoreRows? (h : Header) : Nat → Array UInt8 → List UInt8 → Option (List (Array UInt8))
  | 0, _, _ => some []
  | n + 1, above, bytes =>
    match bytes with
    | [] => none
    | filter :: bytes => do
      let (row, rest) ← Chunk.split? h.rowBytes bytes
      let row ← restoreRow? h.stride filter.toNat above row
      let rows ← restoreRows? h n row rest
      some (row :: rows)

/-- A sample of a row, and the greatest one that there can be. -/
def sample (h : Header) (row : Array UInt8) (i : Nat) : Nat :=
  if h.depth = 16 then (row.getD (2 * i) 0).toNat * 256 + (row.getD (2 * i + 1) 0).toNat
  else
    let perByte := 8 / h.depth
    let shift := h.depth * (perByte - 1 - i % perByte)
    (row.getD (i / perByte) 0).toNat / Nat.pow 2 shift % Nat.pow 2 h.depth

/-- A sample as a byte, rounded. -/
def level (h : Header) (v : Nat) : UInt8 :=
  let greatest := Nat.pow 2 h.depth - 1
  UInt8.ofNat ((v * 255 + greatest / 2) / greatest)

/-- The colour of a pixel. -/
def pixel (h : Header) (table : Array Colour) (row : Array UInt8) (x : Nat) : Colour :=
  let at_ (i : Nat) := sample h row (x * h.kind.samples + i)
  match h.kind with
  | .grey | .greyAlpha =>
    let v := level h (at_ 0)
    ⟨v, v, v⟩
  | .rgb | .rgba => ⟨level h (at_ 0), level h (at_ 1), level h (at_ 2)⟩
  | .indexed => table.getD (at_ 0) default

/-- The colours of a table. -/
def tableOf : List UInt8 → List Colour
  | r :: g :: b :: rest => ⟨r, g, b⟩ :: tableOf rest
  | _ => []

/-- The picture of a file. -/
def decode (bytes : List UInt8) : Option Picture := do
  match ← Chunk.ofFile? bytes with
  | [] => none
  | first :: chunks =>
    if first.name ≠ "IHDR" then none
    let h ← Header.ofData? first.data
    let table := (chunks.find? fun c => c.name = "PLTE").map fun c => (tableOf c.data).toArray
    if h.kind = .indexed ∧ table.isNone then none
    let packed := (chunks.filter fun c => c.name = "IDAT").flatMap Chunk.data
    let data ← Deflate.inflate packed
    let rows := (← restoreRows? h h.height #[] data.toList).toArray
    some (.tabulate h.width h.height fun x y => pixel h (table.getD #[]) (rows.getD y #[]) x)

end Autoplay.Png
