import Autoplay.Document.Lenient
import Autoplay.Vision.Picture

/-!
# Drawn pictures

Pictures for rehearsals are drawn by a description: a ground of one colour or of noise, then
rectangles, other pictures and single pixels on top of it. What lies off the picture is left out.
-/

namespace Autoplay.Drawing

/-- A shade of noise: an even mixture of the place and a number that tells noises apart. -/
def noise (seed : UInt32) (x y : Nat) : UInt8 :=
  let h := ((UInt32.ofNat x * 73856093) ^^^ (UInt32.ofNat y * 19349663) ^^^ (seed * 83492791))
    * 2654435761
  let h := (h ^^^ (h >>> 15)) * 2246822519
  (h >>> 24).toUInt8

/-- Draws a rectangle whose pixels are given by their columns and rows in it. -/
def rectangle (p : Picture) (x y width height : Int) (f : Nat → Nat → Colour) : Picture :=
  (List.range height.toNat).foldl (fun p (j : Nat) =>
    (List.range width.toNat).foldl (fun p (i : Nat) =>
      let u := x + Int.ofNat i
      let v := y + Int.ofNat j
      if 0 ≤ u ∧ 0 ≤ v then p.set u.toNat v.toNat (f i j) else p) p) p

/-- The colour that three items of a list from one on give. -/
def colourAt (d : Document) (i : Nat) : Colour :=
  ⟨(d.item i).byte, (d.item (i + 1)).byte, (d.item (i + 2)).byte⟩

/-- The picture of a description in which pictures are nested at most `depth` deep. -/
def pictureWithin : Nat → Document → Picture
  | 0, _ => .tabulate 0 0 fun _ _ => default
  | depth + 1, d =>
    let ground : Picture :=
      match (d.get "noise").nat? with
      | some seed =>
        .tabulate (d.get "w").nat (d.get "h").nat fun x y =>
          let v := noise (UInt32.ofNat seed) x y
          ⟨v, v, v⟩
      | none =>
        let c := colourAt (d.get "fill") 0
        .tabulate (d.get "w").nat (d.get "h").nat fun _ _ => c
    let drawn := (d.get "rects").items.foldl (fun p r =>
      let c := colourAt r 4
      let n (i : Nat) := (r.item i).int
      rectangle p (n 0) (n 1) (n 2) (n 3) fun _ _ => c) ground
    let pasted := (d.get "paste").items.foldl (fun p r =>
      let q := pictureWithin depth (r.item 2)
      rectangle p (r.item 0).int (r.item 1).int q.width q.height fun i j =>
        q.getD i j default) drawn
    (d.get "px").items.foldl (fun p r =>
      let c := colourAt r 2
      rectangle p (r.item 0).int (r.item 1).int 1 1 fun _ _ => c) pasted

/-- The picture of a description. -/
def picture (d : Document) : Picture := pictureWithin 100 d

end Autoplay.Drawing
