import Autoplay.Vision.Raster

/-!
# Pictures

Screenshots in colour and in grey, places on them, and the distance of two colours.
-/

namespace Autoplay

/-- A colour. -/
structure Colour where
  /-- Red. -/
  red : UInt8
  /-- Green. -/
  green : UInt8
  /-- Blue. -/
  blue : UInt8
deriving DecidableEq, Repr, Inhabited

/-- A picture in colour. -/
abbrev Picture := Raster Colour

/-- A picture in shades of grey. -/
abbrev GreyPicture := Raster UInt8

/-- A place on a screen. -/
structure Point where
  /-- Column. -/
  x : Int32
  /-- Row. -/
  y : Int32
deriving DecidableEq, Repr

namespace Colour

/-- How light a colour is: green counts most and blue least. -/
def grey (c : Colour) : UInt8 :=
  UInt8.ofNat ((2126 * c.red.toNat + 7152 * c.green.toNat + 722 * c.blue.toNat) / 10000)

/-- How far two values of a channel are apart. -/
def channelDistance (a b : UInt8) : Nat := if a ≤ b then (b - a).toNat else (a - b).toNat

/-- The sum of the distances of the three channels; the second colour is given as blue, green and
red. -/
def distance (c : Colour) (bgr : UInt8 × UInt8 × UInt8) : Nat :=
  channelDistance c.red bgr.2.2 + channelDistance c.green bgr.2.1 + channelDistance c.blue bgr.1

end Colour

namespace Raster

/-- A picture in shades of grey. -/
def grey (p : Picture) : GreyPicture := p.map Colour.grey

/-- Whether the pixel at a place has a colour up to a tolerance; there is no answer for a place off
the picture. -/
def hasColour? (p : Picture) (x y : Int32) (bgr : UInt8 × UInt8 × UInt8) (tolerance : UInt32) :
    Option Bool :=
  if x < 0 || y < 0 then none
  else (p.at? x.toInt.toNat y.toInt.toNat).map fun c => c.distance bgr ≤ tolerance.toNat

end Raster

end Autoplay
