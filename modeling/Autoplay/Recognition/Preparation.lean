import Autoplay.Decimal.Notation
import Autoplay.Vision.Picture
import Autoplay.Workflow.Basic

/-!
# Preparing a screen for recognition

The part of a screen that is to be read is cut out, made grey, and given more contrast: each shade
is moved away from the mean one.
-/

namespace Autoplay.Recognition

/-- The mean shade of a picture, a whole number. -/
def meanShade (p : GreyPicture) : Float32 :=
  let sum := p.cells.foldl (fun n c => n + c.toNat) 0
  (Float32.ofNat sum / Float32.ofNat (p.width * p.height)).round

/-- A number as a shade: the nearest one, and black for what is not a number. -/
def shadeOf (v : Float32) : UInt8 :=
  if v.isNaN then 0
  else if v ≤ 0 then 0
  else if 255 ≤ v then 255
  else v.round.toUInt8

/-- A factor that is nearer to one than this changes nothing. -/
def leastEffect : Float32 := Float32.ofBits 0x34000000

/-- Moves each shade away from the mean one by a factor. -/
def withContrast (factor : Float32) (p : GreyPicture) : GreyPicture :=
  if (factor - 1).abs < leastEffect || p.width * p.height = 0 then p
  else
    let mean := meanShade p
    p.map fun c => shadeOf (mean + factor * (Float32.ofNat c.toNat - mean))

/-- The wording for a region of which nothing lies on the screen. -/
def offScreen (r : Region) (width height : Nat) : String :=
  let field (name : String) (n : UInt32) := name ++ ": " ++ Decimal.digits n.toNat
  "ocr region Region \x7b "
    ++ ", ".intercalate
      [field "x" r.x, field "y" r.y, field "width" r.width, field "height" r.height]
    ++ " \x7d lies outside a " ++ Decimal.digits width ++ "x" ++ Decimal.digits height ++ " image"

/-- The part of a screen that is to be read. -/
def cutOut (screen : Picture) : Option Region → Except String Picture
  | none => .ok screen
  | some r =>
    match r.clampTo (UInt32.ofNat screen.width) (UInt32.ofNat screen.height) with
    | none => .error (offScreen r screen.width screen.height)
    | some c => .ok (screen.crop c.x.toNat c.y.toNat c.width.toNat c.height.toNat default)

/-- What is given to the program that reads. -/
def prepare (factor : Float32) (screen : Picture) (region : Option Region) :
    Except String GreyPicture :=
  (cutOut screen region).map fun p => withContrast factor p.grey

end Autoplay.Recognition
