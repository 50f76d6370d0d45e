import Autoplay.Vision.Picture

/-!
# Correlation of pictures

How well a template fits a screen at each place where it lies on the screen as a whole: the product
of both, cell by cell, divided by the root of the product of their energies. All sums are taken in
single precision, row by row from the top, and each row from the left.
-/

namespace Autoplay

/-- The scores of a template on a screen, one for each place where it lies on it as a whole. -/
abbrev ScoreMap := Raster Float32

/-- A way to score a template on a screen that is not smaller. -/
abbrev Correlation := GreyPicture → GreyPicture → ScoreMap

namespace Correlation

/-- The sum of products and the energy of the screen under the template. -/
structure Sums where
  /-- The sum of products. -/
  cross : Float32 := 0
  /-- The sum of squares of the screen. -/
  energy : Float32 := 0

/-- How light a cell is. -/
def light (p : GreyPicture) (x y : Nat) : Float32 := (p.getD x y 0).toFloat32

/-- Adds `n` cells of row `j` of the template from column `i` on. -/
def addRow (screen template : GreyPicture) (x y j : Nat) : Nat → Nat → Sums → Sums
  | 0, _, s => s
  | n + 1, i, s =>
    let a := light screen (x + i) (y + j)
    let t := light template i j
    addRow screen template x y j n (i + 1) ⟨s.cross + a * t, s.energy + a * a⟩

/-- Adds `n` rows of the template from row `j` on. -/
def addRows (screen template : GreyPicture) (x y : Nat) : Nat → Nat → Sums → Sums
  | 0, _, s => s
  | n + 1, j, s =>
    addRows screen template x y n (j + 1) (addRow screen template x y j template.width 0 s)

/-- The energy of a picture. -/
def energy (p : GreyPicture) : Float32 := (addRows p p 0 0 p.height 0 {}).energy

/-- The normalised correlation of a template with a screen. -/
def normalized : Correlation := fun screen template =>
  let templateEnergy := energy template
  .tabulate (screen.width - template.width + 1) (screen.height - template.height + 1) fun x y =>
    let s := addRows screen template x y template.height 0 {}
    let root := Float32.sqrt (s.energy * templateEnergy)
    if 0 < root then s.cross / root else s.cross

end Correlation

end Autoplay
