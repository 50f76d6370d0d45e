import Autoplay.Settings.Basic
import Autoplay.Vision.Peaks
import Autoplay.Vision.Scaling

/-!
# Searching a template on a screen

A template is tried at several sizes. A large one is first searched on a shrunk screen; around each
peak found there the place and the score are then determined in full. The way to score is a
parameter, so that the search can be reasoned about without the arithmetic of scores.
-/

namespace Autoplay

/-- A template found on a screen. -/
structure TemplateMatch where
  /-- Leftmost column. -/
  left : Nat
  /-- Topmost row. -/
  top : Nat
  /-- Score. -/
  score : Float32
  /-- Width of the template. -/
  width : Nat
  /-- Height of the template. -/
  height : Nat

namespace TemplateMatch

/-- The place in the middle of the template. -/
def center (m : TemplateMatch) : Point :=
  ⟨Int32.ofNat (m.left + m.width / 2), Int32.ofNat (m.top + m.height / 2)⟩

end TemplateMatch

namespace VisionSettings

/-- The sizes at which templates are tried: the positive ones, or the full size if there
are none. -/
def sizes (v : VisionSettings) : List Float32 :=
  match v.scales.filter fun s => 0 < s with
  | [] => [1]
  | sizes => sizes

/-- The greatest number of hits, one at least. -/
def hitLimit (v : VisionSettings) : UInt64 := max 1 v.maxMatches

/-- The shorter side of a shrunk template has this length at least. -/
def leastCoarseSide : Nat := 8

/-- By how much a template and its screen are shrunk for the first search. -/
def factorFor (v : VisionSettings) (template : GreyPicture) : Nat :=
  max 1 (min v.coarseFactor.toNat (min template.width template.height / leastCoarseSide))

/-- By how much a score on a shrunk screen may stay below the one that is wanted. -/
def coarseSlack : Float32 := 0.2

/-- A template at a size, unless it becomes too small. -/
def scaled? (template : GreyPicture) (size : Float32) : Option GreyPicture :=
  if (size - 1).abs < 1.1920929e-7 then some template
  else
    let w := (Float32.ofNat template.width * size).round.toUInt32.toNat
    let h := (Float32.ofNat template.height * size).round.toUInt32.toNat
    if w ≤ 1 ∨ h ≤ 1 then none else some (Scaling.resize template w h)

/-- A template at all sizes. -/
def scaledTemplates (v : VisionSettings) (template : GreyPicture) : List GreyPicture :=
  v.sizes.filterMap (scaled? template)

end VisionSettings

namespace TemplateMatch

/-- The part of a line of screen cells in which a template is looked for around a place: its first
cell and the cell behind its last one. -/
def window (approx side margin size : Nat) : Nat × Nat :=
  (approx - margin, min (approx + side + margin) size)

/-- Determines place and score near a place that was found on a shrunk screen. -/
def refine (correlate : Correlation) (screen template : GreyPicture) (x y factor : Nat) :
    Option TemplateMatch :=
  let (x0, x1) := window x template.width (factor * 2) screen.width
  let (y0, y1) := window y template.height (factor * 2) screen.height
  if x1 < x0 + template.width ∨ y1 < y0 + template.height then none
  else
    let part := screen.crop x0 y0 (x1 - x0) (y1 - y0) 0
    match (correlate part template).summit with
    | some p =>
      if p.score.isFinite then some ⟨x0 + p.x, y0 + p.y, p.score, template.width, template.height⟩
      else none
    | none => none

/-- The hits of a template of one size whose scores are not below a bound. -/
def search (correlate : Correlation) (v : VisionSettings) (screen template : GreyPicture)
    (least : Float32) (limit : Nat) : List TemplateMatch :=
  if screen.width < template.width ∨ screen.height < template.height then []
  else
    let factor := v.factorFor template
    if factor = 1 then
      (Peak.best (correlate screen template) least limit v.dedupeRadius.toNat).map fun p =>
        ⟨p.x, p.y, p.score, template.width, template.height⟩
    else
      let smallTemplate := Scaling.shrink template factor
      let smallScreen := Scaling.shrink screen factor
      if smallScreen.width < smallTemplate.width ∨ smallScreen.height < smallTemplate.height then []
      else
        let peaks := Peak.best (correlate smallScreen smallTemplate)
          (least - VisionSettings.coarseSlack) limit (max 1 (v.dedupeRadius.toNat / factor))
        (peaks.filterMap fun p =>
          refine correlate screen template (p.x * factor) (p.y * factor) factor).filter
            fun m => least ≤ m.score

/-- The number of peaks of a shrunk screen that are looked at for the best hit. -/
def bestPeaks : Nat := 3

/-- The better of the best hit so far and the next one. -/
def better (best : Option TemplateMatch) (m : TemplateMatch) : Option TemplateMatch :=
  match best with
  | none => some m
  | some b => if b.score < m.score then some m else some b

/-- The best hit of a template at any size. -/
def bestOf (correlate : Correlation) (v : VisionSettings) (screen template : GreyPicture) :
    Option TemplateMatch :=
  (v.scaledTemplates template).foldl (fun best t =>
    (search correlate v screen t (-1 / 0) bestPeaks).foldl better best) none

/-- Where the best hit is, if its score is not below a threshold. -/
def find (correlate : Correlation) (v : VisionSettings) (screen template : GreyPicture)
    (threshold : Float32) : Option Point :=
  ((bestOf correlate v screen template).filter fun m => threshold ≤ m.score).map center

/-- The distance of two coordinates. -/
def apart (a b : Int32) : Int32 := (a - b).abs

/-- Whether a place is near one of some others. -/
def nearAny (radius : UInt32) (p : Point) (others : List Point) : Bool :=
  let r := Int32.ofNat radius.toNat
  others.any fun o => apart p.x o.x < r && apart p.y o.y < r

/-- Takes the centres of hits one by one unless they are near one taken before, until there are
enough; `kept` holds those taken before, the last one first. -/
def thin (radius : UInt32) (limit : Nat) (kept : List Point) : List TemplateMatch → List Point
  | [] => kept
  | m :: rest =>
    if nearAny radius m.center kept then thin radius limit kept rest
    else if limit ≤ kept.length + 1 then m.center :: kept
    else thin radius limit (m.center :: kept) rest

/-- The hits at all sizes, by falling score. -/
def candidates (correlate : Correlation) (v : VisionSettings) (screen template : GreyPicture)
    (threshold : Float32) : List TemplateMatch :=
  ((v.scaledTemplates template).flatMap fun t =>
    search correlate v screen t threshold (v.hitLimit * 4).toNat).mergeSort
      fun a b => scoreRank b.score ≤ scoreRank a.score

/-- From top to bottom, and from left to right. -/
def readingOrder (p q : Point) : Bool :=
  p.y < q.y || (p.y == q.y && p.x ≤ q.x)

/-- Where all hits are, near ones counted once, from top to bottom and from left to right. -/
def findAll (correlate : Correlation) (v : VisionSettings) (screen template : GreyPicture)
    (threshold : Float32) : List Point :=
  let found := thin v.dedupeRadius v.hitLimit.toNat []
    (candidates correlate v screen template threshold)
  found.reverse.mergeSort readingOrder

end TemplateMatch

end Autoplay
