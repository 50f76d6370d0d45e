import Autoplay.Vision.Search

/-!
# Finding templates by their paths

Templates are pictures in files, of which each is read once and then remembered.
-/

namespace Autoplay

/-- What finds templates. -/
structure Matcher where
  /-- The settings. -/
  settings : VisionSettings := {}
  /-- The templates that were read. -/
  remembered : List (String × GreyPicture) := []

namespace Matcher

/-- The wording of a failure to read a template. -/
def unreadable (path : String) : String := "模板读取失败: " ++ path

/-- The template of a path; `album` gives the pictures that can be read. -/
def template (m : Matcher) (album : String → Option GreyPicture) (path : String) :
    Except String GreyPicture × Matcher :=
  match m.remembered.lookup path with
  | some t => (.ok t, m)
  | none =>
    match album path with
    | some t => (.ok t, { m with remembered := (path, t) :: m.remembered })
    | none => (.error (unreadable path), m)

/-- The best hit of a template on a screen. -/
def find (m : Matcher) (album : String → Option GreyPicture) (screen : Picture) (path : String)
    (threshold : Float32) : Except String (Option Point) × Matcher :=
  let (t, m) := m.template album path
  (t.map fun t => TemplateMatch.find Correlation.normalized m.settings screen.grey t threshold, m)

/-- All hits of a template on a screen. -/
def findAll (m : Matcher) (album : String → Option GreyPicture) (screen : Picture) (path : String)
    (threshold : Float32) : Except String (List Point) × Matcher :=
  let (t, m) := m.template album path
  (t.map fun t => TemplateMatch.findAll Correlation.normalized m.settings screen.grey t threshold,
    m)

end Matcher

end Autoplay
