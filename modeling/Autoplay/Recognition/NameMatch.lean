import Autoplay.Recognition.Similarity
import Autoplay.Text.Blank
import Autoplay.Text.Compatibility
import Autoplay.Text.Lowercase
import Autoplay.Text.Part

/-!
# Finding a name in a recognised text

A list of names is compared with a text that was read from a screen, whose characters may be wrong,
missing or run together. Names are tried in their order, and the first one that is part of the text,
or of which the text is part, or that is similar enough, is the answer. Case, blanks and the width
of characters do not matter.
-/

namespace Autoplay.Recognition

/-- The characters that are compared: compatible forms are made equal, blanks are left out, and
letters are made small. -/
def normalized (s : String) : List Char :=
  let solid := (Text.compatibilityForm s).toList.filter fun c => !Text.isBlank c
  (Text.lowercase (String.ofList solid)).toList

/-- Whether one of two texts is part of the other; an empty one does not count. -/
def containsEither (a b : List Char) : Bool :=
  !a.isEmpty && !b.isEmpty && (Text.isPart b a || Text.isPart a b)

/-- The similarity that suffices when none is given. -/
def usualSimilarity : Float32 := 0.6

variable {K : Type} [NatCast K] [Sub K] [Div K] [LT K] [DecidableLT K] [LE K] [DecidableLE K]

/-- Whether a name is accepted for a text. -/
def accepts (text : List Char) (leastSimilarity : K) (name : List Char) : Bool :=
  !name.isEmpty && (containsEither text name || leastSimilarity ≤ similarity text name)

/-- The first of the names that is accepted; a blank text has none. -/
def findName (text : String) (names : List String) (leastSimilarity : K) : Option String :=
  if Text.allBlank text then none
  else
    let whole := normalized text
    names.find? fun name => accepts whole leastSimilarity (normalized name)

end Autoplay.Recognition
