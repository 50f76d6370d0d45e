/-!
# Parts of texts

Whether one text stands somewhere in another one.
-/

namespace Autoplay.Text

/-- Whether one text stands somewhere in the other. -/
def isPart (part : List Char) : List Char → Bool
  | [] => part.isEmpty
  | c :: whole => part.isPrefixOf (c :: whole) || isPart part whole

end Autoplay.Text
