/-!
# Lines

The lines of a text. Each ends at a line feed; behind the last line feed there is only a line if
something is left.
-/

namespace Autoplay.Text

/-- The lines of `s`, where `line` holds the characters of the line under way, last one first. -/
def linesAfter (line : List Char) : List Char → List (List Char)
  | [] => if line.isEmpty then [] else [line.reverse]
  | c :: rest =>
    if c = '\n' then line.reverse :: linesAfter [] rest else linesAfter (c :: line) rest

/-- The lines of a text. -/
def lines (s : String) : List String :=
  (linesAfter [] s.toList).map String.ofList

end Autoplay.Text
