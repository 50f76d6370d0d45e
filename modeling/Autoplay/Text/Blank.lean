/-!
# Blank characters

The Unicode property White_Space, the text left of a string when the blanks around it are dropped,
and the words between the blanks.
-/

namespace Autoplay.Text

/-- The Unicode property White_Space. -/
def isBlank (c : Char) : Bool :=
  let n := c.toNat
  (9 ≤ n && n ≤ 13) || n == 0x20 || n == 0x85 || n == 0xA0 || n == 0x1680
    || (0x2000 ≤ n && n ≤ 0x200A) || n == 0x2028 || n == 0x2029 || n == 0x202F || n == 0x205F
    || n == 0x3000

/-- The characters left when the blanks in front are dropped. -/
def trimStart (s : List Char) : List Char :=
  s.dropWhile isBlank

/-- The characters left when the blanks at the end are dropped. -/
def trimEnd (s : List Char) : List Char :=
  (s.reverse.dropWhile isBlank).reverse

/-- The text left when the blanks at both ends are dropped. -/
def trim (s : String) : String :=
  String.ofList (trimEnd (trimStart s.toList))

/-- A text is blank when it holds nothing but blanks. -/
def allBlank (s : String) : Bool :=
  s.toList.all isBlank

/-- The words of `s`, where `word` holds the characters of the word under way, last one first. -/
def wordsAfter (word : List Char) : List Char → List (List Char)
  | [] => if word.isEmpty then [] else [word.reverse]
  | c :: rest =>
    if isBlank c then
      if word.isEmpty then wordsAfter [] rest else word.reverse :: wordsAfter [] rest
    else wordsAfter (c :: word) rest

/-- The words of a text: its longest runs of characters that are not blank. -/
def words (s : String) : List String :=
  (wordsAfter [] s.toList).map String.ofList

end Autoplay.Text
