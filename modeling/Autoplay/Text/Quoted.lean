import Autoplay.Text.Ranges
import Autoplay.Text.Table.Display

/-!
# Text quoted in a message

A message shows a piece of text between double quotes. Quotes and backslashes are escaped, the usual
controls have names, and a character that could not be seen is spelled out by its code point.
-/

namespace Autoplay.Text

/-- The property Grapheme_Extend. -/
def graphemeExtend : Ranges := Ranges.ofText Table.graphemeExtend

/-- The characters without a visible form. -/
def invisible : Ranges := Ranges.ofText Table.invisible

/-- A character spelled out by its code point in lowercase hexadecimal. -/
def spellOut (c : Char) : List Char :=
  '\\' :: 'u' :: Char.ofNat 0x7B :: (Nat.toDigits 16 c.toNat ++ [Char.ofNat 0x7D])

/-- One character as it stands between the quotes. -/
def quoteChar (c : Char) : List Char :=
  if c = '"' then ['\\', '"']
  else if c = '\\' then ['\\', '\\']
  else if c = '\n' then ['\\', 'n']
  else if c = '\r' then ['\\', 'r']
  else if c = '\t' then ['\\', 't']
  else if c.toNat = 0 then ['\\', '0']
  else if 0x20 ≤ c.toNat ∧ c.toNat < 0x7F then [c]
  else if graphemeExtend.contains c || invisible.contains c then spellOut c
  else [c]

/-- A text between double quotes. -/
def quoted (s : String) : String :=
  String.ofList ('"' :: (s.toList.flatMap quoteChar ++ ['"']))

end Autoplay.Text
