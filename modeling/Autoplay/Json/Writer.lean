import Autoplay.Decimal.Notation
import Autoplay.Document.Basic

/-!
# Writing JSON

The shortest JSON text of a document: no blanks, fields in the order of the document, and only those
characters escaped that have to be. A number that is not finite is written as `null`.
-/

namespace Autoplay.Json

/-- A hexadecimal digit. -/
def hexChar (n : Nat) : Char :=
  if n < 10 then Char.ofNat (48 + n) else Char.ofNat (87 + n)

/-- One character as it stands between the quotes. -/
def escape (c : Char) : List Char :=
  if c = '"' then ['\\', '"']
  else if c = '\\' then ['\\', '\\']
  else if c = '\n' then ['\\', 'n']
  else if c = '\r' then ['\\', 'r']
  else if c = '\t' then ['\\', 't']
  else if c.toNat = 8 then ['\\', 'b']
  else if c.toNat = 12 then ['\\', 'f']
  else if c.toNat < 0x20 then ['\\', 'u', '0', '0', hexChar (c.toNat / 16), hexChar (c.toNat % 16)]
  else [c]

/-- A text between quotes. -/
def writeText (s : String) : List Char :=
  '"' :: (s.toList.flatMap escape ++ ['"'])

/-- A number in double precision. -/
def writeFloat (x : Float) : List Char :=
  if x.isFinite then (Decimal.data x).toList else ['n', 'u', 'l', 'l']

/-- A number in single precision. -/
def writeSingle (x : Float32) : List Char :=
  if x.isFinite then (Decimal.data32 x).toList else ['n', 'u', 'l', 'l']

mutual

/-- The characters of a document. -/
def writeChars : Document → List Char
  | .null => ['n', 'u', 'l', 'l']
  | .bool b => if b then ['t', 'r', 'u', 'e'] else ['f', 'a', 'l', 's', 'e']
  | .integer n => (toString n).toList
  | .float x => writeFloat x
  | .single x => writeSingle x
  | .text s => writeText s
  | .list [] => ['[', ']']
  | .list (d :: rest) => '[' :: (writeChars d ++ writeItems rest)
  | .record [] => [Char.ofNat 0x7B, Char.ofNat 0x7D]
  | .record ((name, d) :: rest) =>
    Char.ofNat 0x7B :: (writeText name ++ ':' :: (writeChars d ++ writeFields rest))

/-- The characters from behind an item to the end of its list. -/
def writeItems : List Document → List Char
  | [] => [']']
  | d :: rest => ',' :: (writeChars d ++ writeItems rest)

/-- The characters from behind a field to the end of its record. -/
def writeFields : List (String × Document) → List Char
  | [] => [Char.ofNat 0x7D]
  | (name, d) :: rest => ',' :: (writeText name ++ ':' :: (writeChars d ++ writeFields rest))

end

/-- The JSON text of a document. -/
def write (d : Document) : String :=
  String.ofList (writeChars d)

end Autoplay.Json
