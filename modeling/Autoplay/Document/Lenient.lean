import Autoplay.Document.Basic

/-!
# Lenient reading

Parts of a document where what is missing, or of another kind than expected, counts as empty. This
is for descriptions that are written by hand for one purpose, not for files whose mistakes are to be
told.
-/

namespace Autoplay.Document

/-- A field, or nothing. -/
def get (d : Document) (name : String) : Document :=
  match d with
  | .record fields => (lookup name fields).getD .null
  | _ => .null

/-- The items of a list. -/
def items : Document → List Document
  | .list ds => ds
  | _ => []

/-- An item of a list, or nothing. -/
def item (d : Document) (i : Nat) : Document := d.items.getD i .null

/-- The fields of a record. -/
def fields : Document → List (String × Document)
  | .record fs => fs
  | _ => []

/-- A text, if there is one. -/
def str? : Document → Option String
  | .text s => some s
  | _ => none

/-- A text, or the empty one. -/
def str (d : Document) : String := d.str?.getD ""

/-- The texts of a list. -/
def strs (d : Document) : List String := d.items.map str

/-- A whole number, or zero. -/
def int : Document → Int
  | .integer n => n
  | _ => 0

/-- A whole number that is not negative, if there is one. -/
def nat? : Document → Option Nat
  | .integer n => some n.toNat
  | _ => none

/-- A whole number that is not negative, or zero. -/
def nat (d : Document) : Nat := d.nat?.getD 0

/-- A number, also one that has no notation and is given by its name, or zero. -/
def num : Document → Float
  | .integer n => Float.ofInt n
  | .float x => x
  | .text s =>
    if s = "inf" then 1.0 / 0.0 else if s = "-inf" then -1.0 / 0.0
    else if s = "nan" then 0.0 / 0.0 else 0.0
  | _ => 0

/-- A number in single precision, or the usual one. -/
def singleOr (usual : Float32) : Document → Float32
  | .null => usual
  | d => d.num.toFloat32

/-- A truth value, or false. -/
def flag : Document → Bool
  | .bool b => b
  | _ => false

/-- A whole number as a signed word. -/
def place (d : Document) : Int32 := Int32.ofInt d.int

/-- A whole number as a word. -/
def word (d : Document) : UInt32 := UInt32.ofNat d.nat

/-- A whole number as a byte. -/
def byte (d : Document) : UInt8 := UInt8.ofNat d.nat

end Autoplay.Document
