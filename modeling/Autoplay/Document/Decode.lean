import Autoplay.Calendar
import Autoplay.Document.Basic
import Autoplay.Text.Quoted

/-!
# Reading typed values out of a document

A decoder accepts the documents of one type and says of any other what is wrong with it. The fields
of a record are tested in the order of the document, so that the first faulty one is reported, and a
missing field is noticed only when all present ones are sound. Where it is allowed, a record may
also be written as the list of its fields in order.
-/

namespace Autoplay

/-- What is wrong with a document. -/
inductive Mismatch where
  /-- A value of another type. -/
  | wrongType (found : Document) (expected : String)
  /-- A value of the right type that is not allowed. -/
  | wrongValue (found : Document) (expected : String)
  /-- A list with another number of items. -/
  | wrongLength (length : Nat) (expected : String)
  /-- A field that has to be there. -/
  | missing (field : String)
  /-- A name that is none of the known ones. -/
  | unknownName (name : String) (known : List String)
  /-- A text that is not a moment. -/
  | notAMoment (reason : Moment.ReadError)

namespace Mismatch

/-- A document as a message names it; `number` spells floating-point numbers. -/
def describe (number : Float → String) : Document → String
  | .null => "null"
  | .bool b => "boolean `" ++ (if b then "true" else "false") ++ "`"
  | .integer n => "integer `" ++ toString n ++ "`"
  | .float x => "floating point `" ++ number x ++ "`"
  | .single x => "floating point `" ++ number x.toFloat ++ "`"
  | .text s => "string " ++ Text.quoted s
  | .list _ => "sequence"
  | .record _ => "map"

/-- The names that were expected: two are joined by `or`, more are listed. -/
def alternatives : List String → String
  | [] => ", there are no variants"
  | [a] => ", expected `" ++ a ++ "`"
  | [a, b] => ", expected `" ++ a ++ "` or `" ++ b ++ "`"
  | names => ", expected one of " ++ ", ".intercalate (names.map fun a => "`" ++ a ++ "`")

/-- The wording of a mismatch; `number` spells floating-point numbers. -/
def message (number : Float → String) : Mismatch → String
  | .wrongType d expected => "invalid type: " ++ describe number d ++ ", expected " ++ expected
  | .wrongValue d expected => "invalid value: " ++ describe number d ++ ", expected " ++ expected
  | .wrongLength n expected => "invalid length " ++ toString n ++ ", expected " ++ expected
  | .missing field => "missing field `" ++ field ++ "`"
  | .unknownName name known => "unknown variant `" ++ name ++ "`" ++ alternatives known
  | .notAMoment reason => reason.message

end Mismatch

/-- Reads a value of one type out of a document. -/
abbrev Decoder (α : Type) := Document → Except Mismatch α

namespace Decoder

/-- A whole number between two bounds, both included. -/
def integer (low high : Int) (expected : String) : Decoder Int
  | .integer n => if low ≤ n ∧ n ≤ high then .ok n else .error (.wrongValue (.integer n) expected)
  | d => .error (.wrongType d expected)

/-- A whole number of 32 bits with a sign. -/
def int32 : Decoder Int32 := fun d =>
  (integer (-2147483648) 2147483647 "i32" d).map Int32.ofInt

/-- A whole number of 64 bits with a sign. -/
def int64 : Decoder Int64 := fun d =>
  (integer (-9223372036854775808) 9223372036854775807 "i64" d).map Int64.ofInt

/-- A natural number of 8 bits. -/
def uint8 : Decoder UInt8 := fun d => (integer 0 255 "u8" d).map fun n => UInt8.ofNat n.toNat

/-- A natural number of 32 bits. -/
def uint32 : Decoder UInt32 := fun d =>
  (integer 0 4294967295 "u32" d).map fun n => UInt32.ofNat n.toNat

/-- A natural number of 64 bits. -/
def uint64 : Decoder UInt64 := fun d =>
  (integer 0 18446744073709551615 "u64" d).map fun n => UInt64.ofNat n.toNat

/-- The number of an item, or a number of items. -/
def index : Decoder UInt64 := fun d =>
  (integer 0 18446744073709551615 "usize" d).map fun n => UInt64.ofNat n.toNat

/-- A number in double precision. -/
def float64 : Decoder Float
  | .float x => .ok x
  | .single x => .ok x.toFloat
  | .integer n => .ok (Float.ofInt n)
  | d => .error (.wrongType d "f64")

/-- The nearest number in single precision; what is too large for it becomes infinite. -/
def narrow (x : Float) : Float32 :=
  match x.toModel.unpack with
  | .finite sign mantissa exponent _ => .ofModel (.pack (.round .binary32 sign mantissa exponent))
  | y => .ofModel (.pack y)

/-- A number in single precision. -/
def float32 : Decoder Float32
  | .float x => .ok (narrow x)
  | .single x => .ok x
  | .integer n => .ok (Float32.ofInt n)
  | d => .error (.wrongType d "f32")

/-- A truth value. -/
def bool : Decoder Bool
  | .bool b => .ok b
  | d => .error (.wrongType d "a boolean")

/-- A text. -/
def text : Decoder String
  | .text s => .ok s
  | d => .error (.wrongType d "a string")

/-- A text that names a file. -/
def path : Decoder String
  | .text s => .ok s
  | d => .error (.wrongType d "path string")

/-- A moment. -/
def moment : Decoder Moment
  | .text s =>
    match Moment.ofText s with
    | .ok m => .ok m
    | .error e => .error (.notAMoment e)
  | d => .error (.wrongType d "a formatted date and time string")

/-- A value that may be left out. -/
def option {α : Type} (item : Decoder α) : Decoder (Option α)
  | .null => .ok none
  | d => (item d).map some

/-- The items of a list, the first faulty one being reported. -/
def items {α : Type} (item : Decoder α) : List Document → Except Mismatch (List α)
  | [] => .ok []
  | d :: rest =>
    match item d with
    | .error e => .error e
    | .ok a => (items item rest).map (a :: ·)

/-- A list of values of one type. -/
def list {α : Type} (item : Decoder α) : Decoder (List α)
  | .list ds => items item ds
  | d => .error (.wrongType d "a sequence")

end Decoder

/-- The fields of a record under reading. -/
abbrev Fields := List (String × Document)

namespace Fields

/-- A field that is known, and the test that its value has to pass. -/
structure Test where
  /-- Name of the field. -/
  name : String
  /-- The test. -/
  accepts : Decoder Unit

/-- The test that a decoder accepts a field. -/
def Test.of {α : Type} (name : String) (decoder : Decoder α) : Test :=
  ⟨name, fun d => (decoder d).map fun _ => ()⟩

/-- The test of a field by its name, if the field is known. -/
def findTest (name : String) : List Test → Option (Decoder Unit)
  | [] => none
  | t :: rest => if t.name = name then some t.accepts else findTest name rest

/-- Tests the known fields in the order of the document; fields that are not known do not matter. -/
def check (tests : List Test) : Fields → Except Mismatch Unit
  | [] => .ok ()
  | (name, value) :: rest =>
    match findTest name tests with
    | none => check tests rest
    | some decoder =>
      match decoder value with
      | .error e => .error e
      | .ok () => check tests rest

/-- A field with the value that it has when it is missing. -/
def withDefault {α : Type} (fields : Fields) (name : String) (decoder : Decoder α) (default : α) :
    Except Mismatch α :=
  match Document.lookup name fields with
  | none => .ok default
  | some d => decoder d

/-- A field that has to be there. -/
def required {α : Type} (fields : Fields) (name : String) (decoder : Decoder α) :
    Except Mismatch α :=
  match Document.lookup name fields with
  | none => .error (.missing name)
  | some d => decoder d

/-- The fields of a record written as a list: each item belongs to the name at its place. -/
def positional (names : List String) (items : List Document) : Fields :=
  names.zip items

end Fields

end Autoplay
