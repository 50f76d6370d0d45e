import Autoplay.Decimal.Shortest

/-!
# Numbers in decimal notation

How a number is written once its digits are chosen. Three spellings are in use. *Plain*: positional
at any size, no point in a whole number. *Pointed*: plain, with `.0` behind a whole number. *Data*:
positional with a point for exponents from -5 to 15, otherwise scientific with a signed exponent of
at least two digits; this is the spelling of JSON documents and of messages about them.
-/

namespace Autoplay.Decimal

/-- The digits of a decimal number. -/
def digits (n : Nat) : String :=
  String.ofList (Nat.toDigits 10 n)

/-- `n` in at least `width` digits, filled with zeros in front. -/
def padded (width n : Nat) : String :=
  let ds := Nat.toDigits 10 n
  String.ofList (List.replicate (width - ds.length) '0' ++ ds)

/-- Positional notation of `coefficient * 10^exponent`, with no point if it is a whole number. -/
def positional (d : Scaled) : String :=
  let ds := Nat.toDigits 10 d.coefficient
  if 0 ≤ d.exponent then
    String.ofList (ds ++ List.replicate d.exponent.toNat '0')
  else
    let places := (-d.exponent).toNat
    let filled := List.replicate (places + 1 - ds.length) '0' ++ ds
    let whole := filled.length - places
    String.ofList (filled.take whole ++ '.' :: filled.drop whole)

/-- Scientific notation: one digit, the others behind a point, and the exponent. -/
def scientific (d : Scaled) : String :=
  let ds := Nat.toDigits 10 d.coefficient
  let x : Int := d.exponent + (ds.length - 1 : Nat)
  let mantissa :=
    match ds with
    | [] => []
    | [c] => [c]
    | c :: rest => c :: '.' :: rest
  String.ofList mantissa ++ (if x < 0 then "e-" else "e+") ++ padded 2 x.natAbs

/-- Places `.0` behind a whole number. -/
def withPoint (d : Scaled) : String :=
  if 0 ≤ d.exponent then positional d ++ ".0" else positional d

/-- A minus sign in front, for negative numbers. -/
def signed (negative : Bool) (text : String) : String :=
  if negative then "-" ++ text else text

/-- The plain spelling. -/
def plainMagnitude (negative : Bool) : Magnitude → String
  | .nan => "NaN"
  | .infinite => signed negative "inf"
  | .zero => signed negative "0"
  | .finite b => signed negative (positional b.shortest)

/-- The pointed spelling. -/
def pointedMagnitude (negative : Bool) : Magnitude → String
  | .nan => "NaN"
  | .infinite => signed negative "inf"
  | .zero => signed negative "0.0"
  | .finite b => signed negative (withPoint b.shortest)

/-- The data spelling. -/
def dataMagnitude (negative : Bool) : Magnitude → String
  | .nan => "NaN"
  | .infinite => signed negative "inf"
  | .zero => signed negative "0.0"
  | .finite b =>
    let d := b.shortest
    let x : Int := d.exponent + ((Nat.toDigits 10 d.coefficient).length - 1 : Nat)
    signed negative (if -5 ≤ x ∧ x ≤ 15 then withPoint d else scientific d)

/-- The plain spelling of a number in single precision. -/
def plain32 (x : Float32) : String :=
  let (negative, size) := ofFloat32 x
  plainMagnitude negative size

/-- The pointed spelling of a number in double precision. -/
def pointed (x : Float) : String :=
  let (negative, size) := ofFloat x
  pointedMagnitude negative size

/-- The data spelling of a number in double precision. -/
def data (x : Float) : String :=
  let (negative, size) := ofFloat x
  dataMagnitude negative size

/-- The data spelling of a number in single precision. -/
def data32 (x : Float32) : String :=
  let (negative, size) := ofFloat32 x
  dataMagnitude negative size

end Autoplay.Decimal
