/-!
# The shortest decimal that reads back

A binary floating-point number is shown by the decimal with the fewest digits among those that round
to it, and of these by the nearest one, the even one on a tie. The number is `m * 2^q`; the decimals
that round to it fill an interval around it, ends included exactly when `m` is even. For one, two,
three … digits the two neighbours of the number on the decimal grid are tested in exact arithmetic,
and the first grid with a hit decides.
-/

namespace Autoplay.Decimal

/-- A positive binary floating-point number `m * 2^q`. -/
structure Binary where
  /-- The significand. -/
  m : Nat
  /-- The exponent of its last bit. -/
  q : Int
  /-- Whether the next smaller number is only half a unit away: the least significand of
  a binade. -/
  edge : Bool

/-- The decimal `coefficient * 10^exponent`. -/
structure Scaled where
  /-- The digits, as one number. -/
  coefficient : Nat
  /-- The exponent of the last digit. -/
  exponent : Int
deriving Repr, DecidableEq

namespace Scaled

/-- Drops up to `n` trailing zeros of the coefficient. -/
def stripZeros : Nat → Scaled → Scaled
  | 0, d => d
  | n + 1, d =>
    if d.coefficient ≠ 0 ∧ d.coefficient % 10 = 0 then
      stripZeros n ⟨d.coefficient / 10, d.exponent + 1⟩
    else d

end Scaled

namespace Binary

/-- The least `j` from `start` on, among `budget` values, for which `num * 10^j` reaches `den`. -/
def firstPower (num den : Nat) : Nat → Nat → Nat
  | 0, start => start
  | budget + 1, start =>
    if num * Nat.pow 10 start ≥ den then start else firstPower num den budget (start + 1)

/-- The exponent of the leading decimal digit: `10^x ≤ m * 2^q < 10^(x+1)`. -/
def leading (b : Binary) : Int :=
  let num := b.m * Nat.pow 2 b.q.toNat
  let den := Nat.pow 2 (-b.q).toNat
  if num ≥ den then (Nat.toDigits 10 (num / den)).length - 1
  else -(firstPower num den 400 1 : Nat)

/-- The decimal on the grid of `10^k` that rounds to the number: the nearer one if both neighbours
do, the even one if they are equally near. -/
def onGrid (b : Binary) (k : Int) : Option Scaled :=
  let two := Nat.pow 2 b.q.toNat
  let ten := Nat.pow 10 (-k).toNat
  let unit := 4 * Nat.pow 10 k.toNat * Nat.pow 2 (-b.q).toNat
  let centre := 4 * b.m * two * ten
  let low := (if b.edge then 4 * b.m - 1 else 4 * b.m - 2) * two * ten
  let high := (4 * b.m + 2) * two * ten
  let closed := b.m % 2 = 0
  let below := centre / unit
  let above := below + 1
  let belowHits := low < below * unit ∨ (closed ∧ low = below * unit)
  let aboveHits := above * unit < high ∨ (closed ∧ above * unit = high)
  if belowHits ∧ below ≠ 0 then
    let down := centre - below * unit
    let up := above * unit - centre
    if aboveHits ∧ (up < down ∨ (up = down ∧ below % 2 = 1)) then some ⟨above, k⟩
    else some ⟨below, k⟩
  else if aboveHits then some ⟨above, k⟩
  else none

/-- Tests the grids of `n`, `n + 1`, … digits, `budget` of them. -/
def firstGrid (b : Binary) (x : Int) : Nat → Nat → Scaled
  | 0, _ => ⟨b.m, b.q⟩
  | budget + 1, n =>
    match b.onGrid (x - n + 1) with
    | some d => d
    | none => firstGrid b x budget (n + 1)

/-- The shortest decimal that rounds to the number. Seventeen digits always suffice. -/
def shortest (b : Binary) : Scaled :=
  (b.firstGrid b.leading 17 1).stripZeros 20

end Binary

/-- A floating-point number as its sign and its size. -/
inductive Magnitude where
  /-- Not a number. -/
  | nan
  /-- Infinity. -/
  | infinite
  /-- Zero. -/
  | zero
  /-- A positive number. -/
  | finite (b : Binary)

/-- Decodes a bit pattern with `p` stored significand bits and `w` exponent bits. -/
def decode (p w : Nat) (bits : Nat) : Bool × Magnitude :=
  let sign := bits / Nat.pow 2 (p + w) % 2 = 1
  let field := bits / Nat.pow 2 p % Nat.pow 2 w
  let fraction := bits % Nat.pow 2 p
  let bias : Int := Nat.pow 2 (w - 1) - 1 + p
  (sign,
    if field = Nat.pow 2 w - 1 then (if fraction = 0 then .infinite else .nan)
    else if field = 0 then
      (if fraction = 0 then .zero else .finite ⟨fraction, 1 - bias, false⟩)
    else .finite ⟨fraction + Nat.pow 2 p, field - bias, fraction = 0 ∧ field ≠ 1⟩)

/-- The sign and size of a number in double precision. -/
def ofFloat (x : Float) : Bool × Magnitude := decode 52 11 x.toBits.toNat

/-- The sign and size of a number in single precision. -/
def ofFloat32 (x : Float32) : Bool × Magnitude := decode 23 8 x.toBits.toNat

end Autoplay.Decimal
