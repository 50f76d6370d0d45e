import Mathlib
import Autoplay.Proofs.Single.Order

/-!
# The order of numbers by their bits

A number in single precision is kept as a sign, eight bits of exponent and 23 bits of mantissa. With
the sign put in front of the other bits, finite numbers are ordered as these integers are:
`single_le_iff` and `single_lt_iff`. Both zeros have the same place there.
-/

namespace Autoplay

open Float.Model (UnpackedFloat Format)
open Float.Model.UnpackedFloat (Sign unpackMantissa unpackExponent unpackSign)

/-! ## The parts of a number -/

/-- The mantissa is in the lowest bits. -/
theorem toNat_unpackMantissa (b : BitVec 32) :
    (@unpackMantissa Format.binary32 b).toNat = b.toNat % 2 ^ 23 := by
  simp [unpackMantissa]

/-- The exponent is in the bits above. -/
theorem toNat_unpackExponent (b : BitVec 32) :
    (@unpackExponent Format.binary32 b).toNat = b.toNat / 2 ^ 23 % 2 ^ 8 := by
  simp [unpackExponent, Nat.shiftRight_eq_div_pow]

/-- The sign is the uppermost bit. -/
theorem ofBitVec_unpackSign (b : BitVec 32) :
    Sign.ofBitVec (@unpackSign Format.binary32 b) =
      if b.toNat < 2 ^ 31 then .positive else .negative := by
  have hlt : b.toNat < 2 ^ 32 := b.isLt
  have hbit : (@unpackSign Format.binary32 b).toNat = b.toNat / 2 ^ 31 % 2 := by
    simp [unpackSign, Nat.shiftRight_eq_div_pow]
  have hiff : @unpackSign Format.binary32 b = 0#1 ↔ b.toNat < 2 ^ 31 := by
    rw [← BitVec.toNat_inj, hbit, BitVec.toNat_zero]
    omega
  simp only [Sign.ofBitVec, hiff]

/-- The mantissa of a normal number has a one in front. -/
theorem toNat_one_append (m : BitVec 23) : (1#1 ++ m).toNat = 2 ^ 23 + m.toNat := by
  rw [BitVec.toNat_append, ← Nat.shiftLeft_add_eq_or_of_lt m.isLt]
  rfl

/-! ## The place of a number -/

/-- The bits of a number behind its sign. -/
def magnitude (x : Float32) : ℕ := x.toBits.toNat % 2 ^ 31

/-- The bits of a number behind its sign, below zero for negative numbers. -/
def signedMagnitude (x : Float32) : ℤ :=
  if x.toBits.toNat < 2 ^ 31 then magnitude x else -magnitude x

/-- Without the sign it is the magnitude. -/
theorem natAbs_signedMagnitude (x : Float32) : (signedMagnitude x).natAbs = magnitude x := by
  unfold signedMagnitude
  split_ifs
  · exact Int.natAbs_natCast _
  · rw [Int.natAbs_neg, Int.natAbs_natCast]

/-- The exponent that a magnitude stands for, up to a constant; subnormal numbers have that of the
least normal ones. -/
def exponentOf (n : ℕ) : ℕ := max 1 (n / 2 ^ 23)

/-- The mantissa that a magnitude stands for. -/
def mantissaOf (n : ℕ) : ℕ := n - (exponentOf n - 1) * 2 ^ 23

/-- The rank of the numbers with a signed magnitude. -/
def rankAt (l : ℤ) : ℤ ×ₗ ℤ ×ₗ ℤ :=
  if l = 0 then toLex (0, toLex (0, 0))
  else if 0 < l then
    toLex (1, toLex ((exponentOf l.natAbs : ℤ) - 150, (mantissaOf l.natAbs : ℤ)))
  else toLex (-1, toLex (150 - (exponentOf l.natAbs : ℤ), -(mantissaOf l.natAbs : ℤ)))

/-- Magnitudes are ordered by exponent, then by mantissa. -/
theorem lt_iff_exponentOf (m n : ℕ) :
    m < n ↔ exponentOf m < exponentOf n ∨
      exponentOf m = exponentOf n ∧ mantissaOf m < mantissaOf n := by
  unfold mantissaOf exponentOf
  omega

/-- A larger signed magnitude has a larger rank. -/
theorem rankAt_strictMono : StrictMono rankAt := by
  intro k l hkl
  have hpos := lt_iff_exponentOf k.natAbs l.natAbs
  have hneg := lt_iff_exponentOf l.natAbs k.natAbs
  unfold rankAt
  split_ifs <;> simp [Prod.Lex.toLex_lt_toLex] <;> omega

/-- The rank of a finite number is that of its signed magnitude. -/
theorem rank_of_isFinite {x : Float32} (h : x.isFinite = true) :
    rank x.toModel.unpack = some (rankAt (signedMagnitude x)) := by
  have hm := toNat_unpackMantissa x.toModel.toBits.toBitVec
  have he := toNat_unpackExponent x.toModel.toBits.toBitVec
  have hone := toNat_one_append (@unpackMantissa Format.binary32 x.toModel.toBits.toBitVec)
  have hbits : x.toModel.toBits.toBitVec.toNat = x.toBits.toNat := rfl
  have hlt := x.toBits.toNat_lt
  have hbias : Format.binary32.exponentBias = 127 := rfl
  have hall : (-1#8).toNat = 255 := rfl
  have hfinite : x.toModel.unpack.isFinite = true := h
  rw [hbits] at hm he
  revert hfinite
  unfold Float32.Model.unpack UnpackedFloat.unpack rankAt
  rw [natAbs_signedMagnitude]
  unfold signedMagnitude magnitude
  simp only [ofBitVec_unpackSign, hbits, ← BitVec.toNat_inj, hall, BitVec.toNat_zero]
  -- Of the cases, those in which the parts of the number do not fit its bits are contradictory.
  split_ifs <;> intro hfinite
  all_goals simp only [rank, UnpackedFloat.isFinite, mantissaOf, exponentOf, Option.some.injEq,
    toLex_inj, Prod.mk.injEq, reduceCtorEq, true_and] at hfinite ⊢
  all_goals omega

/-! ## The order -/

variable {x y : Float32}

/-- Finite numbers are ordered as their signed magnitudes are. -/
theorem single_le_iff (hx : x.isFinite = true) (hy : y.isFinite = true) :
    x ≤ y ↔ signedMagnitude x ≤ signedMagnitude y := by
  have hle : x ≤ y ↔ x.toModel.unpack.le y.toModel.unpack = true := decide_eq_true_iff
  rw [hle, le_iff_rank, rank_of_isFinite hx, rank_of_isFinite hy]
  simp [rankAt_strictMono.le_iff_le]

/-- Finite numbers are ordered strictly as their signed magnitudes are. -/
theorem single_lt_iff (hx : x.isFinite = true) (hy : y.isFinite = true) :
    x < y ↔ signedMagnitude x < signedMagnitude y := by
  have hlt : x < y ↔ x.toModel.unpack.lt y.toModel.unpack = true := decide_eq_true_iff
  rw [hlt, lt_iff_rank, rank_of_isFinite hx, rank_of_isFinite hy]
  simp [rankAt_strictMono.lt_iff_lt]

/-- No finite number is below minus infinity. -/
theorem neg_infinity_le (hx : x.isFinite = true) : (-1 / 0 : Float32) ≤ x := by
  have hle : (-1 / 0 : Float32) ≤ x ↔
      (-1 / 0 : Float32).toModel.unpack.le x.toModel.unpack = true := decide_eq_true_iff
  have hrank : rank (-1 / 0 : Float32).toModel.unpack = some (toLex (-2, toLex (0, 0))) := by
    decide +kernel
  rw [hle, le_iff_rank, hrank, rank_of_isFinite hx]
  refine ⟨_, rfl, _, rfl, ?_⟩
  unfold rankAt
  split_ifs <;> simp [Prod.Lex.toLex_le_toLex]

end Autoplay
