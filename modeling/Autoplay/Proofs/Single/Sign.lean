import Autoplay.Proofs.Single.Bits

/-!
# Numbers without a negative sign

Sums, products, quotients and roots of numbers without a negative sign have none either, however
they are rounded (`Unsigned.add`, `Unsigned.mul`, `Unsigned.div`, `Unsigned.sqrt`). What is not a
number counts among them, since it is written with a positive sign.
-/

namespace Autoplay

open Float.Model (UnpackedFloat Format)
open Float.Model.UnpackedFloat (Sign Accuracy packComponents)

/-! ## Unpacked numbers -/

/-- A number without a negative sign. -/
inductive UnpackedUnsigned : UnpackedFloat → Prop
  /-- What is not a number. -/
  | notANumber : UnpackedUnsigned .notANumber
  /-- Infinity. -/
  | infinity : UnpackedUnsigned (.infinity .positive)
  /-- Zero. -/
  | zero : UnpackedUnsigned (.zero .positive)
  /-- A positive number. -/
  | finite (m : ℕ) (e : ℤ) (hm : 0 < m) : UnpackedUnsigned (.finite .positive m e hm)

namespace UnpackedUnsigned

variable {spec : Format} {x y : UnpackedFloat}

/-- Rounding keeps the sign. -/
theorem roundWithAccuracy (spec : Format) (m : ℕ) (e : ℤ) (accuracy : Accuracy) :
    UnpackedUnsigned (UnpackedFloat.roundWithAccuracy spec .positive m e accuracy) := by
  unfold UnpackedFloat.roundWithAccuracy
  dsimp only
  split_ifs
  · exact .zero
  · exact .finite ..

/-- What is rounded without being negative has no negative sign. -/
theorem normalize (spec : Format) {m : ℤ} (hm : 0 ≤ m) (e : ℤ) :
    UnpackedUnsigned (UnpackedFloat.normalize spec m e .positive) := by
  unfold UnpackedFloat.normalize
  split
  · rename_i hlt
    exact absurd (compare_lt_iff_lt.1 hlt) (not_lt.2 hm)
  · exact .zero
  · exact roundWithAccuracy ..

/-- Sums have no negative sign. -/
theorem add (hx : UnpackedUnsigned x) (hy : UnpackedUnsigned y) :
    UnpackedUnsigned (UnpackedFloat.add spec x y) := by
  cases hx <;> cases hy
  case finite.finite =>
    exact normalize spec (Int.add_nonneg (Int.natCast_nonneg _) (Int.natCast_nonneg _)) _
  all_goals constructor

/-- Products have no negative sign. -/
theorem mul (hx : UnpackedUnsigned x) (hy : UnpackedUnsigned y) :
    UnpackedUnsigned (UnpackedFloat.mul spec x y) := by
  cases hx <;> cases hy
  case finite.finite => exact roundWithAccuracy ..
  all_goals constructor

/-- Quotients have no negative sign. -/
theorem div (hx : UnpackedUnsigned x) (hy : UnpackedUnsigned y) :
    UnpackedUnsigned (UnpackedFloat.div spec x y) := by
  cases hx <;> cases hy
  case finite.finite => exact roundWithAccuracy ..
  all_goals constructor

/-- Roots have no negative sign. -/
theorem sqrt (hx : UnpackedUnsigned x) : UnpackedUnsigned (UnpackedFloat.sqrt spec x) := by
  cases hx
  case finite => exact roundWithAccuracy ..
  all_goals constructor

end UnpackedUnsigned

/-! ## Numbers in single precision -/

/-- A number in single precision whose uppermost bit is not set. -/
def Unsigned (x : Float32) : Prop := x.toBits.toNat < 2 ^ 31

namespace Unsigned

variable {x y : Float32}

/-- With a positive sign the uppermost bit is not set. -/
theorem packComponents_lt (e : BitVec 8) (m : BitVec 23) :
    (packComponents Format.binary32 .positive e m).toNat < 2 ^ 31 := by
  show ((0#1 ++ e) ++ m).toNat < 2 ^ 31
  rw [BitVec.toNat_append, BitVec.toNat_append, ← Nat.shiftLeft_add_eq_or_of_lt m.isLt,
    Nat.shiftLeft_eq]
  have he : 0 <<< 8 ||| e.toNat = e.toNat := by simp
  have hlt := e.isLt
  have hlt' := m.isLt
  rw [BitVec.toNat_zero, he]
  omega

/-- A number without a negative sign is packed into one. -/
theorem of_unpacked {u : UnpackedFloat} (h : UnpackedUnsigned u) :
    Unsigned ⟨Float32.Model.pack u⟩ := by
  show (UnpackedFloat.pack Format.binary32 u).toNat < 2 ^ 31
  cases h
  case finite m e hm =>
    unfold UnpackedFloat.pack
    dsimp only
    split_ifs <;> exact packComponents_lt ..
  all_goals exact packComponents_lt ..

/-- It is unpacked into one. -/
theorem unpack (h : Unsigned x) : UnpackedUnsigned x.toModel.unpack := by
  have hlt : x.toModel.toBits.toBitVec.toNat < 2 ^ 31 := h
  have hsign := ofBitVec_unpackSign x.toModel.toBits.toBitVec
  rw [if_pos hlt] at hsign
  unfold Float32.Model.unpack UnpackedFloat.unpack
  simp only [hsign]
  split_ifs <;> constructor

/-- Sums have no negative sign. -/
theorem add (hx : Unsigned x) (hy : Unsigned y) : Unsigned (x + y) :=
  of_unpacked (hx.unpack.add hy.unpack)

/-- Products have no negative sign. -/
theorem mul (hx : Unsigned x) (hy : Unsigned y) : Unsigned (x * y) :=
  of_unpacked (hx.unpack.mul hy.unpack)

/-- Quotients have no negative sign. -/
theorem div (hx : Unsigned x) (hy : Unsigned y) : Unsigned (x / y) :=
  of_unpacked (hx.unpack.div hy.unpack)

/-- Roots have no negative sign. -/
theorem sqrt (hx : Unsigned x) : Unsigned x.sqrt :=
  of_unpacked hx.unpack.sqrt

/-- Natural numbers have no negative sign. -/
theorem ofUInt8 (n : UInt8) : Unsigned n.toFloat32 :=
  of_unpacked (.normalize _ (Int.natCast_nonneg _) _)

end Unsigned

end Autoplay
