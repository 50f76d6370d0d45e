/-!
# Rounding a quotient

Quotients of natural numbers rounded to the nearest whole number, a tie going to the even neighbour.
Main statement: the result is within half a unit of the quotient.
-/

namespace Autoplay.Decimal

/-- `num / den` rounded to the nearest whole number, a tie to the even one. -/
def roundHalfEven (num den : Nat) : Nat :=
  let below := num / den
  let rest := num % den
  if 2 * rest > den ∨ (2 * rest = den ∧ below % 2 = 1) then below + 1 else below

/-- Nothing is rounded to nothing. -/
theorem roundHalfEven_zero (den : Nat) : roundHalfEven 0 den = 0 := by
  unfold roundHalfEven
  rw [Nat.zero_div, Nat.zero_mod]
  dsimp only
  rw [if_neg (by omega)]

/-- The rounded quotient is at most half a unit above. -/
theorem roundHalfEven_upper {num den : Nat} (h : 0 < den) :
    2 * (roundHalfEven num den * den) ≤ 2 * num + den := by
  have hdiv := Nat.div_add_mod num den
  have hc : den * (num / den) = num / den * den := Nat.mul_comm ..
  have hlt := Nat.mod_lt num h
  unfold roundHalfEven
  dsimp only
  split
  · rw [Nat.add_mul]; omega
  · omega

/-- The rounded quotient is at most half a unit below. -/
theorem roundHalfEven_lower {num den : Nat} (h : 0 < den) :
    2 * num ≤ 2 * (roundHalfEven num den * den) + den := by
  have hdiv := Nat.div_add_mod num den
  have hc : den * (num / den) = num / den * den := Nat.mul_comm ..
  have hlt := Nat.mod_lt num h
  unfold roundHalfEven
  dsimp only
  split
  · rw [Nat.add_mul]; omega
  · omega

end Autoplay.Decimal
