import Workbench.Decimal.Binary64
import Mathlib.Algebra.Order.Field.Rat
import Mathlib.Tactic.Positivity

/-!
# Values of doubles and scaling

A finite double stands for a rational number (`value?`), and doubles are ordered as these are
(`lt_eq_true_iff`). A product with a power of two is rounded like every other result, but there is
nothing to round: the significand stays as it is as long as the exponent stays in its range
(`scaleBy_of_normal`).
-/

namespace Workbench.Decimal.Binary64

/-- The rational number that a double stands for, if it is finite. -/
def value? : Binary64 → Option ℚ
  | .finite negative m e => some ((if negative then -1 else 1) * m * 2 ^ e)
  | _ => none

variable {negative : Bool} {m a b : Nat} {e k : Int} {x y : Binary64} {v w : ℚ}

/-! ## Powers of two -/

/-- Scaling moves the powers of two in a quotient. -/
theorem exists_scaled_eq (m a b : Nat) (e : Int) : ∃ a' b' : Nat,
    scaled (m * 2 ^ a) (2 ^ b) e = (m * 2 ^ a', 2 ^ b') ∧ (a' : Int) - b' = a - b - e := by
  rw [scaled]
  split
  · exact ⟨a, b + e.toNat, by rw [Nat.pow_eq, ← pow_add], by push_cast; omega⟩
  · exact ⟨a + (-e).toNat, b, by rw [Nat.pow_eq, Nat.mul_assoc, ← pow_add], by push_cast; omega⟩

/-- Scaling a mantissa of full length moves its highest bit. -/
theorem log2_mul_two_pow (low : 2 ^ 52 ≤ m) (high : m < 2 ^ 53) (a : Nat) :
    (m * 2 ^ a).log2 = 52 + a := by
  have positive : m * 2 ^ a ≠ 0 := Nat.mul_ne_zero (by omega) (by positivity)
  rw [Nat.log2_eq_iff positive, Nat.pow_add, show 52 + a + 1 = 53 + a by omega, Nat.pow_add]
  exact ⟨Nat.mul_le_mul_right _ low, Nat.mul_lt_mul_of_pos_right high (by positivity)⟩

/-- The exponent that fits a number with a significand of 53 bits is the one that it has. -/
theorem fittingExponent_mul_two_pow (low : 2 ^ 52 ≤ m) (high : m < 2 ^ 53)
    (least : leastExponent ≤ (a : Int) - b) :
    fittingExponent (m * 2 ^ a) (2 ^ b) = a - b := by
  rw [fittingExponent, log2_mul_two_pow low high, Nat.log2_two_pow]
  obtain ⟨a', b', same, between⟩ := exists_scaled_eq m a b (((52 + a : Nat) : Int) - b - 53)
  have above : a' = b' + 1 := by push_cast at between; omega
  have quotient : m * 2 ^ a' / 2 ^ b' = 2 * m := by
    rw [above, pow_succ', ← mul_assoc, Nat.mul_div_cancel _ (by positivity), mul_comm]
  have wide : Nat.pow 2 53 ≤ 2 * m := by
    rw [Nat.pow_eq]
    omega
  dsimp only
  rw [same]
  dsimp only
  rw [quotient, if_pos wide]
  push_cast
  omega

/-- A number with a significand of 53 bits and an exponent in the range is a double itself. -/
theorem ofRatio_mul_two_pow (negative : Bool) (low : 2 ^ 52 ≤ m) (high : m < 2 ^ 53)
    (least : leastExponent ≤ (a : Int) - b) (greatest : (a : Int) - b ≤ greatestExponent) :
    ofRatio negative (m * 2 ^ a) (2 ^ b) = .finite negative m (a - b) := by
  have nonzero : m * 2 ^ a ≠ 0 := Nat.mul_ne_zero (by omega) (by positivity)
  obtain ⟨a', b', same, between⟩ := exists_scaled_eq m a b ((a : Int) - b)
  obtain rfl : a' = b' := by omega
  have rounded : roundQuotient (m * 2 ^ a') (2 ^ a') = m := by
    have positive : 0 < 2 ^ a' := by positivity
    rw [roundQuotient, Nat.mul_mod_left, Nat.mul_div_cancel _ positive]
    exact if_pos positive
  have narrow : m ≠ Nat.pow 2 53 := by
    rw [Nat.pow_eq]
    omega
  rw [ofRatio, if_neg nonzero, fittingExponent_mul_two_pow low high least]
  dsimp only
  rw [same]
  dsimp only
  rw [rounded, if_neg narrow, if_neg (by omega)]

/-- **Scaling is exact** for a number with a significand of 53 bits, as long as the exponent stays
in its range. -/
theorem scaleBy_of_normal (negative : Bool) (low : 2 ^ 52 ≤ m) (high : m < 2 ^ 53)
    (least : leastExponent ≤ e + k) (greatest : e + k ≤ greatestExponent) :
    (finite negative m e).scaleBy k = .finite negative m (e + k) := by
  have nonzero : m ≠ 0 := by omega
  rw [leastExponent] at least
  rw [greatestExponent] at greatest
  obtain ⟨a, b, same, between⟩ := exists_scaled_eq m 0 0 (-(e + k))
  rw [pow_zero, Nat.mul_one] at same
  have exponent : (a : Int) - b = e + k := by push_cast at between; omega
  rw [scaleBy, if_neg nonzero]
  dsimp only
  rw [if_neg (by omega), if_neg (by omega), same]
  dsimp only
  rw [ofRatio_mul_two_pow negative low high (by rw [leastExponent]; omega)
    (by rw [greatestExponent]; omega), exponent]

/-! ## Order -/

/-- The value of a double is the quotient of its numerator and denominator. -/
theorem exists_ratio?_eq (h : x.value? = some v) :
    ∃ num den, x.ratio? = some (num, den) ∧ 0 < den ∧ v = num / den := by
  cases x with
  | nan => cases h
  | infinity negative => cases h
  | finite negative m e =>
    obtain rfl := Option.some.inj h
    obtain ⟨a, b, same, between⟩ := exists_scaled_eq m 0 0 (-e)
    rw [pow_zero, Nat.mul_one] at same
    have power : (2 : ℚ) ^ e = 2 ^ a / 2 ^ b := by
      rw [← zpow_natCast, ← zpow_natCast, ← zpow_sub₀ two_ne_zero]
      congr 1
      push_cast at between
      omega
    refine ⟨_, _, by rw [ratio?, same], by positivity, ?_⟩
    rw [power, ← mul_div_assoc]
    cases negative <;> simp

/-- Doubles are ordered as the numbers for which they stand. -/
theorem lt_eq_true_iff (hx : x.value? = some v) (hy : y.value? = some w) :
    x.lt y = true ↔ v < w := by
  obtain ⟨a, b, left, posb, rfl⟩ := exists_ratio?_eq hx
  obtain ⟨c, d, right, posd, rfl⟩ := exists_ratio?_eq hy
  cases x with
  | nan => cases hx
  | infinity negative => cases hx
  | finite negative m e =>
    cases y with
    | nan => cases hy
    | infinity negative' => cases hy
    | finite negative' n f =>
      rw [lt, left, right]
      dsimp only
      rw [decide_eq_true_iff, div_lt_div_iff₀ (by positivity) (by positivity)]
      exact_mod_cast Iff.rfl

end Workbench.Decimal.Binary64
