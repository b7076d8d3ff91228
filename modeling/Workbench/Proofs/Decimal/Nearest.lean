import Workbench.Decimal.Binary64
import Mathlib.Algebra.Order.Field.Power
import Mathlib.Algebra.Order.Field.Rat
import Mathlib.Tactic.FieldSimp
import Mathlib.Tactic.Linarith
import Mathlib.Tactic.NormNum
import Mathlib.Tactic.Positivity

/-!
# The nearest double

`ofRatio` rounds a quotient to the double that is nearest to it. The exponent that it chooses is the
only one that fits (`Fits.unique`), and the significand is the nearest integer to what is left. So
the result depends on the quotient alone, and a number that is much nearer to one double than the
next one is away is rounded to that (`ofRatio_of_near`).
-/

namespace Workbench.Decimal.Binary64

variable {negative : Bool} {num den n d c m : ℕ} {e e' : ℤ} {r : ℚ}

/-! ## Quotients -/

/-- Scaling divides by a power of two, and loses nothing. -/
theorem scaled_quotient (num den : ℕ) (e : ℤ) :
    ((scaled num den e).1 : ℚ) / (scaled num den e).2 = num / den / 2 ^ e := by
  rw [scaled]
  split
  · next nonneg =>
    obtain ⟨k, rfl⟩ := Int.eq_ofNat_of_zero_le nonneg
    rw [Int.toNat_natCast, Nat.pow_eq, zpow_natCast]
    push_cast
    rw [div_div]
  · next below =>
    obtain ⟨k, same⟩ := Int.eq_ofNat_of_zero_le (by omega : 0 ≤ -e)
    obtain rfl : e = -(k : ℤ) := by omega
    rw [neg_neg, Int.toNat_natCast, Nat.pow_eq, zpow_neg, zpow_natCast]
    push_cast
    rw [div_inv_eq_mul, div_mul_eq_mul_div]

theorem scaled_pos (positive : 0 < den) (num : ℕ) (e : ℤ) : 0 < (scaled num den e).2 := by
  rw [scaled]
  split
  · rw [Nat.pow_eq]
    positivity
  · exact positive

/-- The rounded quotient is one of the two neighbours. -/
theorem roundQuotient_cases (n d : ℕ) :
    roundQuotient n d = n / d ∨ roundQuotient n d = n / d + 1 := by
  rw [roundQuotient]
  split
  · exact .inl rfl
  · split
    · exact .inr rfl
    · omega

/-- The rounded quotient is at most half away. -/
theorem roundQuotient_near (positive : 0 < d) :
    2 * (roundQuotient n d * d) ≤ 2 * n + d ∧ 2 * n ≤ 2 * (roundQuotient n d * d) + d := by
  have parts : n / d * d + n % d = n := Nat.div_add_mod' n d
  have small : n % d < d := Nat.mod_lt n positive
  rw [roundQuotient]
  split
  · omega
  · split
    · rw [Nat.add_mul]
      omega
    · rcases Nat.mod_two_eq_zero_or_one (n / d) with even | odd
      · rw [even, Nat.add_zero]
        omega
      · rw [odd, Nat.add_mul]
        omega

/-- Rounding to an integer is off by one half at most. -/
theorem abs_roundQuotient_sub_le (positive : 0 < d) :
    |(roundQuotient n d : ℚ) - n / d| ≤ 1 / 2 := by
  have pos : (0 : ℚ) < d := by exact_mod_cast positive
  obtain ⟨low, high⟩ := roundQuotient_near (n := n) positive
  have low' : 2 * ((roundQuotient n d : ℚ) * d) ≤ 2 * n + d := by exact_mod_cast low
  have high' : 2 * (n : ℚ) ≤ 2 * ((roundQuotient n d : ℚ) * d) + d := by exact_mod_cast high
  rw [abs_le]
  constructor
  · rw [neg_le_sub_iff_le_add, div_le_iff₀ pos]
    linarith
  · rw [sub_le_iff_le_add, ← sub_le_iff_le_add', le_div_iff₀ pos]
    linarith

/-- An integer that is less than half away is the rounded quotient. -/
theorem roundQuotient_eq (positive : 0 < d) (near : |(c : ℚ) - n / d| < 1 / 2) :
    roundQuotient n d = c := by
  have half := abs_roundQuotient_sub_le (n := n) positive
  rw [abs_lt] at near
  rw [abs_le] at half
  have below : (roundQuotient n d : ℚ) < c + 1 := by linarith
  have above : (c : ℚ) < roundQuotient n d + 1 := by linarith
  have below' : roundQuotient n d < c + 1 := by exact_mod_cast below
  have above' : c < roundQuotient n d + 1 := by exact_mod_cast above
  omega

/-! ## The exponent that fits -/

/-- An exponent fits a number if it leaves a significand of 53 bits, or is the least one and leaves
a shorter significand. -/
structure Fits (r : ℚ) (e : ℤ) : Prop where
  least : leastExponent ≤ e
  low : 2 ^ 52 * 2 ^ e ≤ r ∨ e = leastExponent
  high : r < 2 ^ 53 * 2 ^ e

theorem two_zpow_pos (e : ℤ) : (0 : ℚ) < 2 ^ e := by
  positivity

theorem two_zpow_succ (e : ℤ) : (2 : ℚ) ^ (e + 1) = 2 * 2 ^ e := by
  rw [zpow_add_one₀ two_ne_zero, mul_comm]

/-- One half of uniqueness: the greater of two exponents that fit is too great. -/
theorem Fits.le (h : Fits r e) (h' : Fits r e') : e ≤ e' := by
  rcases h.low with low | rfl
  · have between : (2 : ℚ) ^ e < 2 ^ (e' + 1) := by
      rw [two_zpow_succ]
      have high := h'.high
      linarith
    have := (zpow_lt_zpow_iff_right₀ (by norm_num)).mp between
    omega
  · exact h'.least

/-- Only one exponent fits a number. -/
theorem Fits.unique (h : Fits r e) (h' : Fits r e') : e = e' :=
  le_antisymm (h.le h') (h'.le h)

/-- A number and its logarithm. -/
theorem two_zpow_log2_le (nonzero : n ≠ 0) :
    (2 : ℚ) ^ (n.log2 : ℤ) ≤ n ∧ (n : ℚ) < 2 * 2 ^ (n.log2 : ℤ) := by
  have low : 2 ^ n.log2 ≤ n := Nat.log2_self_le nonzero
  have high : n < 2 ^ (n.log2 + 1) := Nat.lt_log2_self
  rw [zpow_natCast]
  constructor
  · exact_mod_cast low
  · rw [← pow_succ']
    exact_mod_cast high

/-- The logarithms of numerator and denominator bound a quotient from both sides. -/
theorem quotient_log2 (num_ne : num ≠ 0) (den_ne : den ≠ 0) :
    2 ^ ((num.log2 : ℤ) - den.log2) < 2 * ((num : ℚ) / den) ∧
      (num : ℚ) / den < 2 * 2 ^ ((num.log2 : ℤ) - den.log2) := by
  obtain ⟨low, high⟩ := two_zpow_log2_le num_ne
  obtain ⟨low', high'⟩ := two_zpow_log2_le den_ne
  have pos : (0 : ℚ) < den := by exact_mod_cast Nat.pos_of_ne_zero den_ne
  have pos' := two_zpow_pos den.log2
  rw [zpow_sub₀ two_ne_zero]
  constructor
  · rw [div_lt_iff₀ pos', mul_div_assoc', div_mul_eq_mul_div, lt_div_iff₀ pos]
    nlinarith [two_zpow_pos num.log2]
  · rw [div_lt_iff₀ pos, mul_div_assoc', div_mul_eq_mul_div, lt_div_iff₀ pos']
    nlinarith [two_zpow_pos num.log2]

/-- Of two neighbouring exponents the one that leaves 53 bits fits, unless it is below the least. -/
theorem fits_max (below : 2 ^ 52 * 2 ^ e < r) (above : r < 2 ^ 54 * 2 ^ e) {wide : Prop}
    [Decidable wide] (wide_iff : wide ↔ 2 ^ 53 * 2 ^ e ≤ r) :
    Fits r (max (if wide then e + 1 else e) leastExponent) := by
  generalize chosen : (if wide then e + 1 else e) = e'
  have bits : 2 ^ 52 * 2 ^ e' ≤ r ∧ r < 2 ^ 53 * 2 ^ e' := by
    by_cases isWide : wide
    · rw [if_pos isWide] at chosen
      have enough := wide_iff.mp isWide
      rw [← chosen, two_zpow_succ]
      constructor <;> linarith
    · rw [if_neg isWide] at chosen
      have few := lt_of_not_ge (mt wide_iff.mpr isWide)
      rw [← chosen]
      constructor <;> linarith
  rcases le_total leastExponent e' with inside | outside
  · rw [max_eq_left inside]
    exact ⟨inside, .inl bits.1, bits.2⟩
  · have wider : (2 : ℚ) ^ e' ≤ 2 ^ leastExponent :=
      zpow_le_zpow_right₀ one_le_two outside
    rw [max_eq_right outside]
    refine ⟨le_rfl, .inr rfl, bits.2.trans_le ?_⟩
    linarith

/-- The exponent that is computed fits. -/
theorem fits_fittingExponent (num_ne : num ≠ 0) (den_ne : den ≠ 0) :
    Fits ((num : ℚ) / den) (fittingExponent num den) := by
  obtain ⟨below, above⟩ := quotient_log2 num_ne den_ne
  have split (bits : ℤ) : (2 : ℚ) ^ bits = 2 ^ 53 * 2 ^ (bits - 53) := by
    rw [← zpow_natCast, ← zpow_add₀ two_ne_zero]
    congr 1
    push_cast
    omega
  rw [split] at below above
  let low : ℤ := (num.log2 : ℤ) - den.log2 - 53
  have pos := scaled_pos (Nat.pos_of_ne_zero den_ne) num low
  have pos' : (0 : ℚ) < (scaled num den low).2 := by exact_mod_cast pos
  have wide_iff : Nat.pow 2 53 ≤ (scaled num den low).1 / (scaled num den low).2 ↔
      2 ^ 53 * 2 ^ low ≤ (num : ℚ) / den := by
    rw [Nat.pow_eq, Nat.le_div_iff_mul_le pos, ← le_div_iff₀ (two_zpow_pos low),
      ← scaled_quotient num den low, le_div_iff₀ pos']
    exact_mod_cast Iff.rfl
  have unfolded : fittingExponent num den = max (if Nat.pow 2 53 ≤
      (scaled num den low).1 / (scaled num den low).2 then low + 1 else low) leastExponent := rfl
  rw [unfolded]
  exact fits_max (by linarith) (by linarith) wide_iff

/-- So it is computed from whatever fits. -/
theorem fittingExponent_eq (num_ne : num ≠ 0) (den_ne : den ≠ 0)
    (fits : Fits ((num : ℚ) / den) e) : fittingExponent num den = e :=
  (fits_fittingExponent num_ne den_ne).unique fits

/-! ## Rounding -/

/-- Rounding, by any exponent that fits and any integer that is near enough. One that is too long
for the mantissa is carried over to the next exponent. -/
theorem ofRatio_eq (num_ne : num ≠ 0) (den_ne : den ≠ 0) (fits : Fits ((num : ℚ) / den) e)
    (near : |(c : ℚ) - num / den / 2 ^ e| < 1 / 2) :
    ofRatio negative num den =
      if c = Nat.pow 2 53 then
        if greatestExponent < e + 1 then .infinity negative
        else .finite negative (Nat.pow 2 52) (e + 1)
      else if greatestExponent < e then .infinity negative
      else .finite negative c e := by
  have pos := scaled_pos (Nat.pos_of_ne_zero den_ne) num e
  have rounded : roundQuotient (scaled num den e).1 (scaled num den e).2 = c := by
    refine roundQuotient_eq pos ?_
    rwa [scaled_quotient]
  rw [ofRatio, if_neg num_ne, fittingExponent_eq num_ne den_ne fits]
  dsimp only
  rw [rounded]

/-- Significand and exponent of a double, in the form in which each finite double has only one. -/
structure Normal (m : ℕ) (e : ℤ) : Prop where
  narrow : m < 2 ^ 53
  wide : 2 ^ 52 ≤ m ∨ e = leastExponent
  least : leastExponent ≤ e
  greatest : e ≤ greatestExponent

/-- A mantissa is an integer, so it is at most one less than its bound. -/
theorem Normal.le_pred (normal : Normal m e) : (m : ℚ) ≤ 2 ^ 53 - 1 := by
  have narrow : m + 1 ≤ 2 ^ 53 := normal.narrow
  rw [le_sub_iff_add_le]
  exact_mod_cast narrow

/-- A number with the exponent of a double and less than half of its last place away is rounded to
that double. -/
theorem ofRatio_of_inside (num_ne : num ≠ 0) (den_ne : den ≠ 0) (normal : Normal m e)
    (inside : 2 ^ 52 * 2 ^ e ≤ (num : ℚ) / den ∨ e = leastExponent)
    (near : |(m : ℚ) - num / den / 2 ^ e| < 1 / 2) :
    ofRatio negative num den = .finite negative m e := by
  have high : (num : ℚ) / den < 2 ^ 53 * 2 ^ e := by
    rw [← div_lt_iff₀ (two_zpow_pos e)]
    have narrow := normal.le_pred
    have above := (abs_lt.mp near).1
    linarith
  have narrow : m ≠ Nat.pow 2 53 := normal.narrow.ne
  rw [ofRatio_eq num_ne den_ne ⟨normal.least, inside, high⟩ near, if_neg narrow,
    if_neg (not_lt.mpr normal.greatest)]

/-- Below a power of two the doubles stand twice as close, but a number that is less than a quarter
away from the power is still rounded to it. -/
theorem ofRatio_of_below (num_ne : num ≠ 0) (den_ne : den ≠ 0) (normal : Normal (2 ^ 52) e)
    (above_least : e ≠ leastExponent) (below : (num : ℚ) / den < 2 ^ 52 * 2 ^ e)
    (near : (2 ^ 52 - 1 / 4) * 2 ^ e < (num : ℚ) / den) :
    ofRatio negative num den = .finite negative (2 ^ 52) e := by
  have least := normal.least
  have greatest := normal.greatest
  have pos := two_zpow_pos (e - 1)
  have double : (2 : ℚ) ^ e = 2 * 2 ^ (e - 1) := by
    rw [← two_zpow_succ, sub_add_cancel]
  rw [double] at below near
  have fits : Fits ((num : ℚ) / den) (e - 1) :=
    ⟨by omega, .inl (by linarith), by linarith⟩
  have close : |((2 ^ 53 : ℕ) : ℚ) - num / den / 2 ^ (e - 1)| < 1 / 2 := by
    have high := (div_lt_iff₀ pos).mpr (by linarith : (num : ℚ) / den < 2 ^ 53 * 2 ^ (e - 1))
    have low := (lt_div_iff₀ pos).mpr
      (by linarith : (2 ^ 53 - 1 / 2) * 2 ^ (e - 1) < (num : ℚ) / den)
    rw [abs_lt]
    push_cast
    constructor <;> linarith
  rw [ofRatio_eq num_ne den_ne fits close, Nat.pow_eq, if_pos rfl, if_neg (by omega),
    sub_add_cancel, Nat.pow_eq]

/-- A number that is as near to a double as sixteen digits can tell is rounded to that double. -/
theorem ofRatio_of_near (num_ne : num ≠ 0) (den_ne : den ≠ 0) (normal : Normal m e)
    (near : |(m : ℚ) * 2 ^ e - num / den| * (2 * 10 ^ 16) ≤ m * 2 ^ e) :
    ofRatio negative num den = .finite negative m e := by
  have pos := two_zpow_pos e
  -- the number and the double, both in units of the last place of the double
  obtain ⟨t, value⟩ : ∃ t, (num : ℚ) / den = t * 2 ^ e :=
    ⟨num / den / 2 ^ e, (div_mul_cancel₀ _ pos.ne').symm⟩
  have near' : |(m : ℚ) - t| * (2 * 10 ^ 16) ≤ m := by
    rw [value, ← sub_mul, abs_mul, abs_of_pos pos, mul_right_comm] at near
    exact le_of_mul_le_mul_right near pos
  have narrow := normal.le_pred
  have half : |(m : ℚ) - t| < 1 / 2 := by linarith
  by_cases inside : 2 ^ 52 ≤ t ∨ e = leastExponent
  · refine ofRatio_of_inside num_ne den_ne normal (inside.imp_left fun low => ?_) ?_
    · rw [value]
      exact mul_le_mul_of_nonneg_right low pos.le
    · rwa [value, mul_div_cancel_right₀ t pos.ne']
  · obtain ⟨low, above_least⟩ := not_or.mp inside
    rw [not_le] at low
    have wide : 2 ^ 52 ≤ m := normal.wide.resolve_right above_least
    have distance := le_abs_self ((m : ℚ) - t)
    obtain rfl : m = 2 ^ 52 := by
      have few : (m : ℚ) < 2 ^ 52 + 1 := by linarith
      have few' : m < 2 ^ 52 + 1 := by exact_mod_cast few
      omega
    have quarter : 2 ^ 52 - 1 / 4 < t := by
      push_cast at near' distance
      linarith
    refine ofRatio_of_below num_ne den_ne normal above_least ?_ ?_
    · rw [value]
      exact mul_lt_mul_of_pos_right low pos
    · rw [value]
      exact mul_lt_mul_of_pos_right quarter pos

/-! ## The form of a double -/

/-- A double in the form in which it is the only one of its value. -/
def Canonical : Binary64 → Prop
  | .finite _ m e => Normal m e
  | _ => True

theorem canonical_zero (negative : Bool) : (zero negative).Canonical :=
  ⟨by decide, .inr rfl, le_rfl, by decide⟩

/-- Whatever is rounded is in canonical form. -/
theorem canonical_ofRatio (negative : Bool) (num : ℕ) (den_ne : den ≠ 0) :
    (ofRatio negative num den).Canonical := by
  rw [ofRatio]
  split
  · exact canonical_zero negative
  · next num_ne =>
    have fits := fits_fittingExponent num_ne den_ne
    dsimp only
    generalize fittingExponent num den = e at *
    have pos := two_zpow_pos e
    have near := abs_roundQuotient_sub_le (n := (scaled num den e).1)
      (scaled_pos (Nat.pos_of_ne_zero den_ne) num e)
    rw [scaled_quotient, abs_le] at near
    generalize roundQuotient (scaled num den e).1 (scaled num den e).2 = c at *
    have least := fits.least
    split
    · split
      · trivial
      · exact ⟨by decide, .inl le_rfl, by omega, by omega⟩
    · next narrow =>
      split
      · trivial
      · rw [Nat.pow_eq] at narrow
        have below : (c : ℚ) < 2 ^ 53 + 1 := by
          have := (div_lt_iff₀ pos).mpr fits.high
          linarith
        have below' : c < 2 ^ 53 + 1 := by exact_mod_cast below
        refine ⟨by omega, fits.low.imp_left fun low => ?_, least, by omega⟩
        have above : (2 : ℚ) ^ 52 < c + 1 := by
          have := (le_div_iff₀ pos).mpr low
          linarith
        have above' : 2 ^ 52 < c + 1 := by exact_mod_cast above
        omega

/-! ## Common factors -/

/-- A ratio may be expanded before it is scaled. -/
theorem scaled_mul (num den c : ℕ) (e : ℤ) :
    scaled (num * c) (den * c) e = ((scaled num den e).1 * c, (scaled num den e).2 * c) := by
  rw [scaled, scaled]
  split
  · rw [Nat.mul_right_comm]
  · rw [Nat.mul_right_comm]

/-- A ratio may be expanded before it is rounded. -/
theorem roundQuotient_mul (n d : ℕ) (positive : 0 < c) :
    roundQuotient (n * c) (d * c) = roundQuotient n d := by
  rw [roundQuotient, roundQuotient, Nat.mul_div_mul_right n d positive, Nat.mul_mod_mul_right,
    ← Nat.mul_assoc]
  simp only [Nat.mul_lt_mul_right positive]

/-- A quotient is rounded in the same way with a common factor and without. -/
theorem ofRatio_mul (negative : Bool) (num : ℕ) (den_ne : den ≠ 0) (positive : 0 < c) :
    ofRatio negative (num * c) (den * c) = ofRatio negative num den := by
  rw [ofRatio, ofRatio]
  by_cases zero : num = 0
  · rw [if_pos zero, if_pos (by rw [zero, Nat.zero_mul])]
  · have num_ne : num * c ≠ 0 := Nat.mul_ne_zero zero positive.ne'
    have factor : (c : ℚ) ≠ 0 := by exact_mod_cast positive.ne'
    have same : ((num * c : ℕ) : ℚ) / (den * c : ℕ) = num / den := by
      push_cast
      exact mul_div_mul_right _ _ factor
    have exponent : fittingExponent (num * c) (den * c) = fittingExponent num den :=
      fittingExponent_eq num_ne (Nat.mul_ne_zero den_ne positive.ne')
        (same ▸ fits_fittingExponent zero den_ne)
    rw [if_neg zero, if_neg num_ne, exponent]
    dsimp only
    rw [scaled_mul]
    dsimp only
    rw [roundQuotient_mul _ _ positive]

end Workbench.Decimal.Binary64
