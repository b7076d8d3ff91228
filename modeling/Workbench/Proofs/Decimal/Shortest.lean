import Workbench.Decimal.Shortest
import Workbench.Proofs.Decimal.Nearest
import Mathlib.Tactic.Ring

/-!
# Shortest decimals read back

The decimal number in which a double is written reads back as the double (`reads_shortest`). Every
hit on a grid is checked when it is found; what is to be shown is that a grid of seventeen digits
has one. The estimate of the number of digits before the point is never too large (`magnitude_le`),
so that grid is finer than sixteen digits can tell, and the point of it that is next to a double is
rounded to the double.
-/

namespace Workbench.Decimal.Binary64

variable {negative : Bool} {num den digits m fuel count : ℕ} {e k p power : ℤ} {x : Binary64}

/-! ## Decimal numbers -/

theorem digitCount_pos (n : ℕ) : 0 < digitCount n :=
  List.length_pos_iff.mpr Nat.toDigits_ne_nil

/-- The number of digits of a number bounds it from both sides. -/
theorem ten_pow_digitCount (nonzero : digits ≠ 0) :
    10 ^ digitCount digits ≤ 10 * digits ∧ digits < 10 ^ digitCount digits := by
  have pos := digitCount_pos digits
  have bound {j : ℕ} (h : 0 < j) : digitCount digits ≤ j ↔ digits < 10 ^ j :=
    Nat.length_toDigits_le_iff (by decide) h
  refine ⟨?_, (bound pos).mp le_rfl⟩
  obtain ⟨j, same⟩ := Nat.exists_eq_add_one_of_ne_zero pos.ne'
  rw [same, pow_succ']
  refine Nat.mul_le_mul_left 10 ?_
  rcases Nat.eq_zero_or_pos j with rfl | positive
  · rw [pow_zero]
    omega
  · have := mt (bound positive).mpr (by omega)
    omega

theorem ten_zpow_pos (k : ℤ) : (0 : ℚ) < 10 ^ k := by
  positivity

/-- Unless it is far outside the range, a decimal number is rounded as the quotient that it is. -/
theorem exists_ofDecimal_eq (nonzero : digits ≠ 0)
    (inside : -330 ≤ (digitCount digits : ℤ) + power ∧ (digitCount digits : ℤ) + power ≤ 310) :
    ∃ num den : ℕ, num ≠ 0 ∧ den ≠ 0 ∧ (num : ℚ) / den = digits * 10 ^ power ∧
      ∀ negative, ofDecimal negative digits power = ofRatio negative num den := by
  by_cases nonneg : 0 ≤ power
  · refine ⟨digits * Nat.pow 10 power.toNat, 1, ?_, one_ne_zero, ?_, fun negative => ?_⟩
    · rw [Nat.pow_eq]
      positivity
    · obtain ⟨j, rfl⟩ := Int.eq_ofNat_of_zero_le nonneg
      rw [Int.toNat_natCast, Nat.pow_eq, zpow_natCast]
      push_cast
      rw [div_one]
    · rw [ofDecimal, if_neg nonzero]
      dsimp only
      rw [if_neg (by omega), if_neg (by omega), if_pos nonneg]
  · refine ⟨digits, Nat.pow 10 (-power).toNat, nonzero, ?_, ?_, fun negative => ?_⟩
    · rw [Nat.pow_eq]
      positivity
    · obtain ⟨j, same⟩ := Int.eq_ofNat_of_zero_le (by omega : 0 ≤ -power)
      obtain rfl : power = -(j : ℤ) := by omega
      rw [neg_neg, Int.toNat_natCast, Nat.pow_eq, zpow_neg, zpow_natCast]
      push_cast
      rw [div_eq_mul_inv]
    · rw [ofDecimal, if_neg nonzero]
      dsimp only
      rw [if_neg (by omega), if_neg (by omega), if_neg nonneg]

/-- Whatever is read is in canonical form. -/
theorem canonical_ofDecimal (negative : Bool) (digits : ℕ) (power : ℤ) :
    (ofDecimal negative digits power).Canonical := by
  rw [ofDecimal]
  split
  · exact canonical_zero negative
  · dsimp only
    split
    · trivial
    · split
      · exact canonical_zero negative
      · split
        · exact canonical_ofRatio negative _ one_ne_zero
        · refine canonical_ofRatio negative _ ?_
          rw [Nat.pow_eq]
          positivity

/-- The doubles lie between powers of two, and these between powers of ten. -/
theorem Normal.value_bounds (normal : Normal m e) (m_ne : m ≠ 0) :
    2 * 10 ^ (-330 : ℤ) ≤ (m : ℚ) * 2 ^ e ∧ (m : ℚ) * 2 ^ e * 20 ≤ 10 ^ (310 : ℤ) := by
  have one_le : (1 : ℚ) ≤ m := by exact_mod_cast Nat.one_le_iff_ne_zero.mpr m_ne
  have narrow : (m : ℚ) ≤ 2 ^ 53 := by exact_mod_cast normal.narrow.le
  have least : (2 : ℚ) ^ (-1074 : ℤ) ≤ 2 ^ e := zpow_le_zpow_right₀ one_le_two normal.least
  have greatest : (2 : ℚ) ^ e ≤ 2 ^ (971 : ℤ) := zpow_le_zpow_right₀ one_le_two normal.greatest
  have tiny : 2 * (10 : ℚ) ^ (-330 : ℤ) ≤ 2 ^ (-1074 : ℤ) := by
    have : 2 * 2 ^ 1074 ≤ 10 ^ 330 := by decide +kernel
    have : 2 * (2 : ℚ) ^ 1074 ≤ 10 ^ 330 := by exact_mod_cast this
    rw [zpow_neg, zpow_neg, zpow_ofNat, zpow_ofNat, ← div_eq_mul_inv, ← one_div,
      div_le_div_iff₀ (by positivity) (by positivity), one_mul]
    exact this
  have huge : (2 : ℚ) ^ 53 * 2 ^ (971 : ℤ) * 20 ≤ 10 ^ (310 : ℤ) := by
    have : 2 ^ 53 * 2 ^ 971 * 20 ≤ 10 ^ 310 := by decide +kernel
    rw [zpow_ofNat, zpow_ofNat]
    exact_mod_cast this
  have pos := two_zpow_pos e
  refine ⟨tiny.trans (least.trans ?_), le_trans ?_ huge⟩
  · exact le_mul_of_one_le_left pos.le one_le
  · exact mul_le_mul_of_nonneg_right (mul_le_mul narrow greatest pos.le (by positivity))
      (by positivity)

/-- A number that is as near to a double as sixteen digits can tell is not outside the range. -/
theorem inside_of_near (normal : Normal m e) (m_ne : m ≠ 0) (nonzero : digits ≠ 0)
    (near : |(m : ℚ) * 2 ^ e - digits * 10 ^ power| * (2 * 10 ^ 16) ≤ m * 2 ^ e) :
    -330 ≤ (digitCount digits : ℤ) + power ∧ (digitCount digits : ℤ) + power ≤ 310 := by
  obtain ⟨tiny, huge⟩ := normal.value_bounds m_ne
  obtain ⟨many, few⟩ := ten_pow_digitCount nonzero
  have pos := ten_zpow_pos power
  have many' : (10 : ℚ) ^ digitCount digits ≤ 10 * digits := by exact_mod_cast many
  have few' : (digits : ℚ) < 10 ^ digitCount digits := by exact_mod_cast few
  have magnitude : (10 : ℚ) ^ ((digitCount digits : ℤ) + power) =
      10 ^ digitCount digits * 10 ^ power := by
    rw [zpow_add₀ (by norm_num), zpow_natCast]
  have above : (10 : ℚ) ^ ((digitCount digits : ℤ) + power) ≤ 10 * (digits * 10 ^ power) := by
    rw [magnitude, ← mul_assoc]
    exact mul_le_mul_of_nonneg_right many' pos.le
  have below : (digits : ℚ) * 10 ^ power < 10 ^ ((digitCount digits : ℤ) + power) := by
    rw [magnitude]
    exact mul_lt_mul_of_pos_right few' pos
  generalize (m : ℚ) * 2 ^ e = value at *
  generalize (digits : ℚ) * 10 ^ power = r at *
  have positive : 0 < value := (by positivity : (0 : ℚ) < 2 * 10 ^ (-330 : ℤ)).trans_le tiny
  obtain ⟨left, right⟩ : value - r ≤ value / 2 ∧ r - value ≤ value := by
    have := le_abs_self (value - r)
    have := neg_abs_le (value - r)
    constructor <;> linarith
  constructor
  · have : (10 : ℚ) ^ (-330 : ℤ) < 10 ^ ((digitCount digits : ℤ) + power) := by linarith
    exact ((zpow_lt_zpow_iff_right₀ (by norm_num)).mp this).le
  · have : (10 : ℚ) ^ ((digitCount digits : ℤ) + power) ≤ 10 ^ (310 : ℤ) := by linarith
    exact (zpow_le_zpow_iff_right₀ (by norm_num)).mp this

/-- A decimal number that is as near to a double as sixteen digits can tell is rounded to it. -/
theorem ofDecimal_of_near (normal : Normal m e) (m_ne : m ≠ 0) (nonzero : digits ≠ 0)
    (near : |(m : ℚ) * 2 ^ e - digits * 10 ^ power| * (2 * 10 ^ 16) ≤ m * 2 ^ e) :
    ofDecimal negative digits power = .finite negative m e := by
  obtain ⟨num, den, num_ne, den_ne, quotient, same⟩ :=
    exists_ofDecimal_eq nonzero (inside_of_near normal m_ne nonzero near)
  rw [same]
  exact ofRatio_of_near num_ne den_ne normal (quotient ▸ near)

/-- A zero behind the digits is one digit more. -/
theorem digitCount_mul_ten (nonzero : digits ≠ 0) :
    digitCount (digits * 10) = digitCount digits + 1 := by
  have large : 10 ≤ digits * 10 := by omega
  rw [digitCount, Nat.toDigits_of_base_le (by decide) large, List.length_append,
    Nat.mul_div_cancel _ (by decide), List.length_singleton, digitCount]

/-- A zero at the end of the digits counts for nothing. -/
theorem ofDecimal_mul_ten (negative : Bool) (digits : ℕ) (power : ℤ) :
    ofDecimal negative (digits * 10) (power - 1) = ofDecimal negative digits power := by
  by_cases zero : digits = 0
  · rw [zero, ofDecimal, ofDecimal, if_pos rfl, if_pos rfl]
  · have magnitude : ((digitCount (digits * 10) : ℕ) : ℤ) + (power - 1) =
        digitCount digits + power := by
      rw [digitCount_mul_ten zero]
      push_cast
      omega
    rw [ofDecimal, ofDecimal, if_neg zero, if_neg (by omega), magnitude]
    dsimp only
    split
    · rfl
    · split
      · rfl
      · rcases lt_trichotomy power 0 with below | rfl | above
        · have shifted : Nat.pow 10 (-(power - 1)).toNat = Nat.pow 10 (-power).toNat * 10 := by
            rw [show (-(power - 1)).toNat = (-power).toNat + 1 by omega, Nat.pow_eq, Nat.pow_eq,
              pow_succ]
          have den_ne : Nat.pow 10 (-power).toNat ≠ 0 := by
            rw [Nat.pow_eq]
            positivity
          rw [if_neg (by omega), if_neg (by omega), shifted]
          exact ofRatio_mul negative digits den_ne (by decide)
        · have ten : Nat.pow 10 (-((0 : ℤ) - 1)).toNat = 1 * 10 := rfl
          have one : Nat.pow 10 (0 : ℤ).toNat = 1 := rfl
          rw [if_neg (by omega), if_pos le_rfl, ten, one, Nat.mul_one]
          exact ofRatio_mul negative digits one_ne_zero (by decide)
        · have shifted : digits * 10 * Nat.pow 10 (power - 1).toNat =
              digits * Nat.pow 10 power.toNat := by
            rw [show power.toNat = (power - 1).toNat + 1 by omega, Nat.pow_eq, Nat.pow_eq,
              pow_succ', Nat.mul_assoc]
          rw [if_pos (by omega), if_pos (by omega), shifted]

/-- Zeros behind the digits can be traded for the power. -/
theorem ofDecimal_mul_ten_pow (negative : Bool) (digits count : ℕ) (power : ℤ) :
    ofDecimal negative (digits * 10 ^ count) (power - count) = ofDecimal negative digits power := by
  induction count with
  | zero => rw [pow_zero, Nat.mul_one, Nat.cast_zero, sub_zero]
  | succ count ih =>
    rw [pow_succ, ← Nat.mul_assoc, Nat.cast_succ, ← sub_sub, ofDecimal_mul_ten, ih]

/-! ## Signs -/

/-- The double with a given sign. -/
def withSign (negative : Bool) : Binary64 → Binary64
  | .nan => .nan
  | .infinity _ => .infinity negative
  | .finite _ m e => .finite negative m e

/-- The sign does not take part in rounding. -/
theorem ofRatio_eq_withSign (negative : Bool) (num den : ℕ) :
    ofRatio negative num den = (ofRatio false num den).withSign negative := by
  rw [ofRatio, ofRatio]
  split
  · rfl
  · dsimp only
    split
    · split <;> rfl
    · split <;> rfl

/-- The sign does not take part in reading. -/
theorem ofDecimal_eq_withSign (negative : Bool) (digits : ℕ) (power : ℤ) :
    ofDecimal negative digits power = (ofDecimal false digits power).withSign negative := by
  rw [ofDecimal, ofDecimal]
  split
  · rfl
  · dsimp only
    split
    · rfl
    · split
      · rfl
      · split
        · exact ofRatio_eq_withSign negative _ _
        · exact ofRatio_eq_withSign negative _ _

/-! ## The number of digits before the point -/

/-- Scaling multiplies by a power of ten, and loses nothing. -/
theorem decimalScaled_quotient (num den : ℕ) (p : ℤ) :
    ((decimalScaled num den p).1 : ℚ) / (decimalScaled num den p).2 = num / den * 10 ^ p := by
  rw [decimalScaled]
  split
  · next nonneg =>
    obtain ⟨j, rfl⟩ := Int.eq_ofNat_of_zero_le nonneg
    rw [Int.toNat_natCast, Nat.pow_eq, zpow_natCast]
    push_cast
    rw [div_mul_eq_mul_div]
  · next below =>
    obtain ⟨j, same⟩ := Int.eq_ofNat_of_zero_le (by omega : 0 ≤ -p)
    obtain rfl : p = -(j : ℤ) := by omega
    rw [neg_neg, Int.toNat_natCast, Nat.pow_eq, zpow_neg, zpow_natCast]
    push_cast
    rw [← div_div, div_eq_mul_inv]

theorem decimalScaled_pos (positive : 0 < den) (num : ℕ) (p : ℤ) :
    0 < (decimalScaled num den p).2 := by
  rw [decimalScaled]
  split
  · exact positive
  · rw [Nat.pow_eq]
    positivity

/-- Counting up does not go too far. -/
theorem integerDigits_le (positive : 0 < den) (start : 10 ^ (k - 1) ≤ (num : ℚ) / den) :
    10 ^ (integerDigits num den fuel k - 1) ≤ (num : ℚ) / den := by
  induction fuel generalizing k with
  | zero => exact start
  | succ fuel ih =>
    rw [integerDigits]
    dsimp only
    split
    · exact start
    · next enough =>
      refine ih ?_
      have pos : (0 : ℚ) < (decimalScaled num den (-k)).2 := by
        exact_mod_cast decimalScaled_pos positive num (-k)
      have enough' : ((decimalScaled num den (-k)).2 : ℚ) ≤ (decimalScaled num den (-k)).1 := by
        exact_mod_cast not_lt.mp enough
      have one_le := (one_le_div₀ pos).mpr enough'
      rw [decimalScaled_quotient, zpow_neg, ← div_eq_mul_inv,
        one_le_div₀ (ten_zpow_pos k)] at one_le
      rwa [add_sub_cancel_right]

/-- An estimate of a logarithm to base ten by a quotient that is a little too small. -/
theorem ten_zpow_le {s t : ℕ} {q bits : ℤ} (small : 10 ^ t ≤ 2 ^ s) (close : 2 ^ s ≤ 2 * 10 ^ t)
    (below : q * s ≤ bits * t) (range : -(s : ℤ) ≤ bits) (s_ne : s ≠ 0) :
    (10 : ℚ) ^ q ≤ 2 * 2 ^ bits := by
  have small' : (10 : ℚ) ^ t ≤ 2 ^ s := by exact_mod_cast small
  have close' : (2 : ℚ) ^ s ≤ 2 * 10 ^ t := by exact_mod_cast close
  refine le_of_pow_le_pow_left₀ s_ne (by positivity) ?_
  calc ((10 : ℚ) ^ q) ^ s = 10 ^ (q * s) := by rw [zpow_mul, zpow_natCast]
    _ ≤ 10 ^ (bits * t) := zpow_le_zpow_right₀ (by norm_num) below
    _ = (10 ^ t) ^ bits := by rw [mul_comm, zpow_mul, zpow_natCast]
    _ ≤ 2 ^ s * (2 ^ s) ^ bits := ?_
    _ = (2 * 2 ^ bits) ^ s := by
      rw [mul_pow, ← zpow_natCast (2 : ℚ) s, ← zpow_mul, mul_comm (s : ℤ), zpow_mul,
        zpow_natCast, zpow_natCast]
  obtain ⟨n, rfl | rfl⟩ := Int.eq_nat_or_neg bits
  · rw [zpow_natCast, zpow_natCast]
    calc ((10 : ℚ) ^ t) ^ n ≤ (2 ^ s) ^ n := pow_le_pow_left₀ (by positivity) small' n
      _ ≤ 2 ^ s * (2 ^ s) ^ n := le_mul_of_one_le_left (by positivity) (one_le_pow₀ one_le_two)
  · have few : n ≤ s := by omega
    rw [zpow_neg, zpow_neg, zpow_natCast, zpow_natCast, ← div_eq_mul_inv, ← one_div,
      div_le_div_iff₀ (by positivity) (by positivity), one_mul]
    calc ((2 : ℚ) ^ s) ^ n ≤ (2 * 10 ^ t) ^ n := pow_le_pow_left₀ (by positivity) close' n
      _ = 2 ^ n * (10 ^ t) ^ n := mul_pow _ _ _
      _ ≤ 2 ^ s * (10 ^ t) ^ n :=
        mul_le_mul_of_nonneg_right (pow_le_pow_right₀ one_le_two few) (by positivity)

/-- The logarithm from which the number of digits is estimated is a little too small. -/
theorem ten_zpow_estimate_le {bits : ℤ} (range : -4096 ≤ bits) :
    (10 : ℚ) ^ (bits * 1233 / 4096) ≤ 2 * 2 ^ bits := by
  have small : 10 ^ 1233 ≤ 2 ^ 4096 := by decide +kernel
  have close : 2 ^ 4096 ≤ 2 * 10 ^ 1233 := by decide +kernel
  exact ten_zpow_le small close (Int.ediv_mul_le _ (by decide)) range (by decide)

/-- The number of digits before the point is not estimated too high. -/
theorem magnitude_le (num_ne : num ≠ 0) (den_ne : den ≠ 0)
    (range : -4096 ≤ (num.log2 : ℤ) - den.log2) :
    10 ^ (magnitude num den - 1) ≤ (num : ℚ) / den := by
  obtain ⟨low, -⟩ := quotient_log2 num_ne den_ne
  have estimate := ten_zpow_estimate_le range
  rw [magnitude]
  generalize (num.log2 : ℤ) - den.log2 = bits at *
  refine integerDigits_le (Nat.pos_of_ne_zero den_ne) ?_
  have two_less : (10 : ℚ) ^ (bits * 1233 / 4096) =
      10 ^ (bits * 1233 / 4096 - 1 - 1) * 100 := by
    rw [sub_sub, zpow_sub₀ (by norm_num)]
    norm_num
  have pos := ten_zpow_pos (bits * 1233 / 4096 - 1 - 1)
  linarith

/-! ## Hits -/

/-- Whether a decimal number reads back as a double. -/
def Reads (x : Binary64) (s : Scaled) : Prop :=
  s.digits ≠ 0 ∧ ofDecimal false s.digits s.power = x

/-- A hit on a grid is one of the two neighbours, and it was checked. -/
theorem reads_of_hit {s : Scaled} (hit : hitOnGrid? x num den p = some s) : Reads x s := by
  have checked {q : ℕ} (h : (q != 0 && ofDecimal false q (-p) == x) = true) : Reads x ⟨q, -p⟩ := by
    simpa [Reads] using h
  rw [hitOnGrid?] at hit
  dsimp only at hit
  split at hit
  · next low high =>
    obtain rfl := Option.some.inj hit
    rcases roundQuotient_cases (decimalScaled num den p).1 (decimalScaled num den p).2 with
      same | same
    · rw [same]
      exact checked low
    · rw [same]
      exact checked high
  · next low _ =>
    obtain rfl := Option.some.inj hit
    exact checked low
  · next _ high =>
    obtain rfl := Option.some.inj hit
    exact checked high
  · cases hit

/-- There is a hit if the nearest point of the grid reads back. -/
theorem exists_hit (reads : Reads x
    ⟨roundQuotient (decimalScaled num den p).1 (decimalScaled num den p).2, -p⟩) :
    ∃ s, hitOnGrid? x num den p = some s := by
  have checked {q : ℕ} (h : Reads x ⟨q, -p⟩) : (q != 0 && ofDecimal false q (-p) == x) = true := by
    simpa [Reads] using h
  rw [hitOnGrid?]
  dsimp only
  rcases roundQuotient_cases (decimalScaled num den p).1 (decimalScaled num den p).2 with
    same | same
  · rw [same] at reads
    rw [checked reads]
    split <;> first | exact ⟨_, rfl⟩ | contradiction
  · rw [same] at reads
    rw [checked reads]
    split <;> first | exact ⟨_, rfl⟩ | contradiction

/-- The search ends with a hit if there is one on a grid that it comes to. -/
theorem reads_firstHit (grid : count ≤ digits ∧ digits < count + fuel)
    (hit : ∃ s, hitOnGrid? x num den (digits - k) = some s) :
    Reads x (firstHit x num den k fuel count) := by
  induction fuel generalizing count with
  | zero => omega
  | succ fuel ih =>
    rw [firstHit]
    split
    · next found => exact reads_of_hit found
    · next missed =>
      have other : count ≠ digits := by
        rintro rfl
        obtain ⟨s, found⟩ := hit
        rw [missed] at found
        cases found
      exact ih (by omega)

/-- On a grid of seventeen digits the nearest point reads back. -/
theorem reads_nearest (den_ne : den ≠ 0) (normal : Normal m e) (m_ne : m ≠ 0)
    (value : (num : ℚ) / den = m * 2 ^ e) (magnitude : 10 ^ (k - 1) ≤ (num : ℚ) / den) :
    Reads (.finite false m e) ⟨roundQuotient (decimalScaled num den (17 - k)).1
      (decimalScaled num den (17 - k)).2, -(17 - k)⟩ := by
  have half := abs_roundQuotient_sub_le (n := (decimalScaled num den (17 - k)).1)
    (decimalScaled_pos (Nat.pos_of_ne_zero den_ne) num (17 - k))
  rw [decimalScaled_quotient, value] at half
  rw [value] at magnitude
  generalize roundQuotient _ _ = c at *
  have unit_pos := ten_zpow_pos (k - 17)
  have fine : (10 : ℚ) ^ (k - 1) = 10 ^ 16 * 10 ^ (k - 17) := by
    rw [← zpow_natCast, ← zpow_add₀ (by norm_num)]
    congr 1
    push_cast
    omega
  have inverse : (10 : ℚ) ^ (17 - k) * 10 ^ (k - 17) = 1 := by
    rw [← zpow_add₀ (by norm_num), show (17 - k) + (k - 17) = 0 by omega, zpow_zero]
  have near : |(m : ℚ) * 2 ^ e - c * 10 ^ (k - 17)| ≤ 1 / 2 * 10 ^ (k - 17) := by
    calc |(m : ℚ) * 2 ^ e - c * 10 ^ (k - 17)|
        = |(c : ℚ) - m * 2 ^ e * 10 ^ (17 - k)| * 10 ^ (k - 17) := by
          rw [← abs_of_pos unit_pos, ← abs_mul, abs_of_pos unit_pos, sub_mul,
            mul_assoc _ _ (10 ^ _), inverse, mul_one, abs_sub_comm]
      _ ≤ 1 / 2 * 10 ^ (k - 17) := mul_le_mul_of_nonneg_right half unit_pos.le
  have nonzero : c ≠ 0 := by
    rintro rfl
    rw [Nat.cast_zero, zero_mul, sub_zero] at near
    have := le_abs_self ((m : ℚ) * 2 ^ e)
    linarith
  refine ⟨nonzero, ?_⟩
  rw [neg_sub]
  refine ofDecimal_of_near normal m_ne nonzero ?_
  linarith

/-- **The decimal number in which a double is written reads back as the double.** -/
theorem reads_shortest (normal : Normal m e) (m_ne : m ≠ 0) :
    Reads (.finite false m e) (shortest m e) := by
  have den_ne : (scaled m 1 (-e)).2 ≠ 0 := (scaled_pos one_pos m (-e)).ne'
  have value : ((scaled m 1 (-e)).1 : ℚ) / (scaled m 1 (-e)).2 = m * 2 ^ e := by
    rw [scaled_quotient, Nat.cast_one, div_one, zpow_neg, div_inv_eq_mul]
  rw [shortest]
  dsimp only
  generalize (scaled m 1 (-e)).1 = num at *
  generalize (scaled m 1 (-e)).2 = den at *
  have one_le : (1 : ℚ) ≤ m := by exact_mod_cast Nat.one_le_iff_ne_zero.mpr m_ne
  have least : (2 : ℚ) ^ leastExponent ≤ m * 2 ^ e :=
    (zpow_le_zpow_right₀ one_le_two normal.least).trans
      (le_mul_of_one_le_left (two_zpow_pos e).le one_le)
  have num_ne : num ≠ 0 := by
    rintro rfl
    rw [Nat.cast_zero, zero_div] at value
    exact absurd least (not_le.mpr (value ▸ two_zpow_pos leastExponent))
  have range : -4096 ≤ (num.log2 : ℤ) - den.log2 := by
    obtain ⟨-, high⟩ := quotient_log2 num_ne den_ne
    rw [value, ← two_zpow_succ] at high
    have := (zpow_lt_zpow_iff_right₀ one_lt_two).mp (least.trans_lt high)
    rw [leastExponent] at this
    omega
  refine reads_firstHit (by decide : 1 ≤ 17 ∧ 17 < 1 + 17) (exists_hit ?_)
  exact reads_nearest den_ne normal m_ne value (magnitude_le num_ne den_ne range)

end Workbench.Decimal.Binary64
