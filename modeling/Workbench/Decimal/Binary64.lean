/-!
# Double-precision numbers

A double is a sign, a significand below `2 ^ 53` and a power of two; every finite value has one
canonical form, in which the significand has 53 bits unless the exponent is the least one. All
arithmetic is exact on natural numbers and rounds once, to nearest with ties to the even
significand.
-/

namespace Workbench.Decimal

/-- A double-precision number. A finite one is `± significand * 2 ^ exponent`. -/
inductive Binary64 where
  | nan
  | infinity (negative : Bool)
  | finite (negative : Bool) (significand : Nat) (exponent : Int)
  deriving Repr, DecidableEq, Inhabited

namespace Binary64

/-- The exponent of the numbers nearest to zero. -/
def leastExponent : Int := -1074

/-- The exponent of the numbers farthest from zero. -/
def greatestExponent : Int := 971

/-- Zero with a sign. -/
def zero (negative : Bool) : Binary64 :=
  .finite negative 0 leastExponent

/-- The quotient `num / den / 2 ^ e` as numerator and denominator. -/
def scaled (num den : Nat) (e : Int) : Nat × Nat :=
  if 0 ≤ e then (num, den * Nat.pow 2 e.toNat) else (num * Nat.pow 2 (-e).toNat, den)

/-- The nearest natural number to `num / den`, the even one of two. -/
def roundQuotient (num den : Nat) : Nat :=
  let q := num / den
  let r := num % den
  if 2 * r < den then q
  else if den < 2 * r then q + 1
  else q + q % 2

/-- The exponent at which `num / den` has a significand of 53 bits, or the least exponent. -/
def fittingExponent (num den : Nat) : Int :=
  let low : Int := (num.log2 : Int) - (den.log2 : Int) - 53
  let (n, d) := scaled num den low
  let e := if Nat.pow 2 53 ≤ n / d then low + 1 else low
  max e leastExponent

/-- The double nearest to `num / den`, for a positive `den`. -/
def ofRatio (negative : Bool) (num den : Nat) : Binary64 :=
  if num = 0 then zero negative
  else
    let e := fittingExponent num den
    let (n, d) := scaled num den e
    let m := roundQuotient n d
    if m = Nat.pow 2 53 then
      if greatestExponent < e + 1 then .infinity negative
      else .finite negative (Nat.pow 2 52) (e + 1)
    else if greatestExponent < e then .infinity negative
    else .finite negative m e

/-- The number of decimal digits of a natural number; one for zero. -/
def digitCount (n : Nat) : Nat :=
  (Nat.toDigits 10 n).length

/-- The double nearest to `digits * 10 ^ power`. Numbers far outside the range are decided by
their magnitude alone. -/
def ofDecimal (negative : Bool) (digits : Nat) (power : Int) : Binary64 :=
  if digits = 0 then zero negative
  else
    let magnitude := (digitCount digits : Int) + power
    if 310 < magnitude then .infinity negative
    else if magnitude < -330 then zero negative
    else if 0 ≤ power then ofRatio negative (digits * Nat.pow 10 power.toNat) 1
    else ofRatio negative digits (Nat.pow 10 (-power).toNat)

/-- The double nearest to an integer. -/
def ofInt (n : Int) : Binary64 :=
  ofRatio (n < 0) n.natAbs 1

/-- A finite value as signed numerator and denominator. -/
def ratio? : Binary64 → Option (Int × Nat)
  | .finite negative m e =>
    let (num, den) := scaled m 1 (-e)
    some (if negative then -(num : Int) else num, den)
  | _ => none

/-- Whether the number is an integer. -/
def isIntegral (x : Binary64) : Bool :=
  match x.ratio? with
  | some (num, den) => num % den == 0
  | none => false

/-- The integer that the number is, if it is one. -/
def toInt? (x : Binary64) : Option Int :=
  match x.ratio? with
  | some (num, den) => if num % den == 0 then some (num / den) else none
  | none => none

/-- Whether the number is neither an infinity nor a NaN. -/
def isFinite : Binary64 → Bool
  | .finite .. => true
  | _ => false

/-- Strict order; nothing is below or above a NaN. -/
def lt : Binary64 → Binary64 → Bool
  | .nan, _ => false
  | _, .nan => false
  | .infinity a, .infinity b => a && !b
  | .infinity a, .finite .. => a
  | .finite .., .infinity b => !b
  | .finite s m e, .finite t n f =>
    match ratio? (.finite s m e), ratio? (.finite t n f) with
    | some (a, b), some (c, d) => a * d < c * b
    | _, _ => false

/-- Equality of values: zeros are equal whatever their signs, a NaN equals nothing. -/
def sameValue : Binary64 → Binary64 → Bool
  | .nan, _ => false
  | _, .nan => false
  | .finite _ 0 _, .finite _ 0 _ => true
  | x, y => x == y

/-- The number with the other sign. -/
def neg : Binary64 → Binary64
  | .nan => .nan
  | .infinity s => .infinity (!s)
  | .finite s m e => .finite (!s) m e

/-- The number times `2 ^ k`, rounded once. -/
def scaleBy (k : Int) : Binary64 → Binary64
  | .finite s m e =>
    if m = 0 then .finite s m e
    else
      let p := e + k
      if 1100 < p then .infinity s
      else if p < -1200 then zero s
      else
        let (num, den) := scaled m 1 (-p)
        ofRatio s num den
  | x => x

end Binary64

end Workbench.Decimal
