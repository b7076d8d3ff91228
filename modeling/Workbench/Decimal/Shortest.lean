import Workbench.Decimal.Binary64

/-!
# Shortest decimal text of a double

A double is written with the fewest digits that read back as the same double, and among those with
the digits nearest to it. For each digit count from one to seventeen the two neighbours of the
value on the decimal grid of that width are tried in exact arithmetic; the first width with a hit
wins. A number from `1e-4` up to `1e16` is written positionally and always with a fraction, any
other with an exponent of at least two digits.
-/

namespace Workbench.Decimal

/-- A positive decimal number `digits * 10 ^ power`. -/
structure Scaled where
  digits : Nat
  power : Int
  deriving Repr, DecidableEq

namespace Binary64

/-- `num / den * 10 ^ p` as numerator and denominator. -/
def decimalScaled (num den : Nat) (p : Int) : Nat × Nat :=
  if 0 ≤ p then (num * Nat.pow 10 p.toNat, den) else (num, den * Nat.pow 10 (-p).toNat)

/-- The number of digits before the point of `num / den`, at most zero if the number is below one,
found by counting up from `k`. -/
def integerDigits (num den : Nat) : Nat → Int → Int
  | 0, k => k
  | fuel + 1, k =>
    let (n, d) := decimalScaled num den (-k)
    if n < d then k else integerDigits num den fuel (k + 1)

/-- The number of digits before the point of `num / den`, from an estimate that is at most three
too small. -/
def magnitude (num den : Nat) : Int :=
  let bits : Int := (num.log2 : Int) - (den.log2 : Int)
  integerDigits num den 6 (bits * 1233 / 4096 - 1)

/-- The neighbour of `num / den` on the grid of `10 ^ (-p)` that reads back as `x`, if one does:
the nearer of the two, the even one if they are equally near. -/
def hitOnGrid? (x : Binary64) (num den : Nat) (p : Int) : Option Scaled :=
  let (n, d) := decimalScaled num den p
  let low := n / d
  -- zero is a point of every grid, but never the text of a positive number
  let reads (q : Nat) : Bool := q != 0 && ofDecimal false q (-p) == x
  match reads low, reads (low + 1) with
  | true, true => some ⟨roundQuotient n d, -p⟩
  | true, false => some ⟨low, -p⟩
  | false, true => some ⟨low + 1, -p⟩
  | false, false => none

/-- The first hit among the grids of `count`, `count + 1`, … digits. -/
def firstHit (x : Binary64) (num den : Nat) (k : Int) : Nat → Nat → Scaled
  | 0, count => ⟨roundQuotient (decimalScaled num den (count - k)).1
      (decimalScaled num den (count - k)).2, k - count⟩
  | fuel + 1, count =>
    match hitOnGrid? x num den (count - k) with
    | some hit => hit
    | none => firstHit x num den k fuel (count + 1)

/-- The shortest decimal number that reads back as the positive double `m * 2 ^ e`. -/
def shortest (m : Nat) (e : Int) : Scaled :=
  let (num, den) := scaled m 1 (-e)
  firstHit (.finite false m e) num den (magnitude num den) 17 1

/-- The digits of a number without the zeros at its end. -/
def significantDigits (n : Nat) : List Char :=
  ((Nat.toDigits 10 n).reverse.dropWhile (· == '0')).reverse

/-- Digits with the decimal point after the first `point` of them; zeros fill what is missing. -/
def positional (digits : List Char) (point : Int) : List Char :=
  if point ≤ 0 then
    '0' :: '.' :: (List.replicate (-point).toNat '0' ++ digits)
  else
    let k := point.toNat
    let whole := digits.take k ++ List.replicate (k - digits.length) '0'
    let part := digits.drop k
    whole ++ '.' :: (if part.isEmpty then ['0'] else part)

/-- Digits with the point after the first of them and an exponent. -/
def withExponent (digits : List Char) (exponent : Int) : List Char :=
  let mantissa :=
    match digits with
    | d :: rest@(_ :: _) => d :: '.' :: rest
    | ds => ds
  let size := Nat.toDigits 10 exponent.natAbs
  let padded := if size.length < 2 then '0' :: size else size
  mantissa ++ 'e' :: (if exponent < 0 then '-' else '+') :: padded

/-- The text of a positive decimal number: positional from `1e-4` up to `1e16`. -/
def decimalText (s : Scaled) : List Char :=
  let digits := significantDigits s.digits
  let point : Int := (digitCount s.digits : Int) + s.power
  if -4 < point && point ≤ 16 then positional digits point
  else withExponent digits (point - 1)

/-- The text of a double. -/
def text : Binary64 → String
  | .nan => "nan"
  | .infinity negative => if negative then "-inf" else "inf"
  | .finite negative m e =>
    let sign := if negative then "-" else ""
    if m = 0 then sign ++ "0.0" else sign ++ String.ofList (decimalText (shortest m e))

end Binary64

end Workbench.Decimal
