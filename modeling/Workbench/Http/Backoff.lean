import Workbench.Duration

/-!
# Backing off

The pause before a further attempt doubles with each attempt that failed and is cut off at thirty
seconds. Doubling a real number is done in one step: the power of two has to be a real number of its
own, so that there are at most 1024 doublings.
-/

namespace Workbench.Http.Backoff

open Decimal (Binary64)

/-- The longest pause. -/
def longest : Binary64 := .ofInt 30

/-- The first pause unless another one is given. -/
def standardBase : Binary64 := .ofDecimal false 5 (-1)

/-- A power of two that is too large for a real number. -/
structure Overflow where
  attempt : Int
  deriving Repr, DecidableEq

/-- The wording of the fault. -/
def Overflow.message (_ : Overflow) : String := "int too large to convert to float"

/-- The product of a real number and `2 ^ (-k)`, where the power of two is rounded first. -/
def halved (x : Binary64) (k : Nat) : Binary64 :=
  if k ≤ 1074 then x.scaleBy (-k)
  else
    match x with
    | .finite negative _ _ => .zero negative
    | _ => .nan

/-- A real pause, cut off. -/
def cut (x : Binary64) : Duration :=
  if longest.lt x then .real longest else .real x

/-- The pause after the given attempt, counted from zero. -/
def delay (base : Duration) (attempt : Int) : Except Overflow Duration :=
  match base, attempt with
  | .whole n, .ofNat k =>
    let product := n * Int.pow 2 k
    .ok (if 30 < product then .real longest else .whole product)
  | .whole n, .negSucc k =>
    if Nat.pow 2 1024 ≤ n.natAbs then .error ⟨attempt⟩ else .ok (cut (halved (.ofInt n) (k + 1)))
  | .real x, .ofNat k => if 1024 ≤ k then .error ⟨attempt⟩ else .ok (cut (x.scaleBy k))
  | .real x, .negSucc k => .ok (cut (halved x (k + 1)))

end Workbench.Http.Backoff
