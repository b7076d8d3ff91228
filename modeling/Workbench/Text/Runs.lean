/-!
# Membership in a class of code points

A class of code points is stored as the sorted bounds of its runs: the first member of a run, then
the first code point after it, then the first member of the next run, and so on. A code point is a
member iff an odd number of bounds lie at or below it.
-/

namespace Workbench.Text

/-- The number of bounds in positions `lo` to `hi` (exclusive) of a sorted table that are at most
`c`, counted from position `0`: everything below `lo` is known to be at most `c`, everything from
`hi` on to be greater. -/
def countBounds (bounds : Array Nat) (c : Nat) (lo hi : Nat) : Nat :=
  if lo < hi then
    let mid := (lo + hi) / 2
    match bounds[mid]? with
    | none => countBounds bounds c lo mid
    | some b => if b ≤ c then countBounds bounds c (mid + 1) hi else countBounds bounds c lo mid
  else lo
termination_by hi - lo

/-- Whether a code point lies in one of the runs whose bounds are given. -/
def inRuns (bounds : Array Nat) (c : Nat) : Bool :=
  countBounds bounds c 0 bounds.size % 2 == 1

/-- The first member of the run that holds `c`, if one does. -/
def runStart? (bounds : Array Nat) (c : Nat) : Option Nat :=
  let n := countBounds bounds c 0 bounds.size
  if n % 2 == 1 then bounds[n - 1]? else none

end Workbench.Text
