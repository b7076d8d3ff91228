import Workbench.Json.Basic
import Workbench.Decimal.Shortest

/-!
# Durations

A number of seconds that is whole or real. The two are told apart when a duration is shown: one
second is shown as `1` or as `1.0`.
-/

namespace Workbench

open Decimal (Binary64)

/-- A number of seconds. -/
inductive Duration where
  | whole (n : Int)
  | real (x : Binary64)
  deriving Repr, DecidableEq, Inhabited

namespace Duration

def text : Duration → String
  | whole n => toString n
  | real x => x.text

def toJson : Duration → Json
  | whole n => .int n
  | real x => .real x

/-- A duration from a JSON number. -/
def ofJson? : Json → Option Duration
  | .int n => some (whole n)
  | .real x => some (real x)
  | _ => none

end Duration

end Workbench
