import Workbench.Entries
import Workbench.Decimal.Shortest

/-!
# JSON values

Numbers keep the distinction between integers of any size and doubles. The fields of an object are
kept in the order in which their names were first given, with each name at most once when the
object comes from `Json.object` or from the reader.
-/

namespace Workbench

open Decimal (Binary64)

/-- A JSON value. -/
inductive Json where
  | null
  | bool (b : Bool)
  | int (n : Int)
  | real (x : Binary64)
  | str (s : String)
  | arr (items : List Json)
  | obj (fields : List (String × Json))
  deriving Repr, BEq, Inhabited

namespace Json

def object (fields : List (String × Json)) : Json :=
  .obj (Entries.unique fields)

/-- The value of a field, if the value is an object that has it. -/
def field? (key : String) : Json → Option Json
  | .obj fields => Entries.lookup key fields
  | _ => none

/-- The value of a field, `null` where there is none. -/
def field (key : String) (j : Json) : Json :=
  (j.field? key).getD .null

/-- The text of a string. -/
def str? : Json → Option String
  | .str s => some s
  | _ => none

def int? : Json → Option Int
  | .int n => some n
  | _ => none

/-- The truth value of a boolean. -/
def bool? : Json → Option Bool
  | .bool b => some b
  | _ => none

def arr? : Json → Option (List Json)
  | .arr items => some items
  | _ => none

def obj? : Json → Option (List (String × Json))
  | .obj fields => some fields
  | _ => none

/-- Whether a value counts as given: it is not `null`, false, zero or empty. -/
def isTruthy : Json → Bool
  | .null => false
  | .bool b => b
  | .int n => n != 0
  | .real x => !x.sameValue (.zero false)
  | .str s => !s.isEmpty
  | .arr items => !items.isEmpty
  | .obj fields => !fields.isEmpty

mutual

/-- How many levels of arrays and objects there are in a value. Those that are empty count if it is
said so. -/
def nesting (emptyCounts : Bool) : Json → Nat
  | .arr items => if items.isEmpty then emptyCounts.toNat else nestingOfItems emptyCounts items + 1
  | .obj fields =>
    if fields.isEmpty then emptyCounts.toNat else nestingOfFields emptyCounts fields + 1
  | _ => 0

/-- The most levels of any item. -/
def nestingOfItems (emptyCounts : Bool) : List Json → Nat
  | [] => 0
  | item :: rest => max (nesting emptyCounts item) (nestingOfItems emptyCounts rest)

/-- The most levels of any field. -/
def nestingOfFields (emptyCounts : Bool) : List (String × Json) → Nat
  | [] => 0
  | (_, value) :: rest => max (nesting emptyCounts value) (nestingOfFields emptyCounts rest)

end

/-- A string or `null`. -/
def ofText? : Option String → Json
  | some s => .str s
  | none => .null

/-- An array of strings. -/
def ofTexts (texts : List String) : Json :=
  .arr (texts.map .str)

/-- A number from a natural number. -/
def ofNat (n : Nat) : Json :=
  .int n

mutual

/-- Whether two values are equal when the order of the fields of objects does not count. -/
def same : Json → Json → Bool
  | .null, .null => true
  | .bool a, .bool b => a == b
  | .int a, .int b => a == b
  | .real a, .real b => a == b
  | .str a, .str b => a == b
  | .arr as, .arr bs => sameItems as bs
  | .obj as, .obj bs => as.length == bs.length && sameFields as bs
  | _, _ => false

/-- Whether two lists of values are equal item by item. -/
def sameItems : List Json → List Json → Bool
  | [], [] => true
  | a :: as, b :: bs => same a b && sameItems as bs
  | _, _ => false

/-- Whether every field of the first list has an equal one in the second. -/
def sameFields : List (String × Json) → List (String × Json) → Bool
  | [], _ => true
  | (k, a) :: as, bs =>
    (match Entries.lookup k bs with
      | some b => same a b
      | none => false) && sameFields as bs

end

end Json

end Workbench
