import Workbench.Schema.Issue
import Workbench.Decimal.Numeral
import Workbench.Json.Reader

/-!
# Checking data

A check turns a JSON value into a value of a domain type, or finds out everything that is wrong
with it: where a record has several bad fields, each of them is reported. Numbers and booleans may
also be given as text; text must be text.

Which fields a record has, which of them are optional and which conditions they meet is said where
the record is. What it means to check them is up to the library that checks data: which texts count
as numbers, in which order fields are looked at, what is reported for each. That is what this module
and `Schema.Issue` follow.
-/

namespace Workbench.Schema

open Decimal (Binary64)

/-- The outcome of a check: a value, or the issues that were found. -/
abbrev Check (α : Type) := Except (List Issue) α

namespace Check

variable {α β γ : Type}

/-- A check that fails with one fault of the whole value. -/
def fail (fault : Fault) (input : Json) : Check α :=
  .error [Issue.whole fault input]

/-- Two checks side by side: the issues of both are kept. -/
def both (x : Check α) (y : Check β) : Check (α × β) :=
  match x, y with
  | .ok a, .ok b => .ok (a, b)
  | .error e, .ok _ => .error e
  | .ok _, .error e => .error e
  | .error e, .error f => .error (e ++ f)

/-- A check of the part `place` of a value. -/
def within (place : Place) (x : Check α) : Check α :=
  x.mapError (·.map (Issue.under place))

/-- A further condition on a value that was read. -/
def refine (x : Check α) (f : α → Check β) : Check β :=
  x.bind f

/-- The checks of all items of a list, each at its own index from `start`. -/
def eachFrom (check : Json → Check α) (start : Nat) : List Json → Check (List α)
  | [] => .ok []
  | item :: rest =>
    ((within (.index start) (check item)).both (eachFrom check (start + 1) rest)).map
      fun (a, as) => a :: as

end Check

open Check (fail within)

def text (input : Json) : Check String :=
  match input with
  | .str s => .ok s
  | _ => fail .notText input

/-- Text or nothing. -/
def text? (input : Json) : Check (Option String) :=
  match input with
  | .null => .ok none
  | _ => (text input).map some

/-- An integer, also as a double without a fraction, a truth value or a numeral. -/
def integer (input : Json) : Check Int :=
  match input with
  | .int n => .ok n
  | .bool b => .ok (if b then 1 else 0)
  | .real x =>
    if !x.isFinite then fail .notFinite input
    else
      match x.toInt? with
      | none => fail .fractional input
      | some n => if n.natAbs < Nat.pow 2 63 then .ok n else fail .overlongInteger input
  | .str s =>
    if 4300 < s.utf8ByteSize then fail .overlongInteger input
    else
      match Decimal.laxInteger? s with
      | some n => .ok n
      | none => fail .unreadableInteger input
  | _ => fail .notInteger input

/-- A number as a double, also as an integer, a truth value or a numeral. -/
def number (input : Json) : Check Binary64 :=
  match input with
  | .real x => .ok x
  | .int n => .ok (Binary64.ofInt n)
  | .bool b => .ok (Binary64.ofInt (if b then 1 else 0))
  | .str s =>
    match Decimal.laxReal? s with
    | some x => .ok x
    | none => fail .unreadableNumber input
  | _ => fail .notNumber input

/-- The words that stand for a truth value. -/
def flagWord? (word : String) : Option Bool :=
  if ["0", "off", "f", "false", "n", "no"].contains word then some false
  else if ["1", "on", "t", "true", "y", "yes"].contains word then some true
  else none

/-- Zero or one as a truth value. A number of more than 64 bits is not even looked at. -/
def numericFlag (n : Int) (input : Json) : Check Bool :=
  if n = 0 then .ok false
  else if n = 1 then .ok true
  else if n.natAbs < Nat.pow 2 63 then fail .unreadableFlag input
  else fail .notFlag input

/-- A truth value, also as zero or one or as a word. -/
def flag (input : Json) : Check Bool :=
  match input with
  | .bool b => .ok b
  | .int n => numericFlag n input
  | .real x =>
    match x.toInt? with
    | some n => numericFlag n input
    | none => fail .notFlag input
  | .str s =>
    match flagWord? (String.ofList (Decimal.asciiLower s.toList)) with
    | some b => .ok b
    | none => fail .unreadableFlag input
  | _ => fail .notFlag input

/-- A list whose items pass a check. -/
def list {α : Type} (source : Source) (check : Json → Check α) (input : Json) : Check (List α) :=
  match input with
  | .arr items => Check.eachFrom check 0 items
  | _ => fail (.notList source) input

/-- Text of at least `least` characters. -/
def textFrom (least : Nat) (input : Json) : Check String :=
  (text input).refine fun s =>
    if s.length < least then fail (.tooShort least) input else .ok s

/-- Text of at most `most` characters. -/
def textUpTo (most : Nat) (input : Json) : Check String :=
  (text input).refine fun s =>
    if most < s.length then fail (.tooLong most) input else .ok s

/-- An integer that is at least `bound`. -/
def integerFrom (bound : Int) (input : Json) : Check Int :=
  (integer input).refine fun n =>
    if n < bound then fail (.notAtLeast bound) input else .ok n

/-- An integer that is greater than `bound`. -/
def integerAbove (bound : Int) (input : Json) : Check Int :=
  (integer input).refine fun n =>
    if n ≤ bound then fail (.notGreater bound) input else .ok n

/-- A number that is not below zero; a NaN is refused. -/
def numberFromZero (input : Json) : Check Binary64 :=
  (number input).refine fun x =>
    let zero := Binary64.zero false
    if zero.lt x || zero.sameValue x then .ok x else fail (.notAtLeast 0) input

/-- The fields of a record. -/
abbrev Fields := List (String × Json)

/-- A field that must be given. -/
def required {α : Type} (key : String) (check : Json → Check α) (fields : Fields) : Check α :=
  match Entries.lookup key fields with
  | some input => within (.name key) (check input)
  | none => within (.name key) (fail .missing (.obj fields))

def optional {α : Type} (key : String) (default : α) (check : Json → Check α) (fields : Fields) :
    Check α :=
  match Entries.lookup key fields with
  | some input => within (.name key) (check input)
  | none => .ok default

/-- A record: an object whose fields pass a check. -/
def record {α : Type} (source : Source) (model : String) (check : Fields → Check α)
    (input : Json) : Check α :=
  match input with
  | .obj fields => check fields
  | _ => fail (.notRecord source model) input

end Workbench.Schema
