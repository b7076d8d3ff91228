import Workbench.Json.Printer
import Workbench.Json.Literal

/-!
# Issues with data

What can be wrong with a piece of data, where it stands, and how that is reported. A few wordings
depend on whether the data was read from a JSON text or handed over as a value.

Codes and wordings are those of the library that checks data; only the reason of `Fault.refused` is
given by the record.
-/

namespace Workbench.Schema

/-- A step from a value into one of its parts. -/
inductive Place where
  | name (key : String)
  | index (n : Nat)
  deriving Repr, DecidableEq

/-- A step as JSON. -/
def Place.toJson : Place → Json
  | .name key => .str key
  | .index n => .ofNat n

/-- Where data came from. -/
inductive Source where
  /-- It was read from a JSON text. -/
  | text
  /-- It was handed over as a value. -/
  | value
  deriving Repr, DecidableEq

/-- What can be wrong with a value. -/
inductive Fault where
  | missing
  | notText
  | tooShort (least : Nat)
  | tooLong (most : Nat)
  | notInteger
  | unreadableInteger
  | overlongInteger
  | fractional
  | notFinite
  | notNumber
  | unreadableNumber
  | notFlag
  | unreadableFlag
  | notList (source : Source)
  | notMapping (source : Source)
  | notRecord (source : Source) (model : String)
  | notAttributes
  | notMember (options : List String)
  | notLiteral (options : List String)
  | notGreater (bound : Int)
  | notAtLeast (bound : Int)
  | unknownTag (tag : String) (options : List String)
  | noTag
  | refused (reason : String)
  | badSyntax (reason : String)
  | unreadable
  deriving Repr, DecidableEq

namespace Fault

def code : Fault → String
  | missing => "missing"
  | notText => "string_type"
  | tooShort _ => "string_too_short"
  | tooLong _ => "string_too_long"
  | notInteger => "int_type"
  | unreadableInteger => "int_parsing"
  | overlongInteger => "int_parsing_size"
  | fractional => "int_from_float"
  | notFinite => "finite_number"
  | notNumber => "float_type"
  | unreadableNumber => "float_parsing"
  | notFlag => "bool_type"
  | unreadableFlag => "bool_parsing"
  | notList _ => "list_type"
  | notMapping _ => "dict_type"
  | notRecord _ _ => "model_type"
  | notAttributes => "model_attributes_type"
  | notMember _ => "enum"
  | notLiteral _ => "literal_error"
  | notGreater _ => "greater_than"
  | notAtLeast _ => "greater_than_equal"
  | unknownTag _ _ => "union_tag_invalid"
  | noTag => "union_tag_not_found"
  | refused _ => "value_error"
  | badSyntax _ => "json_invalid"
  | unreadable => "json_invalid"

/-- Options in quotes, the last two joined by "or". -/
def choice : List String → String
  | [] => ""
  | [a] => s!"'{a}'"
  | [a, b] => s!"'{a}' or '{b}'"
  | a :: rest => s!"'{a}', " ++ choice rest

/-- A number of characters in words. -/
def characters (n : Nat) : String :=
  if n = 1 then "1 character" else s!"{n} characters"

def message : Fault → String
  | missing => "Field required"
  | notText => "Input should be a valid string"
  | tooShort n => s!"String should have at least {characters n}"
  | tooLong n => s!"String should have at most {characters n}"
  | notInteger => "Input should be a valid integer"
  | unreadableInteger => "Input should be a valid integer, unable to parse string as an integer"
  | overlongInteger => "Unable to parse input string as an integer, exceeded maximum size"
  | fractional => "Input should be a valid integer, got a number with a fractional part"
  | notFinite => "Input should be a finite number"
  | notNumber => "Input should be a valid number"
  | unreadableNumber => "Input should be a valid number, unable to parse string as a number"
  | notFlag => "Input should be a valid boolean"
  | unreadableFlag => "Input should be a valid boolean, unable to interpret input"
  | notList .text => "Input should be a valid array"
  | notList .value => "Input should be a valid list"
  | notMapping .text => "Input should be an object"
  | notMapping .value => "Input should be a valid dictionary"
  | notRecord .text _ => "Input should be an object"
  | notRecord .value model => s!"Input should be a valid dictionary or instance of {model}"
  | notAttributes => "Input should be a valid dictionary or object to extract fields from"
  | notMember options => s!"Input should be {choice options}"
  | notLiteral options => s!"Input should be {choice options}"
  | notGreater n => s!"Input should be greater than {n}"
  | notAtLeast n => s!"Input should be greater than or equal to {n}"
  | unknownTag tag options =>
    let expected := ", ".intercalate (options.map fun o => s!"'{o}'")
    s!"Input tag '{tag}' found using 'type' does not match any of the expected tags: {expected}"
  | noTag => "Unable to extract tag using discriminator 'type'"
  | refused reason => s!"Value error, {reason}"
  | badSyntax _ => "JSON decode error"
  | unreadable => "Invalid JSON"

/-- What a report of the fault holds beside its code and wording. -/
def context? : Fault → Option Json
  | tooShort n => some (.obj [("min_length", .ofNat n)])
  | tooLong n => some (.obj [("max_length", .ofNat n)])
  | refused _ => some (.obj [("error", .obj [])])
  | badSyntax reason => some (.obj [("error", .str reason)])
  | _ => none

end Fault

/-- A fault, the place where it stands and the value that has it. -/
structure Issue where
  path : List Place
  fault : Fault
  input : Json
  deriving Repr

namespace Issue

/-- An issue with a value as a whole. -/
def whole (fault : Fault) (input : Json) : Issue := ⟨[], fault, input⟩

/-- The same issue seen from outside of the part `place`. -/
def under (place : Place) (issue : Issue) : Issue :=
  { issue with path := place :: issue.path }

/-- The place of an issue as JSON. -/
def pathJson (issue : Issue) : Json :=
  .arr (issue.path.map Place.toJson)

/-- An issue without the value: its place, code and wording. -/
def summary (issue : Issue) : Json :=
  .obj [("loc", issue.pathJson), ("type", .str issue.fault.code), ("msg", .str issue.fault.message)]

/-- An issue with the value that has it. -/
def report (issue : Issue) : Json :=
  .obj [("type", .str issue.fault.code), ("loc", issue.pathJson),
    ("msg", .str issue.fault.message), ("input", issue.input)]

/-- An issue with the value that has it and what else belongs to the fault. -/
def fullReport (issue : Issue) : Json :=
  match issue.fault.context?, issue.report with
  | some context, .obj fields => .obj (fields ++ [("ctx", context)])
  | _, report => report

end Issue

/-- The summaries of issues, sorted by their texts. -/
def summaries (issues : List Issue) : List Json :=
  (issues.map fun issue => (issue.summary.spaced, issue.summary)).mergeSort
    (fun a b => a.1 ≤ b.1) |>.map (·.2)

end Workbench.Schema
