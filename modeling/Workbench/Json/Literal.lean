import Workbench.Json.Basic
import Workbench.Text.Quoted

/-!
# Values as literals

The form in which a value appears inside a message: `None`, `True` and `False` for the constants,
quoted text, and brackets and braces around items separated by a comma and a blank.
-/

namespace Workbench.Json

open Text (quoted)

mutual

/-- A value as a literal. -/
def literal : Json → String
  | .null => "None"
  | .bool b => if b then "True" else "False"
  | .int n => toString n
  | .real x => x.text
  | .str s => quoted s
  | .arr items => "[" ++ ", ".intercalate (literalItems items) ++ "]"
  | .obj fields => "\x7b" ++ ", ".intercalate (literalFields fields) ++ "\x7d"

/-- The literals of the items of an array. -/
def literalItems : List Json → List String
  | [] => []
  | item :: rest => literal item :: literalItems rest

/-- The literals of the fields of an object, each with its name. -/
def literalFields : List (String × Json) → List String
  | [] => []
  | (key, value) :: rest => (quoted key ++ ": " ++ literal value) :: literalFields rest

end

/-- A value as text: a string as it is, any other value as a literal. -/
def plainText : Json → String
  | .str s => s
  | j => j.literal

/-- The name of the type of a value in messages. -/
def typeName : Json → String
  | .null => "NoneType"
  | .bool _ => "bool"
  | .int _ => "int"
  | .real _ => "float"
  | .str _ => "str"
  | .arr _ => "list"
  | .obj _ => "dict"

end Workbench.Json
