import Workbench.Json.Basic
import Workbench.Text.Quoted

/-!
# Writing JSON

`Json.compact` writes a value without white space and leaves every character beyond the controls
as it is; it is the form in which a session is persisted and a request body is sent. `Json.spaced`
puts a blank after commas and colons and writes ASCII only, with the UTF-16 units of every other
character as escapes.
-/

namespace Workbench.Json

open Text (hexDigits)

/-- How a JSON text is laid out. -/
structure Layout where
  /-- What stands between two items. -/
  comma : List Char
  /-- What stands between a name and its value. -/
  colon : List Char
  /-- Whether every character outside of printable ASCII is escaped. -/
  asciiOnly : Bool
  deriving Repr, DecidableEq

/-- No white space, characters as they are. -/
def Layout.compact : Layout := ⟨[','], [':'], false⟩

/-- A blank after each comma and colon, ASCII only. -/
def Layout.spaced : Layout := ⟨[',', ' '], [':', ' '], true⟩

/-- A UTF-16 unit as an escape. -/
def unitEscape (unit : Nat) : List Char :=
  '\\' :: 'u' :: hexDigits 4 unit

/-- What stands for a character inside a string. -/
def writtenChar (asciiOnly : Bool) (c : Char) : List Char :=
  if c == '"' then ['\\', '"']
  else if c == '\\' then ['\\', '\\']
  else if c == '\n' then ['\\', 'n']
  else if c == '\r' then ['\\', 'r']
  else if c == '\t' then ['\\', 't']
  else if c == '\x08' then ['\\', 'b']
  else if c == '\x0c' then ['\\', 'f']
  else
    let n := c.toNat
    if n < 0x20 then unitEscape n
    else if asciiOnly && 0x7F ≤ n then
      if n < 0x10000 then unitEscape n
      else unitEscape (0xD800 + (n - 0x10000) / 0x400) ++ unitEscape (0xDC00 + (n - 0x10000) % 0x400)
    else [c]

/-- A string with its quotes. -/
def writtenString (asciiOnly : Bool) (s : String) : List Char :=
  '"' :: s.toList.flatMap (writtenChar asciiOnly) ++ ['"']

/-- The text of a double. -/
def writtenReal : Decimal.Binary64 → List Char
  | .nan => "NaN".toList
  | .infinity negative => if negative then "-Infinity".toList else "Infinity".toList
  | x => x.text.toList

mutual

/-- The text of a value, followed by `tail`. -/
def write (layout : Layout) (tail : List Char) : Json → List Char
  | .null => "null".toList ++ tail
  | .bool b => (if b then "true".toList else "false".toList) ++ tail
  | .int n => (toString n).toList ++ tail
  | .real x => writtenReal x ++ tail
  | .str s => writtenString layout.asciiOnly s ++ tail
  | .arr items => '[' :: writeItems layout (']' :: tail) items
  | .obj fields => '{' :: writeFields layout ('}' :: tail) fields

/-- The texts of the items of an array, followed by `tail`. -/
def writeItems (layout : Layout) (tail : List Char) : List Json → List Char
  | [] => tail
  | [item] => write layout tail item
  | item :: next :: rest =>
    write layout (layout.comma ++ writeItems layout tail (next :: rest)) item

/-- The texts of the fields of an object, followed by `tail`. -/
def writeFields (layout : Layout) (tail : List Char) : List (String × Json) → List Char
  | [] => tail
  | [(key, value)] =>
    writtenString layout.asciiOnly key ++ (layout.colon ++ write layout tail value)
  | (key, value) :: next :: rest =>
    writtenString layout.asciiOnly key ++
      (layout.colon ++ write layout (layout.comma ++ writeFields layout tail (next :: rest)) value)

end

/-- The text of a value in the compact layout. -/
def compact (j : Json) : String :=
  String.ofList (write .compact [] j)

/-- The text of a value in the spaced layout. -/
def spaced (j : Json) : String :=
  String.ofList (write .spaced [] j)

end Workbench.Json
