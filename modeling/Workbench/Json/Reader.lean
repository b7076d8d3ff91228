import Workbench.Json.Basic

/-!
# Reading JSON

`Json.read` accepts the JSON grammar with three extensions: the numbers `NaN`, `Infinity` and
`-Infinity`. An integer may have at most 4300 digits. A fault is reported with the rest of the
text at which it was found; its place is counted from there.

Half of a surrogate pair that is written as an escape names no character. The strict reading
refuses it; the lenient one puts a replacement character in its place.

A reader may be limited in how deep arrays and objects are nested. The strict one always is, and
does not count those that are empty; how deep the lenient one gets depends on who reads.
-/

namespace Workbench.Json

open Decimal (Binary64)

/-- What can hold other values. -/
inductive Collection where
  | array
  | object
  deriving Repr, DecidableEq

/-- What can be wrong with a JSON text. -/
inductive Fault where
  | byteOrderMark
  | expectingValue
  | expectingName
  | expectingColon
  | expectingComma
  | extraData
  | unterminatedString
  | invalidControl
  | invalidEscape
  | invalidUnicodeEscape
  | loneSurrogate
  | tooManyDigits (count : Nat)
  | tooDeep (collection : Collection)
  deriving Repr, DecidableEq

def Fault.message : Fault → String
  | .byteOrderMark => "Unexpected UTF-8 BOM (decode using utf-8-sig)"
  | .expectingValue => "Expecting value"
  | .expectingName => "Expecting property name enclosed in double quotes"
  | .expectingColon => "Expecting ':' delimiter"
  | .expectingComma => "Expecting ',' delimiter"
  | .extraData => "Extra data"
  | .unterminatedString => "Unterminated string starting at"
  | .invalidControl => "Invalid control character at"
  | .invalidEscape => "Invalid \\escape"
  | .invalidUnicodeEscape => "Invalid \\uXXXX escape"
  | .loneSurrogate => "Unpaired surrogate"
  | .tooManyDigits count =>
    s!"Exceeds the limit (4300 digits) for integer string conversion: value has {count} digits; " ++
      "use sys.set_int_max_str_digits() to increase the limit"
  | .tooDeep .array =>
    "maximum recursion depth exceeded while decoding a JSON array from a unicode string"
  | .tooDeep .object =>
    "maximum recursion depth exceeded while decoding a JSON object from a unicode string"

/-- The greatest number of digits of an integer. -/
def maxDigits : Nat := 4300

/-- How a text is read: strictly or leniently, and how many levels of arrays and objects there may
be, if not any number. -/
structure Mode where
  strict : Bool
  levels : Option Nat
  deriving Repr, DecidableEq

namespace Mode

/-- The lenient reading of as many levels as given. -/
def lenient (levels : Option Nat) : Mode := ⟨false, levels⟩

/-- The strict reading. -/
def strictly : Mode := ⟨true, some 200⟩

/-- Whether no level is left. -/
def isSpent (mode : Mode) : Bool := mode.levels == some 0

/-- How the values inside of an array or an object are read. -/
def inside (mode : Mode) : Mode := { mode with levels := mode.levels.map (· - 1) }

/-- Whether an array or an object may stand here; the strict reading does not count empty ones. -/
def refuses (mode : Mode) (isEmpty : Bool) : Bool :=
  mode.isSpent && !(mode.strict && isEmpty)

end Mode

/-- A fault and the text from the place where it was found. -/
structure Failure where
  fault : Fault
  rest : List Char
  deriving Repr, DecidableEq

/-- Whether the character is white space in a JSON text. -/
def isSpace (c : Char) : Bool :=
  c == ' ' || c == '\t' || c == '\n' || c == '\r'

/-- Drops white space. -/
def skipSpace (cs : List Char) : List Char :=
  cs.dropWhile isSpace

/-- The value of a hexadecimal digit. -/
def hexValue? (c : Char) : Option Nat :=
  if '0' ≤ c && c ≤ '9' then some (c.toNat - 48)
  else if 'a' ≤ c && c ≤ 'f' then some (c.toNat - 87)
  else if 'A' ≤ c && c ≤ 'F' then some (c.toNat - 55)
  else none

/-- The number that four hexadecimal digits stand for, and the text after them, which must not be
empty. -/
def hexQuad? : List Char → Option (Nat × List Char)
  | a :: b :: c :: d :: e :: rest => do
    let w ← hexValue? a
    let x ← hexValue? b
    let y ← hexValue? c
    let z ← hexValue? d
    pure (((w * 16 + x) * 16 + y) * 16 + z, e :: rest)
  | _ => none

/-- The character that an escape letter other than `u` stands for. -/
def escaped? : Char → Option Char
  | '"' => some '"'
  | '\\' => some '\\'
  | '/' => some '/'
  | 'b' => some '\x08'
  | 'f' => some '\x0c'
  | 'n' => some '\n'
  | 'r' => some '\r'
  | 't' => some '\t'
  | _ => none

/-- What a unit from a `\u` escape stands for, given the text after it: a character, or half of a
pair whose other half may follow. The result is the character and how many further characters
belong to it. -/
def unitChar (strict : Bool) (unit : Nat) (rest : List Char) : Except Fault (Char × Nat) :=
  let lone := if strict then .error .loneSurrogate else .ok ('\uFFFD', 0)
  if 0xD800 ≤ unit && unit < 0xDC00 then
    match rest with
    | '\\' :: 'u' :: a :: b :: c :: d :: e :: _ =>
      match hexQuad? [a, b, c, d, e] with
      | none => .error .invalidUnicodeEscape
      | some (low, _) =>
        if 0xDC00 ≤ low && low < 0xE000 then
          .ok (Char.ofNat (0x10000 + (unit - 0xD800) * 0x400 + (low - 0xDC00)), 6)
        else lone
    | _ => lone
  else if 0xDC00 ≤ unit && unit < 0xE000 then lone
  else .ok (Char.ofNat unit, 0)

/-- Reads the characters of a string up to its closing quote; `opening` is the text from its
opening quote on and `skip` counts characters that an escape before has used up. -/
def readString (strict : Bool) (opening : List Char) (acc : List Char) :
    Nat → List Char → Except Failure (String × List Char)
  | _, [] => .error ⟨.unterminatedString, opening⟩
  | skip + 1, _ :: cs => readString strict opening acc skip cs
  | 0, c :: cs =>
    if c == '"' then .ok (String.ofList acc.reverse, cs)
    else if c == '\\' then
      match cs with
      | [] => .error ⟨.unterminatedString, opening⟩
      | 'u' :: hex =>
        match hexQuad? hex with
        | none => .error ⟨.invalidUnicodeEscape, cs⟩
        | some (unit, rest) =>
          match unitChar strict unit rest with
          | .error .invalidUnicodeEscape => .error ⟨.invalidUnicodeEscape, rest.drop 1⟩
          | .error fault => .error ⟨fault, cs⟩
          | .ok (ch, used) => readString strict opening (ch :: acc) (5 + used) cs
      | e :: _ =>
        match escaped? e with
        | none => .error ⟨.invalidEscape, c :: cs⟩
        | some ch => readString strict opening (ch :: acc) 1 cs
    else if c.toNat < 0x20 then .error ⟨.invalidControl, c :: cs⟩
    else readString strict opening (c :: acc) 0 cs

/-- Whether the character is one of the ten digits. -/
def isDigit (c : Char) : Bool :=
  '0' ≤ c && c ≤ '9'

/-- The number that digits stand for. -/
def digitsValue (digits : List Char) : Nat :=
  digits.foldl (fun n c => n * 10 + (c.toNat - 48)) 0

/-- The digits after a decimal point, if at least one follows it. -/
def fractionPart : List Char → List Char × List Char
  | '.' :: cs =>
    let digits := cs.takeWhile isDigit
    if digits.isEmpty then ([], '.' :: cs) else (digits, cs.dropWhile isDigit)
  | cs => ([], cs)

/-- The exponent after an `e`, if it has at least one digit. -/
def exponentPart (text : List Char) : Option Int × List Char :=
  match text with
  | e :: cs =>
    if e == 'e' || e == 'E' then
      let (negative, body) :=
        match cs with
        | '-' :: more => (true, more)
        | '+' :: more => (false, more)
        | more => (false, more)
      let digits := body.takeWhile isDigit
      if digits.isEmpty then (none, text)
      else
        let n : Int := digitsValue digits
        (some (if negative then -n else n), body.dropWhile isDigit)
    else (none, text)
  | [] => (none, text)

/-- Reads a number; `start` is the text from its first character on. -/
def readNumber (start : List Char) : Except Failure (Json × List Char) :=
  let (negative, body) :=
    match start with
    | '-' :: cs => (true, cs)
    | cs => (false, cs)
  let whole :=
    match body with
    | '0' :: _ => ['0']
    | cs => cs.takeWhile isDigit
  if whole.isEmpty then .error ⟨.expectingValue, start⟩
  else
    let (fraction, rest) := fractionPart (body.drop whole.length)
    let (exponent, rest) := exponentPart rest
    if fraction.isEmpty && exponent.isNone then
      if maxDigits < whole.length then .error ⟨.tooManyDigits whole.length, start⟩
      else
        let n : Int := digitsValue whole
        .ok (.int (if negative then -n else n), rest)
    else
      let power := exponent.getD 0 - fraction.length
      .ok (.real (Binary64.ofDecimal negative (digitsValue (whole ++ fraction)) power), rest)

/-- The values that are written as words. -/
def wordValues : List (List Char × Json) :=
  [("null".toList, .null), ("true".toList, .bool true), ("false".toList, .bool false),
    ("NaN".toList, .real .nan), ("Infinity".toList, .real (.infinity false)),
    ("-Infinity".toList, .real (.infinity true))]

/-- What follows `word`, if the text starts with it. -/
def afterWord? : List Char → List Char → Option (List Char)
  | [], cs => some cs
  | _ :: _, [] => none
  | w :: ws, c :: cs => if w = c then afterWord? ws cs else none

/-- Reads a value that is written as a word. -/
def readWord? (text : List Char) : Option (Json × List Char) :=
  wordValues.findSome? fun (word, value) => (afterWord? word text).map fun rest => (value, rest)

mutual

/-- Reads one value. The fuel bounds the number of values and delimiters still to be read. -/
def readValue (mode : Mode) : Nat → List Char → Except Failure (Json × List Char)
  | 0, text => .error ⟨.expectingValue, text⟩
  | fuel + 1, text =>
    match text with
    | '"' :: cs => do
      let (s, rest) ← readString mode.strict text [] 0 cs
      pure (.str s, rest)
    | '[' :: cs =>
      match skipSpace cs with
      | ']' :: rest =>
        if mode.refuses true then .error ⟨.tooDeep .array, text⟩ else .ok (.arr [], rest)
      | items =>
        if mode.refuses false then .error ⟨.tooDeep .array, text⟩
        else readItems mode.inside fuel [] items
    | '{' :: cs =>
      match skipSpace cs with
      | '}' :: rest =>
        if mode.refuses true then .error ⟨.tooDeep .object, text⟩ else .ok (.obj [], rest)
      | fields =>
        if mode.refuses false then .error ⟨.tooDeep .object, text⟩
        else readFields mode.inside fuel [] fields
    | _ =>
      match readWord? text with
      | some found => .ok found
      | none => readNumber text

/-- Reads the items of an array from the first one that is left. -/
def readItems (mode : Mode) : Nat → List Json → List Char → Except Failure (Json × List Char)
  | 0, _, text => .error ⟨.expectingValue, text⟩
  | fuel + 1, acc, text => do
    let (item, rest) ← readValue mode fuel text
    match skipSpace rest with
    | ']' :: rest => pure (.arr (item :: acc).reverse, rest)
    | ',' :: rest => readItems mode fuel (item :: acc) (skipSpace rest)
    | rest => .error ⟨.expectingComma, rest⟩

/-- Reads the fields of an object from the first one that is left. -/
def readFields (mode : Mode) :
    Nat → List (String × Json) → List Char → Except Failure (Json × List Char)
  | 0, _, text => .error ⟨.expectingName, text⟩
  | fuel + 1, acc, text =>
    match text with
    | '"' :: cs => do
      let (key, rest) ← readString mode.strict text [] 0 cs
      match skipSpace rest with
      | ':' :: rest =>
        let (value, rest) ← readValue mode fuel (skipSpace rest)
        let acc := (key, value) :: acc
        match skipSpace rest with
        | '}' :: rest => pure (object acc.reverse, rest)
        | ',' :: rest => readFields mode fuel acc (skipSpace rest)
        | rest => .error ⟨.expectingComma, rest⟩
      | rest => .error ⟨.expectingColon, rest⟩
    | _ => .error ⟨.expectingName, text⟩

end

/-- Reads characters that hold one value and nothing else but white space around it. -/
def readWhole (mode : Mode) (text : List Char) : Except Failure Json := do
  let (value, rest) ← readValue mode (2 * text.length + 2) (skipSpace text)
  match skipSpace rest with
  | [] => pure value
  | extra => .error ⟨.extraData, extra⟩

/-- Reads the characters of a text, which must not begin with a byte-order mark. -/
def readChars (mode : Mode) (text : List Char) : Except Failure Json :=
  match text with
  | '\uFEFF' :: _ => .error ⟨.byteOrderMark, text⟩
  | _ => readWhole mode text

/-- A fault with its place: the number of characters before it. -/
structure ReadError where
  fault : Fault
  text : List Char
  position : Nat
  deriving Repr, DecidableEq

/-- An outcome whose fault is given its place in the text. -/
def located (text : List Char) : Except Failure Json → Except ReadError Json
  | .ok value => .ok value
  | .error ⟨fault, rest⟩ => .error ⟨fault, text, text.length - rest.length⟩

/-- Reads a text leniently, however deep its values are nested. -/
def read (text : String) : Except ReadError Json :=
  located text.toList (readChars (.lenient none) text.toList)

/-- Reads a text strictly; the place and kind of a fault are of no interest. -/
def readStrict? (text : String) : Option Json :=
  (readChars .strictly text.toList).toOption

/-- The line of a place in a text, from one. -/
def lineAt (text : List Char) (position : Nat) : Nat :=
  (text.take position).count '\n' + 1

/-- The column of a place in a text, from one. -/
def columnAt (text : List Char) (position : Nat) : Nat :=
  ((text.take position).reverse.takeWhile (· != '\n')).length + 1

/-- The wording of an error: the fault with its place, or the fault alone if it has none. -/
def ReadError.message (e : ReadError) : String :=
  match e.fault with
  | .tooManyDigits _ | .tooDeep _ => e.fault.message
  | _ =>
    s!"{e.fault.message}: line {lineAt e.text e.position} column {columnAt e.text e.position} " ++
      s!"(char {e.position})"

end Workbench.Json
