import Workbench.Json.Reader
import Workbench.Text.Utf8

/-!
# JSON in bytes

A JSON text may come in UTF-8, UTF-16 or UTF-32, with the bytes of a unit in either order and with or
without a byte-order mark in front. The mark tells which of them it is, or else the first bytes do:
the first character of a JSON text is an ASCII character, so its other bytes are zero. Half of a
surrogate pair that stands alone is let through, as a replacement character.
-/

namespace Workbench.Json

open Text.Utf8 (Malformed)

/-- The encodings of JSON texts. -/
inductive Encoding where
  | utf8
  | utf16 (bigEndian : Bool)
  | utf32 (bigEndian : Bool)
  deriving Repr, DecidableEq

namespace Encoding

def name : Encoding → String
  | utf8 => "utf-8"
  | utf16 bigEndian => if bigEndian then "utf-16-be" else "utf-16-le"
  | utf32 bigEndian => if bigEndian then "utf-32-be" else "utf-32-le"

/-- The byte-order marks. -/
def marks : List (List UInt8 × Encoding) :=
  [([0, 0, 0xFE, 0xFF], utf32 true), ([0xFF, 0xFE, 0, 0], utf32 false),
    ([0xFE, 0xFF], utf16 true), ([0xFF, 0xFE], utf16 false), ([0xEF, 0xBB, 0xBF], utf8)]

/-- The encoding of bytes without a mark. -/
def ofZeros : List UInt8 → Encoding
  | a :: b :: c :: d :: _ =>
    if a == 0 then (if b == 0 then utf32 true else utf16 true)
    else if b == 0 then (if c == 0 && d == 0 then utf32 false else utf16 false)
    else utf8
  | [a, b] => if a == 0 then utf16 true else if b == 0 then utf16 false else utf8
  | _ => utf8

/-- The encoding of bytes, and the length of the mark in front of them. -/
def detect (bytes : List UInt8) : Encoding × Nat :=
  match marks.find? fun (mark, _) => mark.isPrefixOf bytes with
  | some (mark, encoding) => (encoding, mark.length)
  | none => (ofZeros bytes, 0)

/-- The number that the bytes of a unit stand for. -/
def unit (bigEndian : Bool) (bytes : List UInt8) : Nat :=
  (if bigEndian then bytes else bytes.reverse).foldl (fun n b => n * 256 + b.toNat) 0

/-- The characters of units of two bytes. -/
def decode16 (bigEndian : Bool) (position : Nat) : List UInt8 → Except Malformed (List Char)
  | [] => .ok []
  | [a] => .error ⟨position, [a], .truncated⟩
  | a :: b :: rest =>
    let high := unit bigEndian [a, b]
    match rest with
    | c :: d :: more =>
      let low := unit bigEndian [c, d]
      if 0xD800 ≤ high && high < 0xDC00 && 0xDC00 ≤ low && low < 0xE000 then
        (decode16 bigEndian (position + 4) more).map
          (Char.ofNat (0x10000 + (high - 0xD800) * 0x400 + (low - 0xDC00)) :: ·)
      else (decode16 bigEndian (position + 2) (c :: d :: more)).map (single high :: ·)
    | rest => (decode16 bigEndian (position + 2) rest).map (single high :: ·)
where
  /-- A unit that is no part of a pair. -/
  single (unit : Nat) : Char :=
    if 0xD800 ≤ unit && unit < 0xE000 then '\uFFFD' else Char.ofNat unit

/-- The characters of units of four bytes. -/
def decode32 (bigEndian : Bool) (position : Nat) : List UInt8 → Except Malformed (List Char)
  | [] => .ok []
  | a :: b :: c :: d :: rest =>
    let code := unit bigEndian [a, b, c, d]
    if 0x110000 ≤ code then .error ⟨position, [a, b, c, d], .outOfRange⟩
    else (decode32 bigEndian (position + 4) rest).map (decode16.single code :: ·)
  | few => .error ⟨position, few, .truncated⟩

def decode (position : Nat) (bytes : List UInt8) : Encoding → Except Malformed (List Char)
  -- the places of what is malformed are counted from behind the mark of UTF-8 alone
  | utf8 => Text.Utf8.decodePassing bytes
  | utf16 bigEndian => decode16 bigEndian position bytes
  | utf32 bigEndian => decode32 bigEndian position bytes

end Encoding

/-- Why bytes are not taken for a value. -/
inductive LoadError where
  /-- The bytes are no text. -/
  | malformed (encoding : Encoding) (m : Malformed)
  /-- The text is no JSON, or not one that can be read. -/
  | unread (e : ReadError)
  deriving Repr, DecidableEq

namespace LoadError

/-- Whether the value is there, and nested too deep to be read. -/
def isTooDeep : LoadError → Bool
  | malformed _ _ => false
  | unread e =>
    match e.fault with
    | .tooDeep _ => true
    | _ => false

def message : LoadError → String
  | malformed encoding m => m.message encoding.name
  | unread e => e.message

end LoadError

/-- The value that bytes hold, read leniently as deep as given. -/
def load (levels : Option Nat) (bytes : List UInt8) : Except LoadError Json :=
  let (encoding, mark) := Encoding.detect bytes
  match encoding.decode mark (bytes.drop mark) with
  | .error m => .error (.malformed encoding m)
  | .ok text => (located text (readWhole (.lenient levels) text)).mapError .unread

end Workbench.Json
