import Workbench.Text.Quoted

/-!
# UTF-8

Decoding of bytes to characters. A sequence that is not well formed is reported with its first
byte, the number of bytes that belong to it and the reason: the longest beginning of a well-formed
sequence is taken together. `decodeLossy` puts one replacement character in the place of each such
sequence, `decodeEscaped` the hexadecimal digits of its bytes. `decodePassing` lets through the bytes
of half a surrogate pair, as a replacement character.
-/

namespace Workbench.Text.Utf8

/-- Why a byte sequence is not well formed. -/
inductive Reason where
  | invalidStart
  | invalidContinuation
  | unexpectedEnd
  /-- The bytes are not a whole number of units, in an encoding by units of two or four bytes. -/
  | truncated
  /-- The unit is the number of no character. -/
  | outOfRange
  deriving Repr, DecidableEq

def Reason.message : Reason → String
  | .invalidStart => "invalid start byte"
  | .invalidContinuation => "invalid continuation byte"
  | .unexpectedEnd => "unexpected end of data"
  | .truncated => "truncated data"
  | .outOfRange => "code point not in range(0x110000)"

/-- The number of bytes of a sequence that starts with the byte, and the range of the second. -/
def shape? (b : Nat) : Option (Nat × Nat × Nat) :=
  if b < 0x80 then some (1, 0, 0)
  else if b < 0xC2 then none
  else if b < 0xE0 then some (2, 0x80, 0xBF)
  else if b == 0xE0 then some (3, 0xA0, 0xBF)
  else if b == 0xED then some (3, 0x80, 0x9F)
  else if b < 0xF0 then some (3, 0x80, 0xBF)
  else if b == 0xF0 then some (4, 0x90, 0xBF)
  else if b < 0xF4 then some (4, 0x80, 0xBF)
  else if b == 0xF4 then some (4, 0x80, 0x8F)
  else none

/-- The first sequence of a text of bytes: its character and length, or the reason why it is not
well formed and the number of bytes that belong to it. -/
def first (b : UInt8) (rest : List UInt8) : Except (Reason × Nat) (Char × Nat) :=
  match shape? b.toNat with
  | none => .error (.invalidStart, 1)
  | some (size, low, high) =>
    if size == 1 then .ok (Char.ofNat b.toNat, 1)
    else
      match rest with
      | [] => .error (.unexpectedEnd, 1)
      | c :: rest =>
        if c.toNat < low || high < c.toNat then .error (.invalidContinuation, 1)
        else
          let tails := rest.take (size - 2)
          let good := tails.takeWhile fun t => 0x80 ≤ t.toNat && t.toNat ≤ 0xBF
          if good.length == size - 2 then
            let lead := b.toNat % Nat.pow 2 (7 - size)
            let code := good.foldl (fun n t => n * 64 + t.toNat % 64) (lead * 64 + c.toNat % 64)
            .ok (Char.ofNat code, size)
          else if good.length == tails.length then .error (.unexpectedEnd, 2 + good.length)
          else .error (.invalidContinuation, 2 + good.length)

/-- A sequence that is not well formed: where it starts, its bytes, and the reason. -/
structure Malformed where
  position : Nat
  bytes : List UInt8
  reason : Reason
  deriving Repr, DecidableEq

/-- The wording of a malformed sequence, given the name of the encoding. -/
def Malformed.message (encoding : String) (m : Malformed) : String :=
  let what :=
    match m.bytes with
    | [b] => s!"byte 0x{String.ofList (hexDigits 2 b.toNat)} in position {m.position}"
    | bs => s!"bytes in position {m.position}-{m.position + bs.length - 1}"
  s!"'{encoding}' codec can't decode {what}: {m.reason.message}"

/-- The first sequence, where three bytes for half of a surrogate pair count as one. -/
def firstPassing (b : UInt8) (rest : List UInt8) : Except (Reason × Nat) (Char × Nat) :=
  match first b rest, rest with
  | .error fault, c :: d :: _ =>
    if b == 0xED && 0xA0 ≤ c && c ≤ 0xBF && 0x80 ≤ d && d ≤ 0xBF then .ok ('\uFFFD', 3)
    else .error fault
  | outcome, _ => outcome

/-- The characters and malformed sequences of a text of bytes in order; `next` reads the first
sequence, and `skip` counts the bytes that the sequence before has used up. -/
def scan (next : UInt8 → List UInt8 → Except (Reason × Nat) (Char × Nat)) (position : Nat) :
    Nat → List UInt8 → List (Char ⊕ Malformed)
  | _, [] => []
  | skip + 1, _ :: rest => scan next (position + 1) skip rest
  | 0, b :: rest =>
    match next b rest with
    | .ok (c, size) => .inl c :: scan next (position + 1) (size - 1) rest
    | .error (reason, size) =>
      .inr ⟨position, b :: rest.take (size - 1), reason⟩ ::
        scan next (position + 1) (size - 1) rest

/-- The characters among what was scanned, or the first malformed sequence. -/
def characters (scanned : List (Char ⊕ Malformed)) : Except Malformed (List Char) :=
  scanned.mapM fun
    | .inl c => .ok c
    | .inr m => .error m

/-- The characters of a text of bytes, or its first malformed sequence. -/
def decode (bytes : List UInt8) : Except Malformed (List Char) :=
  characters (scan first 0 0 bytes)

/-- The characters of a text of bytes in which half of a surrogate pair may stand alone, or its first
malformed sequence. -/
def decodePassing (bytes : List UInt8) : Except Malformed (List Char) :=
  characters (scan firstPassing 0 0 bytes)

/-- The characters of a text of bytes with a replacement character for each malformed sequence. -/
def decodeLossy (bytes : List UInt8) : List Char :=
  (scan first 0 0 bytes).map fun
    | .inl c => c
    | .inr _ => '\uFFFD'

/-- The characters of a text of bytes with an escape for each byte of a malformed sequence. -/
def decodeEscaped (bytes : List UInt8) : List Char :=
  (scan first 0 0 bytes).flatMap fun
    | .inl c => [c]
    | .inr m => m.bytes.flatMap fun b => '\\' :: 'x' :: hexDigits 2 b.toNat

end Workbench.Text.Utf8
