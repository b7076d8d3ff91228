import Workbench.Decimal.Binary64
import Workbench.Text.Character
import Workbench.Text.Quoted
import Workbench.Text.Split

/-!
# Reading numerals

Three readings of a text as a number. `count` takes digits of any script and nothing else, at most
4300 of them. `laxInteger?` and `laxReal?` are the forgiving readings of settings and fields:
white space around the number, underscores between digits, a plus sign, leading zeros, and for an
integer a fraction of zeros are all accepted.
-/

namespace Workbench.Decimal

open Text (decimalValue? isDecimal quoted)

/-- Why a text is no count. -/
inductive CountFault where
  | tooLong (digits : Nat)
  | invalid (text : String)
  deriving Repr, DecidableEq

/-- The wording of a fault; at most 200 characters of the text are quoted. -/
def CountFault.message : CountFault → String
  | .tooLong digits =>
    s!"Exceeds the limit (4300 digits) for integer string conversion: value has {digits} digits; " ++
      "use sys.set_int_max_str_digits() to increase the limit"
  | .invalid text =>
    "invalid literal for int() with base 10: " ++ String.ofList ((quoted text).toList.take 200)

/-- The number that decimal digits of any script stand for. -/
def decimalNumber (digits : List Char) : Nat :=
  digits.foldl (fun n c => n * 10 + (decimalValue? c).getD 0) 0

/-- The number that a text of decimal digits stands for. The length is judged before the first
character that is no decimal digit. -/
def count (text : String) : Except CountFault Nat :=
  let cs := text.toList
  let digits := cs.takeWhile isDecimal
  if 4300 < digits.length then .error (.tooLong digits.length)
  else if digits.isEmpty || digits.length != cs.length then .error (.invalid text)
  else .ok (decimalNumber digits)

/-- White space around a number in the forgiving readings. -/
def isPadding (c : Char) : Bool :=
  let n := c.toNat
  (9 ≤ n && n ≤ 13) || n == 0x20 || n == 0x85 || n == 0xA0 || n == 0x1680 ||
    (0x2000 ≤ n && n ≤ 0x200A) || n == 0x2028 || n == 0x2029 || n == 0x202F || n == 0x205F ||
    n == 0x3000

/-- A text without the white space around it. -/
def unpadded (cs : List Char) : List Char :=
  ((cs.dropWhile isPadding).reverse.dropWhile isPadding).reverse

/-- A number without its leading zeros and the underscores between them; the last zero stays if
nothing but a fraction follows it. `last` is the character before. -/
def afterZeros (last : Char) : List Char → Option (List Char)
  | [] => some [last]
  | c :: cs =>
    if c == '0' || c == '_' then afterZeros c cs
    else if '1' ≤ c && c ≤ '9' then some (c :: cs)
    else if c == '.' then some (last :: c :: cs)
    else none

/-- A number without its leading zeros; nothing if it does not start like a number. -/
def withoutZeros : List Char → Option (List Char)
  | [] => none
  | c :: cs =>
    if c == '0' then afterZeros c cs
    else if ('1' ≤ c && c ≤ '9') || c == '-' then some (c :: cs)
    else none

/-- A number without a fraction of zeros. -/
def withoutZeroFraction (cs : List Char) : List Char :=
  match Text.cutAt? ['.'] cs with
  | some (whole, fraction) => if fraction.all (· == '0') then whole else cs
  | none => cs

/-- Whether two underscores stand side by side. -/
def hasDoubleUnderscore : List Char → Bool
  | '_' :: '_' :: _ => true
  | _ :: cs => hasDoubleUnderscore cs
  | [] => false

/-- A number without underscores, if they stand singly and inside. -/
def withoutUnderscores? (cs : List Char) : Option (List Char) :=
  if !cs.contains '_' || cs.head? == some '_' || cs.getLast? == some '_' || hasDoubleUnderscore cs
  then none
  else some (cs.filter (· != '_'))

/-- An integer in plain form: an optional minus sign and digits without a leading zero. -/
def plainInteger? (cs : List Char) : Option Int :=
  let (negative, digits) :=
    match cs with
    | '-' :: ds => (true, ds)
    | ds => (false, ds)
  if digits.isEmpty || !digits.all Text.isAsciiDigit then none
  else if digits.head? == some '0' && digits.length != 1 then none
  else
    let n : Int := decimalNumber digits
    some (if negative then -n else n)

/-- The forgiving reading of an integer. -/
def laxInteger? (text : String) : Option Int := do
  let cs := unpadded text.toList
  let cs ←
    match cs with
    | '+' :: '-' :: _ => none
    | '+' :: rest => some rest
    | _ => some cs
  let cs := withoutZeroFraction (← withoutZeros cs)
  plainInteger? ((withoutUnderscores? cs).getD cs)

/-- A text in lower-case ASCII letters. -/
def asciiLower (cs : List Char) : List Char :=
  cs.map Char.toLower

/-- A real number without its sign: digits with an optional point and exponent, or a word. -/
def unsignedReal? (negative : Bool) (cs : List Char) : Option Binary64 :=
  let word := String.ofList (asciiLower cs)
  if word == "inf" || word == "infinity" then some (.infinity negative)
  else if word == "nan" then some .nan
  else
    let whole := cs.takeWhile Text.isAsciiDigit
    let rest := cs.dropWhile Text.isAsciiDigit
    let (fraction, rest) :=
      match rest with
      | '.' :: more => (more.takeWhile Text.isAsciiDigit, more.dropWhile Text.isAsciiDigit)
      | _ => ([], rest)
    if whole.isEmpty && fraction.isEmpty then none
    else
      let value (power : Int) :=
        Binary64.ofDecimal negative (decimalNumber (whole ++ fraction)) (power - fraction.length)
      match rest with
      | [] => some (value 0)
      | e :: more =>
        if e == 'e' || e == 'E' then
          let (below, digits) :=
            match more with
            | '-' :: ds => (true, ds)
            | '+' :: ds => (false, ds)
            | ds => (false, ds)
          if digits.isEmpty || !digits.all Text.isAsciiDigit then none
          else
            let n : Int := decimalNumber digits
            some (value (if below then -n else n))
        else none

/-- A real number with an optional sign. -/
def signedReal? : List Char → Option Binary64
  | '-' :: cs => unsignedReal? true cs
  | '+' :: cs => unsignedReal? false cs
  | cs => unsignedReal? false cs

/-- The forgiving reading of a real number. -/
def laxReal? (text : String) : Option Binary64 :=
  let cs := unpadded text.toList
  match signedReal? cs with
  | some x => some x
  | none => (withoutUnderscores? cs).bind signedReal?

end Workbench.Decimal
