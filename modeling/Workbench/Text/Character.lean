import Workbench.Text.Runs
import Workbench.Text.WordTable
import Workbench.Text.NumeralTable
import Workbench.Text.IdentifierTable
import Workbench.Text.PrintableTable

/-!
# Classes of characters

Word characters, digits, identifiers and characters without a visible form, for the whole of
Unicode. The ASCII part of each class is decided directly, the rest by the tables.
-/

namespace Workbench.Text

def isAsciiLetter (c : Char) : Bool :=
  ('a' ≤ c && c ≤ 'z') || ('A' ≤ c && c ≤ 'Z')

def isAsciiDigit (c : Char) : Bool :=
  '0' ≤ c && c ≤ '9'

/-- Whether a character is a letter, a numeral or an underscore. -/
def isWord (c : Char) : Bool :=
  if c.toNat < 128 then isAsciiLetter c || isAsciiDigit c || c == '_'
  else inRuns wordBounds c.toNat

/-- The value of a decimal digit of any script. -/
def decimalValue? (c : Char) : Option Nat :=
  if c.toNat < 128 then if isAsciiDigit c then some (c.toNat - 48) else none
  else (runStart? decimalBounds c.toNat).map fun start => (c.toNat - start) % 10

/-- Whether a character is a decimal digit of any script. -/
def isDecimal (c : Char) : Bool :=
  (decimalValue? c).isSome

/-- Whether a character is a digit, superscripts and the like included. -/
def isDigit (c : Char) : Bool :=
  isDecimal c || inRuns otherDigitBounds c.toNat

/-- Whether a text is not empty and holds digits only, superscripts and the like included. -/
def isDigits (s : String) : Bool :=
  !s.isEmpty && s.toList.all isDigit

/-- Whether a quoted text shows the character as it is. -/
def isPrintable (c : Char) : Bool :=
  if c.toNat < 128 then 32 ≤ c.toNat && c.toNat < 127
  else !inRuns unprintableBounds c.toNat

/-- Whether an identifier may start with the character. -/
def isIdentifierStart (c : Char) : Bool :=
  inRuns identifierStartExtra c.toNat ||
    (inRuns letterBounds c.toNat && !inRuns letterNotStart c.toNat)

/-- Whether an identifier may go on with the character. -/
def isIdentifierPart (c : Char) : Bool :=
  inRuns identifierPartExtra c.toNat ||
    (inRuns wordBounds c.toNat && !inRuns wordNotPart c.toNat)

def isIdentifier : List Char → Bool
  | [] => false
  | c :: cs => isIdentifierStart c && cs.all isIdentifierPart

end Workbench.Text
