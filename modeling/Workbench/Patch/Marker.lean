import Workbench.Text.Lowercase
import Workbench.Text.Blank
import Workbench.Text.Split

/-!
# File markers

A marker is the word `file`, in any case, and a colon; a hash sign, or a hash sign and a space, may
stand in front. It counts only if a file name follows: a run of characters that are neither blank
nor brackets, with a dot somewhere inside. The block of a marker goes up to the next marker that
counts.
-/

namespace Workbench.Patch

/-- What follows a word, if the text starts with it when case is ignored. -/
def afterWord? : List Char → List Char → Option (List Char)
  | [], cs => some cs
  | _ :: _, [] => none
  | w :: ws, c :: cs => if Text.sameLetter w c then afterWord? ws cs else none

/-- What follows a marker, if the text starts with one. -/
def afterMarker? (cs : List Char) : Option (List Char) :=
  let word := ['f', 'i', 'l', 'e', ':']
  match cs with
  | '#' :: ' ' :: rest => afterWord? word rest
  | '#' :: rest => afterWord? word rest
  | _ => afterWord? word cs

/-- Whether a character can stand in a file name. -/
def isNameChar (c : Char) : Bool :=
  !Text.isBlank c && c != '(' && c != ')'

/-- Whether a run of characters has a dot that is neither its first nor its last character. -/
def hasInnerDot (run : List Char) : Bool :=
  (run.drop 1).dropLast.contains '.'

/-- A marker with the name after it. -/
structure Marker where
  name : List Char
  /-- The number of characters from the marker to the blanks after the name. -/
  size : Nat
  deriving Repr, DecidableEq

/-- The marker with a name that a text starts with, if it does. -/
def markerAt? (cs : List Char) : Option Marker := do
  let rest ← afterMarker? cs
  let named := Text.trimStart rest
  -- a run is taken whole: with an inner dot anywhere, no part of it is left for the content
  let name := named.takeWhile isNameChar
  if hasInnerDot name then
    let after := Text.trimStart (named.drop name.length)
    pure ⟨name, cs.length - after.length⟩
  else none

/-- The part of a text that belongs to a marker. -/
structure Block where
  name : List Char
  text : List Char
  deriving Repr, DecidableEq

/-- The text before the first marker and the blocks of all markers; `skip` counts the characters
that belong to the marker before. -/
def splitBlocks : Nat → List Char → List Char × List Block
  | _, [] => ([], [])
  | skip + 1, _ :: cs => splitBlocks skip cs
  | 0, c :: cs =>
    match markerAt? (c :: cs) with
    | some m =>
      let (text, blocks) := splitBlocks (m.size - 1) cs
      ([], ⟨m.name, text⟩ :: blocks)
    | none =>
      let (text, blocks) := splitBlocks 0 cs
      (c :: text, blocks)

/-- The blocks of the markers of a text. -/
def blocks (cs : List Char) : List Block :=
  (splitBlocks 0 cs).2

end Workbench.Patch
