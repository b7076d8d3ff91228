import Workbench.Text.Character
import Workbench.Text.Blank
import Workbench.Text.Split

/-!
# Fenced blocks

A fenced block starts with three backticks, a tag and a line feed, and ends with the next three
backticks. Blocks are looked for from the left; one starts only where one can also end.
-/

namespace Workbench.Patch

/-- Three backticks. -/
def fence : List Char := List.replicate 3 (Char.ofNat 96)

/-- A fenced block. -/
structure Fence where
  tag : List Char
  body : List Char
  /-- The number of characters from the first backtick to the last. -/
  size : Nat
  deriving Repr, DecidableEq

/-- The fenced block that a text starts with, if it does, where tags consist of `isTag`
characters. -/
def fenceAt? (isTag : Char → Bool) (cs : List Char) : Option Fence := do
  let rest ← Text.afterPrefix? fence cs
  let tag := rest.takeWhile isTag
  match rest.drop tag.length with
  | '\n' :: inner =>
    let (body, _) ← Text.cutAt? fence inner
    pure ⟨tag, body, tag.length + body.length + 7⟩
  | _ => none

/-- The fenced blocks of a text in order; `skip` counts the characters that belong to the block
before. -/
def fencesFrom (isTag : Char → Bool) : Nat → List Char → List Fence
  | _, [] => []
  | skip + 1, _ :: cs => fencesFrom isTag skip cs
  | 0, c :: cs =>
    match fenceAt? isTag (c :: cs) with
    -- the first backtick of the block is already behind
    | some f => f :: fencesFrom isTag (f.size - 1) cs
    | none => fencesFrom isTag 0 cs

/-- The fenced blocks of a text. -/
def fences (isTag : Char → Bool) (cs : List Char) : List Fence :=
  fencesFrom isTag 0 cs

/-- The first fenced block of a text. -/
def firstFence? (isTag : Char → Bool) : List Char → Option Fence
  | [] => none
  | c :: cs => (fenceAt? isTag (c :: cs)).or (firstFence? isTag cs)

/-- A text without an opening fence at its start and the line feed after it. -/
def withoutOpening (cs : List Char) : List Char :=
  match Text.afterPrefix? fence cs with
  | none => cs
  | some rest =>
    match rest.dropWhile Text.isWord with
    | '\n' :: inner => inner
    | inner => inner

/-- A text without three backticks at its end. -/
def withoutClosing (cs : List Char) : List Char :=
  match Text.afterPrefix? fence cs.reverse with
  | some rest => rest.reverse
  | none => cs

/-- The content of a block of text: the body of its first fenced block, or all of it but for stray
fences at its ends, without blanks around it. -/
def content (block : List Char) : List Char :=
  match firstFence? Text.isWord block with
  | some f => Text.trim f.body
  | none => Text.trim (withoutClosing (withoutOpening block))

end Workbench.Patch
