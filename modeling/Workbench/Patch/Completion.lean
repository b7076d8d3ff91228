import Workbench.Patch.Basic
import Workbench.Patch.Fence
import Workbench.Patch.Marker

/-!
# Reading completions

A completion is text with code in it. The blocks of its file markers become patches; only if none
of them has any content, each fenced block becomes a patch for a new file with a made-up name.
Blocks without content are left out.

`frames` cuts a text into growing beginnings, which are shown while it is typed.
-/

namespace Workbench.Patch

/-- A file and the content that a completion proposes for it. -/
structure Proposal where
  fileName : String
  content : String
  deriving Repr, DecidableEq

/-- The proposals of the file markers of a text. -/
def markedProposals (cs : List Char) : List Proposal :=
  (blocks cs).filterMap fun block =>
    let text := content block.text
    if text.isEmpty then none else some ⟨String.ofList block.name, String.ofList text⟩

/-- Whether a character can stand in the tag of a fenced block without a marker. -/
def isTagChar (c : Char) : Bool :=
  Text.isWord c || c == '-'

/-- The file extension that a tag stands for. -/
def extension (tag : List Char) : String :=
  let name := String.ofList tag
  if name.isEmpty || name == "javascript" then "js"
  else if name == "python" then "py"
  else name

/-- The name of the `n`-th file that has no name of its own. -/
def madeUpName (n : Nat) (tag : List Char) : String :=
  s!"ai_node_{n}." ++ extension tag

/-- The proposals of the fenced blocks of a text. -/
def fencedProposals (cs : List Char) : List Proposal :=
  let full := (fences isTagChar cs).filterMap fun f =>
    let text := Text.trim f.body
    if text.isEmpty then none else some (f.tag, text)
  (full.zipIdx 1).map fun ((tag, text), n) => ⟨madeUpName n tag, String.ofList text⟩

/-- The patches of a completion, where `files` are the files of the project and `made` patches were
made before. -/
def parse (made : Nat) (files : List Project.File) (text : String) : List Patch :=
  let cs := text.toList
  let marked := markedProposals cs
  if marked.isEmpty then
    ((fencedProposals cs).zipIdx (made + 1)).map fun (p, n) =>
      make (freshId n) p.fileName p.content none
  else
    (marked.zipIdx (made + 1)).map fun (p, n) =>
      make (freshId n) p.fileName p.content (Project.findFile? files p.fileName)

/-- The beginnings of a text that are `size` characters longer each time, from `shown` characters
on, and last the text itself. -/
def framesFrom (size : Nat) (cs : List Char) : Nat → Nat → List (List Char)
  | 0, _ => [cs]
  | fuel + 1, shown =>
    if shown < cs.length then cs.take shown :: framesFrom size cs fuel (shown + size) else [cs]

/-- A number of characters that is not positive. -/
structure ChunkFault where
  size : Int
  deriving Repr, DecidableEq

def ChunkFault.message (f : ChunkFault) : String :=
  s!"chunk_size must be positive, got {f.size}"

/-- The growing beginnings of a text, each `size` characters longer than the one before. -/
def frames (size : Int) (text : String) : Except ChunkFault (List String) :=
  if size ≤ 0 then .error ⟨size⟩
  else
    let cs := text.toList
    .ok ((framesFrom size.toNat cs cs.length size.toNat).map String.ofList)

end Workbench.Patch
