import Workbench.Project.File

/-!
# Patches

A patch proposes a new content for one file of a project. How many lines it adds and removes is an
estimate from the numbers of lines.
-/

namespace Workbench

open Schema (Check required optional)

/-- A proposed new content of a file. -/
structure Patch where
  id : String
  fileName : String
  newContent : String
  added : Int
  removed : Int
  /-- Whether there was no such file when the patch was made. -/
  isNew : Bool
  deriving Repr, DecidableEq, Inhabited

namespace Patch

/-- The id of the `n`-th patch that was made without one. -/
def freshId (n : Nat) : String := s!"patch-{n}"

/-- A patch from its fields. One without an id gets the id `fresh`. -/
def check (fresh : String) (input : Json) : Check Patch :=
  Schema.record .value "Patch"
    (fun fields =>
      ((optional "patch_id" fresh Schema.text fields).both
        ((required "file_name" Schema.text fields).both
          ((required "new_content" Schema.text fields).both
            ((optional "added" 0 (Schema.integerFrom 0) fields).both
              ((optional "removed" 0 (Schema.integerFrom 0) fields).both
                (optional "is_new" true Schema.flag fields)))))).map
        fun (id, fileName, newContent, added, removed, isNew) =>
          ⟨id, fileName, newContent, added, removed, isNew⟩)
    input

/-- Whether a patch that is made from fields takes a fresh id. -/
def takesFreshId (input : Json) : Bool :=
  match input with
  | .obj fields => !Entries.has "patch_id" fields
  | _ => false

def toJson (p : Patch) : Json :=
  .obj [("patch_id", .str p.id), ("file_name", .str p.fileName),
    ("new_content", .str p.newContent), ("added", .int p.added), ("removed", .int p.removed),
    ("is_new", .bool p.isNew)]

/-- The number of lines of a text, an empty one included. -/
def lineCount (text : String) : Nat :=
  (Text.splitOn '\n' text.toList).length

/-- The patch with an id that gives a file a new content; `existing` is the file as it is. -/
def make (id fileName newContent : String) (existing : Option Project.File) : Patch :=
  let new := lineCount newContent
  match existing with
  | none => ⟨id, fileName, newContent, new, 0, true⟩
  | some file =>
    let old := lineCount file.content
    ⟨id, fileName, newContent, ((new - old : Nat) : Int), ((old - new : Nat) : Int), false⟩

end Patch

end Workbench
