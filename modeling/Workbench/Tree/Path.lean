import Workbench.Tree.Basic
import Workbench.Text.Split

/-!
# Paths

A path expression is absolute, relative to the home directory if it starts with a tilde, or
relative to the current directory. Its segments are the parts between slashes that are not empty;
a single dot is dropped and a double dot takes back the segment before it, at the root nothing.

`resolve` walks the tree along a path. `locate` finds the directory that holds, or would hold, the
entry a path names; a path whose last segment is a single or double dot names no entry.
-/

namespace Workbench.Tree

/-- The parts of a path between slashes that are not empty. -/
def segments (path : String) : List String :=
  (Text.pieces '/' path).filter (! ·.isEmpty)

/-- The last segment of a path; empty if there is none. -/
def baseName (path : String) : String :=
  (segments path).getLastD ""

/-- What a tilde stands for, whoever the user is. -/
def homeDirectory : List String := ["home", "user"]

/-- The segments of a path before dots are taken out. -/
def rawSegments (path cwd : String) : List String :=
  match path.toList with
  | '/' :: _ => segments path
  | '~' :: rest => homeDirectory ++ segments (String.ofList rest)
  | _ => segments cwd ++ segments path

/-- One step of taking out dots; the segments so far are given last first. -/
def pushSegment (done : List String) (segment : String) : List String :=
  if segment = ".." then done.drop 1
  else if segment = "." then done
  else segment :: done

/-- Segments with the dots taken out. -/
def withoutDots (raw : List String) : List String :=
  (raw.foldl pushSegment []).reverse

/-- The segments of the absolute path that a path expression stands for. -/
def normalize (path cwd : String) : List String :=
  withoutDots (rawSegments path cwd)

/-- The text of an absolute path. -/
def absolute (path : List String) : String :=
  "/" ++ "/".intercalate path

/-- Where a walk along a path has ended. -/
structure Resolution where
  /-- The node at the path, if there is one. -/
  node : Option Node
  /-- The absolute path of the node, or of the last node on the way to it. -/
  fullPath : String
  deriving Repr, BEq

/-- The longest beginning of a path that leads to a node. -/
def reachable : Node → List String → List String
  | _, [] => []
  | .file _ _, _ :: _ => []
  | .directory _ entries, name :: path =>
    match Entries.lookup name entries with
    | none => []
    | some child => name :: reachable child path

/-- Walks along a path. The empty path leads nowhere. -/
def resolve (path cwd : String) (root : Directory) : Resolution :=
  if path.isEmpty then ⟨none, cwd⟩
  else
    let target := normalize path cwd
    match root.get? target with
    | some node => ⟨some node, absolute target⟩
    | none => ⟨none, absolute (reachable root.node target)⟩

/-- The path of the directory that holds what a path names. -/
def parentPath (path : String) : String :=
  let parts := segments path
  let parent := "/".intercalate parts.dropLast
  match path.toList with
  | '/' :: _ => "/" ++ parent
  | _ => if parent.isEmpty then "." else parent

/-- Walks to the directory that holds what a path names. -/
def resolveParent (path cwd : String) (root : Directory) : Resolution :=
  resolve (parentPath path) cwd root

/-- A directory and where it stands. -/
structure Place where
  path : List String
  directory : Directory
  deriving Repr, BEq

/-- The place of an entry. -/
structure Location where
  /-- The directory that holds the entry, or would hold it. -/
  parent : Option Place
  /-- The name of the entry. -/
  name : String
  /-- The node that is there. -/
  node : Option Node
  deriving Repr, BEq

/-- Whether a segment names an entry of a directory. -/
def isEntryName (name : String) : Bool :=
  name != "" && name != "." && name != ".."

/-- Finds the place of the entry that a path names. -/
def locate (path cwd : String) (root : Directory) : Location :=
  let name := baseName path
  match (resolveParent path cwd root).node with
  | some (.directory a entries) =>
    if isEntryName name then
      ⟨some ⟨normalize (parentPath path) cwd, ⟨a, entries⟩⟩, name, Entries.lookup name entries⟩
    else ⟨none, name, none⟩
  | _ => ⟨none, name, none⟩

end Workbench.Tree
