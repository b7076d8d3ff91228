import Workbench.Entries
import Workbench.Tree.Permissions

/-!
# The file tree

A node is a file with its content or a directory with its entries, and knows its own name. A tree
is a directory that stands at the root. Nodes are addressed from the root by lists of names, and
every change of a tree is a change of the entries of one directory.
-/

namespace Workbench.Tree

/-- What files and directories have in common. -/
structure Attributes where
  name : String
  owner : String
  permissions : Permissions
  deriving Repr, DecidableEq, Inhabited

/-- A file or a directory. -/
inductive Node where
  | file (attributes : Attributes) (content : String)
  | directory (attributes : Attributes) (entries : List (String × Node))
  deriving Repr, BEq, Inhabited

/-- The entries of a directory: nodes stored under names. -/
abbrev Branch := List (String × Node)

/-- A directory. As the root it is the whole tree. -/
structure Directory where
  attributes : Attributes
  entries : Branch
  deriving Repr, BEq, Inhabited

/-- The size that is shown for a directory. -/
def directorySize : Nat := 4096

namespace Node

def newFile (name owner content : String) : Node :=
  .file ⟨name, owner, .ofFile⟩ content

/-- A new directory without entries. -/
def newDirectory (name owner : String) : Node :=
  .directory ⟨name, owner, .ofDirectory⟩ []

/-- What a node has in common with all others. -/
def attributes : Node → Attributes
  | .file a _ => a
  | .directory a _ => a

/-- The name a node has by itself. -/
def name (n : Node) : String := n.attributes.name

/-- The size of a node: the number of characters of a file, a fixed one for a directory. -/
def size : Node → Nat
  | .file _ content => content.length
  | .directory _ _ => directorySize

def directory? : Node → Option Directory
  | .file _ _ => none
  | .directory a entries => some ⟨a, entries⟩

def isDirectory : Node → Bool
  | .file _ _ => false
  | .directory _ _ => true

/-- The node that a list of names leads to. -/
def get? : Node → List String → Option Node
  | node, [] => some node
  | .file _ _, _ :: _ => none
  | .directory _ entries, name :: path =>
    match Entries.lookup name entries with
    | none => none
    | some child => child.get? path

mutual

/-- How many levels of entries there are below a node. -/
def height : Node → Nat
  | .file _ _ => 0
  | .directory _ entries => branchHeight entries

/-- How many levels there are from entries downwards. -/
def branchHeight : List (String × Node) → Nat
  | [] => 0
  | (_, node) :: rest => max (height node + 1) (branchHeight rest)

end

end Node

namespace Directory

def node (d : Directory) : Node :=
  .directory d.attributes d.entries

/-- The node that a list of names leads to. -/
def get? (d : Directory) (path : List String) : Option Node :=
  d.node.get? path

/-- The level on which the lowest entries stand. -/
def height (d : Directory) : Nat :=
  d.node.height

/-- The names of the entries in order. -/
def sortedNames (d : Directory) : List String :=
  (Entries.keys d.entries).mergeSort (· ≤ ·)

end Directory

/-- Changes the entries of the directory that a list of names leads to. Where it leads to no
directory nothing changes. -/
def changeEntries (f : Branch → Branch) : List String → Branch → Branch
  | [], entries => f entries
  | name :: path, entries =>
    Entries.modify name
      (fun
        | .file a content => .file a content
        | .directory a inner => .directory a (changeEntries f path inner))
      entries

/-- Changes the entries of the directory at a path. -/
def Directory.changeAt (path : List String) (f : Branch → Branch) (d : Directory) : Directory :=
  { d with entries := changeEntries f path d.entries }

/-- The tree of a new session: the home of the user with a directory for projects, and a
directory for temporary files that is open to all. -/
def Directory.initial (user : String) : Directory :=
  let projects := Node.newDirectory "projects" user
  let home := Node.directory ⟨user, user, .ofDirectory⟩ [("projects", projects)]
  ⟨⟨"/", "root", .ofDirectory⟩,
    [("home", .directory ⟨"home", "root", .ofDirectory⟩ [(user, home)]),
      ("tmp", .directory ⟨"tmp", "root", .all⟩ [])]⟩

end Workbench.Tree
