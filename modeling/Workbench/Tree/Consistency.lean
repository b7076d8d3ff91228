import Workbench.Tree.Path

/-!
# Consistency of a tree

Every entry of a directory should be stored under the name its node has by itself, and no name
should be empty or contain a slash.
-/

namespace Workbench.Tree

inductive Flaw where
  | invalidName (key parent : String)
  | misnamed (path name : String)
  deriving Repr, DecidableEq

def Flaw.message : Flaw → String
  | .invalidName key parent => s!"Invalid node name '{key}' under {parent}"
  | .misnamed path name => s!"Node at {path} is named '{name}'"

/-- Whether a key is the name of an entry: not empty and without slashes. -/
def isPlainName (key : String) : Bool :=
  !key.isEmpty && !key.toList.contains '/'

/-- The path of an entry of the directory at `parent`. -/
def childPath (parent key : String) : String :=
  Text.withoutTrailingSlashes parent ++ "/" ++ key

/-- The flaws of one entry of the directory at `parent`. -/
def entryFlaws (parent key : String) (node : Node) : List Flaw :=
  (if isPlainName key then [] else [.invalidName key parent]) ++
    (if node.name = key then [] else [.misnamed (childPath parent key) node.name])

mutual

/-- The flaws below a node that stands at `path`. -/
def Node.flaws (path : String) : Node → List Flaw
  | .file _ _ => []
  | .directory _ entries => flawsOfEntries path entries

/-- The flaws of the entries of a directory that stands at `path`, and of what is below them. -/
def flawsOfEntries (path : String) : List (String × Node) → List Flaw
  | [] => []
  | (key, node) :: rest =>
    entryFlaws path key node ++ node.flaws (childPath path key) ++ flawsOfEntries path rest

end

end Workbench.Tree
