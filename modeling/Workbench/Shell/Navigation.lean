import Workbench.Shell.Handler

/-!
# Moving around

`pwd` shows the current directory, `cd` changes it, and `ls` lists a directory.
-/

namespace Workbench.Shell

open Workbench.Tree (Node Directory)

/-- Shows the current directory. -/
def pwd : Handler :=
  readOnly fun _ state => .text state.cwd

/-- The line of an entry in a long listing. -/
def longLine (d : Directory) (name : String) : String :=
  match Entries.lookup name d.entries with
  | some node =>
    s!"{node.attributes.permissions.text}  {node.attributes.owner}  {node.size}  {name}"
  | none => name

/-- The names that a listing shows: hidden ones only if they are asked for. -/
def listedNames (command : Command) (d : Directory) : List String :=
  let names := d.sortedNames
  let shown := if command.hasOption "a" then names else names.filter (!·.startsWith ".")
  if command.hasOption "r" then shown.reverse else shown

def listing (command : Command) (d : Directory) : String :=
  let names := listedNames command d
  if command.hasOption "l" then "\n".intercalate (names.map (longLine d))
  else "  ".intercalate names

/-- Lists a directory, by default the current one. -/
def ls : Handler :=
  readOnly fun command state =>
    let target := command.args.headD "."
    match state.node? target with
    | none => .error s!"ls: cannot access '{target}': No such file or directory"
    | some (.file a _) => .text a.name
    | some (.directory a entries) => .text (listing command ⟨a, entries⟩)

/-- Changes the current directory, by default to the home directory. -/
def cd : Handler :=
  handler fun command state =>
    let target := command.args.headD "~"
    let found := Tree.resolve target state.cwd state.fs
    match found.node with
    | none => .only (.error s!"cd: {target}: No such file or directory")
    | some (.file _ _) => .only (.error s!"cd: {target}: Not a directory")
    | some (.directory _ _) => .change { state with cwd := found.fullPath } (.text "")

end Workbench.Shell
