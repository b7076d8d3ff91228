import Workbench.Shell.Handler

/-!
# Making and removing files

Each operand is carried out on the tree that the operands before it have left; an operand that
fails adds an error line, and what it has done before it failed stays done. `rmdir` is the exception:
it looks at all operands before it removes any of them.
-/

namespace Workbench.Shell

open Workbench.Tree (Node Directory Branch)

/-- A change of a tree: the error line if it fails, and the tree that it leaves. -/
abbrev Change := Directory → Option String × Directory

/-- Carries out changes one after another; those that fail add their error lines. -/
def applyChanges (changes : List Change) (fs : Directory) : Directory × List String :=
  changes.foldl
    (fun (fs, errors) change =>
      let (line, fs) := change fs
      (fs, errors ++ line.toList))
    (fs, [])

/-- A handler that carries out a change for each operand. -/
def changing (change : Command → State → String → Change) (command : Command) (state : State) :
    Outcome :=
  let (fs, errors) := applyChanges (command.args.map (change command state)) state.fs
  .changeTree state fs errors

/-! ## Directories -/

/-- Why a directory cannot be made. -/
inductive MakeFault where
  | exists
  | notDirectory
  | noParent
  deriving Repr, DecidableEq

def MakeFault.message : MakeFault → String
  | .exists => "File exists"
  | .notDirectory => "Not a directory"
  | .noParent => "No such file or directory"

/-- Makes the directory at a path below entries. With `parents`, what is missing on the way is made
too and a directory that is there already is accepted. The entries are changed on the way down, as
far as it goes. -/
def makeDirectory (owner : String) (parents : Bool) :
    List String → Branch → Option MakeFault × Branch
  | [], entries => (if parents then none else some .exists, entries)
  | name :: rest, entries =>
    match Entries.lookup name entries with
    | some (.file _ _) => (some .notDirectory, entries)
    | some (.directory a inner) =>
      let (fault, inner) := makeDirectory owner parents rest inner
      (fault, Entries.store name (.directory a inner) entries)
    | none =>
      if rest.isEmpty then (none, Entries.store name (.newDirectory name owner) entries)
      else if parents then
        let (fault, inner) := makeDirectory owner parents rest []
        (fault, Entries.store name (.directory ⟨name, owner, .ofDirectory⟩ inner) entries)
      else (some .noParent, entries)

/-- Makes the directory that an operand names. -/
def mkdirChange (command : Command) (state : State) (path : String) : Change := fun fs =>
  let target := Tree.normalize path state.cwd
  let (fault, entries) := makeDirectory state.user (command.hasOption "p") target fs.entries
  (fault.map fun fault => s!"mkdir: cannot create directory '{path}': {fault.message}",
    { fs with entries })

/-- Makes directories. -/
def mkdir : Handler :=
  handler fun command state =>
    if command.args.isEmpty then .only (.error "mkdir: missing operand")
    else changing mkdirChange command state

/-- Why an operand of `rmdir` cannot be removed; nothing if it can. -/
def rmdirFault? (state : State) (path : String) : Option String :=
  let location := state.locateIn state.fs path
  if location.parent.isNone && (state.node? path).isSome then some "Invalid argument"
  else
    match location.node with
    | none => some "No such file or directory"
    | some (.file _ _) => some "Not a directory"
    | some (.directory _ entries) => if entries.isEmpty then none else some "Directory not empty"

/-- Removes the entry at a place. -/
def removeAt (location : Tree.Location) (fs : Directory) : Directory :=
  match location.parent with
  | some place => fs.changeAt place.path (Entries.erase location.name)
  | none => fs

/-- Removes empty directories, all of them or none. -/
def rmdir : Handler :=
  handler fun command state =>
    if command.args.isEmpty then .only (.error "rmdir: missing operand")
    else
      -- every operand is judged by the tree as it was before the command
      match command.args.findSome? fun path => (rmdirFault? state path).map (path, ·) with
      | some (path, fault) => .only (.error s!"rmdir: failed to remove '{path}': {fault}")
      | none =>
        let fs := command.args.foldl
          (fun fs path => removeAt (state.locateIn state.fs path) fs) state.fs
        .changeTree state fs []

/-! ## Files -/

/-- Makes an empty file where an operand leads to nothing. -/
def touchChange (_ : Command) (state : State) (path : String) : Change := fun fs =>
  if (Tree.resolve path state.cwd fs).node.isSome then (none, fs)
  else
    let location := state.locateIn fs path
    match location.parent with
    | none => (some s!"touch: cannot touch '{path}': No such file or directory", fs)
    | some place =>
      (none, fs.changeAt place.path
        (Entries.store location.name (.newFile location.name state.user "")))

/-- Makes empty files. -/
def touch : Handler :=
  handler fun command state =>
    if command.args.isEmpty then .only (.error "touch: missing file operand")
    else changing touchChange command state

/-- Removes what an operand names: a directory only with `r`, and without a word about what is not
there with `f`. -/
def rmChange (command : Command) (state : State) (path : String) : Change := fun fs =>
  let location := state.locateIn fs path
  match location.node with
  | none =>
    if (Tree.resolve path state.cwd fs).node.isSome then
      (some s!"rm: refusing to remove '.' or '..' directory: skipping '{path}'", fs)
    else if command.hasOption "f" then (none, fs)
    else (some s!"rm: cannot remove '{path}': No such file or directory", fs)
  | some node =>
    if node.isDirectory && !(command.hasOption "r" || command.hasOption "R") then
      (some s!"rm: cannot remove '{path}': Is a directory", fs)
    else (none, removeAt location fs)

/-- Removes files and directories. -/
def rm : Handler :=
  handler fun command state =>
    if command.args.isEmpty then
      .only (if command.hasOption "f" then .text "" else .error "rm: missing operand")
    else changing rmChange command state

/-! ## Contents -/

/-- The content of a file as it is shown: without one line feed at its end. -/
def shown (content : String) : String :=
  let cs := content.toList
  if cs.getLast? == some '\n' then String.ofList cs.dropLast else content

/-- What `cat` shows for an operand: the content of a file, or an error line. -/
def catPart (state : State) (path : String) : Except String String :=
  match state.node? path with
  | none => .error s!"cat: {path}: No such file or directory"
  | some (.directory _ _) => .error s!"cat: {path}: Is a directory"
  | some (.file _ content) => .ok (shown content)

/-- Shows files one after another, with error lines in the places of those that cannot be shown. -/
def cat : Handler :=
  readOnly fun command state =>
    let parts := command.args.map (catPart state)
    let output := "\n".intercalate (parts.map fun
      | .ok text => text
      | .error line => line)
    if parts.any (!·.isOk) then .error output else .text output

/-! ## Stand-ins -/

/-- A command that answers with a fixed text and does nothing. -/
def standIn (answer : String) : Handler :=
  readOnly fun _ _ => .text answer

/-- Copying is not available. -/
def cp : Handler := standIn "cp: Not fully implemented in simulation"

/-- Moving is not available. -/
def mv : Handler := standIn "mv: Not fully implemented in simulation"

/-- Finding is not available. -/
def find : Handler := standIn "find: Not fully implemented in simulation"

/-- Permissions are not changed. -/
def chmod : Handler := standIn "chmod: Permissions updated in VFS (simulated)"

/-- Owners are not changed. -/
def chown : Handler := standIn "chown: Owner updated in VFS (simulated)"

end Workbench.Shell
