import Workbench.Failure
import Workbench.Shell.Execute
import Workbench.Storage.Basic
import Workbench.Project.File
import Workbench.Project.Slug

/-!
# Sessions

A session has a state that outlives it: after every command the state is persisted in a storage, and
a new session takes up what it finds there. A blob that cannot be read counts as none. Persisting is
the last step of an operation; a state that cannot be written fails it then (`unsaved?`), with
everything else done and the storage as it was.

`sync` rebuilds the directory that shows a project from the files of the project. If that is not
possible the whole tree starts afresh. It works on a copy of the tree, which may be as deep as it
likes here, as if copying never ran out of stack.
-/

namespace Workbench

open Shell (State Entry EntryKind Result)
open Workbench.Tree (Node Branch Directory)
open Project (File)

/-- A session and the storage in which it is persisted. -/
structure Session where
  storage : Storage
  key : String
  /-- The user of a new session. -/
  user : String
  state : State
  deriving Repr, BEq, Inhabited

namespace Session

/-- The key under which sessions are persisted unless another one is given. -/
def defaultKey : String := "speed_terminal_state"

/-- The state that is persisted under a key, or that of a new session. -/
def load (storage : Storage) (key user : String) : State :=
  match storage.get? key with
  | none => .initial user
  | some blob =>
    match State.ofBlob blob with
    | .ok state => state
    | .error _ => .initial user

/-- Takes up the session that is persisted under a key. -/
def start (storage : Storage) (user key : String) : Session :=
  ⟨storage, key, user, load storage key user⟩

/-- The storage with the state persisted in it. If the state cannot be written the storage keeps what
it has. Sessions are compared without a look at how deep their trees are. -/
@[irreducible]
def persisted (s : Session) : Storage :=
  match s.state.blob with
  | some blob => s.storage.set s.key blob
  | none => s.storage

/-- Persists the state. -/
def save (s : Session) : Session :=
  { s with storage := s.persisted }

/-- The failure of an operation that leaves a state which it cannot persist. -/
def unsaved? (s : Session) : Option Failure :=
  match s.state.blob with
  | some _ => none
  | none => some .unwritable

/-- Adds entries to the screen. -/
def display (s : Session) (entries : List Entry) : Session :=
  { s with state := { s.state with history := s.state.history ++ entries } }

/-- Empties the screen. -/
def wipe (s : Session) : Session :=
  { s with state := { s.state with history := [] } }

/-- What a result does to the screen: its text is added, and a signal for an empty screen empties
it. -/
def showResult (s : Session) : Result → Session
  | .signal .clearScreen => s.wipe
  | .signal _ => s
  | .text output => if output.isEmpty then s else s.display [⟨.output, output, none⟩]
  | .error output => if output.isEmpty then s else s.display [⟨.error, output, none⟩]

/-- Records a line before it is carried out. -/
def record (s : Session) (line : String) : Session :=
  let s := s.display [⟨.input, line, some s.state.cwd⟩]
  { s with state := { s.state with commandLog := s.state.commandLog ++ [line] } }

/-- Carries out a line. A blank line does nothing and is not recorded. -/
def execute (clock : Clock) (line : String) (s : Session) : Option Result × Session :=
  match Shell.Command.parse? line with
  | none => (none, s)
  | some command =>
    let s := s.record line
    let outcome := Shell.execute Shell.builtins clock command s.state
    let s := { s with state := outcome.latest s.state }
    (some outcome.result, (s.showResult outcome.result).save)

/-- Adds lines to the screen. -/
def appendOutput (lines : List String) (kind : EntryKind) (s : Session) : Session :=
  (s.display (lines.map fun line => ⟨kind, line, none⟩)).save

/-- Empties the screen and persists that. -/
def clearHistory (s : Session) : Session :=
  s.wipe.save

/-- Starts afresh; nothing stays persisted. -/
def reset (s : Session) : Session :=
  { s with state := .initial s.user, storage := s.storage.remove s.key }

/-- The path of the directory that shows a project. -/
def projectDirectory (s : Session) (projectName : String) : String :=
  s!"/home/{s.state.user}/projects/{Project.slug projectName}"

/-! ## The directory of a project -/

/-- Changes the entries of the directory at a path, making the directories that are missing; not
possible if a file is in the way. -/
def withDirectory (owner : String) (change : Branch → Option Branch) :
    List String → Branch → Option Branch
  | [], entries => change entries
  | name :: path, entries =>
    match Entries.lookup name entries with
    | none =>
      (withDirectory owner change path []).map fun inner =>
        Entries.store name (.directory ⟨name, owner, .ofDirectory⟩ inner) entries
    | some (.directory a inner) =>
      (withDirectory owner change path inner).map fun inner =>
        Entries.store name (.directory a inner) entries
    | some (.file _ _) => none

/-- Puts a file under a name; not possible if a directory has that name. -/
def putFile (owner name content : String) (entries : Branch) : Option Branch :=
  match Entries.lookup name entries with
  | some (.directory _ _) => none
  | _ => some (Entries.store name (.newFile name owner content) entries)

/-- Whether segments can be those of a project file. -/
def areFileSegments (segments : List String) : Bool :=
  !segments.isEmpty && segments.all fun s => s != "." && s != ".."

/-- Puts a project file at its place below the directory of the project. -/
def placeFile (owner : String) (entries : Branch) (file : File) : Option Branch :=
  let segments := Tree.segments file.name
  if areFileSegments segments then
    withDirectory owner (putFile owner (segments.getLastD "") file.content) segments.dropLast entries
  else none

/-- The entries of the directory that shows project files. -/
def projectEntries (owner : String) (files : List File) : Option Branch :=
  files.foldlM (placeFile owner) []

/-- The tree in which the directory of a project shows the given files. -/
def syncedTree? (state : State) (projectName : String) (files : List File) : Option Directory :=
  let slug := Project.slug projectName
  if slug.isEmpty then none
  else do
    let shown ← projectEntries state.user files
    let entries ← withDirectory state.user (fun _ => some shown)
      ["home", state.user, "projects", slug] state.fs.entries
    pure { state.fs with entries }

/-- Rebuilds the directory of a project, or starts with a new tree if that is not possible. -/
def sync (projectName : String) (files : List File) (s : Session) : Session :=
  let fs := (syncedTree? s.state projectName files).getD (.initial s.state.user)
  { s with state := { s.state with fs } }.save

end Session

end Workbench
