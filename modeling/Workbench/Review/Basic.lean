import Workbench.Editor
import Workbench.Patch.Completion
import Workbench.Project.Store

/-!
# Reviews

A review holds the patches of a project that wait for approval, and the files of the project as the
store listed them last. Whoever follows the files finds every listing in `announced`, oldest first.

Approved patches are applied by a round; see `Workbench.Review.Round`.
-/

namespace Workbench

open Project (File Store)

/-- The patches that wait for approval, and what is needed to apply them. -/
structure Review where
  store : Store
  /-- The open project. -/
  project : Option String
  /-- The editor in which patches are typed while they are applied. -/
  editor : Option Editor
  /-- How many characters are typed at once. -/
  chunkSize : Int
  /-- The files of the project as they were listed last. -/
  files : List File
  /-- The patches that wait for approval. -/
  pending : List Patch
  /-- What is being typed, by the id of the file. -/
  streaming : List (String × String)
  /-- The listings of files that were not taken yet. -/
  announced : List (List File)
  /-- How many patches were made without an id of their own. -/
  made : Nat
  deriving Inhabited

namespace Review

/-- A review without patches and files. -/
def start (store : Store) (project : Option String) (editor : Option Editor) (chunkSize : Int)
    (made : Nat) : Review :=
  { store, project, editor, chunkSize, files := [], pending := [], streaming := [],
    announced := [], made }

def openProject? (r : Review) : Except Failure String :=
  match r.project with
  | some project => .ok project
  | none => .error .noProject

/-- Takes over a listing of the files. -/
def takeListing (files : List File) (r : Review) : Review :=
  { r with files, announced := r.announced ++ [files] }

/-- Asks the store for the files of a project. -/
def list (project : String) (r : Review) : Except Failure (List File) × Review :=
  let (listing, store) := r.store.list project
  let r := { r with store }
  match listing with
  | .ok files => (.ok files, r.takeListing files)
  | .error e => (.error e, r)

/-- Asks the store for the files of the open project. -/
def refresh (r : Review) : Except Failure (List File) × Review :=
  match r.openProject? with
  | .ok project => r.list project
  | .error e => (.error e, r)

/-- Makes the patches of a completion the ones that wait for approval. -/
def parse (text : String) (r : Review) : List Patch × Review :=
  let patches := Patch.parse r.made r.files text
  (patches, { r with pending := patches, made := r.made + patches.length })

/-- The patch with an id that waits for approval. -/
def find? (r : Review) (id : String) : Option Patch :=
  r.pending.find? (·.id == id)

/-- Takes the patches with an id out of those that wait. -/
def discard (id : String) (r : Review) : Review :=
  { r with pending := r.pending.filter (·.id != id) }

def reject (patch : Patch) (r : Review) : Review :=
  r.discard patch.id

/-- The listings that were not taken yet, and the review after they were taken. -/
def takeAnnounced (r : Review) : List (List File) × Review :=
  (r.announced, { r with announced := [] })

end Review

end Workbench
