import Workbench.Session
import Workbench.Review.Apply

/-!
# Workspaces

A workspace has a session and a review. While a project is open, the directory of the project in the
session shows its files: every listing that the review takes over is mirrored there.
-/

namespace Workbench

open Project (File Store)

/-- A session beside the review of a project. -/
structure Workspace where
  session : Session
  review : Review
  /-- The name under which the open project is shown. -/
  projectName : Option String
  deriving Inhabited

namespace Workspace

/-- How many characters are typed at once unless something else is given. -/
def defaultChunkSize : Int := 150

/-- A workspace that takes up the session of a user; no project is open. -/
def start (storage : Storage) (user : String) (store : Store) (editor : Option Editor)
    (chunkSize : Int) (made : Nat) : Workspace :=
  { session := .start storage user Session.defaultKey,
    review := .start store none editor chunkSize made, projectName := none }

/-- Mirrors the listings that the review took over. -/
def mirror (w : Workspace) : Workspace :=
  let (listings, review) := w.review.takeAnnounced
  match w.projectName with
  | none => { w with review }
  | some name =>
    { w with review, session := listings.foldl (fun s files => s.sync name files) w.session }

/-- Lets the review do something and mirrors what it announces. -/
def reviewing {α : Type} (act : Review → α × Review) (w : Workspace) : α × Workspace :=
  let (answer, review) := act w.review
  (answer, { w with review }.mirror)

/-- Opens a project. The patches of the project before do not wait any more. -/
def openProject (id name : String) (w : Workspace) : Except Failure (List File) × Workspace :=
  { w with projectName := some name, review.project := some id, review.pending := [] }.reviewing
    Review.refresh

/-- Asks the store for the files of the open project. -/
def refresh (w : Workspace) : Except Failure (List File) × Workspace :=
  w.reviewing Review.refresh

/-- Deletes files from the store one by one, up to the first that cannot be deleted. -/
def deleteFiles : List File → Store → Except Failure Unit × Store
  | [], store => (.ok (), store)
  | file :: rest, store =>
    match store.delete file.id with
    | (.ok _, store) => deleteFiles rest store
    | (.error e, store) => (.error e, store)

/-- Deletes all files of the open project. The files are asked for afterwards, whatever happened; how
many were there before is the answer. -/
def deleteAll (w : Workspace) : Except Failure Nat × Workspace :=
  let files := w.review.files
  let (deleted, store) := deleteFiles files w.review.store
  let (listed, w) := { w with review.store := store }.refresh
  match listed, deleted with
  -- a failure of the last step hides one of the steps before
  | .error e, _ => (.error e, w)
  | .ok _, .error e => (.error e, w)
  | .ok _, .ok _ => (.ok files.length, w)

/-- What the development server says when it starts. -/
def serverLog : List String :=
  ["> dev", "> vite", "", "  VITE v5.0.0  ready in 312 ms", "",
    "  ➜  Local:   http://localhost:5173/", "  ➜  Network: use --host to expose"]

/-- Adds lines to the screen of the session. -/
def say (lines : List String) (kind : Shell.EntryKind) (w : Workspace) : Workspace :=
  { w with session := w.session.appendOutput lines kind }

/-- Acts on a result that asks for something. -/
def act (result : Shell.Result) (w : Workspace) : Except Failure Unit × Workspace :=
  match result with
  | .signal .deleteAllFiles =>
    match w.review.project with
    | none => (.ok (), w.say ["rm: no project is open"] .error)
    | some _ =>
      match w.deleteAll with
      | (.ok count, w) => (.ok (), w.say [s!"Removed {count} project files"] .output)
      | (.error e, w) => (.error e, w)
  | .signal .runDevServer => (.ok (), w.say serverLog .output)
  | _ => (.ok (), w)

/-- Carries out a line of the session and acts on its result. -/
def execute (clock : Clock) (line : String) (w : Workspace) :
    Except Failure (Option Shell.Result) × Workspace :=
  let (result, session) := w.session.execute clock line
  let w := { w with session }
  match result with
  | none => (.ok none, w)
  | some result =>
    let (done, w) := w.act result
    (done.map fun _ => some result, w)

/-- Starts the session afresh; the open project is mirrored again. -/
def resetTerminal (w : Workspace) : Workspace :=
  let session := w.session.reset
  match w.projectName with
  | none => { w with session }
  | some name => { w with session := session.sync name w.review.files }

/-- Makes the patches of a completion the ones that wait for approval. -/
def parse (text : String) (w : Workspace) : List Patch × Workspace :=
  w.reviewing (Review.parse text)

def applyPatch (patch : Patch) (w : Workspace) : Except Failure File × Workspace :=
  w.reviewing (Review.apply patch)

/-- Applies all patches that wait. -/
def applyAll (w : Workspace) : Except Failure (List File) × Workspace :=
  w.reviewing Review.applyAll

def rejectPatch (patch : Patch) (w : Workspace) : Workspace :=
  (w.reviewing fun r => ((), r.reject patch)).2

/-- The workspace as it is after a restart: the session is taken up again, and no project is open. -/
def restarted (w : Workspace) : Workspace :=
  start w.session.storage w.session.user w.review.store w.review.editor w.review.chunkSize
    w.review.made

end Workspace

end Workbench
