import Workbench.Review.Basic

/-!
# Rounds

A round applies patches side by side. Each patch has a task, which goes through stages: it takes the
lock of the name of its file, finds the file or creates it, types the new content into the editor,
updates the file in the store, and asks the store for the files again. A task stands between two
stages wherever another one may go first: before each call of the store, after each piece of text
that was typed, and while it waits for a lock.

`Round.advance` carries one task from where it stands to where it stands next. The order in which
tasks go is that of a queue: a task that types, or calls a slow store, goes to the back of it. The
lock of a name is handed over in the order in which tasks asked for it.
-/

namespace Workbench.Review

open Project (File)

/-- Where a task stands. -/
inductive Stage where
  /-- It has not started. -/
  | fresh
  /-- It waits for the lock of its file name, or has just been handed it. -/
  | queued
  /-- It holds the lock and is about to create its file in a project. -/
  | creating (project : String)
  /-- It has typed a piece of text and is about to type the given ones. -/
  | typing (file : File) (frames : List String)
  /-- It is about to update its file. -/
  | updating (file : File)
  /-- It is about to ask for the files of a project. -/
  | listing (file : File) (project : String)
  /-- It is done. -/
  | finished (result : Except Failure File)

/-- A patch that is being applied. -/
structure Task where
  patch : Patch
  stage : Stage

namespace Task

/-- The lock that a task needs: the name of its file without regard to case. -/
def lock (t : Task) : String :=
  Text.lower t.patch.fileName

/-- What came of a task. -/
def result? (t : Task) : Option (Except Failure File) :=
  match t.stage with
  | .finished result => some result
  | _ => none

end Task

structure Round where
  review : Review
  tasks : List Task
  /-- The numbers of the tasks that may go on, in order. -/
  ready : List Nat
  /-- The locks that are held, with the numbers of the tasks that wait for each. -/
  locks : List (String × List Nat)

namespace Round

/-- A round for patches before anything is done. -/
def start (review : Review) (patches : List Patch) : Round :=
  { review, tasks := patches.map (⟨·, .fresh⟩), ready := List.range patches.length, locks := [] }

/-- Puts a task at a stage. -/
def move (i : Nat) (stage : Stage) (r : Round) : Round :=
  { r with tasks := r.tasks.modify i ({ · with stage }) }

/-- Ends a task. -/
def finish (i : Nat) (result : Except Failure File) (r : Round) : Round :=
  r.move i (.finished result)

/-- Gives a lock back: the first task that waits for it gets it and may go on. -/
def release (lock : String) (r : Round) : Round :=
  match Entries.lookup lock r.locks with
  | some (next :: waiting) =>
    -- the lock stays taken while it is handed over, so that no newcomer can slip in between
    { r with locks := Entries.store lock waiting r.locks, ready := r.ready ++ [next] }
  | _ => { r with locks := Entries.erase lock r.locks }

/-- Ends the typing of a task. -/
def endTyping (i : Nat) (file : File) (r : Round) : Round :=
  { r with review.streaming := Entries.erase file.id r.review.streaming }.move i (.updating file)

/-- Types the next piece of text, if there is one and the editor still has the file. -/
def typeNext (i : Nat) (file : File) (frames : List String) (r : Round) : Round :=
  match frames, r.review.editor with
  | frame :: rest, some editor =>
    let (found, editor) := editor.lookup file.name
    let r := { r with review.editor := some editor }
    match found with
    -- the file was closed meanwhile: the store is still updated, nothing more is typed
    | none => r.endTyping i file
    | some buffer =>
      match editor.setValue buffer frame with
      | .error _ => r.endTyping i file
      | .ok editor =>
        { r with
          review.editor := some editor
          review.streaming := Entries.store file.id frame r.review.streaming }.move i
          (.typing file rest)
  | _, _ => r.endTyping i file

/-- Opens the file of a task in the editor, if there is one, and starts to type. -/
def beginTyping (i : Nat) (file : File) (patch : Patch) (r : Round) : Round :=
  match r.review.editor with
  | none => r.move i (.updating file)
  | some editor =>
    let r := { r with review.editor := some (editor.openFile file) }
    match Patch.frames r.review.chunkSize patch.newContent with
    | .error fault => r.finish i (.error (.chunk fault))
    | .ok frames => r.typeNext i file frames

/-- Finds the file of a task that holds its lock. A file that is there is typed at once. -/
def resolve (i : Nat) (task : Task) (r : Round) : Round :=
  match Project.findFile? r.review.files task.patch.fileName with
  | some file => (r.release task.lock).beginTyping i file task.patch
  | none =>
    match r.review.openProject? with
    | .error e => (r.release task.lock).finish i (.error e)
    | .ok project => r.move i (.creating project)

/-- Takes the lock of a task, or waits for it. -/
def takeLock (i : Nat) (task : Task) (r : Round) : Round :=
  match Entries.lookup task.lock r.locks with
  | some waiting =>
    { r with locks := Entries.store task.lock (waiting ++ [i]) r.locks }.move i .queued
  | none => { r with locks := Entries.store task.lock [] r.locks }.resolve i task

/-- Creates the file of a task. -/
def create (i : Nat) (project : String) (task : Task) (r : Round) : Round :=
  let name := task.patch.fileName
  let (created, store) := r.review.store.create project name "" (Project.languageOf name)
  let r := { r with review.store := store }
  match created with
  | .error e => (r.release task.lock).finish i (.error e)
  | .ok file =>
    ({ r with review.files := r.review.files ++ [file] }.release task.lock).beginTyping i file
      task.patch

def update (i : Nat) (file : File) (task : Task) (r : Round) : Round :=
  let (updated, store) := r.review.store.update file.id task.patch.newContent
  let r := { r with review.store := store }
  match updated with
  | .error e => r.finish i (.error e)
  | .ok _ =>
    match r.review.openProject? with
    | .error e => r.finish i (.error e)
    | .ok project => r.move i (.listing file project)

/-- Asks for the files after an update; the patch of the task does not wait any more. -/
def conclude (i : Nat) (file : File) (project : String) (task : Task) (r : Round) : Round :=
  let (listed, review) := r.review.list project
  let r := { r with review }
  match listed with
  | .error e => r.finish i (.error e)
  | .ok files =>
    let applied := (Project.findFile? files file.name).getD
      { file with content := task.patch.newContent }
    { r with review := r.review.discard task.patch.id }.finish i (.ok applied)

/-- Carries a task to where it stands next. -/
def advance (i : Nat) (r : Round) : Round :=
  match r.tasks[i]? with
  | none => r
  | some task =>
    match task.stage with
    | .fresh => r.takeLock i task
    | .queued => r.resolve i task
    | .creating project => r.create i project task
    | .typing file frames => r.typeNext i file frames
    | .updating file => r.update i file task
    | .listing file project => r.conclude i file project task
    | .finished _ => r

/-- What becomes of the turn of a task. -/
inductive Turn where
  /-- The task goes on. -/
  | goesOn
  /-- It goes to the back of the queue. -/
  | yields
  /-- It is done, or waits for a lock. -/
  | stops
  deriving Repr, DecidableEq

/-- What becomes of the turn of a task that stands at a stage. -/
def turn (store : Project.Store) : Stage → Turn
  | .fresh => .goesOn
  | .queued => .stops
  | .creating _ => if store.isSlow .create then .yields else .goesOn
  | .typing _ _ => .yields
  | .updating _ => if store.isSlow .update then .yields else .goesOn
  | .listing _ _ => if store.isSlow .list then .yields else .goesOn
  | .finished _ => .stops

/-- The turn of a task: it advances at least once. -/
def takeTurn (i : Nat) : Nat → Round → Round
  | 0, r => r
  | fuel + 1, r =>
    let r := r.advance i
    match r.tasks[i]? with
    | none => r
    | some task =>
      match turn r.review.store task.stage with
      | .goesOn => takeTurn i fuel r
      | .yields => { r with ready := r.ready ++ [i] }
      | .stops => r

/-- How often a task can advance within one turn. -/
def turnLength : Nat := 8

/-- How often a task for a patch can have a turn. -/
def turnsOf (p : Patch) : Nat := p.newContent.length + 8

/-- Lets the tasks take turns until none may go on. -/
def drive : Nat → Round → Round
  | 0, r => r
  | fuel + 1, r =>
    match r.ready with
    | [] => r
    | i :: ready => drive fuel ({ r with ready }.takeTurn i turnLength)

/-- Carries a round to its end. -/
def run (r : Round) : Round :=
  r.drive (r.tasks.foldr (fun t turns => turnsOf t.patch + turns) 0)

/-- What came of the patches, in order. -/
def results (r : Round) : List (Except Failure File) :=
  r.tasks.filterMap Task.result?

end Round

end Workbench.Review
