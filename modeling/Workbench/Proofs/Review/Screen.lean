import Workbench.Proofs.Editor.Typing
import Workbench.Proofs.Review.Locking

/-!
# What a step shows

While a patch is applied its content is typed into the editor, and the text typed last is kept by
the id of the file. Both make up the `Screen`, at which `Stride` does not look. `Plays` lists what a
step of a task can do to the screen, one constructor for each thing, and `Piece` what becomes of the
pieces that are left to be typed: the next one is typed if its file has a live buffer, and else the
typing ends. `Round.exists_plays` says that every step is one of them.
-/

namespace Workbench.Review

open Project (File)

/-- What is shown while patches are applied. -/
structure Screen where
  editor : Option Editor
  /-- The text that was typed last, by the id of its file. -/
  streaming : List (String × String)

/-- What a review shows. -/
def screen (v : Review) : Screen := ⟨v.editor, v.streaming⟩

/-- A look for the live buffer of a file. -/
structure View where
  file : File
  editor : Option Editor

/-- The number of the buffer that is found. -/
def View.number? (view : View) : Option ℕ :=
  view.editor.bind fun e => (e.lookup view.file.name).1

/-- A task looks for its file. -/
inductive Stage.Seeks : Stage → Prop
  | fresh : Seeks .fresh
  | queued : Seeks .queued
  | creating (project : String) : Seeks (.creating project)

/-- What becomes of the pieces of a text that are left. -/
inductive Piece (file : File) : List String → Screen → Stage → Screen → Prop
  /-- There are none. -/
  | ended (sc : Screen) :
      Piece file [] sc (.updating file) ⟨sc.editor, Entries.erase file.id sc.streaming⟩
  /-- The file has no live buffer: nothing more is typed. -/
  | lost {frame rest} {sc : Screen} (gone : View.number? ⟨file, sc.editor⟩ = none) :
      Piece file (frame :: rest) sc (.updating file)
        ⟨sc.editor.map fun e => (e.lookup file.name).2, Entries.erase file.id sc.streaming⟩
  /-- The next one is typed. -/
  | typed {frame rest number streaming} {e : Editor}
      (found : (e.lookup file.name).1 = some number) :
      Piece file (frame :: rest) ⟨some e, streaming⟩ (.typing file rest)
        ⟨some ((e.lookup file.name).2.typeInto number frame),
          Entries.store file.id frame streaming⟩

/-- What a step of the task of a patch does to its stage and to the screen, when `size` characters
are typed at once. -/
inductive Plays (p : Patch) (size : ℤ) : Stage → Screen → Stage → Screen → Prop
  /-- The task still looks for its file, or fails to find or create it. -/
  | seek {s s' sc} (before : s.Seeks) (after : s'.Seeks ∨ ∃ e, s' = .finished (.error e)) :
      Plays p size s sc s' sc
  /-- The file is there, but no editor. -/
  | unseen {s file streaming} (before : s.Seeks) :
      Plays p size s ⟨none, streaming⟩ (.updating file) ⟨none, streaming⟩
  /-- The file is opened, and the content cannot be cut into pieces. -/
  | refused {s file streaming fault} {e : Editor} (before : s.Seeks)
      (uncut : Patch.frames size p.newContent = .error fault) :
      Plays p size s ⟨some e, streaming⟩ (.finished (.error (.chunk fault)))
        ⟨some (e.openFile file), streaming⟩
  /-- The file is opened, and the typing begins. -/
  | begin {s s' file streaming frames sc'} {e : Editor} (before : s.Seeks)
      (cut : Patch.frames size p.newContent = .ok frames)
      (piece : Piece file frames ⟨some (e.openFile file), streaming⟩ s' sc') :
      Plays p size s ⟨some e, streaming⟩ s' sc'
  /-- The typing goes on. -/
  | goOn {file frames s' sc sc'} (piece : Piece file frames sc s' sc') :
      Plays p size (.typing file frames) sc s' sc'
  /-- The file is updated, or fails to be. -/
  | update {file s' sc}
      (after : (∃ project, s' = .listing file project) ∨ ∃ e, s' = .finished (.error e)) :
      Plays p size (.updating file) sc s' sc
  /-- The files are listed, or fail to be. -/
  | conclude {file project result sc} :
      Plays p size (.listing file project) sc (.finished result) sc

namespace Round

/-- A round in which one of the given tasks has come to a stage, and which shows a screen. -/
structure Comes (i : ℕ) (s : Stage) (sc : Screen) (tasks : List Task) (r : Round) : Prop where
  screen_eq : r.review.screen = sc
  tasks_eq : r.tasks = restage i s tasks

variable {i : ℕ} {t : Task} {s : Stage} {r : Round} {file : File} {project : String}

/-- Typing shows the next frame. -/
theorem typeNext_piece (i : ℕ) (file : File) (frames : List String) (r : Round) :
    ∃ s sc, Piece file frames r.review.screen s sc ∧
      Comes i s sc r.tasks (r.typeNext i file frames) := by
  cases frames with
  | nil => exact ⟨_, _, .ended _, rfl, rfl⟩
  | cons frame rest =>
    unfold typeNext
    cases editor_eq : r.review.editor with
    | none =>
      have gone : View.number? ⟨file, r.review.screen.editor⟩ = none :=
        congrArg (View.number? ⟨file, ·⟩) editor_eq
      refine ⟨_, _, .lost gone, ?_, rfl⟩
      rw [Review.screen, Review.screen, editor_eq]
      exact congrArg (Screen.mk · _) editor_eq
    | some e =>
      have before : r.review.screen = ⟨some e, r.review.streaming⟩ :=
        congrArg (Screen.mk · _) editor_eq
      rw [before]
      dsimp only
      cases found : (e.lookup file.name).1 with
      | none => exact ⟨_, _, .lost found, rfl, rfl⟩
      | some number =>
        -- what a look-up finds is live, so nothing is in the way of typing into it
        have live : (e.lookup file.name).2.live? file.name = some number := by
          rw [Editor.live?_lookup]
          exact Editor.live?_of_lookup found
        dsimp only
        rw [Editor.setValue_of_live live]
        exact ⟨_, _, .typed found, rfl, rfl⟩

/-- A task begins to type. -/
theorem beginTyping_plays (i : ℕ) (file : File) (patch : Patch) (r : Round) (before : s.Seeks) :
    ∃ s' sc, Plays patch r.review.chunkSize s r.review.screen s' sc ∧
      Comes i s' sc r.tasks (r.beginTyping i file patch) := by
  unfold beginTyping
  cases editor_eq : r.review.editor with
  | none =>
    have shown : r.review.screen = ⟨none, r.review.streaming⟩ :=
      congrArg (Screen.mk · _) editor_eq
    rw [shown]
    exact ⟨_, _, .unseen before, shown, rfl⟩
  | some e =>
    have shown : r.review.screen = ⟨some e, r.review.streaming⟩ :=
      congrArg (Screen.mk · _) editor_eq
    rw [shown]
    dsimp only
    cases cut : Patch.frames r.review.chunkSize patch.newContent with
    | error fault => exact ⟨_, _, .refused before cut, rfl, rfl⟩
    | ok frames =>
      obtain ⟨s', sc, piece, comes⟩ := typeNext_piece i file frames
        { r with review.editor := some (e.openFile file) }
      exact ⟨s', sc, .begin before cut piece, comes⟩

/-- A task looks for its file. -/
theorem resolve_plays (i : ℕ) (t : Task) (r : Round) (before : s.Seeks) :
    ∃ s' sc, Plays t.patch r.review.chunkSize s r.review.screen s' sc ∧
      Comes i s' sc r.tasks (r.resolve i t) := by
  unfold resolve
  split
  · next file _ =>
    have typing := beginTyping_plays i file t.patch (r.release t.lock) before
    rw [release_eq] at typing ⊢
    exact typing
  · split
    · rw [release_eq]
      exact ⟨_, _, .seek before (.inr ⟨_, rfl⟩), rfl, rfl⟩
    · exact ⟨_, _, .seek before (.inl (.creating _)), rfl, rfl⟩

/-- A task takes its lock. -/
theorem takeLock_plays (i : ℕ) (t : Task) (r : Round) (before : s.Seeks) :
    ∃ s' sc, Plays t.patch r.review.chunkSize s r.review.screen s' sc ∧
      Comes i s' sc r.tasks (r.takeLock i t) := by
  unfold takeLock
  split
  · exact ⟨_, _, .seek before (.inl .queued), rfl, rfl⟩
  · exact resolve_plays i t { r with locks := Entries.store t.lock [] r.locks } before

/-- A task creates its file. -/
theorem create_plays (i : ℕ) (project : String) (t : Task) (r : Round) (before : s.Seeks) :
    ∃ s' sc, Plays t.patch r.review.chunkSize s r.review.screen s' sc ∧
      Comes i s' sc r.tasks (r.create i project t) := by
  unfold create
  dsimp only
  split
  · rw [release_eq]
    exact ⟨_, _, .seek before (.inr ⟨_, rfl⟩), rfl, rfl⟩
  · next file _ =>
    have typing := beginTyping_plays i file t.patch
      (Round.release t.lock { r with
        review.store := (r.review.store.create project t.patch.fileName ""
          (Project.languageOf t.patch.fileName)).2
        review.files := r.review.files ++ [file] }) before
    rw [release_eq] at typing ⊢
    exact typing

/-- A task writes its file. -/
theorem update_plays (i : ℕ) (file : File) (t : Task) (r : Round) :
    ∃ s' sc, Plays t.patch r.review.chunkSize (.updating file) r.review.screen s' sc ∧
      Comes i s' sc r.tasks (r.update i file t) := by
  unfold update
  dsimp only
  split
  · exact ⟨_, _, .update (.inr ⟨_, rfl⟩), rfl, rfl⟩
  · split
    · exact ⟨_, _, .update (.inr ⟨_, rfl⟩), rfl, rfl⟩
    · exact ⟨_, _, .update (.inl ⟨_, rfl⟩), rfl, rfl⟩

/-- A task looks its file up again. -/
theorem conclude_plays (i : ℕ) (file : File) (project : String) (t : Task) (r : Round) :
    ∃ s' sc, Plays t.patch r.review.chunkSize (.listing file project) r.review.screen s' sc ∧
      Comes i s' sc r.tasks (r.conclude i file project t) := by
  unfold conclude Review.list
  rcases r.review.store.list project with ⟨listed, store⟩
  cases listed with
  | error e => exact ⟨_, _, .conclude, rfl, rfl⟩
  | ok files => exact ⟨_, _, .conclude, rfl, rfl⟩

/-- **One step.** A step of a task does to the screen one of the things that are listed. -/
theorem exists_plays (ht : r.tasks[i]? = some t)
    (unfinished : ∀ result, t.stage ≠ .finished result) :
    ∃ s sc, Plays t.patch r.review.chunkSize t.stage r.review.screen s sc ∧
      Comes i s sc r.tasks (r.advance i) := by
  unfold advance
  rw [ht]
  dsimp only
  split
  · next stage => exact stage ▸ takeLock_plays i t r .fresh
  · next stage => exact stage ▸ resolve_plays i t r .queued
  · next project stage => exact stage ▸ create_plays i project t r (.creating project)
  · next file frames stage =>
    obtain ⟨s, sc, piece, comes⟩ := typeNext_piece i file frames r
    exact ⟨s, sc, stage ▸ .goOn piece, comes⟩
  · next file stage => exact stage ▸ update_plays i file t r
  · next file project stage => exact stage ▸ conclude_plays i file project t r
  · next result stage => exact absurd stage (unfinished result)

end Round

/-! ## What is kept by the id of its file -/

section Streaming

variable {p : Patch} {size : ℤ} {s s' : Stage} {sc sc' : Screen} {file : File}
variable {frames : List String} {id : String}

/-- What streams after a frame is the file of the task, or streamed before. -/
theorem Piece.typing_or_kept (h : Piece file frames sc s' sc')
    (key : Entries.lookup id sc'.streaming ≠ none) :
    (∃ rest, s' = .typing file rest ∧ file.id = id) ∨
      (Entries.lookup id sc.streaming ≠ none ∧ file.id ≠ id) := by
  by_cases same : id = file.id
  · subst same
    cases h with
    | ended | lost => exact absurd (Entries.lookup_erase_self _ _) key
    | typed => exact .inl ⟨_, rfl, rfl⟩
  · refine .inr ⟨?_, Ne.symm same⟩
    cases h with
    | ended | lost => rwa [Entries.lookup_erase_of_ne _ same] at key
    | typed => rwa [Entries.lookup_store_of_ne _ _ same] at key

/-- After a step a text is kept for a file if the task types it, or if a text was kept before and the
task did not type that file. -/
theorem Plays.typing_or_kept (h : Plays p size s sc s' sc')
    (key : Entries.lookup id sc'.streaming ≠ none) :
    (∃ file rest, s' = .typing file rest ∧ file.id = id) ∨
      (Entries.lookup id sc.streaming ≠ none ∧
        ∀ file rest, s = .typing file rest → file.id ≠ id) := by
  cases h with
  | seek before after | unseen before | refused before =>
    refine .inr ⟨key, fun file rest stage => ?_⟩
    subst stage
    cases before
  | begin before cut piece =>
    refine (piece.typing_or_kept key).imp (fun ⟨rest, typing⟩ => ⟨_, rest, typing⟩)
      fun ⟨kept, _⟩ => ⟨kept, fun file rest stage => ?_⟩
    subst stage
    cases before
  | goOn piece =>
    refine (piece.typing_or_kept key).imp (fun ⟨rest, typing⟩ => ⟨_, rest, typing⟩)
      fun ⟨kept, other⟩ => ⟨kept, fun file rest stage => ?_⟩
    cases stage
    exact other
  | update | conclude => exact .inr ⟨key, nofun⟩

end Streaming

end Workbench.Review
