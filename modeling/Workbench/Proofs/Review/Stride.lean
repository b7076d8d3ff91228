import Workbench.Review.Apply
import Mathlib.Data.Int.Notation
import Mathlib.Data.List.Basic

/-!
# What one step of a task can do

`Round.advance` carries a task from one stage to the next through half a dozen functions. Here its
effect is laid down once: `Stride` lists what a task can do between two of its stages, one
constructor for each thing it can do, and `advance_eq_after` says that a step is one of them. Later
proofs take cases on the `Stride` and never unfold a function of the round again.

What the editor shows while a patch is typed takes no part in any of this, so rounds are compared
without it (`Round.bare`).
-/

namespace Workbench.Review

open Project (File)

/-- The locks that are held, with the numbers of the tasks that wait for each. -/
abbrev Locks := List (String × List ℕ)

namespace Locks

/-- The locks after one of them was given back: its first waiter holds it from then on. -/
def handOver (lock : String) (locks : Locks) : Locks :=
  match Entries.lookup lock locks with
  | some (_ :: waiting) => Entries.store lock waiting locks
  | _ => Entries.erase lock locks

/-- The waiter that holds a lock once it is given back, if there is one. -/
def successor (lock : String) (locks : Locks) : List ℕ :=
  match Entries.lookup lock locks with
  | some (next :: _) => [next]
  | _ => []

/-- The waiters of a lock after it was given back. -/
theorem lookup_handOver_self (lock : String) (locks : Locks) :
    Entries.lookup lock (locks.handOver lock) =
      match Entries.lookup lock locks with
      | some (_ :: waiting) => some waiting
      | _ => none := by
  unfold handOver
  split
  · exact Entries.lookup_store_self _ _ _
  · exact Entries.lookup_erase_self _ _

/-- Giving a lock back leaves all others as they are. -/
theorem lookup_handOver_of_ne {lock other : String} (locks : Locks) (h : other ≠ lock) :
    Entries.lookup other (locks.handOver lock) = Entries.lookup other locks := by
  unfold handOver
  split
  · exact Entries.lookup_store_of_ne _ _ h
  · exact Entries.lookup_erase_of_ne _ h

end Locks

/-- What is new after a step of a task. -/
structure Effect where
  review : Review
  locks : Locks
  /-- Where the task stands. -/
  stage : Stage
  /-- The tasks that were waiting and may go on. -/
  freed : List ℕ

namespace Round

/-- A round without what the editor shows while patches are typed. -/
def bare (r : Round) : Round :=
  { r with review.editor := none, review.streaming := [] }

/-- The round after a step of a task. -/
def after (i : ℕ) (e : Effect) (r : Round) : Round :=
  { review := e.review, locks := e.locks, ready := r.ready ++ e.freed,
    tasks := r.tasks.modify i ({ · with stage := e.stage }) }

/-- Releasing a lock hands it to the next in its queue. -/
theorem release_eq (lock : String) (r : Round) :
    r.release lock = { r with
      locks := Locks.handOver lock r.locks
      ready := r.ready ++ Locks.successor lock r.locks } := by
  unfold release Locks.handOver Locks.successor
  cases Entries.lookup lock r.locks with
  | none => simp
  | some waiting => cases waiting <;> simp

end Round

/-- Where a task can stand after it has begun to type a content of `n` characters into a file, when
`size` characters are typed at once. -/
inductive Begins (file : File) (n : ℕ) (size : ℤ) : Stage → Prop
  | typing {frames : List String} (short : frames.length ≤ n) :
      Begins file n size (.typing file frames)
  | updating : Begins file n size (.updating file)
  | refused (bad : size ≤ 0) : Begins file n size (.finished (.error (.chunk ⟨size⟩)))

/-- How a task comes to hold its lock at the start of a step: it takes a free lock, or was handed
the lock before. -/
inductive Takes (t : Task) (locks : Locks) : Locks → Prop
  | free (stage : t.stage = .fresh) (free : Entries.lookup t.lock locks = none) :
      Takes t locks (Entries.store t.lock [] locks)
  | handed (stage : t.stage = .queued) : Takes t locks locks

/-- What a step of a task can do, one constructor for each thing. -/
inductive Stride (i : ℕ) (t : Task) (v : Review) (locks : Locks) : Effect → Prop
  /-- The lock is held: the task waits for it. -/
  | wait {waiting} (stage : t.stage = .fresh)
      (taken : Entries.lookup t.lock locks = some waiting) :
      Stride i t v locks ⟨v, Entries.store t.lock (waiting ++ [i]) locks, .queued, []⟩
  /-- The file is there: the lock is given back and the file is typed. -/
  | find {held file s} (takes : Takes t locks held)
      (found : Project.findFile? v.files t.patch.fileName = some file)
      (begins : Begins file t.patch.newContent.length v.chunkSize s) :
      Stride i t v locks ⟨v, Locks.handOver t.lock held, s, Locks.successor t.lock held⟩
  /-- There is no such file: the task keeps the lock and is about to create it. -/
  | claim {held project} (takes : Takes t locks held)
      (missing : Project.findFile? v.files t.patch.fileName = none)
      (opened : v.project = some project) :
      Stride i t v locks ⟨v, held, .creating project, []⟩
  /-- There is no such file, and no project in which it could be created. -/
  | orphan {held} (takes : Takes t locks held)
      (missing : Project.findFile? v.files t.patch.fileName = none) (closed : v.project = none) :
      Stride i t v locks ⟨v, Locks.handOver t.lock held, .finished (.error .noProject),
        Locks.successor t.lock held⟩
  /-- The file is created and typed. -/
  | create {project file store s} (stage : t.stage = .creating project)
      (created : v.store.create project t.patch.fileName "" (Project.languageOf t.patch.fileName) =
        (.ok file, store))
      (begins : Begins file t.patch.newContent.length v.chunkSize s) :
      Stride i t v locks ⟨{ v with store, files := v.files ++ [file] },
        Locks.handOver t.lock locks, s, Locks.successor t.lock locks⟩
  /-- The file cannot be created. -/
  | createFailed {project e store} (stage : t.stage = .creating project)
      (refused : v.store.create project t.patch.fileName "" (Project.languageOf t.patch.fileName) =
        (.error e, store)) :
      Stride i t v locks ⟨{ v with store }, Locks.handOver t.lock locks, .finished (.error e),
        Locks.successor t.lock locks⟩
  /-- The next piece of text is typed. -/
  | type {file frame rest} (stage : t.stage = .typing file (frame :: rest)) :
      Stride i t v locks ⟨v, locks, .typing file rest, []⟩
  /-- There is nothing left to type, or nowhere to type it. -/
  | typed {file frames} (stage : t.stage = .typing file frames) :
      Stride i t v locks ⟨v, locks, .updating file, []⟩
  /-- The file is updated. -/
  | update {file store project} (stage : t.stage = .updating file)
      (updated : v.store.update file.id t.patch.newContent = (.ok (), store))
      (opened : v.project = some project) :
      Stride i t v locks ⟨{ v with store }, locks, .listing file project, []⟩
  /-- The file is updated, but there is no project whose files could be listed. -/
  | updateOrphan {file store} (stage : t.stage = .updating file)
      (updated : v.store.update file.id t.patch.newContent = (.ok (), store))
      (closed : v.project = none) :
      Stride i t v locks ⟨{ v with store }, locks, .finished (.error .noProject), []⟩
  /-- The file cannot be updated. -/
  | updateFailed {file e store} (stage : t.stage = .updating file)
      (refused : v.store.update file.id t.patch.newContent = (.error e, store)) :
      Stride i t v locks ⟨{ v with store }, locks, .finished (.error e), []⟩
  /-- The files are listed, and the patch does not wait any more. -/
  | list {file project files store} (stage : t.stage = .listing file project)
      (listed : v.store.list project = (.ok files, store)) :
      Stride i t v locks ⟨({ v with store }.takeListing files).discard t.patch.id, locks,
        .finished (.ok ((Project.findFile? files file.name).getD
          { file with content := t.patch.newContent })), []⟩
  /-- The files cannot be listed. -/
  | listFailed {file project e store} (stage : t.stage = .listing file project)
      (refused : v.store.list project = (.error e, store)) :
      Stride i t v locks ⟨{ v with store }, locks, .finished (.error e), []⟩

namespace Round

/-! ## Typing -/

/-- A step of typing types the next piece or ends the typing. -/
theorem typeNext_bare (i : ℕ) (file : File) (frames : List String) (r : Round) :
    (r.typeNext i file frames).bare = (r.move i (.updating file)).bare ∨
      ∃ frame rest, frames = frame :: rest ∧
        (r.typeNext i file frames).bare = (r.move i (.typing file rest)).bare := by
  unfold typeNext
  split
  · next frame rest editor _ =>
    dsimp only
    split
    · exact .inl rfl
    · split
      · exact .inl rfl
      · exact .inr ⟨frame, rest, rfl, rfl⟩
  · exact .inl rfl

/-- A text of `n` characters is typed in at most `n + 1` pieces. -/
theorem length_framesFrom_le (size : ℕ) (cs : List Char) (fuel shown : ℕ) :
    (Patch.framesFrom size cs fuel shown).length ≤ fuel + 1 := by
  induction fuel generalizing shown with
  | zero => simp [Patch.framesFrom]
  | succ fuel ih =>
    rw [Patch.framesFrom]
    split
    · simpa using ih (shown + size)
    · simp

/-- There are no more frames than characters, but for an empty text. -/
theorem length_frames_le {size : ℤ} {text : String} {frames : List String}
    (h : Patch.frames size text = .ok frames) : frames.length ≤ text.length + 1 := by
  unfold Patch.frames at h
  split at h
  · cases h
  · injection h with h
    rw [← h, List.length_map, ← String.length_toList]
    exact length_framesFrom_le _ _ _ _

/-- Frames fail only if they have no size. -/
theorem frames_error {size : ℤ} {text : String} {fault : Patch.ChunkFault}
    (h : Patch.frames size text = .error fault) : size ≤ 0 ∧ fault = ⟨size⟩ := by
  unfold Patch.frames at h
  split at h
  · next bad => injection h with h; exact ⟨bad, h.symm⟩
  · cases h

/-- Beginning to type puts the task at one of the stages of `Begins`. -/
theorem beginTyping_bare (i : ℕ) (file : File) (patch : Patch) (r : Round) :
    ∃ s, Begins file patch.newContent.length r.review.chunkSize s ∧
      (r.beginTyping i file patch).bare = (r.move i s).bare := by
  unfold beginTyping
  split
  · exact ⟨_, .updating, rfl⟩
  · dsimp only
    split
    · next fault hframes =>
      obtain ⟨bad, rfl⟩ := frames_error hframes
      exact ⟨_, .refused bad, rfl⟩
    · next frames hframes =>
      have hlen := length_frames_le hframes
      rcases typeNext_bare i file frames
        { r with review.editor := some (Editor.openFile _ file) } with h | ⟨frame, rest, rfl, h⟩
      · exact ⟨_, .updating, h⟩
      · exact ⟨_, .typing (Nat.le_of_succ_le_succ hlen), h⟩

/-! ## The steps -/

/-- A task that holds its lock finds its file or claims its name. -/
theorem resolve_bare {i : ℕ} {t : Task} {v : Review} {r : Round} {locks : Locks}
    (hv : r.review = v) (takes : Takes t locks r.locks) :
    ∃ e, Stride i t v locks e ∧ (r.resolve i t).bare = (r.after i e).bare := by
  subst hv
  unfold resolve
  split
  · next file found =>
    -- the lock is given back before the typing begins
    obtain ⟨s, begins, hs⟩ := beginTyping_bare i file t.patch (r.release t.lock)
    rw [release_eq] at begins hs
    refine ⟨_, .find takes found begins, ?_⟩
    rw [release_eq, hs]
    rfl
  · next missing =>
    unfold openProject?
    split
    · next e h =>
      split at h
      · cases h
      · next closed =>
        injection h with h
        subst h
        refine ⟨_, .orphan takes missing closed, ?_⟩
        rw [release_eq]
        rfl
    · next project h =>
      split at h
      · next opened =>
        injection h with h
        subst h
        refine ⟨_, .claim takes missing opened, ?_⟩
        simp [after, bare, move]
      · cases h

/-- A task that starts takes its lock or waits for it. -/
theorem takeLock_bare {i : ℕ} {t : Task} {r : Round} (stage : t.stage = .fresh) :
    ∃ e, Stride i t r.review r.locks e ∧ (r.takeLock i t).bare = (r.after i e).bare := by
  unfold takeLock
  split
  · next waiting taken =>
    refine ⟨_, .wait stage taken, ?_⟩
    simp [after, bare, move]
  · next free =>
    exact resolve_bare rfl (.free stage free)

/-- A task that has claimed a name creates the file. -/
theorem create_bare {i : ℕ} {t : Task} {project : String} {r : Round}
    (stage : t.stage = .creating project) :
    ∃ e, Stride i t r.review r.locks e ∧ (r.create i project t).bare = (r.after i e).bare := by
  unfold create
  dsimp only
  split
  · next e refused =>
    refine ⟨_, .createFailed stage (Prod.ext refused rfl), ?_⟩
    rw [release_eq]
    rfl
  · next file created =>
    -- the file is cached, and the lock given back, before the typing begins
    obtain ⟨s, begins, hs⟩ := beginTyping_bare i file t.patch
      (Round.release t.lock { r with
        review.store := (r.review.store.create project t.patch.fileName ""
          (Project.languageOf t.patch.fileName)).2
        review.files := r.review.files ++ [file] })
    rw [release_eq] at begins hs
    refine ⟨_, .create stage (Prod.ext created rfl) begins, ?_⟩
    rw [release_eq, hs]
    rfl

/-- A task whose file is typed updates it. -/
theorem update_bare {i : ℕ} {t : Task} {file : File} {r : Round}
    (stage : t.stage = .updating file) :
    ∃ e, Stride i t r.review r.locks e ∧ (r.update i file t).bare = (r.after i e).bare := by
  unfold update
  dsimp only
  split
  · next e refused =>
    refine ⟨_, .updateFailed stage (Prod.ext refused rfl), ?_⟩
    simp [after, bare, finish, move]
  · next updated =>
    unfold openProject?
    split
    · next e h =>
      split at h
      · cases h
      · next closed =>
        injection h with h
        subst h
        refine ⟨_, .updateOrphan stage (Prod.ext updated rfl) closed, ?_⟩
        simp [after, bare, finish, move]
    · next project h =>
      split at h
      · next opened =>
        injection h with h
        subst h
        refine ⟨_, .update stage (Prod.ext updated rfl) opened, ?_⟩
        simp [after, bare, move]
      · cases h

/-- A task whose file is updated asks for the files. -/
theorem conclude_bare {i : ℕ} {t : Task} {file : File} {project : String} {r : Round}
    (stage : t.stage = .listing file project) :
    ∃ e, Stride i t r.review r.locks e ∧
      (r.conclude i file project t).bare = (r.after i e).bare := by
  unfold conclude Review.list
  rcases hlist : r.review.store.list project with ⟨listed, store⟩
  cases listed with
  | error e =>
    refine ⟨_, .listFailed stage hlist, ?_⟩
    simp [after, bare, finish, move]
  | ok files =>
    refine ⟨_, .list stage hlist, ?_⟩
    simp [after, bare, finish, move]

/-- **One step.** Carrying a task to its next stage is one of its strides, but for what the editor
shows. -/
theorem advance_eq_after {i : ℕ} {t : Task} {r : Round} (ht : r.tasks[i]? = some t)
    (unfinished : ∀ result, t.stage ≠ .finished result) :
    ∃ e, Stride i t r.review r.locks e ∧ (r.advance i).bare = (r.after i e).bare := by
  unfold advance
  rw [ht]
  dsimp only
  split
  · next stage => exact takeLock_bare stage
  · next stage => exact resolve_bare rfl (.handed stage)
  · next project stage => exact create_bare stage
  · next file frames stage =>
    rcases typeNext_bare i file frames r with h | ⟨frame, rest, rfl, h⟩
    · exact ⟨_, .typed stage, h.trans (by simp [after, bare, move])⟩
    · exact ⟨_, .type stage, h.trans (by simp [after, bare, move])⟩
  · next file stage => exact update_bare stage
  · next file project stage => exact conclude_bare stage
  · next result stage => exact absurd stage (unfinished result)

end Round

end Workbench.Review
