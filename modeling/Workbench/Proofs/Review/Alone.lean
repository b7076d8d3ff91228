import Workbench.Proofs.Project.Granting
import Workbench.Proofs.Review.Schedule
import Workbench.Proofs.Review.Typing

/-!
# A patch that is applied alone

A patch is applied and nothing else is, while anything may happen to the editor: buffers are closed,
the editor is swapped or taken away (`Alone`). What holds at the start and is kept by each step of
the only task holds throughout (`Alone.keeps`). So what was typed are the pieces before the first
look in vain (`Alone.follows`); and if no look was in vain, and nobody else types, the editor shows
in the end what the store holds (`Alone.written`). `Review.apply` is one of these runs.
-/

namespace Workbench.Review

open Project (File Memory Store)

/-- `Alone meddles v p sight r`: applying a patch and nothing else has led from `v` to `r`, and
`sight` was seen on the way. Between its steps the editor may be changed as `meddles` has it. -/
inductive Alone (meddles : Option Editor → Option Editor → Prop) (v : Review) (p : Patch) :
    Sight → Round → Prop
  | start : Alone meddles v p .blank (.start v [p])
  | step {sight r} {t u : Task} : Alone meddles v p sight r → r.tasks[0]? = some t →
      (r.advance 0).tasks[0]? = some u →
      Alone meddles v p
        (sight.after t.stage r.review.screen u.stage (r.advance 0).review.screen) (r.advance 0)
  | edit {sight r} (editor : Option Editor) : Alone meddles v p sight r →
      meddles r.review.editor editor → Alone meddles v p sight { r with review.editor := editor }
  | requeue {sight r} (ready : List ℕ) : Alone meddles v p sight r →
      Alone meddles v p sight { r with ready }

/-- An editor in which all live buffers of another one are live and show the same. -/
def Retains (editor editor' : Option Editor) : Prop :=
  ∀ e name number, editor = some e → e.live? name = some number →
    ∃ e', editor' = some e' ∧ e'.live? name = some number ∧ e'.buffer? number = e.buffer? number

/-- The last thing that a store did before it listed files was to accept the content of a patch. -/
def Accepts (p : Patch) (file : File) (store : Store) : Prop :=
  ∃ before updated project, Store.update file.id p.newContent before = (.ok (), updated) ∧
    (updated.list project).2 = store

/-- A patch is written to a file: the live buffer of the file shows the new content, the store has
accepted it, and a store in memory holds it. -/
structure Written (p : Patch) (file : File) (r : Round) : Prop where
  shown : ∃ e number buffer, r.review.editor = some e ∧ e.live? file.name = some number ∧
    e.buffer? number = some buffer ∧ buffer.value = p.newContent
  accepted : Accepts p file r.review.store
  held : ∀ m, r.review.store = .memory m →
    ∃ entry ∈ m.held, entry.2.id = file.id ∧ entry.2.content = p.newContent

variable {meddles : Option Editor → Option Editor → Prop} {v : Review} {p : Patch} {sight : Sight}
variable {r : Round} {s s' : Stage} {file : File} {frames : List String}

/-! ## What the editor and the store hold -/

/-- What is shown stays shown while the editor is left alone. -/
theorem LastShown.retain {strokes : List Stroke} {editor editor' : Option Editor}
    (h : LastShown file strokes editor) (retains : Retains editor editor') :
    LastShown file strokes editor' := by
  intro stroke last
  obtain ⟨e, buffer, there, live, found, value⟩ := h stroke last
  obtain ⟨e', there', live', same⟩ := retains e _ _ there live
  exact ⟨e', buffer, there', live', same.trans found, value⟩

/-- What the store did last, when the task stands at a stage. -/
def Stage.Stored (p : Patch) (sight : Sight) (store : Store) : Stage → Prop
  | .listing _ _ => ∀ view ∈ sight.views, ∃ before,
      Store.update view.file.id p.newContent before = (.ok (), store)
  | .finished (.ok _) => ∀ view ∈ sight.views, Accepts p view.file store
  | _ => True

/-- A store in memory holds what it accepted last. -/
theorem Accepts.held {m : Memory} (h : Accepts p file (.memory m)) :
    ∃ entry ∈ m.held, entry.2.id = file.id ∧ entry.2.content = p.newContent := by
  obtain ⟨before, updated, project, accepted, listed⟩ := h
  cases updated with
  | remote client wire => cases listed
  | memory m' =>
    have kept : m.held = m'.held := by
      have after : (m'.list project).2 = m := Store.memory.inj listed
      rcases m'.list_cases project with ⟨e, -, h⟩ | h <;> rw [h] at after <;> exact after ▸ rfl
    cases before with
    | remote client wire => cases congrArg Prod.snd accepted
    | memory m₀ =>
      have done : m₀.update file.id p.newContent = (.ok (), m') := by
        have answer : (m₀.update file.id p.newContent).1 = .ok () := congrArg Prod.fst accepted
        have after := congrArg Prod.snd accepted
        exact Prod.ext answer (Store.memory.inj after)
      obtain ⟨entry, mem, own⟩ := Memory.holds_iff.mp
        (Memory.holds_of_update (congrArg Prod.fst done))
      rcases m₀.update_cases file.id p.newContent with ⟨e, h⟩ | h
      · cases h.symm.trans done
      · obtain rfl := congrArg Prod.snd (h.symm.trans done)
        rw [kept]
        refine ⟨_, List.mem_map_of_mem mem, ?_, ?_⟩ <;> simp [own]

/-! ## The steps of the only task -/

/-- A step of the only task. -/
structure Lone (p : Patch) (s : Stage) (r : Round) (s' : Stage) (r' : Round) : Prop where
  plays : Plays p r.review.chunkSize s r.review.screen s' r'.review.screen
  stride : ∃ e, Stride 0 ⟨p, s⟩ r.review r.locks e ∧ e.stage = s' ∧
    r'.review.store = e.review.store
  tasks_eq : r'.tasks = [⟨p, s'⟩]
  chunkSize_eq : r'.review.chunkSize = r.review.chunkSize

/-- What is stored goes along with what was seen. -/
theorem Lone.stored {r' : Round} (h : Lone p s r s' r') (seen : s.Seen frames sight)
    (stored : s.Stored p sight r.review.store) :
    s'.Stored p (sight.after s r.review.screen s' r'.review.screen) r'.review.store := by
  obtain ⟨e, stride, rfl, store_eq⟩ := h.stride
  rw [store_eq]
  cases stride with
  | find _ _ begins | create _ _ begins => cases begins <;> trivial
  | @update file store project stage updated opened =>
    cases stage
    intro view mem
    rw [Sight.views_after rfl] at mem
    rw [seen.file_eq view mem]
    exact ⟨_, updated⟩
  | @list file project files store stage listed =>
    cases stage
    intro view mem
    rw [Sight.views_after rfl] at mem
    obtain ⟨before, updated⟩ := stored view mem
    exact ⟨before, _, project, updated, congrArg Prod.snd listed⟩
  | wait | claim | orphan | createFailed | type | typed | updateOrphan | updateFailed
  | listFailed => trivial

/-- A single task takes its next step. -/
theorem exists_lone (tasks_eq : r.tasks = [⟨p, s⟩]) (unfinished : ∀ result, s ≠ .finished result) :
    ∃ s', Lone p s r s' (r.advance 0) := by
  have ht : r.tasks[0]? = some ⟨p, s⟩ := by rw [tasks_eq, List.getElem?_cons_zero]
  obtain ⟨e, stride, same⟩ := Round.advance_eq_after ht unfinished
  obtain ⟨s', sc, plays, shown, tasks_eq'⟩ := Round.exists_plays ht unfinished
  rw [tasks_eq] at tasks_eq'
  have stage : e.stage = s' := by
    have := (Round.of_bare_eq_after same).1
    rw [tasks_eq', tasks_eq] at this
    exact (congrArg Task.stage (List.cons.inj this).1).symm
  refine ⟨s', shown ▸ plays, ⟨e, stride, stage, (Round.of_bare_eq_after same).2.2.2⟩, tasks_eq', ?_⟩
  exact (congrArg (·.review.chunkSize) same).trans stride.chunkSize_eq

/-- **Induction over a patch that is applied alone.** What holds at the start, and is kept by every
step and by what happens to the editor, holds throughout. -/
theorem Alone.keeps {P : Sight → Stage → Review → Prop} (start : P .blank .fresh v)
    (step : ∀ sight s r s' r', r.review.chunkSize = v.chunkSize → Lone p s r s' r' →
      P sight s r.review →
      P (sight.after s r.review.screen s' r'.review.screen) s' r'.review)
    (edit : ∀ sight s v' editor, meddles v'.editor editor → P sight s v' →
      P sight s { v' with editor })
    (h : Alone meddles v p sight r) :
    r.review.chunkSize = v.chunkSize ∧ ∃ s, r.tasks = [⟨p, s⟩] ∧ P sight s r.review := by
  induction h with
  | start => exact ⟨rfl, .fresh, rfl, start⟩
  | @step sight r t u _ ht hu ih =>
    obtain ⟨chunkSize_eq, s, tasks_eq, holds⟩ := ih
    rw [tasks_eq, List.getElem?_cons_zero, Option.some.injEq] at ht
    subst ht
    by_cases finished : ∃ result, s = .finished result
    · -- a task that is done stays as it is
      obtain ⟨result, rfl⟩ := finished
      have stays : r.advance 0 = r := by simp [Round.advance, tasks_eq]
      rw [stays, Sight.after_eq rfl (.refl _)]
      exact ⟨chunkSize_eq, _, tasks_eq, holds⟩
    · obtain ⟨s', lone⟩ := exists_lone tasks_eq fun result done => finished ⟨result, done⟩
      rw [lone.tasks_eq, List.getElem?_cons_zero, Option.some.injEq] at hu
      subst hu
      exact ⟨lone.chunkSize_eq.trans chunkSize_eq, s', lone.tasks_eq,
        step sight s r s' _ chunkSize_eq lone holds⟩
  | edit editor _ edited ih =>
    obtain ⟨chunkSize_eq, s, tasks_eq, holds⟩ := ih
    exact ⟨chunkSize_eq, s, tasks_eq, edit _ s _ editor edited holds⟩
  | requeue ready _ ih => exact ih

/-- The task ends with the result of the round. -/
theorem Alone.finished {result : Except Failure File} (tasks_eq : r.tasks = [⟨p, s⟩])
    (ended : r.results = [result]) : s = .finished result := by
  rw [Round.results, tasks_eq] at ended
  cases s with
  | finished result' =>
    obtain rfl := (List.cons.inj ended).1
    rfl
  | _ => cases ended

/-- However the editor is changed meanwhile, what was typed are the pieces before the first look in
vain. -/
theorem Alone.follows {result : Except Failure File} (h : Alone meddles v p sight r)
    (cut : Patch.frames v.chunkSize p.newContent = .ok frames) (some_frame : frames ≠ [])
    (ended : r.results = [result]) (resolved : sight.target? = some file) :
    sight.Follows frames := by
  obtain ⟨-, s, tasks_eq, seen⟩ := h.keeps (P := fun sight s _ => s.Seen frames sight) rfl
    (fun sight s r s' r' same lone seen => lone.plays.seen (same ▸ cut) some_frame seen)
    (fun _ _ _ _ _ seen => seen)
  obtain rfl := Alone.finished tasks_eq ended
  cases result with
  | ok f =>
    obtain ⟨file, ends⟩ := seen
    exact ends.follows
  | error e =>
    rcases seen with rfl | ⟨file, ends⟩
    · cases resolved
    · exact ends.follows

/-- If nobody else changes live buffers and no look was in vain, a patch that was applied is written
to its file. -/
theorem Alone.written {f : File} (h : Alone Retains v p sight r)
    (cut : Patch.frames v.chunkSize p.newContent = .ok frames)
    (last : frames.getLast? = some p.newContent) (ended : r.results = [.ok f])
    (kept : ∀ view ∈ sight.views, view.number? ≠ none) :
    ∃ file, sight.target? = some file ∧ Written p file r := by
  have some_frame : frames ≠ [] := by
    rintro rfl
    cases last
  obtain ⟨-, s, tasks_eq, seen, shown, stored⟩ := h.keeps
    (P := fun sight s v => s.Seen frames sight ∧
      (∀ view ∈ sight.views, LastShown view.file sight.strokes v.editor) ∧
        s.Stored p sight v.store)
    ⟨rfl, nofun, trivial⟩
    (fun sight s r s' r' same lone ⟨seen, shown, stored⟩ =>
      ⟨lone.plays.seen (same ▸ cut) some_frame seen, lone.plays.lastShown seen shown,
        lone.stored seen stored⟩)
    (fun sight s v' editor retains ⟨seen, shown, stored⟩ =>
      ⟨seen, fun view mem => (shown view mem).retain retains, stored⟩)
  obtain rfl := Alone.finished tasks_eq ended
  obtain ⟨file, ends⟩ := seen
  have target := ends.target?_eq some_frame
  obtain ⟨view, first, rfl⟩ := Option.map_eq_some_iff.mp target
  have mem : view ∈ sight.views := List.mem_of_head? first
  have accepted : Accepts p view.file r.review.store := stored view mem
  refine ⟨view.file, target, ?_, accepted, fun m there => (there ▸ accepted).held⟩
  -- all pieces were typed, and the last of them is the new content
  have values := ends.follows.kept kept
  rw [← values, List.getLast?_map] at last
  obtain ⟨stroke, typed_last, value⟩ := Option.map_eq_some_iff.mp last
  obtain ⟨e, buffer, there, live, found, shows⟩ := shown view mem stroke typed_last
  exact ⟨e, stroke.number, buffer, there, live, found, shows.trans value⟩

/-! ## Applying a patch -/

/-- There is a single task. -/
theorem Alone.exists_stage (h : Alone meddles v p sight r) : ∃ s, r.tasks = [⟨p, s⟩] := by
  obtain ⟨-, s, tasks_eq, -⟩ := h.keeps (P := fun _ _ _ => True) trivial
    (fun _ _ _ _ _ _ _ _ => trivial) (fun _ _ _ _ _ _ => trivial)
  exact ⟨s, tasks_eq⟩

/-- There is one task only, so a step of any task is a step of that one, or none at all. -/
theorem Alone.advance (h : Alone meddles v p sight r) (i : ℕ) :
    ∃ sight', Alone meddles v p sight' (r.advance i) := by
  obtain ⟨s, tasks_eq⟩ := h.exists_stage
  cases i with
  | zero =>
    by_cases finished : ∃ result, s = .finished result
    · obtain ⟨result, rfl⟩ := finished
      have stays : r.advance 0 = r := by simp [Round.advance, tasks_eq]
      exact ⟨sight, stays.symm ▸ h⟩
    · obtain ⟨s', lone⟩ := exists_lone tasks_eq fun result done => finished ⟨result, done⟩
      refine ⟨_, h.step (t := ⟨p, s⟩) (u := ⟨p, s'⟩) ?_ ?_⟩
      · rw [tasks_eq, List.getElem?_cons_zero]
      · rw [lone.tasks_eq, List.getElem?_cons_zero]
  | succ i =>
    have stays : r.advance (i + 1) = r := by simp [Round.advance, tasks_eq]
    exact ⟨sight, stays.symm ▸ h⟩

/-- It stays so while the task has its turn. -/
theorem Alone.takeTurn (h : Alone meddles v p sight r) (i fuel : ℕ) :
    ∃ sight', Alone meddles v p sight' (r.takeTurn i fuel) := by
  induction fuel generalizing r sight with
  | zero => exact ⟨sight, h⟩
  | succ fuel ih =>
    obtain ⟨sight', h'⟩ := h.advance i
    rw [Round.takeTurn]
    split
    · exact ⟨sight', h'⟩
    · split
      · exact ih h'
      · exact ⟨sight', h'.requeue _⟩
      · exact ⟨sight', h'⟩

/-- And until nothing is left to do. -/
theorem Alone.drive (h : Alone meddles v p sight r) (fuel : ℕ) :
    ∃ sight', Alone meddles v p sight' (r.drive fuel) := by
  induction fuel generalizing r sight with
  | zero => exact ⟨sight, h⟩
  | succ fuel ih =>
    rw [Round.drive]
    split
    · exact ⟨sight, h⟩
    · obtain ⟨sight', h'⟩ := (h.requeue _).takeTurn _ Round.turnLength
      exact ih h'

/-- Applying a patch is applying it alone, to its end. -/
theorem exists_alone_apply (meddles : Option Editor → Option Editor → Prop) (v : Review)
    (p : Patch) : ∃ sight r result, Alone meddles v p sight r ∧ r.results = [result] ∧
      v.apply p = (result, r.review) := by
  have fresh : Alone meddles v p .blank (.start v [p]) := .start
  obtain ⟨sight, alone⟩ := fresh.drive ((Round.start v [p]).tasks.foldr (fun t turns => Round.turnsOf t.patch + turns) 0)
  obtain ⟨ended, n, go⟩ := Round.start_run v [p]
  obtain ⟨result, results_eq⟩ := go.exists_result ended
  refine ⟨sight, _, result, alone, results_eq, ?_⟩
  unfold Review.apply
  dsimp only
  rw [results_eq]
  rfl

end Workbench.Review
