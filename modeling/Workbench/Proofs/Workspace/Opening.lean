import Workbench.Proofs.Workspace.Following

/-!
# Projects that are opened in vain

A project is open as soon as it was named, and its files are asked for after that. If the store does
not list them, the opening fails, and the workspace is left with the new project, without the
patches that waited, and with the files of the project before: `openProject_of_refused` says what it
is then, `openProject_of_listed` what it is otherwise. So an opening that fails leaves no trace only
where there is none to leave (`open_in_vain_iff`).
-/

namespace Workbench.Workspace

open Project (File Memory Store)

/-! ## Nothing waits to be mirrored -/

section Runs

variable {w w' : Workspace} {op : Operation} {storage : Storage} {user : String} {store : Store}
variable {editor : Option Editor} {chunkSize : ℤ} {made : ℕ}

/-- Without an announcement nothing is mirrored. -/
theorem mirror_of_silent (silent : w.review.announced = []) : w.mirror = w := by
  have review_eq : w.mirror.review = w.review := by
    rw [mirror_review, ← silent]
  have session_eq := mirror_session_of_silent silent
  have name_eq := mirror_projectName w
  generalize w.mirror = u at review_eq session_eq name_eq
  obtain ⟨session, review, projectName⟩ := u
  dsimp only at review_eq session_eq name_eq
  rw [review_eq, session_eq, name_eq]

/-- Mirroring settles every announcement. -/
theorem announced_mirror (w : Workspace) : w.mirror.review.announced = [] := by
  rw [mirror_review]

/-- So does deleting everything. -/
theorem announced_deleteAll (w : Workspace) : w.deleteAll.2.review.announced = [] := by
  rw [deleteAll_snd]
  exact announced_mirror _

/-- Every operation mirrors what it has announced. -/
theorem Operates.silent (h : Operates w op w') (silent : w.review.announced = []) :
    w'.review.announced = [] := by
  cases h with
  | openProject _ _ | refresh | parse _ | rejectPatch _ => exact announced_mirror _
  | applyPatch _ _ | applyAll _ _ => exact announced_mirror _
  | execute clock line =>
    rcases execute_review clock line w with same | ⟨session, deleted⟩
    · rw [same]
      exact silent
    · rw [deleted]
      exact announced_deleteAll _
  | resetTerminal =>
    unfold Workspace.resetTerminal
    split <;> exact silent

/-- Between operations nothing is announced. -/
theorem Leads.silent (run : Leads (Workspace.start storage user store editor chunkSize made) w) :
    w.review.announced = [] := by
  induction run with
  | start => rfl
  | step _ operates silent => exact operates.silent silent
  | deleteAll _ _ => exact announced_deleteAll _
  | others _ _ _ silent | edit _ _ silent => exact silent

/-! ## The name of the open project -/

/-- A project is open if and only if there is a name for it. -/
def Named (w : Workspace) : Prop :=
  w.projectName.isSome = w.review.project.isSome

/-- Mirroring leaves the name of the project. -/
theorem Named.mirror (h : w.Named) : w.mirror.Named := by
  unfold Named
  rw [mirror_projectName, mirror_review]
  exact h

/-- So does a refresh. -/
theorem Named.refresh (h : w.Named) : w.refresh.2.Named := by
  have named : { w with review := w.review.refresh.2 }.Named := by
    unfold Named
    rw [refresh_project]
    exact h
  exact named.mirror

/-- So does deleting everything. -/
theorem Named.deleteAll (h : w.Named) : w.deleteAll.2.Named := by
  rw [deleteAll_snd]
  exact Named.refresh h

/-- So does what a line asks for. -/
theorem Named.act (h : w.Named) (result : Shell.Result) : (w.act result).2.Named := by
  unfold Workspace.act
  split
  · split
    · exact h
    · have deleted := h.deleteAll
      generalize w.deleteAll = answered at deleted ⊢
      obtain ⟨answer, w'⟩ := answered
      cases answer <;> exact deleted
  · exact h
  · exact h

/-- Every operation leaves an open project named. -/
theorem Operates.named (h : Operates w op w') (named : w.Named) : w'.Named := by
  cases h with
  | openProject id name =>
    have named : { w with
        projectName := some name, review.project := some id, review.pending := [] }.Named := rfl
    exact named.refresh
  | refresh => exact named.refresh
  | parse _ | rejectPatch _ => exact Named.mirror named
  | applyPatch go _ | applyAll go _ =>
    refine Named.mirror ?_
    unfold Named
    rw [go.project_eq]
    exact named
  | execute clock line =>
    unfold Workspace.execute
    rcases w.session.execute clock line with ⟨result, session⟩
    cases result with
    | none => exact named
    | some result => exact Named.act (w := { w with session }) named result
  | resetTerminal =>
    unfold Workspace.resetTerminal
    split <;> exact named

/-- So do any operations. -/
theorem Leads.named (run : Leads (Workspace.start storage user store editor chunkSize made) w) :
    w.Named := by
  induction run with
  | start => rfl
  | step _ operates named => exact operates.named named
  | deleteAll _ named => exact named.deleteAll
  | others _ _ _ named | edit _ _ named => exact named

end Runs

/-! ## Opening a project -/

section Opening

variable {w : Workspace} {id name : String} {store' : Store}

/-- Without a listing nothing changes but the store. -/
theorem refresh_of_refused (silent : w.review.announced = []) (opened : w.review.project = some id)
    {e : Failure} (refused : w.review.store.list id = (.error e, store')) :
    w.refresh = (.error e, { w with review.store := store' }) := by
  unfold refresh reviewing
  rw [Review.refresh_of_error opened refused]
  exact congrArg (Except.error e, ·) (mirror_of_silent silent)

/-- A listing is cached and mirrored. -/
theorem refresh_of_listed (silent : w.review.announced = []) (opened : w.review.project = some id)
    (named : w.projectName = some name) {files : List File}
    (listed : w.review.store.list id = (.ok files, store')) :
    w.refresh = (.ok files, { w with
      session := w.session.sync name files
      review := { w.review with store := store', files } }) := by
  unfold refresh reviewing
  rw [Review.refresh_of_ok opened listed]
  refine congrArg (Except.ok files, ·) ?_
  unfold mirror Review.takeAnnounced Review.takeListing
  simp [named, silent]

/-- The project is open, and everything else is as it was but for the patches that waited. -/
theorem openProject_of_refused (silent : w.review.announced = []) (name : String) {e : Failure}
    (refused : w.review.store.list id = (.error e, store')) :
    w.openProject id name = (.error e, { w with
      projectName := some name
      review := { w.review with store := store', project := some id, pending := [] } }) :=
  refresh_of_refused (w := { w with
    projectName := some name, review.project := some id, review.pending := [] }) silent rfl refused

/-- The project is open with its files. -/
theorem openProject_of_listed (silent : w.review.announced = []) (name : String)
    {files : List File} (listed : w.review.store.list id = (.ok files, store')) :
    w.openProject id name = (.ok files, { w with
      session := w.session.sync name files
      projectName := some name
      review := { w.review with store := store', project := some id, files, pending := [] } }) :=
  refresh_of_listed (w := { w with
    projectName := some name
    review := { w.review with project := some id, pending := [] } }) silent rfl rfl listed

/-- All that there is to see of a workspace is as it was. -/
structure AsBefore (w w' : Workspace) : Prop where
  project_eq : w'.review.project = w.review.project
  name_eq : w'.projectName = w.projectName
  pending_eq : w'.review.pending = w.review.pending
  files_eq : w'.review.files = w.review.files
  tree_eq : w'.session.state.fs = w.session.state.fs

/-- **What an opening in vain leaves.** Operations and other clients lead from a workspace that is
started over any store to some workspace, and then a project is opened. If its files are listed,
they are the cached files, no patch waits, and the terminal shows them. If not, the opening fails:
the project is open nevertheless and no patch waits, while the cached files and the terminal are
those of before. Thus nothing is changed if and only if that project was open already under that
name and no patch was waiting. -/
theorem open_in_vain_iff {storage : Storage} {user : String} {store : Store}
    {editor : Option Editor} {chunkSize : ℤ} {made : ℕ}
    (run : Leads (start storage user store editor chunkSize made) w) (id name : String) :
    (∀ files store', w.review.store.list id = (.ok files, store') →
      w.openProject id name = (.ok files, { w with
        session := w.session.sync name files
        projectName := some name
        review := { w.review with store := store', project := some id, files, pending := [] } }) ∧
      ∀ m, w.review.store = .memory m → files = m.listing id) ∧
    ∀ e store', w.review.store.list id = (.error e, store') →
      w.openProject id name = (.error e, { w with
        projectName := some name
        review := { w.review with store := store', project := some id, pending := [] } }) ∧
      (AsBefore w (w.openProject id name).2 ↔
        w.review.project = some id ∧ w.projectName = some name ∧ w.review.pending = []) := by
  refine ⟨fun files store' listed => ?_, fun e store' refused => ?_⟩
  · refine ⟨openProject_of_listed run.silent name listed, fun m store_eq => ?_⟩
    exact Memory.listing_of_list (Memory.of_list store_eq listed).1
  · have vain := openProject_of_refused run.silent name refused
    refine ⟨vain, ?_⟩
    rw [vain]
    constructor
    · intro same
      exact ⟨same.project_eq.symm, same.name_eq.symm, same.pending_eq.symm⟩
    · rintro ⟨project_eq, name_eq, pending_eq⟩
      exact ⟨project_eq.symm, name_eq.symm, pending_eq.symm, rfl, rfl⟩

/-- The files of a second project cannot be listed. That project is open then, with the files of the
first and without the patch that was waiting for it. -/
theorem open_in_vain_iff_second_project :
    let denied : Failure := .refused .run "store unavailable"
    let m₀ : Memory := { (Memory.empty.seed "p1" "a.js" "keep" "").2 with
      refusal := fun _ call => if call = .list "p2" then some denied else none }
    let w₀ := start default "user" (.memory m₀) none 64 0
    let w := ((w₀.openProject "p1" "One").2.parse "FILE: a.js\n```js\nnew\n```").2
    let w' := (w.openProject "p2" "Two").2
    w.review.pending.map (·.fileName) = ["a.js"] ∧ (w.openProject "p2" "Two").1 = .error denied ∧
      w'.review.project = some "p2" ∧ w'.review.pending = [] ∧
      w'.review.files.map (·.name) = ["a.js"] ∧ ¬ AsBefore w w' := by
  intro denied m₀ w₀ w w'
  have run : Leads w₀ w := .step (.step .start (.openProject "p1" "One")) (.parse _)
  have store_eq : w.review.store = .memory (m₀.replay [.list "p1"]) := rfl
  have refused : w.review.store.list "p2" =
      (.error denied, .memory (m₀.replay [.list "p1", .list "p2"])) := by
    rw [store_eq]
    rfl
  obtain ⟨-, vain⟩ := open_in_vain_iff run "p2" "Two"
  obtain ⟨same, changed⟩ := vain denied _ refused
  have waiting : w.review.pending.map (·.fileName) = ["a.js"] := by decide +kernel
  have after : w' = _ := congrArg Prod.snd same
  refine ⟨waiting, congrArg Prod.fst same, ?_, ?_, ?_, fun before => ?_⟩
  · rw [after]
  · rw [after]
  · decide +kernel
  · obtain ⟨-, -, none⟩ := changed.mp before
    rw [none] at waiting
    cases waiting

end Opening

end Workbench.Workspace
