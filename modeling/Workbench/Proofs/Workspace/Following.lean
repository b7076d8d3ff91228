import Workbench.Proofs.Review.Listing
import Workbench.Proofs.Session.Consistency
import Workbench.Proofs.Session.Listings
import Workbench.Proofs.Shell.Transition
import Workbench.Proofs.Workspace.Crossing

/-!
# The terminal follows the store

There are three copies of the files of a project: the store has them, the review has cached them,
and the session shows them. Only the store is the authority; other clients may change it at any
time. An operation that lists the files brings the other two copies back in line with it, whatever
the patches, the lines and the other clients did before (`mirror_follows_store`).

* `Leads`: the workspaces that operations lead to, with other clients at work in between.
* `Lists`: the operations that list the files of the open project, and what they leave.
* `Synced`: the three copies agree, provided that the files can be shown.

Applying all patches lists the files only if there is a patch to apply: without one it does nothing,
and the cached files stay as old as they are (`Operates.applyAll_of_nil`).
-/

namespace Workbench

open Project (File Memory Call Store)
open Review (Round Interleaving Served UpToDate)
open Session (Mirrors Obstructed Placeable)

/-! ## The line that deletes all files -/

/-- The shell itself leaves the files to the workspace, and the tree as it is. -/
theorem Session.execute_deletesAll {line : String} {command : Shell.Command} (clock : Clock)
    (s : Session) (parsed : Shell.Command.parse? line = some command)
    (asks : command.DeletesAll) : ∃ s', s.execute clock line =
      (some (.signal .deleteAllFiles), s') ∧ s'.state.fs = s.state.fs ∧
        s'.state.user = s.state.user := by
  have dispatched := Shell.dispatch_of_deletesAll clock (s.record line).state asks
  have outcome : Shell.execute Shell.builtins clock command (s.record line).state =
      .only (.signal .deleteAllFiles) := by
    rw [Shell.execute, dispatched]
    -- a signal is not redirected
    cases h : command.redirect <;> simp [Shell.redirected?, h, Shell.Outcome.only]
  obtain ⟨history, same⟩ := execute_of_some clock s parsed
  rw [outcome] at same
  exact ⟨_, same, rfl, rfl⟩

namespace Workspace

/-! ## Mirroring -/

section Mirror

variable {w : Workspace} {before : Shell.State} {name : String}

theorem mirror_projectName (w : Workspace) : w.mirror.projectName = w.projectName := by
  unfold mirror Review.takeAnnounced
  dsimp only
  split <;> rfl

/-- The session mirrors what was announced, one listing after another. -/
theorem mirror_session (named : w.projectName = some name) :
    w.mirror.session = w.session.syncAll name w.review.announced := by
  unfold mirror Review.takeAnnounced
  rw [named]
  rfl

/-- Without an announcement nothing is mirrored. -/
theorem mirror_session_of_silent (silent : w.review.announced = []) :
    w.mirror.session = w.session := by
  unfold mirror Review.takeAnnounced
  rw [silent]
  dsimp only
  split <;> rfl

/-- The three copies of the files agree: the cached files are those that the store has of the open
project, and the session shows them if that was possible in the state before. -/
structure Synced (before : Shell.State) (w : Workspace) : Prop where
  current : ∃ m project, w.review.store = .memory m ∧ w.review.project = some project ∧
    w.review.files = m.listing project
  mirrored : ∃ name, w.projectName = some name ∧ (¬ Obstructed before name w.review.files →
    Mirrors w.session.state name w.review.files)

/-- Mirroring what was announced brings the session in line with an up-to-date review. -/
theorem synced_mirror (upToDate : w.review.UpToDate) (named : w.projectName = some name) :
    Synced w.session.state w.mirror := by
  have review_eq := mirror_review w
  refine ⟨?_, name, (mirror_projectName w).trans named, fun free => ?_⟩
  · rw [review_eq]
    exact upToDate.current
  · rw [review_eq] at free ⊢
    rw [mirror_session named]
    exact Session.mirrors_syncAll upToDate.announced free

/-- What is added to the screen matters to nothing here. -/
theorem Synced.say (h : Synced before w) (lines : List String) (kind : Shell.EntryKind) :
    Synced before (w.say lines kind) where
  current := h.current
  mirrored := by
    obtain ⟨name, named, mirrors⟩ := h.mirrored
    exact ⟨name, named, fun free => (mirrors free).congr rfl rfl⟩

/-- Only the tree and the user of the session before matter. -/
theorem Synced.congr {before' : Shell.State} (h : Synced before w) (fs : before'.fs = before.fs)
    (user : before'.user = before.user) : Synced before' w where
  current := h.current
  mirrored := by
    obtain ⟨name, named, mirrors⟩ := h.mirrored
    exact ⟨name, named, fun free => mirrors fun obstructed => free (obstructed.congr fs user)⟩

end Mirror

/-! ## Listing the files -/

section Review

variable {v : Review} {project : String}

/-- A refresh leaves a store that can be read. -/
theorem served_refresh (served : v.Served) : v.refresh.2.Served := by
  cases opened : v.project with
  | none =>
    rw [Review.refresh_of_none opened]
    exact served
  | some project =>
    obtain ⟨files, store, listed, still⟩ := served.exists_list project
    rw [Review.refresh_of_ok opened listed]
    exact still

/-- A refresh opens no other project. -/
theorem refresh_project (v : Review) : v.refresh.2.project = v.project := by
  unfold Review.refresh Review.list
  dsimp only
  split
  · split <;> rfl
  · rfl

/-- If the store refuses no listing, a refresh brings the review up to date. -/
theorem upToDate_refresh (served : v.Served) (opened : v.project = some project) :
    v.refresh.2.UpToDate := by
  obtain ⟨files, store, listed, -⟩ := served.exists_list project
  rw [Review.refresh_of_ok opened listed]
  exact served.takeListing opened listed

/-- Deleting files makes calls of the store. -/
theorem served_deleteFiles (served : v.Served) (files : List File) :
    Served { v with store := (deleteFiles files v.store).2 } := by
  induction files generalizing v with
  | nil => exact served
  | cons file files ih =>
    obtain ⟨m, store_eq, readable⟩ := id served
    have deleted : Served { v with store := .memory (m.perform (.delete file.id)) } :=
      ⟨_, rfl, readable.perform _⟩
    unfold deleteFiles
    rw [store_eq, Memory.delete_memory]
    cases (m.delete file.id).1 with
    | error e => exact deleted
    | ok _ => exact ih deleted

end Review

/-! ## What operations keep -/

section Ready

variable {w w' : Workspace} {op : Operation}

/-- What every operation starts from and leaves: the store refuses no listing, none waits to be
mirrored, and a project that is open has a name under which it is shown. -/
structure Ready (w : Workspace) : Prop where
  served : w.review.Served
  silent : w.review.announced = []
  named : w.projectName.isSome = w.review.project.isSome

/-- Mirroring leaves the workspace ready. -/
theorem ready_mirror (served : w.review.Served)
    (named : w.projectName.isSome = w.review.project.isSome) : Ready w.mirror where
  served := by
    rw [mirror_review]
    exact served
  silent := by rw [mirror_review]
  named := by
    rw [mirror_review, mirror_projectName]
    exact named

/-- The open project has a name. -/
theorem Ready.exists_name {project : String} (ready : Ready w)
    (opened : w.review.project = some project) : ∃ name, w.projectName = some name :=
  Option.isSome_iff_exists.mp (by rw [ready.named, opened, Option.isSome_some])

/-- A project that is opened has a name. -/
theorem Ready.opening (ready : Ready w) (id name : String) : Ready { w with
    projectName := some name, review.project := some id, review.pending := [] } :=
  ⟨ready.served, ready.silent, rfl⟩

/-- A refresh leaves the workspace ready. -/
theorem Ready.refresh (ready : Ready w) : Ready w.refresh.2 := by
  have named : w.projectName.isSome = w.review.refresh.2.project.isSome := by
    rw [refresh_project]
    exact ready.named
  exact ready_mirror (w := { w with review := w.review.refresh.2 })
    (served_refresh ready.served) named

/-- Whatever comes of deleting the files, they are listed afterwards. -/
theorem deleteAll_snd (w : Workspace) : w.deleteAll.2 = (Workspace.refresh { w with
    review.store := (deleteFiles w.review.files w.review.store).2 }).2 := by
  unfold deleteAll
  dsimp only
  split <;> simp_all

/-- So do deletions. -/
theorem Ready.deleteFiles (ready : Ready w) : Ready { w with
    review.store := (deleteFiles w.review.files w.review.store).2 } :=
  ⟨served_deleteFiles ready.served _, ready.silent, ready.named⟩

/-- So does deleting everything. -/
theorem Ready.deleteAll (ready : Ready w) : Ready w.deleteAll.2 := by
  rw [deleteAll_snd]
  exact ready.deleteFiles.refresh

/-- The session may be any. -/
theorem Ready.withSession (ready : Ready w) (session : Session) : Ready { w with session } :=
  ⟨ready.served, ready.silent, ready.named⟩

/-- When all files were asked to be deleted, at most the answer is shown after that. -/
theorem act_deleteAllFiles {project : String} (opened : w.review.project = some project) :
    (w.act (.signal .deleteAllFiles)).2 = w.deleteAll.2 ∨
      ∃ lines kind, (w.act (.signal .deleteAllFiles)).2 = w.deleteAll.2.say lines kind := by
  unfold Workspace.act
  rw [opened]
  dsimp only
  cases h : w.deleteAll with
  | mk answer w' =>
    cases answer with
    | ok count => exact .inr ⟨_, _, rfl⟩
    | error e => exact .inl rfl

/-- What a line asks for leaves the workspace ready. -/
theorem Ready.act (ready : Ready w) (result : Shell.Result) : Ready (w.act result).2 := by
  by_cases asked : result = .signal .deleteAllFiles
  · subst asked
    cases opened : w.review.project with
    | none =>
      unfold Workspace.act
      rw [opened]
      exact ready.withSession _
    | some project =>
      rcases act_deleteAllFiles opened with same | ⟨lines, kind, said⟩
      · rw [same]
        exact ready.deleteAll
      · rw [said]
        exact ready.deleteAll.withSession _
  · unfold Workspace.act
    split
    · exact absurd rfl asked
    · exact ready.withSession _
    · exact ready

/-- So does a line. -/
theorem Ready.execute (ready : Ready w) (clock : Clock) (line : String) :
    Ready (w.execute clock line).2 := by
  unfold Workspace.execute
  rcases w.session.execute clock line with ⟨result, session⟩
  cases result with
  | none => exact ready.withSession session
  | some result => exact (ready.withSession session).act result

/-- So do patches, in any interleaving. -/
theorem Ready.round (ready : Ready w) {patches : List Patch} {n : ℕ} {r : Round}
    (go : Interleaving (.start w.review patches) n r) :
    Ready { w with review := r.review }.mirror := by
  have relayed := go.relayed ready.served
  refine ready_mirror relayed.served ?_
  rw [relayed.project_eq]
  exact ready.named

/-- So does every operation. -/
theorem Operates.ready (h : Operates w op w') (ready : Ready w) : Ready w' := by
  cases h with
  | openProject id name => exact (ready.opening id name).refresh
  | refresh => exact ready.refresh
  | parse text => exact ready_mirror ready.served ready.named
  | applyPatch go ended => exact ready.round go
  | applyAll go ended => exact ready.round go
  | rejectPatch patch => exact ready_mirror ready.served ready.named
  | execute clock line => exact ready.execute clock line
  | resetTerminal =>
    unfold Workspace.resetTerminal
    split <;> exact ready.withSession _

end Ready

/-! ## Runs -/

/-- `Leads w₀ w`: operations lead from `w₀` to `w`. Between two of them other clients may call the
store, and the editor may be changed. -/
inductive Leads (w₀ : Workspace) : Workspace → Prop
  | start : Leads w₀ w₀
  | step {w w' : Workspace} {op : Operation} : Leads w₀ w → Operates w op w' → Leads w₀ w'
  | deleteAll {w : Workspace} : Leads w₀ w → Leads w₀ w.deleteAll.2
  | others {w : Workspace} {m : Memory} (calls : List Call)
      (store_eq : w.review.store = .memory m) :
      Leads w₀ w → Leads w₀ { w with review.store := .memory (m.replay calls) }
  | edit {w : Workspace} (editor : Option Editor) :
      Leads w₀ w → Leads w₀ { w with review.editor := editor }

/-- `Lists w w'`: an operation that lists the files of the open project leads from `w` to `w'`.
Patches are applied in any interleaving; at least one is, and all of them are applied well. -/
inductive Lists (w : Workspace) : Workspace → Prop
  | openProject (id name : String) : Lists w (w.openProject id name).2
  | refresh {id : String} (opened : w.review.project = some id) : Lists w w.refresh.2
  | applyPatch {patch : Patch} {n : ℕ} {r : Round} {file : File}
      (go : Interleaving (.start w.review [patch]) n r) (ended : r.Ended)
      (applied : r.results = [.ok file]) : Lists w { w with review := r.review }.mirror
  | applyAll {n : ℕ} {r : Round} {files : List File} (waiting : w.review.pending ≠ [])
      (go : Interleaving (.start w.review w.review.pending) n r) (ended : r.Ended)
      (applied : Review.gather r.results = .ok files) : Lists w { w with review := r.review }.mirror
  /-- Some of the files may turn out to be gone. -/
  | deleteAll {id : String} (opened : w.review.project = some id) : Lists w w.deleteAll.2
  | execute {id line : String} {command : Shell.Command} (clock : Clock)
      (opened : w.review.project = some id) (parsed : Shell.Command.parse? line = some command)
      (asks : command.DeletesAll) : Lists w (w.execute clock line).2

section Leads

variable {w w' : Workspace} {storage : Storage} {user : String} {m₀ : Memory}
variable {editor : Option Editor} {chunkSize : Int} {made : ℕ}

/-- So do any operations, if the store can be read throughout. -/
theorem Leads.ready_of_readable (readable : m₀.Readable)
    (run : Leads (Workspace.start storage user (.memory m₀) editor chunkSize made) w) : Ready w := by
  induction run with
  | start => exact ⟨⟨m₀, rfl, readable⟩, rfl, rfl⟩
  | step _ operates ready => exact operates.ready ready
  | deleteAll _ ready => exact ready.deleteAll
  | others calls store_eq _ ready =>
    obtain ⟨m, store_eq', readable⟩ := ready.served
    obtain rfl := Store.memory.inj (store_eq'.symm.trans store_eq)
    exact ⟨⟨_, rfl, readable.replay calls⟩, ready.silent, ready.named⟩
  | edit editor _ ready => exact ⟨ready.served, ready.silent, ready.named⟩

/-- A store that refuses nothing can be. -/
theorem Leads.ready (willing : m₀.Willing)
    (run : Leads (Workspace.start storage user (.memory m₀) editor chunkSize made) w) : Ready w :=
  run.ready_of_readable willing.readable

/-- After a refresh the terminal shows what the store has. -/
theorem Ready.synced_refresh {id : String} (ready : Ready w)
    (opened : w.review.project = some id) : Synced w.session.state w.refresh.2 := by
  obtain ⟨name, named⟩ := ready.exists_name opened
  exact synced_mirror (w := { w with review := w.review.refresh.2 })
    (upToDate_refresh ready.served opened) named

/-- So it does after patches, if all were applied well. -/
theorem Ready.synced_round (ready : Ready w) {patches : List Patch} {n : ℕ} {r : Round}
    {files : List File} (waiting : patches ≠ [])
    (go : Interleaving (.start w.review patches) n r) (ended : r.Ended)
    (applied : r.results = files.map .ok) :
    Synced w.session.state { w with review := r.review }.mirror := by
  have upToDate := go.upToDate ready.served waiting ended applied
  -- a patch cannot be applied unless a project is open
  obtain ⟨m, id, -, opened, -⟩ := upToDate.current
  rw [(go.relayed ready.served).project_eq] at opened
  obtain ⟨name, named⟩ := ready.exists_name opened
  exact synced_mirror (w := { w with review := r.review }) upToDate named

/-- So it does after everything was deleted. -/
theorem Ready.synced_deleteAll {id : String} (ready : Ready w)
    (opened : w.review.project = some id) : Synced w.session.state w.deleteAll.2 := by
  rw [deleteAll_snd]
  exact ready.deleteFiles.synced_refresh opened

/-- So it does after a line that asks for that. -/
theorem Ready.synced_execute {id line : String} {command : Shell.Command} (ready : Ready w)
    (clock : Clock) (opened : w.review.project = some id)
    (parsed : Shell.Command.parse? line = some command) (asks : command.DeletesAll) :
    Synced w.session.state (w.execute clock line).2 := by
  obtain ⟨session, same, fs, user⟩ := Session.execute_deletesAll clock w.session parsed asks
  have acted : (w.execute clock line).2 =
      ({ w with session }.act (.signal .deleteAllFiles)).2 := by
    unfold Workspace.execute
    rw [same]
  have synced : Synced session.state { w with session }.deleteAll.2 :=
    (ready.withSession session).synced_deleteAll opened
  rw [acted]
  refine Synced.congr ?_ fs.symm user.symm
  rcases act_deleteAllFiles (w := { w with session }) opened with same | ⟨lines, kind, said⟩
  · rw [same]
    exact synced
  · rw [said]
    exact synced.say lines kind

/-- So it does after every operation that lists the files. -/
theorem Lists.synced (h : Lists w w') (ready : Ready w) : Synced w.session.state w' := by
  cases h with
  | openProject id name => exact (ready.opening id name).synced_refresh rfl
  | refresh opened => exact ready.synced_refresh opened
  | @applyPatch _ _ r file go ended applied =>
    have all : r.results = [file].map .ok := applied
    exact ready.synced_round (List.cons_ne_nil _ _) go ended all
  | applyAll waiting go ended applied =>
    exact ready.synced_round waiting go ended (Review.gather_eq_ok_iff.mp applied)
  | deleteAll opened => exact ready.synced_deleteAll opened
  | execute clock opened parsed asks => exact ready.synced_execute clock opened parsed asks

/-- The session starts afresh, with the cached files in place. -/
theorem resetTerminal_mirrors {name : String} (named : w.projectName = some name)
    (slug : Project.slug name ≠ "") (placeable : Placeable w.review.files) :
    w.resetTerminal.review = w.review ∧
      Mirrors w.resetTerminal.session.state name w.review.files := by
  have afresh : ¬ Obstructed w.session.reset.state name w.review.files := by
    rw [Session.obstructed_iff]
    rintro (unnamed | barred | bad)
    · exact slug unnamed
    · exact Session.not_barred_initial _ _ barred
    · exact bad placeable
  unfold resetTerminal
  rw [named]
  exact ⟨rfl, Session.mirrors_sync afresh⟩

/-- Applying all patches does nothing if none waits. -/
theorem Operates.applyAll_of_nil (h : Operates w .applyAll w') (ready : Ready w)
    (nothing : w.review.pending = []) : w'.session = w.session ∧
      w'.review.files = w.review.files ∧ w'.review.store = w.review.store := by
  cases h with
  | @applyAll n r go ended =>
    rw [nothing] at go
    have same := go.of_nil
    have announced := congrArg Review.announced same
    have silent : r.review.announced = [] := announced.trans ready.silent
    have files := congrArg Review.files same
    have store := congrArg Review.store same
    refine ⟨mirror_session_of_silent silent, ?_⟩
    rw [mirror_review]
    exact ⟨files, store⟩

/-- **The terminal follows the store.** Operations lead from a workspace that is started over a
store that refuses nothing to some workspace, with whatever lines and calls of other clients in
between. Then every operation that lists the files of the open project, and opening one, leaves
those files cached that the store has; and if they could be shown before, the directory of the
project has exactly them. Starting the terminal afresh leaves exactly the cached files in that
directory. Applying all patches when none waits changes nothing. -/
theorem mirror_follows_store (willing : m₀.Willing)
    (run : Leads (start storage user (.memory m₀) editor chunkSize made) w) :
    (∀ id name, let opened := (w.openProject id name).2
      opened.review.project = some id ∧ opened.projectName = some name) ∧
    (∀ w', Lists w w' → Synced w.session.state w') ∧
    (∀ name, w.projectName = some name → Project.slug name ≠ "" → Placeable w.review.files →
      w.resetTerminal.review = w.review ∧
        Mirrors w.resetTerminal.session.state name w.review.files) ∧
    (w.review.pending = [] → ∀ w', Operates w .applyAll w' → w'.session = w.session ∧
      w'.review.files = w.review.files ∧ w'.review.store = w.review.store) := by
  have ready := run.ready willing
  refine ⟨fun id name => ⟨?_, mirror_projectName _⟩, fun w' lists => lists.synced ready,
    fun name => resetTerminal_mirrors, fun nothing w' h => h.applyAll_of_nil ready nothing⟩
  have review_eq : (w.openProject id name).2.review = _ := reviewing_review _ _
  rw [review_eq]
  exact refresh_project _

/-- Another client creates a file, and the directory of the project is removed in the terminal.
After a refresh the directory is there again and has the new file, too. -/
theorem mirror_follows_store_refreshed :
    let m₀ := (Memory.empty.seed "p1" "a.js" "x" "").2
    let w₀ := start default "user" (.memory m₀) none 64 0
    let w₁ := (w₀.openProject "p1" "One").2
    let m := m₀.replay [.list "p1", .create "p1" "src/b.js" "y" "javascript"]
    let w := (Workspace.execute default "rm -r projects/one"
      { w₁ with review.store := .memory m }).2
    m₀.Willing ∧ Leads w₀ w ∧
      w.session.state.fs.itemAt? ["home", "user", "projects", "one"] = none ∧
      w.refresh.2.session.state.fs.itemAt? ["home", "user", "projects", "one", "src", "b.js"] =
        some (.file ⟨"b.js", "user", .ofFile⟩ "y") := by
  intro m₀ w₀ w₁ m w
  have willing : m₀.Willing := fun _ _ => rfl
  have run : Leads w₀ w :=
    .step (.others (m := m₀.replay [.list "p1"]) [.create "p1" "src/b.js" "y" "javascript"] rfl
      (.step .start (.openProject "p1" "One"))) (.execute default "rm -r projects/one")
  obtain ⟨-, lists, -, -⟩ := mirror_follows_store willing run
  have opened : w.review.project = some "p1" := by decide +kernel
  obtain ⟨-, name, named, mirrors⟩ := lists _ (.refresh opened)
  have shown : w.refresh.2.projectName = some "One" := by decide +kernel
  obtain rfl := Option.some.inj (named.symm.trans shown)
  have free : ¬ Obstructed w.session.state "One" w.refresh.2.review.files := by
    rw [← Session.syncedTree?_eq_none_iff]
    decide +kernel
  have there := (mirrors free).below ["src", "b.js"] (List.cons_ne_nil _ _)
  have path : Session.projectPath w.refresh.2.session.state.user "One" ++ ["src", "b.js"] =
      ["home", "user", "projects", "one", "src", "b.js"] := by decide +kernel
  refine ⟨willing, run, by decide +kernel, ?_⟩
  rw [← path, there]
  decide +kernel

/-- Applying all patches when none waits leaves the cached files as they are: a file that another
client created meanwhile is not among them. -/
theorem applyAll_misses_foreign_file :
    let m₀ := (Memory.empty.seed "p1" "a.js" "x" "").2
    let w₀ := start default "user" (.memory m₀) none 64 0
    let w₁ := (w₀.openProject "p1" "One").2
    let m := m₀.replay [.list "p1", .create "p1" "b.js" "y" "javascript"]
    let w := { w₁ with review.store := .memory m }
    m₀.Willing ∧ Leads w₀ w ∧ w.applyAll.1 = .ok [] ∧ w.applyAll.2.review.store = .memory m ∧
      w.applyAll.2.review.project = some "p1" ∧
      w.applyAll.2.review.files ≠ m.listing "p1" := by
  intro m₀ w₀ w₁ m w
  have run : Leads w₀ w :=
    .others (m := m₀.replay [.list "p1"]) [.create "p1" "b.js" "y" "javascript"] rfl
      (.step .start (.openProject "p1" "One"))
  exact ⟨fun _ _ => rfl, run, rfl, rfl, rfl, by decide +kernel⟩

end Leads

end Workspace

end Workbench
