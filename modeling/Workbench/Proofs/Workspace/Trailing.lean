import Workbench.Proofs.Review.Unlisted
import Workbench.Proofs.Workspace.Following

/-!
# How far the terminal trails the store

A store that refuses calls makes operations fail half-way. As long as it refuses no listing, the
cached files are those of the store after every operation of a workspace, also after one that
failed. The terminal shows the files that were listed last. Most operations that fail have listed
the files last of all, or have changed nothing since. The exception is a patch for a new file whose
update is refused: the empty file stays without being listed, and the terminal does not show it
until the files are listed again.

`Minds` are the runs in which nobody else writes to the store and no line touches the directory of
the project, `Trailing` says by which files the terminal trails the store, and
`mirror_trails_created_files` that these are all.
-/

namespace Workbench

open Project (File Memory Store)
open Review (Round Interleaving)
open Session (Barred Mirrors Obstructed Placeable projectPath)
open Shell (State)

/-! ## Lines that leave a directory alone -/

/-- Nothing is changed in the directory of a project, at it or on the way to it. -/
def Session.Untouched (projectName : String) (state state' : State) : Prop :=
  ∀ path, path <+: projectPath state.user projectName ∨ projectPath state.user projectName <+: path →
    state'.fs.itemAt? path = state.fs.itemAt? path

section Untouched

variable {state state' : State} {projectName : String} {files : List File}

/-- A directory that is left alone goes on mirroring. -/
theorem Session.Mirrors.untouched (h : Mirrors state projectName files)
    (same : Session.Untouched projectName state state') (user : state'.user = state.user) :
    Mirrors state' projectName files where
  directory := by
    rw [user, same _ (.inl List.prefix_rfl)]
    exact h.directory
  below path hpath := by
    rw [user, same _ (.inr (List.prefix_append _ _))]
    exact h.below path hpath

/-- Nothing comes in its way either. -/
theorem Session.not_barred_of_untouched (clear : ¬ Barred state projectName)
    (same : Session.Untouched projectName state state') (user : state'.user = state.user) :
    ¬ Barred state' projectName := by
  rintro ⟨p, a, content, onWay, hitem⟩
  rw [user] at onWay
  cases p with
  | nil => cases hitem
  | cons name p =>
    rw [← Tree.Directory.itemAt?_cons, same _ (.inl onWay), Tree.Directory.itemAt?_cons] at hitem
    exact clear ⟨_, a, content, onWay, hitem⟩

end Untouched

namespace Workspace

/-! ## Files that are not shown -/

/-- The terminal trails the review by files that were created: it shows the others, if they could be
shown when the project was opened. -/
structure Trailing (before : State) (shown created : List File) (w : Workspace) : Prop where
  files_eq : w.review.files = shown ++ created
  empty : ∀ f ∈ created, f.content = ""
  mirrored : ∃ name, w.projectName = some name ∧ ¬ Barred w.session.state name ∧
    (¬ Obstructed before name shown → Mirrors w.session.state name shown)

section Trailing

variable {w w' : Workspace} {before : State} {shown created files new : List File}
variable {name : String} {v : Review}

/-- A listing that could be mirrored when the project was opened can be mirrored as long as the way
is clear. -/
theorem not_obstructed_of_clear {state : State} (free : ¬ Obstructed before name files)
    (clear : ¬ Barred state name) : ¬ Obstructed state name files := by
  rw [Session.obstructed_iff] at free ⊢
  push Not at free
  rintro (unnamed | barred | bad)
  · exact free.1 unnamed
  · exact clear barred
  · exact bad free.2.2

/-- The listing that was announced last is shown. -/
theorem trailing_of_listed (named : w.projectName = some name)
    (last : v.announced.getLast? = some files)
    (free : ¬ Obstructed before name files → ¬ Obstructed w.session.state name files)
    (files_eq : v.files = files ++ new) (empty : ∀ f ∈ new, f.content = "") :
    Trailing before files new { w with review := v }.mirror := by
  have session_eq := mirror_session (w := { w with review := v }) named
  refine ⟨?_, empty, name, (mirror_projectName _).trans named, ?_⟩
  · rw [mirror_review]
    exact files_eq
  · rw [session_eq]
    exact ⟨Session.not_barred_of_last last, fun h => Session.mirrors_syncAll last (free h)⟩

/-- Without a listing the files stay that are shown. -/
theorem Trailing.mirror_of_silent (h : Trailing before shown created w) (silent : v.announced = [])
    (files_eq : v.files = w.review.files ++ new) (empty : ∀ f ∈ new, f.content = "") :
    Trailing before shown (created ++ new) { w with review := v }.mirror := by
  obtain ⟨name, named, mirrored⟩ := h.mirrored
  have session_eq := mirror_session_of_silent (w := { w with review := v }) silent
  refine ⟨?_, ?_, name, (mirror_projectName _).trans named, ?_⟩
  · rw [mirror_review, ← List.append_assoc, ← h.files_eq]
    exact files_eq
  · intro f hf
    exact (List.mem_append.mp hf).elim (h.empty f) (empty f)
  · rw [session_eq]
    exact mirrored

/-- A round that announces is mirrored up to what it created last. -/
theorem Trailing.mirror (h : Trailing before shown created w)
    (files_eq : v.files = v.announced.getLast?.getD w.review.files ++ new)
    (empty : ∀ f ∈ new, f.content = "") : ∃ shown' created',
      Trailing before shown' created' { w with review := v }.mirror ∧
        ∀ f ∈ created', f ∈ created ∨ f ∈ new := by
  cases last : v.announced.getLast? with
  | none =>
    rw [last, Option.getD_none] at files_eq
    have silent : v.announced = [] := List.getLast?_eq_none_iff.mp last
    exact ⟨_, _, h.mirror_of_silent silent files_eq empty, fun f hf => List.mem_append.mp hf⟩
  | some listed =>
    rw [last, Option.getD_some] at files_eq
    obtain ⟨name, named, clear, -⟩ := h.mirrored
    have listed_trails : Trailing before listed new { w with review := v }.mirror :=
      trailing_of_listed named last (fun free => not_obstructed_of_clear free clear) files_eq empty
    exact ⟨_, _, listed_trails, fun f hf => .inr hf⟩

/-- Lines that leave the directory of the project alone do not matter. -/
theorem Trailing.withSession (h : Trailing before shown created w) {session : Session}
    (same : ∀ name, w.projectName = some name →
      Session.Untouched name w.session.state session.state)
    (user : session.state.user = w.session.state.user) :
    Trailing before shown created { w with session } := by
  obtain ⟨name, named, clear, mirrors⟩ := h.mirrored
  refine ⟨h.files_eq, h.empty, name, named, ?_, fun free => ?_⟩
  · exact Session.not_barred_of_untouched clear (same name named) user
  · exact (mirrors free).untouched (same name named) user

/-- Output changes no tree. -/
theorem Trailing.say (h : Trailing before shown created w) (lines : List String)
    (kind : Shell.EntryKind) : Trailing before shown created (w.say lines kind) :=
  h.withSession (fun _ _ _ _ => rfl) rfl

end Trailing

/-! ## What operations do -/

/-- The cached files are those that the store has of the open project. -/
def Accurate (w : Workspace) : Prop :=
  ∃ m project, w.review.store = .memory m ∧ w.review.project = some project ∧
    w.review.files = m.listing project

def Operation.patches (w : Workspace) : Operation → List Patch
  | .applyPatch patch => [patch]
  | .applyAll => w.review.pending
  | _ => []

/-- An operation opens no project, and if it is a line then that leaves the directory of the project
alone. What the workspace does in answer to the line does not count. -/
def Calm (w : Workspace) : Operation → Prop
  | .openProject _ _ => False
  | .execute clock line => ∀ name, w.projectName = some name →
      Session.Untouched name w.session.state (w.session.execute clock line).2.state
  | _ => True

/-- The cached files are accurate, and the terminal trails them by no files but those in `created`
and those that patches were to fill. -/
def Lags (before : State) (created : List File) (patches : List Patch) (w : Workspace) : Prop :=
  Accurate w ∧ ∃ shown missing, Trailing before shown missing w ∧
    ∀ f ∈ missing, f ∈ created ∨ ∃ p ∈ patches, p.fileName = f.name

section Operation

variable {w w' : Workspace} {before : State} {shown created : List File} {op : Operation}
variable {patches : List Patch}

/-- Mirroring leaves the cached files alone. -/
theorem Accurate.mirror (h : Accurate w) : Accurate w.mirror := by
  unfold Accurate
  rw [mirror_review]
  exact h

/-- Where the files are listed, the terminal trails by none. -/
theorem Ready.trailing_refresh (ready : Ready w) {id name : String}
    (named : w.projectName = some name) (opened : w.review.project = some id)
    (free : ∀ files, ¬ Obstructed before name files → ¬ Obstructed w.session.state name files) :
    Accurate w.refresh.2 ∧ Trailing before w.refresh.2.review.files [] w.refresh.2 := by
  have upToDate := upToDate_refresh ready.served opened
  have review_eq : w.refresh.2.review = _ := mirror_review { w with review := w.review.refresh.2 }
  refine ⟨?_, ?_⟩
  · unfold Accurate
    rw [review_eq]
    exact upToDate.current
  · rw [review_eq]
    exact trailing_of_listed named upToDate.announced (free _) (List.append_nil _).symm nofun

/-- A refresh catches up. -/
theorem Trailing.refresh (h : Trailing before shown created w) (ready : Ready w) {id : String}
    (opened : w.review.project = some id) :
    Accurate w.refresh.2 ∧ Trailing before w.refresh.2.review.files [] w.refresh.2 := by
  obtain ⟨name, named, clear, -⟩ := h.mirrored
  exact ready.trailing_refresh named opened fun _ free => not_obstructed_of_clear free clear

/-- A project that is opened is shown. -/
theorem Ready.trailing_openProject (ready : Ready w) (id name : String) :
    let opened := (w.openProject id name).2
    Accurate opened ∧ Trailing w.session.state opened.review.files [] opened :=
  (ready.opening id name).trailing_refresh rfl rfl fun _ free => free

/-- So does deleting everything. -/
theorem Trailing.deleteAll (h : Trailing before shown created w) (ready : Ready w) {id : String}
    (opened : w.review.project = some id) :
    Accurate w.deleteAll.2 ∧ Trailing before w.deleteAll.2.review.files [] w.deleteAll.2 := by
  rw [deleteAll_snd]
  have asked : Trailing before shown created { w with
      review.store := (deleteFiles w.review.files w.review.store).2 } :=
    ⟨h.files_eq, h.empty, h.mirrored⟩
  exact asked.refresh ready.deleteFiles opened

/-- What a line asks for adds nothing to what is behind. -/
theorem Trailing.act (h : Trailing before shown created w) (ready : Ready w)
    (accurate : Accurate w) (result : Shell.Result) : Lags before created [] (w.act result).2 := by
  obtain ⟨-, id, -, opened, -⟩ := id accurate
  by_cases asked : result = .signal .deleteAllFiles
  · subst asked
    obtain ⟨accurate', trailing⟩ := h.deleteAll ready opened
    rcases act_deleteAllFiles opened with same | ⟨lines, kind, said⟩
    · rw [same]
      exact ⟨accurate', _, _, trailing, nofun⟩
    · rw [said]
      exact ⟨accurate', _, _, trailing.say lines kind, nofun⟩
  · unfold Workspace.act
    split
    · exact absurd rfl asked
    · exact ⟨accurate, _, _, h.say _ _, fun f hf => .inl hf⟩
    · exact ⟨accurate, _, _, h, fun f hf => .inl hf⟩

/-- Nor does a line that leaves the directory of the project alone. -/
theorem Trailing.execute (h : Trailing before shown created w) (ready : Ready w)
    (accurate : Accurate w) {clock : Clock} {line : String} (calm : Calm w (.execute clock line)) :
    Lags before created [] (w.execute clock line).2 := by
  have shown := h.withSession calm (Session.execute_user clock line w.session)
  unfold Workspace.execute
  generalize w.session.execute clock line = answer at shown ⊢
  obtain ⟨result, session⟩ := answer
  cases result with
  | none => exact ⟨accurate, _, _, shown, fun f hf => .inl hf⟩
  | some result => exact shown.act (ready.withSession session) accurate result

/-- Patches add the files that they created and did not list. -/
theorem Trailing.round (h : Trailing before shown created w) (ready : Ready w)
    (accurate : Accurate w) {n : ℕ} {r : Round} (go : Interleaving (.start w.review patches) n r)
    (ended : r.Ended) : Lags before created patches { w with review := r.review }.mirror := by
  obtain ⟨m, id, store_eq, opened, current⟩ := accurate
  obtain ⟨⟨m', store_eq', current'⟩, new, files_eq, unfilled⟩ :=
    go.unlisted ended ready.served opened ready.silent ⟨m, store_eq, current⟩
  obtain ⟨shown', created', trailing, few⟩ := h.mirror files_eq fun f hf => (unfilled f hf).1
  have opened' : r.review.project = some id := (go.relayed ready.served).project_eq.trans opened
  refine ⟨Accurate.mirror ⟨m', id, store_eq', opened', current'⟩, shown', created', trailing, ?_⟩
  intro f hf
  refine (few f hf).imp_right fun fresh => ?_
  obtain ⟨-, t, ht, named, -⟩ := unfilled f fresh
  exact ⟨t.patch, go.map_patch_eq ▸ List.mem_map_of_mem ht, named⟩

/-- In a session that starts afresh all cached files are shown. -/
theorem Trailing.resetTerminal (h : Trailing before shown created w) :
    Trailing before w.review.files [] w.resetTerminal := by
  obtain ⟨name, named, -⟩ := h.mirrored
  unfold Workspace.resetTerminal
  rw [named]
  refine ⟨(List.append_nil _).symm, nofun, name, rfl, ?_, fun free => ?_⟩
  · exact Session.not_barred_sync name w.review.files w.session.reset
  · refine Session.mirrors_sync (not_obstructed_of_clear free ?_)
    exact Session.not_barred_initial _ _

/-- An operation that does nothing to the files. -/
theorem Trailing.idle (h : Trailing before shown created w) (ready : Ready w)
    (accurate : Accurate w) {v : Review} (store_eq : v.store = w.review.store)
    (project_eq : v.project = w.review.project) (files_eq : v.files = w.review.files)
    (announced_eq : v.announced = w.review.announced) :
    Lags before created [] { w with review := v }.mirror := by
  have still : Trailing before shown (created ++ []) { w with review := v }.mirror := by
    refine h.mirror_of_silent (announced_eq.trans ready.silent) ?_ nofun
    rw [List.append_nil, files_eq]
  rw [List.append_nil] at still
  have accurate' : Accurate { w with review := v } := by
    unfold Accurate
    rwa [store_eq, project_eq, files_eq]
  exact ⟨accurate'.mirror, _, _, still, fun f hf => .inl hf⟩

/-- **One operation.** The terminal trails the store by the files by which it did before, unless the
operation applies patches, and then also by files that these were to fill. -/
theorem Operates.lags (h : Operates w op w') (calm : Calm w op) (ready : Ready w)
    (accurate : Accurate w) (trailing : Trailing before shown created w) :
    Lags before created (op.patches w) w' := by
  obtain ⟨-, id, -, opened, -⟩ := id accurate
  cases h with
  | openProject _ _ => exact calm.elim
  | refresh =>
    obtain ⟨accurate', trailing'⟩ := trailing.refresh ready opened
    exact ⟨accurate', _, _, trailing', nofun⟩
  | parse text => exact trailing.idle ready accurate rfl rfl rfl rfl
  | applyPatch go ended => exact trailing.round ready accurate go ended
  | applyAll go ended => exact trailing.round ready accurate go ended
  | rejectPatch patch => exact trailing.idle ready accurate rfl rfl rfl rfl
  | execute clock line => exact trailing.execute ready accurate calm
  | resetTerminal =>
    have same : Accurate w.resetTerminal := by
      unfold Workspace.resetTerminal
      split <;> exact accurate
    exact ⟨same, _, _, trailing.resetTerminal, nofun⟩

end Operation

/-! ## Runs -/

/-- `Minds w₀ before w`: operations led from `w₀` to a workspace whose session was in the state
`before`. Then a project was opened; and since that nobody else has written to the store, no line
has touched the directory of the project, and operations led to `w`. -/
inductive Minds (w₀ : Workspace) : State → Workspace → Prop
  | openProject {w : Workspace} (id name : String) :
      Leads w₀ w → Minds w₀ w.session.state (w.openProject id name).2
  | step {before : State} {w w' : Workspace} {op : Operation} :
      Minds w₀ before w → Operates w op w' → Calm w op → Minds w₀ before w'
  | deleteAll {before : State} {w : Workspace} :
      Minds w₀ before w → Minds w₀ before w.deleteAll.2
  | edit {before : State} {w : Workspace} (editor : Option Editor) :
      Minds w₀ before w → Minds w₀ before { w with review.editor := editor }

section Minds

variable {w₀ w : Workspace} {before : State} {storage : Storage} {user : String} {m₀ : Memory}
variable {editor : Option Editor} {chunkSize : ℤ} {made : ℕ}

/-- Minding the directory is no other way to operate. -/
theorem Minds.leads (run : Minds w₀ before w) : Leads w₀ w := by
  induction run with
  | openProject id name lead => exact .step lead (.openProject id name)
  | step _ operates _ lead => exact .step lead operates
  | deleteAll _ lead => exact .deleteAll lead
  | edit editor _ lead => exact .edit editor lead

/-- How far the mirror trails, by induction on the operations. -/
theorem Minds.lags (readable : m₀.Readable)
    (run : Minds (start storage user (.memory m₀) editor chunkSize made) before w) :
    Accurate w ∧ ∃ shown created, Trailing before shown created w := by
  induction run with
  | openProject id name lead =>
    have ready := lead.ready_of_readable readable
    obtain ⟨accurate, trailing⟩ := ready.trailing_openProject id name
    exact ⟨accurate, _, _, trailing⟩
  | step run operates calm ih =>
    obtain ⟨accurate, shown, created, trailing⟩ := ih
    have ready := run.leads.ready_of_readable readable
    obtain ⟨accurate', shown', created', trailing', -⟩ :=
      operates.lags calm ready accurate trailing
    exact ⟨accurate', shown', created', trailing'⟩
  | deleteAll run ih =>
    obtain ⟨⟨m, id, -, opened, -⟩, shown, created, trailing⟩ := ih
    have ready := run.leads.ready_of_readable readable
    obtain ⟨accurate, trailing'⟩ := trailing.deleteAll ready opened
    exact ⟨accurate, _, _, trailing'⟩
  | edit editor _ ih =>
    obtain ⟨accurate, shown, created, trailing⟩ := ih
    exact ⟨accurate, shown, created, trailing.files_eq, trailing.empty, trailing.mirrored⟩

/-- **How far the terminal trails the store.** The store may refuse any call but a listing, and a
project is open to which nobody else writes and whose directory no line touches. After every
operation the cached files are those of the store, and the directory shows all of them but for some
empty ones. After an operation that has listed the files, and after a restart of the terminal, it
shows all. An operation makes it trail by no files but those that patches were to fill, and so only
if it applies patches and fails. -/
theorem mirror_trails_created_files (readable : m₀.Readable)
    (run : Minds (start storage user (.memory m₀) editor chunkSize made) before w) :
    Accurate w ∧ (∃ shown created, Trailing before shown created w) ∧
    (∀ w', Lists w w' → Synced w.session.state w') ∧
    (∀ name, w.projectName = some name → Project.slug name ≠ "" → Placeable w.review.files →
      Mirrors w.resetTerminal.session.state name w.review.files) ∧
    ∀ shown created op w', Trailing before shown created w → Operates w op w' → Calm w op →
      ∃ shown' created', Trailing before shown' created' w' ∧
        ∀ f ∈ created', f ∈ created ∨ ∃ p ∈ op.patches w, p.fileName = f.name := by
  have ready := run.leads.ready_of_readable readable
  obtain ⟨accurate, trailing⟩ := run.lags readable
  refine ⟨accurate, trailing, fun w' lists => lists.synced ready, ?_, ?_⟩
  · intro name named slug placeable
    exact (resetTerminal_mirrors named slug placeable).2
  · intro shown created op w' trailing operates calm
    exact (operates.lags calm ready accurate trailing).2

/-- A store that changes no file creates one and then refuses its new content. The listing of the
project has the empty file and could be mirrored, but the terminal does not show it; after a refresh
it does. -/
theorem mirror_trails_created_files_update_refused :
    let m₀ : Memory := { (Memory.empty.seed "p1" "a.js" "x" "").2 with
      refusal := fun _ call => call.target?.map fun _ => .refused .run "store unavailable" }
    let w₀ := start default "user" (.memory m₀) none 64 0
    let patch : Patch := ⟨"1", "b.js", "y", 1, 0, true⟩
    let w := ((w₀.openProject "p1" "One").2.applyPatch patch).2
    m₀.Readable ∧ Minds w₀ w₀.session.state w ∧
      w.review.files.map (·.name) = ["a.js", "b.js"] ∧
      ¬ Obstructed w₀.session.state "One" w.review.files ∧
      ¬ Mirrors w.session.state "One" w.review.files ∧
      Mirrors w.refresh.2.session.state "One" w.refresh.2.review.files := by
  intro m₀ w₀ patch w
  have readable : m₀.Readable := fun _ _ => rfl
  have run : Minds w₀ w₀.session.state w :=
    .step (.openProject "p1" "One" .start) (operates_applyPatch _ patch) trivial
  have free : ¬ Obstructed w₀.session.state "One" w.review.files := by
    rw [← Session.syncedTree?_eq_none_iff]
    decide +kernel
  have absent : w.session.state.fs.itemAt?
      (projectPath w.session.state.user "One" ++ ["b.js"]) = none := by decide +kernel
  have due : (Session.shownItem w.session.state.user w.review.files ["b.js"]).isSome = true := by
    decide +kernel
  refine ⟨readable, run, by decide +kernel, free, fun mirrors => ?_, ?_⟩
  · rw [← mirrors.below ["b.js"] (List.cons_ne_nil _ _), absent] at due
    cases due
  · obtain ⟨-, -, lists, -, -⟩ := mirror_trails_created_files readable run
    have opened : w.review.project = some "p1" := by decide +kernel
    obtain ⟨-, name, named, mirrors⟩ := lists _ (.refresh opened)
    have shown : w.refresh.2.projectName = some "One" := by decide +kernel
    obtain rfl := Option.some.inj (named.symm.trans shown)
    refine mirrors ?_
    rw [← Session.syncedTree?_eq_none_iff]
    decide +kernel

end Minds

end Workspace

end Workbench
