import Workbench.Proofs.Review.Outcomes
import Workbench.Proofs.Review.Serializable
import Workbench.Proofs.Workspace.Crossing

/-!
# Workspaces that no operation fails in

Let the store of a workspace be in memory and refuse nothing. An operation can then only fail over a
file that the store does not have, and that cannot happen while the files of the open project are
cached as they are stored. Such a workspace is `InStep`; every operation succeeds in it and leaves
it in step, those that need a project as long as one is open.
-/

namespace Workbench

open Project (File Store Memory)

/-! ## Deleting what is stored -/

namespace Project.Memory

variable {m : Memory}

/-- The store after a file was deleted. -/
def without (id : String) (m : Memory) : Memory :=
  { m.log (.delete id) with held := m.held.filter (·.2.id != id) }

/-- A willing store deletes each file that it holds. -/
theorem delete_of_willing (h : m.Willing) {id : String} (held : m.holds id = true) :
    m.delete id = (.ok (), m.without id) := by
  unfold delete
  rw [attempt_of_willing h]
  exact if_pos held

/-- A file that is listed is held. -/
theorem holds_of_mem_listing {project : String} {file : File} (h : file ∈ m.listing project) :
    m.holds file.id = true :=
  holds_iff.mpr ⟨(project, file), mem_filesOf.mp h, rfl⟩

/-- Deleting a file leaves those with other ids. -/
theorem holds_without {id other : String} (held : m.holds other = true) (different : other ≠ id) :
    (m.without id).holds other = true := by
  obtain ⟨e, he, rfl⟩ := holds_iff.mp held
  exact holds_iff.mpr ⟨e, List.mem_filter.mpr ⟨he, by simpa using different⟩, rfl⟩

end Project.Memory

/-- Files with distinct ids that are held can be deleted one after another. -/
theorem Workspace.exists_deleteFiles_eq_ok {m : Memory} {files : List File} (willing : m.Willing)
    (sound : m.Sound) (distinct : (files.map (·.id)).Nodup)
    (held : ∀ file ∈ files, m.holds file.id = true) :
    ∃ m' : Memory, deleteFiles files (.memory m) = (.ok (), .memory m') ∧ m'.Willing ∧ m'.Sound := by
  induction files generalizing m with
  | nil => exact ⟨m, rfl, willing, sound⟩
  | cons file rest ih =>
    obtain ⟨new, distinct⟩ := List.nodup_cons.mp distinct
    have deleted := Memory.delete_of_willing willing (held file List.mem_cons_self)
    have willing_rest : (m.without file.id).Willing := willing
    have sound_rest : (m.without file.id).Sound := by
      have sound' := sound.delete file.id
      rwa [deleted] at sound'
    have held_rest : ∀ other ∈ rest, (m.without file.id).holds other.id = true := by
      intro other mem
      refine Memory.holds_without (held other (List.mem_cons_of_mem _ mem)) fun same => ?_
      exact new (List.mem_map.mpr ⟨other, mem, same⟩)
    obtain ⟨m', rest_eq, kept⟩ := ih willing_rest sound_rest distinct held_rest
    refine ⟨m', ?_, kept⟩
    unfold deleteFiles
    rw [Store.delete, deleted]
    exact rest_eq

/-! ## Reviews -/

namespace Review

/-- The store of a review is `m`, which refuses nothing. -/
structure Supplied (m : Memory) (v : Review) : Prop where
  store_eq : v.store = .memory m
  willing : m.Willing
  sound : m.Sound
  chunk_pos : 0 < v.chunkSize

/-- A review whose store refuses nothing; the files of the project that is open, if one is, are
cached as they are stored. -/
structure InStep (m : Memory) (v : Review) : Prop extends Supplied m v where
  files_eq : ∀ project, v.project = some project → v.files = m.listing project

section InStep

variable {m : Memory} {v v' : Review} {project : String}

/-- In step, the cached files are those of the store. -/
theorem InStep.current (h : InStep m v) (opened : v.project = some project) :
    v.Current m project :=
  ⟨h.store_eq, opened, h.files_eq project opened, h.chunk_pos, h.willing, h.sound⟩

/-- And the other way round. -/
theorem Current.inStep (h : v.Current m project) : InStep m v where
  store_eq := h.store_eq
  willing := h.willing
  sound := h.sound
  chunk_pos := h.chunk_pos
  files_eq other opened := by
    obtain rfl := Option.some.inj (h.project_eq.symm.trans opened)
    exact h.files_eq

/-- Changes of other parts of a review matter to nothing here. -/
theorem InStep.of_eq (h : InStep m v) (store : v'.store = v.store) (files : v'.files = v.files)
    (project : v'.project = v.project) (chunkSize : v'.chunkSize = v.chunkSize) : InStep m v' where
  store_eq := store.trans h.store_eq
  willing := h.willing
  sound := h.sound
  chunk_pos := chunkSize ▸ h.chunk_pos
  files_eq other opened := files.trans (h.files_eq other (project.symm.trans opened))

/-- The files of the open project can be asked for, whatever was cached before. -/
theorem Supplied.exists_refresh_eq_ok (h : Supplied m v) (opened : v.project = some project) :
    ∃ files v', v.refresh = (.ok files, v') ∧ v'.Current (m.log (.list project)) project := by
  have listed : v.store.list project = (.ok (m.listing project), .memory (m.log (.list project))) := by
    rw [h.store_eq, Store.list, Memory.list_of_willing h.willing]
  exact ⟨_, _, refresh_of_ok opened listed,
    rfl, opened, rfl, h.chunk_pos, h.willing, h.sound.log _⟩

/-- At the end of a round all patches were applied, and the review is current. -/
theorem Interleaving.exists_gather_eq_ok {patches : List Patch} {n : ℕ} {r : Round}
    (current : v.Current m project) (h : Interleaving (.start v patches) n r) (ended : r.Ended) :
    ∃ files m', gather r.results = .ok files ∧ r.review.Current m' project := by
  obtain ⟨made, written, m', hs⟩ := h.serial current
  obtain ⟨successful, -, -⟩ := hs.settled (fun p hp => h.exists_task hp)
    fun t ht => h.done_of_ended (.start v patches) ended ht
  obtain ⟨files, gathered⟩ := Review.exists_gather_eq_ok successful
  obtain ⟨m', current', -⟩ := h.settled current ended
  exact ⟨files, m', gathered, current'⟩

/-- Then a patch is applied well. -/
theorem Current.exists_apply_eq_ok (current : v.Current m project) (patch : Patch) :
    ∃ file v' m', v.apply patch = (.ok file, v') ∧ v'.Current m' project := by
  obtain ⟨n, r, result, go, ended, results_eq, apply_eq⟩ := exists_apply_eq patch v
  obtain ⟨files, m', gathered, current'⟩ := go.exists_gather_eq_ok current ended
  rw [results_eq, gather_eq_ok_iff] at gathered
  obtain ⟨file, -, same⟩ := List.map_eq_singleton_iff.mp gathered.symm
  exact ⟨file, r.review, m', by rw [apply_eq, ← same], current'⟩

/-- So are all that wait. -/
theorem Current.exists_applyAll_eq_ok (current : v.Current m project) :
    ∃ files v' m', v.applyAll = (.ok files, v') ∧ v'.Current m' project := by
  obtain ⟨ended, n, go⟩ := Round.start_run v v.pending
  obtain ⟨files, m', gathered, current'⟩ := go.exists_gather_eq_ok current ended
  exact ⟨files, _, m', Prod.ext gathered rfl, current'⟩

end InStep

end Review

/-! ## Workspaces -/

namespace Workspace

open Review (Supplied)

/-- The review of the workspace is in step with its store, which refuses nothing. -/
def InStep (w : Workspace) : Prop :=
  ∃ m, Review.InStep m w.review

/-- An operation that did not fail and left the workspace in step. -/
def Succeeds {α : Type} (outcome : Except Failure α × Workspace) : Prop :=
  ∃ a w, outcome = (.ok a, w) ∧ w.InStep

section Operations

variable {w : Workspace} {project : String}

/-- The session may be any. -/
theorem InStep.session (h : w.InStep) (session : Session) : { w with session }.InStep := h

/-- Only the review matters. -/
theorem InStep.of_review_eq {w' : Workspace} (h : w.InStep) (same : w'.review = w.review) :
    w'.InStep := by
  unfold InStep
  rwa [same]

/-- Mirroring listings changes nothing that matters here. -/
theorem inStep_mirror (w : Workspace) {m : Memory} (h : Review.InStep m w.review) :
    w.mirror.InStep := by
  refine ⟨m, ?_⟩
  rw [mirror_review]
  exact h.of_eq rfl rfl rfl rfl

/-- What succeeds on the review succeeds on the workspace. -/
theorem succeeds_reviewing {α : Type} {act : Review → Except Failure α × Review} {a : α}
    {v : Review} {m : Memory} (done : act w.review = (.ok a, v)) (h : Review.InStep m v) :
    Succeeds (w.reviewing act) := by
  refine ⟨a, { w with review := v }.mirror, ?_, inStep_mirror _ h⟩
  unfold reviewing
  rw [done]

/-- A workspace starts in step. -/
theorem start_inStep {storage : Storage} {user : String} {m : Memory} {editor : Option Editor}
    {chunkSize : ℤ} {made : ℕ} (willing : m.Willing) (sound : m.Sound) (chunk_pos : 0 < chunkSize) :
    (start storage user (.memory m) editor chunkSize made).InStep :=
  ⟨m, ⟨rfl, willing, sound, chunk_pos⟩, nofun⟩

/-- Opening a project succeeds. -/
theorem InStep.openProject (h : w.InStep) (id name : String) :
    Succeeds (w.openProject id name) := by
  obtain ⟨m, inStep⟩ := h
  have supplied : Supplied m { w.review with project := some id, pending := [] } :=
    ⟨inStep.store_eq, inStep.willing, inStep.sound, inStep.chunk_pos⟩
  obtain ⟨files, v, refreshed, current⟩ := supplied.exists_refresh_eq_ok rfl
  exact succeeds_reviewing refreshed current.inStep

/-- A refresh succeeds if there is a project. -/
theorem succeeds_refresh (w : Workspace) {m : Memory} (supplied : Supplied m w.review)
    (opened : w.review.project = some project) : Succeeds w.refresh := by
  obtain ⟨files, v, refreshed, current⟩ := supplied.exists_refresh_eq_ok opened
  exact succeeds_reviewing refreshed current.inStep

/-- So it does in step. -/
theorem InStep.refresh (h : w.InStep) (opened : w.review.project = some project) :
    Succeeds w.refresh := by
  obtain ⟨m, inStep⟩ := h
  exact succeeds_refresh w inStep.toSupplied opened

/-- The cached files are those of the project, so each of them can be deleted. -/
theorem InStep.deleteAll (h : w.InStep) (opened : w.review.project = some project) :
    Succeeds w.deleteAll := by
  obtain ⟨m, inStep⟩ := h
  have files_eq := inStep.files_eq project opened
  obtain ⟨m', deleted, willing, sound⟩ := exists_deleteFiles_eq_ok inStep.willing inStep.sound
    (inStep.sound.nodup_listing project) fun _ => Memory.holds_of_mem_listing
  rw [← files_eq, ← inStep.store_eq] at deleted
  have supplied : Supplied m' { w.review with store := .memory m' } :=
    ⟨rfl, willing, sound, inStep.chunk_pos⟩
  obtain ⟨files, w', refreshed, inStep'⟩ :=
    succeeds_refresh { w with review.store := .memory m' } supplied opened
  refine ⟨w.review.files.length, w', ?_, inStep'⟩
  unfold Workspace.deleteAll
  dsimp only
  rw [deleted, refreshed]

/-- What a line asks for succeeds. -/
theorem InStep.act (h : w.InStep) (result : Shell.Result) : Succeeds (w.act result) := by
  unfold Workspace.act
  split
  · split
    · exact ⟨(), _, rfl, h⟩
    · next project opened =>
      obtain ⟨count, w', deleted, inStep⟩ := h.deleteAll opened
      rw [deleted]
      exact ⟨(), _, rfl, inStep⟩
  · exact ⟨(), _, rfl, h⟩
  · exact ⟨(), _, rfl, h⟩

/-- So does a line. -/
theorem InStep.execute (h : w.InStep) (clock : Clock) (line : String) :
    Succeeds (w.execute clock line) := by
  unfold Workspace.execute
  obtain ⟨result, session⟩ := w.session.execute clock line
  cases result with
  | none => exact ⟨none, _, rfl, h⟩
  | some result =>
    obtain ⟨done, w', acted, inStep⟩ := (h.session session).act result
    dsimp only
    rw [acted]
    exact ⟨some result, w', rfl, inStep⟩

/-- So does a patch. -/
theorem InStep.applyPatch (h : w.InStep) (opened : w.review.project = some project)
    (patch : Patch) : Succeeds (w.applyPatch patch) := by
  obtain ⟨m, inStep⟩ := h
  obtain ⟨file, v, m', applied, current⟩ := (inStep.current opened).exists_apply_eq_ok patch
  exact succeeds_reviewing applied current.inStep

/-- So do all patches. -/
theorem InStep.applyAll (h : w.InStep) (opened : w.review.project = some project) :
    Succeeds w.applyAll := by
  obtain ⟨m, inStep⟩ := h
  obtain ⟨files, v, m', applied, current⟩ := (inStep.current opened).exists_applyAll_eq_ok
  exact succeeds_reviewing applied current.inStep

/-! What cannot fail. -/

/-- Parsing leaves the cached files alone. -/
theorem InStep.parse (h : w.InStep) (text : String) : (w.parse text).2.InStep := by
  obtain ⟨m, inStep⟩ := h
  exact inStep_mirror { w with review := (w.review.parse text).2 }
    (inStep.of_eq rfl rfl rfl rfl)

/-- So does rejecting. -/
theorem InStep.rejectPatch (h : w.InStep) (patch : Patch) : (w.rejectPatch patch).InStep := by
  obtain ⟨m, inStep⟩ := h
  exact inStep_mirror { w with review := w.review.reject patch }
    (inStep.of_eq rfl rfl rfl rfl)

/-- So does starting the terminal afresh. -/
theorem InStep.resetTerminal (h : w.InStep) : w.resetTerminal.InStep := by
  refine h.of_review_eq ?_
  unfold Workspace.resetTerminal
  split <;> rfl

end Operations

end Workspace

end Workbench
