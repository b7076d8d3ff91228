import Workbench.Proofs.Review.Outcomes
import Workbench.Proofs.Review.Ownership

/-!
# The last listing of a round

While a round goes on, the cached files may lag behind the store: tasks update files, and create
them, in any order. But a task whose patch was applied has listed the files last of all, after its
own calls. So when all patches were applied, the listing of the task that ended last came after
every call of the round, and nothing was changed since: the files are those of the store
(`UpToDate`).

The store is taken to refuse no listing (`Served`); others may have changed it before the round.
-/

namespace Workbench

open Project (File Memory Call Store)

namespace Project.Memory

variable {m : Memory}

/-- A store that can be read can be read after a call. -/
theorem Readable.perform (h : m.Readable) (call : Call) : (m.perform call).Readable := by
  unfold Readable
  rw [refusal_perform]
  exact h

/-- And after any calls. -/
theorem Readable.replay (h : m.Readable) (calls : List Call) : (m.replay calls).Readable := by
  induction calls generalizing m with
  | nil => exact h
  | cons call calls ih => exact ih (h.perform call)

/-- Listing files changes none. -/
theorem listing_perform_list (m : Memory) (listed project : String) :
    (m.perform (.list listed)).listing project = m.listing project := by
  have performed := m.performs (.list listed)
  generalize m.perform (.list listed) = m' at performed ⊢
  cases performed
  rfl

end Project.Memory

namespace Review

/-- The store of the review is in memory and refuses no listing. -/
def Served (v : Review) : Prop :=
  ∃ m, v.store = .memory m ∧ m.Readable

/-- The files of a review are those that its store has of the open project, and they were announced
last. -/
structure UpToDate (v : Review) : Prop where
  current : ∃ m project, v.store = .memory m ∧ v.project = some project ∧
    v.files = m.listing project
  announced : v.announced.getLast? = some v.files

/-- The files of a project can be listed. -/
theorem Served.exists_list {v : Review} (served : v.Served) (project : String) :
    ∃ files store, v.store.list project = (.ok files, store) ∧ Served { v with store } := by
  obtain ⟨m, store_eq, readable⟩ := served
  refine ⟨m.listing project, .memory (m.log (.list project)), ?_, _, rfl, readable⟩
  rw [store_eq, Store.list, Memory.list_of_readable readable]

/-- A listing of the open project brings the review up to date. -/
theorem Served.takeListing {v : Review} {project : String} {files : List File} {store : Store}
    (served : v.Served) (opened : v.project = some project)
    (listed : v.store.list project = (.ok files, store)) :
    ({ v with store }.takeListing files).UpToDate := by
  obtain ⟨m, store_eq, -⟩ := served
  obtain ⟨answer, rfl⟩ := Memory.of_list store_eq listed
  refine ⟨⟨m.perform (.list project), project, rfl, opened, ?_⟩, List.getLast?_concat⟩
  rw [Memory.listing_perform_list]
  exact Memory.listing_of_list answer

/-! ## One step -/

section Stride

variable {i : ℕ} {t : Task} {v : Review} {locks : Locks} {e : Effect} {tasks : List Task}

/-- No step opens another project. -/
theorem Stride.project_eq (h : Stride i t v locks e) : e.review.project = v.project := by
  cases h <;> rfl

/-- Each step leaves a store that can be read. -/
theorem Stride.served (h : Stride i t v locks e) (served : v.Served) : e.review.Served := by
  obtain ⟨m, store_eq, readable⟩ := served
  rcases (h.recaches store_eq).store_cases with same | ⟨call, called⟩
  · exact ⟨m, same, readable⟩
  · exact ⟨m.perform call, called, readable.perform call⟩

/-- A task that types is bound to no project. -/
theorem Begins.project?_eq_none {file : File} {n : ℕ} {size : ℤ} {s : Stage}
    (h : Begins file n size s) : s.project? = none := by
  cases h <;> rfl

/-- A task that is about to call the store for a project does so for the open one. -/
theorem Stride.project?_eq {project : String} (h : Stride i t v locks e)
    (calls : e.stage.project? = some project) : v.project = some project := by
  cases h with
  | claim _ _ opened | update _ _ opened => exact calls ▸ opened
  | find _ _ begins | create _ _ begins =>
    rw [begins.project?_eq_none] at calls
    cases calls
  | _ => cases calls

/-- A task that types has not applied its patch. -/
theorem Begins.isApplied_eq_false {file : File} {n : ℕ} {size : ℤ} {s : Stage}
    (h : Begins file n size s) (p : Patch) : Task.isApplied ⟨p, s⟩ = false := by
  cases h <;> rfl

/-- A stride that ends a task well has just listed the files. -/
theorem Stride.upToDate (h : Stride i t v locks e) (served : v.Served)
    (opened : ∀ project, t.stage.project? = some project → v.project = some project)
    (applied : Task.isApplied { t with stage := e.stage } = true) : e.review.UpToDate := by
  cases h with
  | list stage listed =>
    have here := served.takeListing (opened _ (by rw [stage]; rfl)) listed
    exact ⟨here.current, here.announced⟩
  | find _ _ begins | create _ _ begins =>
    exact absurd (applied.symm.trans (begins.isApplied_eq_false t.patch)) nofun
  | _ => cases applied

end Stride

/-! ## A whole round -/

/-- What holds of the review and the tasks of a round. Once all patches are applied, the files are
up to date. -/
structure Relayed (project : Option String) (v : Review) (tasks : List Task) : Prop where
  served : v.Served
  project_eq : v.project = project
  opened : ∀ t ∈ tasks, ∀ p, t.stage.project? = some p → project = some p
  upToDate : tasks ≠ [] → (∀ t ∈ tasks, t.isApplied = true) → v.UpToDate

variable {v : Review} {patches : List Patch} {n : ℕ} {r : Round}

/-- At first there is nothing to relay. -/
theorem Relayed.start (served : v.Served) (patches : List Patch) :
    Relayed v.project v (Round.start v patches).tasks where
  served := served
  project_eq := rfl
  opened t ht := by
    obtain ⟨p, -, rfl⟩ := List.mem_map.mp ht
    exact nofun
  upToDate some all := by
    obtain ⟨t, ht⟩ := List.exists_mem_of_ne_nil _ some
    have applied := all t ht
    obtain ⟨p, -, rfl⟩ := List.mem_map.mp ht
    cases applied

/-- Either the task that takes a step is not applied after it, or it has just listed the files. -/
theorem Relayed.stride {project : Option String} {tasks : List Task} {i : ℕ} {t : Task}
    {locks : Locks} {e : Effect} (h : Relayed project v tasks) (ht : tasks[i]? = some t)
    (he : Stride i t v locks e) : Relayed project e.review (restage i e.stage tasks) where
  served := he.served h.served
  project_eq := he.project_eq.trans h.project_eq
  opened := by
    refine forall_mem_restage ht (fun p calls => ?_) fun j u _ hu => ?_
    · rw [← h.project_eq]
      exact he.project?_eq calls
    · exact h.opened u (List.mem_of_getElem? hu)
  upToDate _ all := by
    refine he.upToDate h.served (fun p calls => ?_) (all _ (self_mem_restage ht e.stage))
    rw [h.project_eq]
    exact h.opened t (List.mem_of_getElem? ht) p calls

/-- Being up to date has nothing to do with what is shown. -/
theorem UpToDate.bare_iff :
    UpToDate { v with editor := none, streaming := [] } ↔ v.UpToDate :=
  ⟨fun h => ⟨h.current, h.announced⟩, fun h => ⟨h.current, h.announced⟩⟩

/-- Nor has what is relayed. -/
theorem Relayed.bare_iff {project : Option String} {tasks : List Task} :
    Relayed project { v with editor := none, streaming := [] } tasks ↔ Relayed project v tasks :=
  ⟨fun h => ⟨h.served, h.project_eq, h.opened, fun some all =>
      UpToDate.bare_iff.mp (h.upToDate some all)⟩,
    fun h => ⟨h.served, h.project_eq, h.opened, fun some all =>
      UpToDate.bare_iff.mpr (h.upToDate some all)⟩⟩

/-- Tasks open no project. -/
theorem Interleaving.project_eq (h : Interleaving (.start v patches) n r) :
    r.review.project = v.project :=
  (keeps (P := fun r => r.review.project = v.project) (fun _ => Iff.rfl) (fun _ _ => Iff.rfl) rfl
    (.start v patches) (fun _ _ _ _ same _ _ _ _ he => he.project_eq.trans same) h).1

/-- Whatever the interleaving, what was listed is relayed. -/
theorem Interleaving.relayed (h : Interleaving (.start v patches) n r) (served : v.Served) :
    Relayed v.project r.review r.tasks :=
  (keeps (P := fun r => Relayed v.project r.review r.tasks) (fun _ => Relayed.bare_iff)
    (fun _ _ => Iff.rfl) (.start served patches) (.start v patches)
    (fun _ _ _ _ hr _ ht _ _ he => hr.stride ht he) h).1

/-- **The last listing sees every write.** When a round of at least one patch has ended and all
patches were applied, the files are those that the store has, in whatever order the tasks went. -/
theorem Interleaving.upToDate (h : Interleaving (.start v patches) n r) (served : v.Served)
    (some : patches ≠ []) (stopped : r.Ended) {files : List File}
    (applied : r.results = files.map .ok) : r.review.UpToDate := by
  refine (h.relayed served).upToDate (fun none => some ?_) fun t ht => ?_
  · rw [← h.map_patch_eq, none, List.map_nil]
  · obtain ⟨result, stage⟩ := h.done_of_ended (.start v patches) stopped ht
    have reported : result ∈ r.results :=
      List.mem_filterMap.mpr ⟨t, ht, by rw [Task.result?, stage]⟩
    rw [applied] at reported
    obtain ⟨file, -, rfl⟩ := List.mem_map.mp reported
    rw [Task.isApplied, stage]

/-- A round without patches does nothing, whatever happens to the editor. -/
theorem Interleaving.of_nil (h : Interleaving (.start v []) n r) :
    { r.review with editor := none, streaming := [] } =
      { v with editor := none, streaming := [] } := by
  refine (keeps (P := fun r => r.tasks = [] ∧ { r.review with editor := none, streaming := [] } =
    { v with editor := none, streaming := [] }) (fun _ => Iff.rfl) (fun _ _ => Iff.rfl)
    ⟨rfl, rfl⟩ (.start v []) ?_ h).1.2
  rintro r i t e ⟨none, -⟩ - ht - - -
  rw [none] at ht
  cases ht

end Review

end Workbench
