import Workbench.Proofs.Project.Settled
import Workbench.Proofs.Review.Interleaving

/-!
# Patches that are applied side by side

`Serial` relates the tasks of a round, the files that the review has cached and the store, at any
point of an interleaving. The files in the store are those of the start and the ones that were
created since, under the contents that were written last. The cached files are the same files, but
may have older contents. What a task knows is still true (`OnTrack`): the file it has found is the
one that its patch means, and the name it has claimed is still free, since nobody else holds the
lock of the name.

* `Serial.stride`: every stride keeps it.
* `Serial.settled`: when all tasks are done, the files have settled under the patches.
-/

namespace Workbench.Review

open Project

/-- The names under which files were created. -/
def createdNames (calls : List Call) : List String :=
  calls.filterMap fun
    | .create _ name _ _ => some name
    | _ => none

/-- Lists of the same files, but for contents. -/
def SameFiles (files files' : List File) : Prop :=
  files.map (File.revise fun _ => some "") = files'.map (File.revise fun _ => some "")

namespace SameFiles

variable {files files' : List File}

/-- New contents leave the files the same. -/
theorem revise (c : Revision) (files : List File) :
    SameFiles (files.map (File.revise c)) files := by
  unfold SameFiles
  rw [List.map_map]
  exact List.map_congr_left fun f _ => File.revise_revise c _ f

/-- One more file may be added to both. -/
theorem append (h : SameFiles files files') (f : File) :
    SameFiles (files ++ [f]) (files' ++ [f]) := by
  unfold SameFiles at h ⊢
  rw [List.map_append, List.map_append, h]

/-- A name is found in both or in neither, and means files with the same id. -/
theorem findFile?_eq (h : SameFiles files files') (name : String) :
    (findFile? files name).map (File.revise fun _ => some "") =
      (findFile? files' name).map (File.revise fun _ => some "") := by
  rw [← findFile?_revise, ← findFile?_revise, h]

/-- What a name means among the one means the same among the other. -/
theorem targets {name : String} {f : File} (h : SameFiles files files')
    (found : findFile? files name = some f) : Targets files' name f.id := by
  have := h.findFile?_eq name
  rw [found, Option.map_some] at this
  obtain ⟨g, hg, same⟩ := Option.map_eq_some_iff.mp this.symm
  have id_eq := congrArg File.id same
  exact ⟨g, hg, id_eq⟩

/-- A name that means nothing among the one means nothing among the other. -/
theorem findFile?_eq_none {name : String} (h : SameFiles files files')
    (absent : findFile? files name = none) : findFile? files' name = none := by
  have := h.findFile?_eq name
  rw [absent, Option.map_none] at this
  exact Option.map_eq_none_iff.mp this.symm

end SameFiles

/-! ## The invariant -/

/-- Whether a task is about to ask for the files. -/
def Stage.isListing : Stage → Bool
  | .listing _ _ => true
  | _ => false

/-- What a task knows is true of the files of the project: `known` are the files, `written` the
contents that were written. -/
def OnTrack (project : String) (known : List File) (written : Revision) (name : String) :
    Stage → Prop
  | .fresh | .queued => True
  | .creating p => p = project ∧ findFile? known name = none
  | .typing f _ | .updating f => Targets known name f.id
  | .listing f p => p = project ∧ Targets known name f.id ∧ written f.id ≠ none
  | .finished (.ok _) => ∃ id, Targets known name id ∧ written id ≠ none
  | .finished (.error _) => False

/-- What holds of a review, its tasks and its store `m`, when patches for the files of a project are
applied side by side and the store was `before` at first: `made` are the files that were created
since, `written` the contents that were written. -/
structure Serial (before : Memory) (project : String) (patches : List Patch) (made : List File)
    (written : Revision) (m : Memory) (v : Review) (tasks : List Task) : Prop where
  store_eq : v.store = .memory m
  project_eq : v.project = some project
  chunk_pos : 0 < v.chunkSize
  willing : m.Willing
  sound : m.Sound
  held_eq : m.held = (before.held ++ made.map (project, ·)).map (Memory.reviseEntry written)
  progress : Progress (before.listing project) patches made written
  calls_eq : ∃ sent, m.calls = before.calls ++ sent ∧ createdNames sent = made.map (·.name)
  same : SameFiles v.files (before.listing project ++ made)
  /-- The cached files are outdated only as long as somebody is about to ask for the files. -/
  listed : (∃ t ∈ tasks, t.stage.isListing = true) ∨ v.files = m.listing project
  from_patches : ∀ t ∈ tasks, t.patch ∈ patches
  on_track : ∀ t ∈ tasks,
    OnTrack project (before.listing project ++ made) written t.patch.fileName t.stage

/-! ## What other tasks do does not matter -/

section OnTrack

variable {project name : String} {known : List File} {written : Revision} {s : Stage}

/-- What a task knows stays true when a content is written. -/
theorem OnTrack.write (h : OnTrack project known written name s) (id content : String) :
    OnTrack project known (Function.update written id (some content)) name s := by
  have still {id' : String} (hw : written id' ≠ none) :
      Function.update written id (some content) id' ≠ none := by
    by_cases same : id' = id
    · simp [same]
    · rwa [Function.update_of_ne same]
  cases s with
  | listing f p => exact ⟨h.1, h.2.1, still h.2.2⟩
  | finished result =>
    cases result with
    | ok f =>
      obtain ⟨id', targets, hw⟩ := h
      exact ⟨id', targets, still hw⟩
    | error e => exact h
  | _ => exact h

/-- What a task knows stays true when a file is created, unless it has claimed its name. -/
theorem OnTrack.create (h : OnTrack project known written name s) {f : File}
    (apart : ∀ p, s = .creating p → Text.lower f.name ≠ Text.lower name) :
    OnTrack project (known ++ [f]) written name s := by
  cases s with
  | creating p =>
    refine ⟨h.1, ?_⟩
    rw [findFile?_append_of_none h.2]
    simpa [findFile?, File.isNamed] using apart p rfl
  | typing g frames => exact Targets.append h [f]
  | updating g => exact Targets.append h [f]
  | listing g p => exact ⟨h.1, h.2.1.append [f], h.2.2⟩
  | finished result =>
    cases result with
    | ok g =>
      obtain ⟨id, targets, hw⟩ := h
      exact ⟨id, targets.append [f], hw⟩
    | error e => exact h
  | fresh | queued => exact h

/-- A task that begins to type is on its track. -/
theorem OnTrack.of_begins {file : File} {n : ℕ} {size : ℤ} (begins : Begins file n size s)
    (pos : 0 < size) (targets : Targets known name file.id) :
    OnTrack project known written name s := by
  cases begins with
  | typing _ => exact targets
  | updating => exact targets
  | refused bad => exact absurd pos (Int.not_lt.mpr bad)

end OnTrack

section Restage

variable {tasks : List Task} {i : ℕ} {t : Task} {s : Stage}

/-- A task that is about to ask for the files does not notice a step of another. -/
theorem exists_isListing_restage (ht : tasks[i]? = some t) (other : t.stage.isListing = false)
    (s : Stage) (h : ∃ u ∈ tasks, u.stage.isListing = true) :
    ∃ u ∈ restage i s tasks, u.stage.isListing = true := by
  obtain ⟨u, hu, listing⟩ := h
  refine ⟨u, mem_restage_of_mem ht hu ?_, listing⟩
  rintro rfl
  rw [other] at listing
  cases listing

end Restage

/-- A task that holds its lock at the start of a step is not about to ask for the files. -/
theorem Takes.isListing_eq_false {t : Task} {locks held : Locks} (h : Takes t locks held) :
    t.stage.isListing = false := by
  cases h with
  | free stage _ | handed stage => simp [stage, Stage.isListing]

/-! ## The strides -/

namespace Serial

variable {before m : Memory} {project : String} {patches : List Patch} {made : List File}
variable {written : Revision} {v : Review} {tasks : List Task} {locks : Locks} {i : ℕ} {t : Task}

/-- Each task has one of the patches. -/
theorem mem_from_patches (h : Serial before project patches made written m v tasks)
    (ht : tasks[i]? = some t) (s : Stage) : ∀ u ∈ restage i s tasks, u.patch ∈ patches :=
  forall_mem_restage (P := fun u => u.patch ∈ patches) ht
    (h.from_patches t (List.mem_of_getElem? ht))
    fun _ u _ hu => h.from_patches u (List.mem_of_getElem? hu)

/-- The files of the project are entries of the store. -/
theorem mem_entries {f : File} (hf : f ∈ before.listing project ++ made) :
    (project, f) ∈ before.held ++ made.map (project, ·) := by
  rcases List.mem_append.mp hf with hf | hf
  · exact List.mem_append_left _ (Memory.mem_filesOf.mp hf)
  · exact List.mem_append_right _ (List.mem_map_of_mem hf)

/-- Every file of the project is in the store. -/
theorem exists_held (h : Serial before project patches made written m v tasks) {f : File}
    (hf : f ∈ before.listing project ++ made) : ∃ e ∈ m.held, e.2.id = f.id := by
  refine ⟨Memory.reviseEntry written (project, f), ?_, rfl⟩
  rw [h.held_eq]
  exact List.mem_map_of_mem (mem_entries hf)

/-- The file of an entry of the store is a file of the project only if the entry is. -/
theorem eq_of_id_eq (h : Serial before project patches made written m v tasks)
    {e : String × File} (he : e ∈ before.held ++ made.map (project, ·)) {f : File}
    (hf : f ∈ before.listing project ++ made) (same : f.id = e.2.id) : e = (project, f) := by
  have distinct : ((before.held ++ made.map (project, ·)).map (·.2.id)).Nodup := by
    have := h.sound.distinct
    rw [h.held_eq, List.map_map] at this
    exact this
  exact List.inj_on_of_nodup_map distinct he (mem_entries hf) same.symm

/-- The files of the project as they are in the store. -/
theorem listing_eq (h : Serial before project patches made written m v tasks) :
    m.listing project = (before.listing project ++ made).map (File.revise written) := by
  rw [Memory.listing_eq_filesOf, h.held_eq, Memory.filesOf_map_reviseEntry, Memory.filesOf_append,
    Memory.filesOf_map_mk, ← Memory.listing_eq_filesOf]

/-- The names that were created since are known after one more call. -/
theorem exists_sent (h : Serial before project patches made written m v tasks) (call : Call) :
    ∃ sent, m.calls ++ [call] = before.calls ++ sent ∧
      createdNames sent = made.map (·.name) ++ createdNames [call] := by
  obtain ⟨sent, hcalls, hnames⟩ := h.calls_eq
  refine ⟨sent ++ [call], ?_, ?_⟩
  · rw [hcalls, List.append_assoc]
  · rw [createdNames, List.filterMap_append, ← createdNames, hnames]
    rfl

/-- The next id of the store is that of no file of the project. -/
theorem ne_fileId (h : Serial before project patches made written m v tasks) {g : File}
    (hg : g ∈ before.listing project ++ made) : g.id ≠ Memory.fileId (m.made + 1) := by
  obtain ⟨e, he, hid⟩ := h.exists_held hg
  exact fun same => h.sound.fileId_ne he (hid.trans same)

/-- A step that changes nothing but where a task stands. -/
theorem restage (h : Serial before project patches made written m v tasks)
    (ht : tasks[i]? = some t) (other : t.stage.isListing = false) {s : Stage}
    (hs : OnTrack project (before.listing project ++ made) written t.patch.fileName s) :
    Serial before project patches made written m v (restage i s tasks) :=
  { h with
    listed := h.listed.imp_left (exists_isListing_restage ht other s)
    from_patches := h.mem_from_patches ht s
    on_track := forall_mem_restage ht hs fun _ u _ hu => h.on_track u (List.mem_of_getElem? hu) }

/-- A task creates its file. -/
theorem create (h : Serial before project patches made written m v tasks)
    (locked : Locked tasks locks) (ht : tasks[i]? = some t)
    (stage : t.stage = .creating project) {file : File} {store : Store} {s : Stage}
    (created : v.store.create project t.patch.fileName "" (languageOf t.patch.fileName) =
      (.ok file, store))
    (begins : Begins file t.patch.newContent.length v.chunkSize s) :
    ∃ m', Serial before project patches (made ++ [file]) written m'
      { v with store, files := v.files ++ [file] } (Review.restage i s tasks) := by
  have mem := List.mem_of_getElem? ht
  have absent : findFile? (before.listing project ++ made) t.patch.fileName = none := by
    have := h.on_track t mem
    rw [stage] at this
    exact this.2
  rw [h.store_eq, Store.create, Memory.create_of_willing h.willing] at created
  obtain ⟨hfile, rfl⟩ := Prod.mk.inj created
  have hfile := Except.ok.inj hfile
  have named : file.name = t.patch.fileName := by
    rw [← hfile]
    rfl
  have new : ∀ g ∈ before.listing project ++ made, g.id ≠ file.id := by
    rw [← hfile]
    exact fun g hg => h.ne_fileId hg
  have unwritten : Memory.reviseEntry written (project, file) = (project, file) := by
    have := h.progress.written_eq_none new
    simp [Memory.reviseEntry, File.revise, this]
  have found : findFile? (before.listing project ++ (made ++ [file])) t.patch.fileName =
      some file := by
    rw [← List.append_assoc, findFile?_append_of_none absent]
    simp [findFile?, File.isNamed, named]
  have other : t.stage.isListing = false := by
    rw [stage]
    rfl
  refine ⟨_, {
    store_eq := rfl
    project_eq := h.project_eq
    chunk_pos := h.chunk_pos
    willing := h.willing
    sound := (h.sound.seed _ _ _ _).log _
    held_eq := ?_
    progress := h.progress.create (h.from_patches t mem) named absent new
    calls_eq := ?_
    same := ?_
    listed := ?_
    from_patches := h.mem_from_patches ht s
    on_track := ?_ }⟩
  · have grown : m.held ++ [(project, file)] =
        (before.held ++ (made ++ [file]).map (project, ·)).map (Memory.reviseEntry written) := by
      rw [h.held_eq]
      simp [unwritten]
    rw [← grown, ← hfile]
    rfl
  · obtain ⟨sent, hcalls, hnames⟩ := h.exists_sent
      (.create project t.patch.fileName "" (languageOf t.patch.fileName))
    refine ⟨sent, hcalls, hnames.trans ?_⟩
    simp [createdNames, named]
  · have := h.same.append file
    rwa [List.append_assoc] at this
  · refine h.listed.imp (exists_isListing_restage ht other s) fun files_eq => ?_
    show v.files ++ [file] = _
    rw [files_eq, ← hfile]
    exact (Memory.listing_seed m project _ _ _).symm
  · refine forall_mem_restage ht (.of_begins begins h.chunk_pos ⟨file, found, rfl⟩) ?_
    intro j u hj hu
    rw [← List.append_assoc]
    refine (h.on_track u (List.mem_of_getElem? hu)).create fun p creating same => ?_
    -- another task that has claimed the name would hold the same lock
    rw [named] at same
    exact hj (locked.creating_unique hu ht same.symm creating stage)

/-- A task updates its file. -/
theorem update (h : Serial before project patches made written m v tasks)
    (ht : tasks[i]? = some t) {file : File} (stage : t.stage = .updating file) {store : Store}
    (updated : v.store.update file.id t.patch.newContent = (.ok (), store)) :
    ∃ m', Serial before project patches made
      (Function.update written file.id (some t.patch.newContent)) m' { v with store }
      (Review.restage i (.listing file project) tasks) := by
  have mem := List.mem_of_getElem? ht
  have targets : Targets (before.listing project ++ made) t.patch.fileName file.id := by
    have := h.on_track t mem
    rwa [stage] at this
  obtain ⟨f, hf, hid⟩ := targets.mem
  have held : m.holds file.id = true := by
    obtain ⟨e, he, same⟩ := h.exists_held hf
    exact Memory.holds_iff.mpr ⟨e, he, same.trans hid⟩
  have sound := h.sound.update file.id t.patch.newContent
  rw [h.store_eq, Store.update] at updated
  rw [Memory.update_of_willing h.willing held] at updated sound
  obtain ⟨-, rfl⟩ := Prod.mk.inj updated
  refine ⟨_, {
    store_eq := rfl
    project_eq := h.project_eq
    chunk_pos := h.chunk_pos
    willing := h.willing
    sound
    held_eq := ?_
    progress := h.progress.write (h.from_patches t mem) targets
    calls_eq := ?_
    same := h.same
    listed := .inl ⟨_, self_mem_restage ht _, rfl⟩
    from_patches := h.mem_from_patches ht _
    on_track := ?_ }⟩
  · show m.held.map _ = _
    rw [h.held_eq]
    exact Memory.held_update _ _ _ _
  · obtain ⟨sent, hcalls, hnames⟩ := h.exists_sent (.update file.id t.patch.newContent)
    exact ⟨sent, hcalls, hnames.trans (List.append_nil _)⟩
  · refine forall_mem_restage ht ⟨rfl, targets, by simp⟩ fun _ u _ hu => ?_
    exact (h.on_track u (List.mem_of_getElem? hu)).write _ _

/-- A task asks for the files: what is cached is what is stored. -/
theorem list (h : Serial before project patches made written m v tasks)
    (ht : tasks[i]? = some t) {file : File} (stage : t.stage = .listing file project)
    {files : List File} {store : Store} (listed : v.store.list project = (.ok files, store))
    (result : File) :
    ∃ m', Serial before project patches made written m'
      (({ v with store }.takeListing files).discard t.patch.id)
      (Review.restage i (.finished (.ok result)) tasks) := by
  have onTrack := h.on_track t (List.mem_of_getElem? ht)
  rw [stage] at onTrack
  rw [h.store_eq, Store.list, Memory.list_of_willing h.willing] at listed
  obtain ⟨hfiles, rfl⟩ := Prod.mk.inj listed
  obtain rfl := Except.ok.inj hfiles
  refine ⟨_, {
    store_eq := rfl
    project_eq := h.project_eq
    chunk_pos := h.chunk_pos
    willing := h.willing
    sound := h.sound.log _
    held_eq := h.held_eq
    progress := h.progress
    calls_eq := ?_
    same := ?_
    listed := .inr rfl
    from_patches := h.mem_from_patches ht _
    on_track := ?_ }⟩
  · obtain ⟨sent, hcalls, hnames⟩ := h.exists_sent (.list project)
    exact ⟨sent, hcalls, hnames.trans (List.append_nil _)⟩
  · show SameFiles (m.listing project) _
    rw [h.listing_eq]
    exact SameFiles.revise _ _
  · refine forall_mem_restage ht ⟨file.id, onTrack.2⟩ fun _ u _ hu => ?_
    exact h.on_track u (List.mem_of_getElem? hu)

/-- **Every stride keeps the invariant.** -/
theorem stride (h : Serial before project patches made written m v tasks)
    (locked : Locked tasks locks) (ht : tasks[i]? = some t) {e : Effect}
    (he : Stride i t v locks e) :
    ∃ made' written' m', Serial before project patches made' written' m' e.review
      (Review.restage i e.stage tasks) := by
  have onTrack := h.on_track t (List.mem_of_getElem? ht)
  cases he with
  | wait stage _ => exact ⟨_, _, _, h.restage ht (by simp [stage, Stage.isListing]) trivial⟩
  | find takes found begins =>
    have targets := h.same.targets found
    refine ⟨_, _, _, h.restage ht takes.isListing_eq_false ?_⟩
    exact .of_begins begins h.chunk_pos targets
  | claim takes missing opened =>
    have open_eq := Option.some.inj (opened.symm.trans h.project_eq)
    have absent := h.same.findFile?_eq_none missing
    exact ⟨_, _, _, h.restage ht takes.isListing_eq_false ⟨open_eq, absent⟩⟩
  | orphan _ _ closed => exact nomatch closed.symm.trans h.project_eq
  | create stage created begins =>
    rw [stage] at onTrack
    obtain ⟨rfl, -⟩ := onTrack
    exact ⟨_, _, h.create locked ht stage created begins⟩
  | createFailed stage refused =>
    rw [h.store_eq, Store.create, Memory.create_of_willing h.willing] at refused
    cases refused
  | type stage | typed stage =>
    rw [stage] at onTrack
    exact ⟨_, _, _, h.restage ht (by simp [stage, Stage.isListing]) onTrack⟩
  | update stage updated opened =>
    obtain rfl := Option.some.inj (opened.symm.trans h.project_eq)
    exact ⟨_, _, h.update ht stage updated⟩
  | updateOrphan _ _ closed => exact nomatch closed.symm.trans h.project_eq
  | updateFailed stage refused =>
    -- the file is held, and the store refuses nothing
    rw [stage] at onTrack
    obtain ⟨f, hf, hid⟩ := Targets.mem onTrack
    obtain ⟨e, he, same⟩ := h.exists_held hf
    have held : m.holds _ = true := Memory.holds_iff.mpr ⟨e, he, same.trans hid⟩
    rw [h.store_eq, Store.update, Memory.update_of_willing h.willing held] at refused
    cases refused
  | list stage listed =>
    rw [stage] at onTrack
    obtain ⟨rfl, -⟩ := onTrack
    exact ⟨_, _, h.list ht stage listed _⟩
  | listFailed stage refused =>
    rw [h.store_eq, Store.list, Memory.list_of_willing h.willing] at refused
    cases refused

/-- The invariant does not look at the editor. -/
theorem bare_iff : Serial before project patches made written m
      { v with editor := none, streaming := [] } tasks ↔
    Serial before project patches made written m v tasks :=
  ⟨fun h => { h with }, fun h => { h with }⟩

/-- **The end.** When all tasks are done, all of them were successful, and the files that are cached
are those of the store, which have settled under the patches. -/
theorem settled (h : Serial before project patches made written m v tasks)
    (all : ∀ p ∈ patches, ∃ t ∈ tasks, t.patch = p)
    (done : ∀ t ∈ tasks, ∃ result, t.stage = .finished result) :
    (∀ t ∈ tasks, ∃ file, t.stage = .finished (.ok file)) ∧ v.files = m.listing project ∧
      Settling (before.listing project) patches made written := by
  have successful : ∀ t ∈ tasks, ∃ file, t.stage = .finished (.ok file) := by
    intro t ht
    obtain ⟨result, stage⟩ := done t ht
    have onTrack := h.on_track t ht
    rw [stage] at onTrack
    cases result with
    | ok file => exact ⟨file, stage⟩
    | error e => exact absurd onTrack id
  refine ⟨successful, ?_, h.progress, ?_⟩
  · refine h.listed.resolve_left ?_
    rintro ⟨t, ht, listing⟩
    obtain ⟨file, stage⟩ := successful t ht
    rw [stage] at listing
    cases listing
  · intro p hp
    obtain ⟨t, ht, rfl⟩ := all p hp
    obtain ⟨file, stage⟩ := successful t ht
    have onTrack := h.on_track t ht
    rwa [stage] at onTrack

end Serial

end Workbench.Review
