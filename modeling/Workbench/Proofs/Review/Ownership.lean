import Workbench.Proofs.Project.Replay
import Workbench.Proofs.Review.Interleaving

/-!
# Whose files a round writes

A round calls its store for the project that is open, and updates the files that it finds among
those the review has cached. `Guarded` follows the calls that were sent: if no name means a file of
another project among the files that were cached at the start, then no call was for such a file,
whatever was refused (`Interleaving.guarded`). `Interleaving.update_sent` is the other direction: a
patch whose name means a cached file is written to that file, whosesoever it is.

`Recaches` says what any step can do to the store and to the cached files, `Refreshes` what asking
for the files of the open project does to a review.
-/

namespace Workbench.Review

open Project
open Project.Memory (Cached Shows Own Given Crosses StaysIn)

/-- The file that a task types, updates or has updated. -/
def Stage.file? : Stage → Option File
  | .typing f _ | .updating f | .listing f _ => some f
  | _ => none

/-- The project for which a task is about to call the store. -/
def Stage.project? : Stage → Option String
  | .creating p | .listing _ p => some p
  | _ => none

/-- What a task relies on: the open project is `project`, the store is `m` and the cached files are
`files`. Its own file is of the project if `clean` holds. -/
structure Fits (project : Option String) (clean : Prop) (m : Memory) (files : List File)
    (t : Task) : Prop where
  opened : ∀ p, t.stage.project? = some p → some p = project
  given : ∀ f, t.stage.file? = some f → m.Given f.id
  own : clean → ∀ f, t.stage.file? = some f → m.Own project f.id
  /-- Files of the name that the task has claimed are of the project. -/
  claimed : ∀ p, t.stage = .creating p → ∀ g ∈ files,
    Text.lower g.name = Text.lower t.patch.fileName → m.Own project g.id

/-- What holds of a review and its tasks after the calls `sent` to the store that was `before`. -/
structure Guarded (project : Option String) (clean : Prop) (before : Memory) (sent : List Call)
    (v : Review) (tasks : List Task) : Prop where
  store_eq : v.store = .memory (before.replay sent)
  project_eq : v.project = project
  sound : (before.replay sent).Sound
  cached : (before.replay sent).Cached v.files
  stays : clean → StaysIn project before sent
  shown : clean → (before.replay sent).Shows project v.files
  fits : ∀ t ∈ tasks, Fits project clean (before.replay sent) v.files t

section Fits

variable {project : Option String} {clean : Prop} {m : Memory} {files : List File} {t : Task}

/-- A task without file and project relies on nothing. -/
theorem Fits.of_idle (file : t.stage.file? = none) (idle : t.stage.project? = none) :
    Fits project clean m files t where
  opened := by simp [idle]
  given := by simp [file]
  own := by simp [file]
  claimed := by
    intro p stage
    rw [stage] at idle
    cases idle

/-- A call of another client leaves a task in its project. -/
theorem Fits.perform (h : Fits project clean m files t) (cached : m.Cached files) (call : Call) :
    Fits project clean (m.perform call) files t where
  opened := h.opened
  given := fun f hf => (h.given f hf).perform call
  own := fun hc f hf => (h.own hc f hf).perform (h.given f hf) call
  claimed := fun p stage g hg same =>
    (h.claimed p stage g hg same).perform (cached.given g hg) call

/-- Files of the project may be added to those that are cached. -/
theorem Fits.mono (h : Fits project clean m files t) {files' : List File}
    (new : ∀ g ∈ files', g ∈ files ∨ m.Own project g.id) : Fits project clean m files' t where
  opened := h.opened
  given := h.given
  own := h.own
  claimed := fun p stage g hg same => (new g hg).elim (h.claimed p stage g · same) id

/-- A task goes on with its file. -/
theorem Fits.keep_file (h : Fits project clean m files t) {s : Stage}
    (file : ∀ f, s.file? = some f → t.stage.file? = some f)
    (opened : ∀ p, s.project? = some p → some p = project) (unclaimed : ∀ p, s ≠ .creating p) :
    Fits project clean m files { t with stage := s } where
  opened := opened
  given := fun f hf => h.given f (file f hf)
  own := fun hc f hf => h.own hc f (file f hf)
  claimed := fun p stage => absurd stage (unclaimed p)

/-- A task takes up a file. -/
theorem Fits.of_begins {file : File} {n : ℕ} {size : ℤ} {s : Stage} (begins : Begins file n size s)
    (given : m.Given file.id) (own : clean → m.Own project file.id) :
    Fits project clean m files { t with stage := s } := by
  have only : ∀ f, s.file? = some f → f = file := by
    cases begins with
    | typing _ | updating => exact fun f hf => (Option.some.inj hf).symm
    | refused _ => exact fun f hf => nomatch hf
  refine ⟨?_, fun f hf => only f hf ▸ given, fun hc f hf => only f hf ▸ own hc, ?_⟩
  · cases begins <;> exact fun p hp => nomatch hp
  · cases begins <;> exact fun p hp => nomatch hp

end Fits

namespace Guarded

variable {project : Option String} {clean : Prop} {before : Memory} {sent : List Call} {v : Review}
variable {tasks : List Task} {i : ℕ} {t : Task} {s : Stage}

/-- A step without a call. -/
theorem rest (h : Guarded project clean before sent v tasks) (ht : tasks[i]? = some t)
    (self : Fits project clean (before.replay sent) v.files { t with stage := s }) :
    Guarded project clean before sent v (restage i s tasks) :=
  { h with
    fits := forall_mem_restage ht self fun _ u _ hu => h.fits u (List.mem_of_getElem? hu) }

/-- A step that calls the store. -/
theorem call (h : Guarded project clean before sent v tasks) (ht : tasks[i]? = some t)
    (call : Call) {v' : Review} (store_eq : v'.store = .memory ((before.replay sent).perform call))
    (project_eq : v'.project = v.project)
    (stays : clean → ¬ Crosses project (before.replay sent) call)
    (cached : ((before.replay sent).perform call).Cached v'.files)
    (shown : clean → ((before.replay sent).perform call).Shows project v'.files)
    (new : ∀ g ∈ v'.files, g ∈ v.files ∨ ((before.replay sent).perform call).Own project g.id)
    (self : Fits project clean ((before.replay sent).perform call) v'.files
      { t with stage := s }) :
    Guarded project clean before (sent ++ [call]) v' (restage i s tasks) := by
  rw [← Memory.replay_concat] at store_eq cached shown new self
  refine ⟨store_eq, project_eq.trans h.project_eq, ?_, cached, ?_, shown, ?_⟩
  · rw [Memory.replay_concat]
    exact h.sound.perform call
  · exact fun hc => (h.stays hc).append ⟨stays hc, trivial⟩
  · refine forall_mem_restage ht self fun _ u _ hu => Fits.mono ?_ new
    rw [Memory.replay_concat]
    exact (h.fits u (List.mem_of_getElem? hu)).perform h.cached call

/-- A step that calls the store and leaves the cached files as they are. -/
theorem call_only (h : Guarded project clean before sent v tasks) (ht : tasks[i]? = some t)
    (call : Call) (stays : clean → ¬ Crosses project (before.replay sent) call)
    (self : Fits project clean ((before.replay sent).perform call) v.files
      { t with stage := s }) :
    Guarded project clean before (sent ++ [call])
      { v with store := .memory ((before.replay sent).perform call) } (restage i s tasks) :=
  h.call ht call rfl rfl stays (h.cached.perform call)
    (fun hc => (h.shown hc).perform h.cached call)
    (fun _ hg => .inl hg) self

/-- A task creates its file in the open project. -/
theorem create (h : Guarded project clean before sent v tasks) (ht : tasks[i]? = some t)
    {p : String} (stage : t.stage = .creating p) {file : File} {store : Store}
    (created : v.store.create p t.patch.fileName "" (languageOf t.patch.fileName) =
      (.ok file, store))
    (begins : Begins file t.patch.newContent.length v.chunkSize s) :
    ∃ sent', Guarded project clean before sent' { v with store, files := v.files ++ [file] }
      (Review.restage i s tasks) := by
  have fits := h.fits t (List.mem_of_getElem? ht)
  have open_eq : some p = project := fits.opened p (by simp [stage, Stage.project?])
  obtain ⟨hfile, rfl⟩ := Memory.of_create h.store_eq created
  have c := Memory.creation_of_create hfile
  have own := open_eq ▸ c.own h.sound
  refine ⟨_, h.call ht _ rfl rfl (fun _ => Memory.not_crosses_of_target?_eq_none rfl) ?_ ?_ ?_
    (.of_begins begins c.given fun _ => own)⟩
  · refine c.cached h.sound (h.cached.perform _) fun g hg same => ?_
    rw [open_eq]
    exact (fits.claimed p stage g hg same).perform (h.cached.given g hg) _
  · intro hc
    have shown := (h.shown hc).perform h.cached
      (.create p t.patch.fileName "" (languageOf t.patch.fileName))
    rw [← open_eq] at shown ⊢
    exact c.shows h.sound shown
  · intro g hg
    rcases List.mem_append.mp hg with hg | hg
    · exact .inl hg
    · rw [List.mem_singleton.mp hg]
      exact .inr own

/-- A task calls for an update of its file, and goes on or fails. -/
theorem update (h : Guarded project clean before sent v tasks) (ht : tasks[i]? = some t)
    {file : File} (stage : t.stage = .updating file) {store : Store} {answer : Except Failure Unit}
    (updated : v.store.update file.id t.patch.newContent = (answer, store))
    (self : Fits project clean
      ((before.replay sent).perform (.update file.id t.patch.newContent)) v.files
      { t with stage := s }) :
    ∃ sent', Guarded project clean before sent' { v with store } (Review.restage i s tasks) := by
  have fits := h.fits t (List.mem_of_getElem? ht)
  obtain ⟨-, rfl⟩ := Memory.of_update h.store_eq updated
  refine ⟨_, h.call_only ht _ (fun hc => ?_) self⟩
  exact (fits.own hc _ (by simp [stage, Stage.file?])).not_crosses rfl

/-- A task lists the files of the open project, and is done. -/
theorem list (h : Guarded project clean before sent v tasks) (ht : tasks[i]? = some t)
    {file : File} {p : String} (stage : t.stage = .listing file p) {files : List File}
    {store : Store} (listed : v.store.list p = (.ok files, store))
    (result : Except Failure File) :
    ∃ sent', Guarded project clean before sent'
      (({ v with store }.takeListing files).discard t.patch.id)
      (Review.restage i (.finished result) tasks) := by
  have fits := h.fits t (List.mem_of_getElem? ht)
  have open_eq : some p = project := fits.opened p (by simp [stage, Stage.project?])
  obtain ⟨hfiles, rfl⟩ := Memory.of_list h.store_eq listed
  obtain rfl := Memory.listing_of_list hfiles
  have cached := h.sound.cached_listing p
  refine ⟨_, h.call ht _ rfl rfl (fun _ => Memory.not_crosses_of_target?_eq_none rfl)
    (cached.perform (.list p)) ?_ ?_ (.of_idle rfl rfl)⟩
  · intro _
    rw [← open_eq]
    exact (h.sound.shows_listing p).perform cached (.list p)
  · intro g hg
    rw [← open_eq]
    exact .inr ((h.sound.own_of_mem_listing hg).perform (cached.given g hg) (.list p))

/-- **Every stride keeps it**, with at most one more call. -/
theorem stride (h : Guarded project clean before sent v tasks) {locks : Locks}
    (ht : tasks[i]? = some t) {e : Effect} (he : Stride i t v locks e) :
    ∃ sent', Guarded project clean before sent' e.review (Review.restage i e.stage tasks) := by
  have fits := h.fits t (List.mem_of_getElem? ht)
  cases he with
  | wait _ _ | orphan _ _ _ => exact ⟨_, h.rest ht (.of_idle rfl rfl)⟩
  | find _ found begins =>
    refine ⟨_, h.rest ht (.of_begins begins ?_ fun hc => h.shown hc _ _ found)⟩
    exact h.cached.given _ (mem_of_findFile? found)
  | claim _ missing opened =>
    refine ⟨_, h.rest ht ⟨?_, by simp [Stage.file?], by simp [Stage.file?], ?_⟩⟩
    · exact fun p hp => hp.symm.trans (opened.symm.trans h.project_eq)
    · -- no cached file has the name that is claimed
      intro p _ g hg same
      have := List.find?_eq_none.mp missing g hg
      simp [File.isNamed, same] at this
  | create stage created begins => exact h.create ht stage created begins
  | createFailed _ refused =>
    obtain ⟨-, rfl⟩ := Memory.of_create h.store_eq refused
    exact ⟨_, h.call_only ht _ (fun _ => Memory.not_crosses_of_target?_eq_none rfl)
      (.of_idle rfl rfl)⟩
  | type stage | typed stage =>
    refine ⟨_, h.rest ht (fits.keep_file ?_ ?_ ?_)⟩
    · simp [stage, Stage.file?]
    · simp [Stage.project?]
    · simp
  | update stage updated opened =>
    refine h.update ht stage updated ((fits.perform h.cached _).keep_file ?_ ?_ ?_)
    · simp [stage, Stage.file?]
    · exact fun p hp => hp.symm.trans (opened.symm.trans h.project_eq)
    · simp
  | updateOrphan stage updated _ | updateFailed stage updated =>
    exact h.update ht stage updated (.of_idle rfl rfl)
  | list stage listed => exact h.list ht stage listed _
  | listFailed _ refused =>
    obtain ⟨-, rfl⟩ := Memory.of_list h.store_eq refused
    exact ⟨_, h.call_only ht _ (fun _ => Memory.not_crosses_of_target?_eq_none rfl)
      (.of_idle rfl rfl)⟩

/-- What is shown does not matter. -/
theorem bare_iff : Guarded project clean before sent { v with editor := none, streaming := [] }
    tasks ↔ Guarded project clean before sent v tasks :=
  ⟨fun h => { h with }, fun h => { h with }⟩

/-- At first no task has done anything. -/
theorem start {m : Memory} (store_eq : v.store = .memory m) (sound : m.Sound)
    (cached : m.Cached v.files) (patches : List Patch) :
    Guarded v.project (m.Shows v.project v.files) m [] v (Round.start v patches).tasks where
  store_eq := store_eq
  project_eq := rfl
  sound := sound
  cached := cached
  stays := fun _ => trivial
  shown := id
  fits := by
    intro t ht
    obtain ⟨p, -, rfl⟩ := List.mem_map.mp ht
    exact .of_idle rfl rfl

end Guarded

/-- **No call crosses.** An interleaving of the tasks of a round sends its store calls, and if no
name means a cached file of another project at first, then none of the calls is for such a file,
nor is any such file cached after them. -/
theorem Interleaving.guarded {v : Review} {m : Memory} {patches : List Patch} {n : ℕ} {r : Round}
    (h : Interleaving (.start v patches) n r) (store_eq : v.store = .memory m) (sound : m.Sound)
    (cached : m.Cached v.files) :
    ∃ sent, Guarded v.project (m.Shows v.project v.files) m sent r.review r.tasks := by
  refine (keeps (P := fun r =>
    ∃ sent, Guarded v.project (m.Shows v.project v.files) m sent r.review r.tasks)
    (fun _ => exists_congr fun _ => Guarded.bare_iff) (fun _ _ => Iff.rfl)
    ⟨_, .start store_eq sound cached patches⟩ (.start v patches) ?_ h).1
  rintro r i t e ⟨sent, hg⟩ - ht - - he
  exact hg.stride ht he

/-! ## What a step caches -/

/-- What a step does to the store `m` and to the cached files. It sends one call at most. -/
inductive Recaches (m : Memory) (files : List File) : Store → List File → Prop
  | idle : Recaches m files (.memory m) files
  | call (call : Call) : Recaches m files (.memory (m.perform call)) files
  | create {project name content language : String} {file : File}
      (answer : (m.create project name content language).1 = .ok file) :
      Recaches m files (.memory (m.perform (.create project name content language)))
        (files ++ [file])
  | list (project : String) :
      Recaches m files (.memory (m.perform (.list project))) (m.listing project)

/-- A step caches what the store listed, and otherwise adds what it created. -/
theorem Stride.recaches {i : ℕ} {t : Task} {v : Review} {locks : Locks} {e : Effect} {m : Memory}
    (h : Stride i t v locks e) (store_eq : v.store = .memory m) :
    Recaches m v.files e.review.store e.review.files := by
  cases h with
  | wait _ _ | find _ _ _ | claim _ _ _ | orphan _ _ _ | type _ | typed _ => exact store_eq ▸ .idle
  | create _ created _ =>
    obtain ⟨answer, rfl⟩ := Memory.of_create store_eq created
    exact .create answer
  | createFailed _ refused =>
    obtain ⟨-, rfl⟩ := Memory.of_create store_eq refused
    exact .call _
  | update _ updated _ | updateOrphan _ updated _ | updateFailed _ updated =>
    obtain ⟨-, rfl⟩ := Memory.of_update store_eq updated
    exact .call _
  | list _ listed =>
    obtain ⟨answer, rfl⟩ := Memory.of_list store_eq listed
    obtain rfl := Memory.listing_of_list answer
    exact .list _
  | listFailed _ refused =>
    obtain ⟨-, rfl⟩ := Memory.of_list store_eq refused
    exact .call _

/-- A step calls the store once at most. -/
theorem Recaches.store_cases {m : Memory} {files files' : List File} {store : Store}
    (h : Recaches m files store files') :
    store = .memory m ∨ ∃ call, store = .memory (m.perform call) := by
  cases h with
  | idle => exact .inl rfl
  | call call => exact .inr ⟨call, rfl⟩
  | create _ => exact .inr ⟨_, rfl⟩
  | list project => exact .inr ⟨.list project, rfl⟩

/-! ## A file that is found is written -/

/-- A task has not called the store yet and is on its way to update the file. -/
def Approaches (file : File) : Stage → Prop
  | .fresh | .queued => True
  | .typing f _ | .updating f => f = file
  | _ => False

/-- A task that types comes closer to writing. -/
theorem Begins.approaches {file : File} {n : ℕ} {size : ℤ} {s : Stage} (h : Begins file n size s)
    (pos : 0 < size) : Approaches file s := by
  cases h with
  | typing _ | updating => rfl
  | refused bad => exact absurd pos (Int.not_lt.mpr bad)

/-- A stride of a task that approaches a file leaves it approaching, or updates the file. -/
theorem Stride.approaches {i : ℕ} {t : Task} {v : Review} {locks : Locks} {e : Effect} {m : Memory}
    {file : File} (h : Stride i t v locks e) (store_eq : v.store = .memory m)
    (chunk_pos : 0 < v.chunkSize) (found : findFile? v.files t.patch.fileName = some file)
    (approaches : Approaches file t.stage) :
    (e.review = v ∧ Approaches file e.stage) ∨
      e.review.store = .memory (m.perform (.update file.id t.patch.newContent)) := by
  cases h with
  | wait _ _ => exact .inl ⟨rfl, trivial⟩
  | find _ found' begins =>
    obtain rfl := Option.some.inj (found'.symm.trans found)
    exact .inl ⟨rfl, begins.approaches chunk_pos⟩
  | claim _ missing _ | orphan _ missing _ => exact nomatch missing.symm.trans found
  | create stage _ _ | createFailed stage _ | list stage _ | listFailed stage _ =>
    rw [stage] at approaches
    exact absurd approaches id
  | type stage | typed stage =>
    rw [stage] at approaches
    exact .inl ⟨rfl, approaches⟩
  | update stage updated _ | updateOrphan stage updated _ =>
    rw [stage] at approaches
    obtain rfl := approaches
    exact .inr (Memory.of_update store_eq updated).2
  | updateFailed stage refused =>
    rw [stage] at approaches
    obtain rfl := approaches
    exact .inr (Memory.of_update store_eq refused).2

/-- The only call so far was for the file, or none was sent yet and every task approaches it. -/
structure Targeting (v : Review) (m : Memory) (patch : Patch) (file : File) (r : Round) : Prop where
  patches : ∀ t ∈ r.tasks, t.patch = patch
  sent : (r.review.store = v.store ∧ r.review.files = v.files ∧
      r.review.chunkSize = v.chunkSize ∧ ∀ t ∈ r.tasks, Approaches file t.stage) ∨
    ∃ rest, r.review.store = .memory (m.replay (.update file.id patch.newContent :: rest))

/-- A task keeps its target over a step. -/
theorem Targeting.after {v : Review} {m : Memory} {patch : Patch} {file : File} {r : Round} {i : ℕ}
    {t : Task} {e : Effect} (h : Targeting v m patch file r) (store_eq : v.store = .memory m)
    (chunk_pos : 0 < v.chunkSize) (found : findFile? v.files patch.fileName = some file)
    (ht : r.tasks[i]? = some t) (he : Stride i t r.review r.locks e) :
    Targeting v m patch file (r.after i e) := by
  have mem := List.mem_of_getElem? ht
  have patch_eq := h.patches t mem
  refine ⟨forall_mem_restage (P := fun u => u.patch = patch) ht patch_eq
    fun _ u _ hu => h.patches u (List.mem_of_getElem? hu), ?_⟩
  rcases h.sent with ⟨store_eq', files_eq, chunk_eq, approaches⟩ | ⟨rest, sent⟩
  · -- nothing was sent yet, so the name still means the file
    have found' : findFile? r.review.files t.patch.fileName = some file := by
      rw [files_eq, patch_eq, found]
    rcases he.approaches (store_eq'.trans store_eq) (chunk_eq ▸ chunk_pos) found'
      (approaches t mem) with ⟨review_eq, still⟩ | updated
    · refine .inl ⟨?_, ?_, ?_, ?_⟩
      · exact (congrArg Review.store review_eq).trans store_eq'
      · exact (congrArg Review.files review_eq).trans files_eq
      · exact (congrArg Review.chunkSize review_eq).trans chunk_eq
      · exact forall_mem_restage (P := fun u => Approaches file u.stage) ht still
          fun _ u _ hu => approaches u (List.mem_of_getElem? hu)
    · rw [patch_eq] at updated
      exact .inr ⟨[], updated⟩
  · rcases (he.recaches sent).store_cases with same | ⟨call, more⟩
    · exact .inr ⟨rest, same⟩
    · refine .inr ⟨rest ++ [call], more.trans ?_⟩
      rw [← List.cons_append, Memory.replay_concat]

/-- **A file that is found is written.** A patch whose name means a cached file is applied by an
update of that file, which is the first call of all. -/
theorem Interleaving.update_sent {v : Review} {m : Memory} {patch : Patch} {n : ℕ} {r : Round}
    (h : Interleaving (.start v [patch]) n r) (ended : r.Ended) (store_eq : v.store = .memory m)
    (chunk_pos : 0 < v.chunkSize) {file : File}
    (found : findFile? v.files patch.fileName = some file) :
    ∃ rest, r.review.store = .memory (m.replay (.update file.id patch.newContent :: rest)) := by
  have targeting : Targeting v m patch file r := by
    refine (keeps (P := Targeting v m patch file)
      (fun _ => ⟨fun h => ⟨h.patches, h.sent⟩, fun h => ⟨h.patches, h.sent⟩⟩)
      (fun _ _ => ⟨fun h => ⟨h.patches, h.sent⟩, fun h => ⟨h.patches, h.sent⟩⟩) ?_
      (.start v [patch]) ?_ h).1
    · have fresh : (Round.start v [patch]).tasks = [⟨patch, .fresh⟩] := rfl
      exact ⟨by simp [fresh], .inl ⟨rfl, rfl, rfl, by simp [fresh, Approaches]⟩⟩
    · exact fun r i t e hr _ ht _ _ he => hr.after store_eq chunk_pos found ht he
  refine targeting.sent.resolve_left ?_
  rintro ⟨-, -, -, approaches⟩
  have tasks_eq := h.map_patch_eq
  obtain ⟨t, ht⟩ : ∃ t, t ∈ r.tasks := by
    cases htasks : r.tasks with
    | nil => simp [htasks] at tasks_eq
    | cons t _ => exact ⟨t, List.mem_cons_self⟩
  obtain ⟨result, stage⟩ := h.done_of_ended (.start v [patch]) ended ht
  have := approaches t ht
  rw [stage] at this
  exact this

/-! ## Asking for the files -/

section Refresh

variable {v : Review} {m : Memory} {project : String} {store : Store}

/-- Without a project there is nothing to refresh. -/
theorem refresh_of_none (closed : v.project = none) : v.refresh = (.error .noProject, v) := by
  unfold Review.refresh Review.openProject?
  rw [closed]

/-- A refresh takes over what the store lists. -/
theorem refresh_of_ok {files : List File} (opened : v.project = some project)
    (listed : v.store.list project = (.ok files, store)) :
    v.refresh = (.ok files, { v with store }.takeListing files) := by
  simp [Review.refresh, Review.openProject?, Review.list, opened, listed]

/-- A refresh that is refused changes the store only. -/
theorem refresh_of_error {e : Failure} (opened : v.project = some project)
    (refused : v.store.list project = (.error e, store)) :
    v.refresh = (.error e, { v with store }) := by
  simp [Review.refresh, Review.openProject?, Review.list, opened, refused]

/-- What a review over the store `m` answers and becomes when it is asked for the files of the open
project. -/
inductive Refreshes (m : Memory) (v : Review) : Except Failure (List File) × Review → Prop
  | closed (closed : v.project = none) : Refreshes m v (.error .noProject, v)
  | listed {project : String} (opened : v.project = some project) :
      Refreshes m v (.ok (m.listing project),
        { v with store := .memory (m.perform (.list project)) }.takeListing (m.listing project))
  | refused {project : String} {e : Failure} (opened : v.project = some project)
      (refused : m.refusal m.calls (.list project) ≠ none) :
      Refreshes m v (.error e, { v with store := .memory (m.perform (.list project)) })

/-- A refresh is one of the three. -/
theorem refreshes (store_eq : v.store = .memory m) : Refreshes m v v.refresh := by
  cases opened : v.project with
  | none =>
    rw [refresh_of_none opened]
    exact .closed opened
  | some project =>
    have answer := Memory.list_memory m project
    rw [← store_eq] at answer
    rcases Memory.list_cases m project with ⟨e, refused, listed⟩ | listed
    · rw [listed] at answer
      rw [refresh_of_error opened answer]
      exact .refused opened refused
    · rw [listed] at answer
      rw [refresh_of_ok opened answer]
      exact .listed opened

/-- A refresh caches what the store listed, or nothing new. -/
theorem Refreshes.recaches {outcome : Except Failure (List File) × Review}
    (h : Refreshes m v outcome) (store_eq : v.store = .memory m) :
    Recaches m v.files outcome.2.store outcome.2.files := by
  cases h with
  | closed _ => exact store_eq ▸ .idle
  | listed _ => exact .list _
  | refused _ _ => exact .call _

end Refresh

end Workbench.Review
