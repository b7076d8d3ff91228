import Workbench.Proofs.Review.Schedule
import Workbench.Proofs.Review.Serial

/-!
# Applying all patches is serializable

A review is `Current` when it has a project open whose files it has cached as they are stored, in a
store in memory that refuses no call. `applyAll_serializable` follows such a review through every
interleaving of the tasks of its patches.

* No name is created twice, case ignored, and none that a file already has.
* When no task may go on, every patch was applied: no patch waits, the cached files are the stored
  ones, every file that a patch means has the content of such a patch, and all other files are as
  they were.
* If no two patches mean the same name, the contents under every name are those that applying the
  patches one after another leaves.
-/

namespace Workbench.Review

open Project

/-- The review has a project open whose files it has cached as they are in the store `m`, which
refuses no call. -/
structure Current (v : Review) (m : Memory) (project : String) : Prop where
  store_eq : v.store = .memory m
  project_eq : v.project = some project
  files_eq : v.files = m.listing project
  chunk_pos : 0 < v.chunkSize
  willing : m.Willing
  sound : m.Sound

section Current

variable {v : Review} {m : Memory} {project : String} {patches : List Patch} {n : ℕ} {r : Round}

/-- At first no task has written anything. -/
theorem Current.serial_start (current : v.Current m project) (patches : List Patch) :
    Serial m project patches [] (fun _ => none) m v (Round.start v patches).tasks where
  store_eq := current.store_eq
  project_eq := current.project_eq
  chunk_pos := current.chunk_pos
  willing := current.willing
  sound := current.sound
  held_eq := by
    rw [List.map_nil, List.append_nil]
    exact (List.map_id m.held).symm
  progress := .start patches (current.sound.nodup_listing project)
  calls_eq := ⟨[], by simp, rfl⟩
  same := by
    rw [current.files_eq, List.append_nil]
    rfl
  listed := .inr current.files_eq
  from_patches := by
    intro t ht
    obtain ⟨p, hp, rfl⟩ := List.mem_map.mp ht
    exact hp
  on_track := by
    intro t ht
    obtain ⟨p, -, rfl⟩ := List.mem_map.mp ht
    trivial

/-- The invariant holds throughout an interleaving. -/
theorem Interleaving.serial (current : v.Current m project)
    (h : Interleaving (.start v patches) n r) :
    ∃ made written m', Serial m project patches made written m' r.review r.tasks := by
  refine (keeps (P := fun r =>
    ∃ made written m', Serial m project patches made written m' r.review r.tasks) ?_
    (fun _ _ => Iff.rfl) ⟨_, _, _, current.serial_start patches⟩ (.start v patches) ?_ h).1
  · exact fun r => exists_congr fun _ => exists_congr fun _ => exists_congr fun _ =>
      Serial.bare_iff
  · rintro r i t e ⟨made, written, m', hs⟩ locked ht _ _ he
    exact hs.stride locked ht he

/-- Each patch has a task. -/
theorem Interleaving.exists_task (h : Interleaving (.start v patches) n r) {p : Patch}
    (hp : p ∈ patches) : ∃ t ∈ r.tasks, t.patch = p := by
  rw [← h.map_patch_eq] at hp
  exact List.mem_map.mp hp

/-- At the end the review is current again, and its files have settled under the patches. -/
theorem Interleaving.settled (current : v.Current m project)
    (h : Interleaving (.start v patches) n r) (ended : r.Ended) :
    ∃ m', r.review.Current m' project ∧ Settled v.files patches r.review.files := by
  obtain ⟨made, written, m', hs⟩ := h.serial current
  obtain ⟨-, listed, settling⟩ := hs.settled (fun p hp => h.exists_task hp)
    fun t ht => h.done_of_ended (.start v patches) ended ht
  refine ⟨m', ⟨hs.store_eq, hs.project_eq, listed, hs.chunk_pos, hs.willing, hs.sound⟩, ?_⟩
  refine ⟨made, written, ?_, ?_⟩
  · rwa [current.files_eq]
  · rw [listed, hs.listing_eq, current.files_eq]

/-- At the end no patch waits. -/
theorem Interleaving.pending_eq_nil (h : Interleaving (.start v v.pending) n r)
    (successful : ∀ t ∈ r.tasks, ∃ file, t.stage = .finished (.ok file)) :
    r.review.pending = [] := by
  rw [h.pending_eq, List.filter_eq_nil_iff]
  intro p hp
  obtain ⟨t, ht, rfl⟩ := h.exists_task hp
  obtain ⟨file, stage⟩ := successful t ht
  have applied : appliedId r.tasks t.patch.id = true :=
    List.any_eq_true.mpr ⟨t, ht, by simp [Task.isApplied, stage]⟩
  simp [applied]

end Current

/-! ## One after another -/

/-- The review after patches were applied one after another. -/
def applyInTurn (v : Review) (patches : List Patch) : Review :=
  patches.foldl (fun v p => (v.apply p).2) v

/-- Patches that are applied one after another leave files that have settled under them. -/
theorem Current.applyInTurn {v : Review} {m : Memory} {project : String}
    (current : v.Current m project) (patches : List Patch) :
    ∃ m', (v.applyInTurn patches).Current m' project ∧
      Settled v.files patches (v.applyInTurn patches).files := by
  induction patches generalizing v m with
  | nil =>
    refine ⟨m, current, .nil ?_⟩
    rw [current.files_eq]
    exact current.sound.nodup_listing project
  | cons p patches ih =>
    obtain ⟨ended, n, h⟩ := Round.start_run v [p]
    obtain ⟨m', current', first⟩ := h.settled current ended
    rw [← apply_snd] at current' first
    obtain ⟨m'', current'', rest⟩ := ih current'
    exact ⟨m'', current'', first.trans rest⟩

/-! ## The end of all interleavings -/

/-- The calls that led from the store `m` to the store `m'` created no name twice, case ignored, and
none that a file of the review had. -/
def CreatesOnce (v : Review) (m m' : Memory) : Prop :=
  ∃ sent, m'.calls = m.calls ++ sent ∧ ((createdNames sent).map Text.lower).Nodup ∧
    ∀ name ∈ createdNames sent, findFile? v.files name = none

/-- All patches of the review `v` for files in the store `m` were applied by the tasks of `r`, which
left the store `m'`. -/
structure Applied (v : Review) (m : Memory) (project : String) (r : Round) (m' : Memory) :
    Prop where
  successful : ∀ t ∈ r.tasks, ∃ file, t.stage = .finished (.ok file)
  pending_eq : r.review.pending = []
  files_eq : r.review.files = m'.listing project
  /-- The file that a patch means has the content of a patch for that name. -/
  written : ∀ p ∈ v.pending, ∃ f, findFile? (m'.listing project) p.fileName = some f ∧
    ∃ q ∈ v.pending, Text.lower q.fileName = Text.lower p.fileName ∧ f.content = q.newContent
  /-- A file that no patch means is as it was. -/
  kept : ∀ e ∈ m.held, (∀ p ∈ v.pending, findFile? v.files p.fileName ≠ some e.2) → e ∈ m'.held
  /-- A file that is not as it was, or was not there, is meant by a patch. -/
  meant : ∀ e ∈ m'.held, e ∈ m.held ∨
    e.1 = project ∧ ∃ p ∈ v.pending, findFile? (m'.listing project) p.fileName = some e.2

section Applied

variable {v : Review} {m m' : Memory} {project : String} {made : List File} {written : Revision}
variable {r : Round} {n : ℕ}

/-- In the end, no name was created twice. -/
theorem Serial.createsOnce
    (h : Serial m project v.pending made written m' r.review r.tasks)
    (current : v.Current m project) : CreatesOnce v m m' := by
  obtain ⟨sent, calls_eq, names_eq⟩ := h.calls_eq
  refine ⟨sent, calls_eq, ?_, ?_⟩
  · rw [names_eq, List.map_map]
    exact h.progress.once
  · intro name hname
    rw [names_eq] at hname
    obtain ⟨f, hf, rfl⟩ := List.mem_map.mp hname
    rw [current.files_eq]
    exact h.progress.missing f hf

/-- The file that a patch means has the content of a patch for that name. -/
theorem Serial.exists_written (h : Serial m project v.pending made written m' r.review r.tasks)
    (settling : Settling (m.listing project) v.pending made written) {p : Patch}
    (hp : p ∈ v.pending) :
    ∃ f, findFile? (m'.listing project) p.fileName = some f ∧
      ∃ q ∈ v.pending, Text.lower q.fileName = Text.lower p.fileName ∧
        f.content = q.newContent := by
  obtain ⟨id, targets, hw⟩ := settling.reached p hp
  obtain ⟨content, hcontent⟩ := Option.ne_none_iff_exists'.mp hw
  obtain ⟨q, hq, means, rfl⟩ := settling.written_for id content hcontent
  have lower_eq := means.lower_eq settling.distinct targets
  obtain ⟨f, hf, rfl⟩ := targets
  refine ⟨f.revise written, ?_, q, hq, lower_eq, ?_⟩
  · rw [h.listing_eq, findFile?_revise, hf, Option.map_some]
  · simp [File.revise, hcontent]

/-- A file that no patch means was not written. -/
theorem Serial.mem_of_not_meant
    (h : Serial m project v.pending made written m' r.review r.tasks)
    (current : v.Current m project) {e : String × File} (he : e ∈ m.held)
    (unmeant : ∀ p ∈ v.pending, findFile? v.files p.fileName ≠ some e.2) : e ∈ m'.held := by
  have unwritten : written e.2.id = none := by
    by_contra hw
    -- what was written to a file of `m` comes from a patch that means the file
    obtain ⟨content, hcontent⟩ := Option.ne_none_iff_exists'.mp hw
    obtain ⟨p, hp, targets, -⟩ := h.progress.written_for _ content hcontent
    obtain ⟨f, hf, hid⟩ := targets.mem
    have entry_eq := h.eq_of_id_eq (List.mem_append_left _ he) hf hid
    refine unmeant p hp ?_
    rw [current.files_eq]
    refine h.progress.find_of_targets (Memory.mem_filesOf.mpr ?_) targets
    rw [entry_eq] at he ⊢
    exact he
  rw [h.held_eq]
  refine List.mem_map.mpr ⟨e, List.mem_append_left _ he, ?_⟩
  simp [Memory.reviseEntry, File.revise, unwritten]

/-- A file that was created or written is meant by a patch. -/
theorem Serial.mem_or_meant (h : Serial m project v.pending made written m' r.review r.tasks)
    {e : String × File} (he : e ∈ m'.held) :
    e ∈ m.held ∨ e.1 = project ∧
      ∃ p ∈ v.pending, findFile? (m'.listing project) p.fileName = some e.2 := by
  have found {name : String} {f : File}
      (hf : findFile? (m.listing project ++ made) name = some f) :
      findFile? (m'.listing project) name = some (f.revise written) := by
    rw [h.listing_eq, findFile?_revise, hf, Option.map_some]
  rw [h.held_eq] at he
  obtain ⟨e, entry, rfl⟩ := List.mem_map.mp he
  cases hw : written e.2.id with
  | none =>
    rcases List.mem_append.mp entry with he | he
    · left
      simpa [Memory.reviseEntry, File.revise, hw] using he
    · right
      obtain ⟨f, hf, rfl⟩ := List.mem_map.mp he
      obtain ⟨p, hp, named⟩ := h.progress.made_for f hf
      refine ⟨rfl, p, hp, found ?_⟩
      rw [named]
      exact h.progress.findFile?_made hf
  | some content =>
    right
    obtain ⟨p, hp, ⟨f, hf, hid⟩, -⟩ := h.progress.written_for _ content hw
    obtain rfl := h.eq_of_id_eq entry (mem_of_findFile? hf) hid
    exact ⟨rfl, p, hp, found hf⟩

/-- When no task may go on, all patches were applied. -/
theorem Serial.applied (h : Serial m project v.pending made written m' r.review r.tasks)
    (current : v.Current m project) (hi : Interleaving (.start v v.pending) n r)
    (ended : r.Ended) : Applied v m project r m' := by
  obtain ⟨successful, listed, settling⟩ := h.settled (fun p hp => hi.exists_task hp)
    fun t ht => hi.done_of_ended (.start v v.pending) ended ht
  exact {
    successful
    pending_eq := hi.pending_eq_nil successful
    files_eq := listed
    written := fun p hp => h.exists_written settling hp
    kept := fun e he unmeant => h.mem_of_not_meant current he unmeant
    meant := fun e he => h.mem_or_meant he }

end Applied

/-- When all tasks were successful, so was applying all patches. -/
theorem exists_gather_eq_ok {tasks : List Task}
    (successful : ∀ t ∈ tasks, ∃ file, t.stage = .finished (.ok file)) :
    ∃ files, gather (tasks.filterMap Task.result?) = .ok files := by
  unfold gather
  induction tasks with
  | nil => exact ⟨[], rfl⟩
  | cons t tasks ih =>
    obtain ⟨file, stage⟩ := successful t List.mem_cons_self
    obtain ⟨files, hfiles⟩ := ih fun u hu => successful u (List.mem_cons_of_mem _ hu)
    have result : t.result? = some (.ok file) := by simp [Task.result?, stage]
    refine ⟨file :: files, ?_⟩
    rw [List.filterMap_cons_some result, List.mapM_cons, hfiles]
    rfl

/-- **Serializability.** Let a review be current, and take any interleaving of the tasks of all
patches that wait. It takes boundedly many steps and creates no name twice. When no task may go on,
all patches were applied, and if no two of them mean the same name, then the contents under every
name are those of applying the patches one after another. Applying all patches is such an
interleaving, to its end, and succeeds. -/
theorem applyAll_serializable {v : Review} {m : Memory} {project : String}
    (current : v.Current m project) :
    (∀ n r, Interleaving (.start v v.pending) n r →
      n ≤ (Round.start v v.pending).work ∧
      ∃ m', r.review.store = .memory m' ∧ CreatesOnce v m m' ∧
        (r.Ended → Applied v m project r m' ∧
          ((v.pending.map fun p => Text.lower p.fileName).Nodup →
            contentsOf r.review.files = contentsOf (v.applyInTurn v.pending).files))) ∧
    ∃ n r files, Interleaving (.start v v.pending) n r ∧ r.Ended ∧
      v.applyAll = (.ok files, r.review) := by
  refine ⟨fun n r h => ⟨Nat.le_of_add_right_le h.steps_le, ?_⟩, ?_⟩
  · obtain ⟨made, written, m', hs⟩ := h.serial current
    refine ⟨m', hs.store_eq, hs.createsOnce current, fun ended => ?_⟩
    refine ⟨hs.applied current h ended, fun once => ?_⟩
    obtain ⟨-, -, settled⟩ := h.settled current ended
    obtain ⟨-, -, inTurn⟩ := current.applyInTurn v.pending
    refine settled.contentsOf_eq (fun p hp q hq same => ?_) inTurn
    exact List.inj_on_of_nodup_map once hp hq same
  · obtain ⟨ended, n, h⟩ := Round.start_run v v.pending
    obtain ⟨made, written, m', hs⟩ := h.serial current
    obtain ⟨files, hfiles⟩ := exists_gather_eq_ok (hs.applied current h ended).successful
    exact ⟨n, _, files, h, ended, Prod.ext hfiles rfl⟩

/-- Two patches for names that differ in case alone: whichever creates the file, there is one. -/
theorem applyAll_serializable_two_cases :
    let v : Review := { Review.start (.memory .empty) (some "site") none 2 0 with
      pending := [⟨"1", "a.js", "one", 1, 0, true⟩, ⟨"2", "A.js", "two", 1, 0, true⟩] }
    v.Current .empty "site" ∧ ∃ files m', v.applyAll.1 = .ok files ∧
      v.applyAll.2.store = .memory m' ∧ CreatesOnce v .empty m' ∧ v.applyAll.2.pending = [] ∧
      v.applyAll.2.files = m'.listing "site" := by
  intro v
  have current : v.Current .empty "site" :=
    ⟨rfl, rfl, rfl, by decide, fun _ _ => rfl, Memory.empty_sound⟩
  obtain ⟨all, n, r, files, h, ended, result⟩ := applyAll_serializable current
  obtain ⟨-, m', store_eq, once, done⟩ := all n r h
  have applied := (done ended).1
  refine ⟨current, files, m', ?_⟩
  rw [result]
  exact ⟨rfl, store_eq, once, applied.pending_eq, applied.files_eq⟩

end Workbench.Review
