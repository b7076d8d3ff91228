import Workbench.Proofs.Review.Schedule

/-!
# What comes of all patches

Calls of the store may fail at any step of any task. Still every task is carried to its end; the
patches that wait afterwards are those whose own task failed, in their order; and what is reported
is the first failure in that order, or all applied files. A task that ended well has a past: a step
in which it found its file, and a later one in which the store accepted the new content for that
file (`Accepted`). The past is collected along an interleaving by induction, one case a stride
(`Interleaving.past`).
-/

namespace Workbench.Review

open Project (File)

variable {start r r' : Round} {i j k n : ℕ} {p : Patch} {file : File} {s : Stage}
variable {v : Review} {patches : List Patch} {results : List (Except Failure File)}

/-! ## The past of a task -/

/-- With its next step the task of a patch knows its file: one is listed under the name of the
patch, or the store creates it. -/
inductive Finds (i : ℕ) (p : Patch) (file : File) (r : Round) : Prop
  | listed (stage : r.tasks[i]? = some ⟨p, .fresh⟩ ∨ r.tasks[i]? = some ⟨p, .queued⟩)
      (found : Project.findFile? r.review.files p.fileName = some file)
  | created (project : String) (stage : r.tasks[i]? = some ⟨p, .creating project⟩)
      (made : (r.review.store.create project p.fileName "" (Project.languageOf p.fileName)).1 =
        .ok file)

/-- On the way from `start` to `r` the task of a patch took the step in which it found its file. -/
def Found (start : Round) (i : ℕ) (p : Patch) (file : File) (r : Round) : Prop :=
  ∃ m r₀ k, Interleaving start m r₀ ∧ r₀.MayGo i ∧ Finds i p file r₀ ∧
    Interleaving (r₀.advance i) k r

/-- On the way from `start` to `r` the task of a patch found its file and, by a later step, had its
new content accepted by an update of that file. -/
def Accepted (start : Round) (i : ℕ) (p : Patch) (r : Round) : Prop :=
  ∃ file r₁ k, Found start i p file r₁ ∧ r₁.MayGo i ∧
    r₁.tasks[i]? = some ⟨p, .updating file⟩ ∧
    r₁.review.store.update file.id p.newContent = (.ok (), (r₁.advance i).review.store) ∧
    Interleaving (r₁.advance i) k r

/-- What a task at a stage has behind it. -/
def Stage.Past (start : Round) (i : ℕ) (p : Patch) (r : Round) : Stage → Prop
  | .typing file _ => Found start i p file r
  | .updating file => Found start i p file r
  | .listing _ _ => Accepted start i p r
  | .finished (.ok _) => Accepted start i p r
  | _ => True

/-- What was found stays found. -/
theorem Found.extend (h : Found start i p file r) (on : Interleaving r n r') :
    Found start i p file r' := by
  obtain ⟨m, r₀, k, before, go, finds, after⟩ := h
  exact ⟨m, r₀, k + n, before, go, finds, after.trans on⟩

/-- What was accepted stays accepted. -/
theorem Accepted.extend (h : Accepted start i p r) (on : Interleaving r n r') :
    Accepted start i p r' := by
  obtain ⟨file, r₁, k, found, go, stage, updated, after⟩ := h
  exact ⟨file, r₁, k + n, found, go, stage, updated, after.trans on⟩

/-- So the past of a stage stays what it is. -/
theorem Stage.Past.extend (h : s.Past start i p r) (on : Interleaving r n r') :
    s.Past start i p r' := by
  cases s with
  | typing file frames => exact Found.extend h on
  | updating file => exact Found.extend h on
  | listing file project => exact Accepted.extend h on
  | finished result =>
    cases result with
    | ok file => exact Accepted.extend h on
    | error e => trivial
  | fresh | queued | creating project => trivial

/-- Where a task begins to type, it has just found its file. -/
theorem Begins.past {size : ℤ} (h : Begins file n size s) (found : Found start i p file r) :
    s.Past start i p r := by
  cases h with
  | typing short => exact found
  | updating => exact found
  | refused bad => trivial

/-- A step gives a task the past that belongs to its new stage. -/
theorem Stride.past {t : Task} {e : Effect} (h : Stride i t r.review r.locks e)
    (reached : Interleaving start n r) (go : r.MayGo i) (ht : r.tasks[i]? = some t)
    (store_eq : (r.advance i).review.store = e.review.store)
    (before : t.stage.Past start i t.patch r) :
    e.stage.Past start i t.patch (r.advance i) := by
  have here {file : File} (finds : Finds i t.patch file r) :
      Found start i t.patch file (r.advance i) :=
    ⟨n, r, 0, reached, go, finds, .start⟩
  have stays : t.stage.Past start i t.patch (r.advance i) := before.extend (.step i .start go)
  have task {s : Stage} (stage : t.stage = s) : r.tasks[i]? = some ⟨t.patch, s⟩ := by
    rw [ht, ← stage]
  cases h with
  | wait | claim | orphan | createFailed | updateOrphan | updateFailed | listFailed => trivial
  | find takes found begins =>
    refine begins.past (here (.listed ?_ found))
    cases takes with
    | free stage _ => exact .inl (task stage)
    | handed stage => exact .inr (task stage)
  | create stage created begins =>
    exact begins.past (here (.created _ (task stage) (congrArg Prod.fst created)))
  | type stage =>
    rw [stage] at stays
    exact stays
  | typed stage =>
    rw [stage] at stays
    exact stays
  | @update file store project stage updated opened =>
    rw [stage] at before
    have accepted : r.review.store.update file.id t.patch.newContent =
        (.ok (), (r.advance i).review.store) := by
      rw [updated, store_eq]
    exact ⟨file, r, 0, before, go, task stage, accepted, .start⟩
  | list stage listed =>
    rw [stage] at stays
    exact stays

/-- Every task has the past that belongs to its stage. -/
theorem Interleaving.past (h : Interleaving (.start v patches) n r) {t : Task}
    (ht : r.tasks[i]? = some t) : t.stage.Past (.start v patches) i t.patch r := by
  induction h generalizing i t with
  | start =>
    have fresh : t.stage = .fresh := by
      obtain ⟨p, -, rfl⟩ := List.mem_map.mp (List.mem_of_getElem? ht)
      rfl
    rw [fresh]
    trivial
  | @step n r j reached go ih =>
    have on : Interleaving r 1 (r.advance j) := .step j .start go
    obtain ⟨u, hu, unfinished, -⟩ := id go
    obtain ⟨e, he, heq⟩ := Round.advance_eq_after hu unfinished
    obtain ⟨tasks_eq, -, -, store_eq⟩ := Round.of_bare_eq_after heq
    rw [tasks_eq] at ht
    by_cases same : i = j
    · subst same
      rw [getElem?_restage_self hu] at ht
      obtain rfl := Option.some.inj ht
      exact he.past reached go hu store_eq (ih hu)
    · rw [getElem?_restage_of_ne same] at ht
      exact (ih ht).extend on
  | edit editor _ ih => exact (ih ht).extend (.edit editor .start)
  | requeue ready _ ih => exact (ih ht).extend (.requeue ready .start)

/-! ## Outcomes in order -/

/-- The tasks of patches that came to their ends. -/
def ended (patches : List Patch) (results : List (Except Failure File)) : List Task :=
  List.zipWith (fun p result => ⟨p, .finished result⟩) patches results

/-- When all tasks are done there is an outcome for every patch, in the order of the patches. -/
theorem eq_ended {tasks : List Task} (done : ∀ t ∈ tasks, ∃ result, t.stage = .finished result) :
    tasks = ended (tasks.map (·.patch)) (tasks.filterMap Task.result?) ∧
      (tasks.filterMap Task.result?).length = tasks.length := by
  induction tasks with
  | nil => exact ⟨rfl, rfl⟩
  | cons t tasks ih =>
    obtain ⟨rest, length⟩ := ih fun u hu => done u (List.mem_cons_of_mem _ hu)
    obtain ⟨result, stage⟩ := done t List.mem_cons_self
    have here : t.result? = some result := by rw [Task.result?, stage]
    have same : t = ⟨t.patch, .finished result⟩ := by rw [← stage]
    rw [List.filterMap_cons_some here, List.map_cons, List.length_cons, List.length_cons, length]
    refine ⟨?_, rfl⟩
    rw [ended, List.zipWith_cons_cons, ← ended, ← rest, ← same]

/-- A finished task has applied its patch if it did not fail. -/
theorem isApplied_finished (p : Patch) (result : Except Failure File) :
    Task.isApplied ⟨p, .finished result⟩ = result.isOk := by
  cases result <;> rfl

/-- Of patches with different ids those that were not applied are those whose own outcome is a
failure. -/
theorem filter_unapplied (distinct : (patches.map (·.id)).Nodup)
    (length : results.length = patches.length) :
    (patches.filter fun p => !appliedId (ended patches results) p.id) =
      ((patches.zip results).filter (!·.2.isOk)).map (·.1) := by
  induction patches generalizing results with
  | nil => rfl
  | cons p patches ih =>
    cases results with
    | nil => cases length
    | cons result results =>
      rw [List.map_cons, List.nodup_cons] at distinct
      obtain ⟨fresh, distinct⟩ := distinct
      have rest := ih distinct (Nat.succ.inj length)
      have split (id : String) : appliedId (ended (p :: patches) (result :: results)) id =
          (result.isOk && p.id == id || appliedId (ended patches results) id) := by
        rw [appliedId, ended, List.zipWith_cons_cons, List.any_cons, isApplied_finished]
        rfl
      have own : appliedId (ended patches results) p.id = false := by
        rw [appliedId, List.any_eq_false]
        intro t ht same
        have patch : t.patch ∈ patches := by
          rw [ended, ← List.map_uncurry_zip_eq_zipWith] at ht
          obtain ⟨⟨q, outcome⟩, hq, rfl⟩ := List.mem_map.mp ht
          exact (List.of_mem_zip hq).1
        simp only [Bool.and_eq_true, beq_iff_eq] at same
        exact fresh (List.mem_map.mpr ⟨t.patch, patch, same.2⟩)
      have others : (patches.filter fun q =>
          !appliedId (ended (p :: patches) (result :: results)) q.id) =
            patches.filter fun q => !appliedId (ended patches results) q.id := by
        refine List.filter_congr fun q hq => ?_
        have differs : (p.id == q.id) = false := by
          refine beq_eq_false_iff_ne.mpr fun same => fresh ?_
          exact List.mem_map.mpr ⟨q, hq, same.symm⟩
        rw [split, differs, Bool.and_false, Bool.false_or]
      rw [List.filter_cons, others, rest, split, own, List.zip_cons_cons, List.filter_cons]
      cases result <;> simp [Except.isOk, Except.toBool]

/-! ## What is reported -/

/-- All files are reported if every outcome is a file. -/
theorem gather_eq_ok_iff {files : List File} :
    gather results = .ok files ↔ results = files.map .ok := by
  rw [gather]
  induction results generalizing files with
  | nil => cases files <;> simp [pure, Except.pure]
  | cons result results ih =>
    rw [List.mapM_cons]
    cases result with
    | error e => cases files <;> simp [bind, Except.bind]
    | ok file =>
      cases files with
      | nil => cases h : results.mapM id <;> simp [bind, Except.bind, pure, Except.pure]
      | cons f files =>
        rw [List.map_cons, List.cons.injEq, ← ih]
        cases h : results.mapM id <;> simp [bind, Except.bind, pure, Except.pure]

/-- A failure is reported if it is the first among the outcomes. -/
theorem gather_eq_error_iff {e : Failure} :
    gather results = .error e ↔
      ∃ i : ℕ, results[i]? = some (.error e) ∧ ∀ j < i, ∃ f, results[j]? = some (.ok f) := by
  rw [gather]
  induction results with
  | nil => simp [pure, Except.pure]
  | cons result results ih =>
    rw [List.mapM_cons]
    cases result with
    | error e' =>
      constructor
      · intro h
        cases h
        exact ⟨0, rfl, nofun⟩
      · rintro ⟨i, here, before⟩
        cases i with
        | zero =>
          cases here
          rfl
        | succ i =>
          obtain ⟨f, first⟩ := before 0 (Nat.succ_pos i)
          cases first
    | ok file =>
      have rest : (do
          let f ← id (Except.ok file : Except Failure File)
          let fs ← results.mapM id
          pure (f :: fs)) = .error e ↔ results.mapM id = .error e := by
        cases h : results.mapM id <;> simp [bind, Except.bind, pure, Except.pure]
      rw [rest, ih]
      constructor
      · rintro ⟨i, here, before⟩
        refine ⟨i + 1, here, fun j hj => ?_⟩
        cases j with
        | zero => exact ⟨file, rfl⟩
        | succ j => exact before j (Nat.lt_of_succ_lt_succ hj)
      · rintro ⟨i, here, before⟩
        cases i with
        | zero => cases here
        | succ i => exact ⟨i, here, fun j hj => before (j + 1) (Nat.succ_lt_succ hj)⟩

/-! ## All patches -/

/-- What has come of all patches that waited. -/
structure Concluded (v : Review) (r : Round) : Prop where
  /-- Every patch was carried to its end. -/
  length_eq : r.results.length = v.pending.length
  tasks_eq : r.tasks = ended v.pending r.results
  /-- Those patches still wait whose own outcome is a failure. -/
  pending_eq : r.review.pending = ((v.pending.zip r.results).filter (!·.2.isOk)).map (·.1)
  /-- The first failure is reported if there is one. -/
  failure : ∀ e, gather r.results = .error e ↔
    ∃ i : ℕ, r.results[i]? = some (.error e) ∧ ∀ j < i, ∃ f, r.results[j]? = some (.ok f)
  /-- Otherwise the applied files are reported in the order of the patches. -/
  success : ∀ files, gather r.results = .ok files ↔ r.results = files.map .ok
  /-- A patch that was applied had its content accepted for its file. -/
  accepted : ∀ i p f, v.pending[i]? = some p → r.results[i]? = some (.ok f) →
    Accepted (.start v v.pending) i p r

/-- When no task may go on, everything has come to its end. -/
theorem Interleaving.concluded (h : Interleaving (.start v v.pending) n r)
    (distinct : (v.pending.map (·.id)).Nodup) (stopped : r.Ended) : Concluded v r := by
  have done : ∀ t ∈ r.tasks, ∃ result, t.stage = .finished result := fun t ht =>
    h.done_of_ended (.start v v.pending) stopped ht
  have patches_eq : r.tasks.map (·.patch) = v.pending := h.map_patch_eq
  obtain ⟨tasks_eq, length⟩ := eq_ended done
  rw [patches_eq, ← Round.results] at tasks_eq
  have length_eq : r.results.length = v.pending.length := by
    rw [Round.results, length, ← patches_eq, List.length_map]
  refine ⟨length_eq, tasks_eq, ?_, fun e => gather_eq_error_iff, fun files => gather_eq_ok_iff,
    fun i p f hp hf => ?_⟩
  · rw [h.pending_eq, tasks_eq]
    exact filter_unapplied distinct length_eq
  · have task : r.tasks[i]? = some ⟨p, .finished (.ok f)⟩ := by
      rw [tasks_eq, ended, List.getElem?_zipWith, hp, hf]
    exact h.past task

/-- **Failures keep exactly their patches.** Take any interleaving of the tasks of all patches that
wait, with any store, editor and project. It takes boundedly many steps, and when no task may go on,
every patch was carried to its end, those that failed still wait in their order, the first failure
is the one that is reported, and those that succeeded had their content accepted for their file.
Applying all patches is such an interleaving, to its end. -/
theorem applyAll_keeps_failed {v : Review} (distinct : (v.pending.map (·.id)).Nodup) :
    (∀ n r, Interleaving (.start v v.pending) n r →
      n ≤ (Round.start v v.pending).work ∧ (r.Ended → Concluded v r)) ∧
    ∃ n r, Interleaving (.start v v.pending) n r ∧ r.Ended ∧
      v.applyAll = (gather r.results, r.review) := by
  refine ⟨fun n r h => ⟨Nat.le_of_add_right_le h.steps_le, h.concluded distinct⟩, ?_⟩
  obtain ⟨stopped, n, h⟩ := Round.start_run v v.pending
  exact ⟨n, _, h, stopped, rfl⟩

/-- A store that creates no file: the patch for a listed file is applied, and the one for a new file
stays. -/
theorem applyAll_keeps_failed_refused :
    let refused : Failure := .refused .run "store unavailable"
    let file : File := ⟨"file-1", "a.js", "old", "javascript"⟩
    let held : Project.Memory := { Project.Memory.empty with
      held := [("site", file)], made := 1
      refusal := fun _ call => if call.operation = .create then some refused else none }
    let v : Review := { Review.start (.memory held) (some "site") none 2 0 with
      files := [file]
      pending := [⟨"1", "b.js", "new", 1, 0, true⟩, ⟨"2", "a.js", "new", 1, 0, false⟩] }
    (v.pending.map (·.id)).Nodup ∧ v.applyAll.2.pending.map (·.id) = ["1"] ∧
      ∃ r, v.applyAll = (gather r.results, r.review) ∧ Concluded v r := by
  intro refused file held v
  have distinct : (v.pending.map (·.id)).Nodup := by decide
  obtain ⟨all, n, r, h, stopped, result⟩ := applyAll_keeps_failed distinct
  exact ⟨distinct, by decide +kernel, r, result, (all n r h).2 stopped⟩

end Workbench.Review
