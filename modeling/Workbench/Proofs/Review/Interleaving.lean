import Workbench.Proofs.Review.Locking

/-!
# Interleavings

The tasks of a round can be carried on in many orders. An `Interleaving` is any of them: a task that
may go on takes one step, then any task that may go on takes the next. Meanwhile the editor may be
changed, swapped or removed, and the queue of the tasks may be reordered, since which task goes next
is what an interleaving leaves open.

* `Interleaving.keeps`: what holds at the start and is kept by every stride holds throughout.
* `Interleaving.steps_le`: an interleaving ends, after at most `Round.work` steps.
* `Interleaving.done_of_ended`: where no task may go on, all tasks are done.
* `Interleaving.pending_eq`: the patches that wait are those that were not applied yet, in order.
-/

namespace Workbench.Review

/-- `Interleaving r n r'`: the tasks of `r` can be carried to `r'` in `n` steps. -/
inductive Interleaving (r : Round) : ℕ → Round → Prop
  | start : Interleaving r 0 r
  /-- A task that may go on takes a step. -/
  | step {n r'} (i : ℕ) : Interleaving r n r' → r'.MayGo i → Interleaving r (n + 1) (r'.advance i)
  /-- Something happens to the editor. -/
  | edit {n r'} (editor : Option Editor) :
      Interleaving r n r' → Interleaving r n { r' with review.editor := editor }
  /-- The tasks are queued up in another order. -/
  | requeue {n r'} (ready : List ℕ) : Interleaving r n r' → Interleaving r n { r' with ready }

/-- What rounds that are the same but for the editor agree on. -/
theorem Round.of_bare_eq_after {r r' : Round} {i : ℕ} {e : Effect}
    (h : r'.bare = (r.after i e).bare) :
    r'.tasks = restage i e.stage r.tasks ∧ r'.locks = e.locks ∧ r'.ready = r.ready ++ e.freed ∧
      r'.review.store = e.review.store :=
  ⟨congrArg Round.tasks h, congrArg Round.locks h, congrArg Round.ready h,
    congrArg (·.review.store) h⟩

/-- A round has ended: no task may go on. -/
def Round.Ended (r : Round) : Prop :=
  ∀ i, ¬ r.MayGo i

namespace Interleaving

variable {r r' r'' : Round} {m n : ℕ}

/-- One interleaving may go on where another one stops. -/
theorem trans (h : Interleaving r m r') (h' : Interleaving r' n r'') :
    Interleaving r (m + n) r'' := by
  induction h' with
  | start => exact h
  | step i _ go ih => exact .step i ih go
  | edit editor _ ih => exact .edit editor ih
  | requeue ready _ ih => exact .requeue ready ih

/-- **Induction over an interleaving.** A property that does not look at the queue and the editor,
holds at the start and is kept by every stride holds wherever an interleaving leads. -/
theorem keeps {P : Round → Prop} (bare : ∀ r : Round, P r.bare ↔ P r)
    (queue : ∀ (r : Round) (ready : List ℕ), P { r with ready } ↔ P r) (start : P r)
    (locked : Locked r.tasks r.locks)
    (stride : ∀ (r : Round) (i : ℕ) (t : Task) (e : Effect), P r → Locked r.tasks r.locks →
      r.tasks[i]? = some t → (∀ result, t.stage ≠ .finished result) →
      (t.stage = .queued → ¬ Locks.Waits r.locks i t) → Stride i t r.review r.locks e →
      P (r.after i e))
    (h : Interleaving r n r') : P r' ∧ Locked r'.tasks r'.locks := by
  induction h with
  | start => exact ⟨start, locked⟩
  | step i _ go ih =>
    obtain ⟨hP, hlocked⟩ := ih
    obtain ⟨t, ht, unfinished, handed⟩ := go
    obtain ⟨e, he, heq⟩ := Round.advance_eq_after ht unfinished
    refine ⟨?_, ?_⟩
    · -- the step is a stride but for the editor, at which `P` does not look
      rw [← bare, heq, bare]
      exact stride _ i t e hP hlocked ht unfinished handed he
    · obtain ⟨htasks, hlocks, -⟩ := Round.of_bare_eq_after heq
      rw [htasks, hlocks]
      exact hlocked.move ht handed he.move
  | @edit n r' editor _ ih =>
    refine ⟨?_, ih.2⟩
    rw [← bare]
    exact (bare r').mpr ih.1
  | requeue ready _ ih => exact ⟨(queue _ ready).mpr ih.1, ih.2⟩

/-- The locks keep their queues. -/
theorem locked (h : Interleaving r n r') (start : Locked r.tasks r.locks) :
    Locked r'.tasks r'.locks :=
  (keeps (P := fun _ => True) (fun _ => Iff.rfl) (fun _ _ => Iff.rfl) trivial start
    (fun _ _ _ _ _ _ _ _ _ _ => trivial) h).2

end Interleaving

/-! ## Interleavings end -/

/-- How many steps a task can still take, if its content has `n` characters. -/
def Stage.work (n : ℕ) : Stage → ℕ
  | .fresh => n + 6
  | .queued => n + 5
  | .creating _ => n + 4
  | .typing _ frames => frames.length + 3
  | .updating _ => 2
  | .listing _ _ => 1
  | .finished _ => 0

/-- How many steps a task can still take. -/
def Task.work (t : Task) : ℕ :=
  t.stage.work t.patch.newContent.length

/-- How many steps the tasks of a round can still take. -/
def Round.work (r : Round) : ℕ :=
  r.tasks.foldr (fun t work => t.work + work) 0

/-- A task that is not finished has work left. -/
theorem Task.work_pos {t : Task} (h : ∀ result, t.stage ≠ .finished result) : 0 < t.work := by
  unfold Task.work
  cases hs : t.stage with
  | finished result => exact absurd hs (h result)
  | _ => simp [Stage.work]

/-- Typing takes a step for each frame, and a few more. -/
theorem Begins.work_le {file : Project.File} {n : ℕ} {size : ℤ} {s : Stage}
    (h : Begins file n size s) : s.work n ≤ n + 3 := by
  cases h with
  | typing short => exact Nat.add_le_add_right short 3
  | updating => simp [Stage.work]
  | refused => simp [Stage.work]

/-- A task that holds its lock at the start of a step has not claimed its name yet. -/
theorem Takes.lt_work {t : Task} {locks held : Locks} (h : Takes t locks held) {n k : ℕ}
    (hk : k < 5) : n + k < t.stage.work n := by
  cases h with
  | free stage _ =>
    simp only [stage, Stage.work]
    omega
  | handed stage =>
    simp only [stage, Stage.work]
    omega

/-- A stride leaves less work. -/
theorem Stride.work_lt {i : ℕ} {t : Task} {v : Review} {locks : Locks} {e : Effect}
    (h : Stride i t v locks e) : e.stage.work t.patch.newContent.length < t.work := by
  unfold Task.work
  cases h with
  | wait stage _ => simp [stage, Stage.work]
  | find takes _ begins => exact Nat.lt_of_le_of_lt begins.work_le (takes.lt_work (by decide))
  | claim takes _ _ => exact takes.lt_work (by decide)
  | orphan takes _ _ =>
    exact Nat.lt_of_le_of_lt (Nat.zero_le _) (takes.lt_work (k := 0) (by decide))
  | create stage _ begins =>
    rw [stage]
    exact Nat.lt_succ_of_le begins.work_le
  | createFailed stage _ | type stage | typed stage | update stage _ _ | updateOrphan stage _ _
  | updateFailed stage _ | list stage _ | listFailed stage _ => simp [stage, Stage.work]

/-- A task that goes on leaves less work. -/
theorem sum_work_restage_lt {tasks : List Task} {i : ℕ} {t : Task} {s : Stage}
    (ht : tasks[i]? = some t) (h : s.work t.patch.newContent.length < t.work) :
    (restage i s tasks).foldr (fun t work => t.work + work) 0 <
      tasks.foldr (fun t work => t.work + work) 0 := by
  induction tasks generalizing i with
  | nil => simp at ht
  | cons u tasks ih =>
    cases i with
    | zero =>
      obtain rfl := Option.some.inj ht
      exact Nat.add_lt_add_right h _
    | succ i =>
      have := ih (i := i) (by simpa using ht)
      exact Nat.add_lt_add_left this _

/-- Each task has part of the work. -/
theorem Round.work_le_of_mem {r : Round} {t : Task} (h : t ∈ r.tasks) : t.work ≤ r.work := by
  unfold Round.work
  generalize r.tasks = tasks at h
  induction tasks with
  | nil => cases h
  | cons u tasks ih =>
    rw [List.foldr_cons]
    rcases List.mem_cons.mp h with rfl | h
    · exact Nat.le_add_right _ _
    · exact Nat.le_trans (ih h) (Nat.le_add_left _ _)

namespace Interleaving

variable {r r' : Round} {n : ℕ}

/-- **Every interleaving ends.** Each step takes away at least one unit of the work that was there
at the start. -/
theorem steps_le (h : Interleaving r n r') : n + r'.work ≤ r.work := by
  induction h with
  | start => simp
  | step i _ go ih =>
    obtain ⟨t, ht, unfinished, -⟩ := go
    obtain ⟨e, he, heq⟩ := Round.advance_eq_after ht unfinished
    have htasks := (Round.of_bare_eq_after heq).1
    have hlt := sum_work_restage_lt ht he.work_lt
    unfold Round.work at ih ⊢
    rw [htasks]
    omega
  | edit _ _ ih => exact ih
  | requeue _ _ ih => exact ih

/-- Where no task may go on, all tasks are done. -/
theorem done_of_ended (h : Interleaving r n r') (locked : Locked r.tasks r.locks)
    (ended : r'.Ended) {t : Task} (ht : t ∈ r'.tasks) : ∃ result, t.stage = .finished result := by
  by_contra unfinished
  push Not at unfinished
  obtain ⟨i, hi⟩ := List.mem_iff_getElem?.mp ht
  obtain ⟨j, go⟩ := (h.locked locked).exists_mayGo hi unfinished
  exact ended j go

end Interleaving

/-! ## What steps leave alone -/

section Restage

variable {tasks : List Task} {i : ℕ} {t u : Task} {s : Stage}

/-- A task keeps its patch. -/
theorem map_patch_restage (i : ℕ) (s : Stage) (tasks : List Task) :
    (restage i s tasks).map (·.patch) = tasks.map (·.patch) := by
  induction tasks generalizing i with
  | nil => simp [restage]
  | cons u tasks ih =>
    cases i with
    | zero => rfl
    | succ i => simpa [restage] using ih i

/-- A task after a step of one of them is that one at its new stage, or one of the others. -/
theorem mem_restage (ht : tasks[i]? = some t) (hu : u ∈ restage i s tasks) :
    u = { t with stage := s } ∨ ∃ j, j ≠ i ∧ tasks[j]? = some u := by
  obtain ⟨j, hj⟩ := List.mem_iff_getElem?.mp hu
  by_cases h : j = i
  · subst h
    rw [getElem?_restage_self ht] at hj
    exact .inl (Option.some.inj hj).symm
  · rw [getElem?_restage_of_ne h] at hj
    exact .inr ⟨j, h, hj⟩

/-- What holds of all tasks, the one that goes on among them. -/
theorem forall_mem_restage {P : Task → Prop} (ht : tasks[i]? = some t)
    (self : P { t with stage := s }) (others : ∀ j u, j ≠ i → tasks[j]? = some u → P u) :
    ∀ u ∈ restage i s tasks, P u := by
  intro u hu
  rcases mem_restage ht hu with rfl | ⟨j, hj, hu⟩
  · exact self
  · exact others j u hj hu

theorem self_mem_restage (ht : tasks[i]? = some t) (s : Stage) :
    { t with stage := s } ∈ restage i s tasks :=
  List.mem_of_getElem? (getElem?_restage_self ht s)

/-- A task that is not the one that takes a step stays as it is. -/
theorem mem_restage_of_mem (ht : tasks[i]? = some t) (hu : u ∈ tasks) (h : u ≠ t) :
    u ∈ restage i s tasks := by
  obtain ⟨j, hj⟩ := List.mem_iff_getElem?.mp hu
  -- the task at the place that changes is `t`
  have hji : j ≠ i := by
    rintro rfl
    exact h (Option.some.inj (hj.symm.trans ht))
  exact List.mem_of_getElem? ((getElem?_restage_of_ne hji s tasks).trans hj)

end Restage

/-- Whether a patch was applied. -/
def Task.isApplied (t : Task) : Bool :=
  match t.stage with
  | .finished (.ok _) => true
  | _ => false

/-- Whether a patch with an id was applied. -/
def appliedId (tasks : List Task) (id : String) : Bool :=
  tasks.any fun t => t.isApplied && t.patch.id == id

/-- A patch counts as applied from the step on that applies it. -/
theorem appliedId_restage {tasks : List Task} {i : ℕ} {t : Task} (ht : tasks[i]? = some t)
    (unapplied : t.isApplied = false) (s : Stage) (id : String) :
    appliedId (restage i s tasks) id =
      (appliedId tasks id || (Task.isApplied { t with stage := s } && t.patch.id == id)) := by
  unfold appliedId
  induction tasks generalizing i with
  | nil => simp at ht
  | cons u tasks ih =>
    cases i with
    | zero =>
      obtain rfl := Option.some.inj ht
      simp [restage, unapplied, Bool.or_comm]
    | succ i =>
      have := ih (i := i) (by simpa using ht)
      simp only [restage, List.modify_succ_cons, List.any_cons] at this ⊢
      rw [this, Bool.or_assoc]

/-- A stride takes a patch from those that wait iff it ends the task of the patch well. -/
theorem Stride.pending_eq {i : ℕ} {t : Task} {v : Review} {locks : Locks} {e : Effect}
    (h : Stride i t v locks e) :
    e.review.pending = v.pending.filter fun p =>
      !(Task.isApplied { t with stage := e.stage } && t.patch.id == p.id) := by
  have discarded : ∀ pending : List Patch, (pending.filter fun p => p.id != t.patch.id) =
      pending.filter fun p => !(true && t.patch.id == p.id) := by
    intro pending
    congr 1
    funext p
    simp [bne, Bool.beq_comm]
  cases h with
  | list _ _ => exact discarded _
  | find _ _ begins | create _ _ begins => cases begins <;> simp [Task.isApplied]
  | _ => simp [Task.isApplied]

/-- No step changes how much is typed at once. -/
theorem Stride.chunkSize_eq {i : ℕ} {t : Task} {v : Review} {locks : Locks} {e : Effect}
    (h : Stride i t v locks e) : e.review.chunkSize = v.chunkSize := by
  cases h <;> rfl

namespace Interleaving

variable {review : Review} {patches : List Patch} {r : Round} {n : ℕ}

/-- So no interleaving does. -/
theorem chunkSize_eq (h : Interleaving (.start review patches) n r) :
    r.review.chunkSize = review.chunkSize :=
  (keeps (P := fun r => r.review.chunkSize = review.chunkSize) (fun _ => Iff.rfl)
    (fun _ _ => Iff.rfl) rfl (.start review patches)
    (fun _ _ _ _ hP _ _ _ _ he => he.chunkSize_eq.trans hP) h).1

/-- The tasks keep their patches. -/
theorem map_patch_eq (h : Interleaving (.start review patches) n r) :
    r.tasks.map (·.patch) = patches := by
  refine (keeps (P := fun r => r.tasks.map (·.patch) = patches) (fun _ => Iff.rfl)
    (fun _ _ => Iff.rfl) ?_ (.start review patches) ?_ h).1
  · simp [Round.start, Function.comp_def]
  · intro r i t e hP _ _ _ _ _
    exact (map_patch_restage i e.stage r.tasks).trans hP

/-- **The patches that wait.** At any point of an interleaving those patches wait that waited at the
start and were not applied since, in the order of the start. -/
theorem pending_eq (h : Interleaving (.start review patches) n r) :
    r.review.pending = review.pending.filter fun p => !appliedId r.tasks p.id := by
  refine (keeps (P := fun r => r.review.pending =
      review.pending.filter fun p => !appliedId r.tasks p.id) (fun _ => Iff.rfl)
    (fun _ _ => Iff.rfl) ?_ (.start review patches) ?_ h).1
  · refine (List.filter_eq_self.mpr fun p _ => ?_).symm
    simp [appliedId, Round.start, Task.isApplied]
  · intro r i t e hP _ ht unfinished _ he
    -- a task that takes a step was not done before, so its patch was not applied yet
    have unapplied : t.isApplied = false := by
      unfold Task.isApplied
      split
      · next file stage => exact absurd stage (unfinished _)
      · rfl
    show e.review.pending = _
    rw [he.pending_eq, hP, List.filter_filter]
    refine List.filter_congr fun p _ => ?_
    rw [Round.after, ← restage, appliedId_restage ht unapplied, Bool.not_or, Bool.and_comm]

end Interleaving

end Workbench.Review
