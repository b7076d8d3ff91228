import Workbench.Proofs.Review.Stride
import Mathlib.Data.List.Nodup

/-!
# Locks

The tasks of a round that stand between asking for a lock and giving it back form a queue: one of
them holds the lock, the others wait in the order in which they asked (`Queue`). `Locked` says so of
every lock of a round. Each stride keeps it (`Locked.stride`), hence

* no two tasks hold one lock, so no two are about to create a file of one name
  (`Locked.creating_unique`);
* as long as a task is not done, some task may go on (`Locked.exists_mayGo`).

`Stride.move` forgets everything of a stride but what it does to its lock, which leaves four kinds
of it.
-/

namespace Workbench.Review

/-- Whether a task at the stage has asked for its lock and has not given it back. -/
def Stage.needsLock : Stage → Bool
  | .queued | .creating _ => true
  | _ => false

/-- Puts a task at a stage. -/
def restage (i : ℕ) (s : Stage) (tasks : List Task) : List Task :=
  tasks.modify i ({ · with stage := s })

section Restage

variable {tasks : List Task} {i j : ℕ} {t : Task}

/-- A task goes on to its new stage. -/
theorem getElem?_restage_self (ht : tasks[i]? = some t) (s : Stage) :
    (restage i s tasks)[i]? = some { t with stage := s } := by
  simp [restage, ht]

/-- The other tasks stay where they are. -/
theorem getElem?_restage_of_ne (h : j ≠ i) (s : Stage) (tasks : List Task) :
    (restage i s tasks)[j]? = tasks[j]? := by
  simp [restage, Ne.symm h]

end Restage

/-- A task asks for a lock: it has asked for it and has not given it back. -/
def Asks (tasks : List Task) (lock : String) (i : ℕ) : Prop :=
  ∃ t, tasks[i]? = some t ∧ t.lock = lock ∧ t.stage.needsLock = true

/-- A task asks for the lock of its name while it needs one. -/
theorem asks_iff {tasks : List Task} {lock : String} {i : ℕ} {t : Task}
    (ht : tasks[i]? = some t) : Asks tasks lock i ↔ t.lock = lock ∧ t.stage.needsLock = true := by
  constructor
  · rintro ⟨u, hu, asks⟩
    obtain rfl : t = u := Option.some.inj (ht.symm.trans hu)
    exact asks
  · exact fun asks => ⟨t, ht, asks⟩

/-- The tasks that ask for a lock: one that holds it, and those that wait. -/
structure Queue (tasks : List Task) (lock : String) (holder : ℕ) (waiting : List ℕ) : Prop where
  nodup : (holder :: waiting).Nodup
  mem_iff : ∀ i, i ∈ holder :: waiting ↔ Asks tasks lock i
  queued : ∀ i ∈ waiting, ∃ t, tasks[i]? = some t ∧ t.stage = .queued

/-- Every lock that is held has its queue, and no task asks for a lock that is not held. -/
def Locked (tasks : List Task) (locks : Locks) : Prop :=
  ∀ lock, match Entries.lookup lock locks with
    | none => ∀ i, ¬ Asks tasks lock i
    | some waiting => ∃ holder, Queue tasks lock holder waiting

def Locks.Waits (locks : Locks) (i : ℕ) (t : Task) : Prop :=
  ∃ waiting, Entries.lookup t.lock locks = some waiting ∧ i ∈ waiting

/-- A task may go on: it is not done, and if it has asked for its lock it was handed it. -/
def Round.MayGo (i : ℕ) (r : Round) : Prop :=
  ∃ t, r.tasks[i]? = some t ∧ (∀ result, t.stage ≠ .finished result) ∧
    (t.stage = .queued → ¬ Locks.Waits r.locks i t)

/-- A finished task has nothing left to do. -/
theorem Round.not_mayGo_of_finished {r : Round} {i : ℕ} {t : Task}
    {result : Except Failure Project.File} (ht : r.tasks[i]? = some t)
    (done : t.stage = .finished result) : ¬ r.MayGo i := by
  rintro ⟨u, hu, unfinished, -⟩
  obtain rfl : t = u := Option.some.inj (ht.symm.trans hu)
  exact unfinished result done

namespace Locked

variable {tasks : List Task} {locks : Locks} {lock : String} {waiting : List ℕ} {i j : ℕ}

/-- Nobody asks for a lock that is free. -/
theorem not_asks (h : Locked tasks locks) (free : Entries.lookup lock locks = none) (i : ℕ) :
    ¬ Asks tasks lock i := by
  have hl := h lock
  rw [free] at hl
  exact hl i

/-- A lock that is taken has a holder and a queue. -/
theorem queue (h : Locked tasks locks) (taken : Entries.lookup lock locks = some waiting) :
    ∃ holder, Queue tasks lock holder waiting := by
  have hl := h lock
  rwa [taken] at hl

/-- A task that asks for a lock and does not wait for it holds it. -/
theorem queue_of_asks {t : Task} (h : Locked tasks locks) (ht : tasks[i]? = some t)
    (needs : t.stage.needsLock = true) (handed : ¬ locks.Waits i t) :
    ∃ waiting, Entries.lookup t.lock locks = some waiting ∧ Queue tasks t.lock i waiting := by
  cases taken : Entries.lookup t.lock locks with
  | none => exact absurd ⟨t, ht, rfl, needs⟩ (h.not_asks taken i)
  | some waiting =>
    obtain ⟨holder, queue⟩ := h.queue taken
    rcases List.mem_cons.mp ((queue.mem_iff i).mpr ⟨t, ht, rfl, needs⟩) with rfl | mem
    · exact ⟨waiting, rfl, queue⟩
    · exact absurd ⟨waiting, taken, mem⟩ handed

/-- A task that is about to create its file does not wait. -/
theorem not_waits_of_creating {t : Task} {project : String} (h : Locked tasks locks)
    (ht : tasks[i]? = some t) (stage : t.stage = .creating project) : ¬ locks.Waits i t := by
  rintro ⟨waiting, taken, mem⟩
  obtain ⟨holder, queue⟩ := h.queue taken
  obtain ⟨t', ht', queued⟩ := queue.queued i mem
  obtain rfl : t = t' := Option.some.inj (ht.symm.trans ht')
  rw [stage] at queued
  cases queued

/-- **Mutual exclusion.** Two tasks that are about to create files of one name are one. -/
theorem creating_unique {t u : Task} {p q : String} (h : Locked tasks locks)
    (ht : tasks[i]? = some t) (hu : tasks[j]? = some u) (same : t.lock = u.lock)
    (hp : t.stage = .creating p) (hq : u.stage = .creating q) : i = j := by
  obtain ⟨w, taken, qi⟩ := h.queue_of_asks ht (by simp [hp, Stage.needsLock])
    (h.not_waits_of_creating ht hp)
  have mem : j ∈ i :: w :=
    (qi.mem_iff j).mpr ⟨u, hu, same.symm, by simp [hq, Stage.needsLock]⟩
  rcases List.mem_cons.mp mem with rfl | mem
  · rfl
  · exact absurd ⟨w, same ▸ taken, mem⟩ (h.not_waits_of_creating hu hq)

/-- **Progress.** If a task is not done, some task may go on. -/
theorem exists_mayGo {r : Round} {t : Task} (h : Locked r.tasks r.locks)
    (ht : r.tasks[i]? = some t) (unfinished : ∀ result, t.stage ≠ .finished result) :
    ∃ j, r.MayGo j := by
  by_cases waits : Locks.Waits r.locks i t
  · -- the holder of the lock that the task waits for may go on
    obtain ⟨waiting, taken, -⟩ := waits
    obtain ⟨holder, queue⟩ := h.queue taken
    obtain ⟨u, hu, hlock, needs⟩ := (queue.mem_iff holder).mp List.mem_cons_self
    refine ⟨holder, u, hu, ?_, ?_⟩
    · intro result done
      rw [done] at needs
      cases needs
    · rintro - ⟨waiting', taken', mem⟩
      rw [hlock, taken] at taken'
      obtain rfl := Option.some.inj taken'
      exact (List.nodup_cons.mp queue.nodup).1 mem
  · exact ⟨i, t, ht, unfinished, fun _ => waits⟩

/-- At the start no lock is held. -/
theorem start (review : Review) (patches : List Patch) :
    Locked (Round.start review patches).tasks (Round.start review patches).locks := by
  intro lock
  show ∀ i, ¬ Asks _ lock i
  rintro i ⟨t, ht, -, needs⟩
  obtain ⟨p, -, rfl⟩ := List.mem_map.mp (List.mem_of_getElem? ht)
  cases needs

end Locked

/-! ## What a stride does to its lock -/

/-- What a step of a task can do to the locks, with the stage it leads to and the tasks it frees. -/
inductive Locks.Move (i : ℕ) (t : Task) (locks : Locks) : Locks → Stage → List ℕ → Prop
  /-- The task waits for a lock that is held. -/
  | wait {waiting} (stage : t.stage = .fresh)
      (taken : Entries.lookup t.lock locks = some waiting) :
      Move i t locks (Entries.store t.lock (waiting ++ [i]) locks) .queued []
  /-- The task holds its lock from now on. -/
  | hold {held project} (takes : Takes t locks held) : Move i t locks held (.creating project) []
  /-- The task gives its lock back, which it has just taken or held before. -/
  | leave {held s} (takes : Takes t locks held ∨ (∃ p, t.stage = .creating p) ∧ held = locks)
      (free : s.needsLock = false) :
      Move i t locks (held.handOver t.lock) s (held.successor t.lock)
  /-- The task has nothing to do with locks. -/
  | apart {s} (before : t.stage.needsLock = false) (free : s.needsLock = false) :
      Move i t locks locks s []

/-- A task that types needs no lock. -/
theorem Begins.needsLock {file : Project.File} {n : ℕ} {size : ℤ} {s : Stage}
    (h : Begins file n size s) : s.needsLock = false := by
  cases h <;> rfl

/-- What a step does to the locks. -/
theorem Stride.move {i : ℕ} {t : Task} {v : Review} {locks : Locks} {e : Effect}
    (h : Stride i t v locks e) : Locks.Move i t locks e.locks e.stage e.freed := by
  cases h with
  | wait stage taken => exact .wait stage taken
  | find takes _ begins => exact .leave (.inl takes) begins.needsLock
  | claim takes _ _ => exact .hold takes
  | orphan takes _ _ => exact .leave (.inl takes) rfl
  | create stage _ begins => exact .leave (.inr ⟨⟨_, stage⟩, rfl⟩) begins.needsLock
  | createFailed stage _ => exact .leave (.inr ⟨⟨_, stage⟩, rfl⟩) rfl
  | type stage | typed stage | update stage _ _ | updateOrphan stage _ _ | updateFailed stage _
  | list stage _ | listFailed stage _ =>
    exact .apart (by simp [stage, Stage.needsLock]) rfl

/-! ## Strides keep the queues -/

section Restage

variable {tasks : List Task} {i j : ℕ} {t : Task} {lock : String} {s : Stage}

/-- A step asks for no other lock. -/
theorem asks_restage_of_ne (ht : tasks[i]? = some t) (h : lock ≠ t.lock) :
    Asks (restage i s tasks) lock j ↔ Asks tasks lock j := by
  by_cases hj : j = i
  · subst hj
    rw [asks_iff ht, asks_iff (getElem?_restage_self ht s)]
    exact iff_of_false (fun asks => h asks.1.symm) fun asks => h asks.1.symm
  · simp only [Asks, getElem?_restage_of_ne hj]

/-- Whether a task asks for its lock depends on its new stage. -/
theorem asks_restage_self (ht : tasks[i]? = some t) :
    Asks (restage i s tasks) t.lock i ↔ s.needsLock = true := by
  rw [asks_iff (getElem?_restage_self ht s)]
  exact and_iff_right rfl

/-- The other tasks ask for what they asked for. -/
theorem asks_restage_of_index_ne (h : j ≠ i) :
    Asks (restage i s tasks) lock j ↔ Asks tasks lock j := by
  simp only [Asks, getElem?_restage_of_ne h]

/-- Those that wait still wait after a step of a task that does not. -/
theorem Queue.queued_restage {holder : ℕ} {waiting : List ℕ} (q : Queue tasks lock holder waiting)
    (outside : i ∉ waiting) (s : Stage) :
    ∀ j ∈ waiting, ∃ u, (restage i s tasks)[j]? = some u ∧ u.stage = .queued := by
  intro j mem
  have hj : j ≠ i := fun h => outside (h ▸ mem)
  rw [getElem?_restage_of_ne hj]
  exact q.queued j mem

/-- A step of a task leaves the queue of every other lock as it is. -/
theorem Queue.restage_of_ne {holder : ℕ} {waiting : List ℕ} (q : Queue tasks lock holder waiting)
    (ht : tasks[i]? = some t) (h : lock ≠ t.lock) :
    Queue (restage i s tasks) lock holder waiting := by
  have outside : i ∉ waiting := fun mem =>
    h ((asks_iff ht).mp ((q.mem_iff i).mp (List.mem_cons_of_mem _ mem))).1.symm
  exact ⟨q.nodup, fun j => (q.mem_iff j).trans (asks_restage_of_ne ht h).symm,
    q.queued_restage outside s⟩

end Restage

namespace Locked

variable {tasks : List Task} {locks locks' held : Locks} {i : ℕ} {t : Task} {s : Stage}

/-- What a step of a task does to the locks is seen at the lock of the task alone. -/
theorem restage (h : Locked tasks locks) (ht : tasks[i]? = some t)
    (others : ∀ lock, lock ≠ t.lock → Entries.lookup lock locks' = Entries.lookup lock locks)
    (own : match Entries.lookup t.lock locks' with
      | none => ∀ j, ¬ Asks (restage i s tasks) t.lock j
      | some waiting => ∃ holder, Queue (Review.restage i s tasks) t.lock holder waiting) :
    Locked (Review.restage i s tasks) locks' := by
  intro lock
  by_cases hl : lock = t.lock
  · subst hl
    exact own
  · rw [others lock hl]
    have hold := h lock
    split at hold
    · next free => exact fun j asks => hold j ((asks_restage_of_ne ht hl).mp asks)
    · next waiting taken =>
      obtain ⟨holder, q⟩ := hold
      exact ⟨holder, q.restage_of_ne ht hl⟩

/-- Before a task takes its lock no other task asks for it, and after it none but itself. -/
theorem takes (h : Locked tasks locks) (ht : tasks[i]? = some t)
    (go : t.stage = .queued → ¬ locks.Waits i t) (takes : Takes t locks held) (project : String) :
    Locked (Review.restage i (.creating project) tasks) held := by
  cases takes with
  | free stage free =>
    refine h.restage ht (fun lock hl => Entries.lookup_store_of_ne _ _ hl) ?_
    rw [Entries.lookup_store_self]
    refine ⟨i, List.nodup_singleton i, fun j => ?_, by simp⟩
    rw [List.mem_singleton]
    by_cases hj : j = i
    · subst hj
      exact iff_of_true rfl ((asks_restage_self ht).mpr rfl)
    · rw [asks_restage_of_index_ne hj]
      exact iff_of_false hj (h.not_asks free j)
  | handed stage =>
    -- the task was handed the lock, so it stands at the front of the queue already
    obtain ⟨waiting, taken, q⟩ := h.queue_of_asks ht (by simp [stage, Stage.needsLock]) (go stage)
    refine h.restage ht (fun _ _ => rfl) ?_
    rw [taken]
    refine ⟨i, q.nodup, fun j => ?_, q.queued_restage (List.nodup_cons.mp q.nodup).1 _⟩
    by_cases hj : j = i
    · subst hj
      exact iff_of_true List.mem_cons_self ((asks_restage_self ht).mpr rfl)
    · rw [asks_restage_of_index_ne hj]
      exact q.mem_iff j

/-- The holder of a lock gives it back: the first waiter holds it, or nobody asks for it. -/
theorem leave (h : Locked tasks locks) (ht : tasks[i]? = some t)
    (needs : t.stage.needsLock = true) (handed : ¬ locks.Waits i t) (free : s.needsLock = false) :
    Locked (Review.restage i s tasks) (locks.handOver t.lock) := by
  obtain ⟨waiting, taken, q⟩ := h.queue_of_asks ht needs handed
  refine h.restage ht (fun lock hl => Locks.lookup_handOver_of_ne locks hl) ?_
  -- those that still ask are those that waited
  have asks : ∀ j, Asks (Review.restage i s tasks) t.lock j ↔ j ∈ waiting := by
    intro j
    by_cases hj : j = i
    · subst hj
      rw [asks_restage_self ht, free]
      exact iff_of_false (by simp) (List.nodup_cons.mp q.nodup).1
    · rw [asks_restage_of_index_ne hj, ← q.mem_iff j, List.mem_cons, or_iff_right hj]
  rw [Locks.lookup_handOver_self, taken]
  have queued := q.queued_restage (List.nodup_cons.mp q.nodup).1 s
  cases waiting with
  | nil => exact fun j => by simp [asks j]
  | cons next waiting =>
    exact ⟨next, (List.nodup_cons.mp q.nodup).2, fun j => (asks j).symm,
      fun j mem => queued j (List.mem_cons_of_mem _ mem)⟩

/-- A task waits for a lock that is held. -/
theorem wait {waiting : List ℕ} (h : Locked tasks locks) (ht : tasks[i]? = some t)
    (stage : t.stage = .fresh) (taken : Entries.lookup t.lock locks = some waiting) :
    Locked (Review.restage i .queued tasks) (Entries.store t.lock (waiting ++ [i]) locks) := by
  obtain ⟨holder, q⟩ := h.queue taken
  have outside : i ∉ holder :: waiting := by
    rw [q.mem_iff i, asks_iff ht, stage]
    exact fun asks => nomatch asks.2
  refine h.restage ht (fun lock hl => Entries.lookup_store_of_ne _ _ hl) ?_
  rw [Entries.lookup_store_self]
  refine ⟨holder, ?_, fun j => ?_, fun j mem => ?_⟩
  · rw [← List.cons_append]
    exact List.nodup_append.mpr ⟨q.nodup, List.nodup_singleton i, by
      rintro j mem k hk rfl
      exact outside (List.mem_singleton.mp hk ▸ mem)⟩
  · rw [← List.cons_append, List.mem_append, List.mem_singleton, q.mem_iff j]
    by_cases hj : j = i
    · subst hj
      exact iff_of_true (.inr rfl) ((asks_restage_self ht).mpr rfl)
    · rw [asks_restage_of_index_ne hj, or_iff_left hj]
  · rcases List.mem_append.mp mem with before | new
    · exact q.queued_restage (fun h => outside (List.mem_cons_of_mem _ h)) _ j before
    · obtain rfl := List.mem_singleton.mp new
      exact ⟨_, getElem?_restage_self ht _, rfl⟩

/-- A task takes a step without asking for its lock before or after it. -/
theorem apart (h : Locked tasks locks) (ht : tasks[i]? = some t)
    (before : t.stage.needsLock = false) (free : s.needsLock = false) :
    Locked (Review.restage i s tasks) locks := by
  refine h.restage ht (fun _ _ => rfl) ?_
  have unasked : ¬ Asks tasks t.lock i := by
    rw [asks_iff ht, before]
    exact fun asks => nomatch asks.2
  have asks : ∀ j, Asks (Review.restage i s tasks) t.lock j ↔ Asks tasks t.lock j := by
    intro j
    by_cases hj : j = i
    · subst hj
      rw [asks_restage_self ht, free]
      exact iff_of_false nofun unasked
    · exact asks_restage_of_index_ne hj
  have hold := h t.lock
  split at hold
  · next none =>
    intro j
    rw [asks]
    exact hold j
  · next waiting taken =>
    obtain ⟨holder, q⟩ := hold
    refine ⟨holder, q.nodup, fun j => (q.mem_iff j).trans (asks j).symm,
      q.queued_restage (fun mem => unasked ?_) s⟩
    exact (q.mem_iff i).mp (List.mem_cons_of_mem _ mem)

/-- Every step of a task that may go on keeps the queues. -/
theorem move {freed : List ℕ} (h : Locked tasks locks) (ht : tasks[i]? = some t)
    (go : t.stage = .queued → ¬ locks.Waits i t) (m : Locks.Move i t locks locks' s freed) :
    Locked (Review.restage i s tasks) locks' := by
  cases m with
  | wait stage taken => exact h.wait ht stage taken
  | hold takes => exact h.takes ht go takes _
  | leave takes free =>
    rcases takes with takes | ⟨⟨p, stage⟩, rfl⟩
    · -- the task takes the lock and gives it back in one step
      have hheld := h.takes ht go takes ""
      have ht' := getElem?_restage_self ht (.creating "")
      have := hheld.leave ht' rfl (hheld.not_waits_of_creating ht' rfl) free
      rwa [Review.restage, Review.restage, List.modify_modify_eq] at this
    · exact h.leave ht (by simp [stage, Stage.needsLock]) (h.not_waits_of_creating ht stage) free
  | apart before free => exact h.apart ht before free

end Locked

end Workbench.Review
