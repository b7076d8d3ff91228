import Workbench.Proofs.Review.Interleaving

/-!
# The queue of a round

`Round.run` carries a round to its end in the order of a queue: a task has its turn, takes steps
until it types a piece of text, calls a slow store, waits or is done, and goes to the back of the
queue unless it waits or is done. `Round.start_run` says that this is one of the interleavings of
the round, and that the fuel of `Round.run` carries it to its end.

The queue holds exactly the tasks that may go on (`Scheduled`); while a task has its turn, all but
that one (`Queued`). A turn takes at least one step, so with each turn the work of the round becomes
less, and the fuel covers the work at the start.
-/

namespace Workbench.Review

/-- All tasks but one that may go on are in the queue, each once; nothing else is. -/
structure Queued (i : ℕ) (r : Round) : Prop where
  absent : i ∉ r.ready
  nodup : r.ready.Nodup
  mem_iff : ∀ j, j ≠ i → (j ∈ r.ready ↔ r.MayGo j)

/-- All tasks that may go on are in the queue, each once; nothing else is. -/
structure Scheduled (r : Round) : Prop where
  nodup : r.ready.Nodup
  mem_iff : ∀ j, j ∈ r.ready ↔ r.MayGo j

/-- The tasks that wait for a lock, in order. -/
def Locks.waiters (lock : String) (locks : Locks) : List ℕ :=
  (Entries.lookup lock locks).getD []

/-- A task waits if it is in the queue of its lock. -/
theorem Locks.waits_iff {locks : Locks} {i : ℕ} {t : Task} :
    locks.Waits i t ↔ i ∈ locks.waiters t.lock := by
  unfold Locks.Waits Locks.waiters
  cases Entries.lookup t.lock locks <;> simp

instance Locks.decidableWaits (locks : Locks) (i : ℕ) (t : Task) : Decidable (locks.Waits i t) :=
  decidable_of_iff _ waits_iff.symm

/-- A task may go on unless it is finished, or waits for its lock. -/
theorem Round.mayGo_iff {r : Round} {i : ℕ} {t : Task} (ht : r.tasks[i]? = some t) :
    r.MayGo i ↔ (∀ result, t.stage ≠ .finished result) ∧
      (t.stage = .queued → ¬ Locks.Waits r.locks i t) := by
  constructor
  · rintro ⟨u, hu, goes⟩
    obtain rfl : t = u := Option.some.inj (ht.symm.trans hu)
    exact goes
  · exact fun goes => ⟨t, ht, goes⟩

/-- Whether a task may go on can be told from where it stands. -/
instance Round.decidableMayGo (i : ℕ) (r : Round) : Decidable (r.MayGo i) :=
  match ht : r.tasks[i]? with
  | none => isFalse fun ⟨_, ht', _⟩ => nomatch ht.symm.trans ht'
  | some t =>
    match stage : t.stage with
    | .finished _ => isFalse (not_mayGo_of_finished ht stage)
    | .queued =>
      decidable_of_iff (¬ Locks.Waits r.locks i t) (by simp [mayGo_iff ht, stage])
    | .fresh | .creating _ | .typing _ _ | .updating _ | .listing _ _ =>
      isTrue ((mayGo_iff ht).mpr (by simp [stage]))

/-- Only tasks of the round may go on. -/
theorem Round.ended_iff {r : Round} : r.Ended ↔ ∀ i < r.tasks.length, ¬ r.MayGo i := by
  constructor
  · exact fun ended i _ => ended i
  · rintro none i go
    obtain ⟨t, ht, -⟩ := id go
    exact none i (List.getElem?_eq_some_iff.mp ht).1 go

instance Round.decidableEnded (r : Round) : Decidable r.Ended :=
  decidable_of_iff _ ended_iff.symm

/-- A queue is its first one and the others. -/
theorem Locks.waiters_eq_successor_append (lock : String) (locks : Locks) :
    locks.waiters lock = locks.successor lock ++ (locks.handOver lock).waiters lock := by
  unfold waiters
  rw [lookup_handOver_self]
  unfold successor
  cases Entries.lookup lock locks with
  | none => rfl
  | some waiting => cases waiting <;> rfl

/-- Taking a free lock changes no queue. -/
theorem Takes.waiters_eq {t : Task} {locks held : Locks} (h : Takes t locks held) :
    held.waiters t.lock = locks.waiters t.lock := by
  cases h with
  | free _ free => simp [Locks.waiters, free]
  | handed _ => rfl

/-- Taking a lock leaves the others alone. -/
theorem Takes.lookup_of_ne {t : Task} {locks held : Locks} (h : Takes t locks held)
    {lock : String} (hl : lock ≠ t.lock) :
    Entries.lookup lock held = Entries.lookup lock locks := by
  cases h with
  | free _ _ => exact Entries.lookup_store_of_ne _ _ hl
  | handed _ => rfl

namespace Locks.Move

variable {tasks : List Task} {locks locks' : Locks} {i j : ℕ} {t u : Task} {s : Stage}
  {freed : List ℕ}

/-- A step adds its task to the waiters of its lock, or frees some of them from the front. -/
theorem waiters_eq (m : Locks.Move i t locks locks' s freed) :
    (s = .queued ∧ freed = [] ∧ locks'.waiters t.lock = locks.waiters t.lock ++ [i]) ∨
      (s ≠ .queued ∧ locks.waiters t.lock = freed ++ locks'.waiters t.lock) := by
  cases m with
  | wait _ taken =>
    refine .inl ⟨rfl, rfl, ?_⟩
    simp [waiters, taken]
  | hold takes => exact .inr ⟨by simp, takes.waiters_eq.symm⟩
  | @leave held _ takes free =>
    refine .inr ⟨fun queued => by simp [queued, Stage.needsLock] at free, ?_⟩
    rw [← waiters_eq_successor_append]
    rcases takes with takes | ⟨-, rfl⟩
    · exact takes.waiters_eq.symm
    · rfl
  | apart _ free => exact .inr ⟨fun queued => by simp [queued, Stage.needsLock] at free, rfl⟩

/-- The locks of other names have the waiters that they had. -/
theorem waiters_of_ne (m : Locks.Move i t locks locks' s freed) {lock : String}
    (h : lock ≠ t.lock) : locks'.waiters lock = locks.waiters lock := by
  unfold waiters
  congr 1
  cases m with
  | wait _ _ => exact Entries.lookup_store_of_ne _ _ h
  | hold takes => exact takes.lookup_of_ne h
  | leave takes _ =>
    rw [Locks.lookup_handOver_of_ne _ h]
    rcases takes with takes | ⟨-, rfl⟩
    · exact takes.lookup_of_ne h
    · rfl
  | apart _ _ => rfl

end Locks.Move

/-- Nobody waits twice. -/
theorem Locked.nodup_waiters {tasks : List Task} {locks : Locks} (h : Locked tasks locks)
    (lock : String) : (locks.waiters lock).Nodup := by
  unfold Locks.waiters
  cases taken : Entries.lookup lock locks with
  | none => exact List.nodup_nil
  | some waiting =>
    obtain ⟨holder, q⟩ := h.queue taken
    exact (List.nodup_cons.mp q.nodup).2

/-- A task waits for its own lock. -/
theorem Locked.of_mem_waiters {tasks : List Task} {locks : Locks} (h : Locked tasks locks)
    (lock : String) {i : ℕ} (mem : i ∈ locks.waiters lock) :
    ∃ t, tasks[i]? = some t ∧ t.lock = lock ∧ t.stage = .queued := by
  unfold Locks.waiters at mem
  cases taken : Entries.lookup lock locks with
  | none => simp [taken] at mem
  | some waiting =>
    rw [taken] at mem
    obtain ⟨holder, q⟩ := h.queue taken
    obtain ⟨t, ht, hlock, -⟩ := (q.mem_iff i).mp (List.mem_cons_of_mem _ mem)
    obtain ⟨t', ht', queued⟩ := q.queued i mem
    obtain rfl : t = t' := Option.some.inj (ht.symm.trans ht')
    exact ⟨t, ht, hlock, queued⟩

namespace Locks.Move

variable {tasks : List Task} {locks locks' : Locks} {i j : ℕ} {t u : Task} {s : Stage}
  {freed : List ℕ}

/-- The tasks that a step frees waited for its lock, and do not wait any more. -/
theorem freed_waiting (m : Locks.Move i t locks locks' s freed) (locked : Locked tasks locks)
    (mem : j ∈ freed) : j ∈ locks.waiters t.lock ∧ j ∉ locks'.waiters t.lock := by
  rcases m.waiters_eq with ⟨-, hfreed, -⟩ | ⟨-, hw⟩
  · simp [hfreed] at mem
  · have nodup := locked.nodup_waiters t.lock
    rw [hw] at nodup ⊢
    have apart := (List.nodup_append.mp nodup).2.2
    exact ⟨List.mem_append_left _ mem, fun mem' => apart j mem j mem' rfl⟩

/-- A step frees nobody twice. -/
theorem nodup_freed (m : Locks.Move i t locks locks' s freed) (locked : Locked tasks locks) :
    freed.Nodup := by
  rcases m.waiters_eq with ⟨-, hfreed, -⟩ | ⟨-, hw⟩
  · simp [hfreed]
  · have nodup := locked.nodup_waiters t.lock
    rw [hw] at nodup
    exact (List.nodup_append.mp nodup).1

/-- Another task waits after a step iff it did before and was not freed. -/
theorem mem_waiters_iff (m : Locks.Move i t locks locks' s freed) (locked : Locked tasks locks)
    (hu : tasks[j]? = some u) (hj : j ≠ i) :
    j ∈ locks'.waiters u.lock ↔ j ∈ locks.waiters u.lock ∧ j ∉ freed := by
  by_cases hl : u.lock = t.lock
  · rw [hl]
    constructor
    · intro mem
      refine ⟨?_, fun mem' => (m.freed_waiting locked mem').2 mem⟩
      rcases m.waiters_eq with ⟨-, -, hw⟩ | ⟨-, hw⟩
      · simpa [hw, hj] using mem
      · exact hw ▸ List.mem_append_right _ mem
    · rintro ⟨mem, absent⟩
      rcases m.waiters_eq with ⟨-, -, hw⟩ | ⟨-, hw⟩
      · exact hw ▸ List.mem_append_left _ mem
      · rw [hw, List.mem_append] at mem
        exact mem.resolve_left absent
  · rw [m.waiters_of_ne hl]
    refine (and_iff_left fun mem => hl ?_).symm
    obtain ⟨u', hu', hlock, -⟩ := locked.of_mem_waiters _ (m.freed_waiting locked mem).1
    obtain rfl : u = u' := Option.some.inj (hu.symm.trans hu')
    exact hlock

end Locks.Move

section Turn

variable {r r' : Round} {i j : ℕ} {t : Task} {e : Effect}

/-- A step of a task that may go on frees others. -/
theorem not_mem_freed (locked : Locked r.tasks r.locks) (ht : r.tasks[i]? = some t)
    (handed : t.stage = .queued → ¬ Locks.Waits r.locks i t)
    (m : Locks.Move i t r.locks e.locks e.stage e.freed) : i ∉ e.freed := by
  intro mem
  have waiting := (m.freed_waiting locked mem).1
  obtain ⟨u, hu, -, queued⟩ := locked.of_mem_waiters _ waiting
  obtain rfl : t = u := Option.some.inj (ht.symm.trans hu)
  exact handed queued (Locks.waits_iff.mpr waiting)

/-- After a step another task may go on iff it could before or was freed by the step. -/
theorem mayGo_iff_of_ne (locked : Locked r.tasks r.locks)
    (m : Locks.Move i t r.locks e.locks e.stage e.freed)
    (htasks : r'.tasks = restage i e.stage r.tasks) (hlocks : r'.locks = e.locks) (hj : j ≠ i) :
    r'.MayGo j ↔ r.MayGo j ∨ j ∈ e.freed := by
  unfold Round.MayGo
  rw [htasks, hlocks, getElem?_restage_of_ne hj]
  simp only [Locks.waits_iff]
  constructor
  · rintro ⟨u, hu, unfinished, handed⟩
    by_cases mem : j ∈ e.freed
    · exact .inr mem
    · refine .inl ⟨u, hu, unfinished, fun queued waiting => handed queued ?_⟩
      exact (m.mem_waiters_iff locked hu hj).mpr ⟨waiting, mem⟩
  · rintro (⟨u, hu, unfinished, handed⟩ | mem)
    · refine ⟨u, hu, unfinished, fun queued waiting => handed queued ?_⟩
      exact ((m.mem_waiters_iff locked hu hj).mp waiting).1
    · obtain ⟨u, hu, -, queued⟩ := locked.of_mem_waiters _ (m.freed_waiting locked mem).1
      refine ⟨u, hu, by simp [queued], fun _ waiting => ?_⟩
      exact ((m.mem_waiters_iff locked hu hj).mp waiting).2 mem

/-- While a task takes steps, the queue keeps all other tasks that may go on. -/
theorem Queued.after (q : Queued i r) (locked : Locked r.tasks r.locks)
    (ht : r.tasks[i]? = some t) (handed : t.stage = .queued → ¬ Locks.Waits r.locks i t)
    (m : Locks.Move i t r.locks e.locks e.stage e.freed)
    (h : r'.bare = (r.after i e).bare) : Queued i r' := by
  obtain ⟨htasks, hlocks, hready, -⟩ := Round.of_bare_eq_after h
  have others : i ∉ e.freed := not_mem_freed locked ht handed m
  refine ⟨?_, ?_, fun j hj => ?_⟩
  · rw [hready, List.mem_append]
    exact fun mem => mem.elim q.absent others
  · rw [hready]
    refine List.nodup_append.mpr ⟨q.nodup, m.nodup_freed locked, ?_⟩
    -- a task in the queue may go on, a task that is freed could not
    rintro j mem k hk rfl
    have hj : j ≠ i := fun h => others (h ▸ hk)
    have waiting := (m.freed_waiting locked hk).1
    obtain ⟨u, hu, -, handed'⟩ := (q.mem_iff j hj).mp mem
    obtain ⟨u', hu', hlock, queued⟩ := locked.of_mem_waiters _ waiting
    obtain rfl : u = u' := Option.some.inj (hu.symm.trans hu')
    exact handed' queued (Locks.waits_iff.mpr (hlock ▸ waiting))
  · rw [hready, List.mem_append, q.mem_iff j hj, mayGo_iff_of_ne locked m htasks hlocks hj]

/-- A task that has just begun to wait for its lock may not go on. -/
theorem not_mayGo_of_queued (ht : r.tasks[i]? = some t)
    (m : Locks.Move i t r.locks e.locks e.stage e.freed)
    (htasks : r'.tasks = restage i e.stage r.tasks) (hlocks : r'.locks = e.locks)
    (queued : e.stage = .queued) : ¬ r'.MayGo i := by
  rintro ⟨u, hu, -, handed⟩
  rw [htasks, getElem?_restage_self ht] at hu
  obtain rfl := Option.some.inj hu
  refine handed queued ?_
  rw [hlocks, Locks.waits_iff]
  rcases m.waiters_eq with ⟨-, -, hw⟩ | ⟨absurd', -⟩
  · exact hw ▸ List.mem_append_right _ (List.mem_singleton.mpr rfl)
  · exact absurd queued absurd'

end Turn

/-! ### Turns -/

/-- How many steps a task can take within a turn, at most. -/
def Stage.reach : Stage → ℕ
  | .fresh => 5
  | .queued => 4
  | .creating _ | .typing _ _ => 3
  | .updating _ => 2
  | .listing _ _ => 1
  | .finished _ => 0

/-- A task that types is close to its end. -/
theorem Begins.reach_le {file : Project.File} {n : ℕ} {size : ℤ} {s : Stage}
    (h : Begins file n size s) : s.reach ≤ 3 := by
  cases h <;> simp [Stage.reach]

/-- A task that takes a lock is further away. -/
theorem Takes.four_le_reach {t : Task} {locks held : Locks} (h : Takes t locks held) :
    4 ≤ t.stage.reach := by
  cases h with
  | free stage _ => simp [stage, Stage.reach]
  | handed stage => simp [stage, Stage.reach]

/-- A stride that does not stop at a piece of text brings its task closer to the end of its turn. -/
theorem Stride.reach_lt {i : ℕ} {t : Task} {v : Review} {locks : Locks} {e : Effect}
    (h : Stride i t v locks e) (typing : ∀ file frames, e.stage ≠ .typing file frames) :
    e.stage.reach < t.stage.reach := by
  cases h with
  | find takes _ begins => exact Nat.lt_of_le_of_lt begins.reach_le takes.four_le_reach
  | claim takes _ _ => exact takes.four_le_reach
  | orphan takes _ _ => exact Nat.lt_of_lt_of_le (by decide : 0 < 4) takes.four_le_reach
  | create stage _ begins =>
    cases begins with
    | typing _ => exact absurd rfl (typing _ _)
    | updating => simp [stage, Stage.reach]
    | refused _ => simp [stage, Stage.reach]
  | type _ => exact absurd rfl (typing _ _)
  | wait stage _ | createFailed stage _ | typed stage | update stage _ _ | updateOrphan stage _ _
  | updateFailed stage _ | list stage _ | listFailed stage _ => simp [stage, Stage.reach]

/-- No stride leads back to the start. -/
theorem Stride.stage_ne_fresh {i : ℕ} {t : Task} {v : Review} {locks : Locks} {e : Effect}
    (h : Stride i t v locks e) : e.stage ≠ .fresh := by
  cases h with
  | find _ _ begins | create _ _ begins => cases begins <;> simp
  | _ => simp

/-- A task that may go on is among the next ones. -/
theorem Scheduled.of_queued_of_mayGo {r : Round} {i : ℕ} (q : Queued i r) (go : r.MayGo i) :
    Scheduled { r with ready := r.ready ++ [i] } := by
  refine ⟨List.nodup_append.mpr ⟨q.nodup, List.nodup_singleton i, ?_⟩, fun j => ?_⟩
  · rintro j mem k hk rfl
    exact q.absent (List.mem_singleton.mp hk ▸ mem)
  · show j ∈ r.ready ++ [i] ↔ r.MayGo j
    rw [List.mem_append, List.mem_singleton]
    by_cases hj : j = i
    · subst hj
      exact iff_of_true (.inr rfl) go
    · rw [or_iff_left hj, q.mem_iff j hj]

/-- A task that may not is in nobody's way. -/
theorem Scheduled.of_queued_of_not_mayGo {r : Round} {i : ℕ} (q : Queued i r)
    (stays : ¬ r.MayGo i) : Scheduled r := by
  refine ⟨q.nodup, fun j => ?_⟩
  by_cases hj : j = i
  · subst hj
    exact iff_of_false q.absent stays
  · exact q.mem_iff j hj

namespace Round

/-- What a turn has led to: the queue holds all tasks that may go on, after at least one step. -/
def Turned (r r' : Round) : Prop :=
  Scheduled r' ∧ ∃ n, Interleaving r (n + 1) r'

/-- The task takes one step of its turn. -/
theorem advance_queued {i : ℕ} {r : Round} {t : Task} (q : Queued i r)
    (locked : Locked r.tasks r.locks) (ht : r.tasks[i]? = some t)
    (unfinished : ∀ result, t.stage ≠ .finished result)
    (handed : t.stage = .queued → ¬ Locks.Waits r.locks i t) :
    ∃ e, Stride i t r.review r.locks e ∧ Queued i (r.advance i) ∧
      (r.advance i).tasks[i]? = some { t with stage := e.stage } ∧
      Interleaving r 1 (r.advance i) ∧ (e.stage = .queued → ¬ (r.advance i).MayGo i) := by
  obtain ⟨e, he, heq⟩ := advance_eq_after ht unfinished
  obtain ⟨htasks, hlocks, -⟩ := of_bare_eq_after heq
  refine ⟨e, he, q.after locked ht handed he.move heq, ?_,
    .step i .start ⟨t, ht, unfinished, handed⟩, not_mayGo_of_queued ht he.move htasks hlocks⟩
  rw [htasks, getElem?_restage_self ht]

/-- A turn is an interleaving of at least one step, and leaves a queue of all tasks that may go
on. -/
theorem takeTurn_turned {i fuel : ℕ} {r : Round} {t : Task} (q : Queued i r)
    (locked : Locked r.tasks r.locks) (ht : r.tasks[i]? = some t)
    (unfinished : ∀ result, t.stage ≠ .finished result)
    (handed : t.stage = .queued → ¬ Locks.Waits r.locks i t) (enough : t.stage.reach ≤ fuel) :
    Turned r (r.takeTurn i fuel) := by
  induction fuel generalizing r t with
  | zero =>
    have : t.stage.reach ≠ 0 := by
      cases hs : t.stage with
      | finished result => exact absurd hs (unfinished result)
      | _ => simp [Stage.reach]
    omega
  | succ fuel ih =>
    obtain ⟨e, he, q', ht', step, stays⟩ := advance_queued q locked ht unfinished handed
    -- the task may go on: it goes to the back of the queue, or keeps its turn
    have yields (h : ∀ result, e.stage ≠ .finished result) (hq : e.stage ≠ .queued) :
        Turned r { r.advance i with ready := (r.advance i).ready ++ [i] } := by
      have go : (r.advance i).MayGo i := ⟨_, ht', h, fun queued => absurd queued hq⟩
      exact ⟨.of_queued_of_mayGo q' go, 0, .requeue _ step⟩
    have goesOn (h : ∀ result, e.stage ≠ .finished result) (hq : e.stage ≠ .queued)
        (typing : ∀ file frames, e.stage ≠ .typing file frames) :
        Turned r ((r.advance i).takeTurn i fuel) := by
      have hlt := he.reach_lt typing
      obtain ⟨scheduled, n, run⟩ := ih q' (step.locked locked) ht' h
        (fun queued => absurd queued hq) (show e.stage.reach ≤ fuel by omega)
      exact ⟨scheduled, 1 + n, step.trans run⟩
    rw [takeTurn]
    simp only [ht']
    cases hs : e.stage with
    | fresh => exact absurd hs he.stage_ne_fresh
    | queued => exact ⟨.of_queued_of_not_mayGo q' (stays hs), 0, step⟩
    | finished result =>
      exact ⟨.of_queued_of_not_mayGo q' (not_mayGo_of_finished ht' hs), 0, step⟩
    | typing file frames => exact yields (by simp [hs]) (by simp [hs])
    | creating _ | updating _ | listing _ _ =>
      simp only [turn]
      split
      · next hturn =>
        split at hturn
        · cases hturn
        · exact goesOn (by simp [hs]) (by simp [hs]) (by simp [hs])
      · exact yields (by simp [hs]) (by simp [hs])
      · next hturn => split at hturn <;> cases hturn

/-- With as much fuel as there is work, the queue is worked off to the end. -/
theorem drive_ended {fuel : ℕ} {r : Round} (scheduled : Scheduled r)
    (locked : Locked r.tasks r.locks) (enough : r.work ≤ fuel) :
    (r.drive fuel).Ended ∧ ∃ n, Interleaving r n (r.drive fuel) := by
  induction fuel generalizing r with
  | zero =>
    refine ⟨?_, 0, .start⟩
    rintro i ⟨t, ht, unfinished, -⟩
    have hle : t.work ≤ r.work := work_le_of_mem (List.mem_of_getElem? ht)
    have := Task.work_pos unfinished
    omega
  | succ fuel ih =>
    unfold drive
    cases hready : r.ready with
    | nil =>
      refine ⟨fun i go => ?_, 0, .start⟩
      have mem := (scheduled.mem_iff i).mpr go
      simp [hready] at mem
    | cons i ready =>
      have nodup := scheduled.nodup
      rw [hready, List.nodup_cons] at nodup
      obtain ⟨t, ht, unfinished, handed⟩ : r.MayGo i :=
        (scheduled.mem_iff i).mp (hready ▸ List.mem_cons_self)
      have q : Queued i { r with ready } := by
        refine ⟨nodup.1, nodup.2, fun j hj => ?_⟩
        show j ∈ ready ↔ r.MayGo j
        rw [← scheduled.mem_iff j, hready, List.mem_cons, or_iff_right hj]
      have reach : t.stage.reach ≤ turnLength := by
        cases t.stage <;> simp [Stage.reach, turnLength]
      obtain ⟨scheduled', n, run⟩ := takeTurn_turned q locked ht unfinished handed reach
      have lead : Interleaving r (n + 1) (Round.takeTurn i turnLength { r with ready }) := by
        simpa using (Interleaving.requeue ready .start).trans run
      have less := lead.steps_le
      obtain ⟨ended, m, rest⟩ := ih scheduled' (lead.locked locked) (by omega)
      exact ⟨ended, n + 1 + m, lead.trans rest⟩

/-- At the start every task is in the queue. -/
theorem start_scheduled (review : Review) (patches : List Patch) :
    Scheduled (start review patches) := by
  refine ⟨List.nodup_range, fun i => ?_⟩
  show i ∈ List.range patches.length ↔ _
  rw [List.mem_range]
  constructor
  · intro hi
    refine ⟨⟨patches[i], .fresh⟩, ?_, by simp, by simp⟩
    simp [start, hi]
  · rintro ⟨t, ht, -⟩
    have hi := (List.getElem?_eq_some_iff.mp ht).1
    simpa [start] using hi

/-- The fuel of a round covers its work. -/
theorem start_work_le (review : Review) (patches : List Patch) :
    (start review patches).work ≤
      (start review patches).tasks.foldr (fun t turns => turnsOf t.patch + turns) 0 := by
  unfold work start
  induction patches with
  | nil => simp
  | cons p patches ih =>
    have : Task.work ⟨p, .fresh⟩ ≤ turnsOf p := by
      simp only [Task.work, Stage.work, turnsOf]
      omega
    exact Nat.add_le_add this ih

/-- **The queue.** Carrying a round to its end in the order of its queue is an interleaving that has
ended. -/
theorem start_run (review : Review) (patches : List Patch) :
    (start review patches).run.Ended ∧
      ∃ n, Interleaving (start review patches) n (start review patches).run :=
  drive_ended (start_scheduled review patches) (Locked.start review patches)
    (start_work_le review patches)

end Round

/-- Applying a patch leaves the review of its round. -/
theorem apply_snd (p : Patch) (v : Review) : (v.apply p).2 = (Round.start v [p]).run.review := by
  unfold apply
  dsimp only
  split <;> rfl

/-- A patch that is applied alone has one result. -/
theorem Interleaving.exists_result {v : Review} {p : Patch} {n : ℕ} {r : Round}
    (h : Interleaving (.start v [p]) n r) (ended : r.Ended) : ∃ result, r.results = [result] := by
  obtain ⟨t, tasks_eq, -⟩ := List.map_eq_singleton_iff.mp h.map_patch_eq
  have ht : t ∈ r.tasks := tasks_eq ▸ List.mem_singleton_self t
  obtain ⟨result, stage⟩ := h.done_of_ended (.start v [p]) ended ht
  have own : t.result? = some result := by rw [Task.result?, stage]
  exact ⟨result, by rw [Round.results, tasks_eq, List.filterMap_cons_some own, List.filterMap_nil]⟩

/-- Applying a patch answers with the result of its round. -/
theorem exists_apply_eq (p : Patch) (v : Review) :
    ∃ n r result, Interleaving (.start v [p]) n r ∧ r.Ended ∧ r.results = [result] ∧
      v.apply p = (result, r.review) := by
  obtain ⟨ended, n, go⟩ := Round.start_run v [p]
  obtain ⟨result, results_eq⟩ := go.exists_result ended
  refine ⟨n, _, result, go, ended, results_eq, ?_⟩
  unfold apply
  dsimp only
  rw [results_eq]

end Workbench.Review
