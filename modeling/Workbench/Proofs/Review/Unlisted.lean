import Workbench.Proofs.Review.Listing
import Workbench.Proofs.Review.Serial

/-!
# What a round leaves unlisted

A patch for a new file creates it, updates it, and only then lists the files. If the store refuses
the update, nothing is listed: the empty file is there and is cached, but whoever follows the
listings does not hear of it. The store may refuse anything here but a listing.

Between two strides of a round the cached files are those of the store, unless a task is about to
list them; and they are those that were listed last, followed by empty files of patches that were
not applied (`Trails`). At the end of the round the patches of these files have failed
(`Interleaving.unlisted`).
-/

namespace Workbench

open Project (File Memory Store)

namespace Project.Memory

variable {m m' : Memory} {e : Failure} {file : File} {project name content language id : String}

/-- A call that fails changes no file. -/
theorem held_of_create_error (h : (m.create project name content language).1 = .error e) :
    (m.perform (.create project name content language)).held = m.held := by
  rw [perform]
  rcases create_cases m project name content language with ⟨e', -, h'⟩ | h'
  · rw [h']
    rfl
  · rw [h'] at h
    cases h

/-- A refused write changes no file. -/
theorem held_of_update_error (h : (m.update id content).1 = .error e) :
    (m.perform (.update id content)).held = m.held := by
  rw [perform]
  rcases update_cases m id content with ⟨e', h'⟩ | h'
  · rw [h']
    rfl
  · rw [h'] at h
    cases h

/-- A file is created with its content. -/
theorem content_of_create (h : (m.create project name content language).1 = .ok file) :
    file.content = content := by
  rcases create_cases m project name content language with ⟨e', -, h'⟩ | h'
  · rw [h'] at h
    cases h
  · rw [h'] at h
    obtain rfl := Except.ok.inj h
    rfl

/-- A file that was created is listed last. -/
theorem Creation.listing_eq (c : Creation m project name file m') :
    m'.listing project = m.listing project ++ [file] := by
  unfold listing
  rw [c.held_eq]
  simp

end Project.Memory

namespace Review

section Stride

variable {i : ℕ} {t : Task} {v : Review} {locks : Locks} {e : Effect} {m : Memory}
variable {project : String}

/-- What a stride does to the files of the open project. -/
inductive Handles (project : String) (m : Memory) (v : Review) (t : Task) (e : Effect) : Prop
  /-- It leaves them, or adds an empty one for its patch. -/
  | add (m' : Memory) (new : List File) (store_eq : e.review.store = .memory m')
      (listing_eq : m'.listing project = m.listing project ++ new)
      (files_eq : e.review.files = v.files ++ new)
      (announced_eq : e.review.announced = v.announced)
      (empty : ∀ f ∈ new, f.content = "" ∧ t.patch.fileName = f.name)
      (other : t.stage.isListing = false)
      (unapplied : Task.isApplied { t with stage := e.stage } = false)
  /-- It changes one, and is about to list them. -/
  | write (files_eq : e.review.files = v.files) (announced_eq : e.review.announced = v.announced)
      (listing : e.stage.isListing = true)
      (unapplied : Task.isApplied { t with stage := e.stage } = false)
  /-- It lists them. -/
  | list (m' : Memory) (store_eq : e.review.store = .memory m')
      (files_eq : e.review.files = m'.listing project)
      (announced_eq : e.review.announced = v.announced ++ [e.review.files])

/-- A stride that changes nothing but the log of the store. -/
theorem Handles.keep (m' : Memory) (store_eq : e.review.store = .memory m')
    (held : m'.held = m.held) (files_eq : e.review.files = v.files)
    (announced_eq : e.review.announced = v.announced) (other : t.stage.isListing = false)
    (unapplied : Task.isApplied { t with stage := e.stage } = false) : Handles project m v t e := by
  refine .add m' [] store_eq ?_ ?_ announced_eq nofun other unapplied
  · rw [List.append_nil, Memory.listing_congr held]
  · rw [List.append_nil, files_eq]

/-- What a step does with the files, one case for each stage. -/
theorem Stride.handles (h : Stride i t v locks e) (store_eq : v.store = .memory m)
    (readable : m.Readable) (opened : v.project = some project)
    (own : ∀ p, t.stage.project? = some p → v.project = some p) : Handles project m v t e := by
  cases h with
  | wait stage _ => exact .keep m store_eq rfl rfl rfl (by simp [stage, Stage.isListing]) rfl
  | find takes _ begins =>
    exact .keep m store_eq rfl rfl rfl takes.isListing_eq_false (begins.isApplied_eq_false t.patch)
  | claim takes _ _ | orphan takes _ _ =>
    exact .keep m store_eq rfl rfl rfl takes.isListing_eq_false rfl
  | @create p file store s stage created begins =>
    obtain rfl : project = p :=
      Option.some.inj (opened.symm.trans (own p (by rw [stage]; rfl)))
    obtain ⟨answer, rfl⟩ := Memory.of_create store_eq created
    have creation := Memory.creation_of_create answer
    refine .add _ [file] rfl creation.listing_eq rfl rfl ?_ (by simp [stage, Stage.isListing])
      (begins.isApplied_eq_false t.patch)
    intro f hf
    rw [List.mem_singleton.mp hf]
    exact ⟨Memory.content_of_create answer, creation.named.symm⟩
  | createFailed stage refused =>
    obtain ⟨answer, rfl⟩ := Memory.of_create store_eq refused
    exact .keep _ rfl (Memory.held_of_create_error answer) rfl rfl
      (by simp [stage, Stage.isListing]) rfl
  | type stage | typed stage =>
    exact .keep m store_eq rfl rfl rfl (by simp [stage, Stage.isListing]) rfl
  | update _ _ _ => exact .write rfl rfl rfl rfl
  | updateOrphan _ _ closed =>
    rw [opened] at closed
    cases closed
  | updateFailed stage refused =>
    obtain ⟨answer, rfl⟩ := Memory.of_update store_eq refused
    exact .keep _ rfl (Memory.held_of_update_error answer) rfl rfl
      (by simp [stage, Stage.isListing]) rfl
  | @list file p files store stage listed =>
    obtain rfl : project = p :=
      Option.some.inj (opened.symm.trans (own p (by rw [stage]; rfl)))
    obtain ⟨answer, rfl⟩ := Memory.of_list store_eq listed
    refine .list _ rfl ?_ rfl
    rw [Memory.listing_perform_list]
    exact Memory.listing_of_list answer
  | listFailed stage refused =>
    rw [store_eq, Store.list, Memory.list_of_readable readable] at refused
    cases refused

end Stride

/-! ## A whole round -/

section Round

variable {project : String} {before : List File} {v : Review} {tasks : List Task} {i n : ℕ}
variable {t : Task} {s : Stage} {locks : Locks} {e : Effect} {patches : List Patch} {r : Round}

/-- A file that was to be filled by a patch that was not applied so far. -/
def Unfilled (tasks : List Task) (f : File) : Prop :=
  f.content = "" ∧ ∃ t ∈ tasks, t.patch.fileName = f.name ∧ t.isApplied = false

/-- A file that waits for its content waits on while no task is done. -/
theorem Unfilled.restage {f : File} (h : Unfilled tasks f) (ht : tasks[i]? = some t)
    (unapplied : Task.isApplied { t with stage := s } = false) :
    Unfilled (Review.restage i s tasks) f := by
  obtain ⟨empty, u, hu, named, open'⟩ := h
  refine ⟨empty, ?_⟩
  by_cases same : u = t
  · subst same
    exact ⟨_, self_mem_restage ht s, named, unapplied⟩
  · exact ⟨u, mem_restage_of_mem ht hu same, named, open'⟩

/-- What holds of the files between two strides, where `before` are the files at the start. -/
structure Trails (project : String) (before : List File) (v : Review) (tasks : List Task) :
    Prop where
  relayed : Relayed (some project) v tasks
  /-- The cached files are outdated only as long as somebody is about to ask for the files. -/
  current : (∃ t ∈ tasks, t.stage.isListing = true) ∨
    ∃ m, v.store = .memory m ∧ v.files = m.listing project
  unlisted : ∃ new, v.files = v.announced.getLast?.getD before ++ new ∧ ∀ f ∈ new, Unfilled tasks f

/-- The account of the cached files is kept by each step. -/
theorem Trails.stride (h : Trails project before v tasks) (ht : tasks[i]? = some t)
    (he : Stride i t v locks e) : Trails project before e.review (restage i e.stage tasks) := by
  obtain ⟨m, store_eq, readable⟩ := h.relayed.served
  have own : ∀ p, t.stage.project? = some p → v.project = some p := by
    intro p calls
    rw [h.relayed.project_eq]
    exact h.relayed.opened t (List.mem_of_getElem? ht) p calls
  have handles := he.handles store_eq readable h.relayed.project_eq own
  obtain ⟨new, files_eq, unfilled⟩ := h.unlisted
  refine ⟨h.relayed.stride ht he, ?_, ?_⟩
  · cases handles with
    | add m' more store_eq' listing_eq files_eq' _ _ other _ =>
      refine h.current.imp (exists_isListing_restage ht other e.stage) ?_
      rintro ⟨m₁, store_eq₁, current⟩
      obtain rfl := Store.memory.inj (store_eq.symm.trans store_eq₁)
      exact ⟨m', store_eq', by rw [files_eq', current, listing_eq]⟩
    | write _ _ listing _ => exact .inl ⟨_, self_mem_restage ht e.stage, listing⟩
    | list m' store_eq' files_eq' _ => exact .inr ⟨m', store_eq', files_eq'⟩
  · cases handles with
    | add _ more _ _ files_eq' announced_eq empty _ unapplied =>
      refine ⟨new ++ more, by rw [files_eq', announced_eq, files_eq, List.append_assoc], ?_⟩
      intro f hf
      rcases List.mem_append.mp hf with old | fresh
      · exact (unfilled f old).restage ht unapplied
      · exact ⟨(empty f fresh).1, _, self_mem_restage ht e.stage, (empty f fresh).2, unapplied⟩
    | write files_eq' announced_eq _ unapplied =>
      refine ⟨new, by rw [files_eq', announced_eq, files_eq], ?_⟩
      exact fun f hf => (unfilled f hf).restage ht unapplied
    | list _ _ _ announced_eq =>
      refine ⟨[], ?_, nofun⟩
      rw [announced_eq, List.getLast?_concat, Option.getD_some, List.append_nil]

/-- What is shown does not matter. -/
theorem Trails.bare_iff : Trails project before { v with editor := none, streaming := [] } tasks ↔
    Trails project before v tasks :=
  ⟨fun h => ⟨Relayed.bare_iff.mp h.relayed, h.current, h.unlisted⟩,
    fun h => ⟨Relayed.bare_iff.mpr h.relayed, h.current, h.unlisted⟩⟩

/-- **Only failed patches leave files unlisted.** When a round has ended that began with up-to-date
files, the cached files are those of the store; and they are those that were listed last, if any
were, followed by empty files of patches that failed. -/
theorem Interleaving.unlisted (h : Interleaving (.start v patches) n r) (ended : r.Ended)
    (served : v.Served) (opened : v.project = some project) (silent : v.announced = [])
    (current : ∃ m, v.store = .memory m ∧ v.files = m.listing project) :
    (∃ m, r.review.store = .memory m ∧ r.review.files = m.listing project) ∧
    ∃ new, r.review.files = r.review.announced.getLast?.getD v.files ++ new ∧
      ∀ f ∈ new, f.content = "" ∧
        ∃ t ∈ r.tasks, t.patch.fileName = f.name ∧ ∃ e, t.stage = .finished (.error e) := by
  have start : Trails project v.files v (Round.start v patches).tasks := by
    refine ⟨opened ▸ .start served patches, .inr current, [], ?_, nofun⟩
    rw [silent, List.append_nil]
    rfl
  have trails : Trails project v.files r.review r.tasks := by
    refine (keeps (P := fun r => Trails project v.files r.review r.tasks)
      (fun _ => Trails.bare_iff) (fun _ _ => Iff.rfl) start (.start v patches) ?_ h).1
    intro r i t e hr _ ht _ _ he
    exact hr.stride ht he
  have done : ∀ t ∈ r.tasks, ∃ result, t.stage = .finished result := fun t ht =>
    h.done_of_ended (.start v patches) ended ht
  refine ⟨trails.current.resolve_left ?_, ?_⟩
  · rintro ⟨t, ht, listing⟩
    obtain ⟨result, stage⟩ := done t ht
    rw [stage] at listing
    cases listing
  · obtain ⟨new, files_eq, unfilled⟩ := trails.unlisted
    refine ⟨new, files_eq, fun f hf => ?_⟩
    obtain ⟨empty, t, ht, named, unapplied⟩ := unfilled f hf
    obtain ⟨result, stage⟩ := done t ht
    refine ⟨empty, t, ht, named, ?_⟩
    cases result with
    | ok file =>
      rw [Task.isApplied, stage] at unapplied
      cases unapplied
    | error e => exact ⟨e, stage⟩

end Round

end Review

end Workbench
