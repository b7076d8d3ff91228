import Workbench.Proofs.Project.Granting
import Workbench.Proofs.Session.Resync
import Workbench.Proofs.Workspace.Opening

/-!
# Deleting all files of a project

The line that deletes all files deletes those that are cached, one after another, and stops at the
first that the store does not have. Then the files are listed again, whatever happened. So the
project is empty afterwards if the cached files are those that the store has (`rm_all_empties_iff`).
A file that another client has created stays, although the answer is that all went well; and a file
that another client has deleted keeps those behind it from being deleted.

`Memory.Removed` says what is deleted from the store, `Cleared` what becomes of the workspace, and
`Emptied` is what one would expect.
-/

namespace Workbench

open Project (File Memory Store)
open Session (Obstructed projectPath)

/-! ## The store -/

namespace Project.Memory

variable {m m' m'' : Memory} {removed : List File} {project : String}

/-- The files were deleted from the store `m`, each of them once. -/
structure Removed (m : Memory) (removed : List File) (m' : Memory) : Prop where
  distinct : (removed.map (·.id)).Nodup
  were_held : ∀ f ∈ removed, m.holds f.id = true
  held_eq : m'.held = m.held.filter fun e => e.2.id ∉ removed.map (·.id)

theorem Removed.nil (m : Memory) : Removed m [] m :=
  ⟨List.nodup_nil, nofun, (List.filter_eq_self.mpr fun _ _ => by simp).symm⟩

/-- A file that is deleted before others. -/
theorem Removed.cons {file : File} (held : m.holds file.id = true)
    (held_eq : m'.held = m.held.filter (·.2.id != file.id)) (h : Removed m' removed m'') :
    Removed m (file :: removed) m'' where
  distinct := by
    refine List.nodup_cons.mpr ⟨fun again => ?_, h.distinct⟩
    obtain ⟨f, hf, same⟩ := List.mem_map.mp again
    obtain ⟨e, he, hid⟩ := holds_iff.mp (h.were_held f hf)
    rw [held_eq] at he
    simpa [hid.trans same] using (List.mem_filter.mp he).2
  were_held f hf := by
    rcases List.mem_cons.mp hf with rfl | hf
    · exact held
    · obtain ⟨e, he, hid⟩ := holds_iff.mp (h.were_held f hf)
      exact holds_iff.mpr ⟨e, List.mem_of_mem_filter (held_eq ▸ he), hid⟩
  held_eq := by
    rw [h.held_eq, held_eq, List.filter_filter]
    refine List.filter_congr fun e _ => ?_
    by_cases same : e.2.id = file.id <;> simp [same]

/-- Refused calls and lists remove nothing. -/
theorem Removed.congr (h : Removed m removed m') (same : m'.Matches m'') : Removed m removed m'' :=
  ⟨h.distinct, h.were_held, same.held_eq.trans h.held_eq⟩

/-- What is left are the files that were not removed. -/
theorem Removed.mem_held_iff (h : Removed m removed m') {e : String × File} :
    e ∈ m'.held ↔ e ∈ m.held ∧ e.2.id ∉ removed.map (·.id) := by
  rw [h.held_eq, List.mem_filter, decide_eq_true_iff]

/-- So it is in each project. -/
theorem Removed.mem_listing_iff (h : Removed m removed m') {f : File} :
    f ∈ m'.listing project ↔ f ∈ m.listing project ∧ f.id ∉ removed.map (·.id) := by
  rw [listing_eq_filesOf, listing_eq_filesOf, mem_filesOf, mem_filesOf, h.mem_held_iff]

/-- So many files are gone. -/
theorem Removed.length_add (h : Removed m removed m') (sound : m.Sound) :
    m'.held.length + removed.length = m.held.length := by
  let gone (e : String × File) : Bool := e.2.id ∈ removed.map (·.id)
  have same : (removed.map (·.id)).Perm ((m.held.filter gone).map (·.2.id)) := by
    have distinct : ((m.held.filter gone).map (·.2.id)).Nodup :=
      sound.distinct.sublist (List.filter_sublist.map _)
    refine (List.perm_ext_iff_of_nodup h.distinct distinct).mpr fun id => ⟨fun mem => ?_, ?_⟩
    · obtain ⟨f, hf, rfl⟩ := List.mem_map.mp mem
      obtain ⟨e, he, hid⟩ := holds_iff.mp (h.were_held f hf)
      have there : gone e = true := decide_eq_true (hid ▸ mem)
      exact List.mem_map.mpr ⟨e, List.mem_filter.mpr ⟨he, there⟩, hid⟩
    · rintro mem
      obtain ⟨e, he, rfl⟩ := List.mem_map.mp mem
      exact of_decide_eq_true (List.mem_filter.mp he).2
  have length_eq := same.length_eq
  rw [List.length_map, List.length_map] at length_eq
  have kept : m'.held = m.held.filter (!gone ·) := by
    rw [h.held_eq]
    exact List.filter_congr fun e _ => decide_not
  rw [kept, length_eq, Nat.add_comm]
  exact (List.length_eq_length_filter_add gone).symm

end Project.Memory

namespace Workspace

/-- Why a deletion stops at the first of the files that are left. -/
def halted : List File → Except Failure Unit
  | [] => .ok ()
  | file :: _ => .error (.noFile file.id)

/-- **Deleting files one after another**, if no call is refused: those are deleted that come before
the first that the store does not have. -/
theorem exists_removed (m : Memory) (files : List File) :
    ∃ sent, (deleteFiles files (.memory m)).2 = .memory (m.replay sent) ∧
      (m.Grants sent → ∃ removed rest, files = removed ++ rest ∧
        Memory.Removed m removed (m.replay sent) ∧
        (deleteFiles files (.memory m)).1 = halted rest ∧
        ∀ f ∈ rest.head?, (m.replay sent).holds f.id = false) := by
  induction files generalizing m with
  | nil => exact ⟨[], rfl, fun _ => ⟨[], [], rfl, .nil m, rfl, nofun⟩⟩
  | cons file files ih =>
    unfold deleteFiles
    rw [Memory.delete_memory]
    rcases m.delete_turn file.id with ⟨e, refused, answer⟩ | ⟨held, answer, held_eq⟩ |
      ⟨missing, answer, same⟩ <;> rw [answer]
    · exact ⟨[.delete file.id], rfl, fun granted => absurd granted.1 refused⟩
    · obtain ⟨sent, store_eq, granted⟩ := ih (m.perform (.delete file.id))
      refine ⟨.delete file.id :: sent, store_eq, fun grants => ?_⟩
      obtain ⟨removed, rest, split, gone, answer, stopped⟩ := granted grants.2
      exact ⟨file :: removed, rest, congrArg _ split, .cons held held_eq gone, answer, stopped⟩
    · refine ⟨[.delete file.id], rfl, fun _ => ⟨[], file :: files, rfl, ?_, rfl, ?_⟩⟩
      · exact (Memory.Removed.nil m).congr same
      · rintro f hf
        obtain rfl := Option.some.inj hf
        exact (same.holds_eq file.id).trans missing

section Clearing

variable {w w' : Workspace} {m m' : Memory} {project name line : String}
variable {removed rest : List File} {command : Shell.Command}

/-- What deleting all files leaves if no call is refused, when the files `rest` are left over. -/
structure Swept (m : Memory) (project name : String) (removed rest : List File) (w : Workspace)
    (m' : Memory) (w' : Workspace) : Prop where
  files_eq : w.review.files = removed ++ rest
  gone : m.Removed removed m'
  stopped : ∀ f ∈ rest.head?, m'.holds f.id = false
  listed : w'.review.files = m'.listing project
  session_eq : w'.session = w.session.sync name (m'.listing project)

/-- The answer of the last step is that of all, unless the deletion stopped. -/
theorem deleteAll_of_refresh {deleted : Except Failure Unit} {store : Store}
    {listed : Except Failure (List File)}
    (stopped : deleteFiles w.review.files w.review.store = (deleted, store))
    (refreshed : { w with review.store := store }.refresh = (listed, w')) :
    w.deleteAll = (listed.bind fun _ => deleted.map fun _ => w.review.files.length, w') := by
  unfold deleteAll
  dsimp only
  rw [stopped, refreshed]
  cases listed <;> cases deleted <;> rfl

/-- Deleting everything comes to an end, at the last file or at the first that cannot be deleted. -/
theorem exists_swept (store_eq : w.review.store = .memory m)
    (opened : w.review.project = some project) (named : w.projectName = some name)
    (silent : w.review.announced = []) :
    ∃ sent, w.deleteAll.2.review.store = .memory (m.replay sent) ∧
      (m.Grants sent → ∃ removed rest,
        w.deleteAll.1 = (halted rest).map (fun _ => removed.length) ∧
        Swept m project name removed rest w (m.replay sent) w.deleteAll.2) := by
  obtain ⟨deletes, deleted, law⟩ := exists_removed m w.review.files
  rw [← store_eq] at deleted law
  have stopped : deleteFiles w.review.files w.review.store =
      ((deleteFiles w.review.files w.review.store).1, .memory (m.replay deletes)) :=
    Prod.ext rfl deleted
  generalize (deleteFiles w.review.files w.review.store).1 = answer at stopped law
  obtain ⟨still, turn⟩ := Memory.list_turn (m.replay deletes) project
  have listed := Memory.list_memory (m.replay deletes) project
  refine ⟨deletes ++ [.list project], ?_⟩
  rw [Memory.replay_concat, Memory.grants_append]
  rcases turn with ⟨e, refused, failed⟩ | granted
  · rw [failed] at listed
    have refreshed := refresh_of_refused
      (w := { w with review.store := .memory (m.replay deletes) }) silent opened listed
    rw [deleteAll_of_refresh stopped refreshed]
    exact ⟨rfl, fun grants => absurd grants.2.1 refused⟩
  · rw [granted] at listed
    have refreshed := refresh_of_listed
      (w := { w with review.store := .memory (m.replay deletes) }) silent opened named listed
    rw [deleteAll_of_refresh stopped refreshed]
    refine ⟨rfl, fun grants => ?_⟩
    obtain ⟨removed, rest, files_eq, gone, answer_eq, halts⟩ := law grants.1
    refine ⟨removed, rest, ?_, files_eq, gone.congr still, ?_, ?_, ?_⟩
    · rw [answer_eq, files_eq]
      cases rest with
      | nil => rw [List.append_nil]; rfl
      | cons f rest => rfl
    · exact fun f hf => (still.holds_eq f.id).trans (halts f hf)
    · exact (still.listing_eq project).symm
    · rw [still.listing_eq]

/-! ## The line -/

/-- What a line that deletes all files leaves if no call is refused. -/
structure Cleared (m : Memory) (project name : String) (removed rest : List File) (w : Workspace)
    (m' : Memory) (answer : Except Failure (Option Shell.Result)) (w' : Workspace) : Prop where
  files_eq : w.review.files = removed ++ rest
  gone : m.Removed removed m'
  stopped : ∀ f ∈ rest.head?, m'.holds f.id = false
  listed : w'.review.files = m'.listing project
  tree_eq : w'.session.state.fs = (w.session.sync name (m'.listing project)).state.fs
  answer_eq : answer = (halted rest).map fun _ => some (.signal .deleteAllFiles)
  reported : rest = [] → w'.session.state.history.getLast? =
    some ⟨.output, s!"Removed {removed.length} project files", none⟩

/-- So does the line that asks for it. -/
theorem exists_cleared (clock : Clock) (store_eq : w.review.store = .memory m)
    (opened : w.review.project = some project) (named : w.projectName = some name)
    (silent : w.review.announced = []) (parsed : Shell.Command.parse? line = some command)
    (asks : command.DeletesAll) :
    ∃ sent, (w.execute clock line).2.review.store = .memory (m.replay sent) ∧
      (m.Grants sent → ∃ removed rest, Cleared m project name removed rest w (m.replay sent)
        (w.execute clock line).1 (w.execute clock line).2) := by
  obtain ⟨session, same, fs, user⟩ := Session.execute_deletesAll clock w.session parsed asks
  obtain ⟨sent, stored, law⟩ :=
    exists_swept (w := { w with session }) store_eq opened named silent
  have acted : w.execute clock line =
      ((({ w with session } : Workspace).act (.signal .deleteAllFiles)).1.map
        fun _ => some (.signal .deleteAllFiles),
        (({ w with session } : Workspace).act (.signal .deleteAllFiles)).2) := by
    unfold Workspace.execute
    rw [same]
  rw [acted]
  unfold Workspace.act
  dsimp only
  rw [opened]
  generalize ({ w with session } : Workspace).deleteAll = outcome at stored law ⊢
  obtain ⟨answer, w'⟩ := outcome
  refine ⟨sent, ?_, fun grants => ?_⟩
  · cases answer <;> exact stored
  · obtain ⟨removed, rest, answer_eq, swept⟩ := law grants
    have tree_eq := congrArg (·.state.fs) swept.session_eq
    have tree_eq' := tree_eq.trans (Session.sync_fs_congr fs user name _)
    refine ⟨removed, rest, ?_⟩
    cases rest with
    | nil =>
      obtain rfl : answer = .ok removed.length := answer_eq
      exact ⟨swept.files_eq, swept.gone, swept.stopped, swept.listed, tree_eq', rfl,
        fun _ => List.getLast?_concat⟩
    | cons f rest =>
      obtain rfl : answer = .error (.noFile f.id) := answer_eq
      exact ⟨swept.files_eq, swept.gone, swept.stopped, swept.listed, tree_eq', rfl, nofun⟩

/-! ## An empty project -/

/-- What one expects of a line that deletes all files: it is answered well, the store has no file of
the project any more and the same ones of all others, the workspace has cached and shows none, and
it says how many files are gone. -/
structure Emptied (m : Memory) (project name : String) (w : Workspace) (m' : Memory)
    (answer : Except Failure (Option Shell.Result)) (w' : Workspace) : Prop where
  answer_eq : answer = .ok (some (.signal .deleteAllFiles))
  none_listed : m'.listing project = []
  others_kept : ∀ other ≠ project, m'.listing other = m.listing other
  none_cached : w'.review.files = []
  none_shown : ∀ path ≠ [],
    w'.session.state.fs.itemAt? (projectPath w.session.state.user name ++ path) = none
  directory : ¬ Obstructed w.session.state name [] →
    ∃ a, w'.session.state.fs.itemAt? (projectPath w.session.state.user name) = some (.directory a)
  reported : ∃ n, w'.session.state.history.getLast? =
    some ⟨.output, s!"Removed {n} project files", none⟩ ∧ m'.held.length + n = m.held.length

variable {answer : Except Failure (Option Shell.Result)}

/-- If the project is empty afterwards, the files that were cached are those that the store had. -/
theorem Cleared.perm (h : Cleared m project name removed rest w m' answer w') (sound : m.Sound)
    (emptied : Emptied m project name w m' answer w') :
    (w.review.files.map (·.id)).Perm ((m.listing project).map (·.id)) := by
  obtain rfl : rest = [] := by
    cases rest with
    | nil => rfl
    | cons f rest => cases h.answer_eq.symm.trans emptied.answer_eq
  rw [h.files_eq, List.append_nil]
  refine (List.perm_ext_iff_of_nodup h.gone.distinct (sound.nodup_listing project)).mpr fun id => ?_
  constructor
  · intro mem
    obtain ⟨f, hf, rfl⟩ := List.mem_map.mp mem
    obtain ⟨e, he, hid⟩ := Memory.holds_iff.mp (h.gone.were_held f hf)
    -- a file of another project would not be gone
    have here : e.1 = project := by
      by_contra other
      have listed : e.2 ∈ m.listing e.1 := Memory.mem_filesOf.mpr he
      rw [← emptied.others_kept e.1 other] at listed
      exact (h.gone.mem_listing_iff.mp listed).2 (hid ▸ mem)
    exact List.mem_map.mpr ⟨e.2, Memory.mem_filesOf.mpr (here ▸ he), hid⟩
  · intro mem
    obtain ⟨g, hg, rfl⟩ := List.mem_map.mp mem
    by_contra spared
    have listed : g ∈ m'.listing project := h.gone.mem_listing_iff.mpr ⟨hg, spared⟩
    rw [emptied.none_listed] at listed
    cases listed

/-- If the cached files are those that the store has, none is left over. -/
theorem Cleared.rest_eq_nil (h : Cleared m project name removed rest w m' answer w')
    (sound : m.Sound)
    (same : (w.review.files.map (·.id)).Perm ((m.listing project).map (·.id))) : rest = [] := by
  cases rest with
  | nil => rfl
  | cons f rest =>
    have distinct := same.nodup_iff.mpr (sound.nodup_listing project)
    rw [h.files_eq, List.map_append, List.nodup_append] at distinct
    have cached : f ∈ w.review.files := h.files_eq ▸ List.mem_append_right _ List.mem_cons_self
    obtain ⟨g, hg, hid⟩ := List.mem_map.mp (same.mem_iff.mp (List.mem_map_of_mem cached))
    have spared : g.id ∉ removed.map (·.id) := fun mem =>
      distinct.2.2 g.id mem f.id List.mem_cons_self hid
    have held := Memory.holds_iff.mpr
      ⟨_, Memory.mem_filesOf.mp (h.gone.mem_listing_iff.mpr ⟨hg, spared⟩), hid⟩
    rw [h.stopped f rfl] at held
    cases held

/-- Nothing is left if the cached files were those of the project. -/
theorem Cleared.emptied (h : Cleared m project name removed rest w m' answer w') (sound : m.Sound)
    (same : (w.review.files.map (·.id)).Perm ((m.listing project).map (·.id))) :
    Emptied m project name w m' answer w' := by
  obtain rfl := h.rest_eq_nil sound same
  have files_eq := h.files_eq
  rw [List.append_nil] at files_eq
  rw [files_eq] at same
  have none_listed : m'.listing project = [] := by
    refine List.eq_nil_iff_forall_not_mem.mpr fun g hg => ?_
    obtain ⟨listed, spared⟩ := h.gone.mem_listing_iff.mp hg
    exact spared (same.mem_iff.mpr (List.mem_map_of_mem listed))
  have tree_eq := h.tree_eq
  rw [none_listed] at tree_eq
  refine ⟨h.answer_eq, none_listed, ?_, h.listed.trans none_listed, ?_, ?_, _, h.reported rfl,
    h.gone.length_add sound⟩
  · -- what is deleted is of the project
    intro other different
    unfold Memory.listing
    rw [h.gone.held_eq, List.filter_filter]
    refine congrArg _ (List.filter_congr fun e he => ?_)
    cases there : e.1 == other with
    | false => rfl
    | true =>
      rw [Bool.true_and, decide_eq_true_iff]
      intro mem
      obtain ⟨g, hg, hid⟩ := List.mem_map.mp (same.mem_iff.mp mem)
      have same_entry := sound.eq_of_id_eq he (Memory.mem_filesOf.mp hg) hid.symm
      rw [same_entry] at there
      exact different (eq_of_beq there).symm
  · intro path below
    rw [tree_eq]
    exact Session.itemAt?_sync_nil name w.session below
  · intro free
    obtain ⟨a, there⟩ := (Session.mirrors_sync free).directory
    rw [Session.sync_user] at there
    rw [tree_eq]
    exact ⟨a, there⟩

/-! ## Runs -/

section Leads

variable {storage : Storage} {user : String} {m₀ : Memory} {editor : Option Editor} {chunkSize : ℤ}
variable {made : ℕ}

/-- The cached files are files that the store gave. -/
theorem Leads.sane (sound : m₀.Sound) (chunk_pos : 0 < chunkSize)
    (run : Leads (Workspace.start storage user (.memory m₀) editor chunkSize made) w) :
    ∃ m, Sane m w.review := by
  induction run with
  | start => exact ⟨m₀, rfl, sound, .nil m₀, chunk_pos⟩
  | @step u _ _ _ operates ih =>
    obtain ⟨m, sane⟩ := ih
    -- nothing is known of the project of the cached files
    have stale : true = false → m.Shows u.review.project u.review.files := nofun
    obtain ⟨sent, keeps⟩ := operates.sends sane stale
    exact ⟨_, keeps.sane⟩
  | deleteAll _ ih =>
    obtain ⟨m, sane⟩ := ih
    obtain ⟨sent, follows⟩ := sane.follows_deleteAll
    exact ⟨_, follows.sane⟩
  | others calls store_eq _ ih =>
    obtain ⟨m, sane⟩ := ih
    obtain rfl := Store.memory.inj (sane.store_eq.symm.trans store_eq)
    exact ⟨_, rfl, sane.sound.replay calls, sane.cached.replay calls, sane.chunk_pos⟩
  | edit _ _ ih =>
    obtain ⟨m, sane⟩ := ih
    exact ⟨m, sane.store_eq, sane.sound, sane.cached, sane.chunk_pos⟩

/-- **When deleting all files empties the project.** Operations and other clients lead from a
workspace that is started over some store to one with an open project, whatever the store refuses. A
line deletes all files, and no call that is sent for it is refused. Then of the cached files those
are deleted that come before the first that the store does not have; the files are listed and shown
again; and if none is left over, the number of the deleted ones is reported. That does all that one
expects if and only if the cached files are, by their ids, those that the store has of the
project. -/
theorem rm_all_empties_iff (sound : m₀.Sound) (chunk_pos : 0 < chunkSize)
    (run : Leads (Workspace.start storage user (.memory m₀) editor chunkSize made) w)
    (opened : w.review.project = some project) (clock : Clock)
    (parsed : Shell.Command.parse? line = some command) (asks : command.DeletesAll) :
    ∃ m name sent, w.review.store = .memory m ∧ w.projectName = some name ∧
      (w.execute clock line).2.review.store = .memory (m.replay sent) ∧
      (m.Grants sent →
        (∃ removed rest, Cleared m project name removed rest w (m.replay sent)
          (w.execute clock line).1 (w.execute clock line).2) ∧
        (Emptied m project name w (m.replay sent) (w.execute clock line).1
            (w.execute clock line).2 ↔
          (w.review.files.map (·.id)).Perm ((m.listing project).map (·.id)))) := by
  obtain ⟨m, sane⟩ := run.sane sound chunk_pos
  obtain ⟨name, named⟩ : ∃ name, w.projectName = some name := by
    have both : w.projectName.isSome = w.review.project.isSome := run.named
    rw [opened] at both
    exact Option.isSome_iff_exists.mp both
  obtain ⟨sent, stored, law⟩ :=
    exists_cleared clock sane.store_eq opened named run.silent parsed asks
  refine ⟨m, name, sent, sane.store_eq, named, stored, fun grants => ?_⟩
  obtain ⟨removed, rest, cleared⟩ := law grants
  exact ⟨⟨removed, rest, cleared⟩, cleared.perm sane.sound, cleared.emptied sane.sound⟩

/-- A file that another client has created outlives the line, which is answered as if none did. -/
theorem rm_all_empties_iff_foreign_file :
    let m₀ := (Memory.empty.seed "p1" "a.js" "x" "").2
    let w₀ := start default "user" (.memory m₀) none 64 0
    let m := m₀.replay [.list "p1", .create "p1" "b.js" "y" "javascript"]
    let w := { (w₀.openProject "p1" "One").2 with review.store := .memory m }
    let answered := (w.execute default "rm *").1
    let w' := (w.execute default "rm *").2
    Leads w₀ w ∧ answered = .ok (some (.signal .deleteAllFiles)) ∧
      w'.session.state.history.getLast? = some ⟨.output, "Removed 1 project files", none⟩ ∧
      w'.review.files.map (·.name) = ["b.js"] ∧
      ∃ m', w'.review.store = .memory m' ∧ ¬ Emptied m "p1" "One" w m' answered w' := by
  intro m₀ w₀ m w answered w'
  have run : Leads w₀ w :=
    .others (m := m₀.replay [.list "p1"]) [.create "p1" "b.js" "y" "javascript"] rfl
      (.step .start (.openProject "p1" "One"))
  have parsed : Shell.Command.parse? "rm *" = some ⟨"rm", ["*"], [], none, none, ["*"]⟩ := by
    decide +kernel
  obtain ⟨m₁, name, sent, store_eq, named, stored, law⟩ := rm_all_empties_iff
    (Memory.empty_sound.seed "p1" "a.js" "x" "") (by decide) run rfl default parsed
    ⟨rfl, List.mem_cons_self⟩
  obtain rfl : m = m₁ := Store.memory.inj store_eq
  obtain rfl : "One" = name := Option.some.inj named
  have willing : m.Willing := fun _ _ => rfl
  obtain ⟨-, empties⟩ := law (willing.grants sent)
  have cached : w.review.files.map (·.id) = ["file-1"] := by decide +kernel
  have listed : (m.listing "p1").map (·.id) = ["file-1", "file-2"] := by decide +kernel
  refine ⟨run, ?_, ?_, ?_, _, stored, fun emptied => ?_⟩
  · exact Project.eq_ok_of_toOption (by decide +kernel)
  · decide +kernel
  · decide +kernel
  · have same := (empties.mp emptied).length_eq
    rw [cached, listed] at same
    cases same

end Leads

end Clearing

end Workspace

end Workbench
