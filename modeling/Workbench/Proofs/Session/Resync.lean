import Workbench.Proofs.Entries
import Workbench.Proofs.Session.Listings

/-!
# Mirroring one listing twice

Mirroring the same listing again changes nothing, with one exception. What obstructs a project may
lie in its name or its files, and then obstructs it again and again; or it is a file on the way to
the directory, and then it is gone as soon as the tree has started afresh. If nothing else obstructs
the project (`OnlyBarred`), the first call leaves a new tree and the second one mirrors the listing
on it.
-/

namespace Workbench.Session

open Shell (State)
open Workbench.Tree (Branch Directory)
open Project (File)

/-- A file on the way to the directory of a project, or in its place, is all that obstructs it. -/
structure OnlyBarred (state : State) (projectName : String) (files : List File) : Prop where
  named : Project.slug projectName ≠ ""
  placeable : Placeable files
  barred : Barred state projectName

variable {s : Session} {state : State} {projectName owner : String} {files : List File}
variable {path : List String} {shown before after : Branch} {fs : Directory}

/-! ## The same tree again -/

/-- A directory that was filled is filled in the same way again. -/
theorem withDirectory_again
    (h : withDirectory owner (fun _ => some shown) path before = some after) :
    withDirectory owner (fun _ => some shown) path after = some after := by
  induction path generalizing before after with
  | nil => exact h
  | cons name path ih =>
    rw [withDirectory] at h
    split at h
    · obtain ⟨inner, filled, rfl⟩ := Option.map_eq_some_iff.mp h
      simp [withDirectory, ih filled]
    · obtain ⟨inner, filled, rfl⟩ := Option.map_eq_some_iff.mp h
      simp [withDirectory, ih filled]
    · cases h

/-- Files that are shown can be shown again, which changes nothing. -/
theorem syncedTree?_again (h : syncedTree? state projectName files = some fs) :
    syncedTree? { state with fs } projectName files = some fs := by
  have named : Project.slug projectName ≠ "" := by
    intro unnamed
    rw [syncedTree?_eq_none_iff.mpr (.unnamed unnamed)] at h
    cases h
  rw [syncedTree?_of_slug named] at h ⊢
  obtain ⟨shown, made, h⟩ := Option.bind_eq_some_iff.mp h
  obtain ⟨entries, filled, rfl⟩ := Option.map_eq_some_iff.mp h
  simp [made, withDirectory_again filled]

/-- A file on the way to the project, or something that stays in the way. -/
theorem obstructed_iff_onlyBarred : Obstructed state projectName files ↔
    OnlyBarred state projectName files ∨ Project.slug projectName = "" ∨ ¬ Placeable files := by
  rw [obstructed_iff]
  constructor
  · intro h
    by_cases other : Project.slug projectName = "" ∨ ¬ Placeable files
    · exact .inr other
    · rw [not_or, not_not] at other
      refine .inl ⟨other.1, other.2, ?_⟩
      rcases h with unnamed | barred | bad
      · exact absurd unnamed other.1
      · exact barred
      · exact absurd other.2 bad
  · rintro (only | unnamed | bad)
    · exact .inr (.inl only.barred)
    · exact .inl unnamed
    · exact .inr (.inr bad)

/-- Unless a file on the way was all that obstructed the project, mirroring it again gives the same
tree. -/
theorem sync_sync_fs (h : ¬ OnlyBarred s.state projectName files) :
    ((s.sync projectName files).sync projectName files).state.fs =
      (s.sync projectName files).state.fs := by
  rcases syncedTree?_cases s.state projectName files with ⟨fs, made, -, -⟩ | ⟨-, obstructed⟩
  · have once : (s.sync projectName files).state = { s.state with fs } := by
      rw [sync, save, made, Option.getD_some]
    rw [sync_fs, once, syncedTree?_again made, Option.getD_some]
  · -- what obstructs the project does not lie in the tree
    have still : Obstructed (s.sync projectName files).state projectName files := by
      rw [obstructed_iff_onlyBarred]
      exact .inr ((obstructed_iff_onlyBarred.mp obstructed).resolve_left h)
    rw [sync_fs_of_obstructed still, sync_user, sync_fs_of_obstructed obstructed]

/-- What a session persists is persisted again without a trace. -/
theorem save_save (s : Session) : s.save.save = s.save := by
  have again : s.save.persisted = s.persisted := by
    simp only [persisted, save]
    cases s.state.blob with
    | none => rfl
    | some blob => simp [Storage.set]
  rw [save, again]
  rfl

/-- If the tree is the same again, then so is the whole session. -/
theorem sync_sync_of_fs (same : ((s.sync projectName files).sync projectName files).state.fs =
      (s.sync projectName files).state.fs) :
    (s.sync projectName files).sync projectName files = s.sync projectName files := by
  have persisted : (s.sync projectName files).save = s.sync projectName files := by
    rw [sync, save_save]
  generalize s.sync projectName files = once at *
  rw [sync_eq projectName files once, same]
  exact persisted

/-! ## Another tree the second time -/

/-- In a new tree nothing stands in the place of the directory of a project, or below it. -/
theorem itemAt?_initial_append (user projectName : String) (path : List String) :
    (Directory.initial user).itemAt? (projectPath user projectName ++ path) = none := by
  simp [projectPath, Directory.initial, Tree.itemIn, Entries.lookup, Tree.Node.newDirectory]

/-- Nothing stands there at first. -/
theorem itemAt?_initial_projectPath (user projectName : String) :
    (Directory.initial user).itemAt? (projectPath user projectName) = none := by
  simpa using itemAt?_initial_append user projectName []

/-- Without files the directory of a project is empty, even if there is none. -/
theorem itemAt?_sync_nil (projectName : String) (s : Session) {path : List String}
    (below : path ≠ []) : (s.sync projectName []).state.fs.itemAt?
      (projectPath s.state.user projectName ++ path) = none := by
  by_cases obstructed : Obstructed s.state projectName []
  · rw [sync_fs_of_obstructed obstructed, itemAt?_initial_append]
  · have shown := (mirrors_sync obstructed).below path below
    rwa [sync_user, shownItem_nil] at shown

/-- A file on the way obstructs a project once: the first call starts with a new tree, and the
second one mirrors the listing on it. -/
theorem OnlyBarred.sync_sync (h : OnlyBarred s.state projectName files) :
    (s.sync projectName files).state.fs = .initial s.state.user ∧
      Mirrors ((s.sync projectName files).sync projectName files).state projectName files := by
  have obstructed : Obstructed s.state projectName files :=
    obstructed_iff_onlyBarred.mpr (.inl h)
  have free : ¬ Obstructed (s.sync projectName files).state projectName files := by
    rw [obstructed_iff]
    rintro (unnamed | barred | bad)
    · exact h.named unnamed
    · exact not_barred_sync projectName files s barred
    · exact bad h.placeable
  exact ⟨sync_fs_of_obstructed obstructed, mirrors_sync free⟩

/-- **Mirroring a listing twice is mirroring it once**, unless a file on the way to the directory is
all that obstructs the project. Then the first call leaves a new tree, which has nothing at the path
of the directory, and the second call mirrors the listing there. From the second call on nothing
changes any more. -/
theorem sync_sync_iff (projectName : String) (files : List File) (s : Session) :
    let once := s.sync projectName files
    let twice := once.sync projectName files
    (twice = once ↔ ¬ OnlyBarred s.state projectName files) ∧
    (OnlyBarred s.state projectName files →
      once.state.fs = .initial s.state.user ∧
      once.state.fs.itemAt? (projectPath s.state.user projectName) = none ∧
      Mirrors twice.state projectName files) ∧
    twice.sync projectName files = twice := by
  intro once twice
  have exception (h : OnlyBarred s.state projectName files) :
      once.state.fs = .initial s.state.user ∧
      once.state.fs.itemAt? (projectPath s.state.user projectName) = none ∧
      Mirrors twice.state projectName files := by
    obtain ⟨fresh, mirrors⟩ := h.sync_sync
    exact ⟨fresh, fresh ▸ itemAt?_initial_projectPath s.state.user projectName, mirrors⟩
  refine ⟨⟨fun same only => ?_, fun h => sync_sync_of_fs (sync_sync_fs h)⟩, exception,
    sync_sync_of_fs (sync_sync_fs ?_)⟩
  · obtain ⟨-, bare, mirrors⟩ := exception only
    obtain ⟨a, there⟩ := mirrors.directory
    rw [same, sync_user, bare] at there
    cases there
  · exact fun only => not_barred_sync projectName files s only.barred

/-- A file in the place of the directory: the first call removes it with all the rest, and only the
second one shows the listing. -/
theorem sync_sync_file_in_place :
    let fs := (Directory.initial "user").changeAt ["home", "user", "projects"]
      (Entries.store "app" (.newFile "app" "user" ""))
    let s : Session := ⟨.empty, defaultKey, "user", { State.initial "user" with fs }⟩
    let once := s.sync "App" [⟨"file-1", "a.js", "x", "javascript"⟩]
    let twice := once.sync "App" [⟨"file-1", "a.js", "x", "javascript"⟩]
    once.state.fs.itemAt? ["home", "user", "projects", "app", "a.js"] = none ∧
      twice.state.fs.itemAt? ["home", "user", "projects", "app", "a.js"] =
        some (.file ⟨"a.js", "user", .ofFile⟩ "x") ∧
      ¬ ∀ path, twice.state.fs.itemAt? path = once.state.fs.itemAt? path := by
  intro fs s once twice
  have before : once.state.fs.itemAt? ["home", "user", "projects", "app", "a.js"] = none := by
    decide +kernel
  have after : twice.state.fs.itemAt? ["home", "user", "projects", "app", "a.js"] =
      some (.file ⟨"a.js", "user", .ofFile⟩ "x") := by
    decide +kernel
  refine ⟨before, after, fun same => ?_⟩
  have agree := same ["home", "user", "projects", "app", "a.js"]
  rw [before, after] at agree
  cases agree

end Workbench.Session
