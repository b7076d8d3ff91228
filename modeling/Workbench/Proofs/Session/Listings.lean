import Workbench.Proofs.Session.Mirror

/-!
# Mirroring one listing after another

When listings of a project are mirrored one after another, the directory of the project shows the
last of them, whatever was below it before and whatever the other listings were. Mirroring replaces
all that is below the directory, and it never leaves a file on the way to it: where a listing cannot
be mirrored the tree starts afresh, and the next listing finds the way clear.
-/

namespace Workbench.Session

open Shell (State)
open Workbench.Tree (Node Directory)
open Project (File)

/-- The directory of a project is there and has exactly what some files make up. -/
structure Mirrors (state : State) (projectName : String) (files : List File) : Prop where
  directory : ∃ a, state.fs.itemAt? (projectPath state.user projectName) = some (.directory a)
  below : ∀ path ≠ [], state.fs.itemAt? (projectPath state.user projectName ++ path) =
    shownItem state.user files path

/-- A file stands on the way to the directory of a project, or in its place. -/
abbrev Barred (state : State) (projectName : String) : Prop :=
  Blocked (projectPath state.user projectName) state.fs.entries

variable {s : Session} {state state' : State} {projectName : String} {files : List File}

/-- Only the tree and the user matter. -/
theorem Mirrors.congr (h : Mirrors state projectName files) (fs : state'.fs = state.fs)
    (user : state'.user = state.user) : Mirrors state' projectName files where
  directory := by
    rw [fs, user]
    exact h.directory
  below := by
    rw [fs, user]
    exact h.below

/-- Only the tree and the user decide whether files can be shown. -/
theorem Obstructed.congr (h : Obstructed state projectName files) (fs : state'.fs = state.fs)
    (user : state'.user = state.user) : Obstructed state' projectName files := by
  rw [obstructed_iff] at h ⊢
  rwa [fs, user]

/-- The user stays. -/
theorem sync_user (projectName : String) (files : List File) (s : Session) :
    (s.sync projectName files).state.user = s.state.user := by
  rw [sync, save]

/-! ## The way to the directory -/

/-- In a new tree the way is clear: the directory of all projects is there and is empty. -/
theorem not_barred_initial (user projectName : String) : ¬ Barred (.initial user) projectName := by
  let projects := Node.newDirectory "projects" user
  let home := Node.directory ⟨user, user, .ofDirectory⟩ [("projects", projects)]
  have user_there : Entries.lookup user [(user, home)] = some home := by
    rw [Entries.lookup, if_pos rfl]
  show ¬ Blocked ["home", user, "projects", Project.slug projectName] _
  rw [blocked_cons_iff rfl, blocked_cons_iff user_there, blocked_cons_iff rfl]
  exact not_blocked_of_lookup_none rfl

/-- Mirroring leaves the way clear: where it was barred, the tree starts afresh. -/
theorem not_barred_sync (projectName : String) (files : List File) (s : Session) :
    ¬ Barred (s.sync projectName files).state projectName := by
  by_cases h : Obstructed s.state projectName files
  · rw [Barred, sync_user, sync_fs_of_obstructed h]
    exact not_barred_initial s.state.user projectName
  · have clear : ¬ Barred s.state projectName := by
      rw [obstructed_iff] at h
      exact fun barred => h (.inr (.inl barred))
    rw [Barred, sync_user]
    rintro ⟨p, a, content, onWay, hitem⟩
    cases p with
    | nil => cases hitem
    | cons name p =>
      have outside : ¬ (projectPath s.state.user projectName <+: name :: p ∧
          name :: p ≠ projectPath s.state.user projectName) := fun ⟨inside, differs⟩ =>
        differs (onWay.eq_of_length_le inside.length_le)
      rw [← Directory.itemAt?_cons, sync_items h, mirroredItem, if_neg outside] at hitem
      -- what is new on the way is a directory, so the file was there before
      cases before : s.state.fs.itemAt? (name :: p) with
      | none =>
        rw [before, Option.none_or, missingDirectory] at hitem
        split at hitem <;> cases hitem
      | some item =>
        rw [before, Option.some_or] at hitem
        rw [Directory.itemAt?_cons, hitem] at before
        exact clear ⟨_, a, content, onWay, before⟩

/-! ## The directory -/

/-- A listing that can be mirrored is. -/
theorem mirrors_sync (free : ¬ Obstructed s.state projectName files) :
    Mirrors (s.sync projectName files).state projectName files where
  directory := by
    rw [sync_user]
    have itself : ¬ (projectPath s.state.user projectName <+:
          projectPath s.state.user projectName ∧
        projectPath s.state.user projectName ≠ projectPath s.state.user projectName) :=
      fun h => h.2 rfl
    simp only [sync_items free, mirroredItem, if_neg itself]
    cases before : s.state.fs.itemAt? (projectPath s.state.user projectName) with
    | none =>
      have made : projectPath s.state.user projectName ≠ [] ∧
          projectPath s.state.user projectName <+: projectPath s.state.user projectName :=
        ⟨List.cons_ne_nil _ _, List.prefix_rfl⟩
      rw [Option.none_or, missingDirectory, if_pos made]
      exact ⟨_, rfl⟩
    | some item =>
      cases item with
      | file a content => exact absurd (.blocked _ a content List.prefix_rfl before) free
      | directory a => exact ⟨a, rfl⟩
  below path hpath := by
    rw [sync_user]
    have below : projectPath s.state.user projectName <+:
          projectPath s.state.user projectName ++ path ∧
        projectPath s.state.user projectName ++ path ≠ projectPath s.state.user projectName :=
      ⟨List.prefix_append _ _, by simpa using hpath⟩
    rw [sync_items free, mirroredItem, if_pos below, List.drop_left]

/-- Mirrors listings one after another. -/
def syncAll (projectName : String) (listings : List (List File)) (s : Session) : Session :=
  listings.foldl (fun s files => s.sync projectName files) s

/-- Showing listings bars nothing. -/
theorem not_barred_syncAll (listings : List (List File)) (clear : ¬ Barred s.state projectName) :
    ¬ Barred (s.syncAll projectName listings).state projectName := by
  induction listings generalizing s with
  | nil => exact clear
  | cons files listings ih =>
    rw [syncAll, List.foldl_cons, ← syncAll]
    exact ih (not_barred_sync projectName files s)

/-- After a listing, the path of the project is free, unless it was barred before. -/
theorem not_barred_of_last {listings : List (List File)} (last : listings.getLast? = some files) :
    ¬ Barred (s.syncAll projectName listings).state projectName := by
  obtain ⟨before, rfl⟩ := List.getLast?_eq_some_iff.mp last
  rw [syncAll, List.foldl_append]
  exact not_barred_sync projectName files _

/-- **The last listing is shown.** Of listings that are mirrored one after another the last one is
shown if it could have been mirrored at first. -/
theorem mirrors_syncAll {listings : List (List File)} (last : listings.getLast? = some files)
    (free : ¬ Obstructed s.state projectName files) :
    Mirrors (s.syncAll projectName listings).state projectName files := by
  obtain ⟨before, rfl⟩ := List.getLast?_eq_some_iff.mp last
  rw [obstructed_iff] at free
  push Not at free
  obtain ⟨named, clear, placeable⟩ := free
  have still : ¬ Obstructed (s.syncAll projectName before).state projectName files := by
    rw [obstructed_iff]
    rintro (unnamed | barred | bad)
    · exact named unnamed
    · exact not_barred_syncAll before clear barred
    · exact bad placeable
  rw [syncAll, List.foldl_append, ← syncAll]
  exact mirrors_sync still

end Workbench.Session
