import Workbench.Proofs.Session.Placement
import Mathlib.Data.List.Nodup

/-!
# The directory that mirrors a project

`sync` rebuilds the directory of a project from the files of the project, or starts with a new tree.
The files can be shown exactly if every name has segments, none of them a single or double dot, and
no file lies below another one (`Placeable`). What is then shown at a path is said by `shownItem`
without reference to the order in which the files are placed, and `sync_mirrors` says the same of
the whole tree.
-/

namespace Workbench.Session

open Shell (State)
open Workbench.Tree (Branch Directory Item itemIn)
open Project (File)

def lastAt? (files : List File) (path : List String) : Option File :=
  files.reverse.find? fun f => filePath f == path

/-- What a list of project files has at a path: the last listed file with that path, or a directory
if the path of a file needs it. -/
def shownItem (owner : String) (files : List File) (path : List String) : Option Item :=
  match lastAt? files path with
  | some file => some (.file ⟨path.getLastD "", owner, .ofFile⟩ file.content)
  | none =>
    if ∃ f ∈ files, path <+: filePath f then
      some (.directory ⟨path.getLastD "", owner, .ofDirectory⟩)
    else none

/-- The files can all be shown below one directory. -/
structure Placeable (files : List File) : Prop where
  named : ∀ f ∈ files, filePath f ≠ [] ∧ "." ∉ filePath f ∧ ".." ∉ filePath f
  apart : ∀ f ∈ files, ∀ g ∈ files, filePath f <+: filePath g → filePath f = filePath g

/-- A file can be shown next to others: its name will do, and none of them lies above or below. -/
structure Joins (files : List File) (file : File) : Prop where
  named : filePath file ≠ [] ∧ "." ∉ filePath file ∧ ".." ∉ filePath file
  above : ∀ f ∈ files, filePath f <+: filePath file → filePath f = filePath file
  below : ∀ f ∈ files, filePath file <+: filePath f → filePath file = filePath f

/-- The entries are those that the files make up. -/
def Showing (owner : String) (files : List File) (entries : Branch) : Prop :=
  ∀ path ≠ [], itemIn path entries = shownItem owner files path

section Shown

variable {owner : String} {files : List File} {file : File} {path q : List String}
variable {entries entries' : Branch}

@[simp] theorem lastAt?_nil (path : List String) : lastAt? [] path = none := rfl

/-- The last file counts if it is for the path. -/
theorem lastAt?_concat (files : List File) (file : File) (path : List String) :
    lastAt? (files ++ [file]) path =
      if filePath file = path then some file else lastAt? files path := by
  rw [lastAt?, List.reverse_append, List.reverse_singleton, List.singleton_append,
    List.find?_cons]
  by_cases h : filePath file = path
  · simp [h]
  · rw [if_neg h, beq_eq_false_iff_ne.mpr h]
    rfl

/-- No file is for the path. -/
theorem lastAt?_eq_none_iff : lastAt? files path = none ↔ ∀ f ∈ files, filePath f ≠ path := by
  simp [lastAt?]

/-- What is found for a path is a file for it. -/
theorem mem_of_lastAt? (h : lastAt? files path = some file) :
    file ∈ files ∧ filePath file = path :=
  ⟨List.mem_reverse.mp (List.mem_of_find?_eq_some h), by simpa using List.find?_some h⟩

@[simp] theorem shownItem_nil (owner : String) (path : List String) :
    shownItem owner [] path = none := by
  simp [shownItem]

/-- A file is shown where one of the files belongs. -/
theorem shownItem_eq_file_iff (owner : String) :
    (∃ a content, shownItem owner files path = some (.file a content)) ↔
      ∃ f ∈ files, filePath f = path := by
  rw [shownItem]
  cases h : lastAt? files path with
  | none =>
    have none_there := lastAt?_eq_none_iff.mp h
    constructor
    · rintro ⟨a, content, hitem⟩
      dsimp only at hitem
      split at hitem <;> cases hitem
    · rintro ⟨f, hf, hpath⟩
      exact absurd hpath (none_there f hf)
  | some file => simpa using ⟨file, mem_of_lastAt? h⟩

/-- A directory is shown above the files, and where no file is. -/
theorem shownItem_eq_directory_iff (owner : String) :
    (∃ a, shownItem owner files path = some (.directory a)) ↔
      (∀ f ∈ files, filePath f ≠ path) ∧ ∃ f ∈ files, path <+: filePath f := by
  rw [← lastAt?_eq_none_iff, shownItem]
  cases h : lastAt? files path with
  | none =>
    by_cases hd : ∃ f ∈ files, path <+: filePath f
    · simp [hd]
    · simp [hd]
  | some file => simp

/-- A list leads to a part of the way to a path, and not to the path itself, exactly if it leads to
the directory around it or above. -/
theorem prefix_dropLast_iff (h : path ≠ []) : q <+: path.dropLast ↔ q <+: path ∧ q ≠ path := by
  have whole := dropLast_append_getLastD h
  constructor
  · intro hq
    refine ⟨hq.trans (List.dropLast_prefix path), ?_⟩
    rintro rfl
    have longer := hq.length_le
    have := List.length_pos_iff.mpr h
    rw [List.length_dropLast] at longer
    omega
  · rintro ⟨hq, hne⟩
    rw [← whole] at hq
    rcases List.prefix_concat_iff.mp hq with same | inside
    · exact absurd (same.trans whole) hne
    · exact inside

/-! ### One more file -/

/-- Entries that show some files show one more after it is placed. -/
theorem Showing.place (showing : Showing owner files entries)
    (h : placeFile owner entries file = some entries') :
    Showing owner (files ++ [file]) entries' := by
  have hs : areFileSegments (filePath file) = true := by
    by_contra hs
    rw [placeFile_eq_none_iff.mpr (.inl (Bool.not_eq_true _ ▸ hs))] at h
    cases h
  obtain ⟨hne, -, -⟩ := areFileSegments_iff.mp hs
  intro path hpath
  rw [placeFile_items h, showing path hpath]
  by_cases same : path = filePath file
  · subst same
    rw [if_pos rfl, shownItem, lastAt?_concat, if_pos rfl]
  · rw [if_neg same, shownItem, shownItem, lastAt?_concat, if_neg (Ne.symm same)]
    cases lastAt? files path with
    | some g => rfl
    | none =>
      -- a directory is there if one of the files before needs it, or if the new one does
      have needs : missingDirectory owner (filePath file).dropLast path =
          if path <+: filePath file then
            some (.directory ⟨path.getLastD "", owner, .ofDirectory⟩)
          else none := by
        refine if_congr ?_ rfl rfl
        rw [prefix_dropLast_iff hne]
        exact ⟨fun h => h.2.1, fun h => ⟨hpath, h, same⟩⟩
      have wanted : (∃ f ∈ files ++ [file], path <+: filePath f) ↔
          (∃ f ∈ files, path <+: filePath f) ∨ path <+: filePath file := by
        simp [or_and_right, exists_or]
      rw [needs]
      by_cases before : ∃ f ∈ files, path <+: filePath f
      · simp only [if_pos before, if_pos (wanted.mpr (.inl before)), Option.some_or]
      · simp only [if_neg before, Option.none_or]
        exact if_congr ⟨fun hp => wanted.mpr (.inr hp),
          fun h => (wanted.mp h).resolve_left before⟩ rfl rfl

/-- One more file can be placed if it is in the way of none before. -/
theorem placeable_concat_iff :
    Placeable (files ++ [file]) ↔ Placeable files ∧ Joins files file := by
  have here : file ∈ files ++ [file] := List.mem_append_right _ (List.mem_singleton_self file)
  have there : ∀ f ∈ files, f ∈ files ++ [file] := fun f hf => List.mem_append_left _ hf
  constructor
  · intro all
    refine ⟨⟨fun f hf => all.named f (there f hf), fun f hf g hg => ?_⟩, all.named file here,
      fun f hf => all.apart f (there f hf) file here,
      fun f hf => all.apart file here f (there f hf)⟩
    exact all.apart f (there f hf) g (there g hg)
  · rintro ⟨placeable, joins⟩
    refine ⟨fun f hf => ?_, fun f hf g hg hp => ?_⟩
    · rcases List.mem_append.mp hf with hf | hf
      · exact placeable.named f hf
      · rw [List.mem_singleton.mp hf]
        exact joins.named
    · rcases List.mem_append.mp hf with hf | hf <;> rcases List.mem_append.mp hg with hg | hg
      · exact placeable.apart f hf g hg hp
      · rw [List.mem_singleton.mp hg] at hp ⊢
        exact joins.above f hf hp
      · rw [List.mem_singleton.mp hf] at hp ⊢
        exact joins.below g hg hp
      · rw [List.mem_singleton.mp hf, List.mem_singleton.mp hg]

/-- A file stands on the way to a new one exactly if one of those that are shown lies above it. -/
theorem Showing.blocked_iff (showing : Showing owner files entries) (placeable : Placeable files)
    (hne : filePath file ≠ []) : Blocked (filePath file).dropLast entries ↔
      ∃ f ∈ files, filePath f <+: filePath file ∧ filePath f ≠ filePath file := by
  constructor
  · rintro ⟨p, a, content, hp, hitem⟩
    have hne' : p ≠ [] := by
      rintro rfl
      cases hitem
    rw [showing p hne'] at hitem
    obtain ⟨f, hf, rfl⟩ := (shownItem_eq_file_iff owner).mp ⟨a, content, hitem⟩
    exact ⟨f, hf, (prefix_dropLast_iff hne).mp hp⟩
  · rintro ⟨f, hf, above⟩
    obtain ⟨a, content, hitem⟩ := (shownItem_eq_file_iff owner).mpr ⟨f, hf, rfl⟩
    rw [← showing _ (placeable.named f hf).1] at hitem
    exact ⟨_, a, content, (prefix_dropLast_iff hne).mpr above, hitem⟩

/-- A directory has the path of a new file exactly if one of those that are shown lies below. -/
theorem Showing.directory_iff (showing : Showing owner files entries) (placeable : Placeable files)
    (hne : filePath file ≠ []) : (∃ a, itemIn (filePath file) entries = some (.directory a)) ↔
      ∃ f ∈ files, filePath file <+: filePath f ∧ filePath f ≠ filePath file := by
  rw [showing _ hne, shownItem_eq_directory_iff]
  constructor
  · rintro ⟨free, f, hf, below⟩
    exact ⟨f, hf, below, free f hf⟩
  · rintro ⟨f, hf, below, differs⟩
    -- a file with the path itself would have `f` below it
    refine ⟨fun g hg same => differs ?_, f, hf, below⟩
    exact (placeable.apart g hg f hf (same ▸ below)).symm.trans same

/-- Placing one more file fails exactly if it does not join those that are shown. -/
theorem Showing.placeFile_eq_none_iff (showing : Showing owner files entries)
    (placeable : Placeable files) :
    placeFile owner entries file = none ↔ ¬ Joins files file := by
  rw [Session.placeFile_eq_none_iff]
  by_cases hs : areFileSegments (filePath file) = true
  · have named := areFileSegments_iff.mp hs
    rw [showing.blocked_iff placeable named.1, showing.directory_iff placeable named.1]
    constructor
    · rintro (bad | ⟨f, hf, above, differs⟩ | ⟨f, hf, below, differs⟩) joins
      · exact absurd (hs.symm.trans bad) nofun
      · exact differs (joins.above f hf above)
      · exact differs (joins.below f hf below).symm
    · intro alone
      by_contra free
      push Not at free
      exact alone ⟨named, free.2.1, fun f hf below => (free.2.2 f hf below).symm⟩
  · refine iff_of_true (.inl (Bool.not_eq_true _ ▸ hs)) fun joins => hs ?_
    exact areFileSegments_iff.mpr joins.named

/-- Either the files can be shown and are, or they cannot be shown and placing them fails. -/
theorem projectEntries_cases (owner : String) (files : List File) :
    (∃ entries, projectEntries owner files = some entries ∧ Placeable files ∧
        Showing owner files entries) ∨
      projectEntries owner files = none ∧ ¬ Placeable files := by
  induction files using List.reverseRecOn with
  | nil =>
    refine .inl ⟨[], rfl, ⟨by simp, by simp⟩, fun path _ => ?_⟩
    rw [Tree.itemIn_nil_right, shownItem_nil]
  | append_singleton files file ih =>
    have step : projectEntries owner (files ++ [file]) =
        (projectEntries owner files).bind fun entries => placeFile owner entries file := by
      simp [projectEntries, List.foldlM_append]
    rw [step, placeable_concat_iff]
    rcases ih with ⟨entries, hentries, placeable, showing⟩ | ⟨hnone, bad⟩
    · rw [hentries, Option.bind_some]
      have fails : placeFile owner entries file = none ↔ ¬ Joins files file :=
        showing.placeFile_eq_none_iff placeable
      cases h : placeFile owner entries file with
      | none => exact .inr ⟨rfl, fun all => fails.mp h all.2⟩
      | some entries' =>
        have joins : Joins files file := by
          by_contra alone
          rw [fails.mpr alone] at h
          cases h
        exact .inl ⟨entries', rfl, ⟨placeable, joins⟩, showing.place h⟩
    · rw [hnone]
      exact .inr ⟨rfl, fun all => bad all.1⟩

/-! ### The order of the files -/

/-- Files with different paths show the same in every order. -/
theorem lastAt?_perm {files' : List File} (perm : files.Perm files')
    (distinct : (files.map filePath).Nodup) (path : List String) :
    lastAt? files' path = lastAt? files path := by
  have same_of : ∀ {f g : File}, f ∈ files → g ∈ files → filePath f = filePath g → f = g :=
    fun hf hg h => List.inj_on_of_nodup_map distinct hf hg h
  cases h : lastAt? files path with
  | none =>
    have free := lastAt?_eq_none_iff.mp h
    exact lastAt?_eq_none_iff.mpr fun f hf => free f (perm.mem_iff.mpr hf)
  | some file =>
    obtain ⟨hfile, hpath⟩ := mem_of_lastAt? h
    cases h' : lastAt? files' path with
    | none => exact absurd hpath (lastAt?_eq_none_iff.mp h' file (perm.mem_iff.mp hfile))
    | some file' =>
      obtain ⟨hfile', hpath'⟩ := mem_of_lastAt? h'
      rw [same_of (perm.mem_iff.mpr hfile') hfile (hpath'.trans hpath.symm)]

/-- The order of files for different paths does not matter. -/
theorem shownItem_perm {files' : List File} (perm : files.Perm files')
    (distinct : (files.map filePath).Nodup) (path : List String) :
    shownItem owner files' path = shownItem owner files path := by
  rw [shownItem, shownItem, lastAt?_perm perm distinct]
  simp only [perm.mem_iff]

end Shown

/-! ## The whole tree -/

/-- The path of the directory that mirrors a project. -/
def projectPath (user projectName : String) : List String :=
  ["home", user, "projects", Project.slug projectName]

/-- What makes it impossible to mirror a project. -/
inductive Obstructed (state : State) (projectName : String) (files : List File) : Prop where
  /-- The name of the project has no slug. -/
  | unnamed (h : Project.slug projectName = "")
  /-- A file stands where the directory, or a directory above it, should be. -/
  | blocked (p : List String) (a : Tree.Attributes) (content : String)
      (onWay : p <+: projectPath state.user projectName)
      (h : state.fs.itemAt? p = some (.file a content))
  /-- The name of a file has no segments, or a single or double dot among them. -/
  | misnamed (f : File) (hf : f ∈ files)
      (h : filePath f = [] ∨ "." ∈ filePath f ∨ ".." ∈ filePath f)
  /-- A file would lie below another one. -/
  | nested (f g : File) (hf : f ∈ files) (hg : g ∈ files) (below : filePath f <+: filePath g)
      (h : filePath f ≠ filePath g)

/-- What stands at a path when a project is mirrored: below its directory what the files make up,
elsewhere what stood there before or, on the way to the directory, a new directory. -/
def mirroredItem (state : State) (projectName : String) (files : List File) (path : List String) :
    Option Item :=
  let base := projectPath state.user projectName
  if base <+: path ∧ path ≠ base then shownItem state.user files (path.drop base.length)
  else (state.fs.itemAt? path).or (missingDirectory state.user base path)

section Mirrored

variable {state : State} {projectName : String} {files files' : List File}

/-- A project is obstructed by its name, the tree, or the files. -/
theorem obstructed_iff :
    Obstructed state projectName files ↔ Project.slug projectName = "" ∨
      Blocked (projectPath state.user projectName) state.fs.entries ∨ ¬ Placeable files := by
  constructor
  · rintro (h | ⟨p, a, content, onWay, h⟩ | ⟨f, hf, h⟩ | ⟨f, g, hf, hg, below, h⟩)
    · exact .inl h
    · refine .inr (.inl ⟨p, a, content, onWay, ?_⟩)
      cases p with
      | nil => cases h
      | cons name p => rwa [Directory.itemAt?_cons] at h
    · refine .inr (.inr fun all => ?_)
      obtain ⟨hne, single, double⟩ := all.named f hf
      exact h.elim hne fun h => h.elim single double
    · exact .inr (.inr fun all => h (all.apart f hf g hg below))
  · rintro (h | ⟨p, a, content, onWay, h⟩ | bad)
    · exact .unnamed h
    · refine .blocked p a content onWay ?_
      cases p with
      | nil => cases h
      | cons name p => rwa [Directory.itemAt?_cons]
    · by_contra free
      refine bad ⟨fun f hf => ?_, fun f hf g hg below => ?_⟩
      · by_contra h
        refine free (.misnamed f hf ?_)
        by_contra none_there
        push Not at none_there
        exact h none_there
      · by_contra h
        exact free (.nested f g hf hg below h)

/-- The tree in which the directory of the project shows the files mirrors the project. -/
theorem itemAt?_of_refills {shown entries : Branch} (showing : Showing state.user files shown)
    (refills : Refills state.user (projectPath state.user projectName) shown state.fs.entries
      entries) (path : List String) :
    ({ state.fs with entries } : Directory).itemAt? path =
      mirroredItem state projectName files path := by
  rw [mirroredItem]
  by_cases hq : projectPath state.user projectName <+: path ∧
      path ≠ projectPath state.user projectName
  · rw [if_pos hq]
    obtain ⟨⟨q, rfl⟩, hne⟩ := hq
    have hq : q ≠ [] := fun h => hne (by rw [h, List.append_nil])
    rw [List.drop_left, ← showing q hq, ← refills.below q hq]
    exact Directory.itemAt?_cons _
  · rw [if_neg hq]
    cases path with
    | nil => rfl
    | cons name q =>
      rw [Directory.itemAt?_cons, Directory.itemAt?_cons]
      exact refills.beside _ hq

/-- The tree with the files in place, if there is a directory for them. -/
theorem syncedTree?_of_slug (h : Project.slug projectName ≠ "") :
    syncedTree? state projectName files =
      (projectEntries state.user files).bind fun shown =>
        (withDirectory state.user (fun _ => some shown) (projectPath state.user projectName)
          state.fs.entries).map fun entries => { state.fs with entries } := by
  rw [syncedTree?, if_neg (by simpa using h)]
  cases projectEntries state.user files with
  | none => rfl
  | some shown => exact (Option.map_eq_bind ..).symm

/-- Either the tree mirrors the project and nothing obstructs it, or there is no such tree. -/
theorem syncedTree?_cases (state : State) (projectName : String) (files : List File) :
    (∃ fs, syncedTree? state projectName files = some fs ∧
        ¬ Obstructed state projectName files ∧
        ∀ path, fs.itemAt? path = mirroredItem state projectName files path) ∨
      syncedTree? state projectName files = none ∧ Obstructed state projectName files := by
  rw [obstructed_iff]
  by_cases hslug : Project.slug projectName = ""
  · exact .inr ⟨by simp [syncedTree?, hslug], .inl hslug⟩
  rw [syncedTree?_of_slug hslug]
  rcases projectEntries_cases state.user files with
    ⟨shown, hshown, placeable, showing⟩ | ⟨hnone, bad⟩
  · rw [hshown, Option.bind_some]
    cases h : withDirectory state.user (fun _ => some shown) (projectPath state.user projectName)
        state.fs.entries with
    | none =>
      rcases withDirectory_eq_none_iff.mp h with blocked | impossible
      · exact .inr ⟨rfl, .inr (.inl blocked)⟩
      · cases impossible
    | some entries =>
      have clear : ¬ Blocked (projectPath state.user projectName) state.fs.entries := by
        intro blocked
        rw [withDirectory_eq_none_iff.mpr (.inl blocked)] at h
        cases h
      obtain ⟨inner, hinner, refills⟩ := withDirectory_refills h
      cases hinner
      refine .inl ⟨_, rfl, ?_, itemAt?_of_refills showing refills⟩
      rintro (unnamed | blocked | bad)
      · exact hslug unnamed
      · exact clear blocked
      · exact bad placeable
  · rw [hnone]
    exact .inr ⟨rfl, .inr (.inr bad)⟩

/-- Nor does it matter to whether they can be shown. -/
theorem Obstructed.perm (perm : files.Perm files') :
    Obstructed state projectName files ↔ Obstructed state projectName files' := by
  have placeable : Placeable files ↔ Placeable files' := by
    constructor
    · exact fun all => ⟨fun f hf => all.named f (perm.mem_iff.mpr hf), fun f hf g hg =>
        all.apart f (perm.mem_iff.mpr hf) g (perm.mem_iff.mpr hg)⟩
    · exact fun all => ⟨fun f hf => all.named f (perm.mem_iff.mp hf), fun f hf g hg =>
        all.apart f (perm.mem_iff.mp hf) g (perm.mem_iff.mp hg)⟩
  rw [obstructed_iff, obstructed_iff, placeable]

/-- The files cannot be shown if something is in the way. -/
theorem syncedTree?_eq_none_iff :
    syncedTree? state projectName files = none ↔ Obstructed state projectName files := by
  rcases syncedTree?_cases state projectName files with ⟨fs, h, free, -⟩ | ⟨h, obstructed⟩
  · simp [h, free]
  · simp [h, obstructed]

/-- Then the tree starts afresh. -/
theorem sync_fs (projectName : String) (files : List File) (s : Session) :
    (s.sync projectName files).state.fs =
      (syncedTree? s.state projectName files).getD (.initial s.state.user) := by
  rw [sync, save]

/-- The tree depends on the tree and the user before. -/
theorem sync_fs_congr {s s' : Session} (fs : s'.state.fs = s.state.fs)
    (user : s'.state.user = s.state.user) (projectName : String) (files : List File) :
    (s'.sync projectName files).state.fs = (s.sync projectName files).state.fs := by
  rw [sync_fs, sync_fs, syncedTree?, syncedTree?, fs, user]

/-- Nothing but the tree and what is persisted changes. -/
theorem sync_eq (projectName : String) (files : List File) (s : Session) :
    s.sync projectName files =
      ({ s with state := { s.state with fs := (s.sync projectName files).state.fs } } :
        Session).save := by
  rw [sync_fs, sync]

/-- The tree of an obstructed project is a new one. -/
theorem sync_fs_of_obstructed {s : Session} (h : Obstructed s.state projectName files) :
    (s.sync projectName files).state.fs = Directory.initial s.state.user := by
  rw [sync_fs, syncedTree?_eq_none_iff.mpr h, Option.getD_none]

/-- The tree of a project that is not obstructed mirrors the project. -/
theorem sync_items {s : Session} (h : ¬ Obstructed s.state projectName files)
    (path : List String) :
    (s.sync projectName files).state.fs.itemAt? path =
      mirroredItem s.state projectName files path := by
  rw [sync_fs]
  rcases syncedTree?_cases s.state projectName files with ⟨fs, hfs, -, items⟩ | ⟨-, obstructed⟩
  · rw [hfs, Option.getD_some, items]
  · exact absurd obstructed h

/-- Files with different paths lead to the same tree in every order. -/
theorem sync_items_perm {s : Session} (perm : files.Perm files')
    (distinct : (files.map filePath).Nodup) (path : List String) :
    (s.sync projectName files').state.fs.itemAt? path =
      (s.sync projectName files).state.fs.itemAt? path := by
  by_cases h : Obstructed s.state projectName files
  · rw [sync_fs_of_obstructed h, sync_fs_of_obstructed ((Obstructed.perm perm).mp h)]
  · rw [sync_items h, sync_items (mt (Obstructed.perm perm).mpr h), mirroredItem, mirroredItem,
      shownItem_perm perm distinct]

/-- Synchronizing a project starts with a new tree exactly if something obstructs the project, and
otherwise the tree has at every path what mirroring the project puts or leaves there. The order of
files with different paths does not count. Nothing but the tree changes in the state, and the state
is persisted in both cases. -/
theorem sync_mirrors (projectName : String) (files : List File) (s : Session) :
    let synced := s.sync projectName files
    (syncedTree? s.state projectName files = none ↔ Obstructed s.state projectName files) ∧
    (Obstructed s.state projectName files →
      synced.state.fs = Directory.initial s.state.user) ∧
    (¬ Obstructed s.state projectName files →
      ∀ path, synced.state.fs.itemAt? path = mirroredItem s.state projectName files path) ∧
    (∀ files' : List File, files.Perm files' → (files.map filePath).Nodup →
      ∀ path, (s.sync projectName files').state.fs.itemAt? path =
        synced.state.fs.itemAt? path) ∧
    synced = ({ s with state := { s.state with fs := synced.state.fs } } : Session).save := by
  refine ⟨syncedTree?_eq_none_iff, sync_fs_of_obstructed, sync_items, ?_, ?_⟩
  · exact fun files' perm distinct path => sync_items_perm perm distinct path
  · exact sync_eq projectName files s

/-- Of two files with one path the last one is shown, below a directory that only they need. -/
theorem sync_mirrors_same_path :
    let s : Session := ⟨.empty, defaultKey, "user", .initial "user"⟩
    let files : List File :=
      [⟨"1", "src/a.js", "old", "javascript"⟩, ⟨"2", "/src//a.js", "new", "javascript"⟩]
    ¬ Obstructed s.state "My App" files ∧
      (s.sync "My App" files).state.fs.itemAt?
          ["home", "user", "projects", "my_app", "src", "a.js"] =
        some (.file ⟨"a.js", "user", .ofFile⟩ "new") := by
  intro s files
  obtain ⟨fails, -, items, -, -⟩ := sync_mirrors "My App" files s
  have free : ¬ Obstructed s.state "My App" files := by
    rw [← fails]
    decide +kernel
  refine ⟨free, ?_⟩
  rw [items free]
  decide +kernel

end Mirrored

end Workbench.Session
