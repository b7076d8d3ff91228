import Workbench.Proofs.Project.Slug
import Workbench.Proofs.Session.Persistence
import Workbench.Proofs.Tree.Locations

/-!
# Reaching the files of a project

`sync` puts the files of a project below a directory whose key is the slug of the project, whatever
that is. They are looked for by the text of a path: the announced directory of the project and the
name of the file, cut at slashes and with the dots taken out. Key and text agree exactly if the slug
is a name. If it is not, because it holds a slash or is a single or double dot, the path leads past
the directory, and what is found at its end is what was there before.
-/

namespace Workbench.Session

open Workbench.Tree (Directory Flawless IsName Suits)
open Project (File slug)

/-- The path at which a file of a project is looked for: its name below the directory that is
announced for the project. -/
def announcedPath (s : Session) (projectName : String) (file : File) : String :=
  s.projectDirectory projectName ++ "/" ++ file.name

/-- At its announced path a file with its content is found. -/
def Reaches (s : Session) (projectName : String) (file : File) : Prop :=
  ∃ a, (Tree.resolve (s.announcedPath projectName file) s.state.cwd s.state.fs).node =
    some (.file a file.content)

variable {s : Session} {projectName : String} {file : File} {files : List File}

/-! ## Where an announced path leads -/

/-- The directory that is announced for a project. -/
theorem projectDirectory_eq (s : Session) (projectName : String) :
    s.projectDirectory projectName =
      "/home/" ++ s.state.user ++ "/projects/" ++ slug projectName := rfl

/-- The segments of a path that is announced. -/
theorem segments_announcedPath (valid : IsName s.state.user) :
    Tree.segments (s.announcedPath projectName file) =
      ["home", s.state.user, "projects"] ++ Tree.segments (slug projectName) ++ filePath file := by
  have parts : s.announcedPath projectName file =
      Tree.absolute ["home", s.state.user, "projects"] ++ "/" ++ slug projectName ++ "/" ++
        file.name := by
    apply String.toList_injective
    simp [announcedPath, projectDirectory_eq, Tree.absolute]
  have named : ∀ s' ∈ ["home", s.state.user, "projects"], s' ≠ "" ∧ '/' ∉ s'.toList := by
    simp only [List.forall_mem_cons, List.not_mem_nil, false_implies, implies_true, and_true]
    exact ⟨by decide +kernel, ⟨valid.nonempty, valid.noSlash⟩, by decide +kernel⟩
  rw [parts, Tree.segments_append, Tree.segments_append, Tree.segments_absolute named]

/-- Where a path that is announced leads to. -/
theorem normalize_announcedPath (valid : IsName s.state.user) (cwd : String) :
    Tree.normalize (s.announcedPath projectName file) cwd = Tree.withoutDots
      (["home", s.state.user, "projects"] ++ Tree.segments (slug projectName) ++ filePath file) := by
  have front : Tree.rawSegments (s.announcedPath projectName file) cwd =
      Tree.segments (s.announcedPath projectName file) := by
    rw [Tree.rawSegments, announcedPath, projectDirectory_eq]
    simp
  rw [Tree.normalize, front, segments_announcedPath valid]

/-- If the slug is a name, a path of names leads below the key under which `sync` puts the files. -/
theorem normalize_announcedPath_of_isName (valid : IsName s.state.user)
    (named : IsName (slug projectName)) (plain : "." ∉ filePath file ∧ ".." ∉ filePath file)
    (cwd : String) : Tree.normalize (s.announcedPath projectName file) cwd =
      projectPath s.state.user projectName ++ filePath file := by
  have whole : Tree.segments (slug projectName) = [slug projectName] := by
    have single : Tree.segments ("/".intercalate [slug projectName]) = [slug projectName] :=
      Tree.segments_intercalate (by simpa using ⟨named.nonempty, named.noSlash⟩)
    rwa [String.intercalate_singleton] at single
  rw [normalize_announcedPath valid, whole, projectPath]
  refine Tree.withoutDots_eq_self fun segment mem => ?_
  simp only [List.mem_append, List.mem_cons, List.not_mem_nil, or_false] at mem
  rcases mem with ((rfl | rfl | rfl) | rfl) | below
  · exact ⟨by decide, by decide⟩
  · exact ⟨valid.notDot, valid.notDotDot⟩
  · exact ⟨by decide, by decide⟩
  · exact ⟨named.notDot, named.notDotDot⟩
  · exact ⟨fun h => plain.1 (h ▸ below), fun h => plain.2 (h ▸ below)⟩

/-- A file is found by the item at the end of its announced path. -/
theorem reaches_iff : s.Reaches projectName file ↔ ∃ a,
    s.state.fs.itemAt? (Tree.normalize (s.announcedPath projectName file) s.state.cwd) =
      some (.file a file.content) := by
  have filled : s.announcedPath projectName file ≠ "" := by
    intro empty
    have := congrArg String.toList empty
    simp [announcedPath, projectDirectory_eq] at this
  have item (node : Option Tree.Node) (a : Tree.Attributes) :
      node = some (.file a file.content) ↔ node.map Tree.Node.item =
        some (.file a file.content) := by
    rcases node with _ | ⟨b, content⟩ | ⟨b, entries⟩ <;> simp [Tree.Node.item]
  rw [Reaches, Tree.resolve_node filled]
  exact exists_congr fun a => item _ a

/-! ## What is found after mirroring -/

/-- Files for different paths are each found at their own. -/
theorem lastAt?_of_mem (distinct : (files.map filePath).Nodup) (mem : file ∈ files) :
    lastAt? files (filePath file) = some file := by
  cases found : lastAt? files (filePath file) with
  | none => exact absurd rfl (lastAt?_eq_none_iff.mp found file mem)
  | some other =>
    obtain ⟨hother, same⟩ := mem_of_lastAt? found
    rw [List.inj_on_of_nodup_map distinct hother mem same]

section Mirrored

variable {after : Session} (user : after.state.user = s.state.user)
variable (items : ∀ path, after.state.fs.itemAt? path =
  mirroredItem s.state projectName files path)

include user items

/-- If the slug is a name, every file is found where it is announced. -/
theorem reaches_of_mirrored (valid : IsName s.state.user) (named : IsName (slug projectName))
    (placeable : Placeable files) (distinct : (files.map filePath).Nodup) (mem : file ∈ files) :
    after.Reaches projectName file := by
  obtain ⟨nonempty, plain⟩ := placeable.named file mem
  have below : projectPath s.state.user projectName <+:
        projectPath s.state.user projectName ++ filePath file ∧
      projectPath s.state.user projectName ++ filePath file ≠
        projectPath s.state.user projectName :=
    ⟨List.prefix_append _ _, by simpa using nonempty⟩
  rw [reaches_iff, normalize_announcedPath_of_isName (user ▸ valid) named plain, user, items,
    mirroredItem, if_pos below, List.drop_left, shownItem, lastAt?_of_mem distinct mem]
  exact ⟨_, rfl⟩

/-- If the slug is not a name, mirroring changes nothing where files are looked for. -/
theorem reaches_mirrored_iff (valid : IsName s.state.user) (unnamed : ¬ IsName (slug projectName)) :
    after.Reaches projectName file ↔ s.Reaches projectName file := by
  have path : Tree.normalize (after.announcedPath projectName file) after.state.cwd =
      Tree.normalize (s.announcedPath projectName file) s.state.cwd := by
    rw [normalize_announcedPath (user ▸ valid), normalize_announcedPath valid, user]
  rw [reaches_iff, reaches_iff, path, items]
  set target := Tree.normalize (s.announcedPath projectName file) s.state.cwd with ends
  -- the segments of a normal form are names, and the slug would be one of them
  have past : ¬ projectPath s.state.user projectName <+: target := fun below =>
    unnamed (Tree.isName_of_mem_normalize (ends ▸ below.subset (by simp [projectPath])))
  rw [mirroredItem, if_neg fun h => past h.1]
  cases before : s.state.fs.itemAt? target with
  | some item => rw [Option.some_or]
  | none =>
    rw [Option.none_or, missingDirectory]
    split <;> simp

end Mirrored

/-- Neither a node nor anything below it is a file. -/
def Fileless (node : Tree.Node) : Prop :=
  ∀ path a content, node.itemAt? path ≠ some (.file a content)

/-- A directory without files further inside. -/
theorem Fileless.directory {a : Tree.Attributes} {entries : Tree.Branch}
    (h : ∀ entry ∈ entries, Fileless entry.2) : Fileless (.directory a entries) := by
  intro path b content
  cases path with
  | nil => simp [Tree.Node.item]
  | cons name path =>
    rw [Tree.Node.itemAt?_directory_cons]
    cases hl : Entries.lookup name entries with
    | none => simp [Tree.itemIn_of_lookup_none hl]
    | some child =>
      rw [Tree.itemIn_of_lookup_some hl]
      exact h _ (Entries.mem_of_lookup hl) path b content

/-- In a new session no file is found. -/
theorem not_reaches_of_initial (fresh : s.state = .initial s.user) (projectName : String)
    (file : File) : ¬ s.Reaches projectName file := by
  have empty (b : Tree.Attributes) : Fileless (.directory b []) := .directory (by simp)
  have only (b : Tree.Attributes) (name : String) {child : Tree.Node} (h : Fileless child) :
      Fileless (.directory b [(name, child)]) := .directory (by simpa using h)
  have tree : Fileless (Directory.initial s.user).node :=
    .directory (by
      simp only [Directory.initial, List.forall_mem_cons, List.not_mem_nil, false_implies,
        implies_true, and_true]
      exact ⟨only _ _ (only _ _ (empty _)), empty _⟩)
  rw [reaches_iff, fresh]
  exact fun ⟨a, found⟩ => tree _ a _ found

/-! ## Flaws -/

/-- A name without slashes is without flaws. -/
theorem suits_flawless {name : String} (nonempty : name ≠ "") (apart : '/' ∉ name.toList) :
    Suits Flawless name :=
  fun _ _ => ⟨nonempty, apart, rfl⟩

/-- Commands make such names only. -/
theorem admits_flawless : Shell.Admits Flawless :=
  fun _ _ _ valid => ⟨valid.nonempty, valid.noSlash, rfl⟩

/-- The directory of a project is there after mirroring, so its slug holds no slash if there are no
flaws. -/
theorem slash_not_mem_of_mirrored {fs : Directory}
    (items : ∀ path, fs.itemAt? path = mirroredItem s.state projectName files path)
    (flawless : fs.node.flaws "/" = []) : '/' ∉ (slug projectName).toList := by
  have there : (fs.itemAt? (projectPath s.state.user projectName)).isSome := by
    rw [items, mirroredItem, if_neg fun h => h.2 rfl, missingDirectory,
      if_pos ⟨by simp [projectPath], List.prefix_rfl⟩]
    simp
  obtain ⟨node, found⟩ := Option.isSome_iff_exists.mp (Option.isSome_map.symm.trans there)
  have last : slug projectName ∈ projectPath s.state.user projectName := by simp [projectPath]
  exact (Tree.flawless_of_mem_of_get? flawless found last).2

/-- Mirroring a project in a flawless tree leaves a flaw exactly if the name of the project holds a
slash: the directory is stored under a key with a slash then. -/
theorem flaws_sync_eq_nil_iff (valid : IsName s.state.user) (tree : s.state.fs.Fit Flawless)
    (free : ¬ Obstructed s.state projectName files) :
    (s.sync projectName files).state.fs.node.flaws "/" = [] ↔ '/' ∉ projectName.toList := by
  rw [← Project.slash_mem_slug_iff]
  constructor
  · exact slash_not_mem_of_mirrored (sync_items free)
  · intro apart
    have named : slug projectName ≠ "" := fun h => free (.unnamed h)
    have fit := sync_fit admits_flawless (suits_flawless valid.nonempty valid.noSlash) projectName
      files (fun _ => suits_flawless named apart) tree
    exact Directory.Fit.flaws_eq_nil fit "/"

/-! ## Sessions of one user -/

/-- A session that was started afresh for a user whose name can be a segment of a path has done
anything, and mirrors a project whose name is not blank, with files that can be shown together, and
no file is in the way. The name is *plain* if it holds no slash and is not a single or double dot.

If it is, every file is found with its content where it is announced. If it is not, files are found
there that were found before, and no others. There is no flaw in the tree exactly if the name holds
no slash, unless an earlier project had a name with a slash. So in a session that did nothing
before, all is well exactly if the name is plain. -/
theorem reaches_mirrored_files_iff (s : Session) (ops : List Operation) (projectName : String)
    (files : List File) (fresh : s.state = .initial s.user) (valid : IsName s.user)
    (visible : Text.isBlankText projectName = false) (placeable : Placeable files)
    (distinct : (files.map filePath).Nodup) (clear : ¬ Barred (run ops s).state projectName) :
    let before := run ops s
    let after := before.sync projectName files
    let plain := '/' ∉ projectName.toList ∧ Text.trimmed projectName ≠ "." ∧
      Text.trimmed projectName ≠ ".."
    (plain → ∀ f ∈ files, after.Reaches projectName f) ∧
    (¬ plain → ∀ f, after.Reaches projectName f ↔ before.Reaches projectName f) ∧
    ((∀ op ∈ ops, ∀ name, op.Syncs name → '/' ∉ name.toList) →
      (after.state.fs.node.flaws "/" = [] ↔ '/' ∉ projectName.toList)) ∧
    (ops = [] → files ≠ [] →
      ((after.state.fs.node.flaws "/" = [] ∧ ∀ f ∈ files, after.Reaches projectName f) ↔ plain)) := by
  intro before after plain
  have same : s.state.user = s.user := by rw [fresh, Shell.State.initial]
  have user : IsName before.state.user := by
    rw [run_user ops same]
    exact valid
  have free : ¬ Obstructed before.state projectName files := by
    rw [obstructed_iff]
    rintro (unnamed | barred | bad)
    · exact Project.slug_ne_empty visible unnamed
    · exact clear barred
    · exact bad placeable
  have kept : after.state.user = before.state.user := sync_user projectName files before
  have items := sync_items free
  have slug_iff : IsName (slug projectName) ↔ plain := Project.isName_slug_iff visible
  have found : plain → ∀ f ∈ files, after.Reaches projectName f :=
    fun h f hf => reaches_of_mirrored kept items user (slug_iff.mpr h) placeable distinct hf
  have past : ¬ plain → ∀ f, after.Reaches projectName f ↔ before.Reaches projectName f :=
    fun h f => reaches_mirrored_iff kept items user (mt slug_iff.mp h)
  have flaws : (∀ op ∈ ops, ∀ name, op.Syncs name → '/' ∉ name.toList) →
      (after.state.fs.node.flaws "/" = [] ↔ '/' ∉ projectName.toList) := by
    intro earlier
    have suits : Suits Flawless s.user := suits_flawless valid.nonempty valid.noSlash
    have tree : s.state.fs.Fit Flawless := fresh ▸ initial_fit admits_flawless suits
    refine flaws_sync_eq_nil_iff user (run_fit admits_flawless (same ▸ suits) suits ops ?_ tree) free
    intro op hop name syncs
    have nonempty : slug name ≠ "" := by
      cases op with
      | sync other _ => exact syncs.1 ▸ syncs.2
      | _ => exact syncs.elim
    exact suits_flawless nonempty (mt Project.slash_mem_slug_iff.mp (earlier op hop name syncs))
  refine ⟨found, past, flaws, fun nothing some_file => ⟨fun ⟨_, all⟩ => ?_, fun h => ?_⟩⟩
  · by_contra bad
    obtain ⟨f, hf⟩ := List.exists_mem_of_ne_nil files some_file
    have earlier : before = s := by rw [show before = run ops s from rfl, nothing, run, List.foldl_nil]
    exact not_reaches_of_initial fresh projectName f (earlier ▸ (past bad f).mp (all f hf))
  · refine ⟨(flaws ?_).mpr h.1, found h⟩
    rw [nothing]
    simp

/-- A project is found again after an older listing of it was shown. One whose name is a path is not
found, and neither is one whose name leads up. -/
theorem reaches_mirrored_files_iff_three_projects :
    let s : Session := ⟨.empty, defaultKey, "user", .initial "user"⟩
    let files : List File :=
      [⟨"1", "src//a.js", "new", "javascript"⟩, ⟨"2", "b.js", "", "javascript"⟩]
    let older : List Operation := [.sync "My App" [⟨"1", "src", "old", "javascript"⟩]]
    (∀ f ∈ files, ((run older s).sync "My App" files).Reaches "My App" f) ∧
      ¬ ((s.sync "a/b" files).state.fs.node.flaws "/" = [] ∧
        ∀ f ∈ files, (s.sync "a/b" files).Reaches "a/b" f) ∧
      (s.sync ".." files).state.fs.node.flaws "/" = [] ∧
      ¬ ∀ f ∈ files, (s.sync ".." files).Reaches ".." f := by
  intro s files older
  have valid : IsName s.user := ⟨by decide, by decide, by decide, by decide +kernel⟩
  have placeable : Placeable files := ⟨by decide +kernel, by decide +kernel⟩
  have distinct : (files.map filePath).Nodup := by decide +kernel
  obtain ⟨found, -, -, -⟩ := reaches_mirrored_files_iff s older "My App" files rfl valid
    (by decide +kernel) placeable distinct (not_barred_sync _ _ _)
  obtain ⟨-, -, -, slash⟩ := reaches_mirrored_files_iff s [] "a/b" files rfl valid
    (by decide +kernel) placeable distinct (not_barred_initial _ _)
  obtain ⟨-, past, flaws, -⟩ := reaches_mirrored_files_iff s [] ".." files rfl valid
    (by decide +kernel) placeable distinct (not_barred_initial _ _)
  refine ⟨found (by decide +kernel), fun all => ?_, (flaws (by simp)).mpr (by decide +kernel),
    fun all => ?_⟩
  · exact absurd ((slash rfl (by decide)).mp all).1 (by decide +kernel)
  · have before := (past (by decide +kernel) _).mp (all _ List.mem_cons_self)
    exact not_reaches_of_initial rfl ".." _ before

end Workbench.Session
