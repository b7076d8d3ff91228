import Workbench.Project.Store
import Mathlib.Data.List.Nodup
import Mathlib.Logic.Function.Basic

/-!
# What the calls of a store in memory do

Files in memory are told apart by their ids: `Memory.Sound` says that ids are distinct and that the
next one is new. It holds of the empty store and is kept by every call, refused or not.

A file that was given a new content is otherwise the file it was, so the files of a store after any
number of updates are those before under a `Revision`, which maps ids to the contents that were
given last. Looking a file up by its name does not depend on contents (`findFile?_revise`).
-/

namespace Workbench.Project

/-! ## Revisions -/

/-- The contents that files were given last, by id. -/
abbrev Revision := String → Option String

/-- The file as it is after a revision. -/
def File.revise (c : Revision) (f : File) : File :=
  { f with content := (c f.id).getD f.content }

/-- A revision leaves ids alone. -/
@[simp] theorem File.revise_id (c : Revision) (f : File) : (f.revise c).id = f.id := rfl

/-- A revision leaves names alone. -/
@[simp] theorem File.revise_name (c : Revision) (f : File) : (f.revise c).name = f.name := rfl

/-- A revision followed by a new content for one id. -/
theorem File.revise_update (c : Revision) (id content : String) (f : File) :
    f.revise (Function.update c id (some content)) =
      if (f.revise c).id == id then { f.revise c with content } else f.revise c := by
  by_cases h : f.id = id
  · subst h
    simp [File.revise]
  · simp [File.revise, h]

/-- Of two revisions the later one counts. -/
theorem File.revise_revise (c c' : Revision) (f : File) :
    (f.revise c).revise c' = f.revise fun id => (c' id).or (c id) := by
  cases h : c' f.id <;> simp [File.revise, h]

/-- Looking a file up does not depend on contents. -/
theorem findFile?_revise (c : Revision) (files : List File) (name : String) :
    findFile? (files.map (File.revise c)) name = (findFile? files name).map (File.revise c) := by
  unfold findFile?
  rw [List.find?_map]
  rfl

/-- A file that is found keeps being found when files are added behind it. -/
theorem findFile?_append_of_some {files : List File} {name : String} {f : File}
    (h : findFile? files name = some f) (more : List File) :
    findFile? (files ++ more) name = some f := by
  unfold findFile? at h ⊢
  rw [List.find?_append, h, Option.some_or]

/-- A file that is not among the first is looked for among the others. -/
theorem findFile?_append_of_none {files : List File} {name : String}
    (h : findFile? files name = none) (more : List File) :
    findFile? (files ++ more) name = findFile? more name := by
  unfold findFile? at h ⊢
  rw [List.find?_append, h, Option.none_or]

/-- A file that is found has the name that was looked for, but for case. -/
theorem lower_name_of_findFile? {files : List File} {name : String} {f : File}
    (h : findFile? files name = some f) : Text.lower f.name = Text.lower name := by
  have := List.find?_some h
  simpa [File.isNamed] using this

/-- Names that differ in case only mean the same file. -/
theorem findFile?_of_lower_eq {name name' : String} (same : Text.lower name = Text.lower name')
    (files : List File) : findFile? files name = findFile? files name' := by
  unfold findFile? File.isNamed
  rw [same]

/-- A file that is found is there. -/
theorem mem_of_findFile? {files : List File} {name : String} {f : File}
    (h : findFile? files name = some f) : f ∈ files :=
  List.mem_of_find?_eq_some h

/-- Among files whose names differ in more than case, one at most is left of those that have the
name of one of them. -/
theorem filter_eq_singleton {files : List File} {p : File → Bool} {f : File}
    (once : (files.map fun f => Text.lower f.name).Nodup) (hf : f ∈ files) (taken : p f = true)
    (named : ∀ g, p g = true → Text.lower g.name = Text.lower f.name) : files.filter p = [f] := by
  induction files with
  | nil => exact absurd hf List.not_mem_nil
  | cons g files ih =>
    obtain ⟨apart, once⟩ := List.nodup_cons.mp once
    rcases List.mem_cons.mp hf with rfl | hf
    · have rest : files.filter p = [] := by
        refine List.filter_eq_nil_iff.mpr fun x hx same => apart ?_
        exact List.mem_map.mpr ⟨x, hx, named x same⟩
      rw [List.filter_cons_of_pos taken, rest]
    · have other : ¬ p g = true := fun same =>
        apart (List.mem_map.mpr ⟨f, hf, (named g same).symm⟩)
      rw [List.filter_cons_of_neg other]
      exact ih once hf

namespace Memory

/-! ## Ids -/

/-- Different numbers make different ids. -/
theorem fileId_injective : Function.Injective fileId := by
  intro m n h
  -- an id ends in the decimal digits of its number
  have hrepr : m.repr.toList = n.repr.toList := by
    have := congrArg String.toList h
    simpa [fileId, toString] using this
  rw [Nat.toList_repr, Nat.toList_repr] at hrepr
  rw [← Nat.ofDigitChars_ten_toDigits (n := m), hrepr, Nat.ofDigitChars_ten_toDigits]

/-- The files of a store are told apart by their ids, and the next id is new. -/
structure Sound (m : Memory) : Prop where
  distinct : (m.held.map (·.2.id)).Nodup
  given : ∀ entry ∈ m.held, ∃ n ≤ m.made, entry.2.id = fileId n

/-- Without files there is nothing that could be wrong. -/
theorem empty_sound : empty.Sound :=
  ⟨List.nodup_nil, fun _ h => absurd h List.not_mem_nil⟩

/-- The next id is not that of a file. -/
theorem Sound.fileId_ne {m : Memory} (h : m.Sound) {entry : String × File}
    (mem : entry ∈ m.held) : entry.2.id ≠ fileId (m.made + 1) := by
  intro same
  obtain ⟨n, hn, hid⟩ := h.given entry mem
  have := fileId_injective (hid.symm.trans same)
  omega

/-- Entries of a sound store with the same id are the same entry. -/
theorem Sound.eq_of_id_eq {m : Memory} (h : m.Sound) {e e' : String × File} (he : e ∈ m.held)
    (he' : e' ∈ m.held) (same : e.2.id = e'.2.id) : e = e' :=
  List.inj_on_of_nodup_map h.distinct he he' same

/-- A file is created under a new id. -/
theorem Sound.seed {m : Memory} (h : m.Sound) (project name content language : String) :
    (m.seed project name content language).2.Sound := by
  unfold Memory.seed
  refine ⟨?_, ?_⟩
  · simp only [List.map_append, List.map_cons, List.map_nil]
    refine List.nodup_append.mpr ⟨h.distinct, List.nodup_singleton _, ?_⟩
    rintro id hid id' hid' rfl
    obtain ⟨entry, mem, rfl⟩ := List.mem_map.mp hid
    exact h.fileId_ne mem (List.mem_singleton.mp hid')
  · intro entry mem
    rcases List.mem_append.mp mem with mem | mem
    · obtain ⟨n, hn, hid⟩ := h.given entry mem
      exact ⟨n, Nat.le_succ_of_le hn, hid⟩
    · obtain rfl := List.mem_singleton.mp mem
      exact ⟨m.made + 1, Nat.le_refl _, rfl⟩

/-! Every call keeps a store sound, whether it is refused or not. -/

/-- A refused call is logged only, so that soundness is up to the others. -/
theorem Sound.attempt {m : Memory} (h : m.Sound) {α : Type} (call : Call)
    {act : Memory → Except Failure α × Memory} (keeps : ∀ m : Memory, m.Sound → (act m).2.Sound) :
    (m.attempt call act).2.Sound := by
  have logged : ({ m with calls := m.calls ++ [call] } : Memory).Sound := ⟨h.distinct, h.given⟩
  unfold Memory.attempt
  dsimp only
  split
  · exact logged
  · exact keeps _ logged

/-- Listing creates nothing. -/
theorem Sound.list {m : Memory} (h : m.Sound) (project : String) : (m.list project).2.Sound :=
  h.attempt _ fun _ h => h

/-- A file that a call creates has a new id. -/
theorem Sound.create {m : Memory} (h : m.Sound) (project name content language : String) :
    (m.create project name content language).2.Sound :=
  h.attempt _ fun _ h => h.seed project name content language

/-- A new content is no new id. -/
theorem Sound.update {m : Memory} (h : m.Sound) (id content : String) :
    (m.update id content).2.Sound := by
  refine h.attempt _ fun m h => ?_
  have id_eq (f : File) : (if f.id == id then { f with content } else f).id = f.id := by
    split <;> rfl
  split
  · refine ⟨?_, fun entry mem => ?_⟩
    · have ids : m.held.map (·.2.id) = _ := List.map_congr_left fun e _ => (id_eq e.2).symm
      rw [List.map_map]
      exact ids ▸ h.distinct
    · obtain ⟨e, he, rfl⟩ := List.mem_map.mp mem
      obtain ⟨n, hn, given⟩ := h.given e he
      exact ⟨n, hn, (id_eq e.2).trans given⟩
  · exact h

/-- Deleting leaves the ids of the others alone. -/
theorem Sound.delete {m : Memory} (h : m.Sound) (id : String) : (m.delete id).2.Sound := by
  refine h.attempt _ fun m h => ?_
  split
  · exact ⟨h.distinct.sublist (List.filter_sublist.map _),
      fun entry mem => h.given entry (List.mem_of_mem_filter mem)⟩
  · exact h

/-! ## Listings -/

/-- The files of a project among entries. -/
def filesOf (project : String) (entries : List (String × File)) : List File :=
  (entries.filter (·.1 == project)).map (·.2)

/-- An entry as it is after a revision. -/
def reviseEntry (c : Revision) (e : String × File) : String × File :=
  (e.1, e.2.revise c)

theorem listing_eq_filesOf (m : Memory) (project : String) :
    m.listing project = filesOf project m.held := rfl

/-- What is listed depends on what is held only. -/
theorem listing_congr {m m' : Memory} (held : m'.held = m.held) (project : String) :
    m'.listing project = m.listing project := by
  unfold listing
  rw [held]

/-- The files of a project are taken in order. -/
theorem filesOf_append (project : String) (entries more : List (String × File)) :
    filesOf project (entries ++ more) = filesOf project entries ++ filesOf project more := by
  simp [filesOf]

/-- A revision of everything revises the files of each project. -/
theorem filesOf_map_reviseEntry (project : String) (c : Revision)
    (entries : List (String × File)) :
    filesOf project (entries.map (reviseEntry c)) =
      (filesOf project entries).map (File.revise c) := by
  simp [filesOf, List.filter_map, Function.comp_def, reviseEntry]

theorem filesOf_map_mk (project : String) (files : List File) :
    filesOf project (files.map (project, ·)) = files := by
  simp [filesOf, List.filter_map, Function.comp_def]

/-- A file is one of a project if it is held under it. -/
theorem mem_filesOf {project : String} {entries : List (String × File)} {f : File} :
    f ∈ filesOf project entries ↔ (project, f) ∈ entries := by
  simp [filesOf]

/-- A file that is added is listed last. -/
theorem listing_seed (m : Memory) (project name content language : String) :
    (m.seed project name content language).2.listing project =
      m.listing project ++ [(m.seed project name content language).1] := by
  simp [seed, listing]

/-- Files that are listed have different ids. -/
theorem Sound.nodup_listing {m : Memory} (h : m.Sound) (project : String) :
    ((m.listing project).map (·.id)).Nodup := by
  have := (List.filter_sublist (p := fun e => e.1 == project) (l := m.held)).map (·.2.id)
  rw [listing_eq_filesOf, filesOf, List.map_map]
  exact h.distinct.sublist this

/-! ## Calls that are not refused -/

/-- The store after a call was logged. -/
def log (call : Call) (m : Memory) : Memory :=
  { m with calls := m.calls ++ [call] }

/-- The store refuses no call. -/
def Willing (m : Memory) : Prop :=
  ∀ calls call, m.refusal calls call = none

/-- The store refuses no listing. -/
def Readable (m : Memory) : Prop :=
  ∀ calls project, m.refusal calls (.list project) = none

variable {m : Memory}

theorem Sound.log (h : m.Sound) (call : Call) : (m.log call).Sound :=
  ⟨h.distinct, h.given⟩

/-- A willing store carries every call out. -/
theorem attempt_of_willing {α : Type} (h : m.Willing) (call : Call)
    (act : Memory → Except Failure α × Memory) : m.attempt call act = act (m.log call) := by
  unfold attempt
  rw [h]
  rfl

/-- A willing store can be read. -/
theorem Willing.readable (h : m.Willing) : m.Readable :=
  fun calls project => h calls (.list project)

/-- A list is answered with the files of the project. -/
theorem list_of_readable (h : m.Readable) (project : String) :
    m.list project = (.ok (m.listing project), m.log (.list project)) := by
  unfold list attempt
  rw [h]
  rfl

/-- So it is by a willing store. -/
theorem list_of_willing (h : m.Willing) (project : String) :
    m.list project = (.ok (m.listing project), m.log (.list project)) :=
  list_of_readable h.readable project

/-- A willing store creates each file that it is asked to. -/
theorem create_of_willing (h : m.Willing) (project name content language : String) :
    m.create project name content language =
      (.ok (m.seed project name content language).1,
        (m.seed project name content language).2.log
          (.create project name content language)) :=
  attempt_of_willing h _ _

/-- A willing store writes each file that it holds. -/
theorem update_of_willing (h : m.Willing) {id : String} (held : m.holds id = true)
    (content : String) :
    m.update id content = (.ok (), { m.log (.update id content) with
      held := m.held.map fun (project, f) =>
        (project, if f.id == id then { f with content } else f) }) := by
  unfold update
  rw [attempt_of_willing h]
  exact if_pos held

/-- A new content for one file is a revision of all. -/
theorem held_update (c : Revision) (id content : String) (entries : List (String × File)) :
    ((entries.map (reviseEntry c)).map fun (project, f) =>
      (project, if f.id == id then { f with content } else f)) =
        entries.map (reviseEntry (Function.update c id (some content))) := by
  rw [List.map_map]
  refine List.map_congr_left fun e _ => ?_
  exact congrArg (e.1, ·) (File.revise_update c id content e.2).symm

/-- An id is held if a file has it. -/
theorem holds_iff {id : String} : m.holds id = true ↔ ∃ e ∈ m.held, e.2.id = id := by
  simp [holds]

end Memory

end Workbench.Project
