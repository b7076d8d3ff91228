import Workbench.Proofs.Project.Granting
import Workbench.Proofs.Review.Ownership
import Workbench.Proofs.Review.Unseen

/-!
# Applying patches to files that others change

A review finds the file of a patch among the files that it has cached, writes to the store, and
looks the file up again among those that the store lists. Other clients create, change and delete
files all the while, so what is cached and what is stored can differ in any way.

Two things connect them. Ids are never given again, and files are never renamed: a cached id that
the store still has belongs to a file of the cached name (`Memory.Names`), and to the open project
unless another one was opened whose files could not be listed. `Shares` are the reviews to which
this applies, with everything that they and the other clients did.

* `apply_reconciles`: a patch that is applied is the content of the only file of its name, unless
  the project has a file of that name which the review has never listed, or the cached file of the
  name is one of another project. In the first case that file stays as it is, and the patch is the
  content of a file beside it; in the second the patch goes to the other project.
* `apply_doubles_unlisted`, `apply_crosses_unlisted`: instances of the two.
-/

namespace Workbench

open Project (File Memory Store Call Revision findFile? findFile?_of_lower_eq mem_of_findFile?
  lower_name_of_findFile?)

/-! ## Names -/

namespace Project

/-- The files of a name can be told without their contents. -/
theorem filter_isNamed_revise (c : Revision) (files : List File) (name : String) :
    (files.map (File.revise c)).filter (·.isNamed name) =
      (files.filter (·.isNamed name)).map (File.revise c) :=
  List.filter_map

/-- Among files whose names differ in more than case only one has a given name. -/
theorem filter_isNamed_eq_singleton {files : List File} {name : String} {f : File}
    (once : (files.map fun f => Text.lower f.name).Nodup) (hf : f ∈ files)
    (named : Text.lower f.name = Text.lower name) : files.filter (·.isNamed name) = [f] :=
  filter_eq_singleton once hf (beq_iff_eq.mpr named) fun _ same => (eq_of_beq same).trans named.symm

/-- The first of the files of a name is the one that the name means. -/
theorem findFile?_of_filter {files rest : List File} {name : String} {f : File}
    (named : files.filter (·.isNamed name) = f :: rest) : findFile? files name = some f := by
  rw [findFile?, ← List.head?_filter, named]
  rfl

namespace Memory

variable {m m' : Memory} {files : List File} {project : String}

/-- The store has none of the ids under another name. -/
def Names (m : Memory) (files : List File) : Prop :=
  ∀ f ∈ files, ∀ e ∈ m.held, e.2.id = f.id → e.2.name = f.name

theorem Names.nil (m : Memory) : m.Names [] :=
  fun _ hf => absurd hf List.not_mem_nil

/-- No call renames a file. -/
theorem Names.perform (h : m.Names files) (cached : m.Cached files) (call : Call) :
    (m.perform call).Names files := by
  intro f hf e he hid
  have performed := m.performs call
  generalize m.perform call = m' at performed he
  cases performed with
  | kept => exact h f hf e he hid
  | created =>
    rcases List.mem_append.mp he with he | he
    · exact h f hf e he hid
    · rw [List.mem_singleton.mp he] at hid
      exact absurd hid.symm (cached.given f hf).ne_fileId
  | updated =>
    obtain ⟨d, hd, rfl⟩ := List.mem_map.mp he
    have unchanged : ∀ {id content : String} (g : File),
        (if g.id == id then { g with content } else g).id = g.id ∧
          (if g.id == id then { g with content } else g).name = g.name := by
      intro id content g
      split <;> exact ⟨rfl, rfl⟩
    exact (unchanged d.2).2.trans (h f hf d hd ((unchanged d.2).1.symm.trans hid))
  | deleted => exact h f hf e (List.mem_of_mem_filter he) hid

/-- Nor do any calls. -/
theorem Names.replay (h : m.Names files) (cached : m.Cached files) (calls : List Call) :
    (m.replay calls).Names files := by
  induction calls generalizing m with
  | nil => exact h
  | cons call calls ih => exact ih (h.perform cached call) (cached.perform call)

/-- The names that are listed are those in the store. -/
theorem Sound.names_listing (h : m.Sound) (project : String) : m.Names (m.listing project) := by
  intro f hf e he hid
  rw [h.eq_of_id_eq he (mem_filesOf.mp hf) hid]

/-- So is that of a file that was created. -/
theorem Creation.names {name : String} {file : File} (c : Creation m project name file m')
    (sound : m.Sound) (h : m'.Names files) : m'.Names (files ++ [file]) := by
  intro f hf e he hid
  rcases List.mem_append.mp hf with hf | hf
  · exact h f hf e he hid
  · rw [List.mem_singleton.mp hf] at hid ⊢
    rw [c.held_eq] at he
    rcases List.mem_append.mp he with he | he
    · exact absurd (hid.trans c.id_eq) (sound.fileId_ne he)
    · rw [List.mem_singleton.mp he]

end Memory

end Project

namespace Review

/-! ## What is cached -/

section Recaches

variable {v : Review} {m m' : Memory} {files files' : List File} {store : Store}

/-- Whatever is cached has the names of the store. -/
theorem Recaches.names (h : Recaches m files store files') (sound : m.Sound)
    (cached : m.Cached files) (names : m.Names files) (store_eq : store = .memory m') :
    m'.Names files' := by
  cases h with
  | idle =>
    obtain rfl := Store.memory.inj store_eq
    exact names
  | call call =>
    obtain rfl := Store.memory.inj store_eq
    exact names.perform cached call
  | create answer =>
    obtain rfl := Store.memory.inj store_eq
    exact (Memory.creation_of_create answer).names sound (names.perform cached _)
  | list project =>
    obtain rfl := Store.memory.inj store_eq
    exact (sound.names_listing project).perform (sound.cached_listing project) _

/-- However the tasks of patches go, what is cached keeps its names. -/
theorem Interleaving.names {patches : List Patch} {n : ℕ} {r : Round}
    (h : Interleaving (.start v patches) n r) (store_eq : v.store = .memory m) (sound : m.Sound)
    (cached : m.Cached v.files) (names : m.Names v.files) :
    ∃ sent, Guarded v.project (m.Shows v.project v.files) m sent r.review r.tasks ∧
      (m.replay sent).Names r.review.files := by
  have begun : (m.replay []).Names (Round.start v patches).review.files := names
  refine (keeps (P := fun r => ∃ sent,
    Guarded v.project (m.Shows v.project v.files) m sent r.review r.tasks ∧
      (m.replay sent).Names r.review.files)
    (fun _ => exists_congr fun _ => and_congr_left fun _ => Guarded.bare_iff) (fun _ _ => Iff.rfl)
    ⟨[], .start store_eq sound cached patches, begun⟩ (.start v patches) ?_ h).1
  rintro r i t e ⟨sent, hg, names⟩ - ht - - he
  obtain ⟨sent', hg'⟩ := hg.stride ht he
  exact ⟨sent', hg', (he.recaches hg.store_eq).names hg.sound hg.cached names hg'.store_eq⟩

end Recaches

/-! ## Runs -/

/-- `Shares stale v`: a review came to be `v` while other clients called its store. Patches are
applied in any interleaving, or only in part. After a project was opened, the files may be those of
another one (`stale`) until they are listed. -/
inductive Shares : Bool → Review → Prop
  | start {m : Memory} (sound : m.Sound) (project : Option String) (editor : Option Editor)
      (chunkSize : ℤ) (made : ℕ) :
      Shares false (start (.memory m) project editor chunkSize made)
  | others {stale : Bool} {v : Review} {m : Memory} (calls : List Call)
      (store_eq : v.store = .memory m) :
      Shares stale v → Shares stale { v with store := .memory (m.replay calls) }
  | «open» {stale : Bool} {v : Review} (project : String) :
      Shares stale v → Shares true { v with project := some project, pending := [] }
  | refresh {stale : Bool} {v : Review} :
      Shares stale v → Shares (stale && !v.refresh.1.isOk) v.refresh.2
  | round {stale : Bool} {v : Review} {patches : List Patch} {n : ℕ} {r : Round} :
      Shares stale v → Interleaving (.start v patches) n r → Shares stale r.review
  | parse {stale : Bool} {v : Review} (text : String) :
      Shares stale v → Shares stale (v.parse text).2
  | reject {stale : Bool} {v : Review} (patch : Patch) :
      Shares stale v → Shares stale (v.reject patch)
  | edit {stale : Bool} {v : Review} (editor : Option Editor) :
      Shares stale v → Shares stale { v with editor }

/-- What is known of a review that shares its store. -/
structure Informed (m : Memory) (stale : Bool) (v : Review) : Prop where
  store_eq : v.store = .memory m
  sound : m.Sound
  cached : m.Cached v.files
  names : m.Names v.files
  shows : stale = false → m.Shows v.project v.files

section Shares

variable {v w : Review} {m m' : Memory} {stale : Bool} {project : String} {p : Patch}
variable {applied : File}

/-- Listing the files of the open project brings the account up to date. -/
theorem Informed.refresh (h : Informed m stale v) :
    ∃ m', Informed m' (stale && !v.refresh.1.isOk) v.refresh.2 := by
  have refreshed := refreshes h.store_eq
  have recaches := refreshed.recaches h.store_eq
  have names {m' : Memory} (store_eq : v.refresh.2.store = .memory m') :
      m'.Names v.refresh.2.files :=
    recaches.names h.sound h.cached h.names store_eq
  generalize v.refresh = outcome at refreshed names ⊢
  cases refreshed with
  | closed _ =>
    refine ⟨m, { h with shows := fun fresh => h.shows ?_ }⟩
    simpa [Except.isOk, Except.toBool] using fresh
  | @listed project opened =>
    have cached := h.sound.cached_listing project
    have shows := (h.sound.shows_listing project).perform cached (.list project)
    exact ⟨_, rfl, h.sound.perform _, cached.perform _, names rfl, fun _ => opened ▸ shows⟩
  | refused _ _ =>
    refine ⟨_, rfl, h.sound.perform _, h.cached.perform _, names rfl, fun fresh => ?_⟩
    have before : stale = false := by simpa [Except.isOk, Except.toBool] using fresh
    exact (h.shows before).perform h.cached _

/-- Everything that is known of such a review, by induction on what was done. -/
theorem Shares.informed (h : Shares stale v) : ∃ m, Informed m stale v := by
  induction h with
  | start sound project editor chunkSize made =>
    exact ⟨_, rfl, sound, .nil _, .nil _, fun _ => .nil _ _⟩
  | others calls store_eq _ ih =>
    obtain ⟨m, h⟩ := ih
    obtain rfl := Store.memory.inj (h.store_eq.symm.trans store_eq)
    exact ⟨_, rfl, h.sound.replay calls, h.cached.replay calls, h.names.replay h.cached calls,
      fun fresh => (h.shows fresh).replay h.cached calls⟩
  | «open» project _ ih =>
    obtain ⟨m, h⟩ := ih
    exact ⟨m, { h with shows := nofun }⟩
  | refresh _ ih =>
    obtain ⟨m, h⟩ := ih
    exact h.refresh
  | round _ go ih =>
    obtain ⟨m, h⟩ := ih
    obtain ⟨sent, guarded, names⟩ := go.names h.store_eq h.sound h.cached h.names
    refine ⟨_, guarded.store_eq, guarded.sound, guarded.cached, names, fun fresh => ?_⟩
    rw [guarded.project_eq]
    exact guarded.shown (h.shows fresh)
  | parse _ _ ih | reject _ _ ih | edit _ _ ih =>
    obtain ⟨m, h⟩ := ih
    exact ⟨m, { h with }⟩

/-! ## Applying a patch -/

/-- What applying a patch well does to the store `m`: the file is there in `m₁` and is written. -/
structure Wrote (p : Patch) (project : String) (file : File) (m₁ : Memory) (applied : File)
    (w : Review) (m' : Memory) : Prop where
  store_eq : w.store = .memory m'
  held : m₁.holds file.id = true
  same : (m₁.rewrite file.id p.newContent).Matches m'
  applied_eq : applied = (findFile? (m'.listing project) file.name).getD
    { file with content := p.newContent }

/-- What is answered in the end is listed, or taken as it was written. -/
theorem Direct.list_ok {file : File} (store_eq : v.store = .memory m)
    (ok : Direct.list p file project v = (.ok applied, w)) :
    ∃ m', w.store = .memory m' ∧ m.Matches m' ∧
      applied = (findFile? (m'.listing project) file.name).getD
        { file with content := p.newContent } := by
  obtain ⟨still, turn⟩ := Memory.list_turn m project
  unfold Direct.list Review.list at ok
  rw [store_eq, Memory.list_memory] at ok
  rcases turn with ⟨e, -, answer⟩ | answer <;> rw [answer] at ok
  · cases ok
  · cases ok
    refine ⟨_, rfl, still, ?_⟩
    rw [still.listing_eq]

/-- Writing well leaves the content in the store. -/
theorem Direct.update_ok {file : File} (store_eq : v.store = .memory m)
    (opened : v.project = some project) (ok : Direct.update p file v = (.ok applied, w)) :
    ∃ m', Wrote p project file m applied w m' := by
  unfold Direct.update at ok
  rw [store_eq, Memory.update_memory] at ok
  cases answer : (m.update file.id p.newContent).1 with
  | error e =>
    rw [answer] at ok
    cases ok
  | ok done =>
    rw [answer] at ok
    simp only [opened] at ok
    have held := Memory.holds_of_update answer
    rcases Memory.update_turn held p.newContent with ⟨e, -, failed, -⟩ | ⟨-, same⟩
    · cases answer.symm.trans failed
    · obtain ⟨m', stored, still, applied_eq⟩ := Direct.list_ok rfl ok
      exact ⟨m', stored, held, same.trans still, applied_eq⟩

/-- So does creating well, in a new file. -/
theorem Direct.create_ok (store_eq : v.store = .memory m) (opened : v.project = some project)
    (ok : Direct.create p project v = (.ok applied, w)) :
    let seeded := m.seed project p.fileName "" (Project.languageOf p.fileName)
    ∃ m', Wrote p project seeded.1 seeded.2 applied w m' := by
  intro seeded
  unfold Direct.create at ok
  rw [store_eq, Memory.create_memory] at ok
  rcases Memory.create_turn m project p.fileName "" (Project.languageOf p.fileName) with
    ⟨e, -, answer, -⟩ | ⟨answer, same⟩ <;> rw [answer] at ok
  · cases ok
  · dsimp only at ok
    obtain ⟨m', wrote⟩ := Direct.update_ok rfl (by exact opened) ok
    exact ⟨m', wrote.store_eq, same.holds_eq seeded.1.id ▸ wrote.held,
      (same.rewrite _ _).trans wrote.same, wrote.applied_eq⟩

/-- The files of the name of a patch, after it was written to the only one of them. -/
theorem Wrote.only {file g : File} {m₁ : Memory} (h : Wrote p project file m₁ applied w m')
    (named : Text.lower file.name = Text.lower p.fileName) (same_id : g.id = file.id)
    (only : (m₁.listing project).filter (·.isNamed p.fileName) = [g]) :
    (m'.listing project).filter (·.isNamed p.fileName) = [applied] ∧
      applied.content = p.newContent := by
  have revised : (m'.listing project).filter (·.isNamed p.fileName) =
      [g.revise (Revision.single file.id p.newContent)] := by
    rw [h.same.listing_eq, Memory.listing_rewrite, Project.filter_isNamed_revise, only]
    rfl
  have found := Project.findFile?_of_filter revised
  rw [← findFile?_of_lower_eq named] at found
  have applied_eq := h.applied_eq
  rw [found, Option.getD_some] at applied_eq
  subst applied_eq
  exact ⟨revised, by simp [File.revise, Revision.single, same_id]⟩

/-- A cached file that the store still has is one of the open project, unless it is one of another
project. -/
theorem Informed.exists_listed (h : Informed m stale v) {f : File} (cached : f ∈ v.files)
    (own : m.Own (some project) f.id) (held : m.holds f.id = true) :
    ∃ g ∈ m.listing project, g.id = f.id ∧ g.name = f.name := by
  obtain ⟨e, he, hid⟩ := Memory.holds_iff.mp held
  have here : e.1 = project := Option.some.inj (own e he hid)
  exact ⟨e.2, Memory.mem_filesOf.mpr (here ▸ he), hid, h.names f cached e he hid⟩

/-- The patch is written to the cached file of its name. -/
theorem Informed.reconciles (h : Informed m stale v) {file : File}
    (found : findFile? v.files p.fileName = some file) (own : m.Own (some project) file.id)
    (once : ((m.listing project).map fun f => Text.lower f.name).Nodup)
    (wrote : Wrote p project file m applied w m') :
    (m'.listing project).filter (·.isNamed p.fileName) = [applied] ∧
      applied.content = p.newContent := by
  obtain ⟨g, hg, same_id, same_name⟩ :=
    h.exists_listed (mem_of_findFile? found) own wrote.held
  have named := lower_name_of_findFile? found
  exact wrote.only named same_id
    (Project.filter_isNamed_eq_singleton once hg (same_name ▸ named))

/-- The patch is written to a file that was created for it, behind all others. -/
theorem Informed.doubles (h : Informed m stale v)
    (wrote : Wrote p project (m.seed project p.fileName "" (Project.languageOf p.fileName)).1
      (m.seed project p.fileName "" (Project.languageOf p.fileName)).2 applied w m') :
    ∃ created, m'.listing project = m.listing project ++ [created] ∧
      created.isNamed p.fileName = true ∧ created.content = p.newContent := by
  set file := (m.seed project p.fileName "" (Project.languageOf p.fileName)).1 with seeded
  refine ⟨{ file with content := p.newContent }, ?_, beq_self_eq_true _, rfl⟩
  rw [wrote.same.listing_eq, Memory.listing_rewrite, Memory.listing_seed, List.map_append]
  congr 1
  · -- the id is new, so no other file is written
    refine (List.map_congr_left fun g hg => ?_).trans (List.map_id _)
    have new : g.id ≠ file.id := h.sound.fileId_ne (Memory.mem_filesOf.mp hg)
    simp [File.revise, Revision.single, new]
  · simp [File.revise, Revision.single, seeded]

/-- The patch is written to a cached file that is held elsewhere: the files of the project stay. -/
theorem Informed.crosses (h : Informed m stale v) {file : File}
    (found : findFile? v.files p.fileName = some file) (stray : ¬ m.Own (some project) file.id)
    (wrote : Wrote p project file m applied w m') :
    m'.listing project = m.listing project ∧ ∃ elsewhere ≠ project,
      ∃ g ∈ m'.listing elsewhere, g.id = file.id ∧ g.name = file.name ∧
        g.content = p.newContent := by
  obtain ⟨e, he, hid, foreign⟩ : ∃ e ∈ m.held, e.2.id = file.id ∧ some e.1 ≠ some project := by
    simpa only [Memory.Own, not_forall, exists_prop] using stray
  have elsewhere : e.1 ≠ project := fun same => foreign (congrArg some same)
  have listing_eq (project : String) : m'.listing project =
      (m.listing project).map (File.revise (Revision.single file.id p.newContent)) := by
    rw [wrote.same.listing_eq, Memory.listing_rewrite]
  constructor
  · -- ids are given once, so no file of the project has this one
    rw [listing_eq]
    refine (List.map_congr_left fun g hg => ?_).trans (List.map_id _)
    have other : g.id ≠ file.id := by
      intro same
      have held : (project, g) ∈ m.held := Memory.mem_filesOf.mp hg
      have alone := h.sound.eq_of_id_eq he held (hid.trans same.symm)
      exact elsewhere (congrArg Prod.fst alone)
    simp [File.revise, Revision.single, other]
  · have written : e.2.revise (Revision.single file.id p.newContent) ∈ m'.listing e.1 := by
      rw [listing_eq]
      exact List.mem_map_of_mem (Memory.mem_filesOf.mpr he)
    refine ⟨e.1, elsewhere, _, written, hid, ?_, ?_⟩
    · exact h.names file (mem_of_findFile? found) e he hid
    · simp [File.revise, Revision.single, hid]

/-- **What a patch becomes among files that others change.** A review shares its store with other
clients, and no two files of the open project have names that differ in case only. The cached files
are those of the open project, unless another one was opened and not listed since. If a patch is
applied well, the project has exactly one file of its name, which has the content of the patch and
is answered. There are two exceptions. If the project had such a file already, and the review has
not cached it, it has two: that one as it was, and one with the content of the patch. And if the
file that was cached is held under another project, it gets the content there, and the files of the
open project stay as they were. -/
theorem apply_reconciles (shares : Shares stale v) (opened : v.project = some project) :
    ∃ m, v.store = .memory m ∧ (stale = false → m.Shows (some project) v.files) ∧
      ∀ p applied w, ((m.listing project).map fun f => Text.lower f.name).Nodup →
        Serves v (.apply p) (.file (.ok applied)) w → ∃ m', w.store = .memory m' ∧
          ((∃ f, findFile? v.files p.fileName = some f ∧ m.Own (some project) f.id) ∨
              findFile? v.files p.fileName = none ∧
                findFile? (m.listing project) p.fileName = none →
            (m'.listing project).filter (·.isNamed p.fileName) = [applied] ∧
              applied.content = p.newContent) ∧
          (∀ other, findFile? v.files p.fileName = none →
            findFile? (m.listing project) p.fileName = some other →
              ∃ created, (m'.listing project).filter (·.isNamed p.fileName) = [other, created] ∧
                created.content = p.newContent) ∧
          ∀ f, findFile? v.files p.fileName = some f → ¬ m.Own (some project) f.id →
            m'.listing project = m.listing project ∧ ∃ elsewhere ≠ project,
              ∃ g ∈ m'.listing elsewhere, g.id = f.id ∧ g.name = f.name ∧
                g.content = p.newContent := by
  obtain ⟨m, h⟩ := shares.informed
  refine ⟨m, h.store_eq, fun fresh => opened ▸ h.shows fresh, ?_⟩
  intro p applied w once served
  obtain ⟨answer, alike⟩ := served.direct_of_ok
  have direct : Direct.apply p v = (.ok applied, (Direct.apply p v).2) := Prod.ext answer.symm rfl
  have store_eq : w.store = (Direct.apply p v).2.store := by
    obtain ⟨_, _, _, same⟩ := alike
    rw [same]
  generalize (Direct.apply p v).2 = u at direct store_eq
  rw [store_eq]
  unfold Direct.apply at direct
  cases found : findFile? v.files p.fileName with
  | some file =>
    rw [found] at direct
    obtain ⟨m', wrote⟩ := Direct.update_ok h.store_eq opened direct
    refine ⟨m', wrote.store_eq, ?_, nofun, ?_⟩
    · rintro (⟨f, same, own⟩ | ⟨uncached, -⟩)
      · cases same
        exact h.reconciles found own once wrote
      · cases uncached
    · rintro f same stray
      cases same
      exact h.crosses found stray wrote
  | none =>
    rw [found, opened] at direct
    obtain ⟨m', wrote⟩ := Direct.create_ok h.store_eq opened direct
    obtain ⟨created, listing_eq, named, content_eq⟩ := h.doubles wrote
    refine ⟨m', wrote.store_eq, ?_, ?_, nofun⟩
    · rintro (⟨f, cached, -⟩ | ⟨-, missing⟩)
      · cases cached
      · refine wrote.only rfl rfl ?_
        rw [Memory.listing_seed, List.filter_append,
          List.filter_eq_nil_iff.mpr (List.find?_eq_none.mp missing), List.nil_append]
        exact List.filter_cons_of_pos (beq_self_eq_true (Text.lower p.fileName))
    · intro other _ found
      refine ⟨created, ?_, content_eq⟩
      rw [listing_eq, List.filter_append, Project.filter_isNamed_eq_singleton once
        (mem_of_findFile? found) (lower_name_of_findFile? found), List.filter_cons_of_pos named,
        List.filter_nil]
      rfl

/-- Another client has created a file of its own and changed the one that a patch is for, which the
patch spells differently. The patch replaces the content. -/
theorem apply_reconciles_changed_file :
    let m₀ := (Memory.empty.seed "site" "a.js" "old" "").2
    let m := m₀.replay [.list "site", .create "site" "b.js" "theirs" "javascript",
      .update "file-1" "theirs"]
    let listed := (start (.memory m₀) (some "site") none 64 0).refresh.2
    let v := { listed with store := .memory m }
    let patch : Patch := ⟨"1", "A.js", "mine", 1, 0, false⟩
    let applied : File := ⟨"file-1", "a.js", "mine", "javascript"⟩
    Shares false v ∧ (v.apply patch).1 = .ok applied ∧
      ∃ m', (v.apply patch).2.store = .memory m' ∧
        (m'.listing "site").filter (·.isNamed "A.js") = [applied] ∧ applied.content = "mine" := by
  intro m₀ m listed v patch applied
  have shares : Shares false v :=
    .others (m := m₀.replay [.list "site"]) [.create "site" "b.js" "theirs" "javascript",
        .update "file-1" "theirs"] rfl
      (.refresh (.start (Memory.empty_sound.seed "site" "a.js" "old" "") _ _ _ _))
  obtain ⟨m₁, store_eq, shows, reconciles⟩ := apply_reconciles shares rfl
  obtain rfl : m = m₁ := Store.memory.inj store_eq
  have answer : (v.apply patch).1 = .ok applied := Project.eq_ok_of_toOption (by decide +kernel)
  obtain ⟨m', stored, only, -⟩ := reconciles patch applied _ (by decide +kernel)
    (answer ▸ serves_apply v patch)
  have cached : findFile? v.files patch.fileName = some ⟨"file-1", "a.js", "old", "javascript"⟩ := by
    decide +kernel
  exact ⟨shares, answer, m', stored, only (.inl ⟨_, cached, shows rfl _ _ cached⟩)⟩

/-- Another client has created a file of the name of a patch, which is applied well. But then the
project has two files of the name, and the one that is answered has the content of the other
client. -/
theorem apply_doubles_unlisted :
    let m := Memory.empty.replay [.list "site", .create "site" "a.js" "theirs" "javascript"]
    let listed := (start (.memory .empty) (some "site") none 64 0).refresh.2
    let v := { listed with store := .memory m }
    let patch : Patch := ⟨"1", "a.js", "mine", 1, 0, true⟩
    let theirs : File := ⟨"file-1", "a.js", "theirs", "javascript"⟩
    let files : List File := [theirs, ⟨"file-2", "a.js", "mine", "javascript"⟩]
    Shares false v ∧ ((m.listing "site").map fun f => Text.lower f.name).Nodup ∧
      Serves v (.apply patch) (.file (.ok theirs)) (v.apply patch).2 ∧
      ((v.apply patch).2.store.list "site").1 = .ok files ∧
      ¬ ∃ file, files.filter (·.isNamed "a.js") = [file] ∧ file.content = "mine" ∧
        theirs = file := by
  intro m listed v patch theirs files
  have shares : Shares false v :=
    .others (m := Memory.empty.replay [.list "site"])
      [.create "site" "a.js" "theirs" "javascript"] rfl
      (.refresh (.start Memory.empty_sound _ _ _ _))
  have answer : (v.apply patch).1 = .ok theirs := Project.eq_ok_of_toOption (by decide +kernel)
  refine ⟨shares, by decide +kernel, answer ▸ serves_apply v patch,
    Project.eq_ok_of_toOption (by decide +kernel), ?_⟩
  rintro ⟨file, only, -, -⟩
  have two : (files.filter (·.isNamed "a.js")).length = 2 := by decide +kernel
  rw [only] at two
  cases two

/-- A project is opened while the files of another one are cached, and not listed. A patch that is
applied well goes to the file of the other project, and what is answered is the file of the open one
as it was. -/
theorem apply_crosses_unlisted :
    let m := ((Memory.empty.seed "one" "a.js" "first" "").2.seed "two" "a.js" "second" "").2
    let listed := (start (.memory m) (some "one") none 64 0).refresh.2
    let v := { listed with project := some "two", pending := [] }
    let patch : Patch := ⟨"1", "a.js", "mine", 1, 0, false⟩
    let second : File := ⟨"file-2", "a.js", "second", "javascript"⟩
    Shares true v ∧ ((m.listing "two").map fun f => Text.lower f.name).Nodup ∧
      Serves v (.apply patch) (.file (.ok second)) (v.apply patch).2 ∧
      ((v.apply patch).2.store.list "two").1 = .ok [second] ∧
      ((v.apply patch).2.store.list "one").1 = .ok [⟨"file-1", "a.js", "mine", "javascript"⟩] := by
  intro m listed v patch second
  have sound : m.Sound := (Memory.empty_sound.seed "one" "a.js" "first" "").seed "two" "a.js"
    "second" ""
  have shares : Shares true v := .open "two" (.refresh (.start sound _ _ _ _))
  have answer : (v.apply patch).1 = .ok second := Project.eq_ok_of_toOption (by decide +kernel)
  exact ⟨shares, by decide +kernel, answer ▸ serves_apply v patch,
    Project.eq_ok_of_toOption (by decide +kernel), Project.eq_ok_of_toOption (by decide +kernel)⟩

end Shares

end Review

end Workbench
