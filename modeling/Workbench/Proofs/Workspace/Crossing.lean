import Workbench.Proofs.Review.Ownership
import Workbench.Proofs.Review.Schedule
import Workbench.Workspace

/-!
# Whose files a workspace writes

A workspace writes the files that its review has cached, and takes them for those of the open
project. They are, unless a project was opened whose files could not be listed: the review then
keeps the files of the project before.

* `Operates`: what an operation can make of a workspace; patches are applied in any interleaving.
* `Reaches`: the workspaces that operations lead to. It keeps account of whether the files may be
  stale: they are after a project was opened in vain, until its files were listed by opening it or
  by a refresh.
* `writes_stay_iff`: whatever calls the store refuses, no operation changes or deletes a file of
  another project if and only if no name means such a file among those that are cached; and that
  is so whenever the files are not stale.
-/

namespace Workbench.Workspace

open Project (File Store Memory Call findFile? findFile?_append_of_some findFile?_append_of_none
  mem_of_findFile?)
open Project.Memory (Shows Cached Own Crosses StaysIn)
open Review (Round Interleaving)

/-! ## Operations -/

/-- What can be asked of a workspace. -/
inductive Operation where
  | openProject (id name : String)
  | refresh
  | parse (text : String)
  | applyPatch (patch : Patch)
  | applyAll
  | rejectPatch (patch : Patch)
  | execute (clock : Clock) (line : String)
  | resetTerminal

/-- What an operation can make of a workspace. -/
inductive Operates (w : Workspace) : Operation → Workspace → Prop
  | openProject (id name : String) : Operates w (.openProject id name) (w.openProject id name).2
  | refresh : Operates w .refresh w.refresh.2
  | parse (text : String) : Operates w (.parse text) (w.parse text).2
  | applyPatch {patch : Patch} {n : ℕ} {r : Round} (go : Interleaving (.start w.review [patch]) n r)
      (ended : r.Ended) : Operates w (.applyPatch patch) { w with review := r.review }.mirror
  | applyAll {n : ℕ} {r : Round} (go : Interleaving (.start w.review w.review.pending) n r)
      (ended : r.Ended) : Operates w .applyAll { w with review := r.review }.mirror
  | rejectPatch (patch : Patch) : Operates w (.rejectPatch patch) (w.rejectPatch patch)
  | execute (clock : Clock) (line : String) :
      Operates w (.execute clock line) (w.execute clock line).2
  | resetTerminal : Operates w .resetTerminal w.resetTerminal

/-- Applying a patch is one of the ways in which its tasks can go. -/
theorem operates_applyPatch (w : Workspace) (patch : Patch) :
    Operates w (.applyPatch patch) (w.applyPatch patch).2 := by
  obtain ⟨ended, n, go⟩ := Round.start_run w.review [patch]
  have review_eq : (w.applyPatch patch).2 =
      { w with review := (w.review.apply patch).2 }.mirror := rfl
  rw [review_eq, Review.apply_snd]
  exact .applyPatch go ended

/-- Whether the cached files may be stale after an operation. -/
def Operation.leavesStale (w : Workspace) (stale : Bool) : Operation → Bool
  | .openProject id name => !(w.openProject id name).1.isOk
  | .refresh => stale && !w.refresh.1.isOk
  | _ => stale

/-- `Reaches w₀ stale w`: operations lead from `w₀` to `w`, whose cached files may be stale or
not. -/
inductive Reaches (w₀ : Workspace) : Bool → Workspace → Prop
  | start : Reaches w₀ false w₀
  | step {stale : Bool} {w w' : Workspace} {op : Operation} :
      Reaches w₀ stale w → Operates w op w' → Reaches w₀ (op.leavesStale w stale) w'

/-! ## Calls of a review -/

/-- The store of a review is `m`, and its files were cached from it. -/
structure Sane (m : Memory) (v : Review) : Prop where
  store_eq : v.store = .memory m
  sound : m.Sound
  cached : m.Cached v.files
  chunk_pos : 0 < v.chunkSize

/-- The calls `sent` to the store `m` lead from one review to another. They do not cross into
another project if no name means a cached file of another project, and then none does so after
them. -/
structure Follows (m : Memory) (sent : List Call) (v v' : Review) : Prop where
  sane : Sane (m.replay sent) v'
  project_eq : v'.project = v.project
  stays : m.Shows v.project v.files → StaysIn v.project m sent
  shown : m.Shows v.project v.files → (m.replay sent).Shows v.project v'.files

section Follows

variable {m : Memory} {v v' v'' : Review} {sent more : List Call}

/-- Changes of other parts of a review matter to nothing here. -/
theorem Sane.follows (sane : Sane m v) (store : v'.store = v.store) (files : v'.files = v.files)
    (project : v'.project = v.project) (chunkSize : v'.chunkSize = v.chunkSize) :
    Follows m [] v v' where
  sane := ⟨store.trans sane.store_eq, sane.sound, files ▸ sane.cached, chunkSize ▸ sane.chunk_pos⟩
  project_eq := project
  stays := fun _ => trivial
  shown := fun h => files ▸ h

/-- Calls follow calls. -/
theorem Follows.trans (h : Follows m sent v v') (h' : Follows (m.replay sent) more v' v'') :
    Follows m (sent ++ more) v v'' where
  sane := Memory.replay_append m sent more ▸ h'.sane
  project_eq := h'.project_eq.trans h.project_eq
  stays := fun shows => (h.stays shows).append
    (h.project_eq ▸ h'.stays (h.project_eq ▸ h.shown shows))
  shown := fun shows => by
    rw [Memory.replay_append, ← h.project_eq]
    exact h'.shown (h.project_eq ▸ h.shown shows)

/-- An interleaving of the tasks of patches. -/
theorem Sane.follows_round (sane : Sane m v) {patches : List Patch} {n : ℕ} {r : Round}
    (go : Interleaving (.start v patches) n r) : ∃ sent, Follows m sent v r.review := by
  obtain ⟨sent, h⟩ := go.guarded sane.store_eq sane.sound sane.cached
  refine ⟨sent, ⟨h.store_eq, h.sound, h.cached, ?_⟩, h.project_eq, h.stays, h.shown⟩
  rw [go.chunkSize_eq]
  exact sane.chunk_pos

/-- Asking for the files of the open project. No file is written, and if the files are listed, they
are those of the project. -/
theorem Sane.follows_refresh (sane : Sane m v) :
    ∃ sent, Follows m sent v v.refresh.2 ∧ (∀ project, StaysIn project m sent) ∧
      (v.refresh.1.isOk = true → (m.replay sent).Shows v.project v.refresh.2.files) := by
  have stays (project : String) (open' : Option String) : StaysIn open' m [.list project] :=
    ⟨Memory.not_crosses_of_target?_eq_none rfl, trivial⟩
  have refreshed := Review.refreshes sane.store_eq
  generalize v.refresh = outcome at refreshed ⊢
  cases refreshed with
  | closed _ => exact ⟨[], sane.follows rfl rfl rfl rfl, fun _ => trivial, nofun⟩
  | @listed project opened =>
    have cached := sane.sound.cached_listing project
    have shown := (sane.sound.shows_listing project).perform cached (.list project)
    rw [← opened] at shown
    refine ⟨[.list project], ⟨?_, rfl, fun _ => stays project _, fun _ => shown⟩, stays project,
      fun _ => shown⟩
    exact ⟨rfl, sane.sound.replay _, cached.replay _, sane.chunk_pos⟩
  | @refused project _ _ _ =>
    refine ⟨[.list project], ⟨?_, rfl, fun _ => stays project _, ?_⟩, stays project, nofun⟩
    · exact ⟨rfl, sane.sound.replay _, sane.cached.replay _, sane.chunk_pos⟩
    · exact fun shows => shows.perform sane.cached (.list project)

/-! ## Deleting files -/

/-- Files are deleted one by one. If the ones before were held by the store, the next is not one of
another project: a file before it that has its name would be one of that project, too. -/
theorem not_crosses_delete {project : Option String} {cur : Memory} {done rest : List File}
    {file : File} (cached : m.Cached (done ++ file :: rest))
    (shows : m.Shows project (done ++ file :: rest)) (held : ∀ e ∈ cur.held, e ∈ m.held)
    (served : ∀ g ∈ done, ∃ e ∈ m.held, e.2.id = g.id) :
    ¬ Crosses project cur (.delete file.id) := by
  rintro ⟨e, he, target, other⟩
  have hid : e.2.id = file.id := (Option.some.inj target).symm
  cases found : findFile? done file.name with
  | some g =>
    obtain ⟨e', he', hid'⟩ := served g (mem_of_findFile? found)
    have own := shows _ _ (findFile?_append_of_some found _) e' he' hid'
    have together := cached.together file (by simp) g
      (List.mem_append_left _ (mem_of_findFile? found))
      (Project.lower_name_of_findFile? found).symm e (held e he) e' he' hid hid'
    exact other (together ▸ own)
  | none =>
    have first : findFile? (done ++ file :: rest) file.name = some file := by
      rw [findFile?_append_of_none found]
      simp [findFile?, File.isNamed]
    exact other (shows _ _ first e (held e he) hid)

/-- Deleting the last of some files, once the ones before were deleted. -/
theorem exists_deleteFiles (project : Option String) {files : List File} (cached : m.Cached files)
    (cur : Memory) (done : List File) {rest : List File} (split : files = done ++ rest)
    (held : ∀ e ∈ cur.held, e ∈ m.held)
    (served : ∀ g ∈ done, ∃ e ∈ m.held, e.2.id = g.id) :
    ∃ sent, (deleteFiles rest (.memory cur)).2 = .memory (cur.replay sent) ∧
      (m.Shows project files → StaysIn project cur sent) := by
  induction rest generalizing cur done with
  | nil => exact ⟨[], rfl, fun _ => trivial⟩
  | cons file rest ih =>
    subst split
    have stays (shows : m.Shows project (done ++ file :: rest)) :
        ¬ Crosses project cur (.delete file.id) :=
      not_crosses_delete cached shows held served
    unfold deleteFiles
    rw [Memory.delete_memory]
    cases deleted : (cur.delete file.id).1 with
    | error e => exact ⟨[.delete file.id], rfl, fun shows => ⟨stays shows, trivial⟩⟩
    | ok _ =>
      -- what could be deleted was held, so it was a file of the project
      obtain ⟨e, he, hid⟩ := Memory.held_of_delete deleted
      have served' : ∀ g ∈ done ++ [file], ∃ e ∈ m.held, e.2.id = g.id := by
        intro g hg
        rcases List.mem_append.mp hg with hg | hg
        · exact served g hg
        · rw [List.mem_singleton.mp hg]
          exact ⟨e, held e he, hid⟩
      obtain ⟨sent, store_eq, rest_stays⟩ := ih (cur.perform (.delete file.id)) (done ++ [file])
        (by simp) (fun e he => held e (Memory.held_of_mem_delete he)) served'
      exact ⟨.delete file.id :: sent, store_eq, fun shows => ⟨stays shows, rest_stays shows⟩⟩

/-- Deleting all files and asking for them again. -/
theorem Sane.follows_deleteFiles (sane : Sane m v) :
    ∃ sent, Follows m sent v { v with store := (deleteFiles v.files v.store).2 } := by
  obtain ⟨sent, store_eq, stays⟩ := exists_deleteFiles v.project sane.cached m [] rfl
    (fun _ => id) (fun _ h => absurd h List.not_mem_nil)
  rw [← sane.store_eq] at store_eq
  refine ⟨sent, ⟨store_eq, sane.sound.replay sent, sane.cached.replay sent, sane.chunk_pos⟩, rfl,
    stays, fun shows => shows.replay sane.cached sent⟩

end Follows

/-! ## Calls of an operation -/

section Operates

variable {m : Memory} {w w' : Workspace} {op : Operation}

/-- Mirroring listings takes them from the review. -/
theorem mirror_review (w : Workspace) : w.mirror.review = { w.review with announced := [] } := by
  unfold mirror Review.takeAnnounced
  dsimp only
  split <;> rfl

/-- What the mirror leaves of a review. -/
theorem reviewing_review {α : Type} (act : Review → α × Review) (w : Workspace) :
    (w.reviewing act).2.review = { (act w.review).2 with announced := [] } :=
  mirror_review _

/-- Announcing matters to nothing here. -/
theorem Follows.mirror {sent : List Call} {v v' : Review} (h : Follows m sent v v') :
    Follows m sent v { v' with announced := [] } :=
  ⟨⟨h.sane.store_eq, h.sane.sound, h.sane.cached, h.sane.chunk_pos⟩, h.project_eq, h.stays,
    h.shown⟩

/-- Deleting everything calls the store for cached files only. -/
theorem Sane.follows_deleteAll (sane : Sane m w.review) :
    ∃ sent, Follows m sent w.review w.deleteAll.2.review := by
  obtain ⟨sent, deleted⟩ := sane.follows_deleteFiles
  obtain ⟨more, refreshed, -, -⟩ := deleted.sane.follows_refresh
  have review_eq : w.deleteAll.2.review = (reviewing Review.refresh { w with
      review.store := (deleteFiles w.review.files w.review.store).2 }).2.review := by
    unfold deleteAll
    dsimp only
    split <;> rfl
  rw [review_eq, reviewing_review]
  exact ⟨_, (deleted.trans refreshed).mirror⟩

/-- Acting on a result leaves the review as it is, or deletes all files. -/
theorem act_review (result : Shell.Result) (w : Workspace) :
    (w.act result).2.review = w.review ∨ (w.act result).2.review = w.deleteAll.2.review := by
  unfold act
  split
  · cases w.review.project with
    | none => exact .inl rfl
    | some project =>
      rcases w.deleteAll with ⟨deleted, w'⟩
      cases deleted <;> exact .inr rfl
  · exact .inl rfl
  · exact .inl rfl

/-- A line leaves the review alone, or has everything deleted. -/
theorem execute_review (clock : Clock) (line : String) (w : Workspace) :
    (w.execute clock line).2.review = w.review ∨
      ∃ session, (w.execute clock line).2.review = ({ w with session }.deleteAll).2.review := by
  unfold execute
  rcases w.session.execute clock line with ⟨result, session⟩
  cases result with
  | none => exact .inl rfl
  | some result =>
    rcases act_review result { w with session } with same | deleted
    · exact .inl same
    · exact .inr ⟨session, deleted⟩

/-- So a line calls the store for cached files only. -/
theorem Sane.follows_execute (sane : Sane m w.review) (clock : Clock) (line : String) :
    ∃ sent, Follows m sent w.review (w.execute clock line).2.review := by
  rcases execute_review clock line w with same | ⟨session, deleted⟩
  · exact ⟨[], sane.follows (congrArg _ same) (congrArg _ same) (congrArg _ same)
      (congrArg _ same)⟩
  · rw [deleted]
    exact Sane.follows_deleteAll (w := { w with session }) sane

/-- What the calls `sent` of an operation to the store `m` leave: none of them crosses into another
project if no name means a cached file of another project, and that is so afterwards if `fresh`
holds. -/
structure Keeps (m : Memory) (sent : List Call) (v v' : Review) (fresh : Prop) : Prop where
  sane : Sane (m.replay sent) v'
  stays : m.Shows v.project v.files → StaysIn v.project m sent
  current : fresh → (m.replay sent).Shows v'.project v'.files

/-- Calls that follow keep what is shown, if it was current. -/
theorem Follows.keeps {sent : List Call} {v v' : Review} (h : Follows m sent v v') {fresh : Prop}
    (current : fresh → m.Shows v.project v.files) : Keeps m sent v v' fresh where
  sane := h.sane
  stays := h.stays
  current := by
    intro hf
    rw [h.project_eq]
    exact h.shown (current hf)

/-- What is kept under a condition is kept under a stronger one. -/
theorem Keeps.mono {sent : List Call} {v v' : Review} {fresh fresh' : Prop}
    (h : Keeps m sent v v' fresh) (imp : fresh' → fresh) : Keeps m sent v v' fresh' :=
  ⟨h.sane, h.stays, fun hf => h.current (imp hf)⟩

/-- Opening a project sends no call that could cross, and the files are those of the project if they
could be listed. -/
theorem Sane.keeps_openProject (sane : Sane m w.review) (id name : String) :
    ∃ sent, Keeps m sent w.review (w.openProject id name).2.review
      ((w.openProject id name).1.isOk = true) := by
  have sane₀ : Sane m { w.review with project := some id, pending := [] } :=
    ⟨sane.store_eq, sane.sound, sane.cached, sane.chunk_pos⟩
  obtain ⟨sent, follows, stays, listed⟩ := sane₀.follows_refresh
  refine ⟨sent, follows.mirror.sane, fun _ => stays _, fun ok => ?_⟩
  have shows := listed ok
  rw [← follows.project_eq] at shows
  exact shows

/-- A refresh sends no call that could cross. The files are those of the project if they could be
listed, or were so before. -/
theorem Sane.keeps_refresh (sane : Sane m w.review) {fresh : Prop}
    (current : fresh → m.Shows w.review.project w.review.files) :
    ∃ sent, Keeps m sent w.review w.refresh.2.review (fresh ∨ w.refresh.1.isOk = true) := by
  obtain ⟨sent, follows, stays, listed⟩ := sane.follows_refresh
  have review_eq : w.refresh.2.review = { w.review.refresh.2 with announced := [] } :=
    reviewing_review _ w
  rw [review_eq]
  refine ⟨sent, follows.mirror.sane, fun _ => stays _, ?_⟩
  show _ → (m.replay sent).Shows w.review.refresh.2.project w.review.refresh.2.files
  rw [follows.project_eq]
  rintro (hf | ok)
  · exact follows.shown (current hf)
  · exact listed ok

/-- **One operation.** Its calls do not cross into another project if no name means a cached file of
another project, and that is so afterwards if the files are not stale then. -/
theorem Operates.sends (h : Operates w op w') (sane : Sane m w.review) {stale : Bool}
    (current : stale = false → m.Shows w.review.project w.review.files) :
    ∃ sent, Keeps m sent w.review w'.review (op.leavesStale w stale = false) := by
  cases h with
  | openProject id name =>
    obtain ⟨sent, keeps⟩ := sane.keeps_openProject id name
    exact ⟨sent, keeps.mono (by simp [Operation.leavesStale])⟩
  | refresh =>
    obtain ⟨sent, keeps⟩ := sane.keeps_refresh current
    refine ⟨sent, keeps.mono fun fresh => ?_⟩
    cases stale with
    | false => exact .inl rfl
    | true => exact .inr (by simpa [Operation.leavesStale] using fresh)
  -- what does not list the files leaves the account of them alone
  | parse text =>
    have review_eq : (w.parse text).2.review =
        { (w.review.parse text).2 with announced := [] } := reviewing_review _ w
    have follows : Follows m [] w.review (w.parse text).2.review := by
      rw [review_eq]
      exact sane.follows rfl rfl rfl rfl
    exact ⟨[], follows.keeps current⟩
  | applyPatch go ended | applyAll go ended =>
    obtain ⟨sent, follows⟩ := sane.follows_round go
    rw [mirror_review]
    exact ⟨sent, follows.mirror.keeps current⟩
  | rejectPatch patch =>
    have review_eq : (w.rejectPatch patch).review =
        { w.review.reject patch with announced := [] } := reviewing_review _ w
    have follows : Follows m [] w.review (w.rejectPatch patch).review := by
      rw [review_eq]
      exact sane.follows rfl rfl rfl rfl
    exact ⟨[], follows.keeps current⟩
  | execute clock line =>
    obtain ⟨sent, follows⟩ := sane.follows_execute clock line
    exact ⟨sent, follows.keeps current⟩
  | resetTerminal =>
    have review_eq : w.resetTerminal.review = w.review := by
      unfold Workspace.resetTerminal
      split <;> rfl
    rw [review_eq]
    exact ⟨[], (sane.follows rfl rfl rfl rfl).keeps current⟩

end Operates

/-! ## Runs -/

section Reaches

variable {w₀ w w' : Workspace} {m₀ : Memory} {stale : Bool}

/-- Whatever is reached, the cached files are those of a listing, by induction on the operations. -/
theorem Reaches.sane (h : Reaches w₀ stale w) (sane : Sane m₀ w₀.review)
    (shows : m₀.Shows w₀.review.project w₀.review.files) :
    ∃ m, Sane m w.review ∧ (stale = false → m.Shows w.review.project w.review.files) := by
  induction h with
  | start => exact ⟨m₀, sane, fun _ => shows⟩
  | step _ op ih =>
    obtain ⟨m, sane, current⟩ := ih
    obtain ⟨sent, keeps⟩ := op.sends sane current
    exact ⟨m.replay sent, keeps.sane, keeps.current⟩

/-- If a name means a cached file of another project, applying a patch to it crosses. -/
theorem Sane.exists_crossing {m : Memory} (sane : Sane m w.review) {name : String} {file : File}
    (found : findFile? w.review.files name = some file)
    (foreign : ¬ m.Own w.review.project file.id) :
    ∃ op w' sent, Operates w op w' ∧ w'.review.store = .memory (m.replay sent) ∧
      ¬ StaysIn w.review.project m sent := by
  -- a patch for the name is enough, whatever its content
  obtain ⟨ended, n, go⟩ := Round.start_run w.review [.make "" name "" none]
  obtain ⟨rest, store_eq⟩ := go.update_sent ended sane.store_eq sane.chunk_pos found
  refine ⟨_, _, .update file.id "" :: rest, .applyPatch go ended, ?_, fun stays => ?_⟩
  · rw [mirror_review]
    exact store_eq
  · refine foreign fun e he hid => ?_
    by_contra other
    exact stays.1 ⟨e, he, by rw [hid]; rfl, other⟩

/-- **When writes stay in the open project.** Operations lead from a workspace that is started over
a store to some workspace; the store refuses whatever calls it likes. Then every operation sends
calls to the store, and none of them can be for a file of another project if and only if no name
means such a file among those that are cached. That is so unless the last project that was opened
could not be listed, and has not been since by opening it again or by a refresh. -/
theorem writes_stay_iff {storage : Storage} {user : String} {editor : Option Editor}
    {chunkSize : Int} {made : Nat} (sound : m₀.Sound) (chunk_pos : 0 < chunkSize)
    (h : Reaches (start storage user (.memory m₀) editor chunkSize made) stale w) :
    ∃ m, w.review.store = .memory m ∧
      (∀ op w', Operates w op w' → ∃ sent, w'.review.store = .memory (m.replay sent)) ∧
      ((∀ op w' sent, Operates w op w' → w'.review.store = .memory (m.replay sent) →
        StaysIn w.review.project m sent) ↔ m.Shows w.review.project w.review.files) ∧
      (stale = false → m.Shows w.review.project w.review.files) := by
  obtain ⟨m, sane, current⟩ := h.sane ⟨rfl, sound, .nil m₀, chunk_pos⟩ (.nil none m₀)
  refine ⟨m, sane.store_eq, ?_, ⟨?_, ?_⟩, current⟩
  · intro op w' operates
    obtain ⟨sent, keeps⟩ := operates.sends sane current
    exact ⟨sent, keeps.sane.store_eq⟩
  · intro stays name file found
    by_contra foreign
    obtain ⟨op, w', sent, operates, store_eq, crosses⟩ := sane.exists_crossing found foreign
    exact crosses (stays op w' sent operates store_eq)
  · intro shows op w' sent operates store_eq
    obtain ⟨sent', keeps⟩ := operates.sends sane current
    have same := m.replay_injective (Store.memory.inj (store_eq.symm.trans keeps.sane.store_eq))
    exact same ▸ keeps.stays shows

/-- Two projects are opened one after another, and the files of the second cannot be listed. Then a
patch crosses into the first. -/
theorem writes_stay_iff_opened_in_vain :
    let m₀ : Memory := { (Memory.empty.seed "one" "a.js" "keep" "").2 with
      refusal := fun _ call =>
        if call = .list "two" then some (.refused .run "store unavailable") else none }
    let w := ((start default "user" (.memory m₀) none 64 0).openProject "one" "One").2
    let w := (w.openProject "two" "Two").2
    w.review.project = some "two" ∧ ∃ m, w.review.store = .memory m ∧
      ∃ op w' sent, Operates w op w' ∧ w'.review.store = .memory (m.replay sent) ∧
        ¬ StaysIn (some "two") m sent := by
  intro m₀ w₁ w
  have sound : m₀.Sound :=
    ⟨(Memory.empty_sound.seed "one" "a.js" "keep" "").distinct,
      (Memory.empty_sound.seed "one" "a.js" "keep" "").given⟩
  have run : Reaches (start default "user" (.memory m₀) none 64 0) _ w :=
    .step (.step .start (.openProject "one" "One")) (.openProject "two" "Two")
  obtain ⟨m, store_eq, -, stays, -⟩ := writes_stay_iff sound (by decide) run
  refine ⟨rfl, m, store_eq, ?_⟩
  have foreign : ¬ m.Shows (some "two") w.review.files := by
    obtain rfl : m₀.replay [.list "one", .list "two"] = m := Store.memory.inj store_eq
    let file := (Memory.empty.seed "one" "a.js" "keep" "").1
    have found : findFile? w.review.files "a.js" = some file := rfl
    intro shows
    have own := shows _ _ found ("one", file) List.mem_cons_self rfl
    exact absurd own (by decide)
  by_contra none
  push Not at none
  exact foreign (stays.mp none)

end Reaches

end Workbench.Workspace
