import Workbench.Proofs.Review.Schedule

/-!
# The editor has no say

A patch is typed into the editor between the moment at which its file is found and the one at which
the store is called. Typing may end early: there is no editor, the file was closed, the editor was
swapped or forgets. In all these cases the task goes on to update its file, so what comes of it is
what comes of a patch that is applied without any editor.

That patch is `Direct.apply`: it finds or creates the file, updates it and lists the files.
`Direct.resume` is the rest of it, from the stage at which a task stands. No stride changes what
`resume` says (`Stride.resume_eq_or`): whether a piece of text was typed cannot be told from it. So
every interleaving that comes to its end has come to `Direct.apply` (`Interleaving.direct`), and
runs of requests to one review and to another that differ in their editors agree in all that they
answer and store (`runs_agree_of_alike`).
-/

namespace Workbench.Review

open Project (File)

/-- The reviews are the same but for the editor and what is typed there. -/
def Alike (v v' : Review) : Prop :=
  ∃ editor chunkSize streaming, v' = { v with editor, chunkSize, streaming }

theorem Alike.refl (v : Review) : Alike v v := ⟨_, _, _, rfl⟩

/-- Being alike is mutual. -/
theorem Alike.symm {v v' : Review} (h : Alike v v') : Alike v' v := by
  obtain ⟨editor, chunkSize, streaming, rfl⟩ := h
  exact ⟨_, _, _, rfl⟩

/-- And passed on. -/
theorem Alike.trans {v v' v'' : Review} (h : Alike v v') (h' : Alike v' v'') : Alike v v'' := by
  obtain ⟨editor, chunkSize, streaming, rfl⟩ := h
  obtain ⟨editor', chunkSize', streaming', rfl⟩ := h'
  exact ⟨_, _, _, rfl⟩

/-! ## A patch that is applied without an editor -/

namespace Direct

/-- The files are listed, and the patch does not wait any more. -/
def list (p : Patch) (file : File) (project : String) (v : Review) :
    Except Failure File × Review :=
  match v.list project with
  | (.error e, v) => (.error e, v)
  | (.ok files, v) =>
    (.ok ((Project.findFile? files file.name).getD { file with content := p.newContent }),
      v.discard p.id)

/-- The file is updated, and the files are listed. -/
def update (p : Patch) (file : File) (v : Review) : Except Failure File × Review :=
  match v.store.update file.id p.newContent with
  | (.error e, store) => (.error e, { v with store })
  | (.ok _, store) =>
    match v.project with
    | none => (.error .noProject, { v with store })
    | some project => list p file project { v with store }

/-- The file is created in a project, and updated. -/
def create (p : Patch) (project : String) (v : Review) : Except Failure File × Review :=
  match v.store.create project p.fileName "" (Project.languageOf p.fileName) with
  | (.error e, store) => (.error e, { v with store })
  | (.ok file, store) => update p file { v with store, files := v.files ++ [file] }

/-- The patch is applied to the file that its name means, or to a new one. -/
def apply (p : Patch) (v : Review) : Except Failure File × Review :=
  match Project.findFile? v.files p.fileName with
  | some file => update p file v
  | none =>
    match v.project with
    | none => (.error .noProject, v)
    | some project => create p project v

/-- What is left to be done from a stage on. -/
def resume (p : Patch) : Stage → Review → Except Failure File × Review
  | .fresh | .queued => apply p
  | .creating project => create p project
  | .typing file _ | .updating file => update p file
  | .listing file project => list p file project
  | .finished result => (result, ·)

variable {p : Patch} {file : File} {project : String} {v v' : Review}

/-- The same was answered, and the reviews are the same but for the editor. -/
def Agree (a a' : Except Failure File × Review) : Prop :=
  a.1 = a'.1 ∧ Alike a.2 a'.2

/-- Reviews that are alike list alike. -/
theorem list_agree (h : Alike v v') : Agree (list p file project v) (list p file project v') := by
  obtain ⟨editor, chunkSize, streaming, rfl⟩ := h
  unfold list Review.list
  dsimp only
  rcases v.store.list project with ⟨answer, store⟩
  cases answer with
  | error e => exact ⟨rfl, _, _, _, rfl⟩
  | ok files => exact ⟨rfl, _, _, _, rfl⟩

/-- They write alike. -/
theorem update_agree (h : Alike v v') : Agree (update p file v) (update p file v') := by
  obtain ⟨editor, chunkSize, streaming, rfl⟩ := h
  unfold update
  dsimp only
  rcases v.store.update file.id p.newContent with ⟨answer, store⟩
  cases answer with
  | error e => exact ⟨rfl, _, _, _, rfl⟩
  | ok done =>
    cases v.project with
    | none => exact ⟨rfl, _, _, _, rfl⟩
    | some project => exact list_agree ⟨_, _, _, rfl⟩

/-- They create alike. -/
theorem create_agree (h : Alike v v') : Agree (create p project v) (create p project v') := by
  obtain ⟨editor, chunkSize, streaming, rfl⟩ := h
  unfold create
  dsimp only
  rcases v.store.create project p.fileName "" (Project.languageOf p.fileName) with
    ⟨answer, store⟩
  cases answer with
  | error e => exact ⟨rfl, _, _, _, rfl⟩
  | ok file => exact update_agree ⟨_, _, _, rfl⟩

/-- They apply patches alike. -/
theorem apply_agree (h : Alike v v') : Agree (apply p v) (apply p v') := by
  obtain ⟨editor, chunkSize, streaming, rfl⟩ := h
  rcases v with ⟨_, project, _, _, files, _, _, _, _⟩
  unfold apply
  dsimp only
  cases Project.findFile? files p.fileName with
  | some file => exact update_agree ⟨_, _, _, rfl⟩
  | none =>
    cases project with
    | none => exact ⟨rfl, _, _, _, rfl⟩
    | some project => exact create_agree ⟨_, _, _, rfl⟩

/-- They go on alike from any stage. -/
theorem resume_agree (h : Alike v v') (s : Stage) : Agree (resume p s v) (resume p s v') := by
  cases s with
  | fresh | queued => exact apply_agree h
  | creating project => exact create_agree h
  | typing file _ | updating file => exact update_agree h
  | listing file project => exact list_agree h
  | finished result => exact ⟨rfl, h⟩

end Direct

/-! ## Strides do what is left to be done -/

section Stride

variable {i : ℕ} {t : Task} {v : Review} {locks held : Locks} {e : Effect}

/-- A task that takes its lock has all of the work before it. -/
theorem Takes.resume_eq (h : Takes t locks held) (p : Patch) :
    Direct.resume p t.stage = Direct.apply p := by
  cases h with
  | free stage _ | handed stage => rw [stage, Direct.resume]

/-- Where a task begins to type, its file is still to be updated, unless it cannot be typed. -/
theorem Begins.resume_eq_or {file : File} {n : ℕ} {size : ℤ} {s : Stage} (h : Begins file n size s)
    (p : Patch) : (size ≤ 0 ∧ ∃ failure, s = .finished (.error failure)) ∨
      Direct.resume p s = Direct.update p file := by
  cases h with
  | typing _ | updating => exact .inr rfl
  | refused bad => exact .inl ⟨bad, _, rfl⟩

/-- **A stride leaves to be done what was left, and does the rest**, unless the file cannot be
typed. -/
theorem Stride.resume_eq_or (h : Stride i t v locks e) :
    (v.chunkSize ≤ 0 ∧ ∃ failure, e.stage = .finished (.error failure)) ∨
      Direct.resume t.patch e.stage e.review = Direct.resume t.patch t.stage v := by
  cases h with
  | find takes found begins =>
    refine (begins.resume_eq_or t.patch).imp_right fun same => ?_
    rw [takes.resume_eq, same, Direct.apply, found]
  | create stage created begins =>
    refine (begins.resume_eq_or t.patch).imp_right fun same => ?_
    rw [stage, same, Direct.resume, Direct.create, created]
  | wait stage taken =>
    right
    rw [stage, Direct.resume, Direct.resume]
  | claim takes missing opened =>
    right
    rw [takes.resume_eq, Direct.resume, Direct.apply, missing, opened]
  | orphan takes missing closed =>
    right
    rw [takes.resume_eq, Direct.resume, Direct.apply, missing, closed]
  | createFailed stage refused =>
    right
    rw [stage, Direct.resume, Direct.resume, Direct.create, refused]
  | type stage | typed stage =>
    right
    rw [stage, Direct.resume, Direct.resume]
  | update stage updated opened =>
    right
    rw [stage, Direct.resume, Direct.resume, Direct.update, updated]
    simp only [opened]
  | updateOrphan stage updated closed =>
    right
    rw [stage, Direct.resume, Direct.resume, Direct.update, updated]
    simp only [closed]
  | updateFailed stage refused =>
    right
    rw [stage, Direct.resume, Direct.resume, Direct.update, refused]
  | list stage listed =>
    right
    rw [stage, Direct.resume, Direct.resume, Direct.list, Review.list, listed]
  | listFailed stage refused =>
    right
    rw [stage, Direct.resume, Direct.resume, Direct.list, Review.list, refused]

end Stride

/-! ## One patch -/

section Interleaving

variable {v w : Review} {p : Patch} {n : ℕ} {r : Round}

/-- One patch is being applied, and what is left of it comes to what applying it directly does,
unless it could not be typed. -/
structure Resumes (p : Patch) (v : Review) (r : Round) : Prop where
  chunkSize_eq : r.review.chunkSize = v.chunkSize
  direct : ∃ stage, r.tasks = [⟨p, stage⟩] ∧
    ((v.chunkSize ≤ 0 ∧ ∃ failure, stage = .finished (.error failure)) ∨
      Direct.Agree (Direct.resume p stage r.review) (Direct.apply p v))

/-- The editor matters to nothing here. -/
theorem Resumes.of_alike {u u' : Review} {tasks : List Task} {ready ready' : List ℕ}
    {locks : Locks} (h : Resumes p v ⟨u, tasks, ready, locks⟩) (alike : Alike u' u)
    (size : u'.chunkSize = u.chunkSize) : Resumes p v ⟨u', tasks, ready', locks⟩ := by
  obtain ⟨stage, tasks_eq, agree⟩ := h.direct
  refine ⟨size.trans h.chunkSize_eq, stage, tasks_eq, agree.imp_right fun agree => ?_⟩
  have same := Direct.resume_agree (p := p) alike stage
  exact ⟨same.1.trans agree.1, same.2.trans agree.2⟩

/-- What is left to do after a step is what was left before it. -/
theorem Resumes.after {i : ℕ} {t : Task} {e : Effect} (h : Resumes p v r)
    (ht : r.tasks[i]? = some t) (unfinished : ∀ result, t.stage ≠ .finished result)
    (he : Stride i t r.review r.locks e) : Resumes p v (r.after i e) := by
  obtain ⟨stage, tasks_eq, agree⟩ := h.direct
  rw [tasks_eq] at ht
  have first : i = 0 := by
    have inside := (List.getElem?_eq_some_iff.mp ht).1
    simpa using inside
  subst first
  obtain rfl : ⟨p, stage⟩ = t := Option.some.inj ht
  refine ⟨he.chunkSize_eq.trans h.chunkSize_eq, e.stage, by simp [Round.after, tasks_eq], ?_⟩
  rcases agree with ⟨-, failure, done⟩ | agree
  · exact absurd done (unfinished _)
  · rcases he.resume_eq_or with ⟨bad, failed⟩ | same
    · exact .inl ⟨h.chunkSize_eq ▸ bad, failed⟩
    · refine .inr ?_
      show Direct.Agree (Direct.resume p e.stage e.review) _
      rw [same]
      exact agree

/-- **Applying a patch is applying it directly**, whatever happens to the editor meanwhile, unless
it cannot be typed. -/
theorem Interleaving.direct_or (h : Interleaving (.start v [p]) n r) (ended : r.Ended) :
    ∃ result, r.results = [result] ∧ ((v.chunkSize ≤ 0 ∧ ∃ failure, result = .error failure) ∨
      Direct.Agree (result, r.review) (Direct.apply p v)) := by
  have resumes : Resumes p v r := by
    refine (keeps (P := Resumes p v) ?_ ?_ ?_ (.start v [p]) ?_ h).1
    · intro r
      exact ⟨fun h => h.of_alike ⟨_, _, _, rfl⟩ rfl, fun h => h.of_alike ⟨_, _, _, rfl⟩ rfl⟩
    · intro r ready
      exact ⟨fun h => h.of_alike (.refl _) rfl, fun h => h.of_alike (.refl _) rfl⟩
    · exact ⟨rfl, .fresh, rfl, .inr ⟨rfl, .refl _⟩⟩
    · intro r i t e hr _ ht unfinished _ he
      exact hr.after ht unfinished he
  obtain ⟨stage, tasks_eq, agree⟩ := resumes.direct
  obtain ⟨result, done⟩ := h.done_of_ended (.start v [p]) ended
    (tasks_eq ▸ List.mem_singleton_self _)
  subst done
  refine ⟨result, by rw [Round.results, tasks_eq]; rfl, agree.imp_left ?_⟩
  rintro ⟨bad, failure, done⟩
  exact ⟨bad, failure, Stage.finished.inj done⟩

/-- A patch that can be typed is applied directly. -/
theorem Interleaving.direct (h : Interleaving (.start v [p]) n r) (ended : r.Ended)
    (pos : 0 < v.chunkSize) : ∃ result, r.results = [result] ∧
      Direct.Agree (result, r.review) (Direct.apply p v) := by
  obtain ⟨result, reported, ⟨bad, -⟩ | agree⟩ := h.direct_or ended
  · omega
  · exact ⟨result, reported, agree⟩

end Interleaving

/-! ## Requests one after another -/

/-- What a review can be asked for. -/
inductive Request where
  | refresh
  | parse (text : String)
  | apply (patch : Patch)
  | reject (patch : Patch)

inductive Answer where
  | files (listed : Except Failure (List File))
  | patches (parsed : List Patch)
  | file (applied : Except Failure File)
  | done

/-- What can come of a request: a patch is applied in any way in which its task can go while things
happen to the editor. -/
inductive Serves (v : Review) : Request → Answer → Review → Prop
  | refresh : Serves v .refresh (.files v.refresh.1) v.refresh.2
  | parse (text : String) : Serves v (.parse text) (.patches (v.parse text).1) (v.parse text).2
  | apply {patch : Patch} {n : ℕ} {r : Round} {result : Except Failure File}
      (go : Interleaving (.start v [patch]) n r) (ended : r.Ended)
      (reported : r.results = [result]) : Serves v (.apply patch) (.file result) r.review
  | reject (patch : Patch) : Serves v (.reject patch) .done (v.reject patch)

/-- `Runs v asked answers w`: the requests lead from `v` to `w` with the answers. Between two of
them the editor may be changed, swapped or removed. -/
inductive Runs : Review → List Request → List Answer → Review → Prop
  | done (v : Review) : Runs v [] [] v
  | edit {v w : Review} {asked : List Request} {answers : List Answer} (editor : Option Editor) :
      Runs { v with editor } asked answers w → Runs v asked answers w
  | serve {v v' w : Review} {request : Request} {answer : Answer} {asked : List Request}
      {answers : List Answer} :
      Serves v request answer v' → Runs v' asked answers w →
        Runs v (request :: asked) (answer :: answers) w

namespace Direct

/-- What comes of a request without an editor. -/
def serve (v : Review) : Request → Answer × Review
  | .refresh => (.files v.refresh.1, v.refresh.2)
  | .parse text => (.patches (v.parse text).1, (v.parse text).2)
  | .apply patch => (.file (apply patch v).1, (apply patch v).2)
  | .reject patch => (.done, v.reject patch)

/-- What comes of requests without an editor. -/
def run : List Request → Review → List Answer × Review
  | [], v => ([], v)
  | request :: asked, v =>
    let answers := run asked (serve v request).2
    ((serve v request).1 :: answers.1, answers.2)

end Direct

section Runs

variable {v v' w w' : Review} {request : Request} {answer : Answer}
variable {asked : List Request} {answers answers' : List Answer}

/-- Reviews that are alike refresh alike. -/
theorem refresh_alike (h : Alike v v') :
    v.refresh.1 = v'.refresh.1 ∧ Alike v.refresh.2 v'.refresh.2 := by
  obtain ⟨editor, chunkSize, streaming, rfl⟩ := h
  rcases v with ⟨store, project, _, _, files, _, _, _, _⟩
  cases project with
  | none => exact ⟨rfl, _, _, _, rfl⟩
  | some project =>
    unfold Review.refresh Review.list openProject?
    dsimp only
    rcases store.list project with ⟨answer, store⟩
    cases answer with
    | error e => exact ⟨rfl, _, _, _, rfl⟩
    | ok files => exact ⟨rfl, _, _, _, rfl⟩

/-- A request comes to what it comes to without an editor. -/
theorem Serves.direct (h : Serves v request answer w) (pos : 0 < v.chunkSize) {u : Review}
    (alike : Alike v u) :
    answer = (Direct.serve u request).1 ∧ Alike w (Direct.serve u request).2 := by
  cases h with
  | refresh =>
    obtain ⟨same, alike⟩ := refresh_alike alike
    exact ⟨congrArg Answer.files same, alike⟩
  | parse text =>
    obtain ⟨editor, chunkSize, streaming, rfl⟩ := alike
    exact ⟨rfl, _, _, _, rfl⟩
  | @apply patch _ _ _ go ended reported =>
    obtain ⟨result, reported', agree⟩ := go.direct ended pos
    rw [reported] at reported'
    obtain rfl := List.singleton_inj.mp reported'
    have same := Direct.apply_agree (p := patch) alike
    exact ⟨congrArg Answer.file (agree.1.trans same.1), agree.2.trans same.2⟩
  | reject patch =>
    obtain ⟨editor, chunkSize, streaming, rfl⟩ := alike
    exact ⟨rfl, _, _, _, rfl⟩

/-- A patch that is applied well is applied directly, however many characters are typed at once. -/
theorem Serves.direct_of_ok {patch : Patch} {file : File}
    (h : Serves v (.apply patch) (.file (.ok file)) w) :
    Direct.Agree (.ok file, w) (Direct.apply patch v) := by
  cases h with
  | apply go ended reported =>
    obtain ⟨result, reported', direct⟩ := go.direct_or ended
    obtain rfl := List.singleton_inj.mp (reported.symm.trans reported')
    rcases direct with ⟨-, failure, failed⟩ | agree
    · cases failed
    · exact agree

/-- A refresh does not change how much is typed at once. -/
theorem refresh_chunkSize (v : Review) : v.refresh.2.chunkSize = v.chunkSize := by
  unfold Review.refresh Review.list
  dsimp only
  split
  · split <;> rfl
  · rfl

/-- Nor does a request. -/
theorem Serves.chunkSize_eq (h : Serves v request answer w) : w.chunkSize = v.chunkSize := by
  cases h with
  | refresh => exact refresh_chunkSize v
  | apply go ended reported => exact go.chunkSize_eq
  | parse text | reject patch => rfl

/-- Requests one after another come to what they come to without an editor. -/
theorem Runs.direct (h : Runs v asked answers w) (pos : 0 < v.chunkSize) {u : Review}
    (alike : Alike v u) : answers = (Direct.run asked u).1 ∧ Alike w (Direct.run asked u).2 := by
  induction h generalizing u with
  | done v => exact ⟨rfl, alike⟩
  | edit editor _ ih =>
    refine ih pos (Alike.trans ?_ alike)
    exact ⟨_, _, _, rfl⟩
  | serve served _ ih =>
    obtain ⟨same, alike⟩ := served.direct pos alike
    rw [← served.chunkSize_eq] at pos
    obtain ⟨rest, alike⟩ := ih pos alike
    exact ⟨congrArg₂ List.cons same rest, alike⟩

/-- Applying a patch serves a request. -/
theorem serves_apply (v : Review) (patch : Patch) :
    Serves v (.apply patch) (.file (v.apply patch).1) (v.apply patch).2 := by
  obtain ⟨n, r, result, go, ended, reported, same⟩ := exists_apply_eq patch v
  rw [same]
  exact .apply go ended reported

/-- Every request is answered. -/
theorem exists_serves (v : Review) (request : Request) : ∃ answer w, Serves v request answer w := by
  cases request with
  | refresh => exact ⟨_, _, .refresh⟩
  | parse text => exact ⟨_, _, .parse text⟩
  | apply patch => exact ⟨_, _, serves_apply v patch⟩
  | reject patch => exact ⟨_, _, .reject patch⟩

/-- Every list of requests can be served. -/
theorem exists_runs (v : Review) (asked : List Request) : ∃ answers w, Runs v asked answers w := by
  induction asked generalizing v with
  | nil => exact ⟨_, _, .done v⟩
  | cons request asked ih =>
    obtain ⟨answer, v', served⟩ := exists_serves v request
    obtain ⟨answers, w, run⟩ := ih v'
    exact ⟨_, _, .serve served run⟩

/-- **The editor has no say.** Take two reviews that are the same but for their editors, for how
many characters are typed at once, and for what is being typed. Requests to the one and to the other
are all answered; and however their tasks go and whatever happens to either editor on the way, they
are answered alike and leave the same store, with the same calls, the same files and the same
patches that wait. -/
theorem runs_agree_of_alike (alike : Alike v v') (pos : 0 < v.chunkSize) (pos' : 0 < v'.chunkSize)
    (asked : List Request) :
    (∃ answers w, Runs v asked answers w) ∧ (∃ answers w, Runs v' asked answers w) ∧
    ∀ answers w answers' w', Runs v asked answers w → Runs v' asked answers' w' →
      answers = answers' ∧ w.store = w'.store ∧ w.store.calls = w'.store.calls ∧
        w.files = w'.files ∧ w.pending = w'.pending := by
  refine ⟨exists_runs v asked, exists_runs v' asked, ?_⟩
  intro answers w answers' w' run run'
  obtain ⟨rfl, one⟩ := run.direct pos (.refl v)
  obtain ⟨rfl, other⟩ := run'.direct pos' alike.symm
  obtain ⟨editor, chunkSize, streaming, rfl⟩ := one.trans other.symm
  exact ⟨rfl, rfl, rfl, rfl, rfl⟩

/-- The editor is removed after half of the patch was typed. The file is what it is for a review
that never had an editor. -/
theorem runs_agree_of_alike_editor_removed :
    let patch : Patch := ⟨"1", "a.js", "1234", 1, 0, true⟩
    let v := Review.start (.memory .empty) (some "site") (some (.empty none)) 2 0
    let v' := Review.start (.memory .empty) (some "site") none 64 0
    let typing := ((Round.start v [patch]).advance 0).advance 0
    typing.review.streaming = [("file-1", "12")] ∧
      ∃ n r, Interleaving { typing with review.editor := none } n r ∧ r.Ended ∧
        r.results = [(v'.apply patch).1] ∧ r.review.store = (v'.apply patch).2.store := by
  intro patch v v' typing
  let removed : Round := { typing with review.editor := none }
  let r := ((removed.advance 0).advance 0).advance 0
  have go : Interleaving removed 3 r := by
    refine .step 0 (.step 0 (.step 0 .start ?_) ?_) ?_
    all_goals decide +kernel
  have typed : Interleaving (.start v [patch]) 2 typing := by
    refine .step 0 (.step 0 .start ?_) ?_
    all_goals decide +kernel
  have whole : Interleaving (.start v [patch]) (2 + 3) r := (typed.edit none).trans go
  have ended : r.Ended := by decide +kernel
  obtain ⟨result, reported⟩ := whole.exists_result ended
  have one : Runs v [.apply patch] [.file result] r.review :=
    .serve (.apply whole ended reported) (.done _)
  have other : Runs v' [.apply patch] [.file (v'.apply patch).1] (v'.apply patch).2 :=
    .serve (serves_apply v' patch) (.done _)
  have alike : Alike v v' := ⟨none, 64, [], rfl⟩
  obtain ⟨-, -, agree⟩ := runs_agree_of_alike alike (by decide) (by decide) [.apply patch]
  obtain ⟨same, store_eq, -⟩ := agree _ _ _ _ one other
  have answered : result = (v'.apply patch).1 := by simpa using same
  rw [answered] at reported
  exact ⟨by decide +kernel, 3, r, go, ended, reported, store_eq⟩

end Runs

end Workbench.Review
