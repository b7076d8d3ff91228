import Workbench.Proofs.Project.Granting
import Workbench.Proofs.Review.Listing
import Workbench.Proofs.Review.Unseen

/-!
# Applying a patch again

An apply that fails leaves one of three things behind: nothing; an empty file, where there was none
under the name of the patch; or the file with its new content, which could not be listed. From each
of them another apply of the patch goes on: it finds the file that was created, and writes the
content once more (`Stands`). So after any number of failed applies, one that meets no failure
leaves what a single one would have left (`retry_leaves_no_trace`).

An apply is looked at as `Direct.apply`, to which every interleaving of its task comes. `Attempt`
says of each part of it what it leaves, whether it fails or not; a call in front of what is left to
be done is `Attempt.after`.
-/

namespace Workbench

open Project (File Memory Store Call Revision findFile? findFile?_append_of_none)

/-! ## The file of a patch -/

namespace Project.Memory

/-- The file that a name means in a project, and the store that has it: an empty file is created if
there is none. -/
def ensure (m : Memory) (project name : String) : File × Memory :=
  match findFile? (m.listing project) name with
  | some file => (file, m)
  | none => m.seed project name "" (languageOf name)

variable {m : Memory} {project name : String}

/-- A file that is missing is created. -/
theorem ensure_of_missing (missing : findFile? (m.listing project) name = none) :
    m.ensure project name = m.seed project name "" (languageOf name) := by
  rw [ensure, missing]

/-- After that the file is there. -/
theorem findFile?_ensure (m : Memory) (project name : String) :
    findFile? ((m.ensure project name).2.listing project) name =
      some (m.ensure project name).1 := by
  unfold ensure
  cases found : findFile? (m.listing project) name with
  | some file => exact found
  | none =>
    dsimp only
    rw [listing_seed, findFile?_append_of_none found]
    simp [findFile?, File.isNamed, seed]

/-- One file is created at most. -/
theorem made_ensure_le (m : Memory) (project name : String) :
    (m.ensure project name).2.made ≤ m.made + 1 := by
  unfold ensure
  split
  · exact Nat.le_succ _
  · exact Nat.le_refl _

/-- The file is in the store. -/
theorem holds_ensure (m : Memory) (project name : String) :
    (m.ensure project name).2.holds (m.ensure project name).1.id = true :=
  holds_iff.mpr ⟨_, mem_filesOf.mp (Project.mem_of_findFile? (findFile?_ensure m project name)),
    rfl⟩

end Project.Memory

namespace Review

/-! ## What failed applies leave -/

section Attempt

variable {v w u : Review} {m m' : Memory} {project : String} {p : Patch} {file : File}
variable {answer : Except Failure File × Review}

/-- How far applies of a patch have come that failed: the store was `m` at first and is `m'` now,
and `files` are the cached files. -/
inductive Stands (m : Memory) (project : String) (p : Patch) (m' : Memory) (files : List File) :
    Prop
  | untouched (same : m.Matches m') (files_eq : files = m.listing project)
  /-- The file is there. -/
  | created (same : (m.ensure project p.fileName).2.Matches m')
      (files_eq : files = (m.ensure project p.fileName).2.listing project)
  /-- The file has its new content, and is cached without it. -/
  | written (same : ((m.ensure project p.fileName).2.rewrite (m.ensure project p.fileName).1.id
        p.newContent).Matches m')
      (files_eq : files = (m.ensure project p.fileName).2.listing project)

/-- What applies of a patch that failed have made of a review `v` over the store `m`. -/
structure Halfway (v : Review) (m : Memory) (project : String) (p : Patch) (w : Review)
    (m' : Memory) : Prop where
  store_eq : w.store = .memory m'
  project_eq : w.project = some project
  pending_eq : w.pending = v.pending
  stands : Stands m project p m' w.files

/-- What an apply of the patch leaves that does not fail. -/
structure Landed (v : Review) (m : Memory) (project : String) (p : Patch) (file : File) (w : Review)
    (m' : Memory) : Prop where
  store_eq : w.store = .memory m'
  pending_eq : w.pending = v.pending.filter (·.id != p.id)
  same : ((m.ensure project p.fileName).2.rewrite (m.ensure project p.fileName).1.id
    p.newContent).Matches m'
  files_eq : w.files = m'.listing project
  file_eq : file = { (m.ensure project p.fileName).1 with content := p.newContent }

/-- What comes of the rest of an apply when the store is `m'`: a call of it is refused, or it does
not fail. -/
inductive Attempt (v : Review) (m : Memory) (project : String) (p : Patch) (m' : Memory) :
    Except Failure File × Review → Prop
  | failed {e : Failure} {w : Review} (sent : List Call) (refused : ¬ m'.Grants sent)
      (halfway : Halfway v m project p w (m'.replay sent)) : Attempt v m project p m' (.error e, w)
  | landed {file : File} {w : Review} (sent : List Call)
      (landed : Landed v m project p file w (m'.replay sent)) :
      Attempt v m project p m' (.ok file, w)

/-- A call in front. -/
theorem Attempt.after (call : Call) (h : Attempt v m project p (m'.perform call) answer) :
    Attempt v m project p m' answer := by
  cases h with
  | failed sent refused halfway =>
    exact .failed (call :: sent) (fun granted => refused granted.2) halfway
  | landed sent landed => exact .landed (call :: sent) landed

/-- The apply ends with a call that is refused. -/
theorem Attempt.refused {call : Call} {e : Failure} (refused : m'.refusal m'.calls call ≠ none)
    (halfway : Halfway v m project p w (m'.perform call)) :
    Attempt v m project p m' (.error e, w) :=
  .failed [call] (fun granted => refused granted.1) halfway

/-- Whoever gave up halfway created one file at most. -/
theorem Halfway.made_le (h : Halfway v m project p w m') : m'.made ≤ m.made + 1 := by
  cases h.stands with
  | untouched same _ => exact same.made_eq ▸ Nat.le_succ m.made
  | created same _ | written same _ =>
    rw [same.made_eq]
    exact Memory.made_ensure_le m project p.fileName

/-- Whoever came to the end created one file at most. -/
theorem Landed.made_le (h : Landed v m project p file w m') : m'.made ≤ m.made + 1 := by
  rw [h.same.made_eq]
  exact Memory.made_ensure_le m project p.fileName

/-! ## The parts of an apply -/

/-- The file has its new content and is listed. -/
theorem Halfway.list (h : Halfway v m project p w m')
    (same : ((m.ensure project p.fileName).2.rewrite (m.ensure project p.fileName).1.id
      p.newContent).Matches m')
    (files_eq : w.files = (m.ensure project p.fileName).2.listing project) :
    Attempt v m project p m' (Direct.list p (m.ensure project p.fileName).1 project w) := by
  obtain ⟨still, turn⟩ := Memory.list_turn m' project
  unfold Direct.list Review.list
  rw [h.store_eq, Memory.list_memory]
  rcases turn with ⟨e, refused, listed⟩ | listed <;> rw [listed]
  · exact .refused refused ⟨rfl, h.project_eq, h.pending_eq, .written (same.trans still) files_eq⟩
  · refine .landed [.list project] ⟨rfl, ?_, same.trans still, (still.listing_eq project).symm, ?_⟩
    · exact congrArg (List.filter _) h.pending_eq
    · -- the name of the file means the file that the name of the patch means
      have found : findFile? (m'.listing project) (m.ensure project p.fileName).1.name =
          some { (m.ensure project p.fileName).1 with content := p.newContent } := by
        rw [same.listing_eq, Memory.listing_rewrite, Project.findFile?_revise]
        have ensured := Memory.findFile?_ensure m project p.fileName
        rw [Project.findFile?_of_lower_eq (Project.lower_name_of_findFile? ensured), ensured]
        simp [File.revise, Revision.single]
      rw [found, Option.getD_some]

/-- The file is there, with an old content or with the new one. -/
theorem Halfway.update (h : Halfway v m project p w m')
    (there : (m.ensure project p.fileName).2.Matches m' ∨
      ((m.ensure project p.fileName).2.rewrite (m.ensure project p.fileName).1.id
        p.newContent).Matches m')
    (files_eq : w.files = (m.ensure project p.fileName).2.listing project) :
    Attempt v m project p m' (Direct.update p (m.ensure project p.fileName).1 w) := by
  have held : m'.holds (m.ensure project p.fileName).1.id = true := by
    rcases there with same | same <;> rw [same.holds_eq]
    · exact Memory.holds_ensure m project p.fileName
    · rw [Memory.holds_rewrite]
      exact Memory.holds_ensure m project p.fileName
  unfold Direct.update
  rw [h.store_eq, Memory.update_memory]
  rcases Memory.update_turn held p.newContent with ⟨e, refused, answer, still⟩ | ⟨answer, done⟩ <;>
    rw [answer]
  · refine .refused refused ⟨rfl, h.project_eq, h.pending_eq, ?_⟩
    rcases there with same | same
    · exact .created (same.trans still) files_eq
    · exact .written (same.trans still) files_eq
  · -- writing the content once more changes nothing
    have written : ((m.ensure project p.fileName).2.rewrite (m.ensure project p.fileName).1.id
        p.newContent).Matches
          (m'.perform (.update (m.ensure project p.fileName).1.id p.newContent)) := by
      rcases there with same | same
      · exact (same.rewrite _ _).trans done
      · have again := same.rewrite (m.ensure project p.fileName).1.id p.newContent
        rw [Memory.rewrite_rewrite] at again
        exact again.trans done
    simp only [h.project_eq]
    exact .after _ (Halfway.list ⟨rfl, rfl, h.pending_eq, .written written files_eq⟩
      written files_eq)

/-- No file has the name of the patch. -/
theorem Halfway.create (h : Halfway v m project p w m') (same : m.Matches m')
    (files_eq : w.files = m.listing project)
    (missing : findFile? (m.listing project) p.fileName = none) :
    Attempt v m project p m' (Direct.create p project w) := by
  have ensured := Memory.ensure_of_missing missing
  have turn := Memory.create_turn m' project p.fileName "" (Project.languageOf p.fileName)
  obtain ⟨file_eq, seeded⟩ :=
    same.seed project p.fileName "" (Project.languageOf p.fileName)
  rw [← ensured] at file_eq seeded
  unfold Direct.create
  rw [h.store_eq, Memory.create_memory]
  rcases turn with ⟨e, refused, answer, still⟩ | ⟨answer, done⟩ <;> rw [answer]
  · exact .refused refused ⟨rfl, h.project_eq, h.pending_eq, .untouched (same.trans still) files_eq⟩
  · have cached : w.files ++ [(m.ensure project p.fileName).1] =
        (m.ensure project p.fileName).2.listing project := by
      rw [files_eq, ensured, Memory.listing_seed]
    have created := seeded.trans done
    rw [file_eq]
    exact .after _ (Halfway.update ⟨rfl, h.project_eq, h.pending_eq, .created created cached⟩
      (.inl created) cached)

/-- **One attempt.** From wherever failed applies have led, another one is refused a call and leads
to such a point again, or it leaves what an apply leaves that does not fail. -/
theorem Halfway.apply (h : Halfway v m project p w m') :
    Attempt v m project p m' (Direct.apply p w) := by
  have ensured := Memory.findFile?_ensure m project p.fileName
  unfold Direct.apply
  cases h.stands with
  | created same files_eq =>
    rw [files_eq, ensured]
    exact h.update (.inl same) files_eq
  | written same files_eq =>
    rw [files_eq, ensured]
    exact h.update (.inr same) files_eq
  | untouched same files_eq =>
    rw [files_eq]
    cases found : findFile? (m.listing project) p.fileName with
    | some file =>
      have there : m.ensure project p.fileName = (file, m) := by rw [Memory.ensure, found]
      have := h.update (there ▸ .inl same) (there ▸ files_eq)
      rwa [there] at this
    | none =>
      simp only [h.project_eq]
      exact h.create same files_eq found

end Attempt

/-! ## Any number of attempts -/

section Retries

variable {v w u : Review} {m m' : Memory} {project : String} {p : Patch}
variable {result : Except Failure File}

/-- The editor matters to nothing here. -/
theorem Attempt.of_alike (h : Attempt v m project p m' (result, w)) (alike : Alike w u) :
    Attempt v m project p m' (result, u) := by
  obtain ⟨editor, chunkSize, streaming, rfl⟩ := alike
  cases h with
  | failed sent refused halfway => exact .failed sent refused { halfway with }
  | landed sent landed => exact .landed sent { landed with }

/-- However the task of an apply goes, it is an attempt. -/
theorem Halfway.serves (h : Halfway v m project p w m') (pos : 0 < w.chunkSize)
    (served : Serves w (.apply p) (.file result) u) : Attempt v m project p m' (result, u) := by
  obtain ⟨answered, alike⟩ := served.direct pos (.refl w)
  obtain rfl := Answer.file.inj answered
  exact h.apply.of_alike alike.symm

/-- `Retries p v w`: applies of the patch that all failed lead from `v` to `w`. Between two of them
the editor may be changed. -/
inductive Retries (p : Patch) (v : Review) : Review → Prop
  | start : Retries p v v
  | fail {w u : Review} {e : Failure} :
      Retries p v w → Serves w (.apply p) (.file (.error e)) u → Retries p v u
  | edit {w : Review} (editor : Option Editor) : Retries p v w → Retries p v { w with editor }

/-- However often it is tried in vain, the review is halfway still. -/
theorem Retries.halfway (h : Retries p v w) (start : Halfway v m project p v m)
    (pos : 0 < v.chunkSize) :
    0 < w.chunkSize ∧ ∃ sent, Halfway v m project p w (m.replay sent) := by
  induction h with
  | start => exact ⟨pos, [], start⟩
  | fail _ served ih =>
    obtain ⟨pos, sent, halfway⟩ := ih
    refine ⟨served.chunkSize_eq ▸ pos, ?_⟩
    cases halfway.serves pos served with
    | failed more _ halfway => exact ⟨sent ++ more, Memory.replay_append m sent more ▸ halfway⟩
  | edit editor _ ih =>
    obtain ⟨pos, sent, halfway⟩ := ih
    exact ⟨pos, sent, { halfway with }⟩

/-- **Failed applies leave no trace.** The files of the open project are cached as they are stored,
and applies of a patch that waits fail any number of times, at whatever calls. Then the patches that
wait are the same, and at most one file was created. The next apply, if no call of it is refused,
does not fail; then the patch has stopped waiting, still at most one file was created, and the files
of the project and the file that is answered are those of any single apply from the start that does
not fail, whatever other calls the store would have refused. -/
theorem retry_leaves_no_trace (store_eq : v.store = .memory m) (opened : v.project = some project)
    (files_eq : v.files = m.listing project) (pos : 0 < v.chunkSize) (waits : p ∈ v.pending)
    (tried : Retries p v w) :
    p ∈ w.pending ∧ w.pending = v.pending ∧ ∃ calls m', m' = m.replay calls ∧
      w.store = .memory m' ∧ m'.made ≤ m.made + 1 ∧
      ∀ result u, Serves w (.apply p) (.file result) u →
        ∃ sent, u.store = .memory (m'.replay sent) ∧ (m'.Grants sent → ∃ file,
          result = .ok file ∧ p ∉ u.pending ∧ u.pending = v.pending.filter (·.id != p.id) ∧
          (m'.replay sent).made ≤ m.made + 1 ∧ u.files = (m'.replay sent).listing project ∧
          ∀ refusal file₁ u₁,
            Serves { v with store := .memory { m with refusal } } (.apply p) (.file (.ok file₁))
                u₁ →
              file = file₁ ∧ u.files = u₁.files ∧
                ∃ m₁, u₁.store = .memory m₁ ∧ u₁.files = m₁.listing project) := by
  have start : Halfway v m project p v m :=
    ⟨store_eq, opened, rfl, .untouched (.refl m) files_eq⟩
  obtain ⟨pos', calls, halfway⟩ := tried.halfway start pos
  refine ⟨halfway.pending_eq ▸ waits, halfway.pending_eq, calls, _, rfl, halfway.store_eq,
    halfway.made_le, ?_⟩
  intro result u served
  cases halfway.serves pos' served with
  | failed sent refused halfway =>
    exact ⟨sent, halfway.store_eq, fun granted => absurd granted refused⟩
  | @landed file _ sent landed =>
    have gone : p ∉ u.pending := by
      rw [landed.pending_eq]
      simp
    refine ⟨sent, landed.store_eq, fun _ => ⟨file, rfl, gone, landed.pending_eq, landed.made_le,
      landed.files_eq, ?_⟩⟩
    intro refusal file₁ u₁ single
    have start₁ : Halfway v m project p { v with store := .memory { m with refusal } }
        { m with refusal } := ⟨rfl, opened, rfl, .untouched ⟨rfl, rfl⟩ files_eq⟩
    cases start₁.serves pos single with
    | landed sent₁ landed₁ =>
      refine ⟨landed.file_eq.trans landed₁.file_eq.symm, ?_, _, landed₁.store_eq, landed₁.files_eq⟩
      rw [landed.files_eq, landed₁.files_eq, landed.same.listing_eq, landed₁.same.listing_eq]

/-- The store refuses to create the file, then to update it, and then to list it. The fourth apply
answers what the first one would have answered without these failures. -/
theorem retry_leaves_no_trace_three_failures :
    let patch : Patch := ⟨"1", "a.js", "x", 1, 0, true⟩
    let denied : Failure := .refused .run "store unavailable"
    let m : Memory := { Memory.empty with
      refusal := fun calls _ => if calls.length ∈ [0, 2, 4] then some denied else none }
    let v := { Review.start (.memory m) (some "site") none 64 0 with pending := [patch] }
    let single := { v with store := .memory { m with refusal := fun _ _ => none } }
    let w := (((v.apply patch).2.apply patch).2.apply patch).2
    let tries : List Call := [.create "site" "a.js" "" "javascript",
      .create "site" "a.js" "" "javascript", .update "file-1" "x", .update "file-1" "x",
      .list "site"]
    let file : File := ⟨"file-1", "a.js", "x", "javascript"⟩
    Retries patch v w ∧ w.pending = [patch] ∧ w.store.calls = tries ∧
      (w.apply patch).1 = .ok file ∧ (single.apply patch).1 = .ok file ∧
      patch ∉ (w.apply patch).2.pending ∧ (w.apply patch).2.files = [file] := by
  intro patch denied m v single w tries file
  have fail {u : Review} (tried : Retries patch v u)
      (failed : (u.apply patch).1.toOption = none) : Retries patch v (u.apply patch).2 := by
    obtain ⟨e, answer⟩ := Project.exists_eq_error_of_toOption failed
    exact .fail tried (answer ▸ serves_apply u patch)
  have tried : Retries patch v w :=
    fail (fail (fail .start (by decide +kernel)) (by decide +kernel)) (by decide +kernel)
  have log : w.store.calls = tries := by decide +kernel
  have opened : v.project = some "site" := rfl
  obtain ⟨-, waiting, calls, m', rfl, store_eq, -, next⟩ :=
    retry_leaves_no_trace (m := m) rfl opened rfl (by decide) (List.mem_singleton_self patch) tried
  obtain ⟨sent, stored, granted⟩ := next _ _ (serves_apply w patch)
  have called : tries = calls := by
    rw [← log, store_eq]
    exact m.replay_calls calls
  subst called
  have last : [Call.update "file-1" "x", .list "site"] = sent := by
    have whole : (w.apply patch).2.store.calls = tries ++ [.update "file-1" "x", .list "site"] := by
      decide +kernel
    rw [stored, Store.calls, Memory.replay_calls, m.replay_calls tries] at whole
    exact List.append_cancel_left whole.symm
  subst last
  have grants : (m.replay tries).Grants [.update "file-1" "x", .list "site"] := by
    simp [tries, m, Memory.Grants, Memory.replay, Memory.refusal_perform, Memory.perform_calls,
      Memory.empty]
  obtain ⟨file, answered, gone, -, -, -, agrees⟩ := granted grants
  have landed : (single.apply patch).1 = .ok ⟨"file-1", "a.js", "x", "javascript"⟩ :=
    Project.eq_ok_of_toOption (by decide +kernel)
  obtain ⟨rfl, -⟩ := agrees _ _ _ (landed ▸ serves_apply single patch)
  exact ⟨tried, waiting, log, answered, landed, gone, by decide +kernel⟩

end Retries

end Review

end Workbench
