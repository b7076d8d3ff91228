import Workbench.Proofs.Patch.Frames
import Workbench.Proofs.Review.Alone
import Workbench.Proofs.Workspace.Waiting
import Mathlib.Data.List.Permutation

/-!
# Nothing is left behind

While a file is typed, the text that was typed last is kept by the id of the file. Any number of
patches may be under way, and several of them may type the same file: the first that comes to its
end takes the text away, and the next piece of another one puts its own there again. A text is kept
only for a file that some task types (`Round.Streamed`), and this is kept by whatever happens while
operations overlap, so nothing is left when none is under way.

`live_typing` puts this together with what is typed by a patch that is applied alone, and with how
its content is cut into pieces.
-/

namespace Workbench.Review

open Project (File)

variable {v : Review} {r : Round} {i : ℕ} {f f' : Flight} {e : Event} {past : List Event}

/-! ## Texts that are kept while they are typed -/

/-- A text is kept only for a file that some task types. -/
def Round.Streamed (r : Round) : Prop :=
  ∀ id, Entries.lookup id r.review.streaming ≠ none →
    ∃ t ∈ r.tasks, ∃ file rest, t.stage = .typing file rest ∧ file.id = id

/-- A text that is kept was typed last by the task itself, or is kept for another one. -/
theorem Round.Streamed.advance (h : r.Streamed) (go : r.MayGo i) : (r.advance i).Streamed := by
  obtain ⟨t, ht, unfinished, -⟩ := go
  obtain ⟨s, sc, plays, shown, tasks_eq⟩ := Round.exists_plays ht unfinished
  intro id key
  have key' : Entries.lookup id sc.streaming ≠ none := shown ▸ key
  rw [tasks_eq]
  rcases plays.typing_or_kept key' with ⟨file, rest, rfl, same⟩ | ⟨kept, other⟩
  · exact ⟨_, self_mem_restage ht _, file, rest, rfl, same⟩
  · obtain ⟨u, mem, file, rest, stage, same⟩ := h id kept
    have differs : u ≠ t := by
      rintro rfl
      exact other file rest stage same
    exact ⟨u, mem_restage_of_mem ht mem differs, file, rest, stage, same⟩

/-- Listing streams nothing. -/
theorem streaming_list (v : Review) (project : String) :
    (v.list project).2.streaming = v.streaming := by
  unfold Review.list
  dsimp only
  split <;> rfl

/-- What streams after a step is typed by a task. -/
theorem Step.streamed (step : Step f e f') (h : f.round.Streamed) : f'.round.Streamed := by
  cases step with
  | goOn go _ | succeed _ go _ => exact h.advance go
  | apply patch | applyAll =>
    intro id key
    obtain ⟨t, mem, typing⟩ := h id key
    exact ⟨t, List.mem_append_left _ mem, typing⟩
  | @list i project asked =>
    intro id key
    refine h id ?_
    have same := streaming_list f.review project
    exact fun none => key ((congrArg (Entries.lookup id) same).trans none)
  | settle done =>
    intro id key
    obtain ⟨t, mem, file, rest, stage, -⟩ := h id key
    obtain ⟨result, finished⟩ := done t mem
    cases stage.symm.trans finished
  | parse | reject | openProject | refresh | meanwhile => exact h

/-- So it is in every run. -/
theorem Overlaps.streamed (run : Overlaps (.idle v) past f) (nothing : v.streaming = []) :
    f.round.Streamed := by
  induction run with
  | start =>
    intro id key
    refine absurd ?_ key
    show Entries.lookup id v.streaming = none
    rw [nothing, Entries.lookup]
  | step _ step ih => exact step.streamed ih

/-- Nothing is kept when no patch is under way. -/
theorem Round.Streamed.streaming_eq_nil (h : r.Streamed)
    (still : ∀ t ∈ r.tasks, t.stage = .fresh ∨ ∃ result, t.stage = .finished result) :
    r.review.streaming = [] := by
  cases kept : r.review.streaming with
  | nil => rfl
  | cons entry rest =>
    obtain ⟨id, text⟩ := entry
    obtain ⟨t, mem, file, left, stage, -⟩ := h id (by simp [kept, Entries.lookup])
    rcases still t mem with fresh | ⟨result, finished⟩
    · cases stage.symm.trans fresh
    · cases stage.symm.trans finished

/-! ## Live typing -/

/-- What is seen when a patch is applied alone and its content is cut into the given pieces. -/
structure TypedLive (v : Review) (p : Patch) (pieces : List String) : Prop where
  /-- Whatever happens to the editor, the pieces before the first look in vain are typed. -/
  follows : ∀ meddles sight r result file, Alone meddles v p sight r → r.results = [result] →
    sight.target? = some file → sight.Follows pieces
  /-- If nobody else changes live buffers and no look is in vain, a patch that is applied is written
  to its file. -/
  written : ∀ sight r f, Alone Retains v p sight r → r.results = [.ok f] →
    (∀ view ∈ sight.views, view.number? ≠ none) →
      ∃ file, sight.target? = some file ∧ Written p file r
  /-- Applying the patch is one of these runs, to its end. -/
  applied : ∃ sight r result, Alone Retains v p sight r ∧ r.results = [result] ∧
    v.apply p = (result, r.review)

/-- **Live typing shows growing beginnings, ends in the whole text and leaves nothing behind.** A
text is cut into growing beginnings; a patch that is applied alone types those before the editor or
the buffer is lost, all of them if neither is, and then the editor shows what the store holds; and
however operations overlap, nothing is kept of what was typed when no patch is under way. -/
theorem live_typing :
    (∀ (size : ℤ) (text : String), 0 < size → ∃ frames, Patch.frames size text = .ok frames ∧
      Patch.Grows size.toNat text.toList (frames.map String.toList)) ∧
    (∀ (v : Review) (p : Patch), 0 < v.chunkSize →
      ∃ frames, Patch.frames v.chunkSize p.newContent = .ok frames ∧ TypedLive v p frames) ∧
    ∀ (v : Review) (past : List Event) (f : Flight), v.streaming = [] →
      Overlaps (.idle v) past f →
      (∀ t ∈ f.round.tasks, t.stage = .fresh ∨ ∃ result, t.stage = .finished result) →
      f.review.streaming = [] := by
  refine ⟨fun size text positive => Patch.exists_frames_grows positive text,
    fun v p positive => ?_, fun v past f nothing run => (run.streamed nothing).streaming_eq_nil⟩
  obtain ⟨frames, cut, grows⟩ := Patch.exists_frames_grows positive p.newContent
  have last : frames.getLast? = some p.newContent := by
    have whole := grows.last
    rw [List.getLast?_map] at whole
    obtain ⟨frame, last, same⟩ := Option.map_eq_some_iff.mp whole
    rw [last, String.ext same]
  have some_frame : frames ≠ [] := by
    rintro rfl
    cases last
  exact ⟨frames, cut, fun meddles sight r result file alone => alone.follows cut some_frame,
    fun sight r f alone => alone.written cut last, exists_alone_apply Retains v p⟩

/-- A patch of two pieces. If the editor is taken away after the first one, only that one is typed;
if it stays, the patch is written to its file. Beside other operations nothing is left of it when it
is applied. -/
theorem live_typing_two_pieces :
    let file : File := ⟨"file-1", "a.js", "", "javascript"⟩
    let held : Project.Memory := { Project.Memory.empty with held := [("site", file)], made := 1 }
    let v : Review :=
      { Review.start (.memory held) (some "site") (some (.empty none)) 2 0 with files := [file] }
    let p : Patch := ⟨"1", "a.js", "abc", 1, 0, false⟩
    (∃ sight r, Alone (fun _ _ => True) v p sight r ∧ sight.strokes.map (·.value) = ["ab"] ∧
      sight.Follows ["ab", "abc"]) ∧
    (∃ sight r, Alone Retains v p sight r ∧ sight.target? = some file ∧ Written p file r) ∧
    ∃ past f, Overlaps (.idle v) (.applied p :: past) f ∧ f.review.streaming = [] := by
  intro file held v p
  obtain ⟨cuts, alone, still⟩ := live_typing
  obtain ⟨frames, cut, live⟩ := alone v p (by decide)
  obtain rfl : ["ab", "abc"] = frames := Except.ok.inj (Eq.trans (by cbv) cut)
  refine ⟨?_, ?_, ?_⟩
  · have fresh : Alone (fun _ _ => True) v p .blank (.start v [p]) := .start
    have typed := fresh.step
      (t := ⟨p, .fresh⟩) (u := ⟨p, .typing file ["abc"]⟩) (by cbv) (by cbv)
    have lost := (typed.edit none trivial).step
      (t := ⟨p, .typing file ["abc"]⟩) (u := ⟨p, .updating file⟩) (by cbv) (by cbv)
    have updated := lost.step
      (t := ⟨p, .updating file⟩) (u := ⟨p, .listing file "site"⟩) (by cbv) (by cbv)
    have listed := updated.step (t := ⟨p, .listing file "site"⟩)
      (u := ⟨p, .finished (.ok { file with content := "abc" })⟩) (by cbv) (by cbv)
    exact ⟨_, _, listed, by cbv, live.follows _ _ _ _ file listed (by cbv) (by cbv)⟩
  · have fresh : Alone Retains v p .blank (.start v [p]) := .start
    have first := fresh.step
      (t := ⟨p, .fresh⟩) (u := ⟨p, .typing file ["abc"]⟩) (by cbv) (by cbv)
    have second := first.step
      (t := ⟨p, .typing file ["abc"]⟩) (u := ⟨p, .typing file []⟩) (by cbv) (by cbv)
    have typed := second.step
      (t := ⟨p, .typing file []⟩) (u := ⟨p, .updating file⟩) (by cbv) (by cbv)
    have updated := typed.step
      (t := ⟨p, .updating file⟩) (u := ⟨p, .listing file "site"⟩) (by cbv) (by cbv)
    have listed := updated.step (t := ⟨p, .listing file "site"⟩)
      (u := ⟨p, .finished (.ok { file with content := "abc" })⟩) (by cbv) (by cbv)
    have found := @List.all_eq_true View fun view => view.number?.isSome
    obtain ⟨file', target, written⟩ := live.written _ _ _ listed (by cbv) fun view mem =>
      Option.isSome_iff_ne_none.mp (found.mp (by cbv) view mem)
    obtain rfl : file' = file := Option.some.inj (target.symm.trans (by cbv))
    exact ⟨_, _, listed, target, written⟩
  · have launched := Overlaps.start (f := .idle v) |>.step (.apply p)
    have typed := launched.step (.goOn (i := 0) (by decide +kernel) (by decide +kernel))
    have typed' := typed.step (.goOn (i := 0) (by decide +kernel) (by decide +kernel))
    have written := typed'.step (.goOn (i := 0) (by decide +kernel) (by decide +kernel))
    have updated := written.step (.goOn (i := 0) (by decide +kernel) (by decide +kernel))
    have done := updated.step (.succeed (i := 0) (t := ⟨p, .listing file "site"⟩) (by cbv)
      (by decide +kernel) (by decide +kernel))
    refine ⟨_, _, done, still v _ _ rfl done fun t mem => .inr ?_⟩
    have only : t ∈ [(⟨p, .finished (.ok { file with content := "abc" })⟩ : Task)] := by
      convert mem
      cbv
    exact ⟨_, congrArg Task.stage (List.mem_singleton.mp only)⟩

end Workbench.Review
