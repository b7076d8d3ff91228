import Workbench.Proofs.Review.Ownership
import Workbench.Proofs.Review.Screen

/-!
# Looks and strokes

Seen from outside a task looks for the buffer of its file before each piece of the new content, and
types the piece if it finds one. A `Sight` collects both, the looks and what was typed, and is
compared with the pieces: what was typed are the pieces before the first look in vain
(`Sight.Follows`). `Stage.Seen` says what was seen when the task stands at a stage, and `Plays.seen`
that every step keeps it; `LastShown` follows the buffer into which the last piece was typed.
-/

namespace Workbench.Review

open Project (File)

/-! ## What is seen of the typing -/

/-- What was typed between two states of an editor that may be missing. -/
def strokesBetween : Option Editor → Option Editor → List Stroke
  | some e, some e' => e.strokesSince e'
  | _, _ => []

/-- The look for a buffer with which a step begins, if it is one that types: the typing goes on with
another piece, or begins with the file that was just found and opened. -/
def Stage.look? (editor : Option Editor) (s s' : Stage) : Option View :=
  match s with
  | .typing file (_ :: _) => some ⟨file, editor⟩
  | .fresh | .queued | .creating _ => s'.file?.map fun file => ⟨file, editor.map (·.openFile file)⟩
  | _ => none

/-- What is seen of the typing of a patch, in order: the looks for a buffer, and what was typed. -/
structure Sight where
  views : List View
  strokes : List Stroke

namespace Sight

/-- Nothing was seen yet. -/
def blank : Sight := ⟨[], []⟩

/-- What was seen after a step that leads from one stage and screen to others. -/
def after (s : Stage) (sc : Screen) (s' : Stage) (sc' : Screen) (sight : Sight) : Sight :=
  ⟨sight.views ++ (s.look? sc.editor s').toList,
    sight.strokes ++ strokesBetween sc.editor sc'.editor⟩

/-- The file that was found or created: the task looks for its buffer at once. -/
def target? (sight : Sight) : Option File :=
  sight.views.head?.map (·.file)

/-- What was typed are the pieces before the first look in vain, in order, each into the buffer that
was found for it. -/
structure Follows (sight : Sight) (pieces : List String) : Prop where
  into : ∀ (k : ℕ) (stroke : Stroke), sight.strokes[k]? = some stroke →
    ∃ view, sight.views[k]? = some view ∧ view.number? = some stroke.number
  lost : ∀ (k : ℕ) (view : View), sight.views[k]? = some view → view.number? = none →
    k < pieces.length ∧ sight.strokes.map (·.value) = pieces.take k
  kept : (∀ view ∈ sight.views, view.number? ≠ none) → sight.strokes.map (·.value) = pieces

end Sight

variable {p : Patch} {sight : Sight} {s s' : Stage} {sc sc' : Screen} {file : File} {size : ℤ}
variable {frames typed pieces : List String}

/-! ## Where a task stands, and what was seen -/

namespace Sight

/-- Some pieces were typed, and no look was in vain. -/
structure Typed (file : File) (typed : List String) (sight : Sight) : Prop where
  file_eq : ∀ view ∈ sight.views, view.file = file
  found : sight.views.map View.number? = sight.strokes.map fun stroke => some stroke.number
  values : sight.strokes.map (·.value) = typed

/-- The typing of a file has come to its end. -/
inductive Ends (file : File) (pieces : List String) : Sight → Prop
  | all {sight : Sight} (typed : sight.Typed file pieces) : Ends file pieces sight
  | lost {typed frame rest strokes} {views : List View} {view : View}
      (split : pieces = typed ++ frame :: rest) (before : Typed file typed ⟨views, strokes⟩)
      (file_eq : view.file = file) (gone : view.number? = none) :
      Ends file pieces ⟨views ++ [view], strokes⟩

/-- Each stroke is seen once. -/
theorem Typed.length_eq (h : sight.Typed file typed) : sight.views.length = sight.strokes.length := by
  have := congrArg List.length h.found
  rwa [List.length_map, List.length_map] at this

/-- Each stroke goes into the buffer that is seen. -/
theorem Typed.into (h : sight.Typed file typed) {k : ℕ} {stroke : Stroke}
    (there : sight.strokes[k]? = some stroke) :
    ∃ view, sight.views[k]? = some view ∧ view.number? = some stroke.number := by
  have same := congrArg (·[k]?) h.found
  rw [List.getElem?_map, List.getElem?_map, there, Option.map_some] at same
  exact Option.map_eq_some_iff.mp same

/-- What is seen has a buffer. -/
theorem Typed.number?_ne_none (h : sight.Typed file typed) {view : View}
    (mem : view ∈ sight.views) : view.number? ≠ none := by
  have mem' := List.mem_map_of_mem (f := View.number?) mem
  rw [h.found, List.mem_map] at mem'
  obtain ⟨stroke, -, found⟩ := mem'
  rw [← found]
  exact Option.some_ne_none _

/-- Everything that is seen is one file. -/
theorem Ends.file_eq (h : sight.Ends file pieces) : ∀ view ∈ sight.views, view.file = file := by
  cases h with
  | all typed => exact typed.file_eq
  | lost split before file_eq gone =>
    intro view mem
    rcases List.mem_append.mp mem with mem | mem
    · exact before.file_eq view mem
    · rw [List.mem_singleton.mp mem, file_eq]

/-- What was typed to its end was typed in order. -/
theorem Ends.follows (h : sight.Ends file pieces) : sight.Follows pieces := by
  cases h with
  | all typed =>
    refine ⟨fun k stroke => typed.into, fun k view there gone => ?_, fun _ => typed.values⟩
    exact absurd gone (typed.number?_ne_none (List.mem_of_getElem? there))
  | @lost typed frame rest strokes views view split before file_eq gone =>
    have count : views.length = typed.length := by
      rw [before.length_eq, ← before.values, List.length_map]
    refine ⟨fun k stroke there => ?_, fun k view' there gone' => ?_, fun kept => ?_⟩
    · obtain ⟨view', there', number⟩ := before.into there
      have inside : k < views.length := (List.getElem?_eq_some_iff.mp there').1
      exact ⟨view', (List.getElem?_append_left inside).trans there', number⟩
    · -- only the last look was in vain
      have last : k = typed.length := by
        by_contra earlier
        have inside : k < views.length := by
          have := (List.getElem?_eq_some_iff.mp there).1
          rw [List.length_append, List.length_singleton] at this
          omega
        rw [List.getElem?_append_left inside] at there
        exact before.number?_ne_none (List.mem_of_getElem? there) gone'
      rw [split, last, List.take_left]
      exact ⟨by simp, before.values⟩
    · exact absurd gone (kept view (List.mem_append_right _ (List.mem_singleton_self view)))

/-- What was typed went to the file. -/
theorem Ends.target?_eq (h : sight.Ends file pieces) (some_piece : pieces ≠ []) :
    sight.target? = some file := by
  have looked : sight.views ≠ [] := by
    cases h with
    | all typed =>
      intro none
      have := typed.length_eq
      rw [none, List.length_nil] at this
      refine some_piece ?_
      rw [← typed.values, List.eq_nil_of_length_eq_zero this.symm, List.map_nil]
    | lost => simp
  obtain ⟨view, rest, views_eq⟩ := List.exists_cons_of_ne_nil looked
  rw [target?, views_eq, List.head?_cons, Option.map_some,
    h.file_eq view (views_eq ▸ List.mem_cons_self)]

end Sight

/-- What was seen when the task stands at a stage, if its content is cut into the given pieces. -/
def Stage.Seen (pieces : List String) (sight : Sight) : Stage → Prop
  | .fresh | .queued | .creating _ => sight = .blank
  | .typing file rest => ∃ typed, pieces = typed ++ rest ∧ sight.Typed file typed
  | .updating file | .listing file _ => sight.Ends file pieces
  | .finished (.ok _) => ∃ file, sight.Ends file pieces
  | .finished (.error _) => sight = .blank ∨ ∃ file, sight.Ends file pieces

/-! ## One step -/

/-- The editor that is looked at is there from the start of the step, and nothing was typed in it
since. -/
def Untouched (editor editor' : Option Editor) : Prop :=
  ∀ e', editor' = some e' → ∃ e, editor = some e ∧ ∀ number, e'.history number = e.history number

theorem Untouched.refl (editor : Option Editor) : Untouched editor editor :=
  fun e there => ⟨e, there, fun _ => rfl⟩

/-- Opening a file types nothing. -/
theorem Untouched.openFile (e : Editor) (file : File) :
    Untouched (some e) (some (e.openFile file)) := by
  rintro _ ⟨⟩
  exact ⟨e, rfl, e.history_openFile file⟩

/-- Nor does looking a buffer up. -/
theorem Untouched.lookup {editor editor' : Option Editor} (h : Untouched editor editor')
    (name : String) : Untouched editor (editor'.map fun e => (e.lookup name).2) := by
  intro e there
  obtain ⟨e', there', rfl⟩ := Option.map_eq_some_iff.mp there
  obtain ⟨e₀, there₀, same⟩ := h e' there'
  exact ⟨e₀, there₀, fun number => (e'.history_lookup name number).trans (same number)⟩

/-- Nothing was typed between. -/
theorem Untouched.strokesBetween_eq {editor editor' : Option Editor}
    (h : Untouched editor editor') : strokesBetween editor editor' = [] := by
  cases editor' with
  | none => cases editor <;> rfl
  | some e' =>
    obtain ⟨e, rfl, same⟩ := h e' rfl
    exact Editor.strokesSince_eq_nil same

/-- Typing once is one stroke. -/
theorem Untouched.strokesBetween_typeInto {editor : Option Editor} {e : Editor} {number : ℕ}
    {name : String} (h : Untouched editor (some e)) (live : e.live? name = some number)
    (value : String) : strokesBetween editor (some (e.typeInto number value)) =
      [⟨number, value⟩] := by
  obtain ⟨e₀, rfl, same⟩ := h e rfl
  exact Editor.strokesSince_typeInto same live value

/-- What was seen after the next piece, of which one at least is left. -/
theorem Piece.seen {editor : Option Editor} (h : Piece file pieces sc s' sc')
    (left : pieces ≠ []) (split : frames = typed ++ pieces) (seen : sight.Typed file typed)
    (untouched : Untouched editor sc.editor) :
    s'.file? = some file ∧ s'.Seen frames
      ⟨sight.views ++ [⟨file, sc.editor⟩], sight.strokes ++ strokesBetween editor sc'.editor⟩ := by
  cases h with
  | ended => exact absurd rfl left
  | lost gone =>
    rw [(untouched.lookup file.name).strokesBetween_eq, List.append_nil]
    exact ⟨rfl, .lost split seen rfl gone⟩
  | @typed frame rest number streaming e found =>
    have live : (e.lookup file.name).2.live? file.name = some number := by
      rw [Editor.live?_lookup]
      exact Editor.live?_of_lookup found
    have looked : Untouched editor (some (e.lookup file.name).2) := untouched.lookup file.name
    rw [looked.strokesBetween_typeInto live]
    refine ⟨rfl, typed ++ [frame], by rw [split, List.append_assoc, List.singleton_append], ?_⟩
    refine ⟨fun view mem => ?_, ?_, ?_⟩
    · rcases List.mem_append.mp mem with mem | mem
      · exact seen.file_eq view mem
      · rw [List.mem_singleton.mp mem]
    · rw [List.map_append, List.map_append, seen.found]
      exact congrArg (_ ++ [·]) found
    · rw [List.map_append, seen.values, List.map_singleton]

theorem Sight.typed_blank (file : File) : Sight.Typed file [] .blank :=
  ⟨nofun, rfl, rfl⟩

/-- A step that shows nothing leaves what was seen. -/
theorem Sight.views_after (blind : s.look? sc.editor s' = none) :
    (sight.after s sc s' sc').views = sight.views := by
  rw [Sight.after, blind, Option.toList_none, List.append_nil]

/-- A step that does not look for a buffer and leaves the editor adds nothing to what was seen. -/
theorem Sight.after_eq (blind : s.look? sc.editor s' = none)
    (untouched : Untouched sc.editor sc'.editor) : sight.after s sc s' sc' = sight := by
  rw [Sight.after, blind, untouched.strokesBetween_eq, Option.toList_none, List.append_nil,
    List.append_nil]

/-- A task that finds its file looks at it. -/
theorem Stage.Seeks.look?_eq (h : s.Seeks) (editor : Option Editor) (s' : Stage) :
    s.look? editor s' = s'.file?.map fun file => ⟨file, editor.map (·.openFile file)⟩ := by
  cases h <;> rfl

/-- A task that has no file yet has shown nothing. -/
theorem Stage.Seeks.seen_iff (h : s.Seeks) : s.Seen pieces sight ↔ sight = .blank := by
  cases h <;> rfl

/-- **What was seen after a step** is what belongs to the new stage. -/
theorem Plays.seen (h : Plays p size s sc s' sc') (cut : Patch.frames size p.newContent = .ok frames)
    (some_frame : frames ≠ []) (seen : s.Seen frames sight) :
    s'.Seen frames (sight.after s sc s' sc') := by
  cases h with
  | seek before after =>
    obtain rfl := before.seen_iff.mp seen
    rcases after with after | ⟨e, rfl⟩
    · have unknown : s'.file? = none := by cases after <;> rfl
      have blind : s.look? sc.editor s' = none := by rw [before.look?_eq, unknown, Option.map_none]
      rw [Sight.after_eq blind (.refl _)]
      exact after.seen_iff.mpr rfl
    · rw [Sight.after_eq (before.look?_eq _ _) (.refl _)]
      exact .inl rfl
  | @unseen s file streaming before =>
    obtain rfl := before.seen_iff.mp seen
    obtain ⟨frame, rest, rfl⟩ := List.exists_cons_of_ne_nil some_frame
    rw [Sight.after, before.look?_eq]
    exact .lost rfl (Sight.typed_blank file) rfl rfl
  | refused before uncut => cases cut.symm.trans uncut
  | @begin s s' file streaming frames' sc' e before cut' piece =>
    obtain rfl := before.seen_iff.mp seen
    obtain rfl : frames = frames' := Except.ok.inj (cut.symm.trans cut')
    obtain ⟨known, seen'⟩ := piece.seen some_frame rfl (Sight.typed_blank file)
      (Untouched.openFile e file)
    rw [Sight.after, before.look?_eq, known]
    exact seen'
  | @goOn file pieces s' sc sc' piece =>
    obtain ⟨typed, split, seen⟩ := seen
    cases pieces with
    | nil =>
      cases piece
      have nothing : sight.after (.typing file []) sc (.updating file)
          ⟨sc.editor, Entries.erase file.id sc.streaming⟩ = sight :=
        Sight.after_eq rfl (.refl sc.editor)
      rw [nothing]
      rw [List.append_nil] at split
      exact .all (split ▸ seen)
    | cons frame rest => exact (piece.seen (List.cons_ne_nil _ _) split seen (.refl _)).2
  | update after =>
    rw [Sight.after_eq rfl (.refl _)]
    rcases after with ⟨project, rfl⟩ | ⟨e, rfl⟩
    · exact seen
    · exact .inr ⟨_, seen⟩
  | @conclude file project result sc =>
    rw [Sight.after_eq rfl (.refl _)]
    cases result with
    | ok f => exact ⟨_, seen⟩
    | error e => exact .inr ⟨_, seen⟩

/-! ## What the editor shows -/

/-- The live buffer of a file shows what was typed last. -/
def LastShown (file : File) (strokes : List Stroke) (editor : Option Editor) : Prop :=
  ∀ stroke, strokes.getLast? = some stroke →
    ∃ e buffer, editor = some e ∧ e.live? file.name = some stroke.number ∧
      e.buffer? stroke.number = some buffer ∧ buffer.value = stroke.value

/-- What is typed last is shown. -/
theorem Piece.lastShown {strokes : List Stroke} {editor : Option Editor}
    (h : Piece file pieces sc s' sc') (untouched : Untouched editor sc.editor)
    (shown : LastShown file strokes sc.editor) :
    LastShown file (strokes ++ strokesBetween editor sc'.editor) sc'.editor := by
  cases h with
  | ended =>
    rw [untouched.strokesBetween_eq, List.append_nil]
    exact shown
  | lost gone =>
    rw [(untouched.lookup file.name).strokesBetween_eq, List.append_nil]
    intro stroke last
    obtain ⟨e, buffer, there, live, found, value⟩ := shown stroke last
    refine ⟨(e.lookup file.name).2, buffer, ?_, ?_, ?_, value⟩
    · rw [there, Option.map_some]
    · rwa [Editor.live?_lookup]
    · rwa [Editor.buffer?_lookup]
  | @typed frame rest number streaming e found =>
    have live : (e.lookup file.name).2.live? file.name = some number := by
      rw [Editor.live?_lookup]
      exact Editor.live?_of_lookup found
    have looked : Untouched editor (some (e.lookup file.name).2) := untouched.lookup file.name
    rw [looked.strokesBetween_typeInto live]
    intro stroke last
    rw [List.getLast?_concat, Option.some.injEq] at last
    subst last
    obtain ⟨-, buffer, there, -⟩ := Editor.live?_eq_some_iff.mp live
    have shown' := Editor.buffer?_typeInto_self (e.lookup file.name).2 number frame
    rw [there, Option.map_some] at shown'
    exact ⟨_, _, rfl, Editor.live?_typeInto live frame, shown', rfl⟩

/-- So it is after each step. -/
theorem Plays.lastShown (h : Plays p size s sc s' sc') (seen : s.Seen frames sight)
    (shown : ∀ view ∈ sight.views, LastShown view.file sight.strokes sc.editor) :
    ∀ view ∈ (sight.after s sc s' sc').views,
      LastShown view.file (sight.after s sc s' sc').strokes sc'.editor := by
  cases h with
  | seek before after =>
    obtain rfl := before.seen_iff.mp seen
    have unknown : s'.file? = none := by
      rcases after with after | ⟨e, rfl⟩
      · cases after <;> rfl
      · rfl
    rw [Sight.after_eq (by rw [before.look?_eq, unknown, Option.map_none]) (.refl _)]
    exact nofun
  | unseen before =>
    obtain rfl := before.seen_iff.mp seen
    exact fun view _ stroke last => nomatch last
  | @refused s file streaming fault e before uncut =>
    obtain rfl := before.seen_iff.mp seen
    rw [Sight.after_eq (before.look?_eq _ _) (Untouched.openFile e file)]
    exact nofun
  | @begin s s' file streaming frames' sc' e before cut piece =>
    obtain rfl := before.seen_iff.mp seen
    have nothing : LastShown file [] (some (e.openFile file)) := nofun
    have shown' := piece.lastShown (Untouched.openFile e file) nothing
    intro view mem
    have same : view.file = file := by
      have known : ∀ other, s'.file? = some other → other = file := by
        cases piece <;> rintro _ ⟨⟩ <;> rfl
      rw [Sight.after, before.look?_eq] at mem
      obtain ⟨other, mem', rfl⟩ := Option.map_eq_some_iff.mp (Option.mem_toList.mp mem)
      exact known other mem'
    rw [same]
    exact shown'
  | @goOn file pieces s' sc sc' piece =>
    obtain ⟨typed, split, seen⟩ := seen
    have before : LastShown file sight.strokes sc.editor := by
      intro stroke last
      have looked : sight.views ≠ [] := by
        intro none
        have := seen.length_eq
        rw [none] at this
        rw [List.eq_nil_of_length_eq_zero this.symm] at last
        cases last
      obtain ⟨view, rest, views_eq⟩ := List.exists_cons_of_ne_nil looked
      have mem : view ∈ sight.views := views_eq ▸ List.mem_cons_self
      exact seen.file_eq view mem ▸ shown view mem stroke last
    intro view mem
    have same : view.file = file := by
      rcases List.mem_append.mp mem with mem | mem
      · exact seen.file_eq view mem
      · cases pieces with
        | nil => cases mem
        | cons frame rest => rw [List.mem_singleton.mp mem]
    rw [same]
    exact piece.lastShown (.refl _) before
  | update after =>
    rw [Sight.after_eq rfl (.refl _)]
    exact shown
  | conclude =>
    rw [Sight.after_eq rfl (.refl _)]
    exact shown

end Workbench.Review
