import Workbench.Proofs.Session.Consistency
import Workbench.Proofs.Shell.Quoting
import Workbench.Proofs.Shell.Writing

/-!
# What is written to a file is shown again

A text that is redirected to a file is what the file shows afterwards, and a text that is appended
is shown below it. The target is given as the path expression by which the file is shown: it leads
to the same file for writing and for reading, and nothing else in the tree changes.
-/

namespace Workbench.Session

open Shell (State Redirect Quotable BarePath Writes Written echoLine catLine)

variable {text target content content' : String} {path : List String} {a b : Tree.Attributes}
variable {s s' s'' : Session}

/-- The second session has another content in one file; the tree is otherwise the same, and so are
the current directory and the user. -/
structure Rewrites (path : List String) (a : Tree.Attributes) (content : String)
    (before after : Session) : Prop where
  writes : Writes path a content before.state.fs after.state.fs
  cwd : after.state.cwd = before.state.cwd
  user : after.state.user = before.state.user

/-- A file may be written twice. -/
theorem Rewrites.trans (h : Rewrites path a content s s') (h' : Rewrites path b content' s' s'') :
    Rewrites path b content' s s'' :=
  ⟨h.writes.trans h'.writes, h'.cwd.trans h.cwd, h'.user.trans h.user⟩

/-- A path expression leads to the same path afterwards. -/
theorem Rewrites.pathOf (h : Rewrites path a content s s') (target : String) :
    s'.state.pathOf target = s.state.pathOf target := by
  rw [State.pathOf, h.cwd]

/-- After that the path leads to the file. -/
theorem Rewrites.held (h : Rewrites (s.state.pathOf target) a content s s') :
    s'.state.fs.itemAt? (s'.state.pathOf target) = some (.file a content) := by
  rw [h.pathOf]
  exact h.writes.here

/-- A line that writes a text gives an error, or the text is in the file. -/
theorem execute_echoLine (quotable : Quotable text) (bare : BarePath target) (mode : Redirect)
    (clock : Clock) (s : Session) :
    (∃ line, (s.execute clock (echoLine text mode target)).1 = some (.error line)) ∨
      Tree.isEntryName (Tree.baseName target) = true ∧
      ∃ a content, (s.execute clock (echoLine text mode target)).1 = some (.text "") ∧
        Rewrites (s.state.pathOf target) a content s
          (s.execute clock (echoLine text mode target)).2 ∧
        Written mode (text ++ "\n") ⟨Tree.baseName target, s.state.user, .ofFile⟩
          (s.state.fs.itemAt? (s.state.pathOf target)) a content := by
  obtain ⟨history, same⟩ := execute_of_some clock s (Shell.parse?_echoLine quotable bare mode)
  rw [Shell.execute_echo quotable.nonempty] at same
  rcases Shell.writeOutput_eq_or mode text (s.record (echoLine text mode target)).state
      bare.nonempty bare.notHome with ⟨line, refused⟩ | ⟨valid, fs, a, content, wrote, writes, written⟩
  · rw [refused] at same
    exact .inl ⟨line, by rw [same]; rfl⟩
  · rw [wrote] at same
    rw [same]
    exact .inr ⟨valid, a, content, rfl, ⟨writes, rfl, rfl⟩, written⟩

/-- A text is written to a file that is there. -/
theorem execute_echoLine_of_file {old : String} (quotable : Quotable text) (bare : BarePath target)
    (mode : Redirect) (valid : Tree.isEntryName (Tree.baseName target) = true) (clock : Clock)
    (held : s.state.fs.itemAt? (s.state.pathOf target) = some (.file a old)) :
    (s.execute clock (echoLine text mode target)).1 = some (.text "") ∧
      Rewrites (s.state.pathOf target) a (if mode = .append then old ++ (text ++ "\n") else text ++ "\n")
        s (s.execute clock (echoLine text mode target)).2 := by
  obtain ⟨history, same⟩ := execute_of_some clock s (Shell.parse?_echoLine quotable bare mode)
  obtain ⟨fs, wrote, writes⟩ := Shell.writeOutput_of_file mode text bare.nonempty bare.notHome valid
    (show (s.record (echoLine text mode target)).state.fs.itemAt? _ = _ from held)
  rw [Shell.execute_echo quotable.nonempty, wrote] at same
  rw [same]
  exact ⟨rfl, writes, rfl, rfl⟩

/-- A file that is there is shown. -/
theorem execute_catLine (bare : BarePath target) (clock : Clock)
    (held : s.state.fs.itemAt? (s.state.pathOf target) = some (.file a content)) :
    (s.execute clock (catLine target)).1 = some (.text (Shell.shown content)) ∧
      Rewrites (s.state.pathOf target) a content s (s.execute clock (catLine target)).2 := by
  obtain ⟨history, same⟩ := execute_of_some clock s (Shell.parse?_catLine bare)
  rw [Shell.execute_cat bare.nonempty clock
    (show (s.record (catLine target)).state.fs.itemAt? _ = _ from held)] at same
  rw [same]
  exact ⟨rfl, ⟨held, fun _ _ => rfl⟩, rfl, rfl⟩

/-- **What is written to a file is shown again.** After a line that writes a text to a file and
gives no error, the file shows the text; a second text can then be appended and is shown below the
first. Through all of this the current directory stays what it is, and so does every item of the
tree but the file, which keeps its name, owner and permissions if it was there before. -/
theorem echo_then_cat {text more target : String} (quotable : Quotable text)
    (quotable' : Quotable more) (bare : BarePath target) (c₁ c₂ c₃ c₄ : Clock) (s : Session)
    (accepted : ∃ result, (s.execute c₁ (echoLine text .overwrite target)).1 = some result ∧
      result.isError = false) :
    let path := Tree.normalize target s.state.cwd
    let written := (s.execute c₁ (echoLine text .overwrite target)).2
    let read := written.execute c₂ (catLine target)
    let appended := read.2.execute c₃ (echoLine more .append target)
    let readAgain := appended.2.execute c₄ (catLine target)
    read.1 = some (.text text) ∧ appended.1 = some (.text "") ∧
    readAgain.1 = some (.text (text ++ "\n" ++ more)) ∧
    ∃ a, (∀ b old, s.state.fs.itemAt? path = some (.file b old) → a = b) ∧
      ∀ after ∈ [written, read.2, appended.2, readAgain.2],
        (∃ content, after.state.fs.itemAt? path = some (.file a content)) ∧
        (∀ q ≠ path, after.state.fs.itemAt? q = s.state.fs.itemAt? q) ∧
        after.state.cwd = s.state.cwd := by
  intro path written read appended readAgain
  rcases execute_echoLine quotable bare .overwrite c₁ s with
    ⟨line, refused⟩ | ⟨valid, a, content, -, first, put⟩
  · obtain ⟨result, answered, fine⟩ := accepted
    rw [refused] at answered
    cases answered
    cases fine
  · -- the first line leaves the text alone in the file, whose attributes are the old ones
    have same_file : ∀ b old, s.state.fs.itemAt? path = some (.file b old) → a = b := by
      intro b old before
      rw [before] at put
      cases put
      rfl
    have text_there : content = text ++ "\n" := by
      generalize s.state.fs.itemAt? (s.state.pathOf target) = item at put
      cases put <;> rfl
    subst text_there
    obtain ⟨shows, second⟩ := execute_catLine bare c₂ first.held
    obtain ⟨answers, third⟩ := execute_echoLine_of_file quotable' bare .append valid c₃ second.held
    obtain ⟨showsAgain, fourth⟩ := execute_catLine bare c₄ third.held
    rw [Shell.shown_line] at shows
    rw [if_pos rfl, ← String.append_assoc, Shell.shown_line] at showsAgain
    rw [first.pathOf] at second
    rw [second.pathOf, first.pathOf] at third
    rw [third.pathOf, second.pathOf, first.pathOf] at fourth
    have upTo₂ := first.trans second
    have upTo₃ := upTo₂.trans third
    have upTo₄ := upTo₃.trans fourth
    refine ⟨shows, answers, showsAgain, a, same_file, ?_⟩
    have framed {content : String} {after : Session} (h : Rewrites path a content s after) :
        (∃ content, after.state.fs.itemAt? path = some (.file a content)) ∧
          (∀ q ≠ path, after.state.fs.itemAt? q = s.state.fs.itemAt? q) ∧
          after.state.cwd = s.state.cwd :=
      ⟨⟨content, h.writes.here⟩, h.writes.beside, h.cwd⟩
    simp only [List.forall_mem_cons, List.not_mem_nil, false_imp_iff, implies_true, and_true]
    exact ⟨framed first, framed upTo₂, framed upTo₃, framed upTo₄⟩

/-- A text with a quote and spaces replaces what a file held before, by a path with dots, and
another one is appended. -/
theorem echo_then_cat_over_old_file :
    let s : Session := ⟨.empty, defaultKey, "user", .initial "user"⟩
    let target := "projects/../notes.txt"
    let old := (s.execute default "echo old > notes.txt").2
    let written := (old.execute default (echoLine "it's  new" .overwrite target)).2
    let read := written.execute default (catLine target)
    let appended := (read.2.execute default (echoLine "end" .append target)).2
    Quotable "it's  new" ∧ Quotable "end" ∧ BarePath target ∧
      (old.execute default (echoLine "it's  new" .overwrite target)).1 = some (.text "") ∧
      read.1 = some (.text "it's  new") ∧
      (appended.execute default (catLine target)).1 = some (.text "it's  new\nend") := by
  intro s target old written read appended
  have quotable : Quotable "it's  new" :=
    ⟨by decide, by decide +kernel, by decide +kernel, by decide +kernel, by decide +kernel⟩
  have quotable' : Quotable "end" :=
    ⟨by decide, by decide +kernel, by decide +kernel, by decide +kernel, by decide +kernel⟩
  have bare : BarePath target :=
    ⟨by decide, Shell.forall_mem_of_any_eq_false (by decide +kernel),
      Shell.forall_mem_of_any_eq_false (by decide +kernel), by decide +kernel, by decide +kernel,
      by decide +kernel⟩
  have accepted : (old.execute default (echoLine "it's  new" .overwrite target)).1 =
      some (.text "") := by decide +kernel
  obtain ⟨shows, -, showsAgain, -⟩ := echo_then_cat quotable quotable' bare default default default
    default old ⟨.text "", accepted, rfl⟩
  exact ⟨quotable, quotable', bare, accepted, shows, showsAgain⟩

end Workbench.Session
