import Workbench.Proofs.Shell.Transition
import Workbench.Proofs.Tree.Changes
import Workbench.Proofs.Tree.Locations

/-!
# Output in files

Redirected output changes the content of one file, the one at the normal form of the target, or
makes it; every other item of the tree stays (`Writes`). What is written is read back under the same
path expression from the same directory, since a target that has a place is the name of an entry of
a directory that is there, and its normal form is the path of that entry.
-/

namespace Workbench.Shell

open Workbench.Tree (Directory Attributes Item Node)

/-- In the second tree a file with the given content stands at a path; the trees are otherwise the
same. -/
structure Writes (path : List String) (a : Attributes) (content : String)
    (before after : Directory) : Prop where
  here : after.itemAt? path = some (.file a content)
  beside : ∀ q ≠ path, after.itemAt? q = before.itemAt? q

/-- The attributes and the content of a file after a chunk is written to it: a file that is there
keeps its attributes, and its content if the chunk is appended. -/
inductive Written (mode : Redirect) (chunk : String) (fresh : Attributes) :
    Option Item → Attributes → String → Prop
  | made : Written mode chunk fresh none fresh chunk
  | kept (a : Attributes) (old : String) : Written mode chunk fresh (some (.file a old)) a
      (if mode = .append then old ++ chunk else chunk)

variable {path : List String} {a b : Attributes} {content content' target : String}
variable {before middle after : Directory} {state : State}

/-- A file may be written twice. -/
theorem Writes.trans (h : Writes path a content before middle)
    (h' : Writes path b content' middle after) : Writes path b content' before after :=
  ⟨h'.here, fun q hq => (h'.beside q hq).trans (h.beside q hq)⟩

/-- A file is stored where no directory stands. -/
theorem writes_storeFile {place : List String} {name : String} {entries : Tree.Branch}
    (there : before.get? place = some (.directory b entries))
    (free : ∀ c inner, Entries.lookup name entries ≠ some (.directory c inner)) (a : Attributes)
    (content : String) : Writes (place ++ [name]) a content before
      (before.changeAt place (Entries.store name (.file a content))) where
  here := by rw [Tree.itemAt?_storeFile there free, if_pos rfl]
  beside q hq := by rw [Tree.itemAt?_storeFile there free, if_neg hq]

/-! ## Writing -/

/-- Where the output is to go in the tree of a state. -/
abbrev State.pathOf (state : State) (target : String) : List String :=
  Tree.normalize target state.cwd

/-- Output is written where the directory of the target is there and no directory has its name. -/
theorem writeOutput_of_directory {entries : Tree.Branch} (mode : Redirect) (output : String)
    (filled : target ≠ "") (notHome : target.toList.head? ≠ some '~')
    (valid : Tree.isEntryName (Tree.baseName target) = true)
    (there : state.fs.get? (Tree.normalize (Tree.parentPath target) state.cwd) =
      some (.directory b entries))
    (free : ∀ c inner,
      Entries.lookup (Tree.baseName target) entries ≠ some (.directory c inner)) :
    ∃ fs a content, writeOutput mode target output state = .changeTree state fs [] ∧
      Writes (state.pathOf target) a content state.fs fs ∧
      Written mode (output ++ "\n") ⟨Tree.baseName target, state.user, .ofFile⟩
        (state.fs.itemAt? (state.pathOf target)) a content := by
  have located := Tree.locate_of_directory valid there
  have path := Tree.normalize_eq_concat notHome valid state.cwd
  have here := Tree.Directory.itemAt?_append there (List.cons_ne_nil (Tree.baseName target) [])
  have nonempty : ¬ target.isEmpty = true := by simpa using filled
  rw [writeOutput, if_neg nonempty]
  dsimp only
  rw [State.pathOf, State.locateIn, located, path, here]
  cases held : Entries.lookup (Tree.baseName target) entries with
  | none =>
    rw [Tree.itemIn_of_lookup_none held]
    exact ⟨_, _, _, rfl, writes_storeFile there free _ _, .made⟩
  | some node =>
    rw [Tree.itemIn_of_lookup_some held]
    cases node with
    | file a old => exact ⟨_, _, _, rfl, writes_storeFile there free _ _, .kept a old⟩
    | directory c inner => exact absurd held (free c inner)

/-- Output is written to a file, or there is an error. -/
theorem writeOutput_eq_or (mode : Redirect) (output : String) (state : State)
    (filled : target ≠ "") (notHome : target.toList.head? ≠ some '~') :
    (∃ line, writeOutput mode target output state = .only (.error line)) ∨
      Tree.isEntryName (Tree.baseName target) = true ∧
      ∃ fs a content, writeOutput mode target output state = .changeTree state fs [] ∧
        Writes (state.pathOf target) a content state.fs fs ∧
        Written mode (output ++ "\n") ⟨Tree.baseName target, state.user, .ofFile⟩
          (state.fs.itemAt? (state.pathOf target)) a content := by
  have nonempty : ¬ target.isEmpty = true := by simpa using filled
  rcases Tree.locate_eq_or target state.cwd state.fs with nowhere | ⟨valid, b, entries, there⟩
  · left
    rw [writeOutput, if_neg nonempty]
    dsimp only
    rw [State.locateIn, nowhere]
    dsimp only
    split <;> exact ⟨_, rfl⟩
  · by_cases free : ∀ c inner,
        Entries.lookup (Tree.baseName target) entries ≠ some (.directory c inner)
    · exact .inr ⟨valid, writeOutput_of_directory mode output filled notHome valid there free⟩
    · left
      push Not at free
      obtain ⟨c, inner, held⟩ := free
      rw [writeOutput, if_neg nonempty]
      dsimp only
      rw [State.locateIn, Tree.locate_of_directory valid there, held]
      exact ⟨_, rfl⟩

/-- Output is written to a file that is there. -/
theorem writeOutput_of_file {old : String} (mode : Redirect) (output : String) (filled : target ≠ "")
    (notHome : target.toList.head? ≠ some '~')
    (valid : Tree.isEntryName (Tree.baseName target) = true)
    (held : state.fs.itemAt? (state.pathOf target) = some (.file a old)) :
    ∃ fs, writeOutput mode target output state = .changeTree state fs [] ∧
      Writes (state.pathOf target) a
        (if mode = .append then old ++ (output ++ "\n") else output ++ "\n") state.fs fs := by
  obtain ⟨b, entries, node, there, stored, isFile⟩ := by
    rw [State.pathOf, Tree.normalize_eq_concat notHome valid] at held
    exact Tree.Directory.exists_of_itemAt?_concat held
  have free : ∀ c inner,
      Entries.lookup (Tree.baseName target) entries ≠ some (.directory c inner) := by
    intro c inner directory
    rw [stored] at directory
    cases directory
    cases isFile
  obtain ⟨fs, a', content, wrote, writes, written⟩ :=
    writeOutput_of_directory mode output filled notHome valid there free
  rw [held] at written
  cases written
  exact ⟨fs, wrote, writes⟩

/-! ## Showing a text and a file -/

/-- The text of a quoted operand is written to the target. -/
theorem execute_echo {text : String} (filled : text ≠ "") (clock : Clock) (mode : Redirect)
    (target : String) (state : State) :
    execute builtins clock ⟨"echo", [text], [], some mode, some target, [text]⟩ state =
      writeOutput mode target text state := by
  let command : Command := ⟨"echo", [text], [], some mode, some target, [text]⟩
  have shows : dispatch builtins clock command state = .ok (.only (.text (" ".intercalate [text]))) :=
    rfl
  have redirected : redirected? command (.text text) = some (mode, text) := by
    have nonempty : ¬ text.isEmpty = true := by simpa using filled
    exact if_neg nonempty
  rw [String.intercalate_singleton] at shows
  rw [execute, shows]
  dsimp only [Outcome.only]
  rw [redirected]
  rfl

/-- A file is shown without the line feed at its end. -/
theorem execute_cat (filled : target ≠ "") (clock : Clock)
    (held : state.fs.itemAt? (state.pathOf target) = some (.file a content)) :
    execute builtins clock ⟨"cat", [target], [], none, none, [target]⟩ state =
      .only (.text (shown content)) := by
  let command : Command := ⟨"cat", [target], [], none, none, [target]⟩
  have part : catPart state target = .ok (shown content) := by
    obtain ⟨node, found, isFile⟩ := Option.map_eq_some_iff.mp held
    rw [← Directory.get?] at found
    rw [catPart, State.node?, Tree.resolve_node filled, found]
    cases node with
    | file b text =>
      cases isFile
      rfl
    | directory b inner => cases isFile
  have shows : dispatch builtins clock command state = .ok (.only (.text (shown content))) := by
    have answered : dispatch builtins clock command state = cat clock command state := rfl
    rw [answered, cat, readOnly]
    simp [command, part, Except.isOk, Except.toBool]
  rw [execute, shows]
  rfl

/-- The line feed behind a chunk is not shown. -/
theorem shown_line (text : String) : shown (text ++ "\n") = text := by
  simp [shown]

end Workbench.Shell
