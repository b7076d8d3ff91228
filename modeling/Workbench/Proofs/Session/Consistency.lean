import Workbench.Proofs.Shell.Transition
import Workbench.Session

/-!
# No line corrupts the tree

Entries on the screen and the log of lines have no part in the tree, so what a line does to the tree
and the current directory of a session is what its command does to them (`execute_of_some`).
Since every command leaves a state that follows the one before, a session that starts with a
well-formed tree and a canonical current directory has both after every line, and so has every state
that the command hands over on the way.
-/

namespace Workbench

open Shell (State Follows Admits)
open Workbench.Tree (IsCanonical Directory)

namespace Shell

variable {state next : State}

/-- The tree is well-formed and the current directory is a canonical path. -/
structure Sound (state : State) : Prop where
  tree : state.fs.WellFormed
  cwd : IsCanonical state.cwd

theorem admits_named : Admits Tree.Named :=
  fun _ _ _ valid => ⟨valid, rfl⟩

/-- A tree stays sound while entries are changed as commands do. -/
theorem Sound.follow (sound : Sound state) (h : Follows state next) : Sound next := by
  refine ⟨h.tree _ admits_named sound.tree, ?_⟩
  rcases h.place with same | canonical
  · exact same ▸ sound.cwd
  · exact canonical

end Shell

namespace Session

variable {clock : Clock} {line : String} {command : Shell.Command} {s : Session}

/-! ## What a line does -/

/-- A result only changes what is on the screen. -/
theorem exists_showResult_eq (result : Shell.Result) (s : Session) :
    ∃ history, s.showResult result = { s with state := { s.state with history } } := by
  cases result with
  | text output =>
    rw [showResult]
    split <;> exact ⟨_, rfl⟩
  | error output =>
    rw [showResult]
    split <;> exact ⟨_, rfl⟩
  | signal s => cases s <;> exact ⟨_, rfl⟩

/-- A line without a command does nothing. -/
theorem execute_of_none (h : Shell.Command.parse? line = none) :
    s.execute clock line = (none, s) := by
  rw [execute, h]

/-- A line that is answered leaves, but for the screen, the state that its command leaves, and
persists it. -/
theorem execute_of_some (clock : Clock) (s : Session)
    (h : Shell.Command.parse? line = some command) :
    let outcome := Shell.execute Shell.builtins clock command (s.record line).state
    ∃ history, s.execute clock line = (some outcome.result,
      { s with state := { outcome.latest (s.record line).state with history } }.save) := by
  intro outcome
  obtain ⟨history, shown⟩ := exists_showResult_eq outcome.result
    { s.record line with state := outcome.latest (s.record line).state }
  refine ⟨history, ?_⟩
  rw [execute, h]
  exact congrArg (fun shown => (some outcome.result, Session.save shown)) shown

/-- A line leaves a state that follows the one before, as far as the tree and the current directory
go. -/
theorem execute_follows_line (clock : Clock) (line : String) (s : Session) :
    Follows s.state (s.execute clock line).2.state := by
  cases h : Shell.Command.parse? line with
  | none =>
    rw [execute_of_none h]
    exact .refl _
  | some command =>
    obtain ⟨history, same⟩ := execute_of_some clock s h
    have latest := Follows.latest (Shell.execute_follows Shell.modest_builtins clock command
      (s.record line).state)
    rw [same]
    exact ⟨latest.tree, latest.place⟩

/-- A line does not change whose session it is. -/
theorem execute_user (clock : Clock) (line : String) (s : Session) :
    (s.execute clock line).2.state.user = s.state.user := by
  cases parsed : Shell.Command.parse? line with
  | none => rw [execute_of_none parsed]
  | some command =>
    obtain ⟨history, same⟩ := execute_of_some clock s parsed
    have transition := Shell.execute_transition clock command (s.record line).state
    rw [same]
    generalize Shell.execute Shell.builtins clock command (s.record line).state = outcome
      at transition
    cases transition <;> rfl

/-! ## The tree stays well-formed -/

/-- A line leaves a well-formed tree, in which there are no flaws and every node is reached by the
text of its path, and a canonical current directory. This also holds of every state that the command
of the line hands over, in whatever state it is carried out. -/
theorem execute_keeps_tree (clock : Clock) (line : String) (s : Session)
    (tree : s.state.fs.WellFormed) (canonical : IsCanonical s.state.cwd) :
    let after := (s.execute clock line).2.state
    (after.fs.WellFormed ∧ after.fs.node.flaws "/" = [] ∧ IsCanonical after.cwd ∧
      ∀ path node, after.fs.get? path = some node →
        Tree.resolve (Tree.absolute path) after.cwd after.fs = ⟨some node, Tree.absolute path⟩) ∧
    ∀ command, Shell.Command.parse? line = some command →
      ∀ next ∈ (Shell.execute Shell.builtins clock command s.state).states,
        next.fs.WellFormed ∧ next.fs.node.flaws "/" = [] ∧ IsCanonical next.cwd := by
  have start : Shell.Sound s.state := ⟨tree, canonical⟩
  refine ⟨?_, fun command _ next handed => ?_⟩
  · have sound := start.follow (execute_follows_line clock line s)
    refine ⟨sound.tree, sound.tree.flaws_eq_nil "/", sound.cwd, fun path node found => ?_⟩
    exact Tree.resolve_absolute sound.tree found _
  · have each := Shell.execute_follows Shell.modest_builtins clock command s.state next handed
    have sound := start.follow each
    exact ⟨sound.tree, sound.tree.flaws_eq_nil "/", sound.cwd⟩

/-- The tree of a new session is well-formed, and stays so when output is redirected to a file with
a quoted name. -/
theorem execute_keeps_tree_redirected :
    let s : Session := ⟨.empty, defaultKey, "user", .initial "user"⟩
    s.state.fs.WellFormed ∧ IsCanonical s.state.cwd ∧
      ((s.execute default "echo 'a b' > projects/../'x y'").2.state.fs.node.flaws "/" = []) := by
  intro s
  have names : ∀ name ∈ ["home", "user", "projects", "tmp"], Tree.IsName name := by
    intro name hname
    simp only [List.mem_cons, List.not_mem_nil, or_false] at hname
    rcases hname with rfl | rfl | rfl | rfl <;>
      exact ⟨by decide, by decide, by decide, by decide +kernel⟩
  have tree : s.state.fs.WellFormed :=
    Tree.Fit.initial "user" fun name hname owner permissions =>
      Shell.admits_named name owner permissions (names name hname)
  have canonical : IsCanonical s.state.cwd := by
    rw [IsCanonical]
    decide +kernel
  exact ⟨tree, canonical, (execute_keeps_tree default _ s tree canonical).1.2.1⟩

end Session

end Workbench
