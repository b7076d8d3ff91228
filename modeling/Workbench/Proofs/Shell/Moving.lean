import Workbench.Proofs.Shell.Steps
import Workbench.Proofs.Tree.Resolution

/-!
# Moving around and looking around

A relative path behind another path stands for the same place as it does alone, seen from where the
other path leads. So after `cd` every relative path means what it meant before behind the operand of
`cd`, and `ls` without an operand shows what it showed with that operand.
-/

namespace Workbench.Shell

open Workbench.Tree (Directory)

variable {clock : Clock} {command : Command} {state : State} {outcome : Outcome} {path : String}

/-- `cd` moves to a directory that is there, or there is an error. -/
theorem cd_cases (answered : cd clock command state = .ok outcome) :
    let target := command.args.headD "~"
    outcome.result.isError = true ∨
      (∃ a entries, (Tree.resolve target state.cwd state.fs).node = some (.directory a entries)) ∧
      outcome = .change
        { state with cwd := Tree.absolute (Tree.normalize target state.cwd) } (.text "") := by
  intro target
  cases answered
  dsimp only
  cases found : (Tree.resolve target state.cwd state.fs).node with
  | none => exact .inl rfl
  | some node =>
    cases node with
    | file a content => exact .inl rfl
    | directory a entries =>
      refine .inr ⟨⟨a, entries, rfl⟩, ?_⟩
      rw [(get?_of_resolve found).2]

/-- What `ls` answers depends on its options and on the node to which its operand leads, unless it
leads to none. -/
theorem ls_congr {clock' : Clock} {command' : Command} {state' : State} {node : Tree.Node}
    (options : command.options = command'.options)
    (found : state.node? (command.args.headD ".") = some node)
    (found' : state'.node? (command'.args.headD ".") = some node) :
    ls clock command state = ls clock' command' state' := by
  have flags : command.hasOption = command'.hasOption := by
    funext flag
    rw [Command.hasOption, Command.hasOption, options]
  rw [ls, readOnly, readOnly]
  dsimp only
  rw [found, found']
  cases node with
  | file a content => rfl
  | directory a entries =>
    dsimp only
    rw [listing, listing, listedNames, listedNames, flags]

/-- **`cd` composes with relative paths.** Behind a path that is not empty, a relative path has the
normal form that it has from the absolute path of the first one. So in every state in which `cd`
with the first path for its operand succeeds, a relative path leads after it where it led before
behind the first path, with the same answer, and `ls` without an operand answers after it what `ls`
with the first path for its operand and the same options answered before. -/
theorem cd_composes (given : path ≠ "") :
    (∀ cwd below : String, below.toList.head? ≠ some '/' → below.toList.head? ≠ some '~' →
      Tree.normalize (path ++ "/" ++ below) cwd =
        Tree.normalize below (Tree.absolute (Tree.normalize path cwd))) ∧
    ∀ clock command state outcome, command.args.head? = some path →
      cd clock command state = .ok outcome → outcome.result.isError = false →
      let after := outcome.latest state
      (∀ below : String, below ≠ "" → below.toList.head? ≠ some '/' →
        below.toList.head? ≠ some '~' →
        Tree.resolve below after.cwd after.fs =
          Tree.resolve (path ++ "/" ++ below) state.cwd state.fs) ∧
      ∀ clock' here there, here.args = [] → there.args.head? = some path →
        here.options = there.options → ls clock' here after = ls clock' there state := by
  refine ⟨fun cwd below notRoot notHome => Tree.normalize_append given notRoot notHome cwd,
    fun clock command state outcome operand answered fine => ?_⟩
  have target : command.args.headD "~" = path := by
    rw [List.headD_eq_head?_getD, operand, Option.getD_some]
  rcases cd_cases answered with failed | ⟨⟨a, entries, found⟩, moved⟩
  · rw [fine] at failed
    cases failed
  rw [target] at found moved
  intro after
  have now : after = { state with cwd := Tree.absolute (Tree.normalize path state.cwd) } := by
    rw [show after = outcome.latest state from rfl, moved]
    rfl
  refine ⟨fun below filled notRoot notHome => ?_, fun clock' here there bare operand' options => ?_⟩
  · have same := Tree.normalize_append given notRoot notHome state.cwd
    have whole : path ++ "/" ++ below ≠ "" := by
      intro empty
      have := congrArg String.toList empty
      simp at this
    rw [now]
    exact Tree.resolve_congr filled whole same.symm
  · have named : ∀ s ∈ Tree.normalize path state.cwd, Tree.IsName s := fun s hs =>
      Tree.isName_of_mem_normalize hs
    have same := Tree.normalize_dot named
    have before : state.node? (there.args.headD ".") = some (.directory a entries) := by
      rw [List.headD_eq_head?_getD, operand', Option.getD_some]
      exact found
    refine ls_congr options ?_ before
    rw [now, bare, List.headD_nil, State.node?, Tree.resolve_congr (by decide) given same]
    exact found

/-- From another directory `cd` follows a path with a tilde and dots, and a path back over what the
operand had contributed is the one that it was behind the operand. -/
theorem cd_composes_back_over :
    let state := { State.initial "user" with cwd := "/tmp" }
    let command : Command := ⟨"cd", ["~/./projects/"], [], none, none, ["~/./projects/"]⟩
    ∃ outcome, cd default command state = .ok outcome ∧ outcome.result.isError = false ∧
      (outcome.latest state).cwd = "/home/user/projects" ∧
      Tree.resolve "../../no/../user" (outcome.latest state).cwd (outcome.latest state).fs =
        Tree.resolve "~/./projects//../../no/../user" "/tmp" state.fs := by
  intro state command
  have given : "~/./projects/" ≠ "" := by decide
  obtain ⟨-, composes⟩ := cd_composes given
  have fine (outcome : Outcome) (answered : cd default command state = .ok outcome) :
      outcome.result.isError = false ∧ (outcome.latest state).cwd = "/home/user/projects" := by
    cases answered
    decide +kernel
  obtain ⟨outcome, answered⟩ : ∃ outcome, cd default command state = .ok outcome := ⟨_, rfl⟩
  obtain ⟨succeeded, moved⟩ := fine outcome answered
  obtain ⟨leads, -⟩ := composes default command state outcome rfl answered succeeded
  exact ⟨outcome, answered, succeeded, moved,
    leads "../../no/../user" (by decide) (by decide +kernel) (by decide +kernel)⟩

end Workbench.Shell
