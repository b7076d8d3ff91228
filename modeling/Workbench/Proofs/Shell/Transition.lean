import Workbench.Proofs.Shell.Steps

/-!
# Commands as transitions of the state

Whatever a command is, it hands over one state at most, and what that state may differ in depends on
the name of the command: `cd` moves the current directory, four commands reshape the tree, and
output that is redirected is written to a file of the tree. `Answers` lists what a handler can
answer under its name, and `Transition` what a whole command can come to, redirection included; that
these are all there is follows from one lemma a handler (`answering_builtins`,
`execute_transition`).

Only output that is not empty is redirected. A handler that hands over a state has no output but
error lines, so the redirection never adds a second state to the one of the handler
(`Answers.states_eq_nil`).
-/

namespace Workbench.Shell

open Workbench.Tree (Directory)

/-- The command asks for all files of the open project to be deleted. -/
def Command.DeletesAll (command : Command) : Prop :=
  command.name = "rm" ∧ command.argumentString ∈ deleteAllArguments

/-- The names of the commands that reshape the tree. -/
def treeCommands : List String := ["mkdir", "rmdir", "touch", "rm"]

/-- The commands among them that carry out what they can and report the rest. -/
def partialCommands : List String := ["mkdir", "touch", "rm"]

/-- The command has output, and the output is to go to a file. -/
def Redirects (clock : Clock) (command : Command) (state : State) : Prop :=
  ∃ outcome written, dispatch builtins clock command state = .ok outcome ∧
    redirected? command outcome.result = some written

/-- What a handler can answer under a name. -/
inductive Answers (name : String) (state : State) : Outcome → Prop
  /-- No state is handed over. -/
  | keep (result : Result) : Answers name state (.only result)
  /-- The current directory is another one. -/
  | move (named : name = "cd") (cwd : String) :
      Answers name state (.change { state with cwd } (.text ""))
  /-- The tree is another one. Operands that failed are reported; `rmdir` has none of these. -/
  | reshape (named : name ∈ treeCommands) (fs : Directory) (errors : List String)
      (whole : name = "rmdir" → errors = []) : Answers name state (.changeTree state fs errors)

/-- The handler answers as its name allows. -/
def Answering (name : String) (h : Handler) : Prop :=
  ∀ clock command state outcome, h clock command state = .ok outcome → Answers name state outcome

/-- What a command can come to. -/
inductive Transition (clock : Clock) (command : Command) (state : State) : Outcome → Prop
  /-- No state is handed over. -/
  | keep (result : Result) : Transition clock command state (.only result)
  /-- The current directory is another one. -/
  | move (named : command.name = "cd") (cwd : String) :
      Transition clock command state (.change { state with cwd } (.text ""))
  /-- The tree is another one. -/
  | reshape (named : command.name ∈ treeCommands) (spares : ¬ command.DeletesAll)
      (shown : ¬ Redirects clock command state) (fs : Directory) (errors : List String)
      (whole : command.name = "rmdir" → errors = []) :
      Transition clock command state (.changeTree state fs errors)
  /-- The output is written to a file of the tree. -/
  | write (redirects : Redirects clock command state) (fs : Directory) :
      Transition clock command state (.changeTree state fs [])

variable {name : String} {clock : Clock} {command : Command} {state : State} {outcome : Outcome}

/-! ## Handlers -/

/-- A command that changes nothing answers. -/
theorem Silent.answering {h : Handler} (silent : Silent h) (name : String) :
    Answering name h := by
  intro clock command state outcome answered
  have none_handed := silent clock command state outcome answered
  obtain ⟨result, states⟩ := outcome
  obtain rfl : states = [] := none_handed
  exact .keep result

/-- `cd` answers under its name. -/
theorem answering_cd : Answering "cd" cd := by
  rintro clock command state outcome ⟨⟩
  dsimp only
  split
  · exact .keep _
  · exact .keep _
  · exact .move rfl _

/-- `rmdir` answers under its name. -/
theorem answering_rmdir : Answering "rmdir" rmdir := by
  rintro clock command state outcome ⟨⟩
  dsimp only
  split
  · exact .keep _
  · split
    · exact .keep _
    · exact .reshape (by decide) _ [] fun _ => rfl

/-- A handler that carries out a change for each operand reports those that fail. -/
theorem answering_changing (change : Command → State → String → Change)
    (bare : Command → Result) (named : name ∈ partialCommands) :
    Answering name (handler fun command state =>
      if command.args.isEmpty then .only (bare command) else changing change command state) := by
  rintro clock command state outcome ⟨⟩
  dsimp only
  split
  · exact .keep _
  · refine .reshape ?_ _ _ ?_
    · revert named
      simp only [partialCommands, treeCommands, List.mem_cons]
      tauto
    · rintro rfl
      exact absurd named (by decide)

/-- Every built-in command answers as its name allows. -/
theorem answering_builtins : ∀ entry ∈ builtins, Answering entry.1 entry.2 := by
  have silent (name : String) (f : Command → State → Result) : Answering name (readOnly f) :=
    (silent_readOnly f).answering name
  simp only [builtins, List.forall_mem_cons, List.not_mem_nil, false_imp_iff, implies_true, and_true]
  refine ⟨silent _ _, silent _ _, answering_cd, ?mkdir, answering_rmdir, ?touch, ?rm, silent _ _,
    silent _ _, silent _ _, silent _ _, silent _ _, silent _ _, silent _ _,
    silent_grep.answering _, (silent_someLines _ _).answering _,
    (silent_someLines _ _).answering _, silent _ _, silent _ _, silent _ _, silent _ _,
    silent _ _, silent_date.answering _, silent _ _, silent _ _, silent _ _⟩
  case mkdir => exact answering_changing mkdirChange _ (by decide)
  case touch => exact answering_changing touchChange _ (by decide)
  case rm => exact answering_changing rmChange _ (by decide)

/-! ## Commands -/

/-- The command that asks for everything to be deleted is passed on. -/
theorem dispatch_of_deletesAll (clock : Clock) (state : State) (asks : command.DeletesAll) :
    dispatch builtins clock command state = .ok (.only (.signal .deleteAllFiles)) := by
  rw [dispatch, if_pos]
  simpa [Command.DeletesAll] using asks

/-- What a command answers before its output is redirected. -/
theorem dispatch_answers (answered : dispatch builtins clock command state = .ok outcome) :
    Answers command.name state outcome := by
  rw [dispatch] at answered
  split at answered
  · exact Except.ok.inj answered ▸ .keep _
  split at answered
  · exact Except.ok.inj answered ▸ .keep _
  split at answered
  · exact Except.ok.inj answered ▸ .keep _
  split at answered
  · exact silent_git.answering _ clock command state outcome answered
  cases found : Entries.lookup command.name builtins with
  | none =>
    rw [found] at answered
    exact Except.ok.inj answered ▸ .keep _
  | some h =>
    rw [found] at answered
    exact answering_builtins _ (Entries.mem_of_lookup found) clock command state outcome answered

/-- What is redirected is text, and not empty. -/
theorem of_redirected {result : Result} {mode : Redirect} {output : String}
    (redirected : redirected? command result = some (mode, output)) :
    result = .text output ∧ output ≠ "" := by
  cases result with
  | text shown =>
    cases given : command.redirect with
    | none =>
      simp only [redirected?, given] at redirected
      cases redirected
    | some mode' =>
      by_cases empty : shown.isEmpty = true
      · simp only [redirected?, given, if_pos empty] at redirected
        cases redirected
      · simp only [redirected?, given, if_neg empty] at redirected
        cases redirected
        exact ⟨rfl, by simpa using empty⟩
  | error line =>
    cases given : command.redirect <;> simp [redirected?, given] at redirected
  | signal s =>
    cases given : command.redirect <;> simp [redirected?, given] at redirected

/-- A handler that hands over a state leaves nothing to be redirected. -/
theorem Answers.states_eq_nil {mode : Redirect} {output : String} (h : Answers name state outcome)
    (redirected : redirected? command outcome.result = some (mode, output)) :
    outcome.states = [] := by
  obtain ⟨text, filled⟩ := of_redirected redirected
  cases h with
  | keep result => rfl
  | move named cwd => exact absurd (Result.text.inj text).symm filled
  | reshape named fs errors whole =>
    -- the result is empty, or an error
    simp only [Outcome.changeTree, Outcome.change] at text
    split at text
    · exact absurd (Result.text.inj text).symm filled
    · cases text

/-- Output is written to the tree, or there is an error. -/
theorem writeOutput_cases (mode : Redirect) (target output : String) (state : State) :
    (∃ line, writeOutput mode target output state = .only (.error line)) ∨
      ∃ fs, writeOutput mode target output state = .changeTree state fs [] := by
  rw [writeOutput]
  dsimp only
  split
  · exact .inl ⟨_, rfl⟩
  split
  · split
    · exact .inl ⟨_, rfl⟩
    · exact .inl ⟨_, rfl⟩
  · exact .inl ⟨_, rfl⟩
  · exact .inr ⟨_, rfl⟩

/-- **What a command can come to.** -/
theorem execute_transition (clock : Clock) (command : Command) (state : State) :
    Transition clock command state (execute builtins clock command state) := by
  rw [execute]
  cases answered : dispatch builtins clock command state with
  | error breakdown => exact .keep _
  | ok outcome =>
    have answers := dispatch_answers answered
    dsimp only
    cases redirected : redirected? command outcome.result with
    | none =>
      have shown : ¬ Redirects clock command state := by
        rintro ⟨other, written, answered', redirected'⟩
        rw [answered] at answered'
        obtain rfl := Except.ok.inj answered'
        rw [redirected] at redirected'
        cases redirected'
      by_cases asks : command.DeletesAll
      · rw [dispatch_of_deletesAll clock state asks] at answered
        obtain rfl := Except.ok.inj answered
        exact .keep _
      · cases answers with
        | keep result => exact .keep result
        | move named cwd => exact .move named cwd
        | reshape named fs errors whole => exact .reshape named asks shown fs errors whole
    | some written =>
      obtain ⟨mode, output⟩ := written
      have none_handed := answers.states_eq_nil redirected
      have same : outcome.latest state = state := by
        rw [Outcome.latest, none_handed]
        rfl
      dsimp only
      rw [none_handed, same]
      rcases writeOutput_cases mode (command.target.getD "") output state with
        ⟨line, refused⟩ | ⟨fs, wrote⟩
      · rw [refused]
        exact .keep _
      · rw [wrote]
        exact .write ⟨outcome, _, answered, redirected⟩ fs

/-- **Every command is a single, framed transition.** A command hands over one state at most. In
that state the user, the screen and the log of lines are as they were; the current directory is
another one only if `cd` has moved it, and then the tree is as it was; the tree is another one only
after one of four commands, unless it asks for all files of the project to be deleted, or because
output was redirected. No state is handed over by a command that ends in a signal or whose handler
breaks down, nor, if there is an error, by the redirection or by any but three of those four
commands. -/
theorem execute_framed (clock : Clock) (command : Command) (state : State) :
    let outcome := execute builtins clock command state
    outcome.states.length ≤ 1 ∧
    (∀ next ∈ outcome.states,
      (next.user = state.user ∧ next.history = state.history ∧
        next.commandLog = state.commandLog) ∧
      (next.cwd ≠ state.cwd →
        command.name = "cd" ∧ outcome.result.isError = false ∧ next.fs = state.fs) ∧
      (next.fs ≠ state.fs → command.name ∈ treeCommands ∧ ¬ command.DeletesAll ∨
        Redirects clock command state)) ∧
    (outcome.result.isSignal = true → outcome.states = []) ∧
    (∀ breakdown, dispatch builtins clock command state = .error breakdown →
      outcome.states = []) ∧
    (outcome.result.isError = true → command.name ∉ partialCommands ∨
      Redirects clock command state → outcome.states = []) := by
  intro outcome
  have broken : ∀ breakdown, dispatch builtins clock command state = .error breakdown →
      outcome.states = [] := by
    intro breakdown broken
    simp only [outcome, execute, broken, Outcome.only]
  have transition : Transition clock command state outcome := execute_transition clock command state
  generalize outcome = outcome at transition broken ⊢
  cases transition with
  | keep result => simp [Outcome.only]
  | move named cwd =>
    refine ⟨Nat.le_refl _, ?_, ?_, broken, ?_⟩
    · intro next handed
      obtain rfl := List.mem_singleton.mp handed
      exact ⟨⟨rfl, rfl, rfl⟩, fun _ => ⟨named, rfl, rfl⟩, fun other => absurd rfl other⟩
    · intro signal
      cases signal
    · intro failed
      cases failed
  | reshape named spares shown fs errors whole =>
    refine ⟨Nat.le_refl _, ?_, ?_, broken, ?_⟩
    · intro next handed
      obtain rfl := List.mem_singleton.mp handed
      exact ⟨⟨rfl, rfl, rfl⟩, fun other => absurd rfl other, fun _ => .inl ⟨named, spares⟩⟩
    · simp only [Outcome.changeTree, Outcome.change]
      intro signal
      split at signal <;> cases signal
    · intro failed elsewhere
      have fewer : errors ≠ [] := by
        rintro rfl
        cases failed
      have notRmdir : command.name ≠ "rmdir" := fun same => fewer (whole same)
      have among : command.name ∈ partialCommands := by
        revert named
        simp only [treeCommands, partialCommands, List.mem_cons]
        tauto
      rcases elsewhere with other | redirects
      · exact absurd among other
      · exact absurd redirects shown
  | write redirects fs =>
    refine ⟨Nat.le_refl _, ?_, ?_, broken, ?_⟩
    · intro next handed
      obtain rfl := List.mem_singleton.mp handed
      exact ⟨⟨rfl, rfl, rfl⟩, fun other => absurd rfl other, fun _ => .inr redirects⟩
    · intro signal
      cases signal
    · intro failed
      cases failed

/-- A file is made by the redirection of `echo`, and an operand of `mkdir` fails after another one
was carried out: each hands over one state. -/
theorem execute_framed_redirected_and_partial :
    let state := State.initial "user"
    let echo : Command := ⟨"echo", ["hi"], [], some .overwrite, some "notes.txt", ["hi"]⟩
    let mkdir : Command := ⟨"mkdir", ["src", "a/b"], [], none, none, ["src", "a/b"]⟩
    (∃ next, (execute builtins default echo state).states = [next] ∧
      next.history = state.history ∧ next.fs ≠ state.fs ∧ Redirects default echo state) ∧
    ∃ next, (execute builtins default mkdir state).states = [next] ∧ next.fs ≠ state.fs ∧
      (execute builtins default mkdir state).result.isError = true ∧
      ¬ Redirects default mkdir state := by
  intro state echo mkdir
  obtain ⟨-, framed, -, -, -⟩ := execute_framed default echo state
  obtain ⟨-, -, -, -, unchanged⟩ := execute_framed default mkdir state
  -- the file and the directory are there in the one state that is handed over, and were not before
  have one (command : Command) (path : List String) (absent : state.fs.get? path = none)
      (there : (execute builtins default command state).states.map
        (fun next => (next.fs.get? path).isSome) = [true]) :
      ∃ next, (execute builtins default command state).states = [next] ∧
        next.fs ≠ state.fs := by
    obtain ⟨next, same, found⟩ := List.map_eq_singleton_iff.mp there
    refine ⟨next, same, fun unchanged => ?_⟩
    rw [unchanged, absent] at found
    cases found
  refine ⟨?_, ?_⟩
  · obtain ⟨next, handed, reshaped⟩ :=
      one echo ["home", "user", "notes.txt"] (by rfl) (by decide +kernel)
    obtain ⟨⟨-, history, -⟩, -, cause⟩ := framed next (handed ▸ List.mem_singleton_self next)
    refine ⟨next, handed, history, reshaped, (cause reshaped).resolve_left ?_⟩
    rintro ⟨named, -⟩
    exact absurd named (by decide)
  · obtain ⟨next, handed, reshaped⟩ :=
      one mkdir ["home", "user", "src"] (by rfl) (by decide +kernel)
    refine ⟨next, handed, reshaped, by decide +kernel, fun redirects => ?_⟩
    have none_handed := unchanged (by decide +kernel) (.inr redirects)
    rw [handed] at none_handed
    cases none_handed

end Workbench.Shell
