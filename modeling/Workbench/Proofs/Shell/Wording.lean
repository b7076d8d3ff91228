import Workbench.Proofs.Shell.Transition

/-!
# Errors have a text

No command ends in an error with an empty text (`execute_worded`), so an error can always be seen on
the screen. The errors of a handler name the command; those of several operands are joined, and none
of them is empty; a breakdown is shown behind the name of its command.
-/

namespace Workbench.Shell

open Workbench.Tree (Directory)

/-- The result is no error with an empty text. -/
def Result.Worded (result : Result) : Prop :=
  result ≠ .error ""

/-- The handler never answers with an error that has an empty text. -/
def Worded (h : Handler) : Prop :=
  ∀ clock command state outcome, h clock command state = .ok outcome → outcome.result.Worded

variable {clock : Clock} {command : Command} {state : State} {outcome : Outcome}

/-! ## Results -/

@[simp] theorem Result.worded_text (output : String) : (Result.text output).Worded := nofun

@[simp] theorem Result.worded_signal (s : Signal) : (Result.signal s).Worded := nofun

/-- An error is in words unless it has none. -/
@[simp] theorem Result.worded_error_iff {line : String} : (Result.error line).Worded ↔ line ≠ "" :=
  not_congr ⟨Result.error.inj, congrArg Result.error⟩

/-- Lines of which one is not empty make a text that is not empty. -/
theorem intercalate_ne_empty {separator line : String} {lines : List String} (mem : line ∈ lines)
    (full : line ≠ "") : separator.intercalate lines ≠ "" := by
  induction lines with
  | nil => cases mem
  | cons first rest ih =>
    cases rest with
    | nil =>
      obtain rfl := List.mem_singleton.mp mem
      simpa using full
    | cons second rest =>
      rw [String.intercalate_cons_cons]
      rcases List.mem_cons.mp mem with rfl | later
      · simp [full]
      · simp [ih later]

/-- Error lines that are not empty make a worded result. -/
theorem worded_changeTree (state : State) (fs : Directory) {errors : List String}
    (full : ∀ line ∈ errors, line ≠ "") : (Outcome.changeTree state fs errors).result.Worded := by
  rw [Outcome.changeTree, Outcome.change]
  split
  · exact Result.worded_text _
  · next some =>
    obtain ⟨line, mem⟩ := List.exists_mem_of_ne_nil errors (by simpa using some)
    exact Result.worded_error_iff.mpr (intercalate_ne_empty mem (full line mem))

/-! ## Handlers -/

/-- A command that only reads is as well worded as its answers. -/
theorem worded_readOnly {f : Command → State → Result} (each : ∀ command state,
    (f command state).Worded) : Worded (readOnly f) := by
  rintro clock command state outcome ⟨⟩
  exact each command state

theorem worded_readOnly_text (f : Command → State → String) :
    Worded (readOnly fun command state => .text (f command state)) :=
  worded_readOnly fun _ _ => Result.worded_text _

/-- The error lines of changes are those of the changes that failed. -/
theorem applyChanges_ne_empty {changes : List Change}
    (each : ∀ change ∈ changes, ∀ fs, ∀ line ∈ (change fs).1, line ≠ "") (fs : Directory) :
    ∀ line ∈ (applyChanges changes fs).2, line ≠ "" := by
  induction changes generalizing fs with
  | nil => simp [applyChanges]
  | cons change changes ih =>
    rw [applyChanges_cons]
    refine List.forall_mem_append.mpr ⟨fun line failed => ?_, ?_⟩
    · exact each change List.mem_cons_self fs line (Option.mem_toList.mp failed)
    · exact ih (fun c hc => each c (List.mem_cons_of_mem _ hc)) (change fs).2

/-- A handler that carries out a change for each operand, and says what is wrong with it. -/
theorem worded_changing {change : Command → State → String → Change} {bare : Command → Result}
    (none_given : ∀ command, (bare command).Worded)
    (each : ∀ command state path fs, ∀ line ∈ (change command state path fs).1, line ≠ "") :
    Worded (handler fun command state =>
      if command.args.isEmpty then .only (bare command) else changing change command state) := by
  rintro clock command state outcome ⟨⟩
  dsimp only
  split
  · exact none_given command
  · refine worded_changeTree state _ (applyChanges_ne_empty (fun c hc => ?_) state.fs)
    obtain ⟨path, -, rfl⟩ := List.mem_map.mp hc
    exact each command state path

/-- `mkdir` explains each failure. -/
theorem mkdirChange_ne_empty {path line : String} {fs : Directory}
    (failed : line ∈ (mkdirChange command state path fs).1) : line ≠ "" := by
  obtain ⟨fault, -, rfl⟩ := Option.map_eq_some_iff.mp failed
  simp [toString]

/-- So does `touch`. -/
theorem touchChange_ne_empty {path line : String} {fs : Directory}
    (failed : line ∈ (touchChange command state path fs).1) : line ≠ "" := by
  rw [touchChange] at failed
  split at failed
  · cases failed
  · dsimp only at failed
    split at failed
    · cases failed
      simp [toString]
    · cases failed

/-- So does `rm`. -/
theorem rmChange_ne_empty {path line : String} {fs : Directory}
    (failed : line ∈ (rmChange command state path fs).1) : line ≠ "" := by
  rw [rmChange] at failed
  split at failed
  · split at failed
    · cases failed
      simp [toString]
    · split at failed
      · cases failed
      · cases failed
        simp [toString]
  · split at failed
    · cases failed
      simp [toString]
    · cases failed

/-- `rmdir` never fails without a word. -/
theorem worded_rmdir : Worded rmdir := by
  rintro clock command state outcome ⟨⟩
  dsimp only
  split
  · exact Result.worded_error_iff.mpr (by decide)
  · split
    · exact Result.worded_error_iff.mpr (by simp [toString])
    · exact worded_changeTree state _ (by simp)

/-- Nor does `cd`. -/
theorem worded_cd : Worded cd := by
  rintro clock command state outcome ⟨⟩
  dsimp only
  split
  · exact Result.worded_error_iff.mpr (by simp [toString])
  · exact Result.worded_error_iff.mpr (by simp [toString])
  · exact Result.worded_text _

/-- Nor does `ls`. -/
theorem worded_ls : Worded ls := by
  refine worded_readOnly fun command state => ?_
  dsimp only
  split
  · exact Result.worded_error_iff.mpr (by simp [toString])
  · exact Result.worded_text _
  · exact Result.worded_text _

/-- What `cat` puts in the place of a file that it cannot show. -/
theorem catPart_ne_empty {path line : String} (failed : catPart state path = .error line) :
    line ≠ "" := by
  rw [catPart] at failed
  split at failed
  · cases failed
    simp [toString]
  · cases failed
    simp [toString]
  · cases failed

/-- Nor does `cat`. -/
theorem worded_cat : Worded cat := by
  refine worded_readOnly fun command state => ?_
  dsimp only
  split
  · next some =>
    obtain ⟨part, mem, failed⟩ := List.any_eq_true.mp some
    obtain ⟨path, -, rfl⟩ := List.mem_map.mp mem
    cases shown : catPart state path with
    | ok text =>
      rw [shown] at failed
      cases failed
    | error line =>
      rw [shown] at mem
      exact Result.worded_error_iff.mpr
        (intercalate_ne_empty (List.mem_map_of_mem mem) (catPart_ne_empty shown))
  · exact Result.worded_text _

/-- Nor does `grep`. -/
theorem worded_grep : Worded grep := by
  intro clock command state outcome answered
  rw [grep] at answered
  split at answered
  · split at answered
    · cases answered
      exact Result.worded_error_iff.mpr (by simp [toString])
    · split at answered
      · cases answered
      · cases answered
        exact Result.worded_text _
  · cases answered
    exact Result.worded_error_iff.mpr (by decide)

/-- Nor do `head` and `tail`. -/
theorem worded_someLines (name : String) (pick : Nat → List String → List String) :
    Worded (someLines name pick) := by
  intro clock command state outcome answered
  rw [someLines] at answered
  cases hc : lineCount command with
  | error breakdown =>
    rw [hc] at answered
    cases answered
  | ok counted =>
    rw [hc] at answered
    dsimp only [bind, Except.bind] at answered
    split at answered
    · cases answered
      exact Result.worded_error_iff.mpr (by simp [toString])
    · cases answered
      exact Result.worded_text _

/-- Nor do commands that describe a file. -/
theorem worded_aboutFile (name : String) (describe : Command → String → String) :
    Worded (aboutFile name describe) := by
  refine worded_readOnly fun command state => ?_
  split
  · exact Result.worded_error_iff.mpr (by simp [toString])
  · exact Result.worded_text _

/-- Nor does `date`. -/
theorem worded_date : Worded date := by
  rintro clock command state outcome ⟨⟩
  exact Result.worded_text _

theorem worded_gitCommit (command : Command) : (gitCommit command).Worded := by
  rw [gitCommit]
  split
  · split
    · exact Result.worded_text _
    · exact Result.worded_error_iff.mpr (by decide)
  · exact Result.worded_error_iff.mpr (by decide)

/-- Nor does `git`. -/
theorem worded_git : Worded git := by
  rintro clock command state outcome ⟨⟩
  split
  case h_5 => exact worded_gitCommit command
  case h_8 => exact Result.worded_error_iff.mpr (by simp [toString])
  all_goals exact Result.worded_text _

/-- Nor does `npm`. -/
theorem worded_npm (command : Command) : (npm command).Worded := by
  rw [npm]
  split
  · exact Result.worded_signal _
  · exact Result.worded_error_iff.mpr (by simp)
  · exact Result.worded_error_iff.mpr (by decide)

/-- So no builtin does. -/
theorem worded_builtins : ∀ entry ∈ builtins, Worded entry.2 := by
  have text := worded_readOnly_text
  have stand (answer : String) : Worded (standIn answer) := text fun _ _ => answer
  simp only [builtins, List.forall_mem_cons, List.not_mem_nil, false_imp_iff, implies_true, and_true]
  refine ⟨text _, worded_ls, worded_cd, ?mkdir, worded_rmdir, ?touch, ?rm, worded_cat, stand _,
    stand _, stand _, stand _, stand _, text _, worded_grep, worded_someLines _ _,
    worded_someLines _ _, worded_aboutFile _ _, worded_aboutFile _ _, worded_aboutFile _ _, text _,
    text _, worded_date, text _, ?clear, text _⟩
  case mkdir =>
    exact worded_changing (fun _ => Result.worded_error_iff.mpr (by decide))
      fun _ _ _ _ _ => mkdirChange_ne_empty
  case touch =>
    exact worded_changing (fun _ => Result.worded_error_iff.mpr (by decide))
      fun _ _ _ _ _ => touchChange_ne_empty
  case rm =>
    refine worded_changing (fun command => ?_) fun _ _ _ _ _ => rmChange_ne_empty
    split
    · exact Result.worded_text _
    · exact Result.worded_error_iff.mpr (by decide)
  case clear => exact worded_readOnly fun _ _ => Result.worded_signal _

/-! ## Commands -/

/-- Nor does a command that is not known. -/
theorem worded_dispatch : Worded (dispatch builtins) := by
  intro clock command state outcome answered
  rw [dispatch] at answered
  split at answered
  · cases answered
    exact Result.worded_signal _
  split at answered
  · cases answered
    exact Result.worded_signal _
  split at answered
  · cases answered
    exact worded_npm command
  split at answered
  · exact worded_git clock command state outcome answered
  cases found : Entries.lookup command.name builtins with
  | none =>
    rw [found] at answered
    cases answered
    exact Result.worded_error_iff.mpr (by simp [toString])
  | some h =>
    rw [found] at answered
    exact worded_builtins _ (Entries.mem_of_lookup found) clock command state outcome answered

/-- Nor does a redirection. -/
theorem worded_writeOutput (mode : Redirect) (target output : String) (state : State) :
    (writeOutput mode target output state).result.Worded := by
  rw [writeOutput]
  dsimp only
  split
  · exact Result.worded_error_iff.mpr (by decide)
  split
  · split
    · exact Result.worded_error_iff.mpr (by simp [toString])
    · exact Result.worded_error_iff.mpr (by simp [toString])
  · exact Result.worded_error_iff.mpr (by simp [toString])
  · exact worded_changeTree state _ (by simp)

/-- **Errors have a text.** No command ends in an error with an empty one. -/
theorem execute_worded (clock : Clock) (command : Command) (state : State) :
    (execute builtins clock command state).result.Worded := by
  rw [execute]
  cases answered : dispatch builtins clock command state with
  | error breakdown => exact Result.worded_error_iff.mpr (by simp [toString])
  | ok outcome =>
    dsimp only
    split
    · exact worded_dispatch clock command state outcome answered
    · exact worded_writeOutput _ _ _ _

end Workbench.Shell
