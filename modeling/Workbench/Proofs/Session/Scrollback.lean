import Workbench.Proofs.Session.Persistence
import Workbench.Proofs.Shell.Wording
import Mathlib.Data.List.DropRight

/-!
# The log of lines and the screen

What was entered in a run is told by its journal: the lines that were answered since the last
`reset`, each with the current directory just before it (`enteredIn`). The log of lines is exactly
that, and the entries of lines that are still on the screen are the last of them, whatever the
commands did in between (`Recorded`): no command hands over a state with another log or screen, and
the other operations only add to the screen or empty it.
-/

namespace Workbench.Session

open Shell (State Entry EntryKind Result)

variable {s : Session} {op : Operation} {clock : Clock} {line : String} {result : Result}

/-! ## What was entered -/

/-- Whether an operation starts the session afresh. -/
def Operation.isReset : Operation → Bool
  | reset => true
  | _ => false

/-- An operation adds no line to the screen as if it had been entered. -/
def Operation.EntersNothingElse : Operation → Prop
  | appendOutput _ kind => kind ≠ .input
  | _ => True

/-- The entry of a line that was entered in a directory. -/
def inputEntry (line cwd : String) : Entry := ⟨.input, line, some cwd⟩

/-- The entry of a line that is answered; no other operation has one. -/
def Operation.entered (s : Session) : Operation → List Entry
  | execute clock line =>
    if (s.execute clock line).1.isSome then [inputEntry line s.state.cwd] else []
  | _ => []

/-- Every operation of a run with the session that it finds. -/
def journal : List Operation → Session → List (Operation × Session)
  | [], _ => []
  | op :: ops, s => (op, s) :: journal ops (op.perform s)

/-- What a journal holds after the last `reset`. -/
def sinceReset (past : List (Operation × Session)) : List (Operation × Session) :=
  past.rtakeWhile fun step => !step.1.isReset

/-- The entries of all lines that were answered in a run since the last `reset`. -/
def enteredIn (ops : List Operation) (s : Session) : List Entry :=
  (sinceReset (journal ops s)).flatMap fun (op, before) => op.entered before

/-- The entries of lines that are on the screen. -/
def inputs (s : Session) : List Entry :=
  s.state.history.filter (·.kind = .input)

theorem run_concat (ops : List Operation) (op : Operation) (s : Session) :
    run (ops ++ [op]) s = op.perform (run ops s) :=
  List.foldl_concat ..

/-- Each operation is noted with the session that it met. -/
theorem journal_concat (ops : List Operation) (op : Operation) (s : Session) :
    journal (ops ++ [op]) s = journal ops s ++ [(op, run ops s)] := by
  induction ops generalizing s with
  | nil => rfl
  | cons first ops ih => exact congrArg ((first, s) :: ·) (ih (first.perform s))

/-- An operation adds its entry to what was entered, and `reset` forgets all of it. -/
theorem enteredIn_concat (ops : List Operation) (op : Operation) (s : Session) :
    enteredIn (ops ++ [op]) s =
      if op.isReset then [] else enteredIn ops s ++ op.entered (run ops s) := by
  rw [enteredIn, sinceReset, journal_concat, List.rtakeWhile_concat]
  cases reset : op.isReset with
  | true => simp
  | false => simp [enteredIn, sinceReset]

/-! ## What a line does to the screen -/

/-- What the screen shows of a result. -/
def entriesOf : Result → List Entry
  | .text output => if output.isEmpty then [] else [⟨.output, output, none⟩]
  | .error output => if output.isEmpty then [] else [⟨.error, output, none⟩]
  | .signal _ => []

/-- The entries report a result: there is one at most, which has the text of the result, there is an
error entry iff the result is an error, and there is none for a signal or an empty text. -/
structure Reports (result : Result) (answer : List Entry) : Prop where
  single : answer.length ≤ 1
  text : ∀ entry ∈ answer, (entry.kind = .output ∨ entry.kind = .error) ∧
    entry.content = result.output
  error : (∃ entry ∈ answer, entry.kind = .error) ↔ result.isError = true
  silent : answer = [] ↔ result.isSignal = true ∨ result.output = ""

/-- What a result adds to the history. -/
theorem reports_entriesOf (worded : result.Worded) : Reports result (entriesOf result) := by
  cases result with
  | text output =>
    by_cases empty : output = ""
    · subst empty
      exact ⟨by decide, by decide, by decide, by decide⟩
    · have full : output.isEmpty = false := by simpa using empty
      have shown : entriesOf (.text output) = [⟨.output, output, none⟩] := by
        simp [entriesOf, full]
      rw [shown]
      exact ⟨Nat.le_refl 1, by simp [Result.output], by simp [Result.isError],
        by simp [Result.isSignal, Result.output, empty]⟩
  | error output =>
    have empty : output ≠ "" := Result.worded_error_iff.mp worded
    have full : output.isEmpty = false := by simpa using empty
    have shown : entriesOf (.error output) = [⟨.error, output, none⟩] := by
      simp [entriesOf, full]
    rw [shown]
    exact ⟨Nat.le_refl 1, by simp [Result.output], by simp [Result.isError],
      by simp [Result.isSignal, Result.output, empty]⟩
  | signal signal =>
    exact ⟨Nat.zero_le 1, by simp [entriesOf], by simp [entriesOf, Result.isError],
      by simp [entriesOf, Result.isSignal]⟩

/-- A result leaves an empty screen if it asks for one, and adds its entries otherwise. -/
theorem showResult_eq (result : Result) (s : Session) :
    s.showResult result = { s with state := { s.state with
      history := if result = .signal .clearScreen then [] else
        s.state.history ++ entriesOf result } } := by
  cases result with
  | text output =>
    by_cases empty : output.isEmpty = true <;> simp [showResult, entriesOf, empty, display]
  | error output =>
    by_cases empty : output.isEmpty = true <;> simp [showResult, entriesOf, empty, display]
  | signal signal => cases signal <;> simp [showResult, entriesOf, wipe]

/-- A command leaves the log of lines and the screen as they are. -/
theorem latest_execute (clock : Clock) (command : Shell.Command) (state : State) :
    ((Shell.execute Shell.builtins clock command state).latest state).commandLog =
        state.commandLog ∧
      ((Shell.execute Shell.builtins clock command state).latest state).history =
        state.history := by
  have transition := Shell.execute_transition clock command state
  generalize Shell.execute Shell.builtins clock command state = outcome at transition
  cases transition <;> exact ⟨rfl, rfl⟩

/-- What a line that is answered does to the log of lines and to the screen. -/
theorem execute_records (answered : (s.execute clock line).1 = some result) :
    let after := (s.execute clock line).2.state
    result.Worded ∧ after.commandLog = s.state.commandLog ++ [line] ∧
      after.history = if result = .signal .clearScreen then [] else
        s.state.history ++ inputEntry line s.state.cwd :: entriesOf result := by
  cases parsed : Shell.Command.parse? line with
  | none =>
    rw [execute_of_none parsed] at answered
    cases answered
  | some command =>
    obtain ⟨log, history⟩ := latest_execute clock command (s.record line).state
    have worded := Shell.execute_worded clock command (s.record line).state
    rw [execute, parsed] at answered ⊢
    obtain rfl := Option.some.inj answered
    refine ⟨worded, ?_, ?_⟩
    · simp only [showResult_eq, save, log]
      rfl
    · have added : (s.record line).state.history =
          s.state.history ++ [inputEntry line s.state.cwd] := rfl
      simp only [showResult_eq, save, history]
      rw [added, List.append_assoc]
      rfl

/-! ## Runs -/

/-- The log of lines is what was entered, and the lines on the screen are the last of it. -/
structure Recorded (entered : List Entry) (s : Session) : Prop where
  log : s.state.commandLog = entered.map (·.content)
  screen : s.inputs <:+ entered

variable {entered : List Entry}

/-- Results are no inputs. -/
theorem inputs_entriesOf (result : Result) : (entriesOf result).filter (·.kind = .input) = [] := by
  cases result with
  | text output => by_cases empty : output.isEmpty = true <;> simp [entriesOf, empty]
  | error output => by_cases empty : output.isEmpty = true <;> simp [entriesOf, empty]
  | signal signal => rfl

/-- A session that has nothing on the screen and in the log. -/
theorem recorded_of_empty (log : s.state.commandLog = []) (screen : s.state.history = []) :
    Recorded [] s :=
  ⟨log, by rw [inputs, screen]; exact List.suffix_rfl⟩

/-- Entries that are no lines may be added to the screen. -/
theorem Recorded.display {entries : List Entry} (h : Recorded entered s)
    (plain : ∀ entry ∈ entries, entry.kind ≠ .input) : Recorded entered (s.display entries) := by
  refine ⟨h.log, ?_⟩
  have none_entered : entries.filter (·.kind = .input) = [] := by simpa using plain
  rw [inputs, Session.display, List.filter_append, none_entered, List.append_nil]
  exact h.screen

/-- Clearing leaves the log as it is. -/
theorem Recorded.wipe (h : Recorded entered s) : Recorded entered s.wipe :=
  ⟨h.log, List.nil_suffix⟩

/-- A line that is answered is recorded. -/
theorem Recorded.execute (h : Recorded entered s)
    (answered : (s.execute clock line).1 = some result) :
    Recorded (entered ++ [inputEntry line s.state.cwd]) (s.execute clock line).2 := by
  obtain ⟨-, log, history⟩ := execute_records answered
  constructor
  · rw [log, h.log, List.map_append]
    rfl
  · rw [inputs, history]
    split
    · exact List.nil_suffix
    · rw [List.filter_append, List.filter_cons_of_pos (by rfl), inputs_entriesOf]
      obtain ⟨gone, whole⟩ := h.screen
      exact ⟨gone, by rw [← whole, inputs, List.append_assoc]⟩

/-- An operation without an entry of its own adds nothing to what was entered. -/
theorem Recorded.of_silent (h : Recorded entered (op.perform s)) (goesOn : op.isReset = false)
    (silent : op.entered s = []) :
    Recorded (if op.isReset then [] else entered ++ op.entered s) (op.perform s) := by
  rw [goesOn, silent, List.append_nil]
  exact h

/-- **What one operation keeps.** It records what is entered, and `reset` starts with nothing. -/
theorem Recorded.perform (h : Recorded entered s) (plain : op.EntersNothingElse) :
    Recorded (if op.isReset then [] else entered ++ op.entered s) (op.perform s) := by
  cases op with
  | execute clock line =>
    cases answered : (s.execute clock line).1 with
    | none =>
      have same : (Operation.execute clock line).perform s = s :=
        Operation.Unanswered.perform_eq answered
      refine .of_silent ?_ rfl (by rw [Operation.entered, answered]; rfl)
      rw [same]
      exact h
    | some result =>
      have entry : (Operation.execute clock line).entered s = [inputEntry line s.state.cwd] := by
        rw [Operation.entered, answered]
        rfl
      rw [entry]
      exact h.execute answered
  | appendOutput lines kind =>
    have shown : Recorded entered (s.display (lines.map fun line => ⟨kind, line, none⟩)) := by
      refine h.display fun entry mem => ?_
      obtain ⟨line, -, rfl⟩ := List.mem_map.mp mem
      exact plain
    exact .of_silent ⟨shown.log, shown.screen⟩ rfl rfl
  | clearHistory => exact .of_silent ⟨h.wipe.log, h.wipe.screen⟩ rfl rfl
  | save => exact .of_silent ⟨h.log, h.screen⟩ rfl rfl
  | reset => exact recorded_of_empty rfl rfl
  | sync projectName files =>
    refine .of_silent ?_ rfl rfl
    obtain ⟨fs, same⟩ : ∃ fs, s.sync projectName files =
        ({ s with state := { s.state with fs } } : Session).save :=
      ⟨_, sync_eq projectName files s⟩
    rw [Operation.perform, same]
    exact ⟨h.log, h.screen⟩

/-- The log has what was entered, by induction on the operations. -/
theorem recorded_run {ops : List Operation} (start : Recorded [] s)
    (plain : ∀ op ∈ ops, op.EntersNothingElse) : Recorded (enteredIn ops s) (run ops s) := by
  induction ops using List.reverseRecOn with
  | nil => exact start
  | append_singleton ops op ih =>
    have before := ih fun op hop => plain op (List.mem_append_left _ hop)
    rw [enteredIn_concat, run_concat]
    exact before.perform (plain op (by simp))

/-- **The log and the screen of a whole run.** After any operations on a session that started
afresh, none of which displays made-up lines, the log is the sequence of the lines that were
answered since the last `reset`. The lines on the screen are the last of those, each with the
current directory just before it was carried out. The next line that is answered adds its own entry
to the screen and behind it what reports the result, unless it asks for an empty screen and gets
it. -/
theorem run_records (ops : List Operation) (s : Session) (fresh : s.state = .initial s.user)
    (plain : ∀ op ∈ ops, op.EntersNothingElse) :
    let after := run ops s
    after.state.commandLog = (enteredIn ops s).map (·.content) ∧
    after.inputs <:+ enteredIn ops s ∧
    after.inputs.map (·.content) <:+ after.state.commandLog ∧
    ∀ clock line result, (after.execute clock line).1 = some result →
      let shown := (after.execute clock line).2.state.history
      (result = .signal .clearScreen → shown = []) ∧
      (result ≠ .signal .clearScreen → ∃ answer, Reports result answer ∧
        shown = after.state.history ++ inputEntry line after.state.cwd :: answer) := by
  intro after
  have start : Recorded [] s := recorded_of_empty (by rw [fresh]; rfl) (by rw [fresh]; rfl)
  have recorded : Recorded (enteredIn ops s) after := recorded_run start plain
  refine ⟨recorded.log, recorded.screen, ?_, fun clock line result answered => ?_⟩
  · rw [recorded.log]
    exact recorded.screen.map _
  · obtain ⟨worded, -, history⟩ := execute_records answered
    refine ⟨fun clears => ?_, fun stays => ⟨entriesOf result, reports_entriesOf worded, ?_⟩⟩
    · rw [history, if_pos clears]
    · rw [history, if_neg stays]

/-- After a reset, a line that fails, one that clears the screen, a blank one and `cd`, the log has
three lines and the screen the last of them. -/
theorem run_records_cleared :
    let s : Session := ⟨.empty, defaultKey, "user", .initial "user"⟩
    let ops : List Operation := [.execute default "pwd", .reset, .execute default "cat x",
      .execute default "clear", .appendOutput ["ready"] .output, .execute default " ",
      .execute default "cd projects"]
    s.state = .initial s.user ∧ (∀ op ∈ ops, op.EntersNothingElse) ∧
      (run ops s).state.commandLog = ["cat x", "clear", "cd projects"] ∧
      (run ops s).inputs = [inputEntry "cd projects" "/home/user"] := by
  intro s ops
  have plain : ∀ op ∈ ops, op.EntersNothingElse := by
    simp [ops, Operation.EntersNothingElse]
  obtain ⟨log, -, -, -⟩ := run_records ops s rfl plain
  refine ⟨rfl, plain, ?_, by decide +kernel⟩
  rw [log]
  decide +kernel

end Workbench.Session
