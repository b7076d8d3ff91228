import Workbench.Shell.Navigation
import Workbench.Shell.Files
import Workbench.Shell.Lines
import Workbench.Shell.System

/-!
# Carrying out commands

A command is carried out by the handler registered under its name, except for those that the shell
answers itself: running code, removing everything, packages and version control. Output that is
redirected goes to a file if it is text and not empty.
-/

namespace Workbench.Shell

open Workbench.Tree (Node)

/-- The handlers of all commands. -/
def builtins : List (String × Handler) :=
  [("pwd", pwd), ("ls", ls), ("cd", cd), ("mkdir", mkdir), ("rmdir", rmdir), ("touch", touch),
    ("rm", rm), ("cat", cat), ("cp", cp), ("mv", mv), ("find", find), ("chmod", chmod),
    ("chown", chown), ("echo", echo), ("grep", grep), ("head", head), ("tail", tail), ("wc", wc),
    ("sort", sort), ("uniq", uniq), ("whoami", whoami), ("uname", uname), ("date", date),
    ("history", history), ("clear", clear), ("help", help)]

/-- The arguments of `rm` that stand for every file of the project. -/
def deleteAllArguments : List String := ["*", "-rf *", "-f *"]

/-- The answer to a package command: only the development server can be run. -/
def npm (command : Command) : Result :=
  match command.args with
  | ["run", "dev"] => .signal .runDevServer
  | "run" :: rest => .error ("npm ERR! Missing script: \"" ++ rest.headD "" ++ "\"")
  | _ => .error "npm: only 'npm run dev' is available in this workspace"

/-- Carries out a command without its redirection. -/
def dispatch (handlers : List (String × Handler)) : Handler := fun clock command state =>
  if command.name == "rm" && deleteAllArguments.contains command.argumentString then
    .ok (.only (.signal .deleteAllFiles))
  else if command.name == "run" then
    .ok (.only (.signal (if command.args == ["dev"] then .runDevServer else .runFile)))
  else if command.name == "npm" then .ok (.only (npm command))
  else if command.name == "git" then git clock command state
  else
    match Entries.lookup command.name handlers with
    | some handler => handler clock command state
    | none => .ok (.only (.error s!"{command.name}: command not found"))

/-- Writes output to the file that a redirection names: at its end, or in place of its content. The
file is made if its directory is there. -/
def writeOutput (mode : Redirect) (target output : String) (state : State) : Outcome :=
  let failure (reason : String) := Outcome.only (.error s!"bash: {reason}")
  if target.isEmpty then failure "syntax error near unexpected token `newline'"
  else
    let location := state.locateIn state.fs target
    match location.parent, location.node with
    | none, _ =>
      if Tree.isEntryName location.name then failure s!"{target}: No such file or directory"
      else failure s!"{target}: Is a directory"
    | some _, some (.directory _ _) => failure s!"{target}: Is a directory"
    | some place, node =>
      let chunk := output ++ "\n"
      let file : Node :=
        match node with
        | some (.file a content) =>
          .file a (if mode = .append then content ++ chunk else chunk)
        | _ => .newFile location.name state.user chunk
      .changeTree state (state.fs.changeAt place.path (Entries.store location.name file)) []

/-- Whether the output of a result goes to a file. -/
def redirected? (command : Command) (result : Result) : Option (Redirect × String) :=
  match command.redirect, result with
  | some mode, .text output => if output.isEmpty then none else some (mode, output)
  | _, _ => none

/-- Carries out a command. A breakdown is shown as an error, and nothing changes. -/
def execute (handlers : List (String × Handler)) (clock : Clock) (command : Command)
    (state : State) : Outcome :=
  match dispatch handlers clock command state with
  | .error breakdown => .only (.error s!"{command.name}: {breakdown.message}")
  | .ok outcome =>
    match redirected? command outcome.result with
    | none => outcome
    | some (mode, output) =>
      let written := writeOutput mode (command.target.getD "") output (outcome.latest state)
      { written with states := outcome.states ++ written.states }

end Workbench.Shell
