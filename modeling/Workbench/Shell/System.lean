import Workbench.Shell.Handler

/-!
# The system

Commands about the session and the machine, and a version control that always gives the same
answers: there is no repository.
-/

namespace Workbench.Shell

/-- Shows the user. -/
def whoami : Handler :=
  readOnly fun _ state => .text state.user

/-- Shows the name of the system, or all about it. -/
def uname : Handler :=
  readOnly fun command _ =>
    .text (if command.hasOption "a" then
      "Linux speed-agent 5.15.0-v8+ #1 SMP PREEMPT aarch64 GNU/Linux" else "Linux")

/-- Shows the date and time. -/
def date : Handler := fun clock _ _ => .ok (.only (.text clock.dated))

/-- Shows every line that was entered, with its number. -/
def history : Handler :=
  readOnly fun _ state =>
    .text ("\n".intercalate ((state.commandLog.zipIdx 1).map fun (line, number) =>
      s!"  {number}  {line}"))

/-- Asks for an empty screen. -/
def clear : Handler :=
  readOnly fun _ _ => .signal .clearScreen

/-- The commands that the help text names. -/
def helpNames : List String :=
  ["pwd", "ls", "cd", "mkdir", "rmdir", "touch", "rm", "cat", "echo", "whoami", "uname", "date",
    "history", "clear", "grep", "head", "tail", "wc", "cp", "mv", "find", "chmod", "chown", "sort",
    "uniq", "help", "run", "git", "npm"]

/-- Names the commands. -/
def help : Handler :=
  readOnly fun _ _ =>
    .text ("Available commands:\n" ++ "  ".intercalate (helpNames.mergeSort (· ≤ ·)) ++
      "\n\nType 'run' to execute your active code file, or 'npm run dev' to start the preview.")

/-! ## Version control -/

/-- The commit that every answer names. -/
def commitHash : String := "a1b2c3d"

/-- How version control is used. -/
def gitUsage : String :=
  "usage: git <command> [<args>]\n\n" ++
    "Simulated commands: init, add, status, commit -m <msg>, push, log"

/-- The answer to a commit: it needs the flag `m` and a message. -/
def gitCommit (command : Command) : Result :=
  match command.args with
  | _ :: message :: _ =>
    if command.hasOption "m" then
      .text s!"[main {commitHash}] {message}\n 1 file changed, 1 insertion(+)"
    else .error "error: switch `m' requires a value"
  | _ => .error "error: switch `m' requires a value"

/-- The answers of version control. -/
def git : Handler := fun clock command state =>
  let answer : Result :=
    match command.args with
    | [] => .text gitUsage
    | "init" :: _ =>
      .text s!"Initialized empty Git repository in {Text.withoutTrailingSlashes state.cwd}/.git/"
    | "add" :: rest => .text (if rest.isEmpty then "Nothing specified, nothing added." else "")
    | "status" :: _ => .text "On branch main\nnothing to commit, working tree clean"
    | "commit" :: _ => gitCommit command
    | "push" :: _ =>
      .text ("Enumerating objects: 5, done.\nWriting objects: 100% (3/3), done.\nTo origin\n" ++
        s!"   0000000..{commitHash}  main -> main")
    | "log" :: _ =>
      .text (s!"commit {commitHash} (HEAD -> main)\n" ++
        s!"Author: {state.user} <{state.user}@workspace.local>\n" ++
        s!"Date:   {clock.stamped}\n\n    Initial commit")
    | name :: _ => .error s!"git: '{name}' is not a git command. See 'git --help'."
  .ok (.only answer)

end Workbench.Shell
