import Workbench.Json.Basic

/-!
# Results of commands

A command answers with text, with an error text, or with a signal that asks the surroundings of the
shell to act. On the wire a signal is a fixed word of its own.
-/

namespace Workbench.Shell

/-- What the surroundings of the shell are asked to do. -/
inductive Signal where
  | clearScreen
  | runDevServer
  | runFile
  | deleteAllFiles
  deriving Repr, DecidableEq

namespace Signal

def all : List Signal := [.clearScreen, .runDevServer, .runFile, .deleteAllFiles]

def kind : Signal → String
  | clearScreen => "clear_screen"
  | runDevServer => "run_dev_server"
  | runFile => "run_piston_api"
  | deleteAllFiles => "delete_all_files"

/-- The word of a signal on the wire. -/
def sentinel : Signal → String
  | clearScreen => "CLEAR_TERMINAL_SCREEN"
  | runDevServer => "RUN_DEV_SERVER"
  | runFile => "RUN_PISTON_API"
  | deleteAllFiles => "DELETE_ALL_FILES"

end Signal

/-- The outcome of a command. -/
inductive Result where
  | text (output : String)
  | error (output : String)
  | signal (s : Signal)
  deriving Repr, DecidableEq

namespace Result

def textKind : String := "text"

def kinds : List String :=
  textKind :: Signal.all.map Signal.kind

def kind : Result → String
  | signal s => s.kind
  | _ => textKind

/-- The text of a result; empty for a signal. -/
def output : Result → String
  | text output => output
  | error output => output
  | signal _ => ""

/-- Whether the result is an error text. -/
def isError : Result → Bool
  | error _ => true
  | _ => false

def isSignal : Result → Bool
  | signal _ => true
  | _ => false

/-- The word of a signal. -/
def sentinel? : Result → Option String
  | signal s => some s.sentinel
  | _ => none

/-- A result on the wire: its text, or the word of a signal. -/
def wire (r : Result) : String :=
  r.sentinel?.getD r.output

/-- Reads a result from the wire. -/
def ofWire (word : String) : Result :=
  match Signal.all.find? (·.sentinel == word) with
  | some s => .signal s
  | none => .text word

/-- Why a kind names no signal. -/
inductive KindFault where
  | notSignal
  | unknown (kind : String)
  deriving Repr, DecidableEq

/-- The signal of a kind. -/
def ofKind (kind : String) : Except KindFault Result :=
  match Signal.all.find? (·.kind == kind) with
  | some s => .ok (.signal s)
  | none => .error (if kind == textKind then .notSignal else .unknown kind)

def toJson (r : Result) : Json :=
  .obj [("kind", .str r.kind), ("output", .str r.output), ("is_error", .bool r.isError),
    ("is_signal", .bool r.isSignal), ("sentinel", .ofText? r.sentinel?), ("wire", .str r.wire)]

end Result

end Workbench.Shell
