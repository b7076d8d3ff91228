import Workbench.Tree.Wire

/-!
# The state of a session

The tree, the current directory, the user, what the screen shows, and every line that was entered.
A state is persisted as JSON; blobs of an older form call the current directory `cwd`.

How deep a tree may be when its state is persisted is not up to the session: a state is written and
read by a library that gives up on deep values, on reading sooner than on writing. Each level of the
tree takes two levels of JSON.
-/

namespace Workbench.Shell

open Schema (Check Fields required optional)
open Workbench.Tree (Directory)

/-- What an entry on the screen is. -/
inductive EntryKind where
  | input
  | output
  | error
  deriving Repr, DecidableEq, Inhabited

def EntryKind.name : EntryKind → String
  | input => "input"
  | output => "output"
  | error => "error"

def EntryKind.all : List EntryKind := [.input, .output, .error]

/-- An entry on the screen. -/
structure Entry where
  kind : EntryKind
  content : String
  /-- The directory in which a line was entered. -/
  cwd : Option String
  deriving Repr, DecidableEq, Inhabited

/-- The state of a session. -/
structure State where
  fs : Directory
  cwd : String
  user : String
  /-- What the screen shows. -/
  history : List Entry
  /-- Every line that was entered, oldest first. -/
  commandLog : List String
  deriving Repr, BEq, Inhabited

/-- The state of a new session: an initial tree, seen from the home of the user. -/
def State.initial (user : String) : State :=
  { fs := Directory.initial user, cwd := "/home/" ++ user, user, history := [], commandLog := [] }

def Entry.toJson (e : Entry) : Json :=
  .obj [("type", .str e.kind.name), ("content", .str e.content), ("cwd", .ofText? e.cwd)]

/-- A kind of entry from its name. -/
def EntryKind.check (input : Json) : Check EntryKind :=
  match input with
  | .str "input" => .ok .input
  | .str "output" => .ok .output
  | .str "error" => .ok .error
  | _ => Check.fail (.notLiteral (EntryKind.all.map EntryKind.name)) input

/-- An entry from its JSON form. -/
def Entry.check (source : Schema.Source) (input : Json) : Check Entry :=
  Schema.record source "HistoryEntry"
    (fun fields =>
      ((required "type" EntryKind.check fields).both
        ((required "content" Schema.text fields).both
          (optional "cwd" none Schema.text? fields))).map
        fun (kind, content, cwd) => ⟨kind, content, cwd⟩)
    input

namespace State

/-- The field of the tree. -/
def fsField : String := "fs"

def cwdField : String := "currentDirectory"

/-- The field of the current directory in blobs of an older form. -/
def olderCwdField : String := "cwd"

/-- The field of the entered lines. -/
def logField : String := "commandLog"

def toJson (s : State) : Json :=
  .obj [(fsField, s.fs.toJson), (cwdField, .str s.cwd), ("user", .str s.user),
    ("history", .arr (s.history.map Entry.toJson)), (logField, .ofTexts s.commandLog)]

/-- The lowest level of entries with which a tree can be written. -/
def deepestWritten : Nat := 126

/-- A state as the text in which it is persisted, unless its tree is too deep to be written. -/
def blob (s : State) : Option String :=
  if s.fs.height ≤ deepestWritten then some s.toJson.compact else none

/-- Fields of an older form in the present form: a current directory under its older name counts
unless there is one under the present name. -/
def upgrade (fields : Fields) : Fields :=
  match Entries.lookup olderCwdField fields with
  | none => fields
  | some cwd =>
    let rest := Entries.erase olderCwdField fields
    if Entries.has cwdField rest then rest else Entries.store cwdField cwd rest

/-- The name under which a field with a second name was given; the first name wins. -/
def givenName (name second : String) (fields : Fields) : String :=
  if Entries.has name fields || !Entries.has second fields then name else second

/-- A state from its JSON form. -/
def check (input : Json) : Check State :=
  Schema.record .text "ShellState"
    (fun given =>
      let fields := upgrade given
      let cwdName := givenName cwdField "current_directory" fields
      let logName := givenName logField "command_log" fields
      ((required fsField Directory.check fields).both
        ((required cwdName Schema.text fields).both
          ((optional "user" "user" Schema.text fields).both
            ((optional "history" [] (Schema.list .text (Entry.check .text)) fields).both
              (optional logName [] (Schema.list .text Schema.text) fields))))).map
        fun (fs, cwd, user, history, commandLog) => ⟨fs, cwd, user, history, commandLog⟩)
    input

/-- Reads the text in which a state is persisted. -/
def ofBlob (text : String) : Check State :=
  match Json.readStrict? text with
  | some input => check input
  | none => Check.fail .unreadable (.str text)

end State

end Workbench.Shell
