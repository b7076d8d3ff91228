import Workbench.Workspace

/-!
# Reports

What the service answers: what the screen of the session shows, what came of a line, the patches that
wait, the files that were written, the open project. Each report can be written as JSON and read
from it.
-/

namespace Workbench.Service

open Schema (Check Fields required optional)
open Project (File)
open Shell (Entry)

/-- The state of the session. -/
structure TerminalReport where
  user : String
  cwd : String
  history : List Entry
  commandLog : List String
  deriving Repr, DecidableEq, Inhabited

/-- What came of a line. -/
structure LineReport where
  kind : String
  output : String
  isError : Bool
  sentinel : Option String
  cwd : String
  deriving Repr, DecidableEq, Inhabited

/-- Patches that wait for approval. -/
structure PatchReport where
  patches : List Patch
  count : Int
  deriving Repr, DecidableEq, Inhabited

/-- The files that were written, and the patches that still wait. -/
structure AppliedReport where
  applied : List File
  pending : List Patch
  deriving Repr, DecidableEq, Inhabited

/-- The open project and its files. -/
structure ProjectReport where
  user : String
  id : Option String
  name : Option String
  directory : Option String
  files : List File
  deriving Repr, DecidableEq, Inhabited

structure Acknowledgement where
  status : String
  message : String
  deriving Repr, DecidableEq, Inhabited

namespace TerminalReport

/-- What the session of a workspace shows. -/
def ofWorkspace (w : Workspace) : TerminalReport :=
  let s := w.session.state
  ⟨s.user, s.cwd, s.history, s.commandLog⟩

def toJson (r : TerminalReport) : Json :=
  .obj [("user", .str r.user), ("current_directory", .str r.cwd),
    ("history", .arr (r.history.map Entry.toJson)), ("command_log", .ofTexts r.commandLog)]

def check (fields : Fields) : Check TerminalReport :=
  ((required "user" Schema.text fields).both
    ((required "current_directory" Schema.text fields).both
      ((optional "history" [] (Schema.list .value (Entry.check .value)) fields).both
        (optional "command_log" [] (Schema.list .value Schema.text) fields)))).map
    fun (user, cwd, history, commandLog) => ⟨user, cwd, history, commandLog⟩

end TerminalReport

namespace LineReport

/-- The report on a result. A blank line has none. -/
def ofResult (result : Option Shell.Result) (cwd : String) : LineReport :=
  match result with
  | none => ⟨Shell.Result.textKind, "", false, none, cwd⟩
  | some r => ⟨r.kind, r.output, r.isError, r.sentinel?, cwd⟩

def toJson (r : LineReport) : Json :=
  .obj [("kind", .str r.kind), ("output", .str r.output), ("is_error", .bool r.isError),
    ("sentinel", .ofText? r.sentinel), ("current_directory", .str r.cwd)]

/-- A kind of results by its name. -/
def checkKind (input : Json) : Check String :=
  match input with
  | .str kind =>
    if Shell.Result.kinds.contains kind then .ok kind
    else Check.fail (.notMember Shell.Result.kinds) input
  | _ => Check.fail (.notMember Shell.Result.kinds) input

def check (fields : Fields) : Check LineReport :=
  ((required "kind" checkKind fields).both
    ((optional "output" "" Schema.text fields).both
      ((optional "is_error" false Schema.flag fields).both
        ((optional "sentinel" none Schema.text? fields).both
          (required "current_directory" Schema.text fields))))).map
    fun (kind, output, isError, sentinel, cwd) => ⟨kind, output, isError, sentinel, cwd⟩

end LineReport

/-- A patch all of whose fields are given. -/
def checkPatch (input : Json) : Check Patch :=
  Schema.record .value "PatchResponse"
    (fun fields =>
      ((required "patch_id" Schema.text fields).both
        ((required "file_name" Schema.text fields).both
          ((required "new_content" Schema.text fields).both
            ((required "added" Schema.integer fields).both
              ((required "removed" Schema.integer fields).both
                (required "is_new" Schema.flag fields)))))).map
        fun (id, fileName, newContent, added, removed, isNew) =>
          ⟨id, fileName, newContent, added, removed, isNew⟩)
    input

namespace PatchReport

def ofPatches (patches : List Patch) : PatchReport :=
  ⟨patches, patches.length⟩

def toJson (r : PatchReport) : Json :=
  .obj [("patches", .arr (r.patches.map Patch.toJson)), ("count", .int r.count)]

def check (fields : Fields) : Check PatchReport :=
  ((optional "patches" [] (Schema.list .value checkPatch) fields).both
    (optional "count" 0 Schema.integer fields)).map fun (patches, count) => ⟨patches, count⟩

end PatchReport

namespace AppliedReport

def toJson (r : AppliedReport) : Json :=
  .obj [("applied", Project.filesJson r.applied), ("pending", .arr (r.pending.map Patch.toJson))]

def check (fields : Fields) : Check AppliedReport :=
  ((optional "applied" [] (Schema.list .value File.check) fields).both
    (optional "pending" [] (Schema.list .value checkPatch) fields)).map
    fun (applied, pending) => ⟨applied, pending⟩

end AppliedReport

namespace ProjectReport

/-- The open project of a workspace. -/
def ofWorkspace (w : Workspace) : ProjectReport :=
  ⟨w.session.state.user, w.review.project, w.projectName,
    w.projectName.map w.session.projectDirectory, w.review.files⟩

def toJson (r : ProjectReport) : Json :=
  .obj [("user", .str r.user), ("project_id", .ofText? r.id), ("project_name", .ofText? r.name),
    ("project_directory", .ofText? r.directory), ("files", Project.filesJson r.files)]

def check (fields : Fields) : Check ProjectReport :=
  ((required "user" Schema.text fields).both
    ((optional "project_id" none Schema.text? fields).both
      ((optional "project_name" none Schema.text? fields).both
        ((optional "project_directory" none Schema.text? fields).both
          (optional "files" [] (Schema.list .value File.check) fields))))).map
    fun (user, id, name, directory, files) => ⟨user, id, name, directory, files⟩

end ProjectReport

namespace Acknowledgement

def toJson (a : Acknowledgement) : Json :=
  .obj [("status", .str a.status), ("message", .str a.message)]

def check (fields : Fields) : Check Acknowledgement :=
  ((required "status" Schema.text fields).both (required "message" Schema.text fields)).map
    fun (status, message) => ⟨status, message⟩

end Acknowledgement

end Workbench.Service
