import Workbench.Service.Report

/-!
# Calls of the service

What a client can ask of the service: for each call the request that is sent, and the report that the
response must hold.
-/

namespace Workbench.Service

open Schema (Check Fields)
open Http (Transport)

/-- A call of the service. Arguments are passed on as they are; the service checks them. -/
inductive Call where
  | health
  | terminal
  | execute (line : Json)
  | clear
  | reset
  | sync
  | patches
  | parse (text : Json)
  | apply (id : Json)
  | reject (id : Json)
  | applyAll
  | project
  | openProject (id name : Json)
  deriving Repr, BEq, Inhabited

/-- What a call is answered with. -/
inductive Report where
  | health (status : String)
  | terminal (report : TerminalReport)
  | line (report : LineReport)
  | patches (report : PatchReport)
  | applied (report : AppliedReport)
  | project (report : ProjectReport)
  | acknowledged (acknowledgement : Acknowledgement)
  deriving Repr, DecidableEq, Inhabited

def Report.toJson : Report → Json
  | health status => .obj [("status", .str status)]
  | terminal r => r.toJson
  | line r => r.toJson
  | patches r => r.toJson
  | applied r => r.toJson
  | project r => r.toJson
  | acknowledged a => a.toJson

namespace Call

def ofName? (name : String) (arguments : List Json) : Option Call :=
  match name, arguments with
  | "health", [] => some health
  | "terminal.get_state", [] => some terminal
  | "terminal.execute", [line] => some (execute line)
  | "terminal.clear", [] => some clear
  | "terminal.reset", [] => some reset
  | "terminal.sync", [] => some sync
  | "patches.list", [] => some patches
  | "patches.parse", [text] => some (parse text)
  | "patches.apply", [id] => some (apply id)
  | "patches.reject", [id] => some (reject id)
  | "patches.apply_all", [] => some applyAll
  | "workspace.get", [] => some project
  | "workspace.open", [id, name] => some (openProject id name)
  | _, _ => none

/-- The method, the path and the body of the request for a call. -/
def request : Call → String × String × Option Json
  | health => ("GET", "/health", none)
  | terminal => ("GET", "/terminal/state", none)
  | execute line => ("POST", "/terminal/execute", some (.obj [("input", line)]))
  | clear => ("POST", "/terminal/clear", none)
  | reset => ("POST", "/terminal/reset", none)
  | sync => ("POST", "/terminal/sync", none)
  | patches => ("GET", "/patches", none)
  | parse text => ("POST", "/patches/parse", some (.obj [("text", text)]))
  | apply id => ("POST", "/patches/" ++ id.plainText ++ "/apply", none)
  | reject id => ("POST", "/patches/" ++ id.plainText ++ "/reject", none)
  | applyAll => ("POST", "/patches/apply-all", none)
  | project => ("GET", "/workspace", none)
  | openProject id name =>
    ("POST", "/workspace/open", some (.obj [("project_id", id), ("project_name", name)]))

/-- A report of a kind that has a name in messages. -/
def readAs {α : Type} (model : String) (check : Fields → Check α) (make : α → Report) (value : Json) :
    Except Failure Report :=
  match value with
  | .obj fields => ((check fields).mapError Failure.invalid).map make
  | _ => .error (.notMapping model value.typeName)

/-- The report that a response to a call holds. -/
def read : Call → Json → Except Failure Report
  | health => readAs "client.models.HealthResponse" (Schema.required "status" Schema.text) .health
  | terminal | clear | reset =>
    readAs "api.models.TerminalStateResponse" TerminalReport.check .terminal
  | execute _ => readAs "api.models.CommandResponse" LineReport.check .line
  | sync => readAs "api.models.ActionResponse" Acknowledgement.check .acknowledged
  | patches | parse _ | reject _ =>
    readAs "api.models.PatchListResponse" PatchReport.check .patches
  | apply _ | applyAll => readAs "api.models.ApplyPatchResponse" AppliedReport.check .applied
  | project | openProject _ _ => readAs "api.models.WorkspaceResponse" ProjectReport.check .project

/-- Makes a call through a client. -/
def make {τ : Type} [Transport τ] (client : Http.Client) (call : Call) (t : τ) :
    Except Failure Report × τ :=
  let (method, path, body) := call.request
  let (outcome, t) := client.request method path none body t
  (outcome.bind call.read, t)

end Call

end Workbench.Service
