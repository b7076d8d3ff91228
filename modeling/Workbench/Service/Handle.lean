import Workbench.Service.Call
import Workbench.Service.Route
import Workbench.Settings

/-!
# The service

The service offers a workspace to its clients. A request is answered by its resource; whatever goes
wrong on the way becomes a reply of its own, whose status says whose fault it is: 404 and 405 for
what is not there, 409 while no project is open, 422 for bodies that are not what they should be,
and 400 or 500 for the rest, by the class of the failure.

The program itself decides what its resources do (`action`) and how failures of its own are worded
(`Reply.ofFailure`, `Refused.noPatch`, `Refused.noProject`). The rest is up to the framework that it
runs in: how requests find their resources, how bodies are decoded, read and checked (`readBody`,
`checkBody`), and what answers a body that is refused or a path that leads nowhere.
-/

namespace Workbench.Service

open Schema (Check Issue Place Fields required)

/-- A body that comes with a request: its bytes, and its declared type. -/
structure Content where
  bytes : List UInt8
  type : String
  deriving Repr, DecidableEq, Inhabited

/-- The type of JSON bodies. -/
def jsonType : String := "application/json"

/-- A text as a body, in UTF-8. -/
def Content.ofText (text type : String) : Content :=
  ⟨text.toUTF8.toList, type⟩

/-- How deep the values in bodies may be nested, where there is a limit. It is one of the stack: too
deep a value exhausts what is left of the stack when it is read, or when a reply repeats it. -/
structure Limits where
  /-- The levels of a body that can be read. -/
  reading : Option Nat
  /-- The levels of a value that a reply can repeat. -/
  writing : Option Nat
  deriving Repr, DecidableEq, Inhabited

/-- No limits at all. -/
def Limits.none : Limits := ⟨.none, .none⟩

/-- A request to the service. -/
structure Incoming where
  method : String
  path : String
  content : Option Content
  deriving Repr, DecidableEq, Inhabited

/-- The reply to a request; the body is `null` if there is none. -/
structure Reply where
  status : Int
  body : Json
  deriving Repr, BEq, Inhabited

/-- Why a request is not answered by its resource. -/
inductive Refused where
  | notFound
  | wrongMethod
  | elsewhere
  | unreadableBody
  /-- The body is no JSON, and its bytes are no text that a reply could repeat. -/
  | undecodedBody (m : Text.Utf8.Malformed)
  | badBody (issues : List Issue)
  | noPatch (id : String) (pending : List String)
  | noProject (action : String)
  | failed (failure : Failure)
  deriving Repr

/-! ## Replies to what goes wrong -/

mutual

/-- Whether a value holds no infinity and no NaN, which JSON cannot express. -/
def isPlain : Json → Bool
  | .real x => x.isFinite
  | .arr items => arePlain items
  | .obj fields => arePlainFields fields
  | _ => true

/-- Whether no item holds an infinity or a NaN. -/
def arePlain : List Json → Bool
  | [] => true
  | item :: rest => isPlain item && arePlain rest

/-- Whether no field holds an infinity or a NaN. -/
def arePlainFields : List (String × Json) → Bool
  | [] => true
  | (_, value) :: rest => isPlain value && arePlainFields rest

end

namespace Reply

/-- A reply without a body. -/
def bare (status : Int) : Reply := ⟨status, .null⟩

/-- A reply that says what is wrong in one text. -/
def detail (status : Int) (text : String) : Reply :=
  ⟨status, .obj [("detail", .str text)]⟩

/-- A reply that names a failure by a title, its wording and a class. -/
def problem (status : Int) (title text className : String) : Reply :=
  ⟨status, .obj [("error", .str title), ("detail", .str text), ("type", .str className)]⟩

/-- The reply to a value that is not allowed. -/
def badValue (text : String) : Reply :=
  problem 400 "Invalid Value" text "ValueError"

/-- The reply to a failure of running. -/
def runtime (text : String) : Reply :=
  problem 500 "Runtime Error" text "RuntimeError"

/-- A reply that repeats what a client or a store sent: the values that issues are with, nested no
deeper than given. What JSON cannot express is not allowed. -/
def repeating (levels : Option Nat) (issues : List Issue) (status : Int) (body : Json) : Reply :=
  if issues.any fun issue => levels.any (· < Json.nesting false issue.input) then
    runtime "maximum recursion depth exceeded"
  else if isPlain body then ⟨status, body⟩
  else badValue "Out of range float values are not JSON compliant"

/-- The reply to a failure of any other class. -/
def unexpected (failure : Failure) : Reply :=
  let text := failure.message
  problem 500 "Internal Server Error"
    (if text.isEmpty then "An unexpected error occurred" else text) failure.className

/-- The reply to a failure, by its class. -/
def ofFailure (levels : Option Nat) (failure : Failure) : Reply :=
  match failure with
  | .invalid issues =>
    repeating levels issues 422 (.obj [("error", .str "Validation Error"),
      ("detail", .str "The request data failed validation"),
      ("validation_errors", .arr (issues.map Issue.report))])
  | _ =>
    if failure.isValueError then badValue failure.message
    else if failure.isRuntimeError then runtime failure.message
    else unexpected failure

/-- The reply to a request that is not answered by its resource. -/
def ofRefused (levels : Option Nat) : Refused → Reply
  | .notFound => detail 404 "Not Found"
  | .wrongMethod => detail 405 "Method Not Allowed"
  | .elsewhere => bare 307
  | .unreadableBody => detail 400 "There was an error parsing the body"
  | .undecodedBody m => badValue (m.message "utf-8")
  | .badBody issues =>
    repeating levels issues 422 (.obj [("detail", .arr (issues.map Issue.fullReport))])
  | .noPatch id pending =>
    ⟨404, .obj [("error", .str "Patch Not Found"),
      ("detail", .str s!"The patch '{id}' is not pending"),
      ("requested_patch", .str id), ("pending_patches", .ofTexts pending)]⟩
  | .noProject action =>
    ⟨409, .obj [("error", .str "Project Not Open"),
      ("detail", .str s!"Cannot {action}: no project is open"),
      ("suggestion", .str "Open a project with POST /workspace/open")]⟩
  | .failed failure => ofFailure levels failure

end Reply

/-! ## Bodies -/

/-- Whether a content type is that of JSON. -/
def isJsonType (type : String) : Bool :=
  let name := (Text.trim (type.toList.takeWhile (· != ';'))).map Char.toLower
  match Text.splitOn '/' name with
  | [main, sub] =>
    String.ofList main == "application" &&
      (String.ofList sub == "json" || (Text.afterPrefix? "nosj+".toList sub.reverse).isSome)
  | _ => false

/-- The value of a JSON body. Of a text that is no JSON the place of the mistake is reported; of what
else cannot be read nothing is. -/
def readJson (levels : Option Nat) (bytes : List UInt8) : Except Refused Json :=
  match Json.load levels bytes with
  | .ok value => .ok value
  | .error (.malformed _ _) => .error .unreadableBody
  | .error (.unread e) =>
    match e.fault with
    | .tooManyDigits _ | .tooDeep _ => .error .unreadableBody
    | fault =>
      .error (.badBody [⟨[.name "body", .index e.position], .badSyntax fault.message, .obj []⟩])

/-- The value of the body of a request, read as deep as given; nothing if there is no body. A body
that is not declared as JSON is a text. -/
def readBody (levels : Option Nat) (content : Option Content) : Except Refused (Option Json) :=
  match content with
  | none => .ok none
  | some c =>
    if c.bytes.isEmpty then .ok none
    else if isJsonType c.type then (readJson levels c.bytes).map some
    else
      match Text.Utf8.decode c.bytes with
      | .ok text => .ok (some (.str (String.ofList text)))
      | .error m => .error (.undecodedBody m)

/-- The record in the body of a request. -/
def checkBody {α : Type} (check : Fields → Check α) (body : Option Json) : Except Refused α :=
  let checked : Check α :=
    match body with
    | none => Check.fail .missing .null
    | some (.obj fields) => check fields
    | some value => Check.fail .notAttributes value
  (Check.within (.name "body") checked).mapError .badBody

/-- The most characters that a line may have. -/
def longestLine : Nat := 10000

/-- The line of a request to carry one out. -/
def lineBody : Fields → Check String :=
  required "input" (Schema.textUpTo longestLine)

/-- The completion of a request to read one. -/
def completionBody : Fields → Check String :=
  required "text" Schema.text

/-- A name that is not blank. -/
def checkName (input : Json) : Check String :=
  (Schema.textFrom 1 input).refine fun name =>
    if Text.isBlankText name then
      Check.fail (.refused "project_name must contain a non-whitespace character") input
    else .ok name

/-- Id and name of a request to open a project. -/
def projectBody (fields : Fields) : Check (String × String) :=
  (required "project_id" (Schema.textFrom 1) fields).both (required "project_name" checkName fields)

/-! ## Resources -/

/-- What a resource does: it answers or refuses, and the workspace may change. -/
abbrev Action := Workspace → Except Refused Json × Workspace

namespace Action

/-- An answer that only looks at the workspace. -/
def look (f : Workspace → Json) : Action :=
  fun w => (.ok (f w), w)

/-- An answer after a change. -/
def change (act : Workspace → Workspace) (f : Workspace → Json) : Action :=
  fun w => (look f) (act w)

/-- An answer after something that may fail. -/
def attempt {α : Type} (act : Workspace → Except Failure α × Workspace)
    (f : α → Workspace → Json) : Action :=
  fun w =>
    match act w with
    | (.ok a, w) => (.ok (f a w), w)
    | (.error e, w) => (.error (.failed e), w)

/-- An action that ends by persisting the session. If that is not possible it fails, with everything
done but what would have come afterwards: `back` takes that back. -/
def persistingElse (back : Workspace → Workspace → Workspace) (act : Action) : Action :=
  fun before =>
    match act before with
    | (.ok answer, after) =>
      match after.session.unsaved? with
      | none => (.ok answer, after)
      | some failure => (.error (.failed failure), back before after)
    | refused => refused

/-- An action whose last step is to persist the session. -/
def persisting (act : Action) : Action :=
  act.persistingElse fun _ after => after

/-- An action that applies patches. They are taken off those that wait once the session is
persisted. -/
def applying (act : Action) : Action :=
  act.persistingElse fun before after => { after with review.pending := before.review.pending }

/-- Carries out a line. With a session that cannot be persisted after the line itself, it ends there;
a blank line persists nothing. -/
def carryOut (clock : Clock) (line : String) (f : Option Shell.Result → Workspace → Json) : Action :=
  fun w =>
    match w.session.execute clock line with
    | (none, _) => attempt (Workspace.execute clock line) f w
    | (some _, session) =>
      match session.unsaved? with
      | none => (attempt (Workspace.execute clock line) f).persisting w
      | some failure => (.error (.failed failure), { w with session })

/-- An action that needs an open project. -/
def withProject (purpose : String) (act : Action) : Action :=
  fun w =>
    match w.review.project with
    | none => (.error (.noProject purpose), w)
    | some _ => act w

/-- An action on a patch that waits for approval. -/
def withPatch (id : String) (act : Patch → Action) : Action :=
  fun w =>
    match w.review.find? id with
    | none => (.error (.noPatch id (w.review.pending.map (·.id))), w)
    | some patch => act patch w

/-- An action on what the body of a request says. -/
def withBody {α : Type} (check : Fields → Check α) (body : Option Json) (act : α → Action) :
    Action :=
  fun w =>
    match checkBody check body with
    | .error refused => (.error refused, w)
    | .ok a => act a w

end Action

/-- The patches that wait. -/
def pendingJson (w : Workspace) : Json :=
  (PatchReport.ofPatches w.review.pending).toJson

/-- The files that were written, and the patches that still wait. -/
def appliedJson (files : List Project.File) (w : Workspace) : Json :=
  (AppliedReport.mk files w.review.pending).toJson

/-- The state of the session. -/
def terminalJson (w : Workspace) : Json :=
  (TerminalReport.ofWorkspace w).toJson

/-- The open project. -/
def projectJson (w : Workspace) : Json :=
  (ProjectReport.ofWorkspace w).toJson

/-- Says how many files are mirrored, and where. -/
def syncedJson (files : List Project.File) (w : Workspace) : Json :=
  let directory := w.session.projectDirectory (w.projectName.getD "")
  (Acknowledgement.mk "synced" s!"Mirrored {files.length} files into {directory}").toJson

/-- What every visitor is told. -/
def welcomeJson : Json :=
  .obj [("message", .str "Welcome to the Coding Workspace API"), ("version", .str "0.1.0"),
    ("docs_url", .str "/docs")]

/-- Whether a resource reads the body of its requests. -/
def readsBody : Resource → Bool
  | .execute | .parse | .openProject => true
  | _ => false

/-- Whether a resource is there before the service is started. -/
def isStatic : Resource → Option Json
  | .root => some welcomeJson
  | .health => some (.obj [("status", .str "healthy")])
  | _ => none

/-- What a resource does with the workspace. -/
def action (clock : Clock) (body : Option Json) : Resource → Action
  | .root => Action.look fun _ => welcomeJson
  | .health => Action.look fun _ => .obj [("status", .str "healthy")]
  | .workspace => Action.look projectJson
  | .terminal => Action.look terminalJson
  | .patches => Action.look pendingJson
  | .openProject => Action.withBody projectBody body fun (id, name) =>
    (Action.attempt (Workspace.openProject id name) fun _ => projectJson).persisting
  | .execute => Action.withBody lineBody body fun line =>
    Action.carryOut clock line fun result w =>
      (LineReport.ofResult result w.session.state.cwd).toJson
  | .clear =>
    (Action.change (fun w => { w with session := w.session.clearHistory }) terminalJson).persisting
  | .reset => (Action.change Workspace.resetTerminal terminalJson).persisting
  | .sync =>
    Action.withProject "sync the terminal" (Action.attempt Workspace.refresh syncedJson).persisting
  | .parse => Action.withBody completionBody body fun text =>
    Action.withProject "parse patches"
      (Action.change (fun w => (w.parse text).2) pendingJson)
  | .applyAll =>
    Action.withProject "apply patches" (Action.attempt Workspace.applyAll appliedJson).applying
  | .apply id => Action.withProject "apply a patch" (Action.withPatch id fun patch =>
    (Action.attempt (Workspace.applyPatch patch) fun file => appliedJson [file]).applying)
  | .reject id => Action.withPatch id fun patch =>
    Action.change (Workspace.rejectPatch patch) pendingJson

/-! ## The service -/

/-- The service: its clock, the limits of its stack, and its workspace once it is started. -/
structure Server where
  clock : Clock
  limits : Limits
  workspace : Option Workspace
  deriving Inhabited

namespace Server

/-- Answers a request for a resource. -/
def serve (r : Resource) (content : Option Content) (s : Server) : Except Refused Json × Server :=
  match isStatic r with
  | some answer => (.ok answer, s)
  | none =>
    match if readsBody r then readBody s.limits.reading content else .ok none with
    | .error refused => (.error refused, s)
    | .ok body =>
      match s.workspace with
      | none => (.error (.failed .notStarted), s)
      | some w =>
        let (answer, w) := action s.clock body r w
        (answer, { s with workspace := some w })

/-- Answers a request. -/
def respond (request : Incoming) (s : Server) : Except Refused Json × Server :=
  match Route.find request.method request.path with
  | .resource r => s.serve r request.content
  | .wrongMethod => (.error .wrongMethod, s)
  | .elsewhere => (.error .elsewhere, s)
  | .nowhere => (.error .notFound, s)

/-- Handles a request: whatever happens, there is a reply. The reply to `HEAD` has no body. -/
def handle (request : Incoming) (s : Server) : Reply × Server :=
  let (answer, s) := s.respond request
  let reply : Reply :=
    match answer with
    | .ok body => ⟨200, body⟩
    | .error refused => Reply.ofRefused s.limits.writing refused
  (if request.method == "HEAD" then .bare reply.status else reply, s)

/-- A request of a client as it reaches the service. -/
def incoming (request : Http.Request) : Incoming :=
  ⟨request.method, request.path, request.body.map fun body => .ofText body.compact jsonType⟩

end Server

/-- A client can talk to the service without a network between them. -/
instance : Http.Transport Server where
  send request s :=
    let (reply, s) := s.handle (Server.incoming request)
    (.ok (.ofJson reply.status reply.body), s)
  pause _ s := s

end Workbench.Service
