import Workbench.Http.Exchange
import Workbench.Json.Literal

/-!
# Failures of calls

Why a call to a service failed: the service was out of reach, time ran out, or the service refused
the request. A store that lives behind a service reports each of these as a failure of its own.
-/

namespace Workbench.Http

/-- The classes of refusals, by the status of the response. -/
inductive RefusalClass where
  | invalid
  | notFound
  | conflict
  | server
  | other
  deriving Repr, DecidableEq, Inhabited

namespace RefusalClass

def ofStatus (status : Int) : RefusalClass :=
  if status = 422 then invalid
  else if status = 404 then notFound
  else if status = 409 then conflict
  else if 500 ≤ status then server
  else other

def name : RefusalClass → String
  | invalid => "ValidationError"
  | notFound => "NotFoundError"
  | conflict => "ConflictError"
  | server => "ServerError"
  | other => "APIError"

/-- The label that every refusal of a class has. -/
def label? : RefusalClass → Option String
  | invalid => some "validation_error"
  | notFound => some "not_found"
  | conflict => some "conflict"
  | server => some "server_error"
  | other => none

end RefusalClass

/-- A request that was refused. -/
structure Refusal where
  kind : RefusalClass
  status : Int
  /-- What the service says about it. -/
  text : Json
  /-- A label for the reason, `null` if there is none. -/
  label : Json
  /-- Further details, `null` if there are none. -/
  details : Json
  /-- The body of the response. -/
  body : Json
  deriving Repr, BEq, Inhabited

/-- A refusal in the words of the library. -/
def Refusal.message (r : Refusal) : String :=
  if r.label.isTruthy then s!"[HTTP {r.status}] [{r.label.plainText}] {r.text.plainText}"
  else s!"[HTTP {r.status}] {r.text.plainText}"

inductive CallFailure where
  | general (text : String)
  | unreachable (text : String) (url : Option String) (cause : Option String)
  | timedOut (text : String) (timeout : Option Duration) (url : Option String)
  | refused (refusal : Refusal)
  | store (text operation : String) (cause : Option String)
  deriving Repr, BEq, Inhabited

namespace CallFailure

def name : CallFailure → String
  | general _ => "WorkspaceClientError"
  | unreachable .. => "ConnectionError"
  | timedOut .. => "TimeoutError"
  | refused r => r.kind.name
  | store .. => "ProjectStoreError"

/-- The address that a message shows, if there is one and it is not empty. -/
def shownUrl (url : Option String) : List String :=
  match url with
  | some u => if u.isEmpty then [] else [s!"url: {u}"]
  | none => []

/-- A text with what is known beside it. -/
def withExtras (text : String) (extras : List String) : String :=
  if extras.isEmpty then text else text ++ " (" ++ ", ".intercalate extras ++ ")"

def message : CallFailure → String
  | general text => text
  | unreachable text url _ => withExtras text (shownUrl url)
  | timedOut text timeout url =>
    withExtras text ((timeout.map fun t => s!"timeout: {t.text}s").toList ++ shownUrl url)
  | refused r => r.message
  | store text _ _ => text

/-- What a failure says without what is known beside it. -/
def text : CallFailure → Json
  | general text => .str text
  | unreachable text _ _ => .str text
  | timedOut text _ _ => .str text
  | refused r => r.text
  | store text _ _ => .str text

def causeFact (cause : Option String) : List (String × Json) :=
  match cause with
  | some c => [("cause", .str c)]
  | none => []

/-- What is known about a failure beside its text. -/
def facts : CallFailure → List (String × Json)
  | general _ => []
  | unreachable _ url cause => ("url", .ofText? url) :: causeFact cause
  | timedOut _ timeout url =>
    [("timeout", (timeout.map Duration.toJson).getD .null), ("url", .ofText? url)]
  | refused r =>
    [("status_code", .int r.status), ("error_type", r.label), ("details", r.details),
      ("response_body", r.body)]
  | store _ operation cause => ("operation", .str operation) :: causeFact cause

end CallFailure

end Workbench.Http
