import Workbench.Http.Explanation

/-!
# Clients

A client sends requests to a service below one address. If it may try again, it does so after a
pause when the service is out of reach or says that it is for the moment; all other responses are
final.

How a request is made ready (`Client.prepare`, `Client.queryOf`) is up to the library that sends it.
So is `Client.levels`: whether a value nested deeper can be read depends on the stack that is left.
-/

namespace Workbench.Http

open Schema (Fields)

/-- How requests are sent to a service. -/
structure Client where
  /-- The address of the service as it was given. -/
  address : String
  /-- The address below which requests go. -/
  root : Url
  timeout : Duration
  /-- Whether a failed request is tried again. -/
  retries : Bool
  /-- How often it is tried again. -/
  maxRetries : Int
  /-- How deep the value of a response may be nested, if that is limited. -/
  levels : Option Nat
  deriving Repr, Inhabited

namespace Client

/-- The timeout unless another one is given. -/
def defaultTimeout : Duration := .real (.ofInt 30)

/-- How often a request is tried again unless something else is given. -/
def defaultMaxRetries : Int := 3

/-- A client of the service at an address. -/
def ofAddress (address : String) (timeout : Duration) (retries : Bool) (maxRetries : Int)
    (levels : Option Nat := none) : Except UrlFault Client := do
  let root ← (← Url.parse (Text.withoutTrailingSlashes address)).asDirectory
  pure ⟨address, root, timeout, retries, maxRetries, levels⟩

/-- The address of the service without slashes at its end. -/
def baseAddress (c : Client) : String :=
  Text.withoutTrailingSlashes c.address

/-- How many attempts are made. -/
def attempts (c : Client) : Int :=
  if c.retries then c.maxRetries + 1 else 1

/-- The value of a parameter as text. -/
def parameterText : Json → String
  | .null => ""
  | .bool b => if b then "true" else "false"
  | j => j.plainText

/-- The parameters of a request as a query: those without a value are left out, and one with a list
of values is given once for each. -/
def queryOf (parameters : Fields) : List (String × String) :=
  parameters.flatMap fun (key, value) =>
    match value with
    | .null => []
    | .arr items => items.map fun item => (key, parameterText item)
    | v => [(key, parameterText v)]

/-- The request for a path below the address of the service. Parameters replace the query of the
path. -/
def prepare (c : Client) (method path : String) (parameters : Option Fields) (body : Option Json) :
    Except UrlFault Request := do
  let url ← c.root.join (← Url.parse path)
  let query :=
    match parameters with
    | some fields => queryOf fields
    | none => url.queryItems
  pure ⟨method.toUpper, url.plainPath, query, body⟩

/-- The failure that a fault of the transport amounts to. -/
def failureOf (c : Client) (path : String) (fault : TransportFault) : Failure :=
  let url := c.baseAddress ++ path
  if !fault.isTransport then .undecodable
  else if fault.isTimeout then
    .call (.timedOut s!"Request to {url} timed out" (some c.timeout) (some url))
  else .call (.unreachable s!"Failed to connect to {url}" (some url) (some fault.name))

/-- Whether another attempt may help after a reply. -/
def isPassing : Except TransportFault Response → Bool
  | .error fault => fault.isTransport
  | .ok response => response.isTransient

/-- What a reply brings when it is final. -/
def outcome (c : Client) (path : String) : Except TransportFault Response → Except Failure Json
  | .error fault => .error (c.failureOf path fault)
  | .ok response => response.outcome c.levels

variable {τ : Type} [Transport τ]

/-- Sends a request, and again up to `left` times; `attempt` counts the attempts before. -/
def attemptFrom (c : Client) (path : String) (request : Request) (attempt : Nat) :
    Nat → τ → Except Failure Json × τ
  | 0, t =>
    let (reply, t) := Transport.send request t
    (c.outcome path reply, t)
  | left + 1, t =>
    let (reply, t) := Transport.send request t
    if isPassing reply then
      match Backoff.delay (.real Backoff.standardBase) attempt with
      | .ok pause => attemptFrom c path request (attempt + 1) left (Transport.pause pause t)
      | .error fault => (.error (.backoff fault), t)
    else (c.outcome path reply, t)

/-- Sends a request and brings the value of the response. -/
def request (c : Client) (method path : String) (parameters : Option Fields) (body : Option Json)
    (t : τ) : Except Failure Json × τ :=
  match c.attempts.toNat with
  | 0 => (.error .noAttempt, t)
  | left + 1 =>
    match c.prepare method path parameters body with
    | .error fault => (.error (.url fault), t)
    | .ok request => c.attemptFrom path request 0 left t

/-- Asks for a resource. -/
def get (c : Client) (path : String) (t : τ) : Except Failure Json × τ :=
  c.request "GET" path none none t

/-- Sends a value, if there is one, to a resource. -/
def post (c : Client) (path : String) (body : Option Json) (t : τ) : Except Failure Json × τ :=
  c.request "POST" path none body t

end Client

end Workbench.Http
