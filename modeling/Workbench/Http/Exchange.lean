import Workbench.Duration
import Workbench.Json.Encoding
import Workbench.Json.Printer

/-!
# Exchanges

A request as the other side sees it, the response to it, and the ways in which a transport fails to
bring one. A transport can also be told to pause.

The library that sends requests decides what is behind a response: which text its bytes are, which
encoding of JSON they are in, and how deep a value it can read. Responses are taken as that library
hands them over, with the bytes and the text beside each other.
-/

namespace Workbench.Http

structure Request where
  method : String
  /-- The path without encoding and without the query. -/
  path : String
  query : List (String × String)
  body : Option Json
  deriving Repr, BEq, Inhabited

def Request.toJson (r : Request) : Json :=
  .obj [("method", .str r.method), ("path", .str r.path),
    ("query", .arr (r.query.map fun (key, value) => .ofTexts [key, value])),
    ("json", r.body.getD .null)]

structure Response where
  status : Int
  bytes : List UInt8
  /-- The text that the bytes are by the encoding that the response declares. -/
  text : String
  deriving Repr, DecidableEq, Inhabited

namespace Response

/-- A response with a text as its body, in UTF-8. -/
def ofText (status : Int) (text : String) : Response :=
  ⟨status, text.toUTF8.toList, text⟩

/-- A response with a value as its body; there is no body for `null`. -/
def ofJson (status : Int) (value : Json) : Response :=
  match value with
  | .null => ofText status ""
  | _ => ofText status value.compact

/-- Whether the request was carried out. -/
def isSuccess (r : Response) : Bool :=
  200 ≤ r.status && r.status ≤ 299

/-- Whether it is worth trying again: the other side is out of reach for the moment. -/
def isTransient (r : Response) : Bool :=
  [502, 503, 504].contains r.status

/-- The body as a value, read as deep as given. -/
def value (levels : Option Nat) (r : Response) : Except Json.LoadError Json :=
  Json.load levels r.bytes

/-- The value of the body, `null` if there is none. -/
def content (levels : Option Nat) (r : Response) : Except Json.LoadError Json :=
  if r.bytes.isEmpty then .ok .null else r.value levels

/-- The value of the body, nothing if the body is no JSON. It is an error only if the value is nested
too deep. -/
def value? (levels : Option Nat) (r : Response) : Except Json.LoadError (Option Json) :=
  match r.value levels with
  | .ok value => .ok (some value)
  | .error e => if e.isTooDeep then .error e else .ok none

end Response

/-- How a transport fails. -/
inductive TransportFault where
  | connectTimeout
  | readTimeout
  | writeTimeout
  | poolTimeout
  | connect
  | read
  | write
  | close
  | localProtocol
  | remoteProtocol
  | proxy
  | unsupportedProtocol
  | decoding
  deriving Repr, DecidableEq, Inhabited

namespace TransportFault

def name : TransportFault → String
  | connectTimeout => "ConnectTimeout"
  | readTimeout => "ReadTimeout"
  | writeTimeout => "WriteTimeout"
  | poolTimeout => "PoolTimeout"
  | connect => "ConnectError"
  | read => "ReadError"
  | write => "WriteError"
  | close => "CloseError"
  | localProtocol => "LocalProtocolError"
  | remoteProtocol => "RemoteProtocolError"
  | proxy => "ProxyError"
  | unsupportedProtocol => "UnsupportedProtocol"
  | decoding => "DecodingError"

def all : List TransportFault :=
  [connectTimeout, readTimeout, writeTimeout, poolTimeout, connect, read, write, close,
    localProtocol, remoteProtocol, proxy, unsupportedProtocol, decoding]

/-- Whether time ran out. -/
def isTimeout : TransportFault → Bool
  | connectTimeout | readTimeout | writeTimeout | poolTimeout => true
  | _ => false

/-- Whether the response never arrived; otherwise it arrived and could not be decoded. -/
def isTransport : TransportFault → Bool
  | decoding => false
  | _ => true

end TransportFault

/-- What brings requests to the other side. -/
class Transport (τ : Type) where
  /-- Sends a request and waits for the response. -/
  send : Request → τ → Except TransportFault Response × τ
  /-- Lets time pass. -/
  pause : Duration → τ → τ

/-- Another side that answers from a script: response after response, the last one again and
again. It keeps a log of what it was sent and of the pauses. -/
structure Script where
  replies : List (Except TransportFault Response)
  requests : List Request
  pauses : List Duration
  deriving Inhabited

namespace Script

/-- A script from its start. -/
def ofReplies (replies : List (Except TransportFault Response)) : Script := ⟨replies, [], []⟩

/-- The reply to the next request and the replies after it. An empty script is out of reach. -/
def next : List (Except TransportFault Response) →
    Except TransportFault Response × List (Except TransportFault Response)
  | [] => (.error .connect, [])
  | [reply] => (reply, [reply])
  | reply :: rest => (reply, rest)

end Script

instance : Transport Script where
  send request s :=
    let (reply, replies) := Script.next s.replies
    (reply, { s with replies, requests := s.requests ++ [request] })
  pause duration s := { s with pauses := s.pauses ++ [duration] }

end Workbench.Http
