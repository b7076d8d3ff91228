import Workbench.Text.Blank
import Workbench.Text.Quoted
import Workbench.Text.Split
import Workbench.Text.Utf8
import Workbench.Text.Lowercase
import Workbench.Json.Reader

/-!
# Addresses

An address has a scheme, an authority, a path and a query. Characters that cannot stand in an
address are written as the bytes of their UTF-8 form, each with a percent sign and two digits;
`path` and `query` are kept in that form. A fragment is dropped.

`Url.join` puts an address that has no scheme and host below another one.

None of this is decided by the workbench, which only hands addresses to the library that sends its
requests: what an address is, how it is encoded and how a fault in it is worded are up to that
library. The module follows it as far as the client goes.
-/

namespace Workbench.Http

open Text (splitOn)

/-- What is wrong with an address. -/
inductive UrlFault where
  | tooLong
  | control (c : Char) (position : Nat)
  | portNumber (text : String)
  | ipv4 (host : String)
  | rootlessPath
  | doubleSlash
  | leadingColon
  deriving Repr, DecidableEq

def UrlFault.message : UrlFault → String
  | .tooLong => "URL too long"
  | .control c position =>
    s!"Invalid non-printable ASCII character in URL, {Text.quoted c.toString} at position " ++
      s!"{position}."
  | .portNumber text => s!"Invalid port: {Text.quoted text}"
  | .ipv4 host => s!"Invalid IPv4 address: {Text.quoted host}"
  | .rootlessPath => "For absolute URLs, path must be empty or begin with '/'"
  | .doubleSlash => "Relative URLs cannot have a path starting with '//'"
  | .leadingColon => "Relative URLs cannot have a path starting with ':'"

/-- An address. -/
structure Url where
  scheme : String
  userInfo : String
  host : String
  portNumber : Option String
  /-- The path in its encoded form. -/
  path : String
  /-- The query in its encoded form. -/
  query : Option String
  deriving Repr, DecidableEq, Inhabited

namespace Url

/-- The greatest length of an address. -/
def maxLength : Nat := 65536

/-! ## Characters -/

/-- Whether a character stands for itself in a query. -/
def isQueryChar (c : Char) : Bool :=
  0x20 < c.toNat && c.toNat < 0x7F && c != '"' && c != '#' && c != '<' && c != '>'

/-- Whether a character stands for itself in a path. -/
def isPathChar (c : Char) : Bool :=
  isQueryChar c && c != '?' && c != '\x60' && c != '\x7b' && c != '\x7d'

/-- A digit of the hexadecimal form of a byte. -/
def upperHex (n : Nat) : Char :=
  (Nat.digitChar n).toUpper

/-- The bytes of a character, each with a percent sign. -/
def encodedChar (c : Char) : List Char :=
  c.toString.toUTF8.toList.flatMap fun b => ['%', upperHex (b.toNat / 16), upperHex (b.toNat % 16)]

/-- Writes a text in encoded form. What is encoded already stays as it is. -/
def encode (safe : Char → Bool) : List Char → List Char
  | [] => []
  | '%' :: a :: b :: rest =>
    if (Json.hexValue? a).isSome && (Json.hexValue? b).isSome then
      '%' :: a :: b :: encode safe rest
    else '%' :: encode safe (a :: b :: rest)
  | c :: rest => (if safe c then [c] else encodedChar c) ++ encode safe rest

/-- The bytes of a text in encoded form. -/
def decodedBytes : List Char → List UInt8
  | [] => []
  | '%' :: a :: b :: rest =>
    match Json.hexValue? a, Json.hexValue? b with
    | some x, some y => UInt8.ofNat (x * 16 + y) :: decodedBytes rest
    | _, _ => 0x25 :: decodedBytes (a :: b :: rest)
  | c :: rest => c.toString.toUTF8.toList ++ decodedBytes rest

/-- The text that an encoded text stands for. -/
def decode (text : String) : String :=
  String.ofList (Text.Utf8.decodeLossy (decodedBytes text.toList))

/-! ## Paths -/

/-- Drops the steps `.` and resolves the steps `..` of a path; `kept` holds the steps so far, last
first. -/
def resolveSteps (kept : List (List Char)) : List (List Char) → List (List Char)
  | [] => kept.reverse
  | step :: rest =>
    if step == ['.'] then resolveSteps kept rest
    else if step == ['.', '.'] then
      -- the empty step in front of the first slash is the root, which has nothing above it
      resolveSteps (if kept == [[]] then kept else kept.drop 1) rest
    else resolveSteps (step :: kept) rest

/-- A path without the steps `.` and `..`. -/
def normalizePath (path : List Char) : List Char :=
  let steps := splitOn '/' path
  if steps.contains ['.'] || steps.contains ['.', '.'] then
    ['/'].intercalate (resolveSteps [] steps)
  else path

/-! ## Reading -/

/-- The scheme at the start of an address and the text after its colon. -/
def splitScheme (cs : List Char) : List Char × List Char :=
  let isPart (c : Char) : Bool :=
    Text.isAsciiLetter c || Text.isAsciiDigit c || "+.-".toList.contains c
  let scheme := cs.takeWhile isPart
  match cs.drop scheme.length, scheme with
  | ':' :: rest, [] => ([], rest)
  | ':' :: rest, c :: _ => if Text.isAsciiLetter c then (scheme, rest) else ([], cs)
  | _, _ => ([], cs)

/-- The authority of an address and the text after it. -/
def splitAuthority : List Char → List Char × List Char
  | '/' :: '/' :: rest =>
    let isPart (c : Char) : Bool := c != '/' && c != '?' && c != '#'
    (rest.takeWhile isPart, rest.dropWhile isPart)
  | cs => ([], cs)

/-- The path and the query of the rest of an address. -/
def splitPath (cs : List Char) : List Char × Option (List Char) :=
  let isPart (c : Char) : Bool := c != '?' && c != '#'
  match cs.dropWhile isPart with
  | '?' :: rest => (cs.takeWhile isPart, some (rest.takeWhile (· != '#')))
  | _ => (cs.takeWhile isPart, none)

/-- An authority in its parts: user information, host and what follows the host's colon. -/
def splitHost (authority : List Char) : List Char × List Char × List Char :=
  let back := authority.reverse
  let server := (back.takeWhile (· != '@')).reverse
  let user := ((back.dropWhile (· != '@')).drop 1).reverse
  let (host, rest) :=
    match server with
    | '[' :: _ =>
      -- colons between brackets belong to the host
      let inner := (server.reverse.dropWhile (· != ']')).reverse
      if inner.isEmpty then (server.takeWhile (· != ':'), server.dropWhile (· != ':'))
      else (inner, server.drop inner.length)
    | _ => (server.takeWhile (· != ':'), server.dropWhile (· != ':'))
  (user, host, match rest with
    | ':' :: number => number
    | number => number)

/-- Whether what follows a host's colon is a number. -/
def isPortNumber (cs : List Char) : Bool :=
  let digits :=
    match Text.trim cs with
    | '-' :: ds => ds
    | '+' :: ds => ds
    | ds => ds
  !digits.isEmpty && digits.all Text.isDecimal

/-- Whether digits are one of the four numbers of an address of version four. -/
def isOctet (digits : List Char) : Bool :=
  digits.length ≤ 3 && (digits.length == 1 || digits.head? != some '0') &&
    digits.foldl (fun n c => n * 10 + (c.toNat - 48)) 0 ≤ 255

/-- Whether a host consists of four numbers. -/
def looksNumeric (host : List Char) : Bool :=
  let parts := splitOn '.' host
  parts.length == 4 && parts.all fun p => !p.isEmpty && p.all Text.isAsciiDigit

/-- Checks that a path can follow what stands in front of it. -/
def checkPath (hasScheme hasAuthority : Bool) (path : List Char) : Except UrlFault Unit :=
  if hasAuthority then
    if path.isEmpty || path.head? == some '/' then .ok () else .error .rootlessPath
  else if hasScheme then .ok ()
  else
    match path with
    | '/' :: '/' :: _ => .error .doubleSlash
    | ':' :: _ => .error .leadingColon
    | _ => .ok ()

/-- The address with the given parts, of which path and query are not encoded yet. -/
def ofParts (u : Url) (path : List Char) (query : Option (List Char)) : Except UrlFault Url := do
  let hasScheme := !u.scheme.isEmpty
  let hasAuthority := !u.userInfo.isEmpty || !u.host.isEmpty || u.portNumber.isSome
  checkPath hasScheme hasAuthority path
  let path := if hasScheme || hasAuthority then normalizePath path else path
  pure { u with
    path := String.ofList (encode isPathChar path)
    query := query.map fun q => String.ofList (encode isQueryChar q) }

/-- The first control character of a text and its position. -/
def control? (cs : List Char) : Option (Char × Nat) :=
  (cs.zipIdx).find? fun (c, _) => c.toNat < 0x20 || c.toNat == 0x7F

/-- Reads an address. -/
def parse (text : String) : Except UrlFault Url := do
  let cs := text.toList
  if maxLength < cs.length then throw .tooLong
  if let some (c, position) := control? cs then throw (.control c position)
  let (scheme, rest) := splitScheme cs
  let (authority, rest) := splitAuthority rest
  let (path, query) := splitPath rest
  let (user, host, number) := splitHost authority
  if looksNumeric host && !(splitOn '.' host).all isOctet then
    throw (.ipv4 (String.ofList host))
  if !number.isEmpty && !isPortNumber number then throw (.portNumber (String.ofList number))
  ofParts
    { scheme := Text.lower (String.ofList scheme), userInfo := String.ofList user,
      host := Text.lower (String.ofList host),
      portNumber := if number.isEmpty then none else some (String.ofList number),
      path := "", query := none }
    path query

/-- Whether the address can stand alone. -/
def isAbsolute (u : Url) : Bool :=
  !u.scheme.isEmpty && !u.host.isEmpty

/-- The path and the query as they are sent. -/
def target (u : Url) : String :=
  let path := if u.path.isEmpty then "/" else u.path
  match u.query with
  | none => path
  | some q => path ++ "?" ++ q

/-- The address with another path and query. -/
def withTarget (u : Url) (target : String) : Except UrlFault Url :=
  let cs := target.toList
  let path := cs.takeWhile (· != '?')
  match cs.drop path.length with
  | _ :: query => ofParts u path (some query)
  | [] => ofParts u path none

/-- The address with a slash at the end of its target. -/
def asDirectory (u : Url) : Except UrlFault Url :=
  if u.target.toList.getLast? == some '/' then .ok u else u.withTarget (u.target ++ "/")

/-- The address that another one names when seen from this one. -/
def join (u other : Url) : Except UrlFault Url :=
  if other.isAbsolute then .ok other
  else
    u.withTarget (u.target ++ String.ofList (other.target.toList.dropWhile (· == '/')))

/-- The path as text. -/
def plainPath (u : Url) : String :=
  decode (if u.path.isEmpty then "/" else u.path)

/-! ## Queries -/

/-- A part of a query as text; a plus sign stands for a blank. -/
def decodeField (cs : List Char) : String :=
  decode (String.ofList (cs.map fun c => if c == '+' then ' ' else c))

/-- The keys and values of a query in order. -/
def fields (query : String) : List (String × String) :=
  (splitOn '&' query.toList).filterMap fun field =>
    if field.isEmpty then none
    else
      let key := field.takeWhile (· != '=')
      some (decodeField key, decodeField (field.drop (key.length + 1)))

/-- Entries with those of one key side by side, at the place of the first of them. -/
def grouped : List (String × String) → List (String × List String)
  | [] => []
  | (key, value) :: rest =>
    let others := grouped rest
    let same := (Entries.lookup key others).getD []
    (key, value :: same) :: Entries.erase key others

/-- The keys and values of the query of an address, those of one key side by side. -/
def queryItems (u : Url) : List (String × String) :=
  (grouped (fields (u.query.getD ""))).flatMap fun (key, values) => values.map fun v => (key, v)

end Url

end Workbench.Http
