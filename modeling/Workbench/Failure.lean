import Workbench.Schema.Issue
import Workbench.Http.CallFailure
import Workbench.Http.Backoff
import Workbench.Http.Url
import Workbench.Patch.Completion

/-!
# Failures

Everything that can make an operation of the workbench fail, with the class of each failure and its
wording. Classes are shown to clients of the service beside the wording.
-/

namespace Workbench

/-- Why a part of a value cannot be taken out of it. -/
inductive PartFault where
  | noItem
  | noCharacter
  | noKey (key : String)
  | notIndexable (typeName : String)
  | notIterable (typeName : String)
  deriving Repr, DecidableEq

/-- The classes of failures with which a store of project files refuses a call. -/
inductive RefusalKind where
  | run
  | key
  | value
  | system
  deriving Repr, DecidableEq, Inhabited

inductive Failure where
  /-- No project is open. -/
  | noProject
  /-- There is no item at an index. -/
  | noItem
  /-- The store has no file with the id. -/
  | noFile (id : String)
  /-- The store refused a call. -/
  | refused (kind : RefusalKind) (text : String)
  /-- Text cannot be typed in chunks of the given size. -/
  | chunk (fault : Patch.ChunkFault)
  /-- Data does not have the form it should have. -/
  | invalid (issues : List Schema.Issue)
  /-- What should be a record is no mapping. -/
  | notMapping (model typeName : String)
  /-- A part of a value is missing. -/
  | part (fault : PartFault)
  /-- A call to a service failed. -/
  | call (failure : Http.CallFailure)
  /-- A response holds no JSON, or none that can be read. -/
  | unreadable (error : Json.LoadError)
  /-- A response could not be decoded. -/
  | undecodable
  /-- An address cannot be used. -/
  | url (fault : Http.UrlFault)
  /-- A pause would be too long. -/
  | backoff (fault : Http.Backoff.Overflow)
  /-- The tree of a session is nested too deep to be written. -/
  | unwritable
  /-- No attempt was made at all. -/
  | noAttempt
  /-- The service was not started. -/
  | notStarted
  deriving Repr

def RefusalKind.className : RefusalKind → String
  | run => "RuntimeError"
  | key => "KeyError"
  | value => "ValueError"
  | system => "OSError"

namespace Failure

def className : Failure → String
  | noProject => "RuntimeError"
  | noItem => "IndexError"
  | noFile _ => "KeyError"
  | refused kind _ => kind.className
  | chunk _ => "ValueError"
  | invalid _ => "ValidationError"
  | notMapping _ _ => "TypeError"
  | part fault =>
    match fault with
    | .noItem => "IndexError"
    | .noCharacter => "IndexError"
    | .noKey _ => "KeyError"
    | .notIndexable _ => "TypeError"
    | .notIterable _ => "TypeError"
  | call failure => failure.name
  | unreadable error =>
    match error with
    | .malformed _ _ => "UnicodeDecodeError"
    | .unread e =>
      match e.fault with
      | .tooManyDigits _ => "ValueError"
      | .tooDeep _ => "RecursionError"
      | _ => "JSONDecodeError"
  | undecodable => "DecodingError"
  | url _ => "InvalidURL"
  | backoff _ => "OverflowError"
  | unwritable => "PydanticSerializationError"
  | noAttempt => "RuntimeError"
  | notStarted => "RuntimeError"

/-- Whether a failure is about a value that is not allowed. -/
def isValueError : Failure → Bool
  | refused kind _ => kind = .value
  | chunk _ => true
  | unreadable error => !error.isTooDeep
  | unwritable => true
  | _ => false

/-- Whether a failure is one of running, for which nobody in particular is to blame. -/
def isRuntimeError : Failure → Bool
  | noProject | noAttempt | notStarted => true
  | refused kind _ => kind = .run
  | unreadable error => error.isTooDeep
  | _ => false

/-- The wording of a failure. The words of a missing key are quoted. -/
def message : Failure → String
  | noProject => "No project is open"
  | noItem => "list index out of range"
  | noFile id => Text.quoted s!"File '{id}' not found"
  | refused kind text => if kind = .key then Text.quoted text else text
  | chunk fault => fault.message
  | invalid issues => s!"{issues.length} validation errors"
  | notMapping model typeName =>
    s!"{model}() argument after ** must be a mapping, not {typeName}"
  | part fault =>
    match fault with
    | .noItem => "list index out of range"
    | .noCharacter => "string index out of range"
    | .noKey key => key
    | .notIndexable typeName => s!"'{typeName}' object is not subscriptable"
    | .notIterable typeName => s!"'{typeName}' object is not iterable"
  | call failure => failure.message
  | unreadable error => error.message
  | undecodable => "failed"
  | url fault => fault.message
  | backoff fault => fault.message
  | unwritable =>
    "Error serializing to JSON: ValueError: Circular reference detected (depth exceeded)"
  | noAttempt => "Unexpected error in request retry loop"
  | notStarted => "Workspace not initialized. Call initialize_workspace() first."

end Failure

end Workbench
