import Workbench.Text.Split

/-!
# Routes

The resources of the service and the methods with which each can be used. A path that differs from
that of a resource only by slashes at its end is told where to go; one line feed at the end of a path
does not count.
-/

namespace Workbench.Service

inductive Resource where
  | root
  | health
  | workspace
  | openProject
  | terminal
  | execute
  | clear
  | reset
  | sync
  | patches
  | parse
  | applyAll
  | apply (id : String)
  | reject (id : String)
  deriving Repr, DecidableEq, Inhabited

namespace Resource

def method : Resource → String
  | root | health | workspace | terminal | patches => "GET"
  | _ => "POST"

/-- The resource that the steps of a path lead to. -/
def ofSteps? : List String → Option Resource
  | ["", ""] => some root
  | ["", "health"] => some health
  | ["", "workspace"] => some workspace
  | ["", "workspace", "open"] => some openProject
  | ["", "terminal", "state"] => some terminal
  | ["", "terminal", "execute"] => some execute
  | ["", "terminal", "clear"] => some clear
  | ["", "terminal", "reset"] => some reset
  | ["", "terminal", "sync"] => some sync
  | ["", "patches"] => some patches
  | ["", "patches", "parse"] => some parse
  | ["", "patches", "apply-all"] => some applyAll
  | ["", "patches", id, "apply"] => if id.isEmpty then none else some (apply id)
  | ["", "patches", id, "reject"] => if id.isEmpty then none else some (reject id)
  | _ => none

def at? (path : String) : Option Resource :=
  match ofSteps? (Text.pieces '/' path) with
  | some r => some r
  | none =>
    match path.toList.reverse with
    | '\n' :: rest => ofSteps? (Text.pieces '/' (String.ofList rest.reverse))
    | _ => none

end Resource

/-- What a method and a path lead to. -/
inductive Route where
  | resource (r : Resource)
  | wrongMethod
  | elsewhere
  | nowhere
  deriving Repr, DecidableEq, Inhabited

/-- A path with a slash more at its end, or without the slashes at its end. -/
def otherSlashes (path : String) : String :=
  if path.toList.getLast? == some '/' then Text.withoutTrailingSlashes path else path ++ "/"

/-- Where a method and a path lead. -/
def Route.find (method path : String) : Route :=
  match Resource.at? path with
  | some r => if r.method == method then resource r else wrongMethod
  | none =>
    if path != "/" && (Resource.at? (otherSlashes path)).isSome then elsewhere else nowhere

end Workbench.Service
