import Workbench.Schema.Check

/-!
# Settings

How the service is set up, from variables of its environment. A variable that is empty counts as not
set.
-/

namespace Workbench

open Schema (Check optional)
open Decimal (Binary64)

/-- The settings of the service. -/
structure Settings where
  user : String
  /-- The file in which the session is persisted, if it is to be persisted. -/
  stateFile : Option String
  /-- The address of the service that stores project files, if there is one. -/
  backendUrl : Option String
  /-- How many characters are typed at once. -/
  chunkSize : Int
  /-- How many seconds pass before more are typed. -/
  chunkDelay : Binary64
  deriving Repr, DecidableEq, Inhabited

namespace Settings

/-- How many characters are typed at once unless set otherwise. -/
def defaultChunkSize : Int := 150

/-- How many seconds pass before more are typed unless set otherwise. -/
def defaultChunkDelay : Binary64 := .ofDecimal false 16 (-3)

/-- Each setting and the variable that sets it. -/
def sources : List (String × String) :=
  [("user", "WORKSPACE_USER"), ("state_file", "WORKSPACE_STATE_FILE"),
    ("backend_url", "WORKSPACE_BACKEND_URL"), ("patch_chunk_size", "WORKSPACE_PATCH_CHUNK_SIZE"),
    ("patch_chunk_delay", "WORKSPACE_PATCH_CHUNK_DELAY")]

/-- Settings from their fields. -/
def check (input : Json) : Check Settings :=
  Schema.record .value "WorkspaceSettings"
    (fun fields =>
      ((optional "user" "user" (Schema.textFrom 1) fields).both
        ((optional "state_file" none Schema.text? fields).both
          ((optional "backend_url" none Schema.text? fields).both
            ((optional "patch_chunk_size" defaultChunkSize (Schema.integerAbove 0) fields).both
              (optional "patch_chunk_delay" defaultChunkDelay Schema.numberFromZero fields))))).map
        fun (user, stateFile, backendUrl, chunkSize, chunkDelay) =>
          ⟨user, stateFile, backendUrl, chunkSize, chunkDelay⟩)
    input

/-- The settings that the variables of an environment describe. -/
def ofEnvironment (environment : List (String × String)) : Check Settings :=
  check (.obj (sources.filterMap fun (field, name) =>
    match Entries.lookup name environment with
    | some value => if value.isEmpty then none else some (field, .str value)
    | none => none))

def toJson (s : Settings) : Json :=
  .obj [("user", .str s.user), ("state_file", .ofText? s.stateFile),
    ("backend_url", .ofText? s.backendUrl), ("patch_chunk_size", .int s.chunkSize),
    ("patch_chunk_delay", .real s.chunkDelay)]

end Settings

end Workbench
