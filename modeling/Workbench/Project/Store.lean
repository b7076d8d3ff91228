import Workbench.Project.Store.Memory
import Workbench.Project.Store.Remote

/-!
# Stores of project files

The authority on the files of projects: files in memory, or files behind a service.
-/

namespace Workbench.Project

/-- A store of project files. -/
inductive Store where
  | memory (held : Memory)
  | remote (client : Http.Client) (wire : Http.Script)
  deriving Inhabited

namespace Store

def list (project : String) : Store → Except Failure (List File) × Store
  | memory held => let (r, held) := held.list project; (r, memory held)
  | remote client wire => let (r, wire) := Remote.list client project wire; (r, remote client wire)

def create (project name content language : String) : Store → Except Failure File × Store
  | memory held => let (r, held) := held.create project name content language; (r, memory held)
  | remote client wire =>
    let (r, wire) := Remote.create client project name content language wire
    (r, remote client wire)

/-- Replaces the content of a file. -/
def update (id content : String) : Store → Except Failure Unit × Store
  | memory held => let (r, held) := held.update id content; (r, memory held)
  | remote client wire =>
    let (r, wire) := Remote.update client id content wire
    (r, remote client wire)

/-- Deletes a file. -/
def delete (id : String) : Store → Except Failure Unit × Store
  | memory held => let (r, held) := held.delete id; (r, memory held)
  | remote client wire => let (r, wire) := Remote.delete client id wire; (r, remote client wire)

/-- Whether others go first before an operation. -/
def isSlow (operation : Operation) : Store → Bool
  | memory held => held.slow operation
  | remote _ _ => false

/-- The calls that were made, as far as they are logged. -/
def calls : Store → List Call
  | memory held => held.calls
  | remote _ _ => []

/-- Adds a file to a store in memory. -/
def seed (project name content language : String) : Store → Option File × Store
  | memory held =>
    let (file, held) := held.seed project name content language
    (some file, memory held)
  | store => (none, store)

end Store

end Workbench.Project
