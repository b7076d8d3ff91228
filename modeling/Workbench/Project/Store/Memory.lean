import Workbench.Failure

/-!
# Files in memory

A store that keeps project files in memory and a log of the calls that were made. Files are listed
in the order in which they were created; ids are given out in that order and never again.

A store may refuse calls: which ones is a function of the calls before and the call itself. A
refused call is logged and changes nothing. A store may also be slow, which lets others go first
before a call is carried out.
-/

namespace Workbench.Project

inductive Operation where
  | list
  | create
  | update
  | delete
  deriving Repr, DecidableEq, Inhabited

def Operation.name : Operation → String
  | list => "list"
  | create => "create"
  | update => "update"
  | delete => "delete"

inductive Call where
  | list (project : String)
  | create (project name content language : String)
  | update (id content : String)
  | delete (id : String)
  deriving Repr, DecidableEq, Inhabited

namespace Call

def operation : Call → Operation
  | list _ => .list
  | create .. => .create
  | update .. => .update
  | delete _ => .delete

/-- Whether the call changes what is stored. -/
def isWrite : Call → Bool
  | list _ => false
  | _ => true

/-- A call as it is logged: without contents. -/
def toJson : Call → Json
  | list project => .ofTexts ["list", project]
  | create project name _ _ => .ofTexts ["create", project, name]
  | update id _ => .ofTexts ["update", id]
  | delete id => .ofTexts ["delete", id]

end Call

structure Memory where
  /-- Every file with the project to which it belongs, in the order of creation. -/
  held : List (String × File)
  /-- How many files were ever created. -/
  made : Nat
  /-- The calls that were made. -/
  calls : List Call
  /-- Why a call is refused after the given calls, if it is. -/
  refusal : List Call → Call → Option Failure
  /-- Whether others go first before an operation. -/
  slow : Operation → Bool

namespace Memory

/-- A store without files that never refuses and is never slow. -/
def empty : Memory := ⟨[], 0, [], fun _ _ => none, fun _ => false⟩

instance : Inhabited Memory := ⟨empty⟩

/-- The id of the `n`-th file. -/
def fileId (n : Nat) : String := s!"file-{n}"

def listing (m : Memory) (project : String) : List File :=
  (m.held.filter (·.1 == project)).map (·.2)

/-- Whether there is a file with an id. -/
def holds (m : Memory) (id : String) : Bool :=
  m.held.any (·.2.id == id)

/-- Adds a file without logging a call. An empty language stands for that of the name. -/
def seed (m : Memory) (project name content language : String) : File × Memory :=
  let language := if language.isEmpty then languageOf name else language
  let file := ⟨fileId (m.made + 1), name, content, language⟩
  (file, { m with held := m.held ++ [(project, file)], made := m.made + 1 })

/-- Logs a call and carries it out unless it is refused. -/
def attempt {α : Type} (m : Memory) (call : Call) (act : Memory → Except Failure α × Memory) :
    Except Failure α × Memory :=
  let logged := { m with calls := m.calls ++ [call] }
  match m.refusal m.calls call with
  | some failure => (.error failure, logged)
  | none => act logged

def list (m : Memory) (project : String) : Except Failure (List File) × Memory :=
  m.attempt (.list project) fun m => (.ok (m.listing project), m)

def create (m : Memory) (project name content language : String) : Except Failure File × Memory :=
  m.attempt (.create project name content language) fun m =>
    let (file, m) := m.seed project name content language
    (.ok file, m)

/-- Replaces the content of a file. -/
def update (m : Memory) (id content : String) : Except Failure Unit × Memory :=
  m.attempt (.update id content) fun m =>
    if m.holds id then
      (.ok (), { m with
        held := m.held.map fun (project, f) =>
          (project, if f.id == id then { f with content } else f) })
    else (.error (.noFile id), m)

/-- Deletes a file. -/
def delete (m : Memory) (id : String) : Except Failure Unit × Memory :=
  m.attempt (.delete id) fun m =>
    if m.holds id then (.ok (), { m with held := m.held.filter (·.2.id != id) })
    else (.error (.noFile id), m)

end Memory

end Workbench.Project
