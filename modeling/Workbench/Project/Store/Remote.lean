import Workbench.Http.Client

/-!
# Files behind a service

A store whose files are kept by a service. Every failure of a call to the service is a failure of
the store; what the service sends must be files.
-/

namespace Workbench.Project

open Http (Transport)

/-- The name that a record of a file has in messages. -/
def fileModel : String := "models.stores.ProjectFile"

/-- A file that a service sent. -/
def receivedFile (value : Json) : Except Failure File :=
  match value with
  | .obj _ => (File.check value).mapError .invalid
  | _ => .error (.notMapping fileModel value.typeName)

/-- Files that a service sent. Nothing, or an empty value, stands for no files. -/
def receivedFiles (value : Json) : Except Failure (List File) :=
  if !value.isTruthy then .ok []
  else
    match value with
    | .arr items => items.mapM receivedFile
    | .obj fields => fields.mapM fun (key, _) => receivedFile (.str key)
    | .str s => s.toList.mapM fun c => receivedFile (.str c.toString)
    | _ => .error (.part (.notIterable value.typeName))

/-- A failure of a call to the service as a failure of a store operation. -/
def storeFailure (operation : String) : Failure → Failure
  | .call f =>
    .call (.store s!"Project store {operation} failed: {f.message}" operation (some f.name))
  | f => f

namespace Remote

variable {τ : Type} [Transport τ]

/-- Sends the request of a store operation. -/
def send (client : Http.Client) (operation method path : String) (body : Option Json) (t : τ) :
    Except Failure Json × τ :=
  let (outcome, t) := client.request method path none body t
  (outcome.mapError (storeFailure operation), t)

def list (client : Http.Client) (project : String) (t : τ) : Except Failure (List File) × τ :=
  let (outcome, t) := send client "list" "GET" s!"/projects/{project}/files" none t
  (outcome.bind receivedFiles, t)

def create (client : Http.Client) (project name content language : String) (t : τ) :
    Except Failure File × τ :=
  let (outcome, t) := send client "create" "POST" s!"/projects/{project}/files"
    (some (.obj [("name", .str name), ("content", .str content), ("language", .str language)])) t
  (outcome.bind receivedFile, t)

/-- Replaces the content of a file. -/
def update (client : Http.Client) (id content : String) (t : τ) : Except Failure Unit × τ :=
  let (outcome, t) := send client "update" "PATCH" s!"/files/{id}"
    (some (.obj [("content", .str content)])) t
  (outcome.map fun _ => (), t)

/-- Deletes a file. -/
def delete (client : Http.Client) (id : String) (t : τ) : Except Failure Unit × τ :=
  let (outcome, t) := send client "delete" "DELETE" s!"/files/{id}" none t
  (outcome.map fun _ => (), t)

end Remote

end Workbench.Project
