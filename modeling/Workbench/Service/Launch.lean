import Workbench.Service.Handle

/-!
# Starting the service

The workspace that the settings of the service describe. If the settings name a file for the session,
the session outlives the service; otherwise it ends with it. Files that are kept in memory always do.
-/

namespace Workbench.Service

open Project (Store)

/-- The store of project files that settings describe; `made` files were created before. -/
def storeOf (settings : Settings) (made : Nat) : Except Failure Store :=
  match settings.backendUrl with
  | none => .ok (.memory { Project.Memory.empty with made })
  | some url =>
    match Http.Client.ofAddress url Http.Client.defaultTimeout true Http.Client.defaultMaxRetries with
    | .ok client => .ok (.remote client (.ofReplies []))
    | .error fault => .error (.url fault)

/-- A service that is started with the given settings. -/
def launch (clock : Clock) (limits : Limits) (settings : Settings) (storage : Storage) (madeFiles madePatches : Nat) :
    Except Failure Server :=
  (storeOf settings madeFiles).map fun store =>
    ⟨clock, limits, some (.start storage settings.user store (some (.empty none)) settings.chunkSize
      madePatches)⟩

/-- The service after it is shut down and started again. -/
def relaunch (settings : Settings) (s : Server) : Except Failure Server :=
  match s.workspace with
  | none => launch s.clock s.limits settings .empty 0 0
  | some w =>
    let storage := if settings.stateFile.isSome then w.session.storage else .empty
    let madeFiles :=
      match w.review.store with
      | .memory held => held.made
      | .remote _ _ => 0
    launch s.clock s.limits settings storage madeFiles w.review.made

end Workbench.Service
