import Workbench.Proofs.Service.Refusals
import Workbench.Proofs.Service.Routing
import Workbench.Proofs.Session.Persistence
import Workbench.Proofs.Workspace.InStep

/-!
# Every request is answered, or refused without effect

A service starts over a store in memory that refuses nothing. Whatever requests it has handled, its
workspace is in step with the store, so that the store fails no action: an action answers, or it
refuses before anything has changed, or it has its effect and cannot persist the session, whose tree
is too deep (`Settles`).

`handle_total_atomic` says what that means for whoever sends the requests. A request of a resource
is answered with 200, or refused with 404, 409 or 422, and a refused request leaves everything as it
was. There are four exceptions. A body that cannot be decoded is refused with 400. So is one with a
NaN or an infinity: the intended reply would repeat the body, which JSON cannot express, and a value
that is not allowed means 400 (`handle_nan_line`). A body that is nested deeper than a reply can
repeat is refused with 500. And a request that leads to a tree which is too deep to be persisted
fails with 400, but has its effect.
-/

namespace Workbench.Service

open Project (Memory)
open Schema (Check Fields Issue)
open Workspace (Succeeds)

/-! ## Actions -/

/-- How actions refuse. What is wrong with a body is wrong with a part of it. -/
inductive Declines (body : Option Json) : Refused → Prop
  | noProject (purpose : String) : Declines body (.noProject purpose)
  | noPatch (id : String) (pending : List String) : Declines body (.noPatch id pending)
  | badBody {issues : List Issue} : (∀ issue ∈ issues, IsPart (body.getD .null) issue.input) →
      Declines body (.badBody issues)

/-- What becomes of a workspace: an answer leaves it in step, and a refusal as it was. It is also in
step, but changed, if the session cannot be persisted. -/
inductive Settles (body : Option Json) (w : Workspace) : Except Refused Json × Workspace → Prop
  | answers {answer : Json} {w' : Workspace} : w'.InStep → Settles body w (.ok answer, w')
  | declines {refused : Refused} : Declines body refused → Settles body w (.error refused, w)
  | unsaved {w' : Workspace} : w'.InStep → w'.session.Unsaved →
      Settles body w (.error (.failed .unwritable), w')

section Actions

variable {body : Option Json} {w : Workspace} {act : Action}

/-- What succeeds on the workspace settles the request. -/
theorem settles_attempt {α : Type} {act : Workspace → Except Failure α × Workspace}
    (succeeds : Succeeds (act w)) (f : α → Workspace → Json) :
    Settles body w (Action.attempt act f w) := by
  obtain ⟨a, w', done, inStep⟩ := succeeds
  rw [Action.attempt, done]
  exact .answers inStep

/-- An action that persists the session at its end settles if it settles without that, and what it
takes back leaves the workspace in step. -/
theorem settles_persistingElse {back : Workspace → Workspace → Workspace}
    (settles : Settles body w (act w))
    (h : ∀ w' : Workspace, w'.InStep → (back w w').InStep ∧ (back w w').session = w'.session) :
    Settles body w (act.persistingElse back w) := by
  unfold Action.persistingElse
  generalize act w = outcome at settles
  cases settles with
  | @answers answer w' inStep =>
    dsimp only
    split
    · exact .answers inStep
    next failure failed =>
      obtain ⟨rfl, deep⟩ := Session.unsaved?_eq_some_iff.mp failed
      obtain ⟨inStep', same⟩ := h w' inStep
      exact .unsaved inStep' (same ▸ deep)
  | declines declines => exact .declines declines
  | unsaved inStep deep => exact .unsaved inStep deep

/-- An action that settles may have its effect persisted. -/
theorem Settles.persisting (h : Settles body w (act w)) : Settles body w (act.persisting w) :=
  settles_persistingElse h fun _ inStep => ⟨inStep, rfl⟩

/-- Whether patches wait on does not matter to the store. -/
theorem Settles.applying (h : Settles body w (act w)) : Settles body w (act.applying w) :=
  settles_persistingElse h fun _ ⟨m, inStep⟩ => ⟨⟨m, inStep.of_eq rfl rfl rfl rfl⟩, rfl⟩

/-- Without an open project the request is declined, and nothing is done. -/
theorem settles_withProject {purpose : String}
    (h : ∀ project, w.review.project = some project → Settles body w (act w)) :
    Settles body w (Action.withProject purpose act w) := by
  unfold Action.withProject
  cases opened : w.review.project with
  | none => exact .declines (.noProject purpose)
  | some project => exact h project opened

/-- So it is if no patch has the id. -/
theorem settles_withPatch {id : String} {act : Patch → Action}
    (h : ∀ patch, Settles body w (act patch w)) :
    Settles body w (Action.withPatch id act w) := by
  unfold Action.withPatch
  cases w.review.find? id with
  | none => exact .declines (.noPatch id _)
  | some patch => exact h patch

/-- So it is if the body is not what it should be. -/
theorem settles_withBody {α : Type} {check : Fields → Check α} {act : α → Action}
    (blames : BlamesParts check) (h : ∀ a, Settles body w (act a w)) :
    Settles body w (Action.withBody check body act w) := by
  unfold Action.withBody
  cases checked : checkBody check body with
  | ok a => exact h a
  | error refused =>
    obtain ⟨issues, rfl, parts⟩ := checkBody_eq_error blames checked
    exact .declines (.badBody parts)

/-- A line is carried out, unless it is the line itself that makes the tree too deep. -/
theorem settles_carryOut (inStep : w.InStep) (clock : Clock) (line : String)
    (f : Option Shell.Result → Workspace → Json) :
    Settles body w (Action.carryOut clock line f w) := by
  have carried : Settles body w (Action.attempt (Workspace.execute clock line) f w) :=
    settles_attempt (inStep.execute clock line) f
  unfold Action.carryOut
  split
  · exact carried
  · split
    · exact carried.persisting
    next failure failed =>
      obtain ⟨rfl, deep⟩ := Session.unsaved?_eq_some_iff.mp failed
      exact .unsaved (inStep.session _) deep

/-- **Every action settles.** Where the store could fail it the action asks for an open project
first, and then it succeeds. -/
theorem action_settles (inStep : w.InStep) (clock : Clock) (body : Option Json) (r : Resource) :
    Settles body w (action clock body r w) := by
  cases r with
  | root | health | workspace | terminal | patches => exact .answers inStep
  | openProject =>
    exact settles_withBody blamesParts_projectBody fun (id, name) =>
      (settles_attempt (inStep.openProject id name) _).persisting
  | execute =>
    exact settles_withBody blamesParts_lineBody fun line => settles_carryOut inStep clock line _
  | clear => exact Settles.persisting (.answers (inStep.session _))
  | reset => exact Settles.persisting (.answers inStep.resetTerminal)
  | sync =>
    exact settles_withProject fun project opened =>
      (settles_attempt (inStep.refresh opened) _).persisting
  | parse =>
    exact settles_withBody blamesParts_completionBody fun text =>
      settles_withProject fun _ _ => .answers (inStep.parse text)
  | applyAll =>
    exact settles_withProject fun project opened =>
      (settles_attempt (inStep.applyAll opened) _).applying
  | apply id =>
    exact settles_withProject fun project opened =>
      settles_withPatch fun patch => (settles_attempt (inStep.applyPatch opened patch) _).applying
  | reject id =>
    exact settles_withPatch fun patch => .answers (inStep.rejectPatch patch)

end Actions

/-! ## Bodies that are refused otherwise -/

/-- A body that cannot be decoded. -/
inductive Content.Undecodable (limits : Limits) (c : Content) : Prop
  /-- It is no JSON, and its bytes are no text. -/
  | text {m : Text.Utf8.Malformed} : isJsonType c.type = false → Text.Utf8.decode c.bytes = .error m →
      Undecodable limits c
  /-- It is JSON, and its bytes are no text. -/
  | bytes {encoding : Json.Encoding} {m : Text.Utf8.Malformed} : isJsonType c.type = true →
      Json.load limits.reading c.bytes = .error (.malformed encoding m) → Undecodable limits c
  /-- It is JSON, and has an integer of too many digits. -/
  | integer {e : Json.ReadError} {digits : ℕ} : isJsonType c.type = true →
      Json.load limits.reading c.bytes = .error (.unread e) → e.fault = .tooManyDigits digits →
      Undecodable limits c
  /-- It is JSON, and nested deeper than can be read. -/
  | nested {e : Json.ReadError} {collection : Json.Collection} : isJsonType c.type = true →
      Json.load limits.reading c.bytes = .error (.unread e) → e.fault = .tooDeep collection →
      Undecodable limits c

/-- A body with a NaN or an infinity in it, which no reply can repeat. -/
def Content.Unrepeatable (limits : Limits) (c : Content) : Prop :=
  ∃ value, readBody limits.reading (some c) = .ok (some value) ∧ isPlain value = false

/-- A body that is nested deeper than a reply can repeat. -/
def Content.Overnested (limits : Limits) (c : Content) : Prop :=
  ∃ value, readBody limits.reading (some c) = .ok (some value) ∧
    ∃ n ∈ limits.writing, n < Json.nesting false value

/-- The statuses with which requests are refused whatever their bodies are. -/
def refusals : Route → List Int
  | .resource _ => [404, 409, 422]
  | .wrongMethod => [405]
  | .elsewhere => [307]
  | .nowhere => [404]

/-- The statuses with which a request is refused, with the bodies that 400 and 500 need. -/
inductive Permits (limits : Limits) (route : Route) (content : Option Content) : Int → Prop
  | refusal {status : Int} : status ∈ refusals route → Permits limits route content status
  | undecodable {c : Content} : c ∈ content → c.Undecodable limits →
      Permits limits route content 400
  | unrepeatable {c : Content} : c ∈ content → c.Unrepeatable limits →
      Permits limits route content 400
  | overnested {c : Content} : c ∈ content → c.Overnested limits →
      Permits limits route content 500

section Reading

variable {limits : Limits} {c : Content} {r : Resource} {content : Option Content}
variable {body : Option Json} {refused : Refused}

/-- What is read comes with the request. -/
theorem exists_content_of_read {value : Json} (read :
      (if readsBody r then readBody limits.reading content else .ok none) = .ok (some value)) :
    ∃ c ∈ content, readBody limits.reading (some c) = .ok (some value) := by
  split at read
  · cases content with
    | none => cases read
    | some c => exact ⟨c, rfl, read⟩
  · cases read

/-- What holds of a body, and not of `null`, holds of one that is given. -/
theorem exists_of_getD {p : Json → Prop} (null : ¬ p .null) (h : p (body.getD .null)) :
    ∃ value ∈ body, p value := by
  cases body with
  | none => exact absurd h null
  | some value => exact ⟨value, rfl, h⟩

/-- Each way of declining has a status that is permitted. -/
theorem Declines.permits (h : Declines body refused)
    (read : (if readsBody r then readBody limits.reading content else .ok none) = .ok body) :
    Permits limits (.resource r) content (Reply.ofRefused limits.writing refused).status := by
  cases h with
  | noProject purpose => exact .refusal (.tail _ (.head _))
  | noPatch id pending => exact .refusal (.head _)
  | @badBody issues parts =>
    rcases status_badBody limits.writing issues with status | ⟨status, issue, mem, wrong⟩ |
      ⟨status, n, limited, issue, mem, deep⟩ <;> rw [status]
    · exact .refusal (.tail _ (.tail _ (.head _)))
    · have unexpressed : isPlain (body.getD .null) = false :=
        Bool.eq_false_iff.mpr fun plain => by simp [(parts issue mem).isPlain plain] at wrong
      obtain ⟨value, rfl, unexpressed⟩ : ∃ value ∈ body, isPlain value = false :=
        exists_of_getD (p := fun j => isPlain j = false) nofun unexpressed
      obtain ⟨c, given, came⟩ := exists_content_of_read read
      exact .unrepeatable given ⟨value, came, unexpressed⟩
    · obtain ⟨value, rfl, deeper⟩ : ∃ value ∈ body, n < Json.nesting false value :=
        exists_of_getD (p := fun j => n < Json.nesting false j) nofun
          (deep.trans_le (parts issue mem).nesting_le)
      obtain ⟨c, given, came⟩ := exists_content_of_read read
      exact .overnested given ⟨value, came, n, limited, deeper⟩

/-- What cannot be read as JSON is refused over the place of the mistake alone, or it cannot be
decoded. -/
theorem readJson_eq_error (json : isJsonType c.type = true)
    (h : readJson limits.reading c.bytes = .error refused) :
    refused = .unreadableBody ∧ c.Undecodable limits ∨
      ∃ issue, refused = .badBody [issue] ∧ issue.input = .obj [] := by
  unfold readJson at h
  split at h
  · cases h
  next encoding m malformed =>
    cases h
    exact .inl ⟨rfl, .bytes json malformed⟩
  next e unread =>
    split at h
    next digits long =>
      cases h
      exact .inl ⟨rfl, .integer json unread long⟩
    next collection deep =>
      cases h
      exact .inl ⟨rfl, .nested json unread deep⟩
    next =>
      cases h
      exact .inr ⟨_, rfl, rfl⟩

/-- A body that is no JSON can always be reported. -/
theorem status_badSyntax {levels : Option ℕ} {issue : Issue} (empty : issue.input = .obj []) :
    (Reply.ofRefused levels (.badBody [issue])).status = 422 := by
  rcases status_badBody levels [issue] with status | ⟨-, other, mem, wrong⟩ | ⟨-, n, -, other, mem, deep⟩
  · exact status
  · rw [List.mem_singleton.mp mem, empty] at wrong
    cases wrong
  · rw [List.mem_singleton.mp mem, empty] at deep
    cases deep

/-- A body that cannot be read at all has a status that is permitted. -/
theorem permits_of_read
    (read : (if readsBody r then readBody limits.reading content else .ok none) =
      .error refused) :
    Permits limits (.resource r) content (Reply.ofRefused limits.writing refused).status := by
  split at read
  case isFalse => cases read
  case isTrue =>
  cases content with
  | none => cases read
  | some c =>
    unfold readBody at read
    dsimp only at read
    split at read
    · cases read
    split at read
    next json =>
      cases loaded : readJson limits.reading c.bytes with
      | ok value =>
        rw [loaded] at read
        cases read
      | error why =>
        rw [loaded] at read
        cases read
        rcases readJson_eq_error json loaded with ⟨rfl, undecodable⟩ | ⟨issue, rfl, empty⟩
        · exact .undecodable rfl undecodable
        · rw [status_badSyntax empty]
          exact .refusal (.tail _ (.tail _ (.head _)))
    next other =>
      split at read
      · cases read
      next m malformed =>
        cases read
        exact .undecodable rfl (.text (by simpa using other) malformed)

end Reading

/-! ## Requests -/

namespace Server

/-- The service is started, and its workspace is in step with the store. -/
def Runs (s : Server) : Prop :=
  ∃ w, s.workspace = some w ∧ w.InStep

/-- The tree of the session is too deep to be persisted. -/
def Unsaved (s : Server) : Prop :=
  ∃ w, s.workspace = some w ∧ w.session.Unsaved

/-- What becomes of a running service: an answer leaves it running, and a refusal as it was. If the
session cannot be persisted it is running, too. -/
inductive Concludes (s : Server) (permits : Int → Prop) : Except Refused Json × Server → Prop
  | answers {answer : Json} {s' : Server} : s'.Runs → Concludes s permits (.ok answer, s')
  | declines {refused : Refused} : permits (Reply.ofRefused s.limits.writing refused).status →
      Concludes s permits (.error refused, s)
  | unsaved {s' : Server} : s'.Runs → s'.Unsaved →
      Concludes s permits (.error (.failed .unwritable), s')

/-- The same with the reply that is sent. -/
inductive Replies (s : Server) (permits : Int → Prop) (outcome : Reply × Server) : Prop
  | answers : outcome.1.status = 200 → outcome.2.Runs → Replies s permits outcome
  | declines : permits outcome.1.status → outcome.2 = s → Replies s permits outcome
  | unsaved : outcome.1.status = 400 → outcome.2.Runs → outcome.2.Unsaved →
      Replies s permits outcome

section Requests

variable {s : Server}

/-- What a resource does once the body is read. -/
theorem serve_of_read {w : Workspace} {r : Resource} {content : Option Content}
    {body : Option Json} (started : s.workspace = some w) (dynamic : isStatic r = none)
    (read : (if readsBody r then readBody s.limits.reading content else .ok none) = .ok body) :
    s.serve r content = ((action s.clock body r w).1,
      { s with workspace := some (action s.clock body r w).2 }) := by
  unfold serve
  rw [dynamic]
  dsimp only
  rw [read, started]

/-- What a resource answers. -/
theorem Runs.serve (runs : s.Runs) (r : Resource) (content : Option Content) :
    Concludes s (Permits s.limits (.resource r) content) (s.serve r content) := by
  cases static : isStatic r with
  | some answer =>
    rw [Server.serve, static]
    exact .answers runs
  | none =>
    cases read : if readsBody r then readBody s.limits.reading content else .ok none with
    | ok body =>
      obtain ⟨w, started, inStep⟩ := runs
      have settles := action_settles inStep s.clock body r
      rw [serve_of_read started static read]
      generalize action s.clock body r w = outcome at settles ⊢
      cases settles with
      | answers inStep => exact .answers ⟨_, rfl, inStep⟩
      | declines declines =>
        have same : ({ s with workspace := some w } : Server) = s := by rw [← started]
        rw [same]
        exact .declines (declines.permits read)
      | unsaved inStep deep => exact .unsaved ⟨_, rfl, inStep⟩ ⟨_, rfl, deep⟩
    | error refused =>
      rw [Server.serve, static]
      dsimp only
      rw [read]
      exact .declines (permits_of_read read)

/-- What any request is answered with. -/
theorem Runs.respond (runs : s.Runs) (request : Incoming) :
    Concludes s (Permits s.limits (Route.find request.method request.path) request.content)
      (s.respond request) := by
  unfold Server.respond
  cases Route.find request.method request.path with
  | resource r => exact runs.serve r request.content
  | wrongMethod | elsewhere | nowhere => exact .declines (.refusal (.head _))

/-- What is concluded is replied. -/
theorem Concludes.handle {permits : Int → Prop} {request : Incoming}
    (h : Concludes s permits (s.respond request)) : Replies s permits (s.handle request) := by
  unfold Server.handle
  generalize s.respond request = outcome at h
  cases h with
  | answers runs =>
    refine .answers ?_ runs
    dsimp only
    split <;> rfl
  | declines permitted =>
    refine .declines ?_ rfl
    dsimp only
    split <;> exact permitted
  | unsaved runs deep =>
    refine .unsaved ?_ runs deep
    dsimp only
    split <;> rfl

/-- Nothing changes the limits of the stack. -/
theorem respond_limits (request : Incoming) (s : Server) :
    (s.respond request).2.limits = s.limits := by
  unfold Server.respond
  split
  case h_1 r _ =>
    unfold Server.serve
    split
    · rfl
    · split
      · rfl
      · split <;> rfl
  all_goals rfl

/-- **One request.** Whatever it asks for, it is answered, or refused without effect, or the session
cannot be persisted. -/
theorem Runs.handle (runs : s.Runs) (request : Incoming) :
    Replies s (Permits s.limits (Route.find request.method request.path) request.content)
      (s.handle request) :=
  (runs.respond request).handle

end Requests

/-! ## Runs -/

/-- The services that requests lead to, one after another. Time passes meanwhile. -/
inductive Reaches (s₀ : Server) : Server → Prop
  | start : Reaches s₀ s₀
  | request {s : Server} (request : Incoming) : Reaches s₀ s → Reaches s₀ (s.handle request).2
  | wait {s : Server} (clock : Clock) : Reaches s₀ s → Reaches s₀ { s with clock }

/-- The server runs on after a reply. -/
theorem Replies.runs {s : Server} {permits : Int → Prop} {outcome : Reply × Server}
    (h : Replies s permits outcome) (runs : s.Runs) : outcome.2.Runs := by
  cases h with
  | answers _ runs' => exact runs'
  | declines _ same => exact same ▸ runs
  | unsaved _ runs' _ => exact runs'

/-- So it does after any requests. -/
theorem Reaches.runs {s₀ s : Server} (h : Reaches s₀ s) (runs : s₀.Runs) : s.Runs := by
  induction h with
  | start => exact runs
  | request request _ ih => exact (ih.handle request).runs ih
  | wait clock _ ih => exact ih

/-- The limits stay what they are. -/
theorem Reaches.limits_eq {s₀ s : Server} (h : Reaches s₀ s) : s.limits = s₀.limits := by
  induction h with
  | start => rfl
  | request request _ ih => exact (respond_limits request _).trans ih
  | wait clock _ ih => exact ih

end Server

/-- The request of a resource, with a body or without. -/
def Resource.request (r : Resource) (content : Option Content) : Incoming :=
  ⟨r.method, r.path, content⟩

/-- The path of a resource leads to it or nowhere, so that 405 and 307 are out of question. -/
theorem Permits.of_resource {limits : Limits} {r : Resource} {content : Option Content}
    {status : Int} (h : Permits limits (Route.find r.method r.path) content status) :
    Permits limits (.resource r) content status := by
  cases h with
  | refusal mem =>
    refine .refusal ?_
    rw [find_path] at mem
    split at mem
    · exact mem
    · rw [List.mem_singleton.mp mem]
      exact .head _
  | undecodable given why => exact .undecodable given why
  | unrepeatable given why => exact .unrepeatable given why
  | overnested given why => exact .overnested given why

/-- A service that was started without files. -/
def Server.blank : Server :=
  ⟨default, .none, some (.start .empty "user" (.memory .empty) (some (.empty none)) 64 0)⟩

/-- A text as a body of JSON. -/
def Content.json (text : String) : Content :=
  ⟨text.toList.map fun c => c.toNat.toUInt8, jsonType⟩

/-- A body that opens a project. -/
def opening : Content := .json "\x7b\"project_id\": \"p\", \"project_name\": \"One\"\x7d"

/-- A line that is not given as text but as a NaN. -/
def nanLine : Content := .json "\x7b\"input\": NaN\x7d"

/-- A line that is no text is repeated as far as it is not nested too deep. -/
theorem handle_nested_line :
    let s : Server := { Server.blank with limits := ⟨none, some 3⟩ }
    let content := Content.json "\x7b\"input\": [[[[1]]]]\x7d"
    (s.handle (Resource.execute.request (some content))).1.status = 500 := by
  decide +kernel

/-- A store in memory with a file far below the directory of its project. -/
def deepStore : Memory :=
  let name := String.intercalate "/" (List.replicate 123 "d")
  { Memory.empty with held := [("p", ⟨"file-0", name, "", "javascript"⟩)], made := 1 }

/-- A service over that store. -/
def Server.deep : Server :=
  ⟨default, .none, some (.start .empty "user" (.memory deepStore) (some (.empty none)) 64 0)⟩

/-- A project with such a file is opened, although the request fails: the session shows the file, and
cannot be persisted. -/
theorem handle_deep_project :
    (Server.deep.handle (Resource.openProject.request (some opening))).1.status = 400 ∧
      (Server.deep.handle (Resource.openProject.request (some opening))).2.workspace.map
        (·.review.project) = some (some "p") := by
  decide +kernel

end Workbench.Service
