import Workbench.Project.Store
import Workbench.Proofs.Http.Refusing

/-!
# Which failures a remote store translates

A store behind a service reports a failed call to the service as its own failure, with the name of
the operation. It translates the failures of calls and no others: a response that cannot be decoded,
the body of a success whose bytes hold no JSON, JSON that is not what the operation should get, a
refusal that cannot be explained, a body that is nested too deep to be read, and a path that is no
address come out as they are. `Escapes` lists them, and `perform_surfaces` says that these and no
others get past the store.
-/

namespace Workbench.Project

open Http (Client Response Transport TransportFault Url)

/-- What a store answers to a call. -/
inductive Answer where
  | files (files : List File)
  | file (file : File)
  | done

namespace Call

/-- The answers that the contract of an operation allows. -/
def Allows : Call → Answer → Prop
  | list _, .files _ => True
  | create .., .file _ => True
  | update .., .done => True
  | delete _, .done => True
  | _, _ => False

/-! ## Calls as requests -/

/-- The method of the request that carries a call to the service. -/
def method : Call → String
  | list _ => "GET"
  | create .. => "POST"
  | update .. => "PATCH"
  | delete _ => "DELETE"

/-- The path of the request that carries a call to the service. -/
def path : Call → String
  | list project => s!"/projects/{project}/files"
  | create project _ _ _ => s!"/projects/{project}/files"
  | update id _ => s!"/files/{id}"
  | delete id => s!"/files/{id}"

/-- The body of the request that carries a call to the service. -/
def body : Call → Option Json
  | list _ => none
  | create _ name content language =>
    some (.obj [("name", .str name), ("content", .str content), ("language", .str language)])
  | update _ content => some (.obj [("content", .str content)])
  | delete _ => none

/-- What a call takes the value of a response for. -/
def receive : Call → Json → Except Failure Answer
  | list _, value => (receivedFiles value).map .files
  | create .., value => (receivedFile value).map .file
  | update .., _ => .ok .done
  | delete _, _ => .ok .done

end Call

namespace Remote

variable {τ : Type} [Transport τ]

/-- Carries out a call with the operation of the store that it names. -/
def perform (client : Client) : Call → τ → Except Failure Answer × τ
  | .list project, t => let (r, t) := list client project t; (r.map .files, t)
  | .create project name content language, t =>
    let (r, t) := create client project name content language t; (r.map .file, t)
  | .update id content, t => let (r, t) := update client id content t; (r.map fun _ => .done, t)
  | .delete id, t => let (r, t) := delete client id t; (r.map fun _ => .done, t)

/-- The failure of a store operation that a failed call to the service becomes. -/
def Surfaced (call : Call) (failure : Failure) : Prop :=
  ∃ cause : Http.CallFailure, failure = .call (.store
    s!"Project store {call.operation.name} failed: {cause.message}" call.operation.name
    (some cause.name))

/-- The failures with which a call can end, and that are no failures of the store, by the reply that
counts and how deep its value may be nested. -/
inductive Untranslated (call : Call) (levels : Option Nat) :
    Except TransportFault Response → Failure → Prop
  /-- The response arrived and could not be decoded. -/
  | undecoded : Untranslated call levels (.error .decoding) .undecodable
  /-- The body of a success is neither empty nor JSON, or nested too deep. -/
  | unreadable (response : Response) (error : Json.LoadError) (success : response.isSuccess = true)
      (bad : response.content levels = .error error) :
      Untranslated call levels (.ok response) (.unreadable error)
  /-- The value in the body of a success is not what the operation should get. -/
  | misshapen (response : Response) (value : Json) (failure : Failure)
      (success : response.isSuccess = true) (read : response.content levels = .ok value)
      (bad : call.receive value = .error failure) : Untranslated call levels (.ok response) failure
  /-- A refusal lists an issue that has no place. -/
  | unexplained (response : Response) (fault : PartFault) (refused : response.isSuccess = false)
      (bad : response.Misplaces levels fault) :
      Untranslated call levels (.ok response) (.part fault)
  /-- The body of a refusal has a value that is nested too deep. -/
  | tooDeep (response : Response) (error : Json.LoadError) (refused : response.isSuccess = false)
      (bad : response.Sinks levels error) :
      Untranslated call levels (.ok response) (.unreadable error)

/-- The failures that get past the store when a call is carried out. -/
inductive Escapes (client : Client) (call : Call) (t : τ) : Failure → Prop
  /-- The path of the request is no address. -/
  | address (fault : Http.UrlFault)
      (unusable : client.prepare call.method call.path none call.body = .error fault) :
      Escapes client call t (.url fault)
  /-- The reply that counts is not translated. -/
  | reply (request : Http.Request) (failure : Failure)
      (prepared : client.prepare call.method call.path none call.body = .ok request)
      (bad : Untranslated call client.levels (Http.finalReply request 0 client.more t) failure) :
      Escapes client call t failure

variable {client : Client} {call : Call} {failure : Failure} {value : Json}

/-! ## What a service may send -/

/-- What is received is what the call allows. -/
theorem allows_of_receive {answer : Answer} (h : call.receive value = .ok answer) :
    call.Allows answer := by
  cases call with
  | list project =>
    rw [Call.receive] at h
    cases received : receivedFiles value <;> rw [received] at h <;> cases h
    trivial
  | create project name content language =>
    rw [Call.receive] at h
    cases received : receivedFile value <;> rw [received] at h <;> cases h
    trivial
  | update id content =>
    cases h
    trivial
  | delete id =>
    cases h
    trivial

/-- A file that is not what it should be does not surface as a failure of the store. -/
theorem not_surfaced_of_receivedFile (h : receivedFile value = .error failure) :
    ¬ Surfaced call failure := by
  rintro ⟨cause, rfl⟩
  cases value with
  | obj fields =>
    rw [receivedFile] at h
    cases checked : File.check (.obj fields) <;> rw [checked] at h <;> cases h
  | _ => cases h

/-- What is wrong with the value that a service sent is never reported as a failure of the store. -/
theorem not_surfaced_of_receive (h : call.receive value = .error failure) :
    ¬ Surfaced call failure := by
  cases call with
  | list project =>
    rw [Call.receive] at h
    cases received : receivedFiles value with
    | ok files =>
      rw [received] at h
      cases h
    | error e =>
      rw [received] at h
      cases h
      unfold receivedFiles at received
      split at received
      · cases received
      · split at received
        · obtain ⟨item, -, bad⟩ := Http.exists_of_mapM_eq_error received
          exact not_surfaced_of_receivedFile bad
        · obtain ⟨entry, -, bad⟩ := Http.exists_of_mapM_eq_error received
          exact not_surfaced_of_receivedFile bad
        · obtain ⟨c, -, bad⟩ := Http.exists_of_mapM_eq_error received
          exact not_surfaced_of_receivedFile bad
        · cases received
          rintro ⟨cause, same⟩
          cases same
  | create project name content language =>
    rw [Call.receive] at h
    cases received : receivedFile value with
    | ok file =>
      rw [received] at h
      cases h
    | error e =>
      rw [received] at h
      cases h
      exact not_surfaced_of_receivedFile received
  | update id content => cases h
  | delete id => cases h

/-! ## What a call brings -/

/-- A call sends its request, translates the failures of calls, and takes the value for what the
operation should get. -/
theorem perform_eq (client : Client) (call : Call) (t : τ) :
    (perform client call t).1 =
      ((client.request call.method call.path none call.body t).1.mapError
        (storeFailure call.operation.name)).bind call.receive := by
  cases call with
  | list project =>
    simp only [perform, list, send, Call.method, Call.path, Call.body, Call.operation,
      Operation.name]
    generalize (client.request "GET" s!"/projects/{project}/files" none none t).1.mapError
      (storeFailure "list") = outcome
    cases outcome <;> rfl
  | create project name content language =>
    simp only [perform, create, send, Call.method, Call.path, Call.body, Call.operation,
      Operation.name]
    generalize (client.request "POST" s!"/projects/{project}/files" none _ t).1.mapError
      (storeFailure "create") = outcome
    cases outcome <;> rfl
  | update id content =>
    simp only [perform, update, send, Call.method, Call.path, Call.body, Call.operation,
      Operation.name]
    generalize (client.request "PATCH" s!"/files/{id}" none _ t).1.mapError
      (storeFailure "update") = outcome
    cases outcome <;> rfl
  | delete id =>
    simp only [perform, delete, send, Call.method, Call.path, Call.body, Call.operation,
      Operation.name]
    generalize (client.request "DELETE" s!"/files/{id}" none none t).1.mapError
      (storeFailure "delete") = outcome
    cases outcome <;> rfl

/-- What a final reply brings, once its failure is translated and its value is received. -/
def brought (client : Client) (call : Call) (reply : Except TransportFault Response) :
    Except Failure Answer :=
  ((client.outcome call.path reply).mapError (storeFailure call.operation.name)).bind call.receive

variable {reply : Except TransportFault Response}

/-- A failure of the client does. -/
theorem surfaced_storeFailure (call : Call) (cause : Http.CallFailure) :
    Surfaced call (storeFailure call.operation.name (.call cause)) :=
  ⟨cause, rfl⟩

/-- What a success brings. -/
theorem brought_of_success {response : Response} (success : response.isSuccess = true) :
    brought client call (.ok response) =
      (((response.content client.levels).mapError .unreadable).mapError
        (storeFailure call.operation.name)).bind call.receive := by
  rw [brought, Client.outcome, Response.outcome_of_success success]

/-- A fault of the transport is a failure of the store, but for a response that arrived and could
not be decoded. -/
theorem surfaced_of_fault (client : Client) (call : Call) {fault : TransportFault}
    (sent : fault ≠ .decoding) :
    ∃ failure, brought client call (.error fault) = .error failure ∧ Surfaced call failure := by
  have transport : fault.isTransport = true := by
    cases fault <;> first | rfl | exact absurd rfl sent
  rw [brought, Client.outcome, Client.failureOf, transport]
  simp only [Bool.not_true, Bool.false_eq_true, if_false]
  split
  · exact ⟨_, rfl, surfaced_storeFailure call _⟩
  · exact ⟨_, rfl, surfaced_storeFailure call _⟩

/-- What is not translated is what the call brings, and no failure of the store. -/
theorem Untranslated.brought_eq (client : Client)
    (h : Untranslated call client.levels reply failure) :
    brought client call reply = .error failure ∧ ¬ Surfaced call failure := by
  cases h with
  | undecoded => exact ⟨rfl, fun ⟨_, same⟩ => by cases same⟩
  | unreadable response error success bad =>
    rw [brought_of_success success, bad]
    exact ⟨rfl, fun ⟨_, same⟩ => by cases same⟩
  | misshapen response value failure success read bad =>
    rw [brought_of_success success, read]
    exact ⟨bad, not_surfaced_of_receive bad⟩
  | unexplained response fault refused bad =>
    obtain ⟨-, comes, -⟩ := Response.refused_iff client.levels refused
    rw [brought, Client.outcome, (comes fault).mpr bad]
    exact ⟨rfl, fun ⟨_, same⟩ => by cases same⟩
  | tooDeep response error refused bad =>
    obtain ⟨-, -, comes⟩ := Response.refused_iff client.levels refused
    rw [brought, Client.outcome, (comes error).mpr bad]
    exact ⟨rfl, fun ⟨_, same⟩ => by cases same⟩

/-- A call that fails brings a failure of the store, or one that is not translated. -/
theorem surfaced_or_untranslated (h : brought client call reply = .error failure) :
    Surfaced call failure ∨ Untranslated call client.levels reply failure := by
  cases reply with
  | error fault =>
    by_cases arrived : fault = .decoding
    · subst arrived
      cases h
      exact .inr .undecoded
    · obtain ⟨_, eq, surfaced⟩ := surfaced_of_fault client call arrived
      rw [eq] at h
      cases h
      exact .inl surfaced
  | ok response =>
    cases success : response.isSuccess with
    | true =>
      rw [brought_of_success success] at h
      cases read : response.content client.levels with
      | error error =>
        rw [read] at h
        cases h
        exact .inr (.unreadable response error success read)
      | ok value =>
        rw [read] at h
        exact .inr (.misshapen response value failure success read h)
    | false =>
      rw [brought, Client.outcome] at h
      obtain ⟨reported, comes, sinks⟩ := Response.refused_iff client.levels success
      by_cases deep : ∃ error, response.Sinks client.levels error
      · obtain ⟨error, deep⟩ := deep
        rw [(sinks error).mpr deep] at h
        cases h
        exact .inr (.tooDeep response error success deep)
      by_cases misplaced : ∃ fault, response.Misplaces client.levels fault
      · obtain ⟨fault, misplaced⟩ := misplaced
        rw [(comes fault).mpr misplaced] at h
        cases h
        exact .inr (.unexplained response fault success misplaced)
      · push Not at deep misplaced
        obtain ⟨refusal, eq, -⟩ := reported.mpr ⟨misplaced, deep⟩
        rw [eq] at h
        cases h
        exact .inl (surfaced_storeFailure call _)

/-- An answer is one that the contract allows, since the value of a response was taken for it. -/
theorem allows_of_brought {answer : Answer} (h : brought client call reply = .ok answer) :
    call.Allows answer := by
  obtain ⟨value, -, received⟩ : ∃ value,
      (client.outcome call.path reply).mapError (storeFailure call.operation.name) = .ok value ∧
        call.receive value = .ok answer := by
    rw [brought] at h
    cases outcome : (client.outcome call.path reply).mapError
        (storeFailure call.operation.name) with
    | error e =>
      rw [outcome] at h
      cases h
    | ok value =>
      rw [outcome] at h
      exact ⟨value, rfl, h⟩
  exact allows_of_receive received

/-! ## What gets past the store -/

/-- A store that was opened for a service, in either retry setting and whatever the service and the
transport do, answers a call as its contract allows, or fails. The failures that are no failures of
the store with the name of the operation are those that escape. -/
theorem perform_surfaces (address : String) (timeout : Duration) (retries : Bool)
    (levels : Option Nat) (opened :
      Client.ofAddress address timeout retries Client.defaultMaxRetries levels = .ok client)
    (call : Call) (t : τ) :
    let outcome := (perform client call t).1
    (∀ answer, outcome = .ok answer → call.Allows answer) ∧
    ∀ failure, (outcome = .error failure ∧ ¬ Surfaced call failure) ↔
      Escapes client call t failure := by
  intro outcome
  have attempts : 1 ≤ client.attempts ∧ client.attempts ≤ 1024 := by
    rw [Client.attempts_of_ofAddress opened]
    cases retries <;> decide
  have performed : outcome = ((client.request call.method call.path none call.body t).1.mapError
      (storeFailure call.operation.name)).bind call.receive := perform_eq client call t
  cases prepared : client.prepare call.method call.path none call.body with
  | error fault =>
    have failed : outcome = .error (.url fault) := by
      rw [performed, Client.request_of_fault attempts.1 prepared]
      rfl
    rw [failed]
    refine ⟨nofun, fun failure => ⟨?_, ?_⟩⟩
    · rintro ⟨⟨⟩, -⟩
      exact .address fault prepared
    · rintro (⟨fault', unusable⟩ | ⟨request, _, usable, -⟩)
      · rw [prepared] at unusable
        cases unusable
        exact ⟨rfl, fun ⟨_, same⟩ => by cases same⟩
      · rw [prepared] at usable
        cases usable
  | ok request =>
    have ended : outcome = brought client call (Http.finalReply request 0 client.more t) := by
      rw [performed, Client.request_eq attempts.1 attempts.2 prepared, brought]
    rw [ended]
    refine ⟨fun answer h => allows_of_brought h, fun failure => ⟨?_, ?_⟩⟩
    · rintro ⟨failed, unsurfaced⟩
      have bad := (surfaced_or_untranslated failed).resolve_left unsurfaced
      exact .reply request failure prepared bad
    · rintro (⟨fault, unusable⟩ | ⟨request', _, usable, bad⟩)
      · rw [prepared] at unusable
        cases unusable
      · rw [prepared] at usable
        cases usable
        exact bad.brought_eq client

/-- A page in place of JSON gets past the store, here when a second attempt brings it. -/
theorem perform_surfaces_page :
    let page : Http.Script := .ofReplies [.ok (.ofText 503 ""), .ok (.ofText 200 "<html>")]
    ∃ client, Client.ofAddress "http://backend" Client.defaultTimeout true
        Client.defaultMaxRetries none = .ok client ∧
      ∃ error, (perform client (.list "p1") page).1 = .error (.unreadable error) ∧
        ¬ Surfaced (.list "p1") (.unreadable error) := by
  intro page
  obtain ⟨client, opened, levels, request, prepared⟩ : ∃ client,
      Client.ofAddress "http://backend" Client.defaultTimeout true Client.defaultMaxRetries none =
        .ok client ∧ client.levels = none ∧
      ∃ request, client.prepare "GET" "/projects/p1/files" none none = .ok request :=
    ⟨_, rfl, rfl, _, rfl⟩
  obtain ⟨error, unreadable⟩ :
      ∃ error, (Response.ofText 200 "<html>").content client.levels = .error error := by
    have failed : ((Response.ofText 200 "<html>").content none).isOk = false := by decide +kernel
    rw [levels]
    cases read : (Response.ofText 200 "<html>").content none with
    | ok value =>
      rw [read] at failed
      cases failed
    | error error => exact ⟨error, rfl⟩
  have more : client.more = 3 := by
    rw [Client.more, Client.attempts_of_ofAddress opened]
    rfl
  have final : Http.finalReply request 0 client.more page = .ok (.ofText 200 "<html>") := by
    rw [more]
    rfl
  have escapes : Escapes client (.list "p1") page (.unreadable error) :=
    .reply request _ prepared (final ▸ .unreadable _ error rfl unreadable)
  obtain ⟨-, past⟩ := perform_surfaces "http://backend" _ true none opened (.list "p1") page
  exact ⟨client, opened, error, (past _).mpr escapes⟩

end Remote

end Workbench.Project
