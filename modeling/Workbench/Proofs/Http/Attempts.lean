import Workbench.Proofs.Decimal.Scaling
import Workbench.Proofs.Http.Refusing
import Mathlib.Tactic.NormNum
import Mathlib.Tactic.Ring

/-!
# How often a client tries

A client goes through the replies of the other side up to the first one that is final, or until no
attempt is left. It sends its request once for each of them, pauses in between for half a second, a
second, two and so on up to thirty, and brings what the last of them brings (`request_stops`).

Nothing else about a transport matters. A transport that blocks while it waits and one that lets
others go on bring the same if both answer from the same script: what they show of it keeps pace
with every request and every pause (`Script.Shows`).

What the last reply brings is a value, a refusal in the class of its status, the failure of a
request that ran out of time or of one that never arrived. There are replies that bring nothing of
the kind (`Stray`): a success that cannot be read, and a refusal with an issue that has no place or
with a value that is nested too deep.
-/

namespace Workbench

/-- A number of seconds, unless it is infinite or no number. -/
def Duration.seconds? : Duration → Option ℚ
  | whole n => some n
  | real x => x.value?

namespace Http

open Decimal (Binary64)
open Schema (Fields)

/-- A reply from the other side, or the reason why there is none. -/
abbrev Reply := Except TransportFault Response

/-- The number of attempts that replies take if there may be up to `limit`: the first final one ends
them. -/
def attemptsTaken (limit : Nat) (replies : List Reply) : Nat :=
  min limit (replies.findIdx (fun reply => !Client.isPassing reply) + 1)

namespace Script

/-- A request was sent `k` times, with a pause between two and two of them. The pauses double from
half a second and are cut off at thirty; `first` of them came before. -/
structure Repeats (request : Request) (first k : Nat) (before after : Script) : Prop where
  requests : after.requests = before.requests ++ List.replicate k request
  pauses : ∃ pauses, after.pauses = before.pauses ++ pauses ∧
    pauses.map Duration.seconds? =
      (List.range' first (k - 1)).map fun i => some (min (1 / 2 * 2 ^ i) 30)

/-- A transport answers from a script, which is to be seen in each of its states. -/
structure Shows {τ : Type} [Transport τ] (view : τ → Script) : Prop where
  sent : ∀ request t, Transport.send request (view t) =
    ((Transport.send request t).1, view (Transport.send request t).2)
  paused : ∀ duration t, Transport.pause duration (view t) = view (Transport.pause duration t)

theorem shows_id : Shows (id : Script → Script) :=
  ⟨fun _ _ => rfl, fun _ _ => rfl⟩

end Script

/-- A script whose user lets others go on while it waits, and counts how often it did so. -/
structure Awaited where
  script : Script
  turns : Nat

namespace Awaited

instance : Transport Awaited where
  send request t :=
    let (reply, script) := Transport.send request t.script
    (reply, ⟨script, t.turns + 1⟩)
  pause duration t := ⟨Transport.pause duration t.script, t.turns + 1⟩

theorem shows_script : Script.Shows script :=
  ⟨fun _ _ => rfl, fun _ _ => rfl⟩

end Awaited

/-- The replies that bring neither a value nor a failure of a call, if values are read as deep as
given. -/
inductive Stray (levels : Option Nat) : Reply → Prop
  /-- The body of a success is neither empty nor JSON, or nested too deep. -/
  | unreadable (response : Response) (error : Json.LoadError) (success : response.isSuccess = true)
      (bad : response.content levels = .error error) : Stray levels (.ok response)
  /-- A refusal lists an issue that has no place. -/
  | placeless (response : Response) (fields : Fields) (issues : List Json) (issue : Fields)
      (refused : response.isSuccess = false) (read : response.value levels = .ok (.obj fields))
      (listed : Entries.lookup "detail" fields = some (.arr issues)) (mem : .obj issue ∈ issues)
      (nowhere : Explanation.Placeless issue) : Stray levels (.ok response)
  /-- The body of a refusal has a value that is nested too deep. -/
  | tooDeep (response : Response) (error : Json.LoadError) (refused : response.isSuccess = false)
      (bad : response.Sinks levels error) : Stray levels (.ok response)

namespace Client

/-- The value or the failure of a call that a reply stands for. -/
inductive Concludes (client : Client) (path : String) : Reply → Except Failure Json → Prop
  /-- A success is decoded. -/
  | decoded (response : Response) (value : Json) (success : response.isSuccess = true)
      (read : response.content client.levels = .ok value) :
      Concludes client path (.ok response) (.ok value)
  /-- A refusal belongs to the class of its status. -/
  | refused (response : Response) (refusal : Refusal) (refused : response.isSuccess = false)
      (status : refusal.status = response.status)
      (kind : refusal.kind = RefusalClass.ofStatus response.status) :
      Concludes client path (.ok response) (.error (.call (.refused refusal)))
  | timedOut (fault : TransportFault) (late : fault.isTimeout = true) :
      Concludes client path (.error fault) (.error (.call (.timedOut
        s!"Request to {client.baseAddress ++ path} timed out" (some client.timeout)
        (some (client.baseAddress ++ path)))))
  | unreachable (fault : TransportFault) (early : fault.isTimeout = false) :
      Concludes client path (.error fault) (.error (.call (.unreachable
        s!"Failed to connect to {client.baseAddress ++ path}"
        (some (client.baseAddress ++ path)) (some fault.name))))

end Client

/-! ## Pauses -/

namespace Backoff

theorem longest_eq : longest = .finite false (30 * 2 ^ 48) (-48) := by
  decide +kernel

/-- The base of the pauses, one half of a second. -/
theorem standardBase_eq : standardBase = .finite false (2 ^ 52) (-53) := by
  decide +kernel

/-- The longest pause in seconds. -/
theorem value?_longest : longest.value? = some 30 := by
  rw [longest_eq, Binary64.value?]
  norm_num

/-- A pause is cut at the longest one. -/
theorem seconds?_cut {x : Binary64} {v : ℚ} (h : x.value? = some v) :
    (cut x).seconds? = some (min v 30) := by
  rw [cut]
  split
  · next above =>
    have order := (Binary64.lt_eq_true_iff value?_longest h).mp above
    rw [Duration.seconds?, value?_longest, min_eq_right order.le]
  · next below =>
    have order := mt (Binary64.lt_eq_true_iff value?_longest h).mpr below
    rw [Duration.seconds?, h, min_eq_left (not_lt.mp order)]

/-- There is a pause after each of the first 1024 attempts. -/
theorem exists_delay {attempt : Nat} (early : attempt < 1024) :
    ∃ pause, delay (.real standardBase) attempt = .ok pause ∧
      pause.seconds? = some (min (1 / 2 * 2 ^ attempt) 30) := by
  have doubled : standardBase.scaleBy attempt = .finite false (2 ^ 52) (-53 + attempt) := by
    rw [standardBase_eq]
    exact Binary64.scaleBy_of_normal false (le_refl _) (by norm_num)
      (by rw [Binary64.leastExponent]; omega) (by rw [Binary64.greatestExponent]; omega)
  have value : (standardBase.scaleBy attempt).value? = some (1 / 2 * 2 ^ attempt) := by
    rw [doubled, Binary64.value?, zpow_add₀ two_ne_zero, zpow_natCast]
    norm_num
    ring
  exact ⟨_, if_neg (Nat.not_le.mpr early), seconds?_cut value⟩

end Backoff

/-! ## Attempts on a script -/

section Attempts

variable {τ : Type} [Transport τ] {view : τ → Script} {client : Client} {request : Request}
variable {method path : String} {parameters : Option Fields} {body : Option Json}
variable {replies : List Reply} {reply : Reply} {limit : Nat}

/-- A reply that is final ends the attempts. -/
theorem attemptsTaken_of_final (final : Client.isPassing reply = false) :
    attemptsTaken (limit + 1) (reply :: replies) = 1 := by
  rw [attemptsTaken, List.findIdx_cons, final]
  exact Nat.min_eq_right (Nat.le_add_left 1 limit)

/-- After a reply that is not, the next attempt follows. -/
theorem attemptsTaken_of_passing (passing : Client.isPassing reply = true) :
    attemptsTaken (limit + 1) (reply :: replies) = attemptsTaken limit replies + 1 := by
  rw [attemptsTaken, attemptsTaken, List.findIdx_cons, passing]
  exact Nat.add_min_add_right _ _ 1

/-- There is an attempt if one is allowed. -/
theorem attemptsTaken_pos (replies : List Reply) : 0 < attemptsTaken (limit + 1) replies :=
  Nat.lt_min.mpr ⟨Nat.succ_pos limit, Nat.succ_pos _⟩

namespace Script

variable {script after : Script} {first k : Nat} {pause : Duration}

/-- A script answers with its next reply. -/
theorem send_fst (h : script.replies = reply :: replies) (request : Request) :
    (Transport.send request script).1 = reply := by
  show (next script.replies).1 = reply
  rw [h]
  cases replies <;> rfl

/-- The other replies are left for later, unless it was the last one. -/
theorem replies_send (h : script.replies = reply :: replies) (more : replies ≠ [])
    (request : Request) : (Transport.send request script).2.replies = replies := by
  show (next script.replies).2 = replies
  rw [h]
  cases replies with
  | nil => exact absurd rfl more
  | cons reply' replies => rfl

/-- What is sent to a script is remembered as one attempt. -/
theorem repeats_send (request : Request) (first : Nat) (script : Script) :
    script.Repeats request first 1 (Transport.send request script).2 :=
  ⟨rfl, [], (List.append_nil _).symm, rfl⟩

/-- A request and a pause in front of others. -/
theorem Repeats.cons (length : pause.seconds? = some (min (1 / 2 * 2 ^ first) 30))
    (some_more : 0 < k)
    (later : (Transport.pause pause (Transport.send request script).2).Repeats request (first + 1) k
      after) : script.Repeats request first (k + 1) after := by
  obtain ⟨requests, pauses, whole, lengths⟩ := later
  obtain ⟨k, rfl⟩ := Nat.exists_eq_add_one.mpr some_more
  refine ⟨?_, pause :: pauses, ?_, ?_⟩
  · rw [requests, List.replicate_succ]
    exact List.append_assoc _ [request] _
  · rw [whole]
    exact List.append_assoc _ [pause] _
  · rw [Nat.add_sub_cancel] at lengths ⊢
    rw [List.map_cons, length, lengths, List.range'_succ, List.map_cons]

end Script

namespace Client

/-- Attempts on a script end with the reply that is final or the last one allowed, and leave nothing
but the request and the pauses in its log. -/
theorem attemptFrom_script (client : Client) (path : String) (request : Request)
    {attempt left : Nat} (few : attempt + left ≤ 1024) {script : Script}
    (enough : left < script.replies.length) :
    let run := client.attemptFrom path request attempt left script
    let k := attemptsTaken (left + 1) script.replies
    script.Repeats request attempt k run.2 ∧
      ∃ reply, script.replies[k - 1]? = some reply ∧ run.1 = client.outcome path reply := by
  induction left generalizing attempt script with
  | zero =>
    obtain ⟨reply, rest, same⟩ := List.exists_cons_of_length_pos enough
    have once : attemptsTaken 1 script.replies = 1 := Nat.min_eq_left (Nat.le_add_left 1 _)
    dsimp only
    rw [once, same, attemptFrom]
    exact ⟨script.repeats_send request attempt, reply, rfl,
      congrArg (client.outcome path) (Script.send_fst same request)⟩
  | succ left ih =>
    obtain ⟨reply, rest, same⟩ := List.exists_cons_of_length_pos (Nat.zero_lt_of_lt enough)
    rw [same, List.length_cons] at enough
    have sent := Script.send_fst same request
    dsimp only
    rw [same, attemptFrom]
    dsimp only
    rw [sent]
    cases passing : isPassing reply with
    | false =>
      rw [attemptsTaken_of_final passing, if_neg Bool.false_ne_true]
      exact ⟨script.repeats_send request attempt, reply, rfl, rfl⟩
    | true =>
      -- the reply leaves a pause behind, and the attempts go on with those after it
      have more : rest ≠ [] := List.ne_nil_of_length_pos (by omega)
      have early : attempt < 1024 := by omega
      obtain ⟨pause, short, length⟩ := Backoff.exists_delay early
      have rested : (Transport.pause pause (Transport.send request script).2).replies = rest :=
        Script.replies_send same more request
      have few' : attempt + 1 + left ≤ 1024 := by omega
      have enough' : left <
          (Transport.pause pause (Transport.send request script).2).replies.length := by
        rw [rested]
        omega
      obtain ⟨repeats, final, stands, brings⟩ := ih few' enough'
      rw [rested] at repeats stands
      rw [attemptsTaken_of_passing passing, if_pos rfl, short]
      have positive : 0 < attemptsTaken (left + 1) rest := attemptsTaken_pos rest
      refine ⟨repeats.cons length positive, final, ?_, brings⟩
      rwa [Nat.add_sub_cancel, ← Nat.sub_add_cancel positive, List.getElem?_cons_succ]

/-! ## Attempts on other transports -/

/-- Attempts on a transport that shows a script are those on the script. -/
theorem attemptFrom_view (shows : Script.Shows view) (client : Client) (path : String)
    (request : Request) (attempt left : Nat) (t : τ) :
    client.attemptFrom path request attempt left (view t) =
      ((client.attemptFrom path request attempt left t).1,
        view (client.attemptFrom path request attempt left t).2) := by
  induction left generalizing attempt t with
  | zero => rw [attemptFrom, attemptFrom, shows.sent]
  | succ left ih =>
    rw [attemptFrom, attemptFrom, shows.sent]
    dsimp only
    split
    · cases Backoff.delay (.real Backoff.standardBase) attempt with
      | error fault => rfl
      | ok pause =>
        dsimp only
        rw [shows.paused, ih]
    · rfl

/-! ## What the last reply brings -/

section Last

variable {response : Response}

/-- A response that is a success concludes unless it cannot be read. -/
theorem concludes_success_iff (client : Client) (path : String)
    (success : response.isSuccess = true) :
    Concludes client path (.ok response) (response.outcome client.levels) ↔
      ¬ Stray client.levels (.ok response) := by
  rw [Response.outcome_of_success success]
  cases read : response.content client.levels with
  | ok value =>
    refine iff_of_true (.decoded response value success read) fun stray => ?_
    cases stray with
    | unreadable _ error _ bad => cases read.symm.trans bad
    | placeless _ fields issues issue refused => cases success.symm.trans refused
    | tooDeep _ error refused => cases success.symm.trans refused
  | error error =>
    exact iff_of_false (fun concluded => by cases concluded)
      (not_not_intro (.unreadable response error success read))

/-- A refusal concludes unless an issue in it is misplaced, or it is nested too deep to be read. -/
theorem concludes_refused_iff (client : Client) (path : String)
    (refused : response.isSuccess = false) :
    Concludes client path (.ok response) (response.outcome client.levels) ↔
      ¬ Stray client.levels (.ok response) := by
  cases read : response.value? client.levels with
  | error error =>
    rw [Response.outcome_of_tooDeep refused read]
    exact iff_of_false (fun concluded => by cases concluded)
      (not_not_intro (.tooDeep response error refused (Response.value?_eq_error_iff.mp read)))
  | ok value =>
    have understood : (∃ explanation, Explanation.ofResponse response value = .ok explanation) ↔ _ :=
      Explanation.exists_ofResponse_eq_ok_iff
    have same (fields : Fields) :
        response.value client.levels = .ok (.obj fields) ↔ value = some (.obj fields) := by
      rw [← Response.value?_eq_some_iff, read, Except.ok.injEq]
    cases explained : Explanation.ofResponse response value with
    | ok explanation =>
      have placed := understood.mp ⟨explanation, explained⟩
      obtain ⟨refusal, -, outcome, kind, status, -⟩ :=
        Response.exists_outcome_of_explained refused read explained
      rw [outcome]
      refine iff_of_true (.refused response refusal refused status kind) fun stray => ?_
      cases stray with
      | unreadable _ error success => cases success.symm.trans refused
      | placeless _ fields issues issue _ found listed mem nowhere =>
        exact placed fields issues issue ((same fields).mp found) listed mem nowhere
      | tooDeep _ error _ bad => cases read.symm.trans (Response.value?_eq_error_iff.mpr bad)
    | error fault =>
      rw [Response.outcome_of_unexplained refused read explained]
      refine iff_of_false (fun concluded => by cases concluded) (not_not_intro ?_)
      by_contra straight
      have placed : ∃ explanation, Explanation.ofResponse response value = .ok explanation :=
        understood.mpr fun fields issues issue found listed mem nowhere =>
          straight (.placeless response fields issues issue refused ((same fields).mpr found)
            listed mem nowhere)
      rw [explained] at placed
      obtain ⟨_, ⟨⟩⟩ := placed

end Last

/-- Whatever is the reply that counts, it concludes unless it is stray. -/
theorem concludes_iff (client : Client) (path : String)
    (transported : ∀ fault, reply = .error fault → fault.isTransport = true) :
    Concludes client path reply (client.outcome path reply) ↔ ¬ Stray client.levels reply := by
  cases reply with
  | error fault =>
    refine iff_of_true ?_ fun stray => by cases stray
    rw [outcome, failureOf, transported fault rfl, Bool.not_true, if_neg Bool.false_ne_true]
    cases late : fault.isTimeout with
    | true => exact .timedOut fault late
    | false => exact .unreachable fault late
  | ok response =>
    rw [outcome]
    cases success : response.isSuccess with
    | true => exact concludes_success_iff client path success
    | false => exact concludes_refused_iff client path success

/-- A reply that is final is not taken for the want of an attempt. -/
theorem outcome_ne_noAttempt (client : Client) (path : String) (reply : Reply) :
    client.outcome path reply ≠ .error .noAttempt := by
  intro same
  cases reply with
  | error fault =>
    rw [outcome, failureOf] at same
    split at same
    · cases same
    · split at same <;> cases same
  | ok response =>
    rw [outcome, Response.outcome] at same
    split at same
    · cases read : response.content client.levels <;> rw [read] at same <;> cases same
    · next refused =>
      cases read : response.value? client.levels with
      | error error =>
        rw [Refusal.ofResponse, read] at same
        cases same
      | ok value =>
        rw [Refusal.ofResponse, read] at same
        cases explained : Explanation.ofResponse response value <;>
          simp [Except.mapError, bind, Except.bind, explained, pure, Except.pure] at same

/-- A call takes its request to each reply up to the one that counts. -/
theorem request_on_script (shows : Script.Shows view) (some_attempt : 1 ≤ client.attempts)
    (few : client.attempts ≤ 1025)
    (prepared : client.prepare method path parameters body = .ok request) {t : τ}
    (script : (view t).replies = replies) (enough : client.attempts ≤ replies.length) :
    let run := client.request method path parameters body t
    let k := attemptsTaken client.attempts.toNat replies
    (view t).Repeats request 0 k (view run.2) ∧
      ∃ reply, replies[k - 1]? = some reply ∧ run.1 = client.outcome path reply := by
  have count : client.attempts.toNat = client.more + 1 := by rw [more]; omega
  have few' : 0 + client.more ≤ 1024 := by omega
  have enough' : client.more < (view t).replies.length := by rw [script]; omega
  have run := attemptFrom_script client path request few' enough'
  rw [attemptFrom_view shows, script] at run
  dsimp only
  rw [request_of_prepared some_attempt prepared, count]
  exact run

/-- **A client stops at the right attempt.** Let two transports, one that blocks and one that lets
others go on, answer from scripts with the same replies, at least one for each attempt that is
allowed. The request is sent once for each reply up to the first final one, or until no attempt is
left, with pauses of `min (1 / 2 * 2 ^ i) 30` seconds in between; both calls bring the same, which
is what the last of these replies brings. Unless it is stray, that is the value of its body, the
refusal in the class of its status, or the failure of a request that ran out of time or did not
arrive. If the path is no address, nothing is sent. -/
theorem request_stops {σ : Type} [Transport σ] {view' : σ → Script} (shows : Script.Shows view)
    (shows' : Script.Shows view') (least : 0 ≤ client.maxRetries)
    (greatest : client.maxRetries ≤ 1024) (method path : String) (parameters : Option Fields)
    (body : Option Json) {t : τ} {s : σ} (script : (view t).replies = replies)
    (script' : (view' s).replies = replies)
    (transported : ∀ fault, .error fault ∈ replies → fault.isTransport = true)
    (enough : client.attempts ≤ replies.length) :
    let k := attemptsTaken client.attempts.toNat replies
    let run := client.request method path parameters body t
    let run' := client.request method path parameters body s
    run.1 = run'.1 ∧ run.1 ≠ .error .noAttempt ∧
    (∀ fault, client.prepare method path parameters body = .error fault →
      run.1 = .error (.url fault) ∧ view run.2 = view t ∧ view' run'.2 = view' s) ∧
    ∀ request, client.prepare method path parameters body = .ok request →
      (view t).Repeats request 0 k (view run.2) ∧ (view' s).Repeats request 0 k (view' run'.2) ∧
      ∃ reply, replies[k - 1]? = some reply ∧ run.1 = client.outcome path reply ∧
        (Concludes client path reply run.1 ↔ ¬ Stray client.levels reply) := by
  intro k run run'
  have counted : 1 ≤ client.attempts ∧ client.attempts ≤ 1025 := by
    rw [attempts]
    split <;> omega
  cases prepared : client.prepare method path parameters body with
  | error fault =>
    have nothing : run = (.error (.url fault), t) := request_of_fault counted.1 prepared t
    have nothing' : run' = (.error (.url fault), s) := request_of_fault counted.1 prepared s
    rw [nothing, nothing']
    refine ⟨rfl, fun same => ?_, fun fault' same => ?_, fun request same => ?_⟩
    · cases same
    · cases same
      exact ⟨rfl, rfl, rfl⟩
    · cases same
  | ok request =>
    obtain ⟨repeats, reply, stands, brings⟩ :=
      request_on_script shows counted.1 counted.2 prepared script enough
    obtain ⟨repeats', reply', stands', brings'⟩ :=
      request_on_script shows' counted.1 counted.2 prepared script' enough
    obtain rfl : reply = reply' := Option.some.inj (stands.symm.trans stands')
    have mem : reply ∈ replies := List.mem_of_getElem? stands
    refine ⟨brings.trans brings'.symm, ?_, fun fault same => ?_, fun request' same => ?_⟩
    · rw [brings]
      exact outcome_ne_noAttempt client path reply
    · cases same
    · cases same
      refine ⟨repeats, repeats', reply, stands, brings, ?_⟩
      rw [brings]
      refine concludes_iff client path fun fault same => transported fault ?_
      rwa [← same]

/-- A service that is out of reach for the moment and then refuses the request, with an issue that
has no place: there are two requests and a pause of half a second, however the client waits, and no
refusal in the class of the status. -/
theorem request_stops_placeless :
    let issue : Fields := [("loc", .arr []), ("msg", .str "bad")]
    let last : Response := .ofJson 422 (.obj [("detail", .arr [.obj issue])])
    let script := Script.ofReplies [.ok (.ofText 503 ""), .ok last]
    ∃ client, ofAddress "http://backend" defaultTimeout true 1 = .ok client ∧
      let run := client.request "GET" "/files" none none script
      let run' := client.request "GET" "/files" none none (Awaited.mk script 0)
      run.1 = run'.1 ∧ run.2.requests.length = 2 ∧ run'.2.script.requests.length = 2 ∧
        run.2.pauses.map Duration.seconds? = [some (1 / 2)] ∧
        ¬ Concludes client "/files" (.ok last) run.1 := by
  intro issue last script
  obtain ⟨client, opened, retries, maxRetries, levels, request, prepared⟩ : ∃ client,
      ofAddress "http://backend" defaultTimeout true 1 = .ok client ∧ client.retries = true ∧
      client.maxRetries = 1 ∧ client.levels = none ∧
      ∃ request, client.prepare "GET" "/files" none none = .ok request :=
    ⟨_, rfl, rfl, rfl, rfl, _, rfl⟩
  have two : client.attempts = 2 := by rw [attempts, retries, maxRetries]; rfl
  have read : last.value client.levels = .ok (.obj [("detail", .arr [.obj issue])]) := by
    rw [levels]
    exact Response.value_placeless 422 "bad"
  have stray : Stray client.levels (.ok last) :=
    .placeless last _ [.obj issue] issue rfl read rfl (List.mem_singleton.mpr rfl)
      ⟨_, _, rfl, rfl⟩
  have transported (fault : TransportFault) (mem : .error fault ∈ script.replies) :
      fault.isTransport = true := by simp [script, Script.ofReplies] at mem
  have enough : client.attempts ≤ script.replies.length := by rw [two]; rfl
  have shown : (id script).replies = script.replies := rfl
  have shown' : (Awaited.mk script 0).script.replies = script.replies := rfl
  obtain ⟨same, -, -, sent⟩ := request_stops Script.shows_id Awaited.shows_script (by omega)
    (by omega) "GET" "/files" none none shown shown' transported enough
  obtain ⟨⟨requests, pauses, waits, lengths⟩, ⟨requests', -⟩, reply, stands, -, concludes⟩ :=
    sent request prepared
  have taken : attemptsTaken client.attempts.toNat script.replies = 2 := by rw [two]; rfl
  rw [taken] at requests requests' lengths stands
  obtain rfl : .ok last = reply := Option.some.inj stands
  refine ⟨client, opened, same, ?_, ?_, ?_, not_not_intro stray ∘ concludes.mp⟩
  · exact congrArg List.length requests
  · exact congrArg List.length requests'
  · rw [show (client.request "GET" "/files" none none script).2.pauses = pauses from waits, lengths]
    norm_num

end Client

end Attempts

end Http

end Workbench
