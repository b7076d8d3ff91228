import Workbench.Http.Client
import Workbench.Proofs.Json.Loading
import Mathlib.Data.List.Basic

/-!
# The reply that counts

A client sends a request until a reply is final or no attempt is left. Whatever came before, a call
ends with what that last reply brings (`request_eq`): replies that are passed over leave no trace,
and with at most a thousand attempts no pause between them is too long.

A refusal is explained in the words of its body. Every body is understood but one that lists an
issue with a place that has no last item (`exists_ofResponse_eq_ok_iff`), if its value is not nested
too deep to be read.
-/

namespace Workbench.Http

/-- A list is mapped exactly if each of its items is. -/
theorem exists_mapM_eq_ok_iff {ε α β : Type} {f : α → Except ε β} {xs : List α} :
    (∃ ys, xs.mapM f = .ok ys) ↔ ∀ x ∈ xs, ∃ y, f x = .ok y := by
  induction xs with
  | nil => simp [pure, Except.pure]
  | cons x xs ih =>
    rw [List.mapM_cons, List.forall_mem_cons, ← ih]
    cases hx : f x with
    | error e => simp [bind, Except.bind]
    | ok y => cases hxs : xs.mapM f <;> simp [bind, Except.bind, pure, Except.pure]

/-- The error of a list that is mapped is that of one of its items. -/
theorem exists_of_mapM_eq_error {ε α β : Type} {f : α → Except ε β} {xs : List α} {e : ε}
    (h : xs.mapM f = .error e) : ∃ x ∈ xs, f x = .error e := by
  induction xs with
  | nil => cases h
  | cons x xs ih =>
    rw [List.mapM_cons] at h
    cases hx : f x with
    | error e' =>
      rw [hx] at h
      cases h
      exact ⟨x, List.mem_cons_self, hx⟩
    | ok y =>
      rw [hx] at h
      cases hxs : xs.mapM f with
      | error e' =>
        rw [hxs] at h
        cases h
        obtain ⟨z, mem, hz⟩ := ih hxs
        exact ⟨z, List.mem_cons_of_mem x mem, hz⟩
      | ok ys =>
        rw [hxs] at h
        cases h

/-! ## Attempts -/

variable {τ : Type} [Transport τ]

/-- The reply with which the attempts end; `attempt` counts those before, and up to `left` more
follow the next one. -/
def finalReply (request : Request) (attempt : Nat) : Nat → τ → Except TransportFault Response
  | 0, t => (Transport.send request t).1
  | left + 1, t =>
    let (reply, t) := Transport.send request t
    if Client.isPassing reply then
      match Backoff.delay (.real Backoff.standardBase) attempt with
      | .ok pause => finalReply request (attempt + 1) left (Transport.pause pause t)
      | .error _ => reply
    else reply

namespace Client

variable {client : Client} {request : Request} {method path : String}
variable {parameters : Option Schema.Fields} {body : Option Json}

/-- The pauses of as many attempts can be computed. -/
theorem exists_delay_eq_ok {attempt : Nat} (h : attempt < 1024) :
    ∃ pause, Backoff.delay (.real Backoff.standardBase) attempt = .ok pause :=
  ⟨_, if_neg (Nat.not_le.mpr h)⟩

/-- The attempts bring what the final reply brings. -/
theorem attemptFrom_eq (client : Client) (path : String) (request : Request)
    {attempt left : Nat} (few : attempt + left ≤ 1024) (t : τ) :
    (client.attemptFrom path request attempt left t).1 =
      client.outcome path (finalReply request attempt left t) := by
  induction left generalizing attempt t with
  | zero => rfl
  | succ left ih =>
    rw [attemptFrom, finalReply]
    dsimp only
    split
    · have early : attempt < 1024 := by omega
      obtain ⟨pause, short⟩ := exists_delay_eq_ok early
      rw [short]
      exact ih (by omega) _
    · rfl

/-- How many attempts follow the first one. -/
def more (client : Client) : Nat :=
  client.attempts.toNat - 1

/-- A call makes its attempts, if its path is an address. -/
theorem request_of_prepared (some_attempt : 1 ≤ client.attempts)
    (prepared : client.prepare method path parameters body = .ok request) (t : τ) :
    client.request method path parameters body t =
      client.attemptFrom path request 0 client.more t := by
  obtain ⟨left, count⟩ : ∃ left, client.attempts.toNat = left + 1 :=
    Nat.exists_eq_succ_of_ne_zero (by omega)
  rw [Client.request, more, count]
  dsimp only
  rw [prepared, Nat.add_sub_cancel]

/-- A call brings what the final reply to its request brings, if its path is an address. -/
theorem request_eq (some_attempt : 1 ≤ client.attempts) (few : client.attempts ≤ 1024)
    (prepared : client.prepare method path parameters body = .ok request) (t : τ) :
    (client.request method path parameters body t).1 =
      client.outcome path (finalReply request 0 client.more t) := by
  rw [request_of_prepared some_attempt prepared]
  exact attemptFrom_eq client path request (by rw [more]; omega) t

/-- Nothing is sent to a path that is no address. -/
theorem request_of_fault {fault : UrlFault} (some_attempt : 1 ≤ client.attempts)
    (unusable : client.prepare method path parameters body = .error fault) (t : τ) :
    client.request method path parameters body t = (.error (.url fault), t) := by
  obtain ⟨left, count⟩ : ∃ left, client.attempts.toNat = left + 1 :=
    Nat.exists_eq_succ_of_ne_zero (by omega)
  rw [Client.request, count]
  dsimp only
  rw [unusable]

/-- With as many retries as there are unless something else is given, a client makes four attempts,
or one if it does not try again. -/
theorem attempts_of_ofAddress {address : String} {timeout : Duration} {retries : Bool}
    {levels : Option Nat}
    (opened : ofAddress address timeout retries defaultMaxRetries levels = .ok client) :
    client.attempts = if retries then 4 else 1 := by
  rw [ofAddress] at opened
  cases parsed : Url.parse (Text.withoutTrailingSlashes address) with
  | error fault =>
    rw [parsed] at opened
    cases opened
  | ok url =>
    rw [parsed] at opened
    cases rooted : url.asDirectory with
    | error fault => simp [bind, Except.bind, rooted] at opened
    | ok root =>
      simp only [bind, Except.bind, rooted, pure, Except.pure, Except.ok.injEq] at opened
      rw [← opened, attempts]
      rfl

end Client

/-! ## Explanations -/

namespace Explanation

open Schema (Fields)

variable {fields : Fields} {issues : List Json} {response : Response}

/-- An issue says where it is, but by a value that has no last item: an empty list or text, an
object, or no list at all. -/
def Placeless (issue : Fields) : Prop :=
  ∃ place fault, Entries.lookup "loc" issue = some place ∧ lastItem place = .error fault

/-- An issue can be put into words exactly if its place has a last item. -/
theorem exists_ofIssue_eq_ok_iff : (∃ text, ofIssue fields = .ok text) ↔ ¬ Placeless fields := by
  rw [ofIssue, Placeless]
  cases place : Entries.lookup "loc" fields with
  | none => simp [lastItem, bind, Except.bind, pure, Except.pure]
  | some value =>
    cases last : lastItem value <;> simp [last, bind, Except.bind, pure, Except.pure]

/-- So it is for a list: each of its issues must have one. -/
theorem exists_ofIssues_eq_ok_iff : (∃ explanation, ofIssues issues = .ok explanation) ↔
    ∀ issue, .obj issue ∈ issues → ¬ Placeless issue := by
  have texts : (∃ explanation, ofIssues issues = .ok explanation) ↔
      ∃ texts, (issues.filterMap Json.obj?).mapM ofIssue = .ok texts := by
    rw [ofIssues]
    cases (issues.filterMap Json.obj?).mapM ofIssue <;>
      simp [bind, Except.bind, pure, Except.pure]
  have objects (issue : Fields) : issue ∈ issues.filterMap Json.obj? ↔ .obj issue ∈ issues := by
    rw [List.mem_filterMap]
    constructor
    · rintro ⟨value, mem, same⟩
      cases value <;> cases same
      exact mem
    · exact fun mem => ⟨_, mem, rfl⟩
  rw [texts, exists_mapM_eq_ok_iff]
  simp only [objects, exists_ofIssue_eq_ok_iff]

/-- Without a list of issues, an object is always understood. -/
theorem exists_ofFields_eq_ok
    (unlisted : ∀ issues, Entries.lookup "detail" fields ≠ some (.arr issues)) :
    ∃ explanation, ofFields fields = .ok explanation := by
  rw [ofFields]
  split
  · next issues listed => exact absurd listed (unlisted issues)
  · exact ⟨_, rfl⟩
  · exact ⟨_, rfl⟩
  · split <;> exact ⟨_, rfl⟩

/-- A body is understood unless it is an object with a list of issues as its detail, and one of them
is placeless. -/
theorem exists_ofResponse_eq_ok_iff {value : Option Json} :
    (∃ explanation, ofResponse response value = .ok explanation) ↔
      ∀ fields issues issue, value = some (.obj fields) →
        Entries.lookup "detail" fields = some (.arr issues) → .obj issue ∈ issues →
          ¬ Placeless issue := by
  cases value with
  | none => simp [ofResponse]
  | some value =>
    cases value with
    | obj fields =>
      rw [ofResponse]
      by_cases listed : ∃ issues, Entries.lookup "detail" fields = some (.arr issues)
      · obtain ⟨issues, listed⟩ := listed
        rw [ofFields, listed]
        dsimp only
        rw [exists_ofIssues_eq_ok_iff]
        constructor
        · rintro all _ _ issue ⟨⟩ found
          rw [listed] at found
          cases found
          exact all issue
        · exact fun all issue => all fields issues issue rfl listed
      · push Not at listed
        refine iff_of_true (exists_ofFields_eq_ok listed) fun fields' issues issue same found => ?_
        cases same
        exact absurd found (listed issues)
    | _ => simp [ofResponse]

end Explanation

/-! ## Responses -/

namespace Response

variable {response : Response} {levels : Option Nat} {value : Option Json} {error : Json.LoadError}

/-- A body of JSON without numbers has the value it was written for, if it is not nested too deep. -/
theorem value_ofJson {status : Int} {j : Json} (plain : j.Plain) (given : j ≠ .null)
    (admitted : (Json.Mode.lenient levels).Admits j) : (ofJson status j).value levels = .ok j := by
  have body : (ofJson status j).bytes = j.compact.toUTF8.toList := by
    cases j with
    | null => exact absurd rfl given
    | _ => rfl
  rw [value, body, Json.load_compact plain admitted]

/-- The body has a value, and it can be read. -/
theorem value?_eq_some_iff {value : Json} :
    response.value? levels = .ok (some value) ↔ response.value levels = .ok value := by
  rw [value?]
  cases response.value levels with
  | ok value' => simp
  | error e => cases deep : e.isTooDeep <;> simp [deep]

/-- The body has a value that cannot be read. -/
theorem value?_eq_error_iff : response.value? levels = .error error ↔
    response.value levels = .error error ∧ error.isTooDeep = true := by
  rw [value?]
  cases response.value levels with
  | ok value => simp
  | error e =>
    dsimp only
    split
    · next deep =>
      rw [Except.error.injEq, Except.error.injEq]
      exact ⟨fun same => ⟨same, same ▸ deep⟩, And.left⟩
    · next flat =>
      rw [Except.error.injEq]
      exact iff_of_false nofun fun sunk => flat (sunk.1 ▸ sunk.2)

/-- A success brings its content. -/
theorem outcome_of_success (success : response.isSuccess = true) :
    response.outcome levels = (response.content levels).mapError .unreadable :=
  if_pos success

/-- A refusal whose body is nested too deep. -/
theorem outcome_of_tooDeep (refused : response.isSuccess = false)
    (deep : response.value? levels = .error error) :
    response.outcome levels = .error (.unreadable error) := by
  rw [outcome, refused, if_neg Bool.false_ne_true, Refusal.ofResponse, deep]
  rfl

/-- A refusal that cannot be explained fails in its own way. -/
theorem outcome_of_unexplained {fault : PartFault} (refused : response.isSuccess = false)
    (read : response.value? levels = .ok value)
    (bad : Explanation.ofResponse response value = .error fault) :
    response.outcome levels = .error (.part fault) := by
  rw [outcome, refused, if_neg Bool.false_ne_true, Refusal.ofResponse, read]
  simp only [Except.mapError, bind, Except.bind, bad]

/-- A refusal that can be explained is reported with its status, class and body. -/
theorem exists_outcome_of_explained {explanation : Explanation} (refused : response.isSuccess = false)
    (read : response.value? levels = .ok value)
    (explained : Explanation.ofResponse response value = .ok explanation) :
    ∃ refusal, Refusal.ofResponse levels response = .ok refusal ∧
      response.outcome levels = .error (.call (.refused refusal)) ∧
      refusal.kind = RefusalClass.ofStatus response.status ∧ refusal.status = response.status ∧
      refusal.body = value.getD (.str response.text) := by
  rw [outcome, refused, if_neg Bool.false_ne_true, Refusal.ofResponse, read]
  simp only [Except.mapError, bind, Except.bind, explained, pure, Except.pure]
  exact ⟨_, rfl, rfl, rfl, rfl, rfl⟩

end Response

end Workbench.Http
