import Workbench.Proofs.Http.Replies

/-!
# Refusals in the class of their status

A response that is no success is reported as a refusal: in the class of its status
(`RefusalClass.Covers`), with the status and with the body, decoded where it can be
(`Refusal.Reports`). On the way the words of the refusal are dug out of the body, by look-ups and
last items that could fail. They fail for bodies of one shape only, a list of issues one of which
says where it is by a value that has no last item (`Astray`); the first such issue of the list is
what the response comes to (`Strays`), and there is no refusal. Nor is there one if the value of the
body is nested deeper than can be read; of all other bodies that have no value the text is reported
(`refused_iff`).
-/

namespace Workbench.Http

open Schema (Fields)

/-- The statuses of which a class of refusals consists. -/
inductive RefusalClass.Covers : RefusalClass → Int → Prop
  | invalid : Covers .invalid 422
  | notFound : Covers .notFound 404
  | conflict : Covers .conflict 409
  | server {status : Int} (failed : 500 ≤ status) : Covers .server status
  | other {status : Int} (low : status < 500) (named : status ∉ [422, 404, 409]) :
      Covers .other status

/-- A refusal is in the class of the status of a response, and carries the status and the body: its
value, or its text where it has none. -/
structure Refusal.Reports (refusal : Refusal) (levels : Option Nat) (response : Response) :
    Prop where
  kind : refusal.kind.Covers response.status
  status : refusal.status = response.status
  value : ∀ value, response.value levels = .ok value → refusal.body = value
  text : ∀ error, response.value levels = .error error → refusal.body = .str response.text

namespace Explanation

/-- A place has no last item, for the given reason: it is an empty list or text, an object, or no
sequence at all. -/
inductive Astray : Json → PartFault → Prop
  | emptyList : Astray (.arr []) .noItem
  | emptyText : Astray (.str "") .noCharacter
  | object (fields : Fields) : Astray (.obj fields) (.noKey "-1")
  | null : Astray .null (.notIndexable "NoneType")
  | bool (b : Bool) : Astray (.bool b) (.notIndexable "bool")
  | int (n : Int) : Astray (.int n) (.notIndexable "int")
  | real (x : Decimal.Binary64) : Astray (.real x) (.notIndexable "float")

/-- The first issue of a list that has no place, with the reason. What is no object is no issue. -/
inductive Strays : List Json → PartFault → Prop
  | here {issue : Fields} {place : Json} {fault : PartFault} (rest : List Json)
      (located : Entries.lookup "loc" issue = some place) (astray : Astray place fault) :
      Strays (.obj issue :: rest) fault
  | later {item : Json} {rest : List Json} {fault : PartFault}
      (placed : ∀ issue, item = .obj issue → ¬ Placeless issue) (strays : Strays rest fault) :
      Strays (item :: rest) fault

end Explanation

/-- The body of a response lists issues, and the first of them that has no place has none for the
given reason. -/
def Response.Misplaces (levels : Option Nat) (response : Response) (fault : PartFault) : Prop :=
  ∃ fields issues, response.value levels = .ok (.obj fields) ∧
    Entries.lookup "detail" fields = some (.arr issues) ∧ Explanation.Strays issues fault

/-- The body of a response has a value that is nested too deep to be read. -/
def Response.Sinks (levels : Option Nat) (response : Response) (error : Json.LoadError) : Prop :=
  response.value levels = .error error ∧ error.isTooDeep = true

variable {response : Response} {refusal : Refusal} {fault : PartFault} {issues : List Json}
variable {fields issue : Fields} {place : Json} {levels : Option Nat}

/-! ## Classes -/

/-- Each status is covered by its class. -/
theorem RefusalClass.covers_ofStatus (status : Int) : (ofStatus status).Covers status := by
  rw [ofStatus]
  split
  · next same => exact same ▸ .invalid
  · split
    · next same => exact same ▸ .notFound
    · split
      · next same => exact same ▸ .conflict
      · split
        · next failed => exact .server failed
        · next low =>
          refine .other (Int.not_le.mp low) ?_
          simp only [List.mem_cons, List.not_mem_nil, or_false, not_or]
          exact ⟨‹_›, ‹_›, ‹_›⟩

/-! ## Places -/

namespace Explanation

/-- When a place has no last item, and why. -/
theorem lastItem_eq_error_iff : lastItem place = .error fault ↔ Astray place fault := by
  constructor
  · intro none
    cases place with
    | arr items =>
      rw [lastItem] at none
      cases last : items.getLast? with
      | none =>
        rw [last] at none
        cases none
        obtain rfl : items = [] := List.getLast?_eq_none_iff.mp last
        exact .emptyList
      | some item =>
        rw [last] at none
        cases none
    | str text =>
      rw [lastItem] at none
      cases chars : text.toList.getLast? with
      | none =>
        rw [chars] at none
        cases none
        obtain rfl : text = "" := by
          rw [← String.toList_eq_nil_iff]
          exact List.getLast?_eq_none_iff.mp chars
        exact .emptyText
      | some c =>
        rw [chars] at none
        cases none
    | obj fields =>
      cases none
      exact .object fields
    | null =>
      cases none
      exact .null
    | bool b =>
      cases none
      exact .bool b
    | int n =>
      cases none
      exact .int n
    | real x =>
      cases none
      exact .real x
  · intro astray
    cases astray <;> rfl

/-- An issue has no words if it says where it is, and by a value without a last item. -/
theorem ofIssue_eq_error_iff : ofIssue issue = .error fault ↔
    ∃ place, Entries.lookup "loc" issue = some place ∧ Astray place fault := by
  rw [ofIssue]
  cases located : Entries.lookup "loc" issue with
  | none => simp [lastItem, bind, Except.bind, pure, Except.pure]
  | some place =>
    simp only [Option.getD_some, Option.some.injEq, exists_eq_left', ← lastItem_eq_error_iff]
    cases lastItem place <;> simp [bind, Except.bind, pure, Except.pure]

/-- What is no object is passed over. -/
theorem strays_cons_iff_of_other {item : Json} {rest : List Json} (other : item.obj? = none) :
    Strays (item :: rest) fault ↔ Strays rest fault := by
  refine ⟨fun strays => ?_, .later fun issue same => by cases same ▸ other⟩
  cases strays with
  | here => cases other
  | later _ strays => exact strays

/-- An issue is at fault itself, or it has a place and one behind it is at fault. -/
theorem strays_obj_cons_iff {rest : List Json} : Strays (.obj issue :: rest) fault ↔
    ofIssue issue = .error fault ∨ ¬ Placeless issue ∧ Strays rest fault := by
  constructor
  · intro strays
    cases strays with
    | here _ located astray => exact .inl (ofIssue_eq_error_iff.mpr ⟨_, located, astray⟩)
    | later placed strays => exact .inr ⟨placed issue rfl, strays⟩
  · rintro (worded | ⟨placed, strays⟩)
    · obtain ⟨place, located, astray⟩ := ofIssue_eq_error_iff.mp worded
      exact .here rest located astray
    · refine .later ?_ strays
      rintro _ ⟨⟩
      exact placed

/-- Of the issues of a list the first one without a place is at fault. -/
theorem mapM_ofIssue_eq_error_iff :
    (issues.filterMap Json.obj?).mapM ofIssue = .error fault ↔ Strays issues fault := by
  induction issues with
  | nil => exact iff_of_false nofun nofun
  | cons item rest ih =>
    cases object : item.obj? with
    | none => rw [List.filterMap_cons_none object, ih, strays_cons_iff_of_other object]
    | some issue =>
      obtain rfl : item = .obj issue := by
        cases item <;> cases object
        rfl
      rw [List.filterMap_cons_some object, List.mapM_cons, strays_obj_cons_iff, ← ih]
      cases worded : ofIssue issue with
      | error fault' =>
        have nowhere : Placeless issue := by
          by_contra placed
          obtain ⟨text, found⟩ := exists_ofIssue_eq_ok_iff.mpr placed
          cases worded.symm.trans found
        simp [bind, Except.bind, nowhere]
      | ok text =>
        have placed : ¬ Placeless issue := exists_ofIssue_eq_ok_iff.mp ⟨text, worded⟩
        cases (rest.filterMap Json.obj?).mapM ofIssue <;>
          simp [bind, Except.bind, pure, Except.pure, placed]

/-- A list of issues is not put into words if one of them is misplaced; the first one is to
blame. -/
theorem ofIssues_eq_error_iff : ofIssues issues = .error fault ↔ Strays issues fault := by
  rw [← mapM_ofIssue_eq_error_iff, ofIssues]
  cases (issues.filterMap Json.obj?).mapM ofIssue <;> simp [bind, Except.bind, pure, Except.pure]

/-- Nothing but a list of issues keeps a response from being explained. -/
theorem ofResponse_eq_error_iff {value : Option Json} : ofResponse response value = .error fault ↔
    ∃ fields issues, value = some (.obj fields) ∧
      Entries.lookup "detail" fields = some (.arr issues) ∧ Strays issues fault := by
  constructor
  · intro unexplained
    cases value with
    | none => cases unexplained
    | some value =>
      cases value with
      | obj fields =>
        rw [ofResponse] at unexplained
        by_cases listed : ∃ issues, Entries.lookup "detail" fields = some (.arr issues)
        · obtain ⟨issues, listed⟩ := listed
          rw [ofFields, listed] at unexplained
          exact ⟨fields, issues, rfl, listed, ofIssues_eq_error_iff.mp unexplained⟩
        · push Not at listed
          obtain ⟨explanation, explained⟩ := exists_ofFields_eq_ok listed
          cases explained.symm.trans unexplained
      | _ => cases unexplained
  · rintro ⟨fields, issues, rfl, listed, strays⟩
    rw [ofResponse, ofFields, listed]
    exact ofIssues_eq_error_iff.mpr strays

end Explanation

/-! ## Refusals -/

namespace Response

/-- What keeps a response from being explained is an issue of its body. -/
theorem misplaces_iff {value : Option Json} (read : response.value? levels = .ok value) :
    response.Misplaces levels fault ↔ Explanation.ofResponse response value = .error fault := by
  rw [Explanation.ofResponse_eq_error_iff, Misplaces]
  have same (fields : Fields) :
      response.value levels = .ok (.obj fields) ↔ value = some (.obj fields) := by
    rw [← value?_eq_some_iff, read, Except.ok.injEq]
  simp only [same]

/-- A body whose value is nested too deep lists no issue. -/
theorem Sinks.not_misplaces {error : Json.LoadError} (deep : response.Sinks levels error)
    (fault : PartFault) : ¬ response.Misplaces levels fault := by
  rintro ⟨fields, issues, read, -⟩
  cases deep.1.symm.trans read

/-- What a response is reported as, it is reported faithfully. -/
theorem exists_reports {explanation : Explanation} {value : Option Json}
    (refused : response.isSuccess = false) (read : response.value? levels = .ok value)
    (explained : Explanation.ofResponse response value = .ok explanation) :
    ∃ refusal, response.outcome levels = .error (.call (.refused refusal)) ∧
      refusal.Reports levels response := by
  obtain ⟨refusal, -, outcome, kind, status, body⟩ :=
    exists_outcome_of_explained refused read explained
  refine ⟨refusal, outcome, ?_, status, fun value' found => ?_, fun error none => ?_⟩
  · rw [kind]
    exact RefusalClass.covers_ofStatus response.status
  · rw [← value?_eq_some_iff, read, Except.ok.injEq] at found
    rw [body, found, Option.getD_some]
  · cases value with
    | none => rw [body, Option.getD_none]
    | some value =>
      rw [value?_eq_some_iff, none] at read
      cases read

/-- **Every refusal is in the class of its status.** A response that is no success, with any status
and any body, is reported as the refusal of its class with its status and body, with two exceptions.
If its body lists an issue that has no place, it comes to the fault of the first such issue; if its
body has a value that is nested too deep to be read, it comes to the error of reading it. -/
theorem refused_iff (levels : Option Nat) (refused : response.isSuccess = false) :
    ((∃ refusal, response.outcome levels = .error (.call (.refused refusal)) ∧
        refusal.Reports levels response) ↔
      (∀ fault, ¬ response.Misplaces levels fault) ∧ ∀ error, ¬ response.Sinks levels error) ∧
    (∀ fault, response.outcome levels = .error (.part fault) ↔ response.Misplaces levels fault) ∧
    ∀ error, response.outcome levels = .error (.unreadable error) ↔
      response.Sinks levels error := by
  cases read : response.value? levels with
  | error error =>
    have deep : response.Sinks levels error := value?_eq_error_iff.mp read
    have outcome := outcome_of_tooDeep refused read
    refine ⟨iff_of_false ?_ fun none => none.2 error deep, fun fault => ?_, fun other => ?_⟩
    · rintro ⟨refusal, reported, -⟩
      cases outcome.symm.trans reported
    · exact iff_of_false (fun comes => by cases outcome.symm.trans comes) (deep.not_misplaces fault)
    · rw [outcome, Except.error.injEq, Failure.unreadable.injEq]
      exact ⟨fun same => same ▸ deep, fun sunk => by cases deep.1.symm.trans sunk.1; rfl⟩
  | ok value =>
    have shallow (error : Json.LoadError) : ¬ response.Sinks levels error := fun deep => by
      cases read.symm.trans (value?_eq_error_iff.mpr deep)
    simp only [misplaces_iff read]
    cases explained : Explanation.ofResponse response value with
    | ok explanation =>
      obtain ⟨refusal, outcome, reports⟩ := exists_reports refused read explained
      refine ⟨iff_of_true ⟨refusal, outcome, reports⟩ ⟨nofun, shallow⟩, fun fault =>
        iff_of_false (fun comes => ?_) nofun, fun error =>
        iff_of_false (fun comes => ?_) (shallow error)⟩
      · cases outcome.symm.trans comes
      · cases outcome.symm.trans comes
    | error fault =>
      have outcome := outcome_of_unexplained refused read explained
      refine ⟨iff_of_false ?_ fun none => none.1 fault rfl, fun fault' => ?_, fun error =>
        iff_of_false (fun comes => ?_) (shallow error)⟩
      · rintro ⟨refusal, reported, -⟩
        cases outcome.symm.trans reported
      · rw [outcome, Except.error.injEq, Except.error.injEq, Failure.part.injEq]
      · cases outcome.symm.trans comes

/-- A body that lists one issue without a place is read. -/
theorem value_placeless (status : Int) (what : String) :
    let issue : Fields := [("loc", .arr []), ("msg", .str what)]
    (ofJson status (.obj [("detail", .arr [.obj issue])])).value none =
      .ok (.obj [("detail", .arr [.obj issue])]) := by
  intro issue
  have distinct : (Entries.keys issue).Nodup := show ["loc", "msg"].Nodup by decide
  have plain : (Json.obj issue).Plain :=
    .obj _ distinct (List.forall_mem_cons.mpr
      ⟨.arr [] (List.forall_mem_nil _), List.forall_mem_singleton.mpr (.str what)⟩)
  have listed : (Json.arr [.obj issue]).Plain := .arr _ (List.forall_mem_singleton.mpr plain)
  exact value_ofJson (.obj _ (List.nodup_singleton _) (List.forall_mem_singleton.mpr listed)) nofun
    (Json.Mode.admits_of_unlimited rfl _)

/-- A service that finds the body of a request invalid as a whole: the place of the issue is empty,
and the response comes to an item that is not there instead of a refusal. -/
theorem refused_iff_issue_of_whole_body :
    let issue : Fields := [("loc", .arr []), ("msg", .str "body is required")]
    let response : Response := .ofJson 422 (.obj [("detail", .arr [.obj issue])])
    response.isSuccess = false ∧ response.outcome none = .error (.part .noItem) ∧
      ¬ ∃ refusal, response.outcome none = .error (.call (.refused refusal)) ∧
        refusal.Reports none response := by
  intro issue response
  have refused : response.isSuccess = false := rfl
  have read : response.value none = .ok (.obj [("detail", .arr [.obj issue])]) :=
    value_placeless 422 "body is required"
  have misplaces : response.Misplaces none .noItem :=
    ⟨_, _, read, rfl, .here [] rfl .emptyList⟩
  obtain ⟨reported, comes, -⟩ := refused_iff none refused
  exact ⟨refused, (comes .noItem).mpr misplaces, fun found =>
    (reported.mp found).1 .noItem misplaces⟩

end Response

end Workbench.Http
