import Workbench.Proofs.Entries
import Workbench.Proofs.Json.Nesting
import Workbench.Service.Handle

/-!
# What a refused body is answered with

The reply to a body that does not pass its check repeats the values that are wrong. They are parts
of the body (`checkBody_eq_error`), so the reply is the intended one whenever JSON can express the
body and the body is not nested too deep (`status_badBody`).
-/

namespace Workbench.Service

open Schema (Check Fault Fields Issue Place required text textFrom textUpTo)

/-! ## What JSON can express -/

/-- Items are plain if each of them is. -/
theorem arePlain_iff {items : List Json} :
    arePlain items = true ↔ ∀ item ∈ items, isPlain item = true := by
  induction items with
  | nil => simp [arePlain]
  | cons item rest ih => simp [arePlain, ih]

/-- Fields are plain if each of them is. -/
theorem arePlainFields_iff {fields : Fields} :
    arePlainFields fields = true ↔ ∀ field ∈ fields, isPlain field.2 = true := by
  induction fields with
  | nil => simp [arePlainFields]
  | cons field rest ih => simp [arePlainFields, ih]

/-- So is an array of them. -/
theorem isPlain_arr {items : List Json} :
    isPlain (.arr items) = true ↔ ∀ item ∈ items, isPlain item = true :=
  arePlain_iff

/-- So is an object of them. -/
theorem isPlain_obj {fields : Fields} :
    isPlain (.obj fields) = true ↔ ∀ field ∈ fields, isPlain field.2 = true :=
  arePlainFields_iff

@[simp] theorem isPlain_str (s : String) : isPlain (.str s) = true := rfl

/-- The place of an issue can be reported in any case. -/
theorem isPlain_pathJson (issue : Issue) : isPlain issue.pathJson = true := by
  refine isPlain_arr.mpr fun step mem => ?_
  obtain ⟨place, -, rfl⟩ := List.mem_map.mp mem
  cases place <;> rfl

/-- So can what is said about its fault. -/
theorem isPlain_of_context? {fault : Fault} {context : Json} (h : fault.context? = some context) :
    isPlain context = true := by
  cases fault <;> cases h <;> rfl

/-- The value that is wrong is the only part of a report that JSON may not be able to express. -/
theorem isPlain_fullReport {issue : Issue} (h : isPlain issue.input = true) :
    isPlain issue.fullReport = true := by
  have fields : ∀ field ∈ [("type", Json.str issue.fault.code), ("loc", issue.pathJson),
      ("msg", .str issue.fault.message), ("input", issue.input)], isPlain field.2 = true := by
    simp [isPlain_pathJson, h]
  unfold Issue.fullReport
  cases context : issue.fault.context? with
  | none => exact isPlain_obj.mpr fields
  | some value =>
    refine isPlain_obj.mpr fun field mem => ?_
    rcases List.mem_append.mp mem with mem | mem
    · exact fields field mem
    · rw [List.mem_singleton.mp mem]
      exact isPlain_of_context? context

/-! ## Parts -/

/-- A value itself, or the value of one of its fields. -/
inductive IsPart (whole : Json) : Json → Prop
  | itself : IsPart whole whole
  | field {fields : Fields} {key : String} {value : Json} : whole = .obj fields →
      Entries.lookup key fields = some value → IsPart whole value

section IsPart

variable {whole part : Json}

/-- JSON can express the parts of what it can express. -/
theorem IsPart.isPlain (h : IsPart whole part) (plain : isPlain whole = true) :
    isPlain part = true := by
  cases h with
  | itself => exact plain
  | field same held =>
    subst same
    exact isPlain_obj.mp plain _ (Entries.mem_of_lookup held)

/-- A part is not nested deeper than the whole. -/
theorem IsPart.nesting_le (h : IsPart whole part) :
    Json.nesting false part ≤ Json.nesting false whole := by
  cases h with
  | itself => exact Nat.le_refl _
  | @field fields key _ same held =>
    subst same
    have mem := Entries.mem_of_lookup held
    have levels : Json.nesting false (.obj fields) ≤ Json.nesting false (.obj fields) :=
      Nat.le_refl _
    have below := ((Json.nesting_obj_le_iff (List.ne_nil_of_mem mem)).mp levels).2 _ mem
    exact Nat.le_trans below (Nat.sub_le _ _)

end IsPart

/-! ## What issues are with -/

/-- The issues that a check finds are with parts of a value. -/
def Blames {α : Type} (whole : Json) (x : Check α) : Prop :=
  ∀ issues, x = .error issues → ∀ issue ∈ issues, IsPart whole issue.input

section Blames

variable {α β : Type} {x : Check α} {y : Check β} {fault : Fault} {whole input : Json}
variable {fields : Fields}

/-- A check that passes blames nothing. -/
theorem blames_ok (a : α) : Blames whole (.ok a : Check α) := nofun

/-- A check that fails blames its input. -/
theorem blames_fail (part : IsPart whole input) :
    Blames whole (Check.fail fault input : Check α) := by
  rintro issues ⟨⟩ issue mem
  rwa [List.mem_singleton.mp mem]

/-- What is blamed is part of the whole, however far inside. -/
theorem Blames.within (h : Blames whole x) (place : Place) : Blames whole (x.within place) := by
  cases x with
  | ok a => exact blames_ok a
  | error issues =>
    rintro _ ⟨⟩ issue mem
    obtain ⟨inner, found, rfl⟩ := List.mem_map.mp mem
    exact h issues rfl inner found

/-- Two checks side by side blame what each of them does. -/
theorem Blames.both (hx : Blames whole x) (hy : Blames whole y) : Blames whole (x.both y) := by
  cases x with
  | ok a =>
    cases y with
    | ok b => exact blames_ok (a, b)
    | error issues =>
      rintro _ ⟨⟩
      exact hy issues rfl
  | error issues =>
    cases y with
    | ok b =>
      rintro _ ⟨⟩
      exact hx issues rfl
    | error more =>
      rintro _ ⟨⟩ issue mem
      exact (List.mem_append.mp mem).elim (hx issues rfl issue) (hy more rfl issue)

/-- A further condition is reported with the same value. -/
theorem Blames.guard {p : α → Prop} [DecidablePred p] (hx : Blames whole x)
    (part : IsPart whole input) :
    Blames whole (x.refine fun a => if p a then Check.fail fault input else .ok a) := by
  cases x with
  | ok a =>
    show Blames whole (if p a then Check.fail fault input else .ok a)
    split
    · exact blames_fail part
    · exact blames_ok a
  | error issues =>
    rintro _ ⟨⟩
    exact hx issues rfl

/-- A check of a text blames what it checks. -/
theorem blames_text (part : IsPart whole input) : Blames whole (text input) := by
  cases input with
  | str s => exact blames_ok s
  | _ => exact blames_fail part

/-- So does one with a greatest length. -/
theorem blames_textUpTo (most : ℕ) (part : IsPart whole input) :
    Blames whole (textUpTo most input) :=
  (blames_text part).guard part

/-- So does one with a least length. -/
theorem blames_textFrom (least : ℕ) (part : IsPart whole input) :
    Blames whole (textFrom least input) :=
  (blames_text part).guard part

/-- So does the check of a name. -/
theorem blames_checkName (part : IsPart whole input) : Blames whole (checkName input) :=
  (blames_textFrom 1 part).guard part

/-- A field that is missing is reported with the whole record. -/
theorem blames_required (key : String) {check : Json → Check α}
    (h : ∀ {input}, IsPart (.obj fields) input → Blames (.obj fields) (check input)) :
    Blames (.obj fields) (required key check fields) := by
  unfold required
  cases found : Entries.lookup key fields with
  | none => exact (blames_fail .itself).within _
  | some input => exact (h (.field rfl found)).within _

end Blames

/-! ## Bodies -/

/-- The issues of a record are with parts of it. -/
def BlamesParts {α : Type} (check : Fields → Check α) : Prop :=
  ∀ fields, Blames (.obj fields) (check fields)

/-- The body with a line is blamed in parts. -/
theorem blamesParts_lineBody : BlamesParts lineBody :=
  fun _ => blames_required "input" (blames_textUpTo longestLine)

/-- So is the body with a text. -/
theorem blamesParts_completionBody : BlamesParts completionBody :=
  fun _ => blames_required "text" blames_text

/-- So is the body with a project. -/
theorem blamesParts_projectBody : BlamesParts projectBody :=
  fun _ => (blames_required "project_id" (blames_textFrom 1)).both
    (blames_required "project_name" blames_checkName)

/-- A body is refused with issues, each with a part of the body; that there is none is an issue with
`null`. -/
theorem checkBody_eq_error {α : Type} {check : Fields → Check α} (h : BlamesParts check)
    {body : Option Json} {refused : Refused} (bad : checkBody check body = .error refused) :
    ∃ issues, refused = .badBody issues ∧
      ∀ issue ∈ issues, IsPart (body.getD .null) issue.input := by
  obtain ⟨checked, checked_eq, blames⟩ : ∃ checked : Check α,
      checkBody check body = (checked.within (.name "body")).mapError .badBody ∧
        Blames (body.getD .null) checked := by
    match body with
    | some (.obj fields) => exact ⟨_, rfl, h fields⟩
    | none | some .null | some (.bool _) | some (.int _) | some (.real _) | some (.str _)
    | some (.arr _) => exact ⟨_, rfl, blames_fail .itself⟩
  rw [checked_eq] at bad
  cases within_eq : checked.within (.name "body") with
  | ok a =>
    rw [within_eq] at bad
    cases bad
  | error issues =>
    rw [within_eq] at bad
    cases bad
    exact ⟨issues, rfl, blames.within _ issues within_eq⟩

/-! ## The reply -/

/-- A body is refused with 422 unless the reply would have to repeat what is nested too deep, or what
JSON cannot express. -/
theorem status_badBody (levels : Option ℕ) (issues : List Issue) :
    (Reply.ofRefused levels (.badBody issues)).status = 422 ∨
      (Reply.ofRefused levels (.badBody issues)).status = 400 ∧
        (∃ issue ∈ issues, isPlain issue.input = false) ∨
      (Reply.ofRefused levels (.badBody issues)).status = 500 ∧
        ∃ n ∈ levels, ∃ issue ∈ issues, n < Json.nesting false issue.input := by
  rw [Reply.ofRefused, Reply.repeating]
  split
  next deep =>
    refine .inr (.inr ⟨rfl, ?_⟩)
    simp only [List.any_eq_true, Option.any_eq_true, decide_eq_true_eq] at deep
    obtain ⟨issue, mem, n, limited, deeper⟩ := deep
    exact ⟨n, limited, issue, mem, deeper⟩
  next =>
    split
    · exact .inl rfl
    next wrong =>
      refine .inr (.inl ⟨rfl, ?_⟩)
      by_contra plain
      push Not at plain
      refine wrong ?_
      simp only [isPlain_obj, isPlain_arr, List.mem_singleton, forall_eq, List.forall_mem_map]
      exact fun issue mem => isPlain_fullReport (by simpa using plain issue mem)

end Workbench.Service
