import Workbench.Failure

/-!
# Explanations of refusals

What a service says about a request that it refused. Services explain themselves in different ways:
by a list of issues, by an object, by a text beside other fields, or by plain text; all of them are
understood.
-/

namespace Workbench.Http

open Schema (Fields)

/-- What a service says: a text, a label for the reason and further details, each `null` if it says
nothing. -/
structure Explanation where
  text : Json
  label : Json
  details : Json
  deriving Repr, BEq

namespace Explanation

/-- An explanation that is a text only. -/
def ofText (text : String) : Explanation := ⟨.str text, .null, .null⟩

/-- The last item of a value. -/
def lastItem : Json → Except PartFault Json
  | .arr items =>
    match items.getLast? with
    | some item => .ok item
    | none => .error .noItem
  | .str s =>
    match s.toList.getLast? with
    | some c => .ok (.str c.toString)
    | none => .error .noCharacter
  | .obj _ => .error (.noKey "-1")
  | j => .error (.notIndexable j.typeName)

/-- An issue of a list in words: where it is, and what it is. -/
def ofIssue (fields : Fields) : Except PartFault String := do
  let place ← lastItem ((Entries.lookup "loc" fields).getD (.arr [.str "unknown"]))
  let what := (Entries.lookup "msg" fields).getD (.str "invalid")
  pure (place.plainText ++ ": " ++ what.plainText)

/-- The explanation that a list of issues gives. What is no object is passed over. -/
def ofIssues (issues : List Json) : Except PartFault Explanation := do
  let texts ← (issues.filterMap Json.obj?).mapM ofIssue
  pure ⟨.str ("; ".intercalate texts), .str "validation_error", .obj [("errors", .arr issues)]⟩

/-- The fields of a body that belong to the explanation itself. -/
def reserved : List String := ["error", "detail", "type"]

/-- The fields of a body that do not belong to the explanation itself, `null` if there are none. -/
def extra (fields : Fields) : Json :=
  let others := fields.filter fun (key, _) => !(reserved.contains key)
  if others.isEmpty then .null else .obj others

/-- The label among the fields of a body. -/
def labelOf (fields : Fields) : Json :=
  (Entries.lookup "type" fields).getD .null

/-- The explanation that the fields of a body give. -/
def ofFields (fields : Fields) : Except PartFault Explanation :=
  match Entries.lookup "detail" fields with
  | some (.arr issues) => ofIssues issues
  | some (.obj detail) =>
    .ok ⟨(Entries.lookup "message" detail).getD (.str (Json.obj detail).literal), labelOf detail,
      .obj detail⟩
  | some (.str detail) => .ok ⟨.str detail, labelOf fields, extra fields⟩
  | _ =>
    match Entries.lookup "message" fields, Entries.lookup "error" fields with
    | some (.str text), _ => .ok ⟨.str text, labelOf fields, extra fields⟩
    | _, some (.str text) => .ok ⟨.str text, labelOf fields, extra fields⟩
    | _, _ => .ok (ofText (Json.obj fields).literal)

/-- The explanation that a response gives, with the value of its body if that is JSON. -/
def ofResponse (r : Response) : Option Json → Except PartFault Explanation
  | none =>
    let text := Text.trimmed r.text
    .ok (ofText (if text.isEmpty then s!"HTTP {r.status} error" else text))
  | some (.obj fields) => ofFields fields
  | some value => .ok (ofText value.plainText)

end Explanation

/-- The refusal that a response stands for. -/
def Refusal.ofResponse (levels : Option Nat) (r : Response) : Except Failure Refusal := do
  let value ← (r.value? levels).mapError .unreadable
  let explanation ← (Explanation.ofResponse r value).mapError .part
  let kind := RefusalClass.ofStatus r.status
  pure {
    kind
    status := r.status
    text := explanation.text
    label := (kind.label?.map Json.str).getD explanation.label
    details := explanation.details
    body := value.getD (.str r.text) }

/-- What a response brings: the value of its body, or the reason why there is none. -/
def Response.outcome (levels : Option Nat) (r : Response) : Except Failure Json :=
  if r.isSuccess then (r.content levels).mapError .unreadable
  else
    match Refusal.ofResponse levels r with
    | .ok refusal => .error (.call (.refused refusal))
    | .error failure => .error failure

end Workbench.Http
