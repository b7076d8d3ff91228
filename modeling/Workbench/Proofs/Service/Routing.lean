import Workbench.Proofs.Text.Scan
import Workbench.Service.Route

/-!
# The paths of resources

The path of a resource leads to it. Two resources take an id from their path: an id that is empty or
has a slash in it makes a path of another shape, which leads nowhere, and to no other resource
(`find_path`).
-/

namespace Workbench.Service

namespace Resource

/-- The path at which clients ask for a resource. -/
def path : Resource → String
  | root => "/"
  | health => "/health"
  | workspace => "/workspace"
  | openProject => "/workspace/open"
  | terminal => "/terminal/state"
  | execute => "/terminal/execute"
  | clear => "/terminal/clear"
  | reset => "/terminal/reset"
  | sync => "/terminal/sync"
  | patches => "/patches"
  | parse => "/patches/parse"
  | applyAll => "/patches/apply-all"
  | apply id => "/patches/" ++ id ++ "/apply"
  | reject id => "/patches/" ++ id ++ "/reject"

/-- Whether the path of a resource has the shape of such paths. -/
def isAddressable : Resource → Bool
  | apply id | reject id => !id.isEmpty && !id.toList.contains '/'
  | _ => true

/-- No resource is more than three steps from the root. -/
theorem ofSteps?_eq_none_of_length {steps : List String} (long : 4 < steps.length) :
    ofSteps? steps = none := by
  match steps, long with
  | _ :: _ :: _ :: _ :: _ :: _, _ => rw [ofSteps?] <;> nofun

/-- Only a line feed at its end makes a difference between a path and its steps. -/
theorem at?_eq_ofSteps? {path : String} {last : Char} (ends : path.toList.getLast? = some last)
    (inside : last ≠ '\n') : at? path = ofSteps? (Text.pieces '/' path) := by
  unfold at?
  cases ofSteps? (Text.pieces '/' path) with
  | some r => rfl
  | none =>
    rw [← List.head?_reverse] at ends
    obtain ⟨rest, reversed⟩ := List.head?_eq_some_iff.mp ends
    rw [reversed]
    dsimp only
    split
    · next same => exact absurd (List.cons.inj same).1 inside
    · rfl

end Resource

open Resource (at? at?_eq_ofSteps? ofSteps? ofSteps?_eq_none_of_length)

/-! ## Steps -/

/-- A path is taken apart at each slash. -/
theorem pieces_append (front rest : String) :
    Text.pieces '/' (front ++ "/" ++ rest) = Text.pieces '/' front ++ Text.pieces '/' rest := by
  have cut := Text.splitOn_append_cons '/' front.toList rest.toList
  simp [Text.pieces, cut]

/-- An id without slashes is one piece. -/
theorem pieces_of_not_mem {id : String} (plain : '/' ∉ id.toList) : Text.pieces '/' id = [id] := by
  have whole : Text.splitOn '/' (['/'].intercalate [id.toList]) = [id.toList] :=
    Text.splitOn_intercalate (by simpa using plain) (by simp)
  rw [List.intercalate_singleton] at whole
  rw [Text.pieces, whole, List.map_singleton, String.ofList_toList]

/-- An id with a slash is more than one. -/
theorem one_lt_length_pieces {id : String} (slash : '/' ∈ id.toList) :
    1 < (Text.pieces '/' id).length := by
  obtain ⟨front, rest, cut⟩ := List.append_of_mem slash
  have front_pos := List.length_pos_of_ne_nil (Text.splitOn_ne_nil '/' front)
  have rest_pos := List.length_pos_of_ne_nil (Text.splitOn_ne_nil '/' rest)
  rw [Text.pieces, cut, Text.splitOn_append_cons, List.length_map, List.length_append]
  omega

/-! ## Paths with an id -/

/-- The path of what can be done with a patch. -/
def patchPath (id verb : String) : String :=
  "/patches" ++ "/" ++ (id ++ "/" ++ verb)

section PatchPath

variable {id verb : String} {last : Char} {make : String → Resource}

/-- The pieces of the path of a patch. -/
theorem pieces_patchPath (id : String) (plain : '/' ∉ verb.toList) :
    Text.pieces '/' (patchPath id verb) = "" :: "patches" :: (Text.pieces '/' id ++ [verb]) := by
  rw [patchPath, pieces_append, pieces_append, pieces_of_not_mem plain]
  rfl

/-- Such a path ends as its verb does. -/
theorem getLast?_patchPath (id : String) (ends : verb.toList.getLast? = some last) :
    (patchPath id verb).toList.getLast? = some last := by
  simp [patchPath, List.getLast?_append, List.getLast?_cons, ends]

/-- With a slash at its end the path is too long to lead anywhere. -/
theorem at?_otherSlashes_patchPath (id : String) (ends : verb.toList.getLast? = some last)
    (plain : '/' ∉ verb.toList) : at? (otherSlashes (patchPath id verb)) = none := by
  have no_slash : last ≠ '/' := fun same => plain (same ▸ List.mem_of_getLast? ends)
  have longer : otherSlashes (patchPath id verb) = patchPath id verb ++ "/" ++ "" := by
    simp [otherSlashes, getLast?_patchPath id ends, no_slash]
  have longer_ends : (patchPath id verb ++ "/" ++ "").toList.getLast? = some '/' := by
    simp [List.getLast?_append]
  rw [longer, at?_eq_ofSteps? longer_ends (by decide), pieces_append, pieces_patchPath id plain]
  refine ofSteps?_eq_none_of_length ?_
  have id_pos : 0 < (Text.pieces '/' id).length := by
    simpa [Text.pieces] using List.length_pos_of_ne_nil (Text.splitOn_ne_nil '/' id.toList)
  have rest_length : (Text.pieces '/' "").length = 1 := rfl
  simp only [List.length_append, List.length_cons, List.length_nil, rest_length]
  omega

/-- What is at the path, whatever the id is. -/
theorem at?_patchPath (ends : verb.toList.getLast? = some last) (inside : last ≠ '\n')
    (plain : '/' ∉ verb.toList)
    (steps : ∀ id, ofSteps? ["", "patches", id, verb] = if id.isEmpty then none else some (make id)) :
    at? (patchPath id verb) =
      if !id.isEmpty && !id.toList.contains '/' then some (make id) else none := by
  rw [at?_eq_ofSteps? (getLast?_patchPath id ends) inside, pieces_patchPath id plain]
  by_cases slash : '/' ∈ id.toList
  · rw [if_neg (by simp [slash])]
    refine ofSteps?_eq_none_of_length ?_
    have := one_lt_length_pieces slash
    simp only [List.length_cons, List.length_append, List.length_nil]
    omega
  · rw [pieces_of_not_mem slash, List.singleton_append, steps]
    cases id.isEmpty <;> simp [slash]

/-- A patch is found under its path unless its id is empty or has a slash. -/
theorem find_patchPath (ends : verb.toList.getLast? = some last) (inside : last ≠ '\n')
    (plain : '/' ∉ verb.toList)
    (steps : ∀ id, ofSteps? ["", "patches", id, verb] = if id.isEmpty then none else some (make id))
    (post : (make id).method = "POST") :
    Route.find "POST" (patchPath id verb) =
      if !id.isEmpty && !id.toList.contains '/' then .resource (make id) else .nowhere := by
  rw [Route.find, at?_patchPath ends inside plain steps, at?_otherSlashes_patchPath id ends plain]
  cases !id.isEmpty && !id.toList.contains '/' <;> simp [post]

end PatchPath

/-- **Routing.** The path of a resource leads to it if it has the shape of such paths, and nowhere
otherwise. -/
theorem find_path (r : Resource) :
    Route.find r.method r.path = if r.isAddressable then .resource r else .nowhere := by
  cases r with
  | apply id =>
    have same : (Resource.apply id).path = patchPath id "apply" := by
      simp [Resource.path, patchPath, ← String.toList_inj]
    have ends : "apply".toList.getLast? = some 'y' := rfl
    rw [same]
    exact find_patchPath ends (by decide) (by decide) (fun _ => by simp [ofSteps?]) rfl
  | reject id =>
    have same : (Resource.reject id).path = patchPath id "reject" := by
      simp [Resource.path, patchPath, ← String.toList_inj]
    have ends : "reject".toList.getLast? = some 't' := rfl
    rw [same]
    exact find_patchPath ends (by decide) (by decide) (fun _ => by simp [ofSteps?]) rfl
  | _ => rfl

end Workbench.Service
