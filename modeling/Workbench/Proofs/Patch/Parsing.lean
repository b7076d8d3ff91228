import Workbench.Proofs.Patch.Scanning
import Workbench.Proofs.Project.Memory

/-!
# From proposals to patches

A completion proposes contents for files (`proposals`), and each proposal becomes one patch: with
the name and the content of the proposal, with the next id, and with counts that come from the file
that it is compared with (`compared?`). `parse_eq` says this once for both ways of finding
proposals, and the lists of ids, names and contents of the patches are read off it.
-/

namespace Workbench.Patch

open Text (InOrder)
open Project (File findFile?)

variable {made : ℕ} {files : List File} {text : String} {p : Patch}

/-- A marker of the text has a block with content. -/
def HasMarked (cs : List Char) : Prop :=
  ∃ block ∈ blocks cs, content block.text ≠ []

instance (cs : List Char) : Decidable (HasMarked cs) :=
  inferInstanceAs (Decidable (∃ block ∈ blocks cs, content block.text ≠ []))

/-- The proposals of a text: those of its markers, or else those of its fenced blocks. -/
def proposals (cs : List Char) : List Proposal :=
  if (markedProposals cs).isEmpty then fencedProposals cs else markedProposals cs

/-- The file with which a proposal of a text is compared. Names that were made up are not looked
for. -/
def compared? (files : List File) (cs : List Char) (p : Proposal) : Option File :=
  if (markedProposals cs).isEmpty then none else findFile? files p.fileName

/-! ## Making patches -/

theorem id_make (id fileName newContent : String) (existing : Option File) :
    (make id fileName newContent existing).id = id := by
  cases existing <;> rfl

theorem fileName_make (id fileName newContent : String) (existing : Option File) :
    (make id fileName newContent existing).fileName = fileName := by
  cases existing <;> rfl

theorem newContent_make (id fileName newContent : String) (existing : Option File) :
    (make id fileName newContent existing).newContent = newContent := by
  cases existing <;> rfl

/-- Different numbers make different ids. -/
theorem freshId_injective : Function.Injective freshId := by
  intro m n h
  -- the ids of files end in the same digits
  have digits : toString m = toString n := by simpa [freshId] using h
  exact Project.Memory.fileId_injective
    (by rw [Project.Memory.fileId, Project.Memory.fileId, digits])

/-! ## The patches of a completion -/

/-- **Every proposal becomes a patch**, and ids are given out in turn. -/
theorem parse_eq (made : ℕ) (files : List File) (text : String) :
    parse made files text = ((proposals text.toList).zipIdx (made + 1)).map fun (p, n) =>
      make (freshId n) p.fileName p.content (compared? files text.toList p) := by
  unfold parse proposals compared?
  dsimp only
  split
  · rfl
  · rfl

/-- The patches of a completion are numbered on from those that were made before. -/
theorem map_id_parse (made : ℕ) (files : List File) (text : String) :
    (parse made files text).map (·.id) =
      (List.range' (made + 1) (parse made files text).length).map freshId := by
  rw [parse_eq, List.map_map, List.length_map, List.length_zipIdx, ← List.zipIdx_map_snd,
    List.map_map]
  exact List.map_congr_left fun _ _ => id_make _ _ _ _

/-- No two patches have the same id. -/
theorem nodup_map_id_parse (made : ℕ) (files : List File) (text : String) :
    ((parse made files text).map (·.id)).Nodup := by
  rw [map_id_parse]
  exact List.Nodup.map freshId_injective (List.nodup_range' 1)

/-- The names and contents of the patches are those of the proposals, in order. -/
theorem map_parse (made : ℕ) (files : List File) (text : String) :
    (parse made files text).map (fun p => (p.fileName, p.newContent)) =
      (proposals text.toList).map fun p => (p.fileName, p.content) := by
  rw [parse_eq, List.map_map]
  calc ((proposals text.toList).zipIdx (made + 1)).map _
      = ((proposals text.toList).zipIdx (made + 1)).map
          ((fun p : Proposal => (p.fileName, p.content)) ∘ Prod.fst) :=
        List.map_congr_left fun x _ => Prod.ext (fileName_make _ _ _ _) (newContent_make _ _ _ _)
    _ = (proposals text.toList).map fun p => (p.fileName, p.content) := by
        rw [← List.map_map, List.zipIdx_map_fst]

/-- Each patch is made of a proposal, under a fresh id. -/
theorem exists_of_mem_parse (mem : p ∈ parse made files text) :
    ∃ q ∈ proposals text.toList, ∃ n,
      p = make (freshId n) q.fileName q.content (compared? files text.toList q) := by
  rw [parse_eq] at mem
  obtain ⟨⟨q, n⟩, numbered, rfl⟩ := List.mem_map.mp mem
  exact ⟨q, List.fst_mem_of_mem_zipIdx numbered, n, rfl⟩

/-! ## Proposals -/

/-- Markers make no proposal exactly if nothing is marked. -/
theorem markedProposals_eq_nil_iff {cs : List Char} : markedProposals cs = [] ↔ ¬ HasMarked cs := by
  rw [markedProposals, List.filterMap_eq_nil_iff, HasMarked]
  simp

/-- Where there are markers, they make the proposals. -/
theorem proposals_of_marked {cs : List Char} (marked : HasMarked cs) :
    proposals cs = markedProposals cs := by
  have some_marked : markedProposals cs ≠ [] := fun none_marked =>
    markedProposals_eq_nil_iff.mp none_marked marked
  rw [proposals, if_neg (by simpa using some_marked)]

/-- Where there are none, fences do. -/
theorem proposals_of_not_marked {cs : List Char} (unmarked : ¬ HasMarked cs) :
    proposals cs = fencedProposals cs := by
  rw [proposals, if_pos (by simpa using markedProposals_eq_nil_iff.mpr unmarked)]

/-- Where there are markers, a patch is compared with the file of its name. -/
theorem compared?_of_marked {cs : List Char} (marked : HasMarked cs) (files : List File)
    (p : Proposal) : compared? files cs p = findFile? files p.fileName := by
  have some_marked : markedProposals cs ≠ [] := fun none_marked =>
    markedProposals_eq_nil_iff.mp none_marked marked
  rw [compared?, if_neg (by simpa using some_marked)]

/-- Where there are none, it is compared with no file. -/
theorem compared?_of_not_marked {cs : List Char} (unmarked : ¬ HasMarked cs) (files : List File)
    (p : Proposal) : compared? files cs p = none := by
  rw [compared?, if_pos (by simpa using markedProposals_eq_nil_iff.mpr unmarked)]

end Workbench.Patch
