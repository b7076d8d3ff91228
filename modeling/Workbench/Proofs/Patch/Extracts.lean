import Workbench.Proofs.Patch.Parsing

/-!
# Patches are extracts

Whatever a completion looks like, its patches hold nothing that does not stand in it. The contents
are disjoint parts of the text in the order of the patches. Either each has its name behind a marker
in front of it (`FromMarker`), or the text has no marker with content and each is the body of a
fenced block, whose tag gives the extension of a name that was made up.
-/

namespace Workbench.Patch

open Text (isBlank trim InOrder)
open Project (File)

variable {cs : List Char} {text : String}

/-- The piece is a marker, a name behind it with nothing but blanks in between, and somewhere behind
the name the content, up to the end. -/
def FromMarker (piece : List Char) (name content : String) : Prop :=
  ∃ marker gap between, IsMarker marker ∧ (∀ c ∈ gap, isBlank c = true) ∧
    (∀ c ∈ name.toList, isNameChar c = true) ∧
    piece = marker ++ (gap ++ (name.toList ++ (between ++ content.toList)))

/-- The fenced blocks of a text that have content. -/
def fullFences (cs : List Char) : List Fence :=
  (fences isTagChar cs).filter fun f => !(trim f.body).isEmpty

/-! ## Proposals and where they stand -/

/-- The names are made up from the numbers and the tags of the fenced blocks with content. -/
theorem fencedProposals_eq (cs : List Char) :
    fencedProposals cs = ((fullFences cs).zipIdx 1).map fun (f, n) =>
      ⟨madeUpName n f.tag, String.ofList (trim f.body)⟩ := by
  have full : ((fences isTagChar cs).filterMap fun f =>
      if (trim f.body).isEmpty then none else some (f.tag, trim f.body)) =
        (fullFences cs).map fun f => (f.tag, trim f.body) := by
    rw [fullFences, ← List.filterMap_eq_filter, List.map_filterMap]
    refine List.filterMap_congr fun f _ => ?_
    by_cases empty : (trim f.body).isEmpty = true <;> simp [Option.guard, empty]
  unfold fencedProposals
  dsimp only
  rw [full, List.zipIdx_map, List.map_map]
  rfl

/-- Each patch has the name and the content of its proposal. -/
theorem forall₂_parse (made : ℕ) (files : List File) (text : String) :
    List.Forall₂ (fun q p => p.fileName = q.fileName ∧ p.newContent = q.content)
      (proposals text.toList) (parse made files text) := by
  have same : List.Forall₂ Eq
      ((proposals text.toList).map fun q => (q.fileName, q.content))
      ((parse made files text).map fun p => (p.fileName, p.newContent)) := by
    rw [List.forall₂_eq_eq_eq, map_parse]
  refine (List.forall₂_map_left_iff.mp (List.forall₂_map_right_iff.mp same)).imp ?_
  intro q p pair
  exact ⟨(Prod.ext_iff.mp pair).1.symm, (Prod.ext_iff.mp pair).2.symm⟩

/-- A proposal has content, without blanks around it. -/
theorem content_of_mem_proposals {q : Proposal} (mem : q ∈ proposals cs) :
    q.content ≠ "" ∧ Text.trimmed q.content = q.content := by
  have trimmed {text : List Char} (full : text ≠ []) (same : trim text = text) :
      String.ofList text ≠ "" ∧ Text.trimmed (String.ofList text) = String.ofList text := by
    constructor
    · simpa [String.ext_iff] using full
    · simp [Text.trimmed, same]
  by_cases marked : HasMarked cs
  · rw [proposals_of_marked marked, markedProposals, List.mem_filterMap] at mem
    obtain ⟨block, -, made⟩ := mem
    dsimp only at made
    split at made
    · cases made
    · next full =>
      obtain rfl := Option.some.inj made
      exact trimmed (by simpa using full) (trim_content block.text)
  · rw [proposals_of_not_marked marked, fencedProposals_eq, List.mem_map] at mem
    obtain ⟨⟨f, n⟩, numbered, rfl⟩ := mem
    have full := (List.mem_filter.mp (List.fst_mem_of_mem_zipIdx numbered)).2
    exact trimmed (by simpa using full) (Text.trim_trim f.body)

/-- The proposals of markers stand behind their markers, one behind the other. -/
theorem markedProposals_inOrder (cs : List Char) :
    InOrder (fun piece q => FromMarker piece q.fileName q.content) cs (markedProposals cs) := by
  refine (blocks_inOrder cs).filterMap fun piece block q held proposed => ?_
  obtain ⟨marker, gap, behind, valid, blank, plain, -, rfl⟩ := held
  -- what stands behind the content in its block does not belong to the piece
  obtain ⟨before, after, within⟩ := isInfix_content block.text
  refine ⟨[], marker ++ (gap ++ (block.name ++ ((behind ++ before) ++ content block.text))), after,
    ?_, marker, gap, behind ++ before, valid, blank, ?_⟩
  · conv_lhs => rw [← within]
    simp
  · dsimp only at proposed
    split at proposed
    · cases proposed
    · obtain rfl := Option.some.inj proposed
      simpa using plain

/-- The fenced blocks with content stand one behind the other. -/
theorem fullFences_inOrder (cs : List Char) :
    InOrder (HoldsFence isTagChar) cs (fullFences cs) :=
  (fences_inOrder isTagChar cs).filter _

/-- Each fence makes one proposal, with what is in it, trimmed. -/
theorem forall₂_fencedProposals (cs : List Char) :
    List.Forall₂ (fun f q => q.content.toList = trim f.body) (fullFences cs)
      (fencedProposals cs) := by
  rw [fencedProposals_eq]
  nth_rewrite 1 [← List.zipIdx_map_fst 1 (fullFences cs)]
  rw [List.forall₂_map_left_iff, List.forall₂_map_right_iff, List.forall₂_same]
  exact fun _ _ => String.toList_ofList

/-- The contents of all proposals stand one behind the other. -/
theorem proposals_inOrder (cs : List Char) :
    InOrder (fun piece q => piece = q.content.toList) cs (proposals cs) := by
  by_cases marked : HasMarked cs
  · rw [proposals_of_marked marked]
    refine (markedProposals_inOrder cs).narrow fun piece q placed => ?_
    obtain ⟨marker, gap, between, -, -, -, rfl⟩ := placed
    exact ⟨marker ++ (gap ++ (q.fileName.toList ++ between)), q.content.toList, [], by simp, rfl⟩
  · rw [proposals_of_not_marked marked]
    refine (fullFences_inOrder cs).forall₂ (forall₂_fencedProposals cs) fun piece f q held same => ?_
    obtain ⟨before, after, within⟩ := Text.isInfix_trim f.body
    refine ⟨fence ++ (f.tag ++ '\n' :: before), trim f.body, after ++ fence, ?_, same.symm⟩
    rw [held.2]
    conv_lhs => rw [← within]
    simp

/-! ## Patches -/

/-- The patches of markers stand behind their markers, one behind the other. -/
theorem parse_inOrder_of_marked (made : ℕ) (files : List File) (marked : HasMarked text.toList) :
    InOrder (fun piece p => FromMarker piece p.fileName p.newContent) text.toList
      (parse made files text) := by
  have related := forall₂_parse made files text
  rw [proposals_of_marked marked] at related
  refine (markedProposals_inOrder text.toList).forall₂ related fun piece q p placed same => ?_
  rw [← same.1, ← same.2] at placed
  exact ⟨[], piece, [], by simp, placed⟩

/-- Without markers, the patches are those of the fenced blocks with content. -/
theorem map_parse_of_not_marked (made : ℕ) (files : List File)
    (unmarked : ¬ HasMarked text.toList) :
    (parse made files text).map (fun p => (p.fileName, p.newContent)) =
      ((fullFences text.toList).zipIdx 1).map fun (f, n) =>
        (s!"ai_node_{n}." ++ extension f.tag, String.ofList (trim f.body)) := by
  rw [map_parse, proposals_of_not_marked unmarked, fencedProposals_eq, List.map_map]
  rfl

/-- The counts of a patch are not negative, and not both positive. -/
theorem counts_make (id fileName newContent : String) (existing : Option File) :
    0 ≤ (make id fileName newContent existing).added ∧
      0 ≤ (make id fileName newContent existing).removed ∧
      ((make id fileName newContent existing).added = 0 ∨
        (make id fileName newContent existing).removed = 0) := by
  cases existing with
  | none => simp [make]
  | some file =>
    simp only [make]
    omega

/-- **Every patch is an extract of the text.** Its content is not empty and has no blanks around it,
and the contents of all patches are disjoint parts of the text, in order. Either the names come from
markers, each from one that stands in front of the content, or no marker has content, and the names
are made up, in order, with extensions from the tags of the fenced blocks that the contents come
from. The counts are not negative and not both positive, and no two patches have the same id. -/
theorem parse_extracts (made : ℕ) (files : List File) (text : String) :
    (∀ p ∈ parse made files text,
      p.newContent ≠ "" ∧ Text.trimmed p.newContent = p.newContent) ∧
    InOrder (fun piece p => piece = p.newContent.toList) text.toList (parse made files text) ∧
    ((HasMarked text.toList ∧
        InOrder (fun piece p => FromMarker piece p.fileName p.newContent) text.toList
          (parse made files text)) ∨
      (¬ HasMarked text.toList ∧ ∃ found : List Fence,
        InOrder (HoldsFence isTagChar) text.toList found ∧
        (parse made files text).map (fun p => (p.fileName, p.newContent)) =
          (found.zipIdx 1).map fun (f, n) =>
            (s!"ai_node_{n}." ++ extension f.tag, String.ofList (trim f.body)))) ∧
    (∀ p ∈ parse made files text,
      0 ≤ p.added ∧ 0 ≤ p.removed ∧ (p.added = 0 ∨ p.removed = 0)) ∧
    ((parse made files text).map (·.id)).Nodup := by
  refine ⟨fun p mem => ?_, ?_, ?_, fun p mem => ?_, nodup_map_id_parse made files text⟩
  · obtain ⟨q, proposed, n, rfl⟩ := exists_of_mem_parse mem
    rw [newContent_make]
    exact content_of_mem_proposals proposed
  · refine (proposals_inOrder text.toList).forall₂ (forall₂_parse made files text)
      fun piece q p placed same => ⟨[], piece, [], by simp, ?_⟩
    rw [same.2, placed]
  · by_cases marked : HasMarked text.toList
    · exact .inl ⟨marked, parse_inOrder_of_marked made files marked⟩
    · exact .inr ⟨marked, fullFences text.toList, fullFences_inOrder text.toList,
        map_parse_of_not_marked made files marked⟩
  · obtain ⟨q, -, n, rfl⟩ := exists_of_mem_parse mem
    exact counts_make _ _ _ _

end Workbench.Patch
