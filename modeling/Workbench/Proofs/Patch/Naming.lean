import Workbench.Proofs.Patch.Agreement
import Workbench.Proofs.Patch.Extracts

/-!
# Names that markers accept

A marker counts if the name behind it has a dot that is neither its first nor its last character
(`hasInnerDot`). Every patch has such a name. A name with a dot at one end only, like that of a
hidden file, is none: with it behind the marker, a completion has no markers at all, and its fenced
block becomes a patch for a file with a made-up name (`parse_named_iff`).
-/

namespace Workbench.Patch

open Text (isBlank isWord trim trimStart)
open Project (File)

variable {marker name tag body : List Char}

/-- A line with a marker, a space and a name. -/
def namedLine (marker name : List Char) : List Char :=
  marker ++ ' ' :: (name ++ ['\n'])

/-! ## Names of patches -/

/-- Every tag has an extension. -/
theorem extension_ne_empty (tag : List Char) : extension tag ≠ "" := by
  unfold extension
  dsimp only
  split
  · decide
  split
  · decide
  · next plain _ =>
    intro empty
    exact plain (by simp [empty])

/-- A name that is made up has its extension behind a dot. -/
theorem hasInnerDot_madeUpName (n : ℕ) (tag : List Char) :
    hasInnerDot (madeUpName n tag).toList = true := by
  have split : (madeUpName n tag).toList =
      (['a', 'i', '_', 'n', 'o', 'd', 'e', '_'] ++ (toString n).toList) ++
        '.' :: (extension tag).toList := by
    simp [madeUpName]
    rfl
  rw [split]
  exact hasInnerDot_of_split (by simp) (by simpa using extension_ne_empty tag)

/-- So has every name that is proposed. -/
theorem hasInnerDot_of_mem_proposals {cs : List Char} {q : Proposal} (mem : q ∈ proposals cs) :
    hasInnerDot q.fileName.toList = true := by
  by_cases marked : HasMarked cs
  · rw [proposals_of_marked marked, markedProposals, List.mem_filterMap] at mem
    obtain ⟨block, found, made⟩ := mem
    obtain ⟨-, -, -, -, -, -, -, dotted, -⟩ := (blocks_inOrder cs).exists_fits found
    dsimp only at made
    split at made
    · cases made
    · obtain rfl := Option.some.inj made
      simpa using dotted
  · rw [proposals_of_not_marked marked, fencedProposals_eq, List.mem_map] at mem
    obtain ⟨⟨f, n⟩, -, rfl⟩ := mem
    exact hasInnerDot_madeUpName n f.tag

/-- Every patch has a dot inside its name. -/
theorem hasInnerDot_of_mem_parse {made : ℕ} {files : List File} {text : String} {p : Patch}
    (mem : p ∈ parse made files text) : hasInnerDot p.fileName.toList = true := by
  obtain ⟨q, proposed, n, rfl⟩ := exists_of_mem_parse mem
  rw [fileName_make]
  exact hasInnerDot_of_mem_proposals proposed

/-! ## Names that are not accepted -/

/-- With a name that has no dot inside, no marker counts in its line, not even in the name. -/
theorem markerAt?_of_suffix_namedLine (valid : IsMarker marker)
    (undotted : hasInnerDot name = false) {after : List Char}
    (within : after <:+ marker ++ ' ' :: name) : markerAt? after = none := by
  rw [Option.eq_none_iff_forall_ne_some]
  intro m found
  obtain ⟨marker', gap, behind, rest, -, -, plain, dotted, rfl, -, -⟩ := markerAt?_eq_some found
  have inside : m.name <:+: marker ++ ' ' :: name := by
    refine List.IsInfix.trans ?_ within.isInfix
    exact ⟨marker' ++ gap, behind ++ rest, by simp⟩
  have noSpace : ' ' ∉ m.name := fun mem => absurd (plain ' ' mem) (by decide)
  rcases Text.infix_of_infix_append_cons noSpace inside with front | named
  · have noDot : '.' ∉ marker := valid.not_mem (by decide) (List.all_eq_true.mp (by decide))
    exact noDot (front.subset (dot_mem_of_hasInnerDot dotted))
  · rw [hasInnerDot_mono named dotted] at undotted
    cases undotted

/-- A completion whose only marker has a name without a dot inside has no markers. -/
theorem blocks_namedLine (valid : IsMarker marker) (undotted : hasInnerDot name = false)
    (h : Enclosable tag body) : blocks (namedLine marker name ++ fencedBlock tag body) = [] := by
  rw [blocks, splitBlocks_of_quiet fun before after split => ?_]
  have within : after <:+ (marker ++ ' ' :: name) ++ '\n' :: fencedBlock tag body :=
    ⟨before, by simpa [namedLine] using split.symm⟩
  rcases Text.suffix_append_cons within with ⟨line, front, rfl⟩ | later
  · rw [← Option.not_isSome_iff_eq_none]
    intro found
    rcases markerAt?_append_newline found with here | named
    · rw [markerAt?_of_suffix_namedLine valid undotted front] at here
      cases here
    · -- the run behind a marker at the end of the name is the opening fence and the tag
      have first : trimStart (fencedBlock tag body) = fencedBlock tag body :=
        List.dropWhile_cons_of_neg (by decide)
      rw [first, fencedBlock, ← List.append_assoc,
        Text.takeWhile_append_cons (isNameChar_of_isBlank (by decide))] at named
      have mem := (List.takeWhile_prefix _).subset (dot_mem_of_hasInnerDot named)
      rcases List.mem_append.mp mem with fenced | tagging
      · exact absurd fenced (by decide)
      · exact absurd (h.tagged '.' tagging) (by decide)
  · exact markerAt?_of_suffix_fencedBlock h later

/-! ## Patches -/

/-- A line that names a file and a fenced block make one proposal under that name. -/
theorem proposals_namedLine (valid : IsMarker marker) (plain : ∀ c ∈ name, isNameChar c = true)
    (dotted : hasInnerDot name = true) (h : Enclosable tag body) :
    proposals (namedLine marker name ++ fencedBlock tag body) =
      [⟨String.ofList name, String.ofList (content (fencedBlock tag body))⟩] := by
  refine proposals_of_blocks ?_ h
  simpa [namedLine] using blocks_append_fencedBlock valid plain dotted h

/-- Without a dot inside the name, the fenced block is found as one without a marker. -/
theorem proposals_namedLine_of_undotted (valid : IsMarker marker)
    (undotted : hasInnerDot name = false) (unfenced : ¬ fence <:+: name)
    (h : Enclosable tag body) :
    proposals (namedLine marker name ++ fencedBlock tag body) =
      [⟨madeUpName 1 tag, String.ofList (trim body)⟩] := by
  refine proposals_of_fences (blocks_namedLine valid undotted h) ?_ h
  have line : namedLine marker name ++ fencedBlock tag body =
      (marker ++ ' ' :: name) ++ '\n' :: fencedBlock tag body := by
    simp [namedLine]
  rw [line, fences_append_newline]
  intro inside
  rcases Text.infix_of_infix_append_cons (by decide) inside with front | named
  · have noBacktick : Char.ofNat 96 ∉ marker :=
      valid.not_mem (by decide) (List.all_eq_true.mp (by decide))
    exact noBacktick (front.subset (by decide))
  · exact unfenced named

/-- **Which names a marker accepts.** Let a completion be a line with a marker and a name, and a
fenced block behind it. It gives one patch with that name and the trimmed body exactly if the name
has a dot inside and the tag no hyphen; the dot decides over the name, the hyphen over the content.
Without a dot inside, and without a fence, the name is passed over, and the patch has a made-up
name. No completion whatever gives a patch whose name has no dot inside. -/
theorem parse_named_iff (made : ℕ) (files : List File) (valid : IsMarker marker)
    (plain : ∀ c ∈ name, isNameChar c = true) (h : Enclosable tag body) :
    let patches := (parse made files (String.ofList
      (namedLine marker name ++ fencedBlock tag body))).map fun p => (p.fileName, p.newContent)
    (patches = [(String.ofList name, Text.trimmed (String.ofList body))] ↔
      hasInnerDot name = true ∧ '-' ∉ tag) ∧
    (patches.map Prod.fst = [String.ofList name] ↔ hasInnerDot name = true) ∧
    (hasInnerDot name = false → ¬ fence <:+: name →
      patches = [("ai_node_1." ++ extension tag, Text.trimmed (String.ofList body))]) ∧
    ∀ text, ∀ p ∈ parse made files text, hasInnerDot p.fileName.toList = true := by
  intro patches
  have read : patches = (proposals (namedLine marker name ++ fencedBlock tag body)).map
      fun p => (p.fileName, p.content) := by
    simp only [patches, map_parse, String.toList_ofList]
  have inside {file : String} (mem : file ∈ patches.map Prod.fst) :
      hasInnerDot file.toList = true := by
    rw [List.map_map] at mem
    obtain ⟨p, found, rfl⟩ := List.mem_map.mp mem
    exact hasInnerDot_of_mem_parse found
  have accepted (dotted : hasInnerDot name = true) : patches =
      [(String.ofList name, String.ofList (content (fencedBlock tag body)))] := by
    rw [read, proposals_namedLine valid plain dotted h]
    rfl
  have named : patches.map Prod.fst = [String.ofList name] ↔ hasInnerDot name = true := by
    refine ⟨fun same => ?_, fun dotted => by rw [accepted dotted]; rfl⟩
    have dotted : hasInnerDot (String.ofList name).toList = true :=
      inside (same ▸ List.mem_cons_self)
    rwa [String.toList_ofList] at dotted
  refine ⟨?_, named, fun undotted unfenced => ?_, fun text p => hasInnerDot_of_mem_parse⟩
  · have contents : String.ofList (content (fencedBlock tag body)) =
        Text.trimmed (String.ofList body) ↔ '-' ∉ tag := by
      rw [Text.trimmed, String.toList_ofList, String.ofList_inj]
      exact content_fencedBlock_eq_iff h
    constructor
    · intro same
      have dotted := named.mp (by rw [same]; rfl)
      rw [accepted dotted] at same
      exact ⟨dotted, contents.mp (by simpa using same)⟩
    · rintro ⟨dotted, plainTag⟩
      rw [accepted dotted, contents.mpr plainTag]
  · rw [read, proposals_namedLine_of_undotted valid undotted unfenced h, Text.trimmed,
      String.toList_ofList]
    rfl

/-- The name of a hidden file is passed over; with a letter in front of the dot it is accepted. -/
theorem parse_named_iff_hidden_file :
    let marker := ['#', ' ', 'f', 'I', 'l', 'E', ':']
    let body := ['X', '=', '1']
    IsMarker marker ∧ Enclosable [] body ∧
      (parse 0 [] (String.ofList
          (namedLine marker ['.', 'e', 'n', 'v'] ++ fencedBlock [] body))).map
        (fun p => (p.fileName, p.newContent)) = [("ai_node_1.js", "X=1")] ∧
      (parse 0 [] (String.ofList
          (namedLine marker ['x', '.', 'e', 'n', 'v'] ++ fencedBlock [] body))).map
        (fun p => (p.fileName, p.newContent)) = [("x.env", "X=1")] := by
  intro marker body
  have valid : IsMarker marker :=
    ⟨['#', ' '], by simp, ['f', 'I', 'l', 'E', ':'], by decide, rfl⟩
  have enclosable : Enclosable [] body :=
    ⟨by simp, ⟨'X', by decide, by decide⟩, by decide, fun _ within =>
      (markerAt?_eq_none fun colon => absurd (within.subset colon) (by decide)).1⟩
  have hidden : ∀ c ∈ ['.', 'e', 'n', 'v'], isNameChar c = true :=
    List.all_eq_true.mp (by decide)
  have shown : ∀ c ∈ ['x', '.', 'e', 'n', 'v'], isNameChar c = true :=
    List.all_eq_true.mp (by decide)
  obtain ⟨-, -, passedOver, -⟩ := parse_named_iff 0 [] valid hidden enclosable
  obtain ⟨accepted, -, -, -⟩ := parse_named_iff 0 [] valid shown enclosable
  refine ⟨valid, enclosable, ?_, ?_⟩
  · exact (passedOver (by decide) (by decide)).trans (by decide +kernel)
  · exact (accepted.mpr ⟨by decide, by decide⟩).trans (by decide +kernel)

end Workbench.Patch
