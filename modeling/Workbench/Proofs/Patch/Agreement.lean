import Workbench.Proofs.Patch.Parsing

/-!
# Fenced blocks with and without a marker

A fenced block can follow a line with a file marker (`fileLine`), or stand alone in a text without
markers. Alone, its content is its body, whatever its tag. Behind a marker, hyphens do not count as
part of a tag: a block with one in its tag is no fenced block then, and its content starts with what
is left of the tag. `parse_agrees_iff` says that this is the only difference.
-/

namespace Workbench.Patch

open Text (isBlank isWord trim trimStart trimEnd)
open Project (File)

variable {name tag body : List Char} {isTag : Char → Bool}

/-- The line of a file marker. -/
def fileLine (name : List Char) : List Char :=
  ['F', 'I', 'L', 'E', ':', ' '] ++ name ++ ['\n']

/-- A fenced block with its fences on lines of their own. -/
def fencedBlock (tag body : List Char) : List Char :=
  fence ++ (tag ++ '\n' :: (body ++ '\n' :: fence))

/-- The body can be enclosed in fences with the tag: the tag consists of word characters and
hyphens, and the body is not blank and holds neither a fence nor a marker with a name. -/
structure Enclosable (tag body : List Char) : Prop where
  tagged : ∀ c ∈ tag, isTagChar c = true
  full : ∃ c ∈ body, isBlank c = false
  unfenced : ¬ fence <:+: body
  unmarked : ∀ after, after <:+ body → markerAt? after = none

/-! ## Markers -/

/-- No marker starts in a fenced block, because none starts in its body. -/
theorem markerAt?_of_suffix_fencedBlock (h : Enclosable tag body) {after : List Char}
    (within : after <:+ fencedBlock tag body) : markerAt? after = none := by
  rw [fencedBlock, ← List.append_assoc] at within
  rcases Text.suffix_append_cons within with ⟨line, front, rfl⟩ | later
  · -- a fence and a tag hold no colon
    refine (markerAt?_eq_none fun colon => ?_).2 _
    rcases List.mem_append.mp (front.subset colon) with fenced | tagging
    · exact absurd fenced (by decide)
    · exact absurd (h.tagged ':' tagging) (by decide)
  rcases Text.suffix_append_cons later with ⟨left, inner, rfl⟩ | closing
  · rw [← Option.not_isSome_iff_eq_none]
    intro found
    rcases markerAt?_append_newline found with here | named
    · rw [h.unmarked left inner] at here
      cases here
    · exact absurd named (by decide)
  · exact (markerAt?_eq_none fun colon => absurd (closing.subset colon) (by decide)).1

/-- A fenced block has no marker in it, so that it stays in one piece. -/
theorem splitBlocks_fencedBlock (h : Enclosable tag body) :
    splitBlocks 0 (fencedBlock tag body) = (fencedBlock tag body, []) :=
  splitBlocks_of_quiet fun before _ split =>
    markerAt?_of_suffix_fencedBlock h ⟨before, split.symm⟩

/-- The block of a marker is the fenced block behind its line. -/
theorem blocks_append_fencedBlock {marker : List Char} (valid : IsMarker marker)
    (plain : ∀ c ∈ name, isNameChar c = true) (dotted : hasInnerDot name = true)
    (h : Enclosable tag body) :
    blocks (marker ++ ([' '] ++ (name ++ (['\n'] ++ fencedBlock tag body)))) =
      [⟨name, fencedBlock tag body⟩] := by
  have found : markerAt? (marker ++ ([' '] ++ (name ++ (['\n'] ++ fencedBlock tag body)))) =
      some ⟨name, _⟩ :=
    markerAt?_append valid (List.all_eq_true.mp (by decide)) plain dotted
      (List.all_eq_true.mp (by decide)) (by simp) (by simp [fencedBlock, fence]; decide)
  have joined : marker ++ ([' '] ++ (name ++ (['\n'] ++ fencedBlock tag body))) =
      marker ++ ([' '] ++ (name ++ ['\n'])) ++ fencedBlock tag body := by
    simp
  rw [joined] at found ⊢
  rw [blocks, splitBlocks_markerAt? (by simp) found, splitBlocks_fencedBlock h]

/-- A marker line and a fenced block are one block. -/
theorem blocks_fileLine (plain : ∀ c ∈ name, isNameChar c = true)
    (dotted : hasInnerDot name = true) (h : Enclosable tag body) :
    blocks (fileLine name ++ fencedBlock tag body) = [⟨name, fencedBlock tag body⟩] := by
  have valid : IsMarker ['F', 'I', 'L', 'E', ':'] :=
    ⟨[], by simp, ['F', 'I', 'L', 'E', ':'], by decide, rfl⟩
  simpa [fileLine] using blocks_append_fencedBlock valid plain dotted h

/-! ## Contents -/

/-- A fenced block is found if its tag is one, in front of anything. -/
theorem fenceAt?_fencedBlock_append (tagged : ∀ c ∈ tag, isTag c = true)
    (newline : isTag '\n' = false) (unfenced : ¬ fence <:+: body) (rest : List Char) :
    fenceAt? isTag (fencedBlock tag body ++ rest) =
      some ⟨tag, body ++ ['\n'], (fencedBlock tag body).length⟩ := by
  have found := fenceAt?_append tagged newline unfenced rest
  have size : tag.length + (body ++ ['\n']).length + 7 = (fencedBlock tag body).length := by
    simp [fencedBlock, fence]
    omega
  rw [size] at found
  simpa [fencedBlock] using found

/-- The fence of a block is found at its start, if the tag is one and the body has no fence in
it. -/
theorem fenceAt?_fencedBlock (tagged : ∀ c ∈ tag, isTag c = true) (newline : isTag '\n' = false)
    (unfenced : ¬ fence <:+: body) :
    fenceAt? isTag (fencedBlock tag body) =
      some ⟨tag, body ++ ['\n'], (fencedBlock tag body).length⟩ := by
  have found := fenceAt?_fencedBlock_append tagged newline unfenced []
  rwa [List.append_nil] at found

/-- Behind a fenced block, the search goes on with what follows its closing fence. -/
theorem fences_fencedBlock_append (tagged : ∀ c ∈ tag, isTagChar c = true)
    (unfenced : ¬ fence <:+: body) (rest : List Char) :
    fences isTagChar (fencedBlock tag body ++ rest) =
      ⟨tag, body ++ ['\n'], (fencedBlock tag body).length⟩ :: fences isTagChar rest :=
  fences_append (by simp [fencedBlock, fence])
    (fenceAt?_fencedBlock_append tagged (by decide) unfenced rest) rfl

/-- It is the only one. -/
theorem fences_fencedBlock (tagged : ∀ c ∈ tag, isTagChar c = true)
    (unfenced : ¬ fence <:+: body) : fences isTagChar (fencedBlock tag body) =
      [⟨tag, body ++ ['\n'], (fencedBlock tag body).length⟩] := by
  have alone := fences_fencedBlock_append tagged unfenced []
  rwa [List.append_nil] at alone

/-- What may be a tag on its own is a word, hyphens apart. -/
theorem isWord_of_hyphen_not_mem (tagged : ∀ c ∈ tag, isTagChar c = true) (plain : '-' ∉ tag) :
    ∀ c ∈ tag, isWord c = true := by
  intro c mem
  have differs : c ≠ '-' := fun same => plain (same ▸ mem)
  simpa [isTagChar, differs] using tagged c mem

/-- What follows the word at the front of a tag with a hyphen starts with a hyphen. -/
theorem dropWhile_isWord_eq_cons (tagged : ∀ c ∈ tag, isTagChar c = true) (hyphen : '-' ∈ tag) :
    ∃ left, tag.dropWhile isWord = '-' :: left := by
  cases dropped : tag.dropWhile isWord with
  | nil => exact absurd (List.dropWhile_eq_nil_iff.mp dropped '-' hyphen) (by decide)
  | cons c left =>
    have stops : isWord c = false := by
      have first := List.head?_dropWhile_not isWord tag
      rw [dropped] at first
      exact first
    have mem : c ∈ tag := (List.dropWhile_suffix isWord).subset (dropped ▸ List.mem_cons_self)
    have same : c = '-' := by simpa [isTagChar, stops] using tagged c mem
    exact ⟨left, by rw [same]⟩

/-- A tag with a hyphen is no tag where tags are words. -/
theorem fenceAt?_fencedBlock_eq_none (h : Enclosable tag body) (hyphen : '-' ∈ tag) :
    fenceAt? isWord (fencedBlock tag body) = none := by
  have newline : isTagChar '\n' = false := by decide
  rw [Option.eq_none_iff_forall_ne_some]
  intro f found
  obtain ⟨piece, rest, ⟨words, rfl⟩, whole, -⟩ := fenceAt?_eq_some found
  have words' : ∀ c ∈ f.tag, isTagChar c = true := fun c mem => by simp [isTagChar, words c mem]
  -- both tags end at the first line feed
  have same : tag = f.tag := by
    rw [fencedBlock, List.append_assoc] at whole
    have behind := congrArg (List.takeWhile isTagChar) (List.append_cancel_left whole)
    rwa [List.append_assoc, List.cons_append, Text.takeWhile_append_cons newline,
      Text.takeWhile_append_cons newline, List.takeWhile_eq_self_iff.mpr h.tagged,
      List.takeWhile_eq_self_iff.mpr words'] at behind
  exact absurd (words '-' (same ▸ hyphen)) (by decide)

/-- Between the first backtick of a fenced block and its closing fence there is no fence. -/
theorem Enclosable.quiet (h : Enclosable tag body) :
    ¬ fence <:+: fence.tail ++ tag ++ '\n' :: (body ++ ['\n']) := by
  intro inside
  rcases Text.infix_of_infix_append_cons (by decide) inside with front | behind
  · -- two backticks and a tag make no fence
    have count := front.sublist.count_le (Char.ofNat 96)
    have absent : Char.ofNat 96 ∉ tag := fun mem => absurd (h.tagged _ mem) (by decide)
    rw [List.count_append, List.count_eq_zero.mpr absent] at count
    exact absurd count (by decide)
  rcases Text.infix_of_infix_append_cons (by decide) behind with inner | nothing
  · exact h.unfenced inner
  · exact absurd (List.infix_nil.mp nothing) (by decide)

/-- A hyphen in the tag keeps a fenced block from being found where tags are words. -/
theorem firstFence?_fencedBlock (h : Enclosable tag body) (hyphen : '-' ∈ tag) :
    firstFence? isWord (fencedBlock tag body) = none := by
  have here := fenceAt?_fencedBlock_eq_none h hyphen
  have split : fencedBlock tag body =
      Char.ofNat 96 :: (fence.tail ++ tag ++ '\n' :: (body ++ ['\n']) ++ fence) := by
    simp [fencedBlock, fence, List.replicate_succ]
  rw [split] at here ⊢
  rw [firstFence?, here, firstFence?_append_fence h.quiet]
  rfl

/-- The content of a fenced block is its body, if its tag is a word. -/
theorem content_fencedBlock (tagged : ∀ c ∈ tag, isWord c = true) (unfenced : ¬ fence <:+: body) :
    content (fencedBlock tag body) = trim body := by
  rw [content_of_fenceAt? (fenceAt?_fencedBlock tagged (by decide) unfenced)]
  exact Text.trim_concat (by decide) body

/-- The content of a fenced block with a hyphen in its tag starts with what follows the word at the
front of the tag. -/
theorem content_fencedBlock_of_hyphen (h : Enclosable tag body) (hyphen : '-' ∈ tag) :
    content (fencedBlock tag body) = tag.dropWhile isWord ++ '\n' :: trimEnd body := by
  obtain ⟨left, dropped⟩ := dropWhile_isWord_eq_cons h.tagged hyphen
  have opened : withoutOpening (fencedBlock tag body) =
      '-' :: (left ++ '\n' :: (body ++ ['\n'])) ++ fence := by
    have some_left : tag.dropWhile isWord ≠ [] := by simp [dropped]
    rw [withoutOpening, fencedBlock, Text.afterPrefix?_append]
    dsimp only
    rw [List.dropWhile_append, if_neg (by simpa using some_left), dropped]
    simp
  rw [content, firstFence?_fencedBlock h hyphen, dropped]
  dsimp only
  rw [opened, withoutClosing_append]
  obtain ⟨c, mem, full⟩ := h.full
  calc trim ('-' :: (left ++ '\n' :: (body ++ ['\n'])))
      = trimEnd (('-' :: left ++ ['\n']) ++ (body ++ ['\n'])) := by
        rw [trim, trimStart, List.dropWhile_cons_of_neg (by decide)]
        simp
    _ = ('-' :: left ++ ['\n']) ++ trimEnd (body ++ ['\n']) :=
        Text.trimEnd_append (List.mem_append_left _ mem) full _
    _ = '-' :: left ++ '\n' :: trimEnd body := by
        rw [Text.trimEnd_concat (by decide)]
        simp

/-- There is something inside of a fenced block. -/
theorem content_fencedBlock_ne_nil (h : Enclosable tag body) :
    content (fencedBlock tag body) ≠ [] := by
  by_cases hyphen : '-' ∈ tag
  · rw [content_fencedBlock_of_hyphen h hyphen]
    simp
  · obtain ⟨c, mem, full⟩ := h.full
    rw [content_fencedBlock (isWord_of_hyphen_not_mem h.tagged hyphen) h.unfenced]
    exact Text.trim_ne_nil mem full

/-- A hyphen in the tag makes the content longer than the body. -/
theorem content_fencedBlock_eq_iff (h : Enclosable tag body) :
    content (fencedBlock tag body) = trim body ↔ '-' ∉ tag := by
  refine ⟨fun same hyphen => ?_, fun plain =>
    content_fencedBlock (isWord_of_hyphen_not_mem h.tagged plain) h.unfenced⟩
  rw [content_fencedBlock_of_hyphen h hyphen] at same
  obtain ⟨c, mem, full⟩ := h.full
  have longer := congrArg List.length same
  rw [Text.trimEnd_eq mem full] at longer
  simp only [List.length_append, List.length_cons] at longer
  omega

/-! ## Patches -/

/-- One block makes one proposal. -/
theorem proposals_of_blocks {cs : List Char} (found : blocks cs = [⟨name, fencedBlock tag body⟩])
    (h : Enclosable tag body) : proposals cs =
      [⟨String.ofList name, String.ofList (content (fencedBlock tag body))⟩] := by
  have nonempty := content_fencedBlock_ne_nil h
  have marked : markedProposals cs =
      [⟨String.ofList name, String.ofList (content (fencedBlock tag body))⟩] := by
    rw [markedProposals, found]
    simp [nonempty]
  simp [proposals, marked]

/-- A text without markers, in which one fenced block is found, gives a proposal for a file with a
made-up name. -/
theorem proposals_of_fences {cs : List Char} (noBlocks : blocks cs = [])
    (alone : fences isTagChar cs = fences isTagChar (fencedBlock tag body))
    (h : Enclosable tag body) :
    proposals cs = [⟨madeUpName 1 tag, String.ofList (trim body)⟩] := by
  have noMarked : markedProposals cs = [] := by
    rw [markedProposals, noBlocks]
    rfl
  rw [fences_fencedBlock h.tagged h.unfenced] at alone
  obtain ⟨c, mem, full⟩ := h.full
  have nonempty : trim body ≠ [] := Text.trim_ne_nil mem full
  have newline : trim (body ++ ['\n']) = trim body := Text.trim_concat (by decide) body
  simp [proposals, noMarked, fencedProposals, alone, newline, nonempty]

/-- A fenced block alone is proposed under a name that is made up. -/
theorem proposals_fencedBlock (h : Enclosable tag body) :
    proposals (fencedBlock tag body) = [⟨madeUpName 1 tag, String.ofList (trim body)⟩] := by
  refine proposals_of_fences ?_ rfl h
  rw [blocks, splitBlocks_fencedBlock h]

/-- **A fenced block has one content, with and without a marker, unless there is a hyphen in its
tag.** Let a name be accepted behind a marker, and a body be one that can be enclosed in fences with
a tag. The fenced block gives one patch behind a line with the marker and the name, and one alone,
whose content is the trimmed body. Both contents are the same exactly if the tag has no hyphen;
otherwise, the one behind the marker starts with what follows the word at the front of the tag. -/
theorem parse_agrees_iff (made : ℕ) (files : List File)
    (plain : ∀ c ∈ name, isNameChar c = true) (dotted : hasInnerDot name = true)
    (h : Enclosable tag body) :
    ∃ behind alone,
      (parse made files (String.ofList (fileLine name ++ fencedBlock tag body))).map
          (fun p => (p.fileName, p.newContent)) = [(String.ofList name, behind)] ∧
      (parse made files (String.ofList (fencedBlock tag body))).map (·.newContent) = [alone] ∧
      alone = Text.trimmed (String.ofList body) ∧
      (behind = alone ↔ '-' ∉ tag) ∧
      ('-' ∈ tag →
        behind = String.ofList (tag.dropWhile isWord ++ '\n' :: trimEnd body)) := by
  have following : (parse made files (String.ofList (fileLine name ++ fencedBlock tag body))).map
      (fun p => (p.fileName, p.newContent)) =
        [(String.ofList name, String.ofList (content (fencedBlock tag body)))] := by
    rw [map_parse, String.toList_ofList, proposals_of_blocks (blocks_fileLine plain dotted h) h]
    rfl
  have standing : (parse made files (String.ofList (fencedBlock tag body))).map (·.newContent) =
      [String.ofList (trim body)] := by
    have both := map_parse made files (String.ofList (fencedBlock tag body))
    rw [String.toList_ofList, proposals_fencedBlock h] at both
    simpa using congrArg (List.map Prod.snd) both
  refine ⟨_, _, following, standing, ?_, ?_, fun hyphen => ?_⟩
  · rw [Text.trimmed, String.toList_ofList]
  · rw [String.ofList_inj]
    exact content_fencedBlock_eq_iff h
  · rw [content_fencedBlock_of_hyphen h hyphen]

/-- A tag with a hyphen, which keeps its second half in the content, and one without. -/
theorem parse_agrees_iff_two_tags :
    let name := ['a', '.', 'm']
    let body := ['i', 'n', 't', ' ', 'x', ';']
    let kept := ['o', 'b', 'j', '-', 'c']
    let plain := ['j', 's']
    ((parse 0 [] (String.ofList (fileLine name ++ fencedBlock kept body))).map (·.newContent) =
        ["-c\nint x;"] ∧
      (parse 0 [] (String.ofList (fencedBlock kept body))).map (·.newContent) = ["int x;"]) ∧
    (parse 0 [] (String.ofList (fileLine name ++ fencedBlock plain body))).map (·.newContent) =
      (parse 0 [] (String.ofList (fencedBlock plain body))).map (·.newContent) := by
  intro name body kept plain
  have named : ∀ c ∈ name, isNameChar c = true := List.all_eq_true.mp (by decide)
  have enclosable {tag : List Char} (tagged : ∀ c ∈ tag, isTagChar c = true) :
      Enclosable tag body :=
    ⟨tagged, ⟨'i', by decide, by decide⟩, by decide, fun _ within =>
      (markerAt?_eq_none fun colon => absurd (within.subset colon) (by decide)).1⟩
  have hyphened : Enclosable kept body := enclosable (List.all_eq_true.mp (by decide))
  have worded : Enclosable plain body := enclosable (List.all_eq_true.mp (by decide))
  obtain ⟨behind, alone, following, standing, rfl, -, left⟩ :=
    parse_agrees_iff 0 [] named (by decide) hyphened
  obtain ⟨behind', alone', following', standing', -, agrees, -⟩ :=
    parse_agrees_iff 0 [] named (by decide) worded
  refine ⟨⟨?_, ?_⟩, ?_⟩
  · have contents := congrArg (List.map Prod.snd) following
    rw [List.map_map, left (by decide)] at contents
    exact contents.trans (by decide +kernel)
  · exact standing.trans (by decide +kernel)
  · have contents := congrArg (List.map Prod.snd) following'
    rw [List.map_map, agrees.mpr (by decide)] at contents
    exact contents.trans standing'.symm

end Workbench.Patch
