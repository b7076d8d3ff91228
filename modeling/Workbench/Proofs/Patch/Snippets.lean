import Workbench.Proofs.Patch.Agreement
import Workbench.Proofs.Patch.Extracts

/-!
# Fenced blocks between prose

A completion without file markers is prose with fenced blocks in between (`interleave`).
`parse_interleave` says that reading it gives one patch for each block that is not blank, named by
its number among those and by its tag. Fences alternate: what opens a block and what closes it is
told apart by nothing but the place where the scan stands, and the scan stands in front of prose
after every block (`fences_interleave`), whether that has content or not.
-/

namespace Workbench.Patch

open Text (isBlank trim)
open Project (File)

/-- A fenced block and the prose behind it. -/
structure Snippet where
  tag : List Char
  body : List Char
  prose : List Char
  tagged : ∀ c ∈ tag, isTagChar c = true
  unfenced : ¬ fence <:+: body
  quiet : Char.ofNat 96 ∉ prose

/-- The block has a character that is not blank. -/
def Snippet.IsFull (s : Snippet) : Prop :=
  ∃ c ∈ s.body, isBlank c = false

instance (s : Snippet) : Decidable s.IsFull :=
  decidable_of_iff (s.body.any fun c => !isBlank c) (by simp [Snippet.IsFull])

/-- The text that starts with prose and goes on with fenced blocks. -/
def interleave (prose : List Char) : List Snippet → List Char
  | [] => prose
  | s :: snippets => prose ++ (fencedBlock s.tag s.body ++ interleave s.prose snippets)

variable {prose rest : List Char} {isTag : Char → Bool}

/-! ## The scan for fenced blocks -/

/-- No fenced block starts in text without backticks. -/
theorem fences_append_of_quiet (quiet : Char.ofNat 96 ∉ prose) :
    fences isTag (prose ++ rest) = fences isTag rest := by
  refine fences_append_of_none fun before c after split => fenceAt?_eq_none ?_
  rintro ⟨left, whole⟩
  obtain rfl : Char.ofNat 96 = c := (List.cons.inj whole).1
  exact quiet (split ▸ List.mem_append_right before List.mem_cons_self)

/-- **The scan.** It finds the blocks that were put in, and no others. -/
theorem fences_interleave (quiet : Char.ofNat 96 ∉ prose) (snippets : List Snippet) :
    fences isTagChar (interleave prose snippets) = snippets.map fun s =>
      ⟨s.tag, s.body ++ ['\n'], (fencedBlock s.tag s.body).length⟩ := by
  induction snippets generalizing prose with
  | nil =>
    have alone : fences isTagChar (prose ++ []) = fences isTagChar [] :=
      fences_append_of_quiet quiet
    rwa [List.append_nil] at alone
  | cons s snippets ih =>
    rw [interleave, fences_append_of_quiet quiet,
      fences_fencedBlock_append s.tagged s.unfenced, ih s.quiet]
    rfl

/-- Nothing is left of a body that is blank. -/
theorem trim_eq_nil_iff {body : List Char} : trim body = [] ↔ ∀ c ∈ body, isBlank c = true := by
  constructor
  · intro empty c mem
    by_contra full
    exact Text.trim_ne_nil mem (Bool.not_eq_true _ ▸ full) empty
  · intro blank
    rw [trim, Text.trimStart, List.dropWhile_eq_nil_iff.mpr blank]
    rfl

/-- The blocks with content are those that are not blank. -/
theorem fullFences_interleave (quiet : Char.ofNat 96 ∉ prose) (snippets : List Snippet) :
    fullFences (interleave prose snippets) = (snippets.filter (·.IsFull)).map fun s =>
      ⟨s.tag, s.body ++ ['\n'], (fencedBlock s.tag s.body).length⟩ := by
  rw [fullFences, fences_interleave quiet, List.filter_map]
  congr 1
  refine List.filter_congr fun s _ => ?_
  rw [Function.comp_apply, Text.trim_concat (by decide), Bool.eq_iff_iff, decide_eq_true_iff]
  simp [Snippet.IsFull, trim_eq_nil_iff]

/-! ## Reading -/

/-- **Fenced blocks between prose become patches, one for each that is not blank.** Let no marker
with a name stand anywhere in a text that is made up of fenced blocks and of prose without
backticks. Reading it gives, in order and whatever files there are, the trimmed body of each block
that is not blank, under a name with its number among those and the extension that its tag stands
for. -/
theorem parse_interleave (made : ℕ) (files : List File) {snippets : List Snippet}
    (quiet : Char.ofNat 96 ∉ prose)
    (unmarked : ∀ after, after <:+ interleave prose snippets → markerAt? after = none) :
    (parse made files (String.ofList (interleave prose snippets))).map
        (fun p => (p.fileName, p.newContent)) =
      ((snippets.filter (·.IsFull)).zipIdx 1).map fun (s, n) =>
        (s!"ai_node_{n}." ++ extension s.tag, Text.trimmed (String.ofList s.body)) := by
  have noBlocks : blocks (interleave prose snippets) = [] := by
    rw [blocks, splitBlocks_of_quiet fun before after split =>
      unmarked after ⟨before, split.symm⟩]
  have noMarked : ¬ HasMarked (String.ofList (interleave prose snippets)).toList := by
    rw [String.toList_ofList, HasMarked, noBlocks]
    simp
  rw [map_parse_of_not_marked made files noMarked, String.toList_ofList,
    fullFences_interleave quiet, List.zipIdx_map, List.map_map]
  refine List.map_congr_left fun numbered _ => ?_
  have body : trim (numbered.1.body ++ ['\n']) = trim numbered.1.body :=
    Text.trim_concat (by decide) numbered.1.body
  simp [Text.trimmed, body]

/-- A blank block between two others, the last of them right behind it, and a marker in the prose
that has no name. -/
theorem parse_interleave_blank_between :
    ∃ one two three : Snippet, one.tag = ['p', 'y', 't', 'h', 'o', 'n'] ∧ two.body = [' '] ∧
      two.prose = [] ∧ three.tag = ['c', '-', 'x'] ∧ Char.ofNat 96 ∉ ['f', 'i', 'l', 'e', ':'] ∧
      (∀ after, after <:+ interleave ['f', 'i', 'l', 'e', ':'] [one, two, three] →
        markerAt? after = none) ∧
      (parse 0 [] (String.ofList (interleave ['f', 'i', 'l', 'e', ':'] [one, two, three]))).map
          (fun p => (p.fileName, p.newContent)) = [("ai_node_1.py", "a.b"), ("ai_node_2.c-x", "y")]
      := by
  let one : Snippet := ⟨['p', 'y', 't', 'h', 'o', 'n'], ['a', '.', 'b'], ['\n', 'o', 'r', '\n'],
    List.all_eq_true.mp (by decide), by decide, by decide⟩
  let two : Snippet := ⟨['j', 's'], [' '], [], List.all_eq_true.mp (by decide), by decide,
    by decide⟩
  let three : Snippet := ⟨['c', '-', 'x'], ['\n', 'y'], [], List.all_eq_true.mp (by decide),
    by decide, by decide⟩
  have quiet : Char.ofNat 96 ∉ ['f', 'i', 'l', 'e', ':'] := by decide
  have unmarked : ∀ after ∈ (interleave ['f', 'i', 'l', 'e', ':'] [one, two, three]).tails,
      markerAt? after = none := by
    decide +kernel
  have unmarked' (after : List Char) (within : after <:+ _) :=
    unmarked after ((List.mem_tails after _).mpr within)
  refine ⟨one, two, three, rfl, rfl, rfl, rfl, quiet, unmarked', ?_⟩
  rw [parse_interleave 0 [] quiet unmarked']
  decide +kernel

end Workbench.Patch
