import Workbench.Proofs.Patch.Parsing
import Mathlib.Data.Nat.Notation

/-!
# Reading back what was rendered

A completion is rendered from sections: each is a line with a file marker and the fenced content of
the file, and is followed by prose. `parse_render` says that reading the completion gives the
sections back, in order, with their contents trimmed, as long as markers with names are found
nowhere but in the marker lines (`OnlyMarkers`).

* `splitBlocks_render`: the scan for markers stops at the marker lines and nowhere else.
* `Section.content_fenced`: the first fence of the text behind a marker line encloses the content.
-/

namespace Workbench.Patch

open Text (isBlank isWord trim)

/-- A file with its content, to be rendered, and the prose that follows it. -/
structure Section where
  name : List Char
  tag : List Char
  body : List Char
  prose : List Char
  plain : ∀ c ∈ name, isNameChar c = true
  /-- The name has a dot with a character on each side. -/
  dotted : ∃ before after, before ≠ [] ∧ after ≠ [] ∧ name = before ++ '.' :: after
  tagged : ∀ c ∈ tag, isWord c = true
  full : ∃ c ∈ body, isBlank c = false
  unfenced : ¬ fence <:+: body

/-- A marker: a hash sign, a space, the word, a colon and a space. -/
def marker : List Char := ['#', ' ', 'F', 'i', 'l', 'e', ':', ' ']

namespace Section

/-- The line with the marker and the name. -/
def markerLine (s : Section) : List Char :=
  marker ++ s.name ++ ['\n']

/-- The fenced content and the prose behind it. -/
def fenced (s : Section) : List Char :=
  fence ++ s.tag ++ '\n' :: (s.body ++ '\n' :: (fence ++ '\n' :: s.prose))

end Section

/-- The completion that starts with prose and goes on with sections. -/
def render (prose : List Char) : List Section → List Char
  | [] => prose
  | s :: sections => prose ++ (s.markerLine ++ render s.fenced sections)

/-- The `n`-th character of a completion belongs to a marker line. -/
def InMarkerLine (prose : List Char) : List Section → ℕ → Prop
  | [], _ => False
  | s :: sections, n =>
    (prose.length ≤ n ∧ n < prose.length + s.markerLine.length) ∨
      (prose.length + s.markerLine.length ≤ n ∧
        InMarkerLine s.fenced sections (n - (prose.length + s.markerLine.length)))

/-- Nothing in the completion is a marker with a name, but in the marker lines. -/
def OnlyMarkers (prose : List Char) (sections : List Section) : Prop :=
  ∀ before after, render prose sections = before ++ after → (markerAt? after).isSome →
    InMarkerLine prose sections before.length

instance decidableInMarkerLine :
    (prose : List Char) → (sections : List Section) → (n : ℕ) →
      Decidable (InMarkerLine prose sections n)
  | _, [], _ => inferInstanceAs (Decidable False)
  | prose, s :: sections, n =>
    have := decidableInMarkerLine s.fenced sections (n - (prose.length + s.markerLine.length))
    inferInstanceAs (Decidable
      ((prose.length ≤ n ∧ n < prose.length + s.markerLine.length) ∨
        (prose.length + s.markerLine.length ≤ n ∧
          InMarkerLine s.fenced sections (n - (prose.length + s.markerLine.length)))))

/-- It is enough to look for markers at the places of the text. -/
theorem onlyMarkers_iff (prose : List Char) (sections : List Section) :
    (∀ n ∈ List.range ((render prose sections).length + 1),
      (markerAt? ((render prose sections).drop n)).isSome → InMarkerLine prose sections n) ↔
        OnlyMarkers prose sections := by
  constructor
  · intro h before after split found
    refine h before.length (List.mem_range.mpr (Nat.lt_succ_of_le ?_)) ?_
    · rw [split, List.length_append]
      exact Nat.le_add_right _ _
    · rwa [split, List.drop_left]
  · intro h n hn found
    have hn : n ≤ (render prose sections).length := Nat.le_of_lt_succ (List.mem_range.mp hn)
    have := h _ _ (List.take_append_drop n _).symm found
    rwa [List.length_take, Nat.min_eq_left hn] at this

instance (prose : List Char) (sections : List Section) : Decidable (OnlyMarkers prose sections) :=
  decidable_of_iff _ (onlyMarkers_iff prose sections)

/-! ## Marker lines -/

/-- Text behind a marker line starts with a character that is not blank. -/
theorem render_fenced_eq (s : Section) (sections : List Section) :
    ∃ rest, render s.fenced sections = Char.ofNat 96 :: rest := by
  cases sections with
  | nil => exact ⟨_, rfl⟩
  | cons s' sections => exact ⟨_, rfl⟩

/-- One spelling of a marker. -/
theorem isMarker_hash : IsMarker ['#', ' ', 'F', 'i', 'l', 'e', ':'] :=
  ⟨['#', ' '], by simp, ['F', 'i', 'l', 'e', ':'], by decide, rfl⟩

/-- The marker of a marker line takes up the whole line. -/
theorem markerAt?_markerLine (s : Section) {c : Char} (rest : List Char)
    (full : isBlank c = false) :
    markerAt? (s.markerLine ++ c :: rest) = some ⟨s.name, s.markerLine.length⟩ := by
  obtain ⟨before, after, hb, ha, split⟩ := s.dotted
  have inner : hasInnerDot s.name = true := by
    rw [split]
    exact hasInnerDot_of_split hb ha
  have found : markerAt? (['#', ' ', 'F', 'i', 'l', 'e', ':'] ++
      ([' '] ++ (s.name ++ (['\n'] ++ c :: rest)))) = some ⟨s.name, _⟩ :=
    markerAt?_append isMarker_hash (List.all_eq_true.mp (by decide)) s.plain inner
      (List.all_eq_true.mp (by decide)) (by simp) (by simpa using full)
  simpa [Section.markerLine, marker] using found

/-! ## The scan for markers -/

/-- A marker line opens a block. -/
theorem splitBlocks_markerLine (s : Section) (sections : List Section) :
    splitBlocks 0 (s.markerLine ++ render s.fenced sections) =
      ([], ⟨s.name, (splitBlocks 0 (render s.fenced sections)).1⟩ ::
        (splitBlocks 0 (render s.fenced sections)).2) := by
  obtain ⟨rest, hrest⟩ := render_fenced_eq s sections
  have found := markerAt?_markerLine s rest (c := Char.ofNat 96) (by decide)
  rw [← hrest] at found
  exact splitBlocks_markerAt? (by simp [Section.markerLine]) found

namespace OnlyMarkers

variable {prose : List Char} {s : Section} {sections : List Section}

/-- No marker starts in the prose at the front. -/
theorem quiet_prose (h : OnlyMarkers prose (s :: sections)) {before after : List Char} {c : Char}
    (split : prose = before ++ c :: after) :
    markerAt? (c :: after ++ (s.markerLine ++ render s.fenced sections)) = none := by
  by_contra found
  have inLine := h before (c :: after ++ (s.markerLine ++ render s.fenced sections))
    (by rw [render, split, List.append_assoc]) (Option.isSome_iff_ne_none.mpr found)
  -- all marker lines are behind the prose
  have shorter : before.length < prose.length := by simp [split]
  rcases inLine with ⟨behind, -⟩ | ⟨behind, -⟩
  · omega
  · omega

/-- What follows a marker line has markers in marker lines only, too. -/
theorem tail (h : OnlyMarkers prose (s :: sections)) : OnlyMarkers s.fenced sections := by
  intro before after split found
  -- the positions count on from the end of the marker line
  have inLine := h (prose ++ (s.markerLine ++ before)) after (by simp [render, split]) found
  have length_eq : (prose ++ (s.markerLine ++ before)).length =
      prose.length + s.markerLine.length + before.length := by
    simp [Nat.add_assoc]
  rw [length_eq] at inLine
  rcases inLine with ⟨-, within⟩ | ⟨-, later⟩
  · omega
  · rwa [Nat.add_sub_cancel_left] at later

end OnlyMarkers

/-- **The scan.** It finds the prose at the front, and behind each marker line the text up to the
next. -/
theorem splitBlocks_render {prose : List Char} {sections : List Section}
    (h : OnlyMarkers prose sections) :
    splitBlocks 0 (render prose sections) =
      (prose, sections.map fun s => ⟨s.name, s.fenced⟩) := by
  induction sections generalizing prose with
  | nil =>
    exact splitBlocks_of_quiet fun before after split =>
      Option.not_isSome_iff_eq_none.mp (h before after split)
  | cons s sections ih =>
    rw [render, splitBlocks_append fun _ _ _ => h.quiet_prose, splitBlocks_markerLine, ih h.tail]
    simp

/-! ## The content of a block -/

/-- The fence of a section is found at its start. -/
theorem fenceAt?_fenced (s : Section) :
    fenceAt? isWord s.fenced = some ⟨s.tag, s.body ++ ['\n'],
      s.tag.length + (s.body ++ ['\n']).length + 7⟩ := by
  have found := fenceAt?_append s.tagged (by decide) s.unfenced ('\n' :: s.prose)
  simpa [Section.fenced] using found

/-- **The content.** The first fence encloses the body. -/
theorem Section.content_fenced (s : Section) : content s.fenced = trim s.body := by
  rw [content_of_fenceAt? (fenceAt?_fenced s)]
  exact Text.trim_concat (by decide) s.body

/-! ## Reading back -/

/-- A text that was rendered makes the proposals of its sections. -/
theorem markedProposals_render {prose : List Char} {sections : List Section}
    (h : OnlyMarkers prose sections) :
    markedProposals (render prose sections) =
      sections.map fun s => ⟨String.ofList s.name, String.ofList (trim s.body)⟩ := by
  unfold markedProposals blocks
  rw [splitBlocks_render h, List.filterMap_map, ← List.filterMap_eq_map]
  refine List.filterMap_congr fun s _ => ?_
  obtain ⟨c, mem, full⟩ := s.full
  simp [s.content_fenced, Text.trim_ne_nil mem full]

/-- If there are proposals of markers, the patches are theirs. -/
theorem parse_eq_of_marked (made : ℕ) (files : List Project.File) {text : String}
    (some : markedProposals text.toList ≠ []) :
    (parse made files text).map (fun p => (p.fileName, p.newContent)) =
      (markedProposals text.toList).map fun p => (p.fileName, p.content) := by
  rw [map_parse, proposals, if_neg (by simpa using some)]

/-- **Reading undoes rendering.** If markers with names are found nowhere but in the marker lines of
a completion that was rendered from sections, there being one at least, then reading it gives one
patch for each section, in order, with its name and its trimmed content, whatever files there
are. -/
theorem parse_render (made : ℕ) (files : List Project.File) {prose : List Char}
    {sections : List Section} (some : sections ≠ []) (h : OnlyMarkers prose sections) :
    (parse made files (String.ofList (render prose sections))).map
        (fun p => (p.fileName, p.newContent)) =
      sections.map fun s =>
        (String.ofList s.name, Text.trimmed (String.ofList s.body)) := by
  have marked := markedProposals_render h
  rw [← String.toList_ofList (l := render prose sections)] at marked
  rw [parse_eq_of_marked, marked, List.map_map]
  · refine List.map_congr_left fun s _ => ?_
    simp [Text.trimmed]
  · rw [marked]
    simpa using some

/-- Two sections, the first with prose behind it that holds a marker without a name. -/
theorem parse_render_two_sections :
    ∃ one two : Section, one.name = ['a', '.', 'b'] ∧ one.prose = ['f', 'i', 'l', 'e', ':', '\n'] ∧
      two.name = ['c', '.', 'd'] ∧ OnlyMarkers ['H', 'i', '\n'] [one, two] ∧
      (parse 0 [] (String.ofList (render ['H', 'i', '\n'] [one, two]))).map
          (fun p => (p.fileName, p.newContent)) = [("a.b", "x"), ("c.d", "y")] := by
  let one : Section := ⟨['a', '.', 'b'], ['j', 's'], ['x', ' '], ['f', 'i', 'l', 'e', ':', '\n'],
    List.all_eq_true.mp (by decide), ⟨['a'], ['b'], by decide, by decide, rfl⟩,
    List.all_eq_true.mp (by decide), ⟨'x', by decide, by decide⟩, by decide⟩
  let two : Section := ⟨['c', '.', 'd'], [], ['\n', 'y'], [],
    List.all_eq_true.mp (by decide), ⟨['c'], ['d'], by decide, by decide, rfl⟩,
    List.all_eq_true.mp (by decide), ⟨'y', by decide, by decide⟩, by decide⟩
  have only : OnlyMarkers ['H', 'i', '\n'] [one, two] := by decide +kernel
  refine ⟨one, two, rfl, rfl, rfl, only, ?_⟩
  rw [parse_render 0 [] (by decide) only]
  decide +kernel

end Workbench.Patch
