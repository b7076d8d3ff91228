import Workbench.Patch.Completion
import Workbench.Proofs.Text.InOrder
import Workbench.Proofs.Text.Lowercase
import Workbench.Proofs.Text.Scan

/-!
# What the scans of a completion find

The two scans go through a text from the left. What they find is told here by how the text is put
together: a marker with a name (`markerAt?`), the blocks of all markers (`splitBlocks`), a fenced
block (`fenceAt?`), all of them (`fences`) and the content of a block (`content`). In one direction,
a text that is put together in this way is found to be so; in the other, everything that is found
stands in the text like this, one behind the other.
-/

namespace Workbench.Patch

open Text (isBlank isWord trim trimStart InOrder)

variable {cs rest marker gap name run : List Char}

-- the equations of the scans are made here, once, and not while the proofs wait for them
attribute [local grind =] afterWord? afterMarker? markerAt? splitBlocks fenceAt? fencesFrom
  withoutOpening withoutClosing

/-! ## Markers -/

/-- A marker: the word `file` in any case and a colon, perhaps behind a hash sign, or behind a hash
sign and a space. -/
def IsMarker (marker : List Char) : Prop :=
  ∃ lead ∈ [[], ['#'], ['#', ' ']], ∃ spelled,
    List.Forall₂ (fun c d => Text.sameLetter c d = true) ['f', 'i', 'l', 'e', ':'] spelled ∧
      marker = lead ++ spelled

/-- What stands behind a word that is spelled in any case. -/
theorem afterWord?_eq_some_iff {word : List Char} : afterWord? word cs = some rest ↔
    ∃ spelled, List.Forall₂ (fun c d => Text.sameLetter c d = true) word spelled ∧
      cs = spelled ++ rest := by
  induction word generalizing cs with
  | nil => simp [afterWord?]
  | cons w word ih =>
    cases cs with
    | nil => simp [afterWord?, List.forall₂_cons_left_iff]
    | cons c cs =>
      rw [afterWord?]
      by_cases same : Text.sameLetter w c = true
      · rw [if_pos same, ih]
        constructor
        · rintro ⟨spelled, alike, rfl⟩
          exact ⟨c :: spelled, .cons same alike, rfl⟩
        · rintro ⟨spelled, alike, whole⟩
          obtain ⟨d, ds, -, later, rfl⟩ := List.forall₂_cons_left_iff.mp alike
          exact ⟨ds, later, (List.cons.inj whole).2⟩
      · rw [if_neg same]
        refine ⟨nofun, ?_⟩
        rintro ⟨spelled, alike, whole⟩
        obtain ⟨d, ds, first, -, rfl⟩ := List.forall₂_cons_left_iff.mp alike
        exact absurd ((List.cons.inj whole).1 ▸ first) same

/-- The characters of a marker behind its lead agree with letters of the word. -/
theorem exists_of_mem_spelled {word spelled : List Char} {c : Char}
    (alike : List.Forall₂ (fun c d => Text.sameLetter c d = true) word spelled)
    (mem : c ∈ spelled) : ∃ w ∈ word, Text.sameLetter w c = true := by
  induction alike with
  | nil => cases mem
  | cons same _ ih =>
    rcases List.mem_cons.mp mem with rfl | later
    · exact ⟨_, List.mem_cons_self, same⟩
    · obtain ⟨w, hw, same⟩ := ih later
      exact ⟨w, List.mem_cons_of_mem _ hw, same⟩

/-- What stands behind a marker. -/
theorem afterMarker?_eq_some_iff :
    afterMarker? cs = some rest ↔ ∃ marker, IsMarker marker ∧ cs = marker ++ rest := by
  constructor
  · intro found
    unfold afterMarker? at found
    split at found
    · obtain ⟨spelled, alike, rfl⟩ := afterWord?_eq_some_iff.mp found
      exact ⟨_, ⟨['#', ' '], by simp, spelled, alike, rfl⟩, rfl⟩
    · obtain ⟨spelled, alike, rfl⟩ := afterWord?_eq_some_iff.mp found
      exact ⟨_, ⟨['#'], by simp, spelled, alike, rfl⟩, rfl⟩
    · obtain ⟨spelled, alike, rfl⟩ := afterWord?_eq_some_iff.mp found
      exact ⟨_, ⟨[], by simp, spelled, alike, rfl⟩, rfl⟩
  · rintro ⟨marker, ⟨lead, among, spelled, alike, rfl⟩, rfl⟩
    have word : afterWord? ['f', 'i', 'l', 'e', ':'] (spelled ++ rest) = some rest :=
      afterWord?_eq_some_iff.mpr ⟨spelled, alike, rfl⟩
    -- the word starts with a letter, so that neither a hash sign nor a space is read as part of it
    obtain ⟨f, fs, first, -, rfl⟩ := List.forall₂_cons_left_iff.mp alike
    have noHash : f ≠ '#' := by
      rintro rfl
      exact absurd first (by decide)
    have noSpace : f ≠ ' ' := by
      rintro rfl
      exact absurd first (by decide)
    simp only [List.mem_cons, List.not_mem_nil, or_false] at among
    rcases among with rfl | rfl | rfl
    · simpa [afterMarker?, noHash] using word
    · simpa [afterMarker?, noSpace] using word
    · simpa [afterMarker?] using word

theorem IsMarker.ne_nil (h : IsMarker marker) : marker ≠ [] := by
  obtain ⟨lead, -, spelled, alike, rfl⟩ := h
  obtain ⟨f, fs, -, -, rfl⟩ := List.forall₂_cons_left_iff.mp alike
  simp

/-- A character that is no letter of the word, no colon, no hash sign and no space is in no
marker. -/
theorem IsMarker.not_mem (h : IsMarker marker) {c : Char} (apart : c ≠ '#' ∧ c ≠ ' ')
    (differs : ∀ w ∈ ['f', 'i', 'l', 'e', ':'], (!Text.sameLetter w c) = true) : c ∉ marker := by
  obtain ⟨lead, among, spelled, alike, rfl⟩ := h
  intro mem
  rcases List.mem_append.mp mem with leading | spelling
  · simp only [List.mem_cons, List.not_mem_nil, or_false] at among
    rcases among with rfl | rfl | rfl <;> simp [apart.1, apart.2] at leading
  · obtain ⟨w, hw, same⟩ := exists_of_mem_spelled alike spelling
    have here := differs w hw
    rw [same] at here
    cases here

/-- A marker is on one line. -/
theorem IsMarker.newline_not_mem (h : IsMarker marker) : '\n' ∉ marker :=
  h.not_mem (by decide) (List.all_eq_true.mp (by decide))

/-- A marker has a colon. -/
theorem IsMarker.colon_mem (h : IsMarker marker) : ':' ∈ marker := by
  obtain ⟨lead, -, spelled, alike, rfl⟩ := h
  simp only [List.forall₂_cons_left_iff, List.forall₂_nil_left_iff] at alike
  obtain ⟨_, _, -, ⟨_, _, -, ⟨_, _, -, ⟨_, _, -, ⟨c, _, colon, rfl, rfl⟩, rfl⟩, rfl⟩, rfl⟩, rfl⟩ :=
    alike
  have same : c = ':' := (Text.sameLetter_iff_eq ⟨by decide, by decide⟩).mp colon
  simp [same]

/-- A marker that starts in front of a line feed ends in front of it. -/
theorem afterMarker?_append_newline {after : List Char}
    (found : afterMarker? (cs ++ '\n' :: rest) = some after) :
    ∃ left, afterMarker? cs = some left ∧ after = left ++ '\n' :: rest := by
  obtain ⟨marker, valid, whole⟩ := afterMarker?_eq_some_iff.mp found
  obtain ⟨left, rfl⟩ : marker <+: cs :=
    Text.prefix_of_prefix_append_cons valid.newline_not_mem ⟨after, whole.symm⟩
  rw [List.append_assoc] at whole
  exact ⟨left, afterMarker?_eq_some_iff.mpr ⟨marker, valid, rfl⟩,
    (List.append_cancel_left whole).symm⟩

/-! ## Markers with names -/

/-- A dot with something on both sides is inside. -/
theorem hasInnerDot_of_split {before after : List Char} (hb : before ≠ []) (ha : after ≠ []) :
    hasInnerDot (before ++ '.' :: after) = true := by
  obtain ⟨b, bs, rfl⟩ := List.exists_cons_of_ne_nil hb
  have last : ('.' :: after).dropLast = '.' :: after.dropLast := List.dropLast_cons_of_ne_nil ha
  simp [hasInnerDot, last]

/-- So is no other one. -/
theorem hasInnerDot_iff : hasInnerDot run = true ↔
    ∃ before after, before ≠ [] ∧ after ≠ [] ∧ run = before ++ '.' :: after := by
  constructor
  · intro dotted
    cases run with
    | nil => cases dotted
    | cons c run =>
      have mem : '.' ∈ run.dropLast := by simpa [hasInnerDot] using dotted
      obtain ⟨before, after, split⟩ := List.append_of_mem mem
      have some_run : run ≠ [] := by
        rintro rfl
        cases mem
      refine ⟨c :: before, after ++ [run.getLast some_run], by simp, by simp, ?_⟩
      have whole := List.dropLast_append_getLast some_run
      rw [split] at whole
      simpa using congrArg (c :: ·) whole.symm
  · rintro ⟨before, after, hb, ha, rfl⟩
    exact hasInnerDot_of_split hb ha

/-- A name with a dot inside has a dot. -/
theorem dot_mem_of_hasInnerDot (dotted : hasInnerDot run = true) : '.' ∈ run := by
  obtain ⟨before, after, -, -, rfl⟩ := hasInnerDot_iff.mp dotted
  exact List.mem_append_right before List.mem_cons_self

/-- A dot inside a part of a run is inside the run. -/
theorem hasInnerDot_mono {part : List Char} (h : part <:+: run)
    (dotted : hasInnerDot part = true) : hasInnerDot run = true := by
  obtain ⟨before, after, hb, ha, rfl⟩ := hasInnerDot_iff.mp dotted
  obtain ⟨front, back, rfl⟩ := h
  have split : front ++ (before ++ '.' :: after) ++ back =
      (front ++ before) ++ '.' :: (after ++ back) := by
    simp
  rw [split]
  exact hasInnerDot_of_split (by simp [hb]) (by simp [ha])

/-- A marker counts with the run of name characters behind the blanks that follow it, up to the next
character that is not blank. -/
theorem markerAt?_eq_some {m : Marker} (found : markerAt? cs = some m) :
    ∃ marker gap behind rest, IsMarker marker ∧ (∀ c ∈ gap, isBlank c = true) ∧
      (∀ c ∈ m.name, isNameChar c = true) ∧ hasInnerDot m.name = true ∧
      cs = marker ++ (gap ++ (m.name ++ (behind ++ rest))) ∧
      m.size = (marker ++ (gap ++ (m.name ++ behind))).length ∧
      ∀ c ∈ rest.head?, isBlank c = false := by
  rw [markerAt?] at found
  obtain ⟨after, marked, found⟩ := Option.bind_eq_some_iff.mp found
  obtain ⟨marker, valid, rfl⟩ := afterMarker?_eq_some_iff.mp marked
  dsimp only at found
  split at found
  case isFalse => cases found
  case isTrue dotted =>
  obtain rfl := Option.some.inj found
  -- the blanks behind the marker, the name, and what is left behind it
  obtain ⟨gap, blank, after_eq⟩ :
      ∃ gap, (∀ c ∈ gap, isBlank c = true) ∧ gap ++ trimStart after = after :=
    ⟨_, fun _ => List.mem_takeWhile_imp, List.takeWhile_append_dropWhile⟩
  generalize trimStart after = named at *
  have plain : ∀ c ∈ named.takeWhile isNameChar, isNameChar c = true :=
    fun _ => List.mem_takeWhile_imp
  obtain ⟨tail, named_eq⟩ : ∃ tail, named.takeWhile isNameChar ++ tail = named :=
    ⟨_, List.takeWhile_append_dropWhile⟩
  generalize named.takeWhile isNameChar = name at *
  subst after_eq named_eq
  obtain ⟨behind, behind_eq⟩ := Text.isSuffix_trimStart tail
  refine ⟨marker, gap, behind, trimStart tail, valid, blank, plain, dotted, ?_, ?_,
    fun _ => Text.isBlank_of_mem_head?_trimStart⟩
  · rw [behind_eq]
  · have split_length := congrArg List.length behind_eq
    simp only [List.drop_left, List.length_append] at split_length ⊢
    omega

/-- A name has no blanks. -/
theorem isNameChar_of_isBlank {c : Char} (blank : isBlank c = true) : isNameChar c = false := by
  simp [isNameChar, blank]

/-- A marker with blanks and a name behind it counts, up to the blanks behind the name. -/
theorem markerAt?_append {behind : List Char} (valid : IsMarker marker)
    (blank : ∀ c ∈ gap, isBlank c = true) (plain : ∀ c ∈ name, isNameChar c = true)
    (dotted : hasInnerDot name = true) (blank' : ∀ c ∈ behind, isBlank c = true)
    (apart : behind ≠ []) (full : ∀ c ∈ rest.head?, isBlank c = false) :
    markerAt? (marker ++ (gap ++ (name ++ (behind ++ rest)))) =
      some ⟨name, (marker ++ (gap ++ (name ++ behind))).length⟩ := by
  have marked : afterMarker? (marker ++ (gap ++ (name ++ (behind ++ rest)))) =
      some (gap ++ (name ++ (behind ++ rest))) := afterMarker?_eq_some_iff.mpr ⟨marker, valid, rfl⟩
  have named : trimStart (gap ++ (name ++ (behind ++ rest))) = name ++ (behind ++ rest) := by
    refine Text.trimStart_append blank fun c first => ?_
    cases name with
    | nil => cases dotted
    | cons d name =>
      obtain rfl : d = c := Option.some.inj first
      by_contra blank
      rw [Bool.not_eq_false] at blank
      have := plain d List.mem_cons_self
      rw [isNameChar_of_isBlank blank] at this
      cases this
  have taken : (name ++ (behind ++ rest)).takeWhile isNameChar = name := by
    obtain ⟨b, bs, rfl⟩ := List.exists_cons_of_ne_nil apart
    have stops : isNameChar b = false := isNameChar_of_isBlank (blank' b List.mem_cons_self)
    rw [List.cons_append, Text.takeWhile_append_cons stops]
    exact List.takeWhile_eq_self_iff.mpr plain
  have left : trimStart (behind ++ rest) = rest := Text.trimStart_append blank' full
  unfold markerAt?
  simp only [marked, Option.bind_eq_bind, Option.bind_some, named, taken, dotted, if_true,
    List.drop_left, left]
  simp [← Nat.add_assoc]

/-- A text without a colon in front of its first line feed starts with no marker. -/
theorem markerAt?_eq_none {line : List Char} (absent : ':' ∉ line) :
    markerAt? line = none ∧ ∀ rest, markerAt? (line ++ '\n' :: rest) = none := by
  have quiet : afterMarker? line = none := by
    rw [Option.eq_none_iff_forall_ne_some]
    intro rest found
    obtain ⟨marker, valid, rfl⟩ := afterMarker?_eq_some_iff.mp found
    exact absent (List.mem_append_left _ valid.colon_mem)
  refine ⟨by rw [markerAt?, quiet]; rfl, fun rest => ?_⟩
  have quiet' : afterMarker? (line ++ '\n' :: rest) = none := by
    rw [Option.eq_none_iff_forall_ne_some]
    intro after found
    obtain ⟨left, found, -⟩ := afterMarker?_append_newline found
    rw [quiet] at found
    cases found
  rw [markerAt?, quiet']
  rfl

/-- In front of a line feed, a marker with a name has its name in front of it, too, or has it from
what follows. -/
theorem markerAt?_append_newline (found : (markerAt? (cs ++ '\n' :: rest)).isSome) :
    (markerAt? cs).isSome ∨ hasInnerDot ((trimStart rest).takeWhile isNameChar) = true := by
  obtain ⟨m, found⟩ := Option.isSome_iff_exists.mp found
  rw [markerAt?] at found
  obtain ⟨after, marked, found⟩ := Option.bind_eq_some_iff.mp found
  obtain ⟨left, marked', rfl⟩ := afterMarker?_append_newline marked
  dsimp only at found
  split at found
  case isFalse => cases found
  case isTrue dotted =>
  have newline : isBlank '\n' = true := by decide
  by_cases blank : ∀ c ∈ left, isBlank c = true
  · -- nothing but blanks in front of the line feed
    right
    rw [trimStart, List.dropWhile_append_of_pos blank, List.dropWhile_cons_of_pos newline] at dotted
    exact dotted
  · left
    have some_left : left.dropWhile isBlank ≠ [] :=
      fun none_left => blank (List.dropWhile_eq_nil_iff.mp none_left)
    have named : (trimStart (left ++ '\n' :: rest)).takeWhile isNameChar =
        (trimStart left).takeWhile isNameChar := by
      rw [trimStart, List.dropWhile_append, if_neg (by simpa using some_left)]
      exact Text.takeWhile_append_cons (isNameChar_of_isBlank newline) _ _
    rw [named] at dotted
    rw [markerAt?, marked']
    simp [dotted]

/-! ## Blocks -/

/-- What is to be skipped is in no block. -/
theorem splitBlocks_drop (skipped rest : List Char) :
    splitBlocks skipped.length (skipped ++ rest) = splitBlocks 0 rest := by
  induction skipped with
  | nil => rfl
  | cons c skipped ih => exact ih

/-- Text without markers goes to the block that is open. -/
theorem splitBlocks_append {text rest : List Char}
    (quiet : ∀ before c after, text = before ++ c :: after →
      markerAt? (c :: after ++ rest) = none) :
    splitBlocks 0 (text ++ rest) =
      (text ++ (splitBlocks 0 rest).1, (splitBlocks 0 rest).2) := by
  induction text with
  | nil => rfl
  | cons c text ih =>
    have here : markerAt? (c :: (text ++ rest)) = none := quiet [] c text rfl
    have later := ih fun before d after split => quiet (c :: before) d after (by rw [split]; rfl)
    rw [List.cons_append, splitBlocks, here]
    simp [later]

/-- Text without markers has no blocks. -/
theorem splitBlocks_of_quiet {text : List Char}
    (quiet : ∀ before after, text = before ++ after → markerAt? after = none) :
    splitBlocks 0 text = (text, []) := by
  have whole : splitBlocks 0 (text ++ []) =
      (text ++ (splitBlocks 0 []).1, (splitBlocks 0 []).2) := by
    refine splitBlocks_append fun before c after split => ?_
    rw [List.append_nil]
    exact quiet before (c :: after) split
  simpa [splitBlocks] using whole

/-- A marker with a name opens a block behind the blanks that follow it. -/
theorem splitBlocks_markerAt? {line rest : List Char} (nonempty : line ≠ [])
    (found : markerAt? (line ++ rest) = some ⟨name, line.length⟩) :
    splitBlocks 0 (line ++ rest) =
      ([], ⟨name, (splitBlocks 0 rest).1⟩ :: (splitBlocks 0 rest).2) := by
  obtain ⟨c, line, rfl⟩ := List.exists_cons_of_ne_nil nonempty
  rw [List.cons_append] at found ⊢
  rw [splitBlocks, found]
  have skip : (c :: line).length - 1 = line.length := rfl
  simp only [skip, splitBlocks_drop]

/-- The piece is a marker with the name of a block, and its text behind it. -/
def HoldsBlock (piece : List Char) (block : Block) : Prop :=
  ∃ marker gap behind, IsMarker marker ∧ (∀ c ∈ gap, isBlank c = true) ∧
    (∀ c ∈ block.name, isNameChar c = true) ∧ hasInnerDot block.name = true ∧
    piece = marker ++ (gap ++ (block.name ++ (behind ++ block.text)))

/-- What is skipped behind the first character of a marker is the marker with its name, and the
blanks behind the name. -/
theorem exists_of_markerAt?_cons {c : Char} {m : Marker} (found : markerAt? (c :: cs) = some m) :
    ∃ marker gap behind, IsMarker marker ∧ (∀ c ∈ gap, isBlank c = true) ∧
      (∀ c ∈ m.name, isNameChar c = true) ∧ hasInnerDot m.name = true ∧
      c :: cs = marker ++ (gap ++ (m.name ++ (behind ++ cs.drop (m.size - 1)))) ∧
      ∀ d ∈ (cs.drop (m.size - 1)).head?, isBlank d = false := by
  obtain ⟨marker, gap, behind, left, valid, blank, plain, dotted, whole, size, full⟩ :=
    markerAt?_eq_some found
  obtain ⟨n, size_eq⟩ : ∃ n, m.size = n + 1 := by
    refine Nat.exists_eq_succ_of_ne_zero fun zero => valid.ne_nil ?_
    rw [zero, List.length_append] at size
    exact List.length_eq_zero_iff.mp (by omega)
  have skipped : cs.drop (m.size - 1) = left := by
    rw [size_eq, Nat.add_sub_cancel, ← List.drop_succ_cons (a := c), whole, ← size_eq, size]
    simp [← List.append_assoc]
  rw [skipped]
  exact ⟨marker, gap, behind, valid, blank, plain, dotted, whole, full⟩

/-- Behind the text that belongs to the block before, all blocks follow one behind the other. -/
theorem splitBlocks_inOrder (skip : Nat) (cs : List Char) :
    ∃ rest, cs.drop skip = (splitBlocks skip cs).1 ++ rest ∧
      InOrder HoldsBlock rest (splitBlocks skip cs).2 := by
  induction skip, cs using splitBlocks.induct with
  | case1 skip => exact ⟨[], by simp [splitBlocks], .nil []⟩
  | case2 skip c cs ih =>
    rw [splitBlocks]
    exact ih
  | case3 c cs m found text blocks same ih =>
    obtain ⟨rest, drop_eq, later⟩ := ih
    rw [same] at drop_eq later
    obtain ⟨marker, gap, behind, valid, blank, plain, dotted, whole, -⟩ :=
      exists_of_markerAt?_cons found
    have opens : splitBlocks 0 (c :: cs) = ([], ⟨m.name, text⟩ :: blocks) := by
      rw [splitBlocks, found]
      simp only [same]
    have held : HoldsBlock (marker ++ (gap ++ (m.name ++ (behind ++ text)))) ⟨m.name, text⟩ :=
      ⟨marker, gap, behind, valid, blank, plain, dotted, rfl⟩
    rw [opens]
    refine ⟨c :: cs, rfl, ?_⟩
    rw [whole, drop_eq]
    simpa using InOrder.cons [] held later
  | case4 c cs quiet text blocks same ih =>
    obtain ⟨rest, drop_eq, later⟩ := ih
    rw [same] at drop_eq later
    have goesOn : splitBlocks 0 (c :: cs) = (c :: text, blocks) := by
      rw [splitBlocks, quiet]
      simp only [same]
    rw [goesOn]
    exact ⟨rest, congrArg (c :: ·) drop_eq, later⟩

/-- **The blocks of a text** follow one behind the other, each behind a marker with its name. -/
theorem blocks_inOrder (cs : List Char) : InOrder HoldsBlock cs (blocks cs) := by
  obtain ⟨rest, whole, later⟩ := splitBlocks_inOrder 0 cs
  have front := later.prepend (splitBlocks 0 cs).1
  rwa [← whole] at front

/-- The text of a block does not start with a blank character. -/
theorem isBlank_of_mem_head?_text (skip : Nat) (cs : List Char) {block : Block}
    (mem : block ∈ (splitBlocks skip cs).2) : ∀ c ∈ block.text.head?, isBlank c = false := by
  induction skip, cs using splitBlocks.induct with
  | case1 skip => simp [splitBlocks] at mem
  | case2 skip c cs ih =>
    rw [splitBlocks] at mem
    exact ih mem
  | case3 c cs m found text blocks same ih =>
    rw [splitBlocks, found] at mem
    simp only [same] at mem ih
    rcases List.mem_cons.mp mem with rfl | later
    · -- the text starts where the blanks behind the name end
      obtain ⟨-, -, -, -, -, -, -, -, full⟩ := exists_of_markerAt?_cons found
      obtain ⟨rest, drop_eq, -⟩ := splitBlocks_inOrder (m.size - 1) cs
      rw [same] at drop_eq
      intro d first
      refine full d ?_
      rw [drop_eq, List.head?_append, Option.mem_def.mp first, Option.some_or]
      rfl
    · exact ih later
  | case4 c cs quiet text blocks same ih =>
    rw [splitBlocks, quiet] at mem
    simp only [same] at mem ih
    exact ih mem

/-! ## Fenced blocks -/

variable {isTag : Char → Bool} {f : Fence} {tag body : List Char}

/-- The piece is a fenced block. -/
def HoldsFence (isTag : Char → Bool) (piece : List Char) (f : Fence) : Prop :=
  (∀ c ∈ f.tag, isTag c = true) ∧ piece = fence ++ (f.tag ++ '\n' :: (f.body ++ fence))

/-- Where a fence is found, the text starts with all of it. -/
theorem fenceAt?_eq_some (found : fenceAt? isTag cs = some f) :
    ∃ piece rest, HoldsFence isTag piece f ∧ cs = piece ++ rest ∧ f.size = piece.length := by
  rw [fenceAt?] at found
  obtain ⟨inner, opened, found⟩ := Option.bind_eq_some_iff.mp found
  obtain rfl := Text.afterPrefix?_eq_some_iff.mp opened
  have tagged : ∀ c ∈ inner.takeWhile isTag, isTag c = true := fun _ => List.mem_takeWhile_imp
  obtain ⟨tail, inner_eq⟩ : ∃ tail, inner.takeWhile isTag ++ tail = inner :=
    ⟨_, List.takeWhile_append_dropWhile⟩
  generalize inner.takeWhile isTag = tag at *
  subst inner_eq
  simp only [List.drop_left] at found
  split at found
  · obtain ⟨⟨body, rest⟩, cut, found⟩ := Option.bind_eq_some_iff.mp found
    obtain rfl := Option.some.inj found
    rw [Text.eq_append_of_cutAt? cut]
    refine ⟨_, rest, ⟨tagged, rfl⟩, by simp, ?_⟩
    simp [fence]
    omega
  · cases found

/-- No fence is found where the text does not start with one. -/
theorem fenceAt?_eq_none (absent : ¬ fence <+: cs) : fenceAt? isTag cs = none := by
  rw [fenceAt?, Text.afterPrefix?_eq_none_iff.mpr absent]
  rfl

/-- A fenced block whose body ends with a line feed, in front of anything. -/
theorem fenceAt?_append (tagged : ∀ c ∈ tag, isTag c = true) (newline : isTag '\n' = false)
    (unfenced : ¬ fence <:+: body) (rest : List Char) :
    fenceAt? isTag (fence ++ (tag ++ '\n' :: (body ++ '\n' :: (fence ++ rest)))) =
      some ⟨tag, body ++ ['\n'], tag.length + (body ++ ['\n']).length + 7⟩ := by
  have taken : (tag ++ '\n' :: (body ++ '\n' :: (fence ++ rest))).takeWhile isTag = tag := by
    rw [Text.takeWhile_append_cons newline]
    exact List.takeWhile_eq_self_iff.mpr tagged
  have cut : Text.cutAt? fence (body ++ '\n' :: (fence ++ rest)) = some (body ++ ['\n'], rest) :=
    Text.cutAt?_append_cons (by decide) (by decide) unfenced
  unfold fenceAt?
  rw [Text.afterPrefix?_append]
  simp [taken, cut]

/-- Behind the block before, all fenced blocks follow one behind the other. -/
theorem fencesFrom_inOrder (isTag : Char → Bool) (skip : Nat) (cs : List Char) :
    InOrder (HoldsFence isTag) (cs.drop skip) (fencesFrom isTag skip cs) := by
  induction skip, cs using fencesFrom.induct isTag with
  | case1 skip => exact .nil _
  | case2 skip c cs ih =>
    rw [fencesFrom]
    exact ih
  | case3 c cs f found ih =>
    obtain ⟨piece, rest, held, whole, size⟩ := fenceAt?_eq_some found
    have skipped : cs.drop (f.size - 1) = rest := by
      have positive : 0 < f.size := by simp [size, held.2, fence]
      obtain ⟨n, size_eq⟩ := Nat.exists_eq_succ_of_ne_zero positive.ne'
      rw [size_eq, Nat.succ_sub_one, ← List.drop_succ_cons (a := c), whole, ← Nat.succ_eq_add_one,
        ← size_eq, size, List.drop_left]
    rw [fencesFrom, found, List.drop_zero, whole]
    rw [skipped] at ih
    exact .cons [] held ih
  | case4 c cs none_here ih =>
    rw [fencesFrom, none_here]
    exact ih.prepend [c]

/-- **The fenced blocks of a text** follow one behind the other. -/
theorem fences_inOrder (isTag : Char → Bool) (cs : List Char) :
    InOrder (HoldsFence isTag) cs (fences isTag cs) :=
  fencesFrom_inOrder isTag 0 cs

/-- What is to be skipped has no fences. -/
theorem fencesFrom_drop (isTag : Char → Bool) (skipped rest : List Char) :
    fencesFrom isTag skipped.length (skipped ++ rest) = fencesFrom isTag 0 rest := by
  induction skipped with
  | nil => rfl
  | cons c skipped ih => exact ih

/-- Behind a fenced block, the search for others goes on. -/
theorem fences_append {piece : List Char} (nonempty : piece ≠ [])
    (found : fenceAt? isTag (piece ++ rest) = some f) (size : f.size = piece.length) :
    fences isTag (piece ++ rest) = f :: fences isTag rest := by
  obtain ⟨c, piece, rfl⟩ := List.exists_cons_of_ne_nil nonempty
  rw [List.cons_append] at found ⊢
  have skip : f.size - 1 = piece.length := by rw [size, List.length_cons, Nat.add_sub_cancel]
  rw [fences, fencesFrom, found]
  dsimp only
  rw [skip, fencesFrom_drop, fences]

/-- Text in which no fenced block starts is passed over. -/
theorem fences_append_of_none {text : List Char}
    (quiet : ∀ before c after, text = before ++ c :: after →
      fenceAt? isTag (c :: after ++ rest) = none) :
    fences isTag (text ++ rest) = fences isTag rest := by
  induction text with
  | nil => rfl
  | cons c text ih =>
    have here : fenceAt? isTag (c :: (text ++ rest)) = none := quiet [] c text rfl
    have later := ih fun before d after split => quiet (c :: before) d after (by rw [split]; rfl)
    rw [List.cons_append, fences, fencesFrom, here]
    exact later

/-- A line without fences is passed over. -/
theorem fences_append_newline {line : List Char} (unfenced : ¬ fence <:+: line)
    (rest : List Char) : fences isTag (line ++ '\n' :: rest) = fences isTag rest := by
  have joined : line ++ '\n' :: rest = line ++ ['\n'] ++ rest := by simp
  rw [joined]
  refine fences_append_of_none fun before c after split => fenceAt?_eq_none fun opened => ?_
  have within : c :: after <:+ line ++ '\n' :: [] := ⟨before, split.symm⟩
  rcases Text.suffix_append_cons within with ⟨mid, front, whole⟩ | nothing
  · rw [whole, List.append_assoc, List.cons_append] at opened
    have inside : fence <+: mid := Text.prefix_of_prefix_append_cons (by decide) opened
    exact unfenced (inside.isInfix.trans front.isInfix)
  · cases List.suffix_nil.mp nothing

/-- The body of a fenced block holds no fence. -/
theorem unfenced_of_fenceAt? (found : fenceAt? isTag cs = some f) : ¬ fence <:+: f.body := by
  rw [fenceAt?] at found
  obtain ⟨inner, -, found⟩ := Option.bind_eq_some_iff.mp found
  dsimp only at found
  split at found
  · obtain ⟨⟨body, rest⟩, cut, found⟩ := Option.bind_eq_some_iff.mp found
    obtain rfl := Option.some.inj found
    exact Text.not_isInfix_of_cutAt? (by decide) cut
  · cases found

/-- The first fenced block is one that is found somewhere. -/
theorem exists_of_firstFence? (found : firstFence? isTag cs = some f) :
    ∃ before rest, cs = before ++ rest ∧ fenceAt? isTag rest = some f := by
  induction cs with
  | nil => cases found
  | cons c cs ih =>
    rw [firstFence?, Option.or_eq_some_iff] at found
    rcases found with here | ⟨-, later⟩
    · exact ⟨[], c :: cs, rfl, here⟩
    · obtain ⟨before, rest, rfl, there⟩ := ih later
      exact ⟨c :: before, rest, rfl, there⟩

/-- The first fence is a piece of the text. -/
theorem firstFence?_eq_some (found : firstFence? isTag cs = some f) :
    ∃ before piece after, HoldsFence isTag piece f ∧ cs = before ++ (piece ++ after) := by
  obtain ⟨before, rest, rfl, there⟩ := exists_of_firstFence? found
  obtain ⟨piece, after, held, rfl, -⟩ := fenceAt?_eq_some there
  exact ⟨before, piece, after, held, rfl⟩

/-- There is no fenced block in a text whose only fence is at its end. -/
theorem firstFence?_append_fence {inner : List Char} (unfenced : ¬ fence <:+: inner) :
    firstFence? isTag (inner ++ fence) = none := by
  rw [Option.eq_none_iff_forall_ne_some]
  intro f found
  obtain ⟨before, piece, after, ⟨-, rfl⟩, whole⟩ := firstFence?_eq_some found
  have front : before ++ fence <+: inner ++ fence :=
    ⟨f.tag ++ '\n' :: (f.body ++ fence) ++ after, by rw [whole]; simp⟩
  -- it would end in front of the fence that closes it
  have shorter : (before ++ fence).length ≤ inner.length := by
    have length_eq := congrArg List.length whole
    simp only [List.length_append, List.length_cons] at length_eq ⊢
    omega
  have opening : before ++ fence <+: inner :=
    List.prefix_of_prefix_length_le front (List.prefix_append inner fence) shorter
  exact unfenced ((List.suffix_append before fence).isInfix.trans opening.isInfix)

/-! ## Contents -/

/-- The content of a block that starts with a fenced block is the body of that. -/
theorem content_of_fenceAt? (found : fenceAt? isWord cs = some f) : content cs = trim f.body := by
  have first : firstFence? isWord cs = some f := by
    cases cs with
    | nil => cases found
    | cons c cs => rw [firstFence?, found, Option.some_or]
  rw [content, first]

/-- A closing fence is taken away. -/
theorem withoutClosing_append (cs : List Char) : withoutClosing (cs ++ fence) = cs := by
  have closed : (cs ++ fence).reverse = fence ++ cs.reverse := List.reverse_append
  rw [withoutClosing, closed, Text.afterPrefix?_append]
  exact List.reverse_reverse cs

/-- Taking an opening fence away leaves an end of the text. -/
theorem isSuffix_withoutOpening (cs : List Char) : withoutOpening cs <:+ cs := by
  rw [withoutOpening]
  split
  · exact List.suffix_rfl
  · next rest opened =>
    obtain rfl := Text.afterPrefix?_eq_some_iff.mp opened
    have left := (List.dropWhile_suffix isWord (l := rest)).trans (List.suffix_append fence rest)
    split
    · next inner dropped =>
      rw [dropped] at left
      exact (List.suffix_cons '\n' inner).trans left
    · exact left

/-- Taking a closing fence away leaves a beginning of the text. -/
theorem isPrefix_withoutClosing (cs : List Char) : withoutClosing cs <+: cs := by
  rw [withoutClosing]
  split
  · next rest closed =>
    have back := Text.afterPrefix?_eq_some_iff.mp closed
    rw [← List.reverse_suffix, List.reverse_reverse, back]
    exact List.suffix_append fence rest
  · exact List.prefix_rfl

/-- The content of a block is a part of it. -/
theorem isInfix_content (block : List Char) : content block <:+: block := by
  unfold content
  split
  · next f found =>
    obtain ⟨before, piece, after, ⟨-, rfl⟩, rfl⟩ := firstFence?_eq_some found
    have inside : f.body <:+: before ++ (fence ++ (f.tag ++ '\n' :: (f.body ++ fence)) ++ after) :=
      ⟨before ++ (fence ++ (f.tag ++ ['\n'])), fence ++ after, by simp⟩
    exact (Text.isInfix_trim f.body).trans inside
  · calc trim (withoutClosing (withoutOpening block))
        <:+: withoutClosing (withoutOpening block) := Text.isInfix_trim _
      _ <:+: withoutOpening block := (isPrefix_withoutClosing _).isInfix
      _ <:+: block := (isSuffix_withoutOpening block).isInfix

/-- The content of a block has no blanks around it. -/
theorem trim_content (block : List Char) : trim (content block) = content block := by
  unfold content
  split <;> exact Text.trim_trim _

end Workbench.Patch
