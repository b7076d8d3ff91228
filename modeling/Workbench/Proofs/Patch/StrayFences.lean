import Workbench.Proofs.Patch.Extracts

/-!
# Fences that are left in contents

The content of a block is the body of its first fenced block, which holds no fence. A block without
a fenced block is freed of one fence at each end before it is trimmed. Blanks that stand behind a
closing fence keep it from being seen, and of two fences with nothing but blanks between them one is
left. `parse_keeps_fence_iff` says that there is no other way for a content to end in a line that is
a closing fence, or to start with one that is an opening fence, whatever counts as the end of a
line.
-/

namespace Workbench.Patch

open Text (isBlank isWord trim trimStart trimEnd)
open Project (File)

variable {isBreak : Char → Bool} {block cs rest tag gap front tail mid : List Char}

/-! ## Lines and blocks -/

/-- The last line of a text is a bare fence. -/
def EndsInFence (isBreak : Char → Bool) (cs : List Char) : Prop :=
  cs = fence ∨ ∃ front c, isBreak c = true ∧ cs = front ++ c :: fence

/-- The first line of a text is a fence with nothing but word characters behind it. -/
def StartsWithFence (isBreak : Char → Bool) (cs : List Char) : Prop :=
  ∃ tag, (∀ c ∈ tag, isWord c = true) ∧
    (cs = fence ++ tag ∨ ∃ c rest, isBreak c = true ∧ cs = fence ++ (tag ++ c :: rest))

/-- There is a fenced block in the text. -/
def HasFenced (cs : List Char) : Prop :=
  ∃ before tag body after, (∀ c ∈ tag, isWord c = true) ∧
    cs = before ++ (fence ++ (tag ++ '\n' :: (body ++ (fence ++ after))))

/-- What stands in front of a line, once the opening fence is taken away. -/
inductive LineStart (isBreak : Char → Bool) (front : List Char) : Prop where
  /-- The line before ends. -/
  | lineBreak (before : List Char) (c : Char) (h : isBreak c = true)
      (whole : front = before ++ [c])
  /-- There is nothing but an opening fence and blanks. -/
  | opening (tag gap : List Char) (tagged : ∀ c ∈ tag, isWord c = true)
      (blank : ∀ c ∈ gap, isBlank c = true) (whole : front = fence ++ (tag ++ gap))

/-- A bare fence at the end of a block is left there. -/
inductive KeepsClosing (isBreak : Char → Bool) (block : List Char) : Prop where
  /-- Blanks stand behind the fence. -/
  | covered (front gap : List Char) (start : LineStart isBreak front)
      (blank : ∀ c ∈ gap, isBlank c = true) (some : gap ≠ [])
      (whole : block = front ++ (fence ++ gap))
  /-- Another fence stands behind it. -/
  | doubled (front gap : List Char) (start : LineStart isBreak front)
      (blank : ∀ c ∈ gap, isBlank c = true) (whole : block = front ++ (fence ++ (gap ++ fence)))

/-- A second opening fence is left in a block, because only the first one is taken away. -/
inductive KeepsOpening (isBreak : Char → Bool) (block : List Char) : Prop where
  /-- Its line ends. -/
  | line (tag gap tag' : List Char) (c : Char) (rest : List Char)
      (tagged : ∀ c ∈ tag, isWord c = true) (blank : ∀ c ∈ gap, isBlank c = true)
      (tagged' : ∀ c ∈ tag', isWord c = true) (h : isBreak c = true)
      (whole : block = fence ++ (tag ++ (gap ++ (fence ++ (tag' ++ c :: rest)))))
  /-- Nothing but blanks stand behind it, and it is no closing fence itself. -/
  | last (tag gap tag' gap' : List Char)
      (tagged : ∀ c ∈ tag, isWord c = true) (blank : ∀ c ∈ gap, isBlank c = true)
      (tagged' : ∀ c ∈ tag', isWord c = true) (blank' : ∀ c ∈ gap', isBlank c = true)
      (some : tag' ++ gap' ≠ [])
      (whole : block = fence ++ (tag ++ (gap ++ (fence ++ (tag' ++ gap')))))
  /-- Nothing but blanks and a closing fence stand behind it. -/
  | closed (tag gap tag' gap' : List Char)
      (tagged : ∀ c ∈ tag, isWord c = true) (blank : ∀ c ∈ gap, isBlank c = true)
      (tagged' : ∀ c ∈ tag', isWord c = true) (blank' : ∀ c ∈ gap', isBlank c = true)
      (whole : block = fence ++ (tag ++ (gap ++ (fence ++ (tag' ++ (gap' ++ fence))))))

/-- Such a text ends with the fence itself. -/
theorem EndsInFence.isSuffix (h : EndsInFence isBreak cs) : fence <:+ cs := by
  rcases h with rfl | ⟨front, c, -, rfl⟩
  · exact List.suffix_rfl
  · exact ⟨front ++ [c], by simp⟩

/-- Such a text has a fence in it. -/
theorem StartsWithFence.isInfix (h : StartsWithFence isBreak cs) : fence <:+: cs := by
  obtain ⟨tag, -, rfl | ⟨c, rest, -, rfl⟩⟩ := h
  · exact (List.prefix_append fence tag).isInfix
  · exact (List.prefix_append fence _).isInfix

/-! ## Characters -/

theorem isWord_of_isBlank {c : Char} (blank : isBlank c = true) : isWord c = false := by
  have none_word : ∀ n ∈ List.range' 9 5 ++ List.range' 0x1C 5 ++ [0x85, 0xA0, 0x1680] ++
      List.range' 0x2000 11 ++ [0x2028, 0x2029, 0x202F, 0x205F, 0x3000],
      isWord (Char.ofNat n) = false := by
    decide +kernel
  rw [← Char.ofNat_toNat c]
  apply none_word
  simp only [isBlank, Bool.or_eq_true, Bool.and_eq_true, decide_eq_true_eq, beq_iff_eq] at blank
  simp only [List.mem_append, List.mem_range'_1, List.mem_cons, List.not_mem_nil, or_false]
  omega

/-- A fence is not blank. -/
theorem isBlank_of_mem_fence {c : Char} (mem : c ∈ fence) : isBlank c = false := by
  obtain rfl := List.eq_of_mem_replicate mem
  decide

/-- Blanks are no part of a fence. -/
theorem not_mem_fence_of_isBlank {c : Char} (blank : isBlank c = true) : c ∉ fence := by
  intro mem
  rw [isBlank_of_mem_fence mem] at blank
  cases blank

/-- Nor are letters of a tag. -/
theorem not_mem_fence_of_isWord {c : Char} (word : isWord c = true) : c ∉ fence := by
  intro mem
  obtain rfl := List.eq_of_mem_replicate mem
  exact absurd word (by decide)

theorem isBlank_of_mem_head? {c : Char} (first : c ∈ (fence ++ rest).head?) :
    isBlank c = false := by
  rw [List.head?_append_of_ne_nil fence (by decide)] at first
  exact isBlank_of_mem_fence (List.mem_of_head? first)

/-- Neither a fence nor a tag behind it ends in a blank character. -/
theorem isBlank_of_mem_getLast? (tagged : ∀ c ∈ tag, isWord c = true) {c : Char}
    (last : c ∈ (fence ++ tag).getLast?) : isBlank c = false := by
  rcases List.mem_append.mp (List.mem_of_getLast? last) with fenced | tagging
  · exact isBlank_of_mem_fence fenced
  · by_contra blank
    have plain := isWord_of_isBlank (Bool.not_eq_false _ ▸ blank)
    rw [tagged c tagging] at plain
    cases plain

/-! ## Finding a fenced block -/

/-- A fence is found, whatever stands before it. -/
theorem firstFence?_isSome_append {isTag : Char → Bool} (found : (fenceAt? isTag rest).isSome)
    (before : List Char) : (firstFence? isTag (before ++ rest)).isSome := by
  induction before with
  | nil =>
    cases rest with
    | nil => cases found
    | cons c rest => rw [List.nil_append, firstFence?, Option.isSome_or, found, Bool.true_or]
  | cons c before ih => rw [List.cons_append, firstFence?, Option.isSome_or, ih, Bool.or_true]

/-- No fence is found if nothing is fenced. -/
theorem firstFence?_eq_none_iff : firstFence? isWord cs = none ↔ ¬ HasFenced cs := by
  rw [← Option.not_isSome_iff_eq_none, not_iff_not]
  constructor
  · intro found
    obtain ⟨f, found⟩ := Option.isSome_iff_exists.mp found
    obtain ⟨before, piece, after, ⟨tagged, rfl⟩, rfl⟩ := firstFence?_eq_some found
    exact ⟨before, f.tag, f.body, after, tagged, by simp⟩
  · rintro ⟨before, tag, body, after, tagged, rfl⟩
    refine firstFence?_isSome_append ?_ before
    have taken : (tag ++ '\n' :: (body ++ (fence ++ after))).takeWhile isWord = tag := by
      rw [Text.takeWhile_append_cons (by decide)]
      exact List.takeWhile_eq_self_iff.mpr tagged
    have closed : fence <:+: body ++ (fence ++ after) := ⟨body, after, by simp⟩
    obtain ⟨cut, found⟩ : ∃ cut, Text.cutAt? fence (body ++ (fence ++ after)) = some cut :=
      Option.ne_none_iff_exists'.mp fun missed =>
        (Text.cutAt?_eq_none_iff (by decide)).mp missed closed
    simp [fenceAt?, taken, found]

/-- The content of a block with a fenced block holds no fence. -/
theorem HasFenced.unfenced_content (h : HasFenced block) : ¬ fence <:+: content block := by
  obtain ⟨f, found⟩ : ∃ f, firstFence? isWord block = some f :=
    Option.ne_none_iff_exists'.mp fun missed => firstFence?_eq_none_iff.mp missed h
  obtain ⟨-, rest, -, there⟩ := exists_of_firstFence? found
  rw [content, found]
  exact fun inside => unfenced_of_fenceAt? there (inside.trans (Text.isInfix_trim f.body))

/-! ## Taking fences away -/

/-- Then a block is its text without the fences at its ends. -/
theorem content_eq (unfenced : ¬ HasFenced block) :
    content block = trim (withoutClosing (withoutOpening block)) := by
  rw [content, firstFence?_eq_none_iff.mpr unfenced]

/-- Nothing is taken away if there is no fence at the end. -/
theorem withoutClosing_of_not_isSuffix (bare : ¬ fence <:+ cs) : withoutClosing cs = cs := by
  have none_there : Text.afterPrefix? fence cs.reverse = none := by
    refine Text.afterPrefix?_eq_none_iff.mpr fun closed => bare ?_
    rwa [← List.reverse_prefix]
  rw [withoutClosing, none_there]

/-- A text that ends with something else ends with no fence. -/
theorem not_isSuffix_append {last : List Char} (absent : ∀ c ∈ last, c ∉ fence)
    (some : last ≠ []) : ¬ fence <:+ cs ++ last := by
  obtain ⟨inner, c, rfl⟩ := (List.eq_nil_or_concat' last).resolve_left some
  intro closed
  rw [← List.append_assoc] at closed
  rcases Text.suffix_append_cons closed with ⟨mid, -, whole⟩ | nothing
  · refine absent c (by simp) (whole ▸ ?_)
    exact List.mem_append_right mid List.mem_cons_self
  · exact absurd (List.suffix_nil.mp nothing) (by decide)

/-- A fence at the end is taken away once. -/
theorem withoutClosing_cases (cs : List Char) :
    cs = withoutClosing cs ++ fence ∨ withoutClosing cs = cs ∧ ¬ fence <:+ cs := by
  by_cases closed : fence <:+ cs
  · obtain ⟨front, rfl⟩ := closed
    rw [withoutClosing_append]
    exact .inl rfl
  · exact .inr ⟨withoutClosing_of_not_isSuffix closed, closed⟩

/-- A closing fence is looked for behind every character that is not in it. -/
theorem withoutClosing_append_cons {c : Char} (absent : c ∉ fence) (front rest : List Char) :
    withoutClosing (front ++ c :: rest) = front ++ c :: withoutClosing rest := by
  rcases withoutClosing_cases rest with closed | ⟨same, not_closed⟩
  · have joined : front ++ c :: rest = front ++ c :: withoutClosing rest ++ fence := by
      conv_lhs => rw [closed]
      simp
    rw [joined, withoutClosing_append]
  · rw [same]
    refine withoutClosing_of_not_isSuffix fun closed => ?_
    rcases Text.suffix_append_cons closed with ⟨before, -, whole⟩ | inside
    · exact absent (whole ▸ List.mem_append_right before List.mem_cons_self)
    · exact not_closed inside

/-- Nothing is taken away if there is no fence in front. -/
theorem withoutOpening_of_not_isPrefix (bare : ¬ fence <+: cs) : withoutOpening cs = cs := by
  rw [withoutOpening, Text.afterPrefix?_eq_none_iff.mpr bare]

/-- Behind a fence, a tag and more is left, unless a line feed comes first. -/
theorem withoutOpening_append (tagged : ∀ c ∈ tag, isWord c = true)
    (stops : ∀ c ∈ rest.head?, isWord c = false) (apart : rest.head? ≠ some '\n') :
    withoutOpening (fence ++ (tag ++ rest)) = rest := by
  have dropped : (tag ++ rest).dropWhile isWord = rest := by
    rw [List.dropWhile_append_of_pos tagged]
    cases rest with
    | nil => rfl
    | cons c rest => exact List.dropWhile_cons_of_neg (by simp [stops c rfl])
  rw [withoutOpening, Text.afterPrefix?_append]
  dsimp only
  rw [dropped]
  split
  · exact absurd rfl apart
  · rfl

/-- In a block without a fenced block, a fence comes behind an opening fence and a tag only if no
line feed stands there. -/
theorem withoutOpening_of_unfenced (tagged : ∀ c ∈ tag, isWord c = true)
    (stops : ∀ c ∈ rest.head?, isWord c = false) (inside : fence <:+: rest)
    (unfenced : ¬ HasFenced (fence ++ (tag ++ rest))) :
    withoutOpening (fence ++ (tag ++ rest)) = rest := by
  refine withoutOpening_append tagged stops fun first => unfenced ?_
  obtain ⟨inner, rfl⟩ : ∃ inner, rest = '\n' :: inner := by
    cases rest with
    | nil => cases first
    | cons c inner => exact ⟨inner, by rw [Option.some.inj first]⟩
  have split : fence <:+: [] ++ '\n' :: inner := inside
  rcases Text.infix_of_infix_append_cons (by decide) split with nothing | later
  · exact absurd (List.infix_nil.mp nothing) (by decide)
  · obtain ⟨body, after, rfl⟩ := later
    exact ⟨[], tag, body, after, tagged, by simp⟩

/-- Of two opening fences with nothing but blanks between them, the second one is left. -/
theorem withoutOpening_append_fence (tagged : ∀ c ∈ tag, isWord c = true)
    (blank : ∀ c ∈ gap, isBlank c = true)
    (unfenced : ¬ HasFenced (fence ++ (tag ++ (gap ++ (fence ++ tail))))) :
    withoutOpening (fence ++ (tag ++ (gap ++ (fence ++ tail)))) = gap ++ (fence ++ tail) := by
  refine withoutOpening_of_unfenced tagged ?_ ⟨gap, tail, by simp⟩ unfenced
  cases gap with
  | nil => simp [fence, List.replicate_succ]; decide
  | cons c gap => simpa using isWord_of_isBlank (blank c List.mem_cons_self)

/-- The opening fence that is taken away is nothing, or a fence with a tag and perhaps a line
feed. -/
theorem withoutOpening_cases (cs : List Char) :
    withoutOpening cs = cs ∧ ¬ fence <+: cs ∨
      ∃ tag, (∀ c ∈ tag, isWord c = true) ∧
        (cs = fence ++ (tag ++ withoutOpening cs) ∨
          cs = fence ++ (tag ++ '\n' :: withoutOpening cs)) := by
  by_cases opened : fence <+: cs
  · obtain ⟨rest, rfl⟩ := opened
    refine .inr ⟨rest.takeWhile isWord, fun _ => List.mem_takeWhile_imp, ?_⟩
    have whole : rest.takeWhile isWord ++ rest.dropWhile isWord = rest :=
      List.takeWhile_append_dropWhile
    rw [withoutOpening, Text.afterPrefix?_append]
    dsimp only
    split
    · next inner dropped => exact .inr (by rw [← dropped, whole])
    · exact .inl (by rw [whole])
  · exact .inl ⟨withoutOpening_of_not_isPrefix opened, opened⟩

/-! ## What is left -/

/-- What is in front of the content of a block: nothing, or an opening fence and blanks. -/
def Precedes (block front : List Char) : Prop :=
  front = [] ∧ ¬ fence <+: block ∨
    ∃ tag gap, (∀ c ∈ tag, isWord c = true) ∧ (∀ c ∈ gap, isBlank c = true) ∧
      front = fence ++ (tag ++ gap)

/-- A block without a fenced block, with a fence in its content, is the content with what was taken
away at both ends: blanks and at most one fence. -/
theorem exists_content_split (full : ∀ c ∈ block.head?, isBlank c = false)
    (unfenced : ¬ HasFenced block) (inside : fence <:+: content block) :
    ∃ front gap closing, Precedes block front ∧ (∀ c ∈ gap, isBlank c = true) ∧
      (closing = fence ∨ closing = [] ∧ ¬ fence <:+ content block ++ gap) ∧
      block = front ++ (content block ++ (gap ++ closing)) := by
  obtain ⟨lead, gap, leading, blank, split⟩ :=
    Text.exists_trim_split (withoutClosing (withoutOpening block))
  rw [← content_eq unfenced] at split
  obtain ⟨closing, closed, whole⟩ : ∃ closing,
      (closing = fence ∨ closing = [] ∧ ¬ fence <:+ content block ++ gap) ∧
        withoutOpening block = lead ++ (content block ++ (gap ++ closing)) := by
    rcases withoutClosing_cases (withoutOpening block) with taken | ⟨same, bare⟩
    · exact ⟨fence, .inl rfl, by rw [taken, split]; simp⟩
    · rw [← same, split] at bare
      refine ⟨[], .inr ⟨rfl, fun closed => bare (closed.trans (List.suffix_append _ _))⟩, ?_⟩
      rw [← same, split]
      simp
  rcases withoutOpening_cases block with ⟨same, bare⟩ | ⟨tag, tagged, taken | taken⟩
  · -- a block does not start with a blank
    rw [same] at whole
    have none_lead : lead = [] := by
      cases lead with
      | nil => rfl
      | cons c lead =>
        have first := full c (by rw [whole]; rfl)
        rw [leading c List.mem_cons_self] at first
        cases first
    rw [none_lead] at whole
    exact ⟨[], gap, closing, .inl ⟨rfl, bare⟩, blank, closed, whole⟩
  · refine ⟨fence ++ (tag ++ lead), gap, closing, .inr ⟨tag, lead, tagged, leading, rfl⟩, blank,
      closed, ?_⟩
    conv_lhs => rw [taken, whole]
    simp
  · -- a line feed behind the tag would open a fenced block
    obtain ⟨body, after, held⟩ := inside
    refine absurd ⟨[], tag, lead ++ body, after ++ (gap ++ closing), tagged, ?_⟩ unfenced
    conv_lhs => rw [taken, whole, ← held]
    simp

/-! ### Closing fences -/

/-- In front of a fence on its own line, only an opening fence is taken away. -/
theorem exists_withoutOpening (breaks : ∀ c, isBreak c = true → isBlank c = true)
    (start : LineStart isBreak front) (unfenced : ¬ HasFenced (front ++ (fence ++ tail))) :
    ∃ mid, withoutOpening (front ++ (fence ++ tail)) = mid ++ (fence ++ tail) ∧
      ((∀ c ∈ mid, isBlank c = true) ∨
        ∃ before c, isBreak c = true ∧ mid = before ++ [c]) := by
  cases start with
  | lineBreak before c h whole =>
    subst whole
    by_cases opened : fence <+: before
    · obtain ⟨line, rfl⟩ := opened
      -- the tag ends in front of the line break at the latest
      obtain ⟨tag, left, tagged, stops, rfl⟩ : ∃ tag left, (∀ c ∈ tag, isWord c = true) ∧
          (∀ c ∈ left.head?, isWord c = false) ∧ line = tag ++ left :=
        ⟨_, _, fun _ => List.mem_takeWhile_imp, fun c first => by
          simpa [Option.mem_def.mp first] using List.head?_dropWhile_not isWord line,
          List.takeWhile_append_dropWhile.symm⟩
      have joined : fence ++ (tag ++ left) ++ [c] ++ (fence ++ tail) =
          fence ++ (tag ++ (left ++ [c] ++ (fence ++ tail))) := by simp
      rw [joined] at unfenced ⊢
      refine ⟨left ++ [c], withoutOpening_of_unfenced tagged ?_ ⟨left ++ [c], tail, by simp⟩
        unfenced,
        .inr ⟨left, c, h, rfl⟩⟩
      cases left with
      | nil => simpa using isWord_of_isBlank (breaks c h)
      | cons d left => simpa using stops
    · refine ⟨before ++ [c], withoutOpening_of_not_isPrefix fun opens => opened ?_,
        .inr ⟨before, c, h, rfl⟩⟩
      rw [List.append_assoc] at opens
      exact Text.prefix_of_prefix_append_cons (not_mem_fence_of_isBlank (breaks c h)) opens
  | opening tag gap tagged blank whole =>
    subst whole
    have joined : fence ++ (tag ++ gap) ++ (fence ++ tail) =
        fence ++ (tag ++ (gap ++ (fence ++ tail))) := by simp
    rw [joined] at unfenced ⊢
    exact ⟨gap, withoutOpening_append_fence tagged blank unfenced, .inl blank⟩

/-- A fence with blanks behind it is at the end after trimming. -/
theorem endsInFence_trim (mid_cases : (∀ c ∈ mid, isBlank c = true) ∨
      ∃ before c, isBreak c = true ∧ mid = before ++ [c])
    (breaks : ∀ c, isBreak c = true → isBlank c = true) (blank : ∀ c ∈ gap, isBlank c = true) :
    EndsInFence isBreak (trim (mid ++ (fence ++ gap))) := by
  by_cases leading : ∀ c ∈ mid, isBlank c = true
  · rw [Text.trim_append leading blank (by decide)
      (fun c first => isBlank_of_mem_fence (List.mem_of_head? first))
      fun c last => isBlank_of_mem_fence (List.mem_of_getLast? last)]
    exact .inl rfl
  · obtain ⟨before, c, h, rfl⟩ := mid_cases.resolve_left leading
    obtain ⟨lead, line, leading', first, rfl⟩ : ∃ lead line, (∀ c ∈ lead, isBlank c = true) ∧
        (∀ c ∈ line.head?, isBlank c = false) ∧ before = lead ++ line :=
      ⟨_, _, fun _ => List.mem_takeWhile_imp, fun _ => Text.isBlank_of_mem_head?_trimStart,
        List.takeWhile_append_dropWhile.symm⟩
    -- the line break stays, because something that is not blank stands in front of it
    have some_line : line ≠ [] := by
      rintro rfl
      refine leading fun d mem => ?_
      rw [List.append_nil] at mem
      rcases List.mem_append.mp mem with earlier | last
      · exact leading' d earlier
      · exact List.mem_singleton.mp last ▸ breaks c h
    have joined : lead ++ line ++ [c] ++ (fence ++ gap) =
        lead ++ ((line ++ c :: fence) ++ gap) := by simp
    rw [joined, Text.trim_append leading' blank (by simp)]
    · exact .inr ⟨line, c, h, rfl⟩
    · rwa [List.head?_append_of_ne_nil line some_line]
    · intro d last
      refine isBlank_of_mem_fence (List.mem_of_getLast? ?_)
      rwa [List.getLast?_append_of_ne_nil, List.getLast?_cons_of_ne_nil] at last
      all_goals simp [fence]

/-- A content that ends in a fence on its own line comes from a block that keeps it. -/
theorem EndsInFence.keepsClosing (full : ∀ c ∈ block.head?, isBlank c = false)
    (unfenced : ¬ HasFenced block) (ends : EndsInFence isBreak (content block)) :
    KeepsClosing isBreak block := by
  obtain ⟨front, gap, closing, precedes, blank, closed, whole⟩ :=
    exists_content_split full unfenced ends.isSuffix.isInfix
  obtain ⟨start, startsLine, split⟩ : ∃ start, LineStart isBreak start ∧
      front ++ content block = start ++ fence := by
    rcases ends with alone | ⟨before, c, h, split⟩
    · rcases precedes with ⟨rfl, bare⟩ | ⟨tag, lead, tagged, leading, rfl⟩
      · refine absurd ?_ bare
        rw [whole, alone]
        exact List.prefix_append fence _
      · exact ⟨_, .opening tag lead tagged leading rfl, by rw [alone]⟩
    · exact ⟨front ++ (before ++ [c]), .lineBreak (front ++ before) c h (by simp),
        by rw [split]; simp⟩
  rw [← List.append_assoc, split, List.append_assoc] at whole
  rcases closed with rfl | ⟨rfl, bare⟩
  · exact .doubled start gap startsLine blank whole
  · refine .covered start gap startsLine blank ?_ (by simpa using whole)
    rintro rfl
    rw [List.append_nil] at bare
    exact bare ends.isSuffix

/-- Such a block keeps its closing fence. -/
theorem KeepsClosing.endsInFence (breaks : ∀ c, isBreak c = true → isBlank c = true)
    (unfenced : ¬ HasFenced block) (keeps : KeepsClosing isBreak block) :
    EndsInFence isBreak (content block) := by
  rcases keeps with ⟨front, gap, start, blank, some, rfl⟩ | ⟨front, gap, start, blank, rfl⟩
  · obtain ⟨mid, opened, mid_cases⟩ := exists_withoutOpening breaks start unfenced
    have bare : ¬ fence <:+ mid ++ (fence ++ gap) := by
      rw [← List.append_assoc]
      exact not_isSuffix_append (fun c mem => not_mem_fence_of_isBlank (blank c mem)) some
    rw [content_eq unfenced, opened, withoutClosing_of_not_isSuffix bare]
    exact endsInFence_trim mid_cases breaks blank
  · obtain ⟨mid, opened, mid_cases⟩ := exists_withoutOpening breaks start unfenced
    have joined : mid ++ (fence ++ (gap ++ fence)) = mid ++ (fence ++ gap) ++ fence := by simp
    rw [content_eq unfenced, opened, joined, withoutClosing_append]
    exact endsInFence_trim mid_cases breaks blank

/-- **The closing fence.** In a block without a fenced block, a bare fence in the last line is left
exactly if blanks or another fence stand behind it. -/
theorem endsInFence_content_iff (breaks : ∀ c, isBreak c = true → isBlank c = true)
    (full : ∀ c ∈ block.head?, isBlank c = false) (unfenced : ¬ HasFenced block) :
    EndsInFence isBreak (content block) ↔ KeepsClosing isBreak block :=
  ⟨EndsInFence.keepsClosing full unfenced, KeepsClosing.endsInFence breaks unfenced⟩

/-! ### Opening fences -/

/-- A fence with a tag is left alone by trimming. -/
theorem trim_fence_append {gap' : List Char} (tagged : ∀ c ∈ tag, isWord c = true)
    (blank : ∀ c ∈ gap, isBlank c = true) (blank' : ∀ c ∈ gap', isBlank c = true) :
    trim (gap ++ ((fence ++ tag) ++ gap')) = fence ++ tag := by
  exact Text.trim_append blank blank' (by simp [fence]) (fun _ => isBlank_of_mem_head?)
    fun _ => isBlank_of_mem_getLast? tagged

/-- A fence whose line ends is still in the first line when what follows is trimmed. -/
theorem startsWithFence_trim {c : Char} (breaks : ∀ c, isBreak c = true → isBlank c = true)
    (blank : ∀ c ∈ gap, isBlank c = true) (tagged : ∀ c ∈ tag, isWord c = true)
    (h : isBreak c = true) (rest : List Char) :
    StartsWithFence isBreak (trim (gap ++ (fence ++ (tag ++ c :: rest)))) := by
  obtain ⟨trail, trailing, split⟩ := Text.exists_trimEnd_split rest
  rw [split]
  by_cases none_left : trimEnd rest = []
  · have joined : gap ++ (fence ++ (tag ++ c :: (trimEnd rest ++ trail))) =
        gap ++ ((fence ++ tag) ++ (c :: trail)) := by simp [none_left]
    rw [joined, trim_fence_append tagged blank]
    · exact ⟨tag, tagged, .inl rfl⟩
    · exact List.forall_mem_cons.mpr ⟨breaks c h, trailing⟩
  · have joined : gap ++ (fence ++ (tag ++ c :: (trimEnd rest ++ trail))) =
        gap ++ ((fence ++ (tag ++ c :: trimEnd rest)) ++ trail) := by simp
    rw [joined, Text.trim_append blank trailing (by simp [fence])]
    · exact ⟨tag, tagged, .inr ⟨c, trimEnd rest, h, rfl⟩⟩
    · exact fun _ => isBlank_of_mem_head?
    · intro d last
      have behind : fence ++ (tag ++ c :: trimEnd rest) =
          fence ++ (tag ++ [c]) ++ trimEnd rest := by simp
      rw [behind, List.getLast?_append_of_ne_nil _ none_left] at last
      exact Text.isBlank_of_mem_getLast?_trimEnd last

/-- A content that starts with an opening fence comes from a block that keeps it. -/
theorem StartsWithFence.keepsOpening (full : ∀ c ∈ block.head?, isBlank c = false)
    (unfenced : ¬ HasFenced block) (starts : StartsWithFence isBreak (content block)) :
    KeepsOpening isBreak block := by
  obtain ⟨front, gap', closing, precedes, blank', closed, whole⟩ :=
    exists_content_split full unfenced starts.isInfix
  obtain ⟨tag', tagged', split⟩ := starts
  rcases precedes with ⟨rfl, bare⟩ | ⟨tag, gap, tagged, blank, rfl⟩
  · refine absurd ?_ bare
    rw [whole]
    rcases split with split | ⟨c, rest, -, split⟩ <;> exact ⟨_, by rw [split]; simp; rfl⟩
  rcases split with split | ⟨c, rest, h, split⟩
  · rw [split] at whole closed
    rcases closed with rfl | ⟨rfl, bare⟩
    · exact .closed tag gap tag' gap' tagged blank tagged' blank' (by simpa using whole)
    · refine .last tag gap tag' gap' tagged blank tagged' blank' ?_ (by simpa using whole)
      intro nothing
      rw [List.append_assoc, nothing, List.append_nil] at bare
      exact bare List.suffix_rfl
  · rw [split] at whole
    exact .line tag gap tag' c (rest ++ (gap' ++ closing)) tagged blank tagged' h
      (by simpa using whole)

/-- Such a block keeps its opening fence. -/
theorem KeepsOpening.startsWithFence (breaks : ∀ c, isBreak c = true → isBlank c = true)
    (unfenced : ¬ HasFenced block) (keeps : KeepsOpening isBreak block) :
    StartsWithFence isBreak (content block) := by
  rcases keeps with ⟨tag, gap, tag', c, rest, tagged, blank, tagged', h, rfl⟩ |
    ⟨tag, gap, tag', gap', tagged, blank, tagged', blank', some, rfl⟩ |
    ⟨tag, gap, tag', gap', tagged, blank, tagged', blank', rfl⟩
  · have joined : gap ++ (fence ++ (tag' ++ c :: rest)) =
        (gap ++ (fence ++ tag')) ++ c :: rest := by simp
    rw [content_eq unfenced, withoutOpening_append_fence tagged blank unfenced, joined,
      withoutClosing_append_cons (not_mem_fence_of_isBlank (breaks c h))]
    simpa using startsWithFence_trim breaks blank tagged' h (withoutClosing rest)
  · have bare : ¬ fence <:+ gap ++ (fence ++ (tag' ++ gap')) := by
      rw [← List.append_assoc]
      refine not_isSuffix_append (fun c mem => ?_) some
      rcases List.mem_append.mp mem with tagging | trailing
      · exact not_mem_fence_of_isWord (tagged' c tagging)
      · exact not_mem_fence_of_isBlank (blank' c trailing)
    rw [content_eq unfenced, withoutOpening_append_fence tagged blank unfenced,
      withoutClosing_of_not_isSuffix bare, ← List.append_assoc fence,
      trim_fence_append tagged' blank blank']
    exact ⟨tag', tagged', .inl rfl⟩
  · have joined : gap ++ (fence ++ (tag' ++ (gap' ++ fence))) =
        gap ++ ((fence ++ tag') ++ gap') ++ fence := by simp
    rw [content_eq unfenced, withoutOpening_append_fence tagged blank unfenced, joined,
      withoutClosing_append, trim_fence_append tagged' blank blank']
    exact ⟨tag', tagged', .inl rfl⟩

/-- **The opening fence.** In a block without a fenced block, an opening fence in the first line is
left exactly if another one stands in front of it, with nothing but blanks in between. -/
theorem startsWithFence_content_iff (breaks : ∀ c, isBreak c = true → isBlank c = true)
    (full : ∀ c ∈ block.head?, isBlank c = false) (unfenced : ¬ HasFenced block) :
    StartsWithFence isBreak (content block) ↔ KeepsOpening isBreak block :=
  ⟨StartsWithFence.keepsOpening full unfenced, KeepsOpening.startsWithFence breaks unfenced⟩

/-! ## Patches -/

/-- The blocks of a text that have content. -/
def fullBlocks (cs : List Char) : List Block :=
  (blocks cs).filter fun block => !(content block.text).isEmpty

/-- Each block with something in it makes a proposal. -/
theorem markedProposals_eq (cs : List Char) :
    markedProposals cs = (fullBlocks cs).map fun block =>
      ⟨String.ofList block.name, String.ofList (content block.text)⟩ := by
  rw [markedProposals, fullBlocks, ← List.filterMap_eq_filter, List.map_filterMap]
  refine List.filterMap_congr fun block _ => ?_
  by_cases empty : (content block.text).isEmpty = true <;> simp [Option.guard, empty]

/-- The patches of markers have the names and contents of their blocks. -/
theorem forall₂_fullBlocks (made : ℕ) (files : List File) {text : String}
    (marked : HasMarked text.toList) :
    List.Forall₂ (fun block p => p.fileName = String.ofList block.name ∧
        p.newContent = String.ofList (content block.text))
      (fullBlocks text.toList) (parse made files text) := by
  have related := forall₂_parse made files text
  rwa [proposals_of_marked marked, markedProposals_eq, List.forall₂_map_left_iff] at related

/-- **When a fence is written into a file.** Let lines end where `isBreak` says, which may be any
blank characters. The patches of markers belong to the blocks with content, one to one and in order.
If its block has a fenced block, a content holds no fence at all. Otherwise it ends in a line that
is a closing fence exactly if blanks or another fence stand behind that in the block, and starts
with a line that is an opening fence exactly if another one stands in front of that. -/
theorem parse_keeps_fence_iff (made : ℕ) (files : List File) {text : String}
    (isBreak : Char → Bool) (breaks : ∀ c, isBreak c = true → isBlank c = true)
    (marked : HasMarked text.toList) :
    List.Forall₂ (fun block p => p.fileName = String.ofList block.name ∧
        (HasFenced block.text → ¬ fence <:+: p.newContent.toList) ∧
        (¬ HasFenced block.text →
          (EndsInFence isBreak p.newContent.toList ↔ KeepsClosing isBreak block.text) ∧
          (StartsWithFence isBreak p.newContent.toList ↔ KeepsOpening isBreak block.text)))
      (fullBlocks text.toList) (parse made files text) := by
  have full : ∀ block ∈ fullBlocks text.toList, ∀ c ∈ block.text.head?, isBlank c = false :=
    fun block mem => isBlank_of_mem_head?_text 0 text.toList (List.mem_filter.mp mem).1
  refine ((List.forall₂_and_left _ _).mpr ⟨full, forall₂_fullBlocks made files marked⟩).imp ?_
  rintro block p ⟨full, named, same⟩
  rw [same, String.toList_ofList]
  exact ⟨named, HasFenced.unfenced_content, fun unfenced =>
    ⟨endsInFence_content_iff breaks full unfenced,
      startsWithFence_content_iff breaks full unfenced⟩⟩

/-- A line feed behind the closing fence of a block that has no opening one, and a block that has
both. -/
theorem parse_keeps_fence_iff_newline_behind :
    let isBreak : Char → Bool := fun c => c == '\n' || c == '\r'
    let text := "FILE: a.js\nx\n```\nFILE: b.js\n```js\ny\n```"
    HasMarked text.toList ∧ (∀ c, isBreak c = true → isBlank c = true) ∧
      (parse 0 [] text).map (·.newContent) = ["x\n```", "y"] ∧
      EndsInFence isBreak "x\n```".toList ∧ ¬ EndsInFence isBreak "y".toList := by
  intro isBreak text
  have marked : HasMarked text.toList := by decide +kernel
  have breaks (c : Char) (h : isBreak c = true) : isBlank c = true := by
    rcases (Bool.or_eq_true _ _).mp h with feed | carriage
    · exact eq_of_beq feed ▸ rfl
    · exact eq_of_beq carriage ▸ rfl
  have related := parse_keeps_fence_iff 0 [] isBreak breaks marked
  have found : fullBlocks text.toList = [⟨"a.js".toList, "x\n```\n".toList⟩,
      ⟨"b.js".toList, "```js\ny\n```".toList⟩] := by
    decide +kernel
  have patches : parse 0 [] text = [⟨"patch-1", "a.js", "x\n```", 2, 0, true⟩,
      ⟨"patch-2", "b.js", "y", 1, 0, true⟩] := by
    decide +kernel
  rw [found, patches] at related
  obtain ⟨⟨-, -, bare⟩, others⟩ := List.forall₂_cons.mp related
  obtain ⟨⟨-, enclosed, -⟩, -⟩ := List.forall₂_cons.mp others
  refine ⟨marked, breaks, by rw [patches]; rfl, ?_, fun ends => ?_⟩
  · have unfenced : ¬ HasFenced "x\n```\n".toList :=
      firstFence?_eq_none_iff.mp (by decide +kernel)
    refine (bare unfenced).1.mpr (.covered ['x', '\n'] ['\n'] ?_ ?_ (by simp) (by decide +kernel))
    · exact .lineBreak ['x'] '\n' rfl rfl
    · exact List.all_eq_true.mp (by decide)
  · have fenced : HasFenced "```js\ny\n```".toList :=
      ⟨[], ['j', 's'], ['y', '\n'], [], List.all_eq_true.mp (by decide), by decide +kernel⟩
    exact enclosed fenced ends.isSuffix.isInfix

end Workbench.Patch
