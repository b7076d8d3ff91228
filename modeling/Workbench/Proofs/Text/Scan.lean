import Workbench.Text.Blank
import Workbench.Text.Split
import Mathlib.Data.List.TakeWhile
import Mathlib.Data.List.Infix

/-!
# Scanning text

What the functions that cut text find in texts that are put together from known pieces: a word at
the front (`afterPrefix?`), the first occurrence of a word (`cutAt?`), the pieces between separators
(`splitOn`), and what is left when blank characters are dropped from the ends (`trim`).
-/

namespace Workbench.Text

variable {word cs rest : List Char} {c : Char}

/-! ## Words -/

/-- What stands behind a word. -/
theorem afterPrefix?_eq_some_iff : afterPrefix? word cs = some rest ↔ cs = word ++ rest := by
  induction word generalizing cs with
  | nil => simp [afterPrefix?]
  | cons w word ih =>
    cases cs with
    | nil => simp [afterPrefix?]
    | cons c cs =>
      by_cases h : w = c
      · simp [afterPrefix?, h, ih]
      · simp [afterPrefix?, h, Ne.symm h]

@[simp] theorem afterPrefix?_append (word rest : List Char) :
    afterPrefix? word (word ++ rest) = some rest :=
  afterPrefix?_eq_some_iff.mpr rfl

/-- Nothing does if the text does not begin with the word. -/
theorem afterPrefix?_eq_none_iff : afterPrefix? word cs = none ↔ ¬ word <+: cs := by
  rw [Option.eq_none_iff_forall_ne_some]
  constructor
  · rintro h ⟨rest, rfl⟩
    exact h rest (afterPrefix?_append word rest)
  · rintro h rest found
    exact h ⟨rest, (afterPrefix?_eq_some_iff.mp found).symm⟩

/-- A word that is found in front of a character that it does not hold ends before it. -/
theorem prefix_of_prefix_append_cons (absent : c ∉ word) (h : word <+: cs ++ c :: rest) :
    word <+: cs := by
  rcases Nat.lt_or_ge cs.length word.length with longer | shorter
  · have upTo : cs ++ [c] <+: cs ++ c :: rest := ⟨rest, by simp⟩
    have within : cs ++ [c] <+: word :=
      List.prefix_of_prefix_length_le upTo h (by simp; omega)
    exact absurd (within.subset (by simp)) absent
  · exact List.prefix_of_prefix_length_le h (List.prefix_append cs _) shorter

/-- A word that is found in a text is found on one side of a character that it does not hold. -/
theorem infix_of_infix_append_cons (absent : c ∉ word) (h : word <:+: cs ++ c :: rest) :
    word <:+: cs ∨ word <:+: rest := by
  induction cs with
  | nil =>
    rcases List.infix_cons_iff.mp h with front | later
    · have none_left : word <+: [] := prefix_of_prefix_append_cons absent front
      exact .inl none_left.isInfix
    · exact .inr later
  | cons d cs ih =>
    rcases List.infix_cons_iff.mp h with front | later
    · have inside : word <+: d :: cs := prefix_of_prefix_append_cons absent front
      exact .inl inside.isInfix
    · exact (ih later).imp_left fun inner => inner.trans (List.suffix_cons d cs).isInfix

/-- The end of a text that is put together starts in front of the character in between, or
behind it. -/
theorem suffix_append_cons {after : List Char} (h : after <:+ cs ++ c :: rest) :
    (∃ mid, mid <:+ cs ∧ after = mid ++ c :: rest) ∨ after <:+ rest := by
  induction cs with
  | nil =>
    rcases List.suffix_cons_iff.mp h with whole | later
    · exact .inl ⟨[], List.suffix_rfl, whole⟩
    · exact .inr later
  | cons d cs ih =>
    rcases List.suffix_cons_iff.mp h with whole | later
    · exact .inl ⟨d :: cs, List.suffix_rfl, whole⟩
    · refine (ih later).imp_left ?_
      rintro ⟨mid, inner, rfl⟩
      exact ⟨mid, inner.trans (List.suffix_cons d cs), rfl⟩

/-- The first occurrence of a word behind a text that does not hold it, when a character that is not
in the word stands in between. -/
theorem cutAt?_append_cons (nonempty : word ≠ []) (absent : c ∉ word) (h : ¬ word <:+: cs) :
    cutAt? word (cs ++ c :: (word ++ rest)) = some (cs ++ [c], rest) := by
  induction cs with
  | nil =>
    have front : afterPrefix? word (c :: (word ++ rest)) = none := by
      refine afterPrefix?_eq_none_iff.mpr fun hp => ?_
      have none_left : word <+: [] := prefix_of_prefix_append_cons absent hp
      exact nonempty (List.prefix_nil.mp none_left)
    have next : cutAt? word (word ++ rest) = some ([], rest) := by
      cases hw : word with
      | nil => exact absurd hw nonempty
      | cons w ws =>
        have := afterPrefix?_append (w :: ws) rest
        rw [List.cons_append] at this ⊢
        rw [cutAt?, this]
    rw [List.nil_append, cutAt?, front]
    simp [next]
  | cons d cs ih =>
    have front : afterPrefix? word (d :: (cs ++ c :: (word ++ rest))) = none := by
      refine afterPrefix?_eq_none_iff.mpr fun hp => h ?_
      have inside : word <+: d :: cs := prefix_of_prefix_append_cons absent hp
      exact inside.isInfix
    have inner : ¬ word <:+: cs := fun hi => h (hi.trans (List.suffix_cons d cs).isInfix)
    rw [List.cons_append, cutAt?, front]
    simp [ih inner]

/-- A word is not found exactly in the texts that do not hold it. -/
theorem cutAt?_eq_none_iff (nonempty : word ≠ []) : cutAt? word cs = none ↔ ¬ word <:+: cs := by
  induction cs with
  | nil => simp [cutAt?, nonempty]
  | cons c cs ih =>
    rw [cutAt?, List.infix_cons_iff, not_or, ← ih, ← afterPrefix?_eq_none_iff]
    cases h : afterPrefix? word (c :: cs) <;> simp

/-- What a cut leaves out is the word. -/
theorem eq_append_of_cutAt? {before : List Char} (found : cutAt? word cs = some (before, rest)) :
    cs = before ++ (word ++ rest) := by
  induction cs generalizing before with
  | nil =>
    rw [cutAt?] at found
    split at found
    · next empty =>
      cases found
      simp [List.isEmpty_iff.mp empty]
    · cases found
  | cons c cs ih =>
    rw [cutAt?] at found
    split at found
    · next after here =>
      cases found
      rw [List.nil_append]
      exact afterPrefix?_eq_some_iff.mp here
    · obtain ⟨⟨inner, after⟩, later, same⟩ := Option.map_eq_some_iff.mp found
      cases same
      exact congrArg (c :: ·) (ih later)

/-- There is no occurrence of a word in front of the first one. -/
theorem not_isInfix_of_cutAt? {before : List Char} (nonempty : word ≠ [])
    (found : cutAt? word cs = some (before, rest)) : ¬ word <:+: before := by
  have nowhere : ¬ word <:+: [] := fun inside => nonempty (List.infix_nil.mp inside)
  induction cs generalizing before with
  | nil =>
    rw [cutAt?, if_neg (by simpa using nonempty)] at found
    cases found
  | cons c cs ih =>
    have whole := eq_append_of_cutAt? found
    rw [cutAt?] at found
    split at found
    · cases found
      exact nowhere
    · next absent =>
      obtain ⟨⟨inner, after⟩, later, same⟩ := Option.map_eq_some_iff.mp found
      cases same
      intro inside
      rcases List.infix_cons_iff.mp inside with front | behind
      · refine afterPrefix?_eq_none_iff.mp absent ?_
        rw [whole]
        exact front.trans (List.prefix_append _ _)
      · exact ih later behind

/-- A run of characters ends at the latest in front of a character that is not of its kind. -/
theorem takeWhile_append_cons {p : Char → Bool} (stops : p c = false) (cs rest : List Char) :
    (cs ++ c :: rest).takeWhile p = cs.takeWhile p := by
  induction cs with
  | nil => simp [stops]
  | cons d cs ih => by_cases here : p d = true <;> simp [here, ih]

/-! ## Pieces -/

/-- Splitting is that of the library. -/
theorem splitOn_eq (sep : Char) (cs : List Char) : splitOn sep cs = cs.splitOn sep := by
  induction cs with
  | nil => rfl
  | cons c cs ih =>
    rw [splitOn, List.splitOn, List.splitOnP_cons_eq_if_modifyHead]
    by_cases same : c = sep
    · rw [if_pos same, if_pos (by simpa using same), ih]
      rfl
    · rw [if_neg same, if_neg (by simpa using same), ih]
      cases h : cs.splitOn sep with
      | nil => exact absurd (ih.trans h) (splitOn_ne_nil sep cs)
      | cons piece pieces =>
        rw [List.splitOn] at h
        rw [h]
        rfl

@[simp] theorem splitOn_cons_self (sep : Char) (cs : List Char) :
    splitOn sep (sep :: cs) = [] :: splitOn sep cs := by
  rw [splitOn, if_pos rfl]

/-- Two texts with a separator between them have the pieces of both. -/
theorem splitOn_append_cons (sep : Char) (cs rest : List Char) :
    splitOn sep (cs ++ sep :: rest) = splitOn sep cs ++ splitOn sep rest := by
  induction cs with
  | nil => exact splitOn_cons_self sep rest
  | cons c cs ih =>
    obtain ⟨piece, pieces, cut⟩ := List.exists_cons_of_ne_nil (splitOn_ne_nil sep cs)
    rw [List.cons_append, splitOn, splitOn, ih, cut]
    by_cases same : c = sep
    · rw [if_pos same, if_pos same]
      rfl
    · rw [if_neg same, if_neg same]
      rfl

/-- Pieces that do not hold the separator are found again when they are joined. -/
theorem splitOn_intercalate {sep : Char} {pieces : List (List Char)}
    (apart : ∀ piece ∈ pieces, sep ∉ piece) (nonempty : pieces ≠ []) :
    splitOn sep ([sep].intercalate pieces) = pieces := by
  rw [splitOn_eq]
  exact List.splitOn_intercalate sep apart nonempty

/-- The pieces are free of the separator. -/
theorem not_mem_of_mem_splitOn {sep : Char} {piece : List Char} (h : piece ∈ splitOn sep cs) :
    sep ∉ piece := by
  induction cs generalizing piece with
  | nil =>
    rw [List.mem_singleton.mp h]
    exact List.not_mem_nil
  | cons c cs ih =>
    rw [splitOn] at h
    split at h
    · rcases List.mem_cons.mp h with rfl | later
      · exact List.not_mem_nil
      · exact ih later
    · next differs =>
      split at h
      · rw [List.mem_singleton.mp h, List.mem_singleton]
        exact Ne.symm differs
      · next first pieces cut =>
        rw [cut] at ih
        rcases List.mem_cons.mp h with rfl | later
        · rw [List.mem_cons, not_or]
          exact ⟨Ne.symm differs, ih List.mem_cons_self⟩
        · exact ih (List.mem_cons_of_mem _ later)

/-! ## Blank characters -/

/-- A blank at the end is trimmed. -/
theorem trimEnd_concat (blank : isBlank c = true) (cs : List Char) :
    trimEnd (cs ++ [c]) = trimEnd cs := by
  simp [trimEnd, blank]

/-- A blank character at the end is trimmed. -/
theorem trim_concat (blank : isBlank c = true) (cs : List Char) : trim (cs ++ [c]) = trim cs := by
  unfold trim trimStart
  rw [List.dropWhile_append]
  split
  · next empty => simp [List.isEmpty_iff.mp empty, blank]
  · exact trimEnd_concat blank _

/-- A blank in front is trimmed. -/
theorem trim_cons (blank : isBlank c = true) (cs : List Char) : trim (c :: cs) = trim cs := by
  rw [trim, trim, trimStart, trimStart, List.dropWhile_cons_of_pos blank]

/-- A text that neither starts nor ends with a blank character is not trimmed. -/
theorem trim_eq_self (first : ∀ c ∈ cs.head?, isBlank c = false)
    (last : ∀ c ∈ cs.getLast?, isBlank c = false) : trim cs = cs := by
  have front : trimStart cs = cs := by
    cases cs with
    | nil => rfl
    | cons c cs =>
      have full : ¬ isBlank c = true := by simp [first c rfl]
      exact List.dropWhile_cons_of_neg full
  rw [trim, front, trimEnd]
  cases h : cs.reverse with
  | nil => simpa using h.symm
  | cons c front =>
    have full : ¬ isBlank c = true := by
      simp [last c (by rw [← List.head?_reverse, h]; rfl)]
    rw [List.dropWhile_cons_of_neg full, ← h, List.reverse_reverse]

/-- Trimming takes blanks only. -/
theorem mem_trimStart_iff (full : isBlank c = false) : c ∈ trimStart cs ↔ c ∈ cs := by
  refine ⟨fun mem => (List.dropWhile_suffix isBlank).subset mem, fun mem => ?_⟩
  rw [← List.takeWhile_append_dropWhile (p := isBlank) (l := cs)] at mem
  refine (List.mem_append.mp mem).resolve_left fun taken => ?_
  rw [List.mem_takeWhile_imp taken] at full
  cases full

/-- Trimming takes away blank characters only. -/
theorem mem_trim_iff (full : isBlank c = false) : c ∈ trim cs ↔ c ∈ cs := by
  have back : c ∈ trimStart (trimStart cs).reverse ↔ c ∈ (trimStart cs).reverse :=
    mem_trimStart_iff full
  rw [trim, trimEnd, List.mem_reverse]
  exact back.trans (List.mem_reverse.trans (mem_trimStart_iff full))

/-- A text that is not blank is not trimmed away. -/
theorem trim_ne_nil (mem : c ∈ cs) (full : isBlank c = false) : trim cs ≠ [] :=
  List.ne_nil_of_mem ((mem_trim_iff full).mpr mem)

/-- Trimming in front leaves an end of the text. -/
theorem isSuffix_trimStart (cs : List Char) : trimStart cs <:+ cs :=
  List.dropWhile_suffix isBlank

/-- Trimming at the end leaves a beginning of the text. -/
theorem isPrefix_trimEnd (cs : List Char) : trimEnd cs <+: cs := by
  rw [← List.reverse_suffix, trimEnd, List.reverse_reverse]
  exact List.dropWhile_suffix isBlank

/-- Trimming takes away characters at both ends only. -/
theorem isInfix_trim (cs : List Char) : trim cs <:+: cs :=
  (isPrefix_trimEnd _).isInfix.trans (isSuffix_trimStart cs).isInfix

/-- Blank characters in front of one that is not blank are trimmed. -/
theorem trimStart_append {gap : List Char} (blank : ∀ c ∈ gap, isBlank c = true)
    (full : ∀ c ∈ rest.head?, isBlank c = false) : trimStart (gap ++ rest) = rest := by
  rw [trimStart, List.dropWhile_append_of_pos blank]
  cases rest with
  | nil => rfl
  | cons c rest =>
    have stops : ¬ isBlank c = true := by simp [full c rfl]
    exact List.dropWhile_cons_of_neg stops

/-- A text that is trimmed in front begins with no blank. -/
theorem isBlank_of_mem_head?_trimStart (mem : c ∈ (trimStart cs).head?) : isBlank c = false := by
  have first := List.head?_dropWhile_not isBlank cs
  rw [trimStart, Option.mem_def] at mem
  rw [mem] at first
  exact first

/-- A text that is trimmed begins with no blank. -/
theorem isBlank_of_mem_head?_trim (mem : c ∈ (trim cs).head?) : isBlank c = false := by
  -- what is dropped at the end does not change the first character that is left
  obtain ⟨dropped, whole⟩ := isPrefix_trimEnd (trimStart cs)
  have first : c ∈ (trimStart cs).head? := by
    rw [← whole, List.head?_append, Option.mem_def]
    rw [trim, Option.mem_def] at mem
    rw [mem, Option.some_or]
  exact isBlank_of_mem_head?_trimStart first

/-- A text that is trimmed at the end ends with no blank. -/
theorem isBlank_of_mem_getLast?_trimEnd (mem : c ∈ (trimEnd cs).getLast?) :
    isBlank c = false := by
  rw [trimEnd, List.getLast?_reverse] at mem
  exact isBlank_of_mem_head?_trimStart mem

/-- A text that is trimmed ends with no blank. -/
theorem isBlank_of_mem_getLast?_trim (mem : c ∈ (trim cs).getLast?) : isBlank c = false :=
  isBlank_of_mem_getLast?_trimEnd mem

/-- A trimmed text is not trimmed any further. -/
@[simp] theorem trim_trim (cs : List Char) : trim (trim cs) = trim cs :=
  trim_eq_self (fun _ => isBlank_of_mem_head?_trim) fun _ => isBlank_of_mem_getLast?_trim

/-- The end is trimmed in the last part that is not blank. -/
theorem trimEnd_append (mem : c ∈ rest) (full : isBlank c = false) (cs : List Char) :
    trimEnd (cs ++ rest) = cs ++ trimEnd rest := by
  have left : rest.reverse.dropWhile isBlank ≠ [] := by
    intro none_left
    have blank := List.dropWhile_eq_nil_iff.mp none_left c (List.mem_reverse.mpr mem)
    rw [full] at blank
    cases blank
  rw [trimEnd, trimEnd, List.reverse_append, List.dropWhile_append,
    if_neg (by simpa using left), List.reverse_append, List.reverse_reverse]

/-- Both ends are trimmed where there is a character that is not blank. -/
theorem trimEnd_eq (mem : c ∈ cs) (full : isBlank c = false) :
    trimEnd cs = cs.takeWhile isBlank ++ trim cs := by
  have whole := trimEnd_append ((mem_trimStart_iff full).mpr mem) full (cs.takeWhile isBlank)
  rwa [trimStart, List.takeWhile_append_dropWhile] at whole

/-- What is trimmed at the end is blank. -/
theorem exists_trimEnd_split (cs : List Char) :
    ∃ trail, (∀ c ∈ trail, isBlank c = true) ∧ cs = trimEnd cs ++ trail := by
  refine ⟨(cs.reverse.takeWhile isBlank).reverse,
    fun c mem => List.mem_takeWhile_imp (List.mem_reverse.mp mem), ?_⟩
  rw [trimEnd, ← List.reverse_append, List.takeWhile_append_dropWhile, List.reverse_reverse]

/-- Trimming splits off the blank characters at both ends. -/
theorem exists_trim_split (cs : List Char) :
    ∃ lead trail, (∀ c ∈ lead, isBlank c = true) ∧ (∀ c ∈ trail, isBlank c = true) ∧
      cs = lead ++ (trim cs ++ trail) := by
  obtain ⟨trail, blank, split⟩ := exists_trimEnd_split (trimStart cs)
  refine ⟨cs.takeWhile isBlank, trail, fun _ => List.mem_takeWhile_imp, blank, ?_⟩
  rw [trim, ← split]
  exact List.takeWhile_append_dropWhile.symm

/-- Blank characters around a text that has none at its ends are trimmed. -/
theorem trim_append {lead core trail : List Char} (leading : ∀ c ∈ lead, isBlank c = true)
    (trailing : ∀ c ∈ trail, isBlank c = true) (nonempty : core ≠ [])
    (first : ∀ c ∈ core.head?, isBlank c = false)
    (last : ∀ c ∈ core.getLast?, isBlank c = false) : trim (lead ++ (core ++ trail)) = core := by
  have front : trimStart (lead ++ (core ++ trail)) = core ++ trail := by
    refine trimStart_append leading fun c mem => first c ?_
    rwa [List.head?_append_of_ne_nil core nonempty] at mem
  have back : trimEnd (core ++ trail) = trimEnd core := by
    rw [trimEnd, List.reverse_append,
      List.dropWhile_append_of_pos fun c mem => trailing c (List.mem_reverse.mp mem), trimEnd]
  have bare : trimStart ([] ++ core) = core := trimStart_append (by simp) first
  rw [List.nil_append] at bare
  calc trim (lead ++ (core ++ trail)) = trimEnd core := by rw [trim, front, back]
    _ = trim core := by rw [trim, bare]
    _ = core := trim_eq_self first last

end Workbench.Text
