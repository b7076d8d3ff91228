import Workbench.Proofs.Tree.Canonical

/-!
# Where paths lead

A path that is not relative to the home directory leads where the directory around it and the name
at its end lead (`normalize_eq_concat`). So what `locate` finds for it, which goes by the directory
around it, agrees with what `resolve` finds, which goes by its segments as a whole. A tilde is the
exception: it is the name of an entry for the one and the home directory for the other.
-/

namespace Workbench.Tree

variable {path cwd name : String} {names raw : List String} {d : Directory}
variable {a : Attributes} {entries : Branch}

/-! ## The path around an entry -/

/-- Two paths with a slash between them have the segments of both. -/
theorem segments_append (above below : String) :
    segments (above ++ "/" ++ below) = segments above ++ segments below := by
  have text : (above ++ "/" ++ below).toList = above.toList ++ '/' :: below.toList := by
    rw [String.toList_append, String.toList_append, List.append_assoc]
    rfl
  rw [segments, Text.pieces, text, Text.splitOn_append_cons, List.map_append, List.filter_append]
  rfl

/-- A slash in front makes no segment. -/
theorem segments_slash (path : String) : segments ("/" ++ path) = segments path := by
  rw [← String.empty_append (s := "/"), segments_append]
  rfl

/-- Names that are joined by slashes are the segments of the joined path. -/
theorem segments_intercalate (h : ∀ s ∈ names, s ≠ "" ∧ '/' ∉ s.toList) :
    segments ("/".intercalate names) = names := by
  rw [← segments_slash]
  exact segments_absolute h

/-- A name at the end is kept. -/
theorem withoutDots_concat (h : name ≠ "." ∧ name ≠ "..") :
    withoutDots (raw ++ [name]) = withoutDots raw ++ [name] := by
  rw [withoutDots, List.foldl_append, List.foldl_cons, List.foldl_nil, pushSegment, if_neg h.2,
    if_neg h.1, List.reverse_cons, withoutDots]

/-- A dot at the end is not. -/
theorem withoutDots_concat_dot (raw : List String) : withoutDots (raw ++ ["."]) = withoutDots raw := by
  rw [withoutDots, List.foldl_append]
  rfl

/-- A path that starts at the root stands for itself. -/
theorem rawSegments_of_root (root : path.toList.head? = some '/') (cwd : String) :
    rawSegments path cwd = segments path := by
  obtain ⟨rest, text⟩ := List.head?_eq_some_iff.mp root
  rw [rawSegments, text]
  rfl

/-- A tilde stands for the home directory. -/
theorem rawSegments_of_home {rest : List Char} (home : path.toList = '~' :: rest) (cwd : String) :
    rawSegments path cwd = homeDirectory ++ segments (String.ofList rest) := by
  rw [rawSegments, home]
  rfl

/-- A path that starts neither at the root nor at home is relative to the current directory. -/
theorem rawSegments_of_relative (notRoot : path.toList.head? ≠ some '/')
    (notHome : path.toList.head? ≠ some '~') :
    rawSegments path cwd = segments cwd ++ segments path := by
  rw [rawSegments]
  split
  · next h => simp [h] at notRoot
  · next h => simp [h] at notHome
  · rfl

/-- The first segment of a path that does not start at the root starts as the path does. What is
left of the path without that character has the same segments but for the first one, which lacks it
or is gone. -/
theorem exists_segments_cons {c : Char} {rest : List Char} (h : path.toList = c :: rest)
    (notSlash : c ≠ '/') :
    ∃ piece more, segments path = String.ofList (c :: piece) :: more ∧
      segments (String.ofList rest) = [String.ofList piece].filter (! ·.isEmpty) ++ more := by
  obtain ⟨piece, pieces, cut⟩ : ∃ piece pieces, Text.splitOn '/' rest = piece :: pieces :=
    List.exists_cons_of_ne_nil (Text.splitOn_ne_nil _ _)
  refine ⟨piece, (pieces.map String.ofList).filter (! ·.isEmpty), ?_, ?_⟩
  · rw [segments, Text.pieces, h, Text.splitOn, if_neg notSlash, cut, List.map_cons,
      List.filter_cons_of_pos (by simp)]
  · rw [segments, Text.pieces, String.toList_ofList, cut, List.map_cons, ← List.singleton_append,
      List.filter_append]

/-- A path starts as its first segment does. -/
theorem head?_intercalate {s : String} {ss : List String} {c : Char}
    (h : s.toList.head? = some c) : ("/".intercalate (s :: ss)).toList.head? = some c := by
  obtain ⟨rest, h⟩ := List.head?_eq_some_iff.mp h
  rw [String.toList_intercalate, List.map_cons, h]
  cases ss with
  | nil => simp
  | cons t ss => rw [List.map_cons, List.intercalate_cons_cons]; rfl

/-- The segments of a path that names an entry end with the name of the entry. -/
theorem segments_eq_concat (valid : isEntryName (baseName path) = true) :
    segments path = (segments path).dropLast ++ [baseName path] := by
  have nonempty := (isName_baseName valid).nonempty
  rw [baseName, List.getLastD_eq_getLast?] at nonempty ⊢
  cases last : (segments path).getLast? with
  | none => simp [last] at nonempty
  | some name => exact (List.dropLast_append_getLast? name last).symm

/-- All segments but the last are proper ones. -/
theorem inner_segments (path : String) :
    ∀ s ∈ (segments path).dropLast, s ≠ "" ∧ '/' ∉ s.toList :=
  fun _ hs => mem_segments (List.mem_of_mem_dropLast hs)

/-- The path around an absolute one. -/
theorem normalize_parentPath_of_absolute (root : path.toList.head? = some '/') (cwd : String) :
    normalize (parentPath path) cwd = withoutDots (segments path).dropLast := by
  obtain ⟨rest, h⟩ := List.head?_eq_some_iff.mp root
  have parent : parentPath path = absolute (segments path).dropLast := by
    rw [parentPath, h]
    rfl
  rw [parent, normalize, rawSegments, segments_absolute (inner_segments path), absolute,
    String.toList_append]
  rfl

/-- The path above a relative one. -/
theorem parentPath_of_relative (relative : path.toList.head? ≠ some '/') :
    parentPath path = if ("/".intercalate (segments path).dropLast).isEmpty then "."
      else "/".intercalate (segments path).dropLast := by
  rw [parentPath]
  split
  · next h => simp [h] at relative
  · rfl

/-- The segments around the last one, joined again, start like the path. -/
theorem head?_intercalate_inner (relative : path.toList.head? ≠ some '/') {s : String}
    {ss : List String} (inner : (segments path).dropLast = s :: ss) :
    ("/".intercalate (s :: ss)).toList.head? = path.toList.head? := by
  have nonempty : segments path ≠ [] := by
    intro none
    simp [none] at inner
  have whole := List.dropLast_append_getLast nonempty
  rw [inner] at whole
  obtain ⟨c, rest, h⟩ : ∃ c rest, path.toList = c :: rest := by
    refine List.exists_cons_of_ne_nil fun h => ?_
    simp [segments, Text.pieces, h, Text.splitOn] at nonempty
  have notSlash : c ≠ '/' := by simpa [h] using relative
  obtain ⟨piece, more, same, -⟩ := exists_segments_cons h notSlash
  obtain rfl : String.ofList (c :: piece) = s := (List.cons.inj (same.symm.trans whole.symm)).1
  rw [head?_intercalate (by rw [String.toList_ofList, List.head?_cons]), h, List.head?_cons]

/-- The path around a single segment is the current directory. -/
theorem normalize_parentPath_of_single (relative : path.toList.head? ≠ some '/')
    (single : (segments path).dropLast = []) (cwd : String) :
    normalize (parentPath path) cwd = withoutDots (segments cwd) := by
  have here : ("/".intercalate ([] : List String)).isEmpty = true := rfl
  rw [parentPath_of_relative relative, single, here, if_pos rfl, normalize,
    rawSegments_of_relative (by decide) (by decide)]
  exact withoutDots_concat_dot _

/-- The path around a relative one of several segments are these segments but for the last. -/
theorem parentPath_of_several (relative : path.toList.head? ≠ some '/')
    (several : (segments path).dropLast ≠ []) :
    (parentPath path).toList.head? = path.toList.head? ∧
      segments (parentPath path) = (segments path).dropLast := by
  obtain ⟨s, ss, inner⟩ := List.exists_cons_of_ne_nil several
  have front := head?_intercalate_inner relative inner
  have parts := inner_segments path
  have filled : ("/".intercalate (s :: ss)).isEmpty = false := by
    rw [String.isEmpty_eq_false_iff]
    intro empty
    rw [empty] at front
    simp [segments, Text.pieces, List.head?_eq_none_iff.mp front.symm, Text.splitOn] at inner
  have parent : parentPath path = "/".intercalate (s :: ss) := by
    rw [parentPath_of_relative relative, inner, filled, if_neg Bool.false_ne_true]
  rw [inner] at parts ⊢
  rw [parent]
  exact ⟨front, segments_intercalate parts⟩

/-- The path around a relative one is relative, too. -/
theorem normalize_parentPath_of_relative (relative : path.toList.head? ≠ some '/')
    (notHome : path.toList.head? ≠ some '~') (cwd : String) :
    normalize (parentPath path) cwd = withoutDots (segments cwd ++ (segments path).dropLast) := by
  by_cases single : (segments path).dropLast = []
  · rw [normalize_parentPath_of_single relative single, single, List.append_nil]
  · obtain ⟨front, parts⟩ := parentPath_of_several relative single
    rw [normalize, rawSegments_of_relative (front ▸ relative) (front ▸ notHome), parts]

/-- A path that names an entry, and does not start at home, leads to that entry of the directory to
which the path around it leads. -/
theorem normalize_eq_concat (notHome : path.toList.head? ≠ some '~')
    (valid : isEntryName (baseName path) = true) (cwd : String) :
    normalize path cwd = normalize (parentPath path) cwd ++ [baseName path] := by
  have plain : baseName path ≠ "." ∧ baseName path ≠ ".." :=
    ⟨(isName_baseName valid).notDot, (isName_baseName valid).notDotDot⟩
  have last (front : List String) : withoutDots (front ++ segments path) =
      withoutDots (front ++ (segments path).dropLast) ++ [baseName path] := by
    rw [← withoutDots_concat plain, List.append_assoc, ← segments_eq_concat valid]
  by_cases root : path.toList.head? = some '/'
  · have raw : rawSegments path cwd = [] ++ segments path := rawSegments_of_root root cwd
    rw [normalize, raw, last, normalize_parentPath_of_absolute root, List.nil_append]
  · rw [normalize, rawSegments_of_relative root notHome, last,
      normalize_parentPath_of_relative root notHome]

/-! ## Places -/

/-- There is always a path above. -/
theorem parentPath_ne_empty (path : String) : parentPath path ≠ "" := by
  rw [parentPath]
  split
  · intro empty
    have := congrArg String.toList empty
    simp at this
  · split
    · decide
    · next filled => simpa using filled

/-- Where a path leads is what its normal form leads to. -/
theorem resolve_node (h : path ≠ "") (cwd : String) (d : Directory) :
    (resolve path cwd d).node = d.get? (normalize path cwd) := by
  cases there : d.get? (normalize path cwd) with
  | none => rw [resolve_of_get?_none h there]
  | some node => rw [resolve_of_get?_some h there]

/-- A path that names an entry has a place in the directory around it, if that is there. -/
theorem locate_of_directory (valid : isEntryName (baseName path) = true)
    (there : d.get? (normalize (parentPath path) cwd) = some (.directory a entries)) :
    locate path cwd d = ⟨some ⟨normalize (parentPath path) cwd, ⟨a, entries⟩⟩, baseName path,
      Entries.lookup (baseName path) entries⟩ := by
  rw [locate, resolveParent, resolve_node (parentPath_ne_empty path), there]
  exact if_pos valid

/-- A path that does not name an entry of a directory that is there has no place. -/
theorem locate_eq_or (path cwd : String) (d : Directory) :
    locate path cwd d = ⟨none, baseName path, none⟩ ∨ isEntryName (baseName path) = true ∧
      ∃ a entries, d.get? (normalize (parentPath path) cwd) = some (.directory a entries) := by
  rw [locate, resolveParent, resolve_node (parentPath_ne_empty path)]
  split
  · next a entries there =>
    by_cases valid : isEntryName (baseName path) = true
    · exact .inr ⟨valid, a, entries, there⟩
    · exact .inl (if_neg valid)
  · exact .inl rfl

end Workbench.Tree
