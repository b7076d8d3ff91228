import Workbench.Proofs.Tree.Changes
import Workbench.Proofs.Tree.Locations

/-!
# What is written at a path and what is read there

Commands write where `locate` finds the place of an entry, and read where `resolve` leads. The one
goes by the directory around the path and the last segment, the other by the normal form of the
whole path. They mean the same entry (`Addresses`) unless the path is a single segment that starts
with a tilde: that is the name of an entry of the current directory for `locate`, and the home
directory or an entry of it for `resolve`, so that nothing that is written there is read under the
same path.
-/

namespace Workbench.Tree

/-- The path is one segment, and the segment starts with a tilde. -/
structure LoneTilde (path : String) : Prop where
  home : path.toList.head? = some '~'
  single : (segments path).length = 1

/-- What is written at a path is what the path leads to. -/
structure Addresses (path cwd : String) (d : Directory) : Prop where
  /-- At the place of the path stands what the path leads to. -/
  held : ∀ place, (locate path cwd d).parent = some place →
    (locate path cwd d).node = (resolve path cwd d).node
  /-- A file that is stored in that place is what the path leads to from then on. -/
  stored : ∀ place, (locate path cwd d).parent = some place → ∀ a content,
    (resolve path cwd (d.changeAt place.path
      (Entries.store (locate path cwd d).name (.file a content)))).node = some (.file a content)
  /-- What the path leads to, by a name and below the root, has a place in the directory that holds
  it. -/
  found : ∀ node, (resolve path cwd d).node = some node → normalize path cwd ≠ [] →
    baseName path ≠ "." → baseName path ≠ ".." →
      (locate path cwd d).node = some node ∧
      ∃ place, (locate path cwd d).parent = some place ∧
        d.get? place.path = some place.directory.node ∧
        Entries.lookup (locate path cwd d).name place.directory.entries = some node

variable {path cwd : String} {d : Directory} {a : Attributes} {entries : Branch} {node : Node}

/-! ## Names at home -/

/-- A path at home of several segments leads to the entry with its last segment for a name of the
directory to which the path around it leads. -/
theorem rawSegments_of_several (home : path.toList.head? = some '~')
    (several : (segments path).dropLast ≠ []) (cwd : String) :
    rawSegments path cwd = rawSegments (parentPath path) cwd ++ [baseName path] := by
  have relative : path.toList.head? ≠ some '/' := by simp [home]
  obtain ⟨rest, text⟩ := List.head?_eq_some_iff.mp home
  obtain ⟨front, inner⟩ := parentPath_of_several relative several
  obtain ⟨around, text'⟩ := List.head?_eq_some_iff.mp (front.trans home)
  obtain ⟨piece, more, whole, below⟩ := exists_segments_cons text (by decide)
  obtain ⟨piece', more', whole', below'⟩ := exists_segments_cons text' (by decide)
  have filled : more ≠ [] := by
    rintro rfl
    simp [whole] at several
  -- the path around it has the same first segment, and the others but for the last
  rw [inner, whole, List.dropLast_cons_of_ne_nil filled, List.cons.injEq, String.ofList_inj,
    List.cons.injEq] at whole'
  obtain ⟨⟨-, rfl⟩, rfl⟩ := whole'
  have last : baseName path = more.getLast filled := by
    rw [baseName, whole, List.getLastD_eq_getLast?, List.getLast?_cons_of_ne_nil filled,
      List.getLast?_eq_some_getLast filled, Option.getD_some]
  rw [rawSegments_of_home text, rawSegments_of_home text', below, below', last, List.append_assoc,
    List.append_assoc, List.dropLast_append_getLast]

/-- Unless it is a single segment with a tilde, a path that names an entry leads to that entry of
the directory to which the path around it leads. -/
theorem normalize_eq_concat_of_not_loneTilde (several : ¬ LoneTilde path)
    (valid : isEntryName (baseName path) = true) (cwd : String) :
    normalize path cwd = normalize (parentPath path) cwd ++ [baseName path] := by
  by_cases home : path.toList.head? = some '~'
  · have inner : (segments path).dropLast ≠ [] := by
      intro single
      refine several ⟨home, ?_⟩
      rw [segments_eq_concat valid, single]
      rfl
    have named := isName_baseName valid
    rw [normalize, normalize, rawSegments_of_several home inner,
      withoutDots_concat ⟨named.notDot, named.notDotDot⟩]
  · exact normalize_eq_concat home valid cwd

namespace LoneTilde

/-- Such a path is one segment, and leads home without its tilde. -/
theorem exists_segments (h : LoneTilde path) : ∃ rest piece, path.toList = '~' :: rest ∧
    segments path = [String.ofList ('~' :: piece)] ∧
    segments (String.ofList rest) = [String.ofList piece].filter (! ·.isEmpty) := by
  obtain ⟨rest, text⟩ := List.head?_eq_some_iff.mp h.home
  obtain ⟨piece, more, whole, below⟩ := exists_segments_cons text (by decide)
  have single := h.single
  rw [whole, List.length_cons, Nat.add_eq_right, List.length_eq_zero_iff] at single
  subst single
  exact ⟨rest, piece, text, whole, by rw [below, List.append_nil]⟩

theorem isEntryName_baseName (h : LoneTilde path) : isEntryName (baseName path) = true := by
  obtain ⟨rest, piece, -, whole, -⟩ := h.exists_segments
  have starts : (baseName path).toList.head? = some '~' := by
    rw [baseName, whole]
    simp
  simp only [isEntryName, Bool.and_eq_true, bne_iff_ne]
  refine ⟨⟨?_, ?_⟩, ?_⟩ <;>
    · intro same
      rw [same] at starts
      exact absurd starts (by decide)

/-- The place of a single segment with a tilde is in the current directory. -/
theorem normalize_parentPath (h : LoneTilde path) (cwd : String) :
    normalize (parentPath path) cwd = withoutDots (segments cwd) := by
  obtain ⟨rest, piece, -, whole, -⟩ := h.exists_segments
  exact normalize_parentPath_of_single (by simp [h.home]) (by rw [whole]; rfl) cwd

/-- The way to which the path leads starts at the root, with the home directory. -/
theorem home_mem_normalize (h : LoneTilde path) (cwd : String) : "home" ∈ normalize path cwd := by
  obtain ⟨rest, piece, text, -, below⟩ := h.exists_segments
  rw [normalize, rawSegments_of_home text, below]
  by_cases bare : (String.ofList piece).isEmpty = true
  · rw [List.filter_cons_of_neg (by simp [bare])]
    decide
  · rw [List.filter_cons_of_pos (by simpa using bare), List.filter_nil, withoutDots,
      List.foldl_append, List.foldl_cons, List.foldl_nil]
    generalize String.ofList piece = segment
    rw [pushSegment]
    split
    · decide
    · split
      · decide
      · simp [homeDirectory, pushSegment]

/-- No segment on the way to which the path leads has the tilde. -/
theorem baseName_not_mem_normalize (h : LoneTilde path) (cwd : String) :
    baseName path ∉ normalize path cwd := by
  obtain ⟨rest, piece, text, whole, below⟩ := h.exists_segments
  have base : (baseName path).toList = '~' :: piece := by
    rw [baseName, whole]
    simp
  intro held
  obtain ⟨raw, -⟩ := mem_withoutDots held
  rw [rawSegments_of_home text, below, List.mem_append] at raw
  rcases raw with home | entry
  · have plain : ∀ s ∈ homeDirectory, s.toList.head? ≠ some '~' := by decide +kernel
    exact plain _ home (by rw [base]; rfl)
  · have same := List.mem_singleton.mp (List.mem_of_mem_filter entry)
    rw [same, String.toList_ofList] at base
    have := congrArg List.length base
    simp at this

/-- It is located in the current directory all the same. -/
theorem locate_eq (h : LoneTilde path)
    (there : d.get? (withoutDots (segments cwd)) = some (.directory a entries)) :
    locate path cwd d = ⟨some ⟨withoutDots (segments cwd), ⟨a, entries⟩⟩, baseName path,
      Entries.lookup (baseName path) entries⟩ := by
  rw [← h.normalize_parentPath cwd] at there ⊢
  exact locate_of_directory h.isEntryName_baseName there

end LoneTilde

/-! ## Agreement -/

/-- A path that leads below the root, and does not end in dots, names an entry. -/
theorem isEntryName_baseName_of_normalize (given : path ≠ "") (below : normalize path cwd ≠ [])
    (single : baseName path ≠ ".") (double : baseName path ≠ "..") :
    isEntryName (baseName path) = true := by
  have filled : baseName path ≠ "" := by
    intro empty
    -- there is no segment, so the path is made of slashes
    have bare : segments path = [] := by
      by_contra some_there
      rw [baseName, List.getLastD_eq_getLast?, List.getLast?_eq_some_getLast some_there] at empty
      exact (mem_segments (List.getLast_mem some_there)).1 empty
    obtain ⟨c, rest, text⟩ : ∃ c rest, path.toList = c :: rest :=
      List.exists_cons_of_ne_nil (by simpa using given)
    by_cases root : c = '/'
    · refine below ?_
      rw [normalize, rawSegments_of_root (by simp [text, root]), bare]
      rfl
    · obtain ⟨piece, more, whole, -⟩ := exists_segments_cons text root
      rw [bare] at whole
      cases whole
  simp [isEntryName, filled, single, double]

/-- Every other path is located where it leads to. -/
theorem addresses_of_not_loneTilde (several : ¬ LoneTilde path) (cwd : String) (d : Directory) :
    Addresses path cwd d := by
  have given (valid : isEntryName (baseName path) = true) : path ≠ "" := by
    rintro rfl
    exact absurd valid (by decide)
  -- a place that is found is that of the entry at the normal form of the path
  have located : ∀ place, (locate path cwd d).parent = some place →
      isEntryName (baseName path) = true ∧ ∃ a entries,
        d.get? (normalize (parentPath path) cwd) = some (.directory a entries) ∧
        locate path cwd d = ⟨some ⟨normalize (parentPath path) cwd, ⟨a, entries⟩⟩, baseName path,
          Entries.lookup (baseName path) entries⟩ := by
    intro place somewhere
    rcases locate_eq_or path cwd d with nowhere | ⟨valid, a, entries, there⟩
    · rw [nowhere] at somewhere
      cases somewhere
    · exact ⟨valid, a, entries, there, locate_of_directory valid there⟩
  refine ⟨fun place somewhere => ?held, fun place somewhere a' content => ?stored,
    fun node there below single double => ?found⟩
  case held =>
    obtain ⟨valid, a, entries, there, found⟩ := located place somewhere
    rw [resolve_node (given valid), normalize_eq_concat_of_not_loneTilde several valid,
      Directory.get?_concat, there, found]
    rfl
  case stored =>
    obtain ⟨valid, a, entries, there, found⟩ := located place somewhere
    rw [found] at somewhere ⊢
    obtain rfl := Option.some.inj somewhere
    rw [resolve_node (given valid), normalize_eq_concat_of_not_loneTilde several valid]
    exact get?_store there _
  case found =>
    have given : path ≠ "" := by
      rintro rfl
      cases there
    have valid := isEntryName_baseName_of_normalize given below single double
    rw [resolve_node given, normalize_eq_concat_of_not_loneTilde several valid] at there
    obtain ⟨a, entries, around, held⟩ := Directory.exists_of_get?_concat there
    rw [locate_of_directory valid around]
    exact ⟨held, _, rfl, around, held⟩

/-- What is stored under the tilde in the current directory is not read under the same path. -/
theorem LoneTilde.not_addresses (h : LoneTilde path)
    (there : d.get? (withoutDots (segments cwd)) = some (.directory a entries)) :
    ¬ Addresses path cwd d := by
  intro addresses
  have located := h.locate_eq there
  have apart : ¬ withoutDots (segments cwd) ++ [baseName path] <+: normalize path cwd := fun on =>
    h.baseName_not_mem_normalize cwd (on.subset (by simp))
  have given : path ≠ "" := by
    rintro rfl
    exact absurd h.home (by decide)
  -- whatever the file holds, the same item is found in the old tree
  have same (content : String) :
      d.itemAt? (normalize path cwd) = some (.file ⟨"", "", .ofFile⟩ content) := by
    have read := addresses.stored ⟨withoutDots (segments cwd), ⟨a, entries⟩⟩ (by rw [located])
      ⟨"", "", .ofFile⟩ content
    rw [located, resolve_node given] at read
    rw [← itemAt?_store_beside there (.file ⟨"", "", .ofFile⟩ content) apart, Directory.itemAt?,
      Node.itemAt?, ← Directory.get?, read]
    rfl
  have contents := (same "").symm.trans (same "x")
  simp at contents

/-- **Where a command writes is where a path reads**, but for one kind of path. If the path is not a
single segment with a tilde, what is written at it is what it leads to. If it is, this holds only
where there is nothing to be found: the path leads to no node, and the current directory is not
there. If the current directory is there, the place of such a path is in it, under the segment with
the tilde, while the way to which the path leads has no such segment. -/
theorem addresses_iff (path cwd : String) (d : Directory) :
    (Addresses path cwd d ↔ (LoneTilde path →
      (resolve path cwd d).node = none ∧
      ∀ a entries, d.get? (withoutDots (segments cwd)) ≠ some (.directory a entries))) ∧
    (LoneTilde path →
      (∀ a entries, d.get? (withoutDots (segments cwd)) = some (.directory a entries) →
        locate path cwd d = ⟨some ⟨withoutDots (segments cwd), ⟨a, entries⟩⟩, baseName path,
          Entries.lookup (baseName path) entries⟩) ∧
      baseName path ∉ normalize path cwd) := by
  refine ⟨⟨fun addresses lone => ?_, fun h => ?_⟩, fun lone =>
    ⟨fun a entries there => lone.locate_eq there, lone.baseName_not_mem_normalize cwd⟩⟩
  · have missing : ∀ a entries,
        d.get? (withoutDots (segments cwd)) ≠ some (.directory a entries) :=
      fun a entries there => lone.not_addresses there addresses
    refine ⟨Option.eq_none_iff_forall_ne_some.mpr fun node found => ?_, missing⟩
    have valid := isName_baseName lone.isEntryName_baseName
    obtain ⟨-, place, somewhere, -⟩ := addresses.found node found
      (List.ne_nil_of_mem (lone.home_mem_normalize cwd)) valid.notDot valid.notDotDot
    rcases locate_eq_or path cwd d with nowhere | ⟨-, a, entries, there⟩
    · rw [nowhere] at somewhere
      cases somewhere
    · exact missing a entries (lone.normalize_parentPath cwd ▸ there)
  · by_cases lone : LoneTilde path
    · obtain ⟨unread, missing⟩ := h lone
      have nowhere : (locate path cwd d).parent = none := by
        rcases locate_eq_or path cwd d with nowhere | ⟨-, a, entries, there⟩
        · rw [nowhere]
        · exact absurd (lone.normalize_parentPath cwd ▸ there) (missing a entries)
      refine ⟨fun place somewhere => ?_, fun place somewhere => ?_, fun node found => ?_⟩
      · rw [nowhere] at somewhere
        cases somewhere
      · rw [nowhere] at somewhere
        cases somewhere
      · rw [unread] at found
        cases found
    · exact addresses_of_not_loneTilde lone cwd d

/-- A name behind a tilde, in the home directory: what is written is stored under the name with the
tilde, and the path leads to the name without it. With a slash behind the tilde both are the
same. -/
theorem addresses_iff_name_behind_tilde :
    let d := Directory.initial "user"
    ¬ Addresses "~notes" "/home/user" d ∧
      (locate "~notes" "/home/user" d).parent.map (·.path) = some ["home", "user"] ∧
      (locate "~notes" "/home/user" d).name = "~notes" ∧
      normalize "~notes" "/home/user" = ["home", "user", "notes"] ∧
      Addresses "~/notes" "/home/user" d := by
  intro d
  have lone : LoneTilde "~notes" := ⟨by decide +kernel, by decide +kernel⟩
  obtain ⟨agrees, differs⟩ := addresses_iff "~notes" "/home/user" d
  obtain ⟨located, -⟩ := differs lone
  have there : d.get? (withoutDots (segments "/home/user")) = some (.directory
      ⟨"user", "user", .ofDirectory⟩ [("projects", .newDirectory "projects" "user")]) := by rfl
  refine ⟨fun addresses => (agrees.mp addresses lone).2 _ _ there, ?_, ?_, by decide +kernel, ?_⟩
  · rw [located _ _ there]
    decide +kernel
  · rw [located _ _ there]
    decide +kernel
  · refine (addresses_iff "~/notes" "/home/user" d).1.mpr fun slashed => ?_
    exact absurd slashed.single (by decide +kernel)

end Workbench.Tree
