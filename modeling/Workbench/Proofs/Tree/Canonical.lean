import Workbench.Proofs.Text.Scan
import Workbench.Proofs.Tree.Hereditary
import Workbench.Tree.Consistency

/-!
# Canonical paths and well-formed trees

A name can be a segment of a path exactly if taking a path apart and taking out its dots leaves it
as it is (`IsName`). The segments that `normalize` leaves are names, and the text of an absolute
path made of names is normalized to these names again. So a tree in which every node is stored under
its own name, and every key is a name, can be walked by the texts of its paths (`WellFormed`), and
`flaws` finds nothing in it.
-/

namespace Workbench.Tree

variable {path cwd s : String} {names raw keys : List String} {d : Directory} {node : Node}

/-- A text that stands for an entry of a directory wherever it is a segment of a path. -/
structure IsName (s : String) : Prop where
  nonempty : s ≠ ""
  notDot : s ≠ "."
  notDotDot : s ≠ ".."
  noSlash : '/' ∉ s.toList

/-! ## Taking paths apart -/

/-- The segments of a path are not empty and hold no slash. -/
theorem mem_segments (h : s ∈ segments path) : s ≠ "" ∧ '/' ∉ s.toList := by
  rw [segments, List.mem_filter] at h
  obtain ⟨held, full⟩ := h
  obtain ⟨piece, hpiece, rfl⟩ := List.mem_map.mp held
  refine ⟨by simpa using full, ?_⟩
  rw [String.toList_ofList]
  exact Text.not_mem_of_mem_splitOn hpiece

/-- The text of an absolute path has the segments of which it was made. -/
theorem segments_absolute (h : ∀ s ∈ names, s ≠ "" ∧ '/' ∉ s.toList) :
    segments (absolute names) = names := by
  have text : (absolute names).toList = '/' :: ['/'].intercalate (names.map String.toList) := by
    rw [absolute, String.toList_append, String.toList_intercalate]
    rfl
  rw [segments, Text.pieces, text, Text.splitOn_cons_self]
  cases names with
  | nil => rfl
  | cons name names =>
    have apart : ∀ piece ∈ (name :: names).map String.toList, '/' ∉ piece := by
      intro piece hpiece
      obtain ⟨s, hs, rfl⟩ := List.mem_map.mp hpiece
      exact (h s hs).2
    have whole : ∀ s ∈ name :: names, (!s.isEmpty) = true := by
      intro s hs
      simpa using (h s hs).1
    rw [Text.splitOn_intercalate apart (by simp), List.map_cons, List.map_map,
      List.filter_cons_of_neg (by simp)]
    simp only [Function.comp_def, String.ofList_toList, List.map_id']
    exact List.filter_eq_self.mpr whole

/-! ## Taking out dots -/

theorem mem_foldl_pushSegment {done : List String}
    (h : s ∈ raw.foldl pushSegment done) : s ∈ done ∨ s ∈ raw ∧ s ≠ "." ∧ s ≠ ".." := by
  induction raw generalizing done with
  | nil => exact .inl h
  | cons segment raw ih =>
    rcases ih h with before | ⟨later, plain⟩
    · rw [pushSegment] at before
      split at before
      · exact .inl (List.mem_of_mem_drop before)
      · split at before
        · exact .inl before
        · rcases List.mem_cons.mp before with rfl | old
          · exact .inr ⟨List.mem_cons_self, ‹_›, ‹_›⟩
          · exact .inl old
    · exact .inr ⟨List.mem_cons_of_mem _ later, plain⟩

/-- What is left are segments, and no dots. -/
theorem mem_withoutDots (h : s ∈ withoutDots raw) : s ∈ raw ∧ s ≠ "." ∧ s ≠ ".." := by
  rcases mem_foldl_pushSegment (List.mem_reverse.mp h) with none_there | pushed
  · cases none_there
  · exact pushed

/-- Segments that are names are all kept. -/
theorem foldl_pushSegment (h : ∀ s ∈ names, s ≠ "." ∧ s ≠ "..") (done : List String) :
    names.foldl pushSegment done = names.reverse ++ done := by
  induction names generalizing done with
  | nil => rfl
  | cons name names ih =>
    obtain ⟨single, double⟩ := h name List.mem_cons_self
    have pushed : pushSegment done name = name :: done := by
      rw [pushSegment, if_neg double, if_neg single]
    rw [List.foldl_cons, pushed, ih fun s hs => h s (List.mem_cons_of_mem _ hs)]
    simp

/-- Names without dots are left alone. -/
theorem withoutDots_eq_self (h : ∀ s ∈ names, s ≠ "." ∧ s ≠ "..") : withoutDots names = names := by
  rw [withoutDots, foldl_pushSegment h, List.append_nil, List.reverse_reverse]

/-! ## Normalized paths -/

/-- Segments are not empty and have no slash. -/
theorem mem_rawSegments (h : s ∈ rawSegments path cwd) : s ≠ "" ∧ '/' ∉ s.toList := by
  rw [rawSegments] at h
  split at h
  · exact mem_segments h
  · rcases List.mem_append.mp h with home | below
    · have named : ∀ n ∈ homeDirectory, n ≠ "" ∧ '/' ∉ n.toList := by decide +kernel
      exact named s home
    · exact mem_segments below
  · rcases List.mem_append.mp h with above | below
    · exact mem_segments above
    · exact mem_segments below

/-- Whatever a path expression is, the segments of the path for which it stands are names. -/
theorem isName_of_mem_normalize (h : s ∈ normalize path cwd) : IsName s := by
  obtain ⟨held, single, double⟩ := mem_withoutDots h
  obtain ⟨full, apart⟩ := mem_rawSegments held
  exact ⟨full, single, double, apart⟩

/-- The last segment of a path is a name, if it can be one of an entry. -/
theorem isName_baseName (h : isEntryName (baseName path) = true) : IsName (baseName path) := by
  simp only [isEntryName, Bool.and_eq_true, bne_iff_ne] at h
  obtain ⟨⟨full, single⟩, double⟩ := h
  refine ⟨full, single, double, ?_⟩
  rw [baseName, List.getLastD_eq_getLast?]
  cases hl : (segments path).getLast? with
  | none => simp
  | some last => exact (mem_segments (List.mem_of_getLast? hl)).2

/-- An absolute path made of names stands for itself, seen from anywhere. -/
theorem normalize_absolute (h : ∀ s ∈ names, IsName s) (cwd : String) :
    normalize (absolute names) cwd = names := by
  have front : rawSegments (absolute names) cwd = segments (absolute names) := by
    rw [rawSegments, absolute, String.toList_append]
    rfl
  rw [normalize, front, segments_absolute fun s hs => ⟨(h s hs).nonempty, (h s hs).noSlash⟩]
  exact withoutDots_eq_self fun s hs => ⟨(h s hs).notDot, (h s hs).notDotDot⟩

/-- A path is its own normal form: it is absolute, and a slash before each of its segments without
dots gives it back. -/
def IsCanonical (path : String) : Prop :=
  absolute (withoutDots (segments path)) = path

/-- An absolute path of names is canonical. -/
theorem isCanonical_absolute (h : ∀ s ∈ names, IsName s) : IsCanonical (absolute names) := by
  rw [IsCanonical, segments_absolute fun s hs => ⟨(h s hs).nonempty, (h s hs).noSlash⟩,
    withoutDots_eq_self fun s hs => ⟨(h s hs).notDot, (h s hs).notDotDot⟩]

/-! ## Walking -/

theorem absolute_ne_empty (names : List String) : absolute names ≠ "" := by
  intro same
  have := congrArg String.toList same
  simp [absolute] at this

/-- A walk that leads to a node ends at the normal form of the path. -/
theorem resolve_of_get?_some (given : path ≠ "")
    (found : d.get? (normalize path cwd) = some node) :
    resolve path cwd d = ⟨some node, absolute (normalize path cwd)⟩ := by
  rw [resolve, if_neg (by simpa using given)]
  dsimp only
  rw [found]

/-- A walk that leads to no node ends where the last node on the way stands. -/
theorem resolve_of_get?_none (given : path ≠ "") (missing : d.get? (normalize path cwd) = none) :
    resolve path cwd d = ⟨none, absolute (reachable d.node (normalize path cwd))⟩ := by
  rw [resolve, if_neg (by simpa using given)]
  dsimp only
  rw [missing]

/-- Walking along the text of the path of a node leads to the node, from anywhere, if all keys on
the path are names. -/
theorem resolve_absolute_of_isName (h : ∀ s ∈ names, IsName s) (found : d.get? names = some node)
    (cwd : String) : resolve (absolute names) cwd d = ⟨some node, absolute names⟩ := by
  have same := normalize_absolute h cwd
  rw [resolve_of_get?_some (absolute_ne_empty names) (same ▸ found), same]

/-! ## Well-formed trees -/

/-- A node stored under a key has the key for a name, and the key can be a segment of a path. -/
def Named (key : String) (a : Attributes) : Prop :=
  IsName key ∧ a.name = key

/-- Every node of a tree is stored under its own name, once, and that name can be a segment of a
path. -/
abbrev Directory.WellFormed (d : Directory) : Prop :=
  d.Fit Named

/-- The keys that lead to a node of a well-formed tree are names. -/
theorem isName_of_mem_of_get? (h : d.WellFormed) (found : d.get? names = some node)
    (hs : s ∈ names) : IsName s := by
  obtain ⟨a, entries⟩ := d
  rw [Directory.get?, Directory.node] at found
  rw [Directory.WellFormed, Directory.Fit] at h
  dsimp only at h found
  induction names generalizing a entries with
  | nil => cases hs
  | cons name names ih =>
    rw [Node.get?] at found
    cases hl : Entries.lookup name entries with
    | none =>
      rw [hl] at found
      cases found
    | some child =>
      have held := Entries.mem_of_lookup hl
      rw [hl] at found
      rcases List.mem_cons.mp hs with rfl | later
      · exact (h.suits held).1
      · cases child with
        | file b content =>
          obtain ⟨n, ns, rfl⟩ := List.exists_cons_of_ne_nil (List.ne_nil_of_mem later)
          cases found
        | directory b inner => exact ih later b inner (h.beneath held).inside found

/-- Walking along the text of the path of a node leads to the node, from anywhere. -/
theorem resolve_absolute (h : d.WellFormed) (found : d.get? names = some node) (cwd : String) :
    resolve (absolute names) cwd d = ⟨some node, absolute names⟩ :=
  resolve_absolute_of_isName (fun _ hs => isName_of_mem_of_get? h found hs) found cwd

/-! ### Flaws -/

/-- A directory has no flaws if none of its entries has one. -/
theorem flawsOfEntries_eq_nil_iff {entries : Branch} {parent : String} :
    flawsOfEntries parent entries = [] ↔ ∀ key node, (key, node) ∈ entries →
      entryFlaws parent key node = [] ∧ node.flaws (childPath parent key) = [] := by
  induction entries with
  | nil => simp [flawsOfEntries]
  | cons entry entries ih =>
    obtain ⟨k, n⟩ := entry
    rw [flawsOfEntries, List.append_eq_nil_iff, List.append_eq_nil_iff, ih]
    constructor
    · rintro ⟨first, later⟩ key node held
      rcases List.mem_cons.mp held with same | old
      · obtain ⟨rfl, rfl⟩ := Prod.mk.inj same
        exact first
      · exact later key node old
    · intro all
      exact ⟨all k n List.mem_cons_self, fun key node held =>
        all key node (List.mem_cons_of_mem _ held)⟩

/-- An entry without flaws has its key for a name, and the key is neither empty nor holds a slash.
A single or double dot is no flaw, though no path leads to such an entry. -/
def Flawless (key : String) (a : Attributes) : Prop :=
  key ≠ "" ∧ '/' ∉ key.toList ∧ a.name = key

/-- What it takes for an entry to have none of its own. -/
theorem entryFlaws_eq_nil_iff {key parent : String} :
    entryFlaws parent key node = [] ↔ Flawless key node.attributes := by
  have plain : isPlainName key = true ↔ key ≠ "" ∧ '/' ∉ key.toList := by
    simp [isPlainName]
  rw [entryFlaws, List.append_eq_nil_iff, Flawless, ← and_assoc, ← plain, Node.name]
  refine and_congr ?_ ?_ <;> split <;> simp_all

/-- A tree in which every entry is flawless has no flaws. -/
theorem Fit.flawsOfEntries_eq_nil {entries : Branch} (h : Fit Flawless entries) (parent : String) :
    flawsOfEntries parent entries = [] := by
  induction h generalizing parent with
  | intro distinct suits below ih =>
    refine flawsOfEntries_eq_nil_iff.mpr fun key node held => ?_
    refine ⟨entryFlaws_eq_nil_iff.mpr (suits key node held), ?_⟩
    cases node with
    | file a content => rfl
    | directory a inner => exact ih key a inner held _

/-- A tree in which everything fits has no flaws. -/
theorem Directory.Fit.flaws_eq_nil (h : d.Fit Flawless) (root : String) : d.node.flaws root = [] := by
  rw [Directory.node, Node.flaws]
  exact h.flawsOfEntries_eq_nil root

/-- So a well-formed tree has none. -/
theorem Directory.WellFormed.flaws_eq_nil (h : d.WellFormed) (root : String) :
    d.node.flaws root = [] :=
  Directory.Fit.flaws_eq_nil (h.mono fun _ _ ⟨valid, same⟩ => ⟨valid.nonempty, valid.noSlash, same⟩)
    root

/-- Every key on the way to a node of a tree without flaws is flawless. -/
theorem flawless_of_mem_of_get? {start : Node} {root : String} (h : start.flaws root = [])
    (found : start.get? names = some node) (hs : s ∈ names) : s ≠ "" ∧ '/' ∉ s.toList := by
  induction names generalizing start root with
  | nil => cases hs
  | cons name names ih =>
    cases start with
    | file a content => cases found
    | directory a entries =>
      rw [Node.get?] at found
      rw [Node.flaws] at h
      cases hl : Entries.lookup name entries with
      | none =>
        rw [hl] at found
        cases found
      | some child =>
        rw [hl] at found
        obtain ⟨here, below⟩ := flawsOfEntries_eq_nil_iff.mp h name child (Entries.mem_of_lookup hl)
        rcases List.mem_cons.mp hs with rfl | later
        · obtain ⟨full, apart, -⟩ := entryFlaws_eq_nil_iff.mp here
          exact ⟨full, apart⟩
        · exact ih below found later

end Workbench.Tree
