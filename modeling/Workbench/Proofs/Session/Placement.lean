import Workbench.Session
import Workbench.Proofs.Tree.Items
import Mathlib.Data.List.Infix

/-!
# Placing files in a tree

`withDirectory` changes the entries of one directory and makes the directories that are missing on
the way to it. It fails exactly if a file stands on that way or the change itself fails, and
otherwise every item that is not below the directory stays what it is (`Refills`). A project file
is placed by such a change: its item is a file, and no other item is lost or replaced.
-/

namespace Workbench.Session

open Workbench.Tree (Node Branch Item itemIn entriesAt)
open Project (File)

/-- A file stands at a path or above it. -/
def Blocked (path : List String) (entries : Branch) : Prop :=
  ∃ p a content, p <+: path ∧ itemIn p entries = some (.file a content)

/-- The directory that stands at `q` because everything on the way to `path`, and `path` itself, is
made a directory. -/
def missingDirectory (owner : String) (path q : List String) : Option Item :=
  if q ≠ [] ∧ q <+: path then some (.directory ⟨q.getLastD "", owner, .ofDirectory⟩) else none

/-- `after` is `before` with a directory at `path` that has the items of `inner`, and with the
directories that lead to it. -/
structure Refills (owner : String) (path : List String) (inner before after : Branch) : Prop where
  below : ∀ q ≠ [], itemIn (path ++ q) after = itemIn q inner
  beside : ∀ q, ¬ (path <+: q ∧ q ≠ path) →
    itemIn q after = (itemIn q before).or (missingDirectory owner path q)

section Directories

variable {owner name : String} {a : Tree.Attributes} {path q : List String}
variable {entries inner before after old new : Branch} {change : Branch → Option Branch}

/-- Directories are only missing above a file. -/
theorem missingDirectory_of_not_prefix (h : ¬ q <+: path) :
    missingDirectory owner path q = none :=
  if_neg fun ⟨_, hq⟩ => h hq

/-- What is missing further inside. -/
theorem missingDirectory_cons (hq : q ≠ []) :
    missingDirectory owner (name :: path) (name :: q) = missingDirectory owner path q := by
  obtain ⟨n, ns, rfl⟩ := List.exists_cons_of_ne_nil hq
  simp [missingDirectory, List.cons_prefix_cons]

/-! ### What stands on the way -/

/-- Nothing is in the way of the place itself. -/
theorem not_blocked_nil (entries : Branch) : ¬ Blocked [] entries := by
  rintro ⟨p, a, content, hp, h⟩
  rw [List.prefix_nil.mp hp] at h
  cases h

/-- Nothing is in the way where nothing is. -/
theorem not_blocked_of_lookup_none (h : Entries.lookup name entries = none) :
    ¬ Blocked (name :: path) entries := by
  rintro ⟨p, a, content, hp, hitem⟩
  rcases List.prefix_cons_iff.mp hp with rfl | ⟨p, rfl, -⟩
  · cases hitem
  · rw [Tree.itemIn_of_lookup_none h] at hitem
    cases hitem

/-- A file is in the way. -/
theorem blocked_of_lookup_file {content : String}
    (h : Entries.lookup name entries = some (.file a content)) : Blocked (name :: path) entries :=
  ⟨[name], a, content, ⟨path, rfl⟩, Tree.itemIn_of_lookup_some h []⟩

/-- A directory is not; what is in it may be. -/
theorem blocked_cons_iff (h : Entries.lookup name entries = some (.directory a inner)) :
    Blocked (name :: path) entries ↔ Blocked path inner := by
  constructor
  · rintro ⟨p, b, content, hp, hitem⟩
    rcases List.prefix_cons_iff.mp hp with rfl | ⟨p, rfl, inside⟩
    · cases hitem
    · rw [Tree.itemIn_of_lookup_some h] at hitem
      cases p with
      | nil => cases hitem
      | cons n ns =>
        rw [Tree.Node.itemAt?_directory_cons] at hitem
        exact ⟨n :: ns, b, content, inside, hitem⟩
  · rintro ⟨p, b, content, hp, hitem⟩
    cases p with
    | nil => cases hitem
    | cons n ns =>
      refine ⟨name :: n :: ns, b, content, List.cons_prefix_cons.mpr ⟨rfl, hp⟩, ?_⟩
      rw [Tree.itemIn_of_lookup_some h, Tree.Node.itemAt?_directory_cons]
      exact hitem

/-- Changing a directory fails exactly if a file stands on the way to it or the change fails. -/
theorem withDirectory_eq_none_iff :
    withDirectory owner change path entries = none ↔
      Blocked path entries ∨ change (entriesAt path entries) = none := by
  induction path generalizing entries with
  | nil => simp [withDirectory, entriesAt, not_blocked_nil]
  | cons name path ih =>
    rw [withDirectory, entriesAt]
    cases h : Entries.lookup name entries with
    | none =>
      have clear : ¬ Blocked path [] := by
        rintro ⟨p, a, content, -, hitem⟩
        rw [Tree.itemIn_nil_right] at hitem
        cases hitem
      simp [ih, clear, not_blocked_of_lookup_none h]
    | some node =>
      cases node with
      | file a content => simp [blocked_of_lookup_file h]
      | directory a inner => simp [ih, blocked_cons_iff h]

/-! ### What the change leaves -/

/-- A refilled directory is also refilled as a part of the directory around it, whether that was
there before or is new. -/
theorem Refills.cons (refills : Refills owner path inner old new)
    (held : Entries.lookup name before = some (.directory a old) ∨
      Entries.lookup name before = none ∧ old = [] ∧ a = ⟨name, owner, .ofDirectory⟩) :
    Refills owner (name :: path) inner before
      (Entries.store name (.directory a new) before) where
  below q hq := by
    obtain ⟨n, ns, more⟩ : ∃ n ns, path ++ q = n :: ns :=
      List.exists_cons_of_ne_nil (by simp [hq])
    rw [List.cons_append, Tree.itemIn_store_self, more, Tree.Node.itemAt?_directory_cons, ← more]
    exact refills.below q hq
  beside q hq := by
    cases q with
    | nil => rfl
    | cons other q =>
      by_cases same : other = name
      · subst same
        rw [Tree.itemIn_store_self]
        cases q with
        | nil =>
          -- the directory under the name itself: the one that was there, or the new one
          rcases held with h | ⟨h, rfl, rfl⟩
          · rw [Tree.itemIn_of_lookup_some h]
            rfl
          · rw [Tree.itemIn_of_lookup_none h]
            simp [missingDirectory, Node.item, List.cons_prefix_cons]
        | cons n ns =>
          have inside : ¬ (path <+: n :: ns ∧ n :: ns ≠ path) := fun ⟨hp, hne⟩ =>
            hq ⟨List.cons_prefix_cons.mpr ⟨rfl, hp⟩, fun h => hne (List.cons.inj h).2⟩
          have kept : itemIn (other :: n :: ns) before = itemIn (n :: ns) old := by
            rcases held with h | ⟨h, rfl, -⟩
            · rw [Tree.itemIn_of_lookup_some h, Tree.Node.itemAt?_directory_cons]
            · rw [Tree.itemIn_of_lookup_none h, Tree.itemIn_nil_right]
          rw [Tree.Node.itemAt?_directory_cons, refills.beside _ inside, kept,
            missingDirectory_cons (List.cons_ne_nil n ns)]
      · have apart : ¬ other :: q <+: name :: path := fun h =>
          same (List.cons_prefix_cons.mp h).1
        rw [Tree.itemIn_store_of_ne _ _ _ same, missingDirectory_of_not_prefix apart,
          Option.or_none]

/-- What a directory holds after a change is what the change makes of its entries, and nothing is
changed elsewhere. -/
theorem withDirectory_refills (h : withDirectory owner change path before = some after) :
    ∃ inner, change (entriesAt path before) = some inner ∧
      Refills owner path inner before after := by
  induction path generalizing before after with
  | nil =>
    refine ⟨after, h, fun q _ => rfl, fun q hq => ?_⟩
    have : q = [] := Classical.byContradiction fun hne => hq ⟨List.nil_prefix, hne⟩
    subst this
    rfl
  | cons name path ih =>
    rw [withDirectory] at h
    rw [entriesAt]
    cases hl : Entries.lookup name before with
    | none =>
      rw [hl] at h
      obtain ⟨new, hnew, rfl⟩ := Option.map_eq_some_iff.mp h
      obtain ⟨inner, hchange, refills⟩ := ih hnew
      rw [Tree.entriesAt_nil_right] at hchange
      exact ⟨inner, hchange, refills.cons (.inr ⟨hl, rfl, rfl⟩)⟩
    | some node =>
      rw [hl] at h
      cases node with
      | file a content => cases h
      | directory a old =>
        obtain ⟨new, hnew, rfl⟩ := Option.map_eq_some_iff.mp h
        obtain ⟨inner, hchange, refills⟩ := ih hnew
        exact ⟨inner, hchange, refills.cons (.inl hl)⟩

end Directories

/-! ## Project files -/

section Files

variable {owner : String} {before after entries : Branch} {file : File}

/-- The segments of the name of a project file. -/
abbrev filePath (file : File) : List String :=
  Tree.segments file.name

theorem dropLast_append_getLastD {path : List String} (h : path ≠ []) :
    path.dropLast ++ [path.getLastD ""] = path := by
  rw [List.getLastD_eq_getLast?, List.getLast?_eq_some_getLast h]
  exact List.dropLast_append_getLast h

/-- What a path must be for a file to be there. -/
theorem areFileSegments_iff {segments : List String} :
    areFileSegments segments = true ↔ segments ≠ [] ∧ "." ∉ segments ∧ ".." ∉ segments := by
  simp only [areFileSegments, Bool.and_eq_true, Bool.not_eq_true', List.isEmpty_eq_false_iff,
    List.all_eq_true, bne_iff_ne]
  refine and_congr_right fun _ => ⟨fun h => ?_, fun ⟨h₁, h₂⟩ s hs => ?_⟩
  · exact ⟨fun hs => (h _ hs).1 rfl, fun hs => (h _ hs).2 rfl⟩
  · exact ⟨fun heq => h₁ (heq ▸ hs), fun heq => h₂ (heq ▸ hs)⟩

/-- Only a directory is in the way of a file itself. -/
theorem putFile_eq_none_iff {name content : String} :
    putFile owner name content entries = none ↔
      ∃ a, itemIn [name] entries = some (.directory a) := by
  rw [putFile]
  cases h : Entries.lookup name entries with
  | none => simp [Tree.itemIn_of_lookup_none h]
  | some node =>
    rw [Tree.itemIn_of_lookup_some h]
    cases node <;> simp [Node.item]

/-- The file that is put is the item under its name, and no other item changes. -/
theorem putFile_items {name content : String} {q : List String}
    (h : putFile owner name content before = some after) (hq : q ≠ []) :
    itemIn q after =
      if q = [name] then some (.file ⟨name, owner, .ofFile⟩ content) else itemIn q before := by
  have stored : after = Entries.store name (.newFile name owner content) before := by
    rw [putFile] at h
    split at h
    · cases h
    · exact (Option.some.inj h).symm
  obtain ⟨other, q, rfl⟩ := List.exists_cons_of_ne_nil hq
  by_cases same : other = name
  · subst same
    rw [stored, Tree.itemIn_store_self]
    cases q with
    | nil => simp [Node.newFile, Node.item]
    | cons n ns =>
      -- below the name there is nothing: neither below the file nor before it was put
      have bare : itemIn (other :: n :: ns) before = none := by
        cases hl : Entries.lookup other before with
        | none => exact Tree.itemIn_of_lookup_none hl _
        | some node =>
          cases node with
          | file a content => exact Tree.itemIn_of_lookup_some hl _
          | directory a inner =>
            rw [putFile, hl] at h
            cases h
      rw [bare, if_neg (by simp)]
      rfl
  · rw [stored, Tree.itemIn_store_of_ne _ _ _ same,
      if_neg fun h => same (List.cons.inj h).1]

/-- A project file cannot be placed exactly if its name does not do, a file stands on the way, or a
directory has its path. -/
theorem placeFile_eq_none_iff :
    placeFile owner entries file = none ↔ areFileSegments (filePath file) = false ∨
      Blocked (filePath file).dropLast entries ∨
      ∃ a, itemIn (filePath file) entries = some (.directory a) := by
  rw [placeFile]
  by_cases hs : areFileSegments (filePath file) = true
  · obtain ⟨hne, -, -⟩ := areFileSegments_iff.mp hs
    rw [if_pos hs, withDirectory_eq_none_iff, putFile_eq_none_iff,
      ← Tree.itemIn_append _ (List.cons_ne_nil _ _), dropLast_append_getLastD hne]
    simp [hs]
  · rw [if_neg hs]
    simp [hs]

/-- A file that is placed is the item at its path. Every other item stays, and directories are made
only on the way to the file. -/
theorem placeFile_items (h : placeFile owner before file = some after) (q : List String) :
    itemIn q after =
      if q = filePath file then
        some (.file ⟨(filePath file).getLastD "", owner, .ofFile⟩ file.content)
      else (itemIn q before).or (missingDirectory owner (filePath file).dropLast q) := by
  rw [placeFile] at h
  split at h
  case isFalse => cases h
  case isTrue hs =>
  obtain ⟨hne, -, -⟩ := areFileSegments_iff.mp hs
  obtain ⟨inner, hput, refills⟩ := withDirectory_refills h
  have whole : (filePath file).dropLast ++ [(filePath file).getLastD ""] = filePath file :=
    dropLast_append_getLastD hne
  set dir := (filePath file).dropLast
  set name := (filePath file).getLastD ""
  by_cases hq : dir <+: q ∧ q ≠ dir
  · obtain ⟨⟨r, rfl⟩, hr⟩ := hq
    have hr : r ≠ [] := fun h => hr (by rw [h, List.append_nil])
    have deep : ¬ dir ++ r <+: dir := fun h =>
      hr (by simpa using (List.prefix_append dir r).eq_of_length_le h.length_le)
    rw [refills.below r hr, missingDirectory_of_not_prefix deep, Option.or_none,
      Tree.itemIn_append dir hr, putFile_items hput hr, ← whole]
    simp only [List.append_cancel_left_eq]
  · have : q ≠ filePath file := by
      rintro rfl
      refine hq ⟨List.dropLast_prefix _, fun h => ?_⟩
      simpa using congrArg List.length (whole.trans h)
    rw [if_neg this]
    exact refills.beside q hq

end Files

end Workbench.Session
