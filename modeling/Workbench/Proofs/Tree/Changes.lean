import Workbench.Proofs.Entries
import Workbench.Proofs.Tree.Items

/-!
# What a change of entries does to a tree

Changing the entries of one directory changes the items below it and no others. In particular a node
with nothing below it, such as a file, that is stored where no directory stands is the item at its
path, and every other item stays; and erasing an entry takes away the items at its path and below,
and no others.
-/

namespace Workbench.Tree

variable {name : String} {a b : Attributes} {content : String} {place q : List String}
variable {entries : Branch} {d : Directory}

/-- A list of names leads from a node to where its second part leads from where the first part
leads. -/
theorem Node.get?_append (node : Node) (place q : List String) :
    node.get? (place ++ q) = (node.get? place).bind (·.get? q) := by
  induction place generalizing node with
  | nil => cases node <;> rfl
  | cons name place ih =>
    cases node with
    | file a content => rfl
    | directory a inner =>
      rw [List.cons_append, Node.get?, Node.get?]
      cases Entries.lookup name inner with
      | none => rfl
      | some child => exact ih child

/-- What has a name below a path stands under that name in the directory at the path. -/
theorem Directory.get?_concat (d : Directory) (place : List String) (name : String) :
    d.get? (place ++ [name]) = (d.get? place).bind fun node =>
      node.directory?.bind fun around => Entries.lookup name around.entries := by
  rw [Directory.get?, Node.get?_append, Directory.get?]
  congr 1
  funext node
  cases node with
  | file a content => rfl
  | directory a entries =>
    rw [Node.get?]
    cases held : Entries.lookup name entries with
    | none => exact held.symm
    | some child => cases child <;> exact held.symm

/-- What is found is an entry of the directory above. -/
theorem Directory.exists_of_get?_concat {node : Node} (h : d.get? (place ++ [name]) = some node) :
    ∃ a entries, d.get? place = some (.directory a entries) ∧
      Entries.lookup name entries = some node := by
  rw [Directory.get?_concat] at h
  obtain ⟨around, there, h⟩ := Option.bind_eq_some_iff.mp h
  obtain ⟨inside, isDirectory, held⟩ := Option.bind_eq_some_iff.mp h
  cases around with
  | file a content => cases isDirectory
  | directory a entries =>
    cases isDirectory
    exact ⟨a, entries, there, held⟩

/-- What has a name in a directory that is there stands under that name in its entries. -/
theorem Directory.exists_of_itemAt?_concat {item : Item}
    (h : d.itemAt? (place ++ [name]) = some item) :
    ∃ a entries node, d.get? place = some (.directory a entries) ∧
      Entries.lookup name entries = some node ∧ node.item = item := by
  obtain ⟨node, found, rfl⟩ := Option.map_eq_some_iff.mp h
  obtain ⟨a, entries, there, held⟩ := Directory.exists_of_get?_concat found
  exact ⟨a, entries, node, there, held, rfl⟩

/-- The items below a directory are those of its entries. -/
theorem Directory.itemAt?_append (there : d.get? place = some (.directory a entries))
    (hq : q ≠ []) : d.itemAt? (place ++ q) = itemIn q entries := by
  obtain ⟨n, ns, rfl⟩ := List.exists_cons_of_ne_nil hq
  rw [Directory.get?] at there
  rw [Directory.itemAt?, Node.itemAt?, Node.get?_append, there, Option.bind_some,
    ← Node.itemAt?_directory_cons]
  rfl

/-- The directory whose entries are changed stays in its place. -/
theorem get?_changeAt (there : d.get? place = some (.directory a entries)) (f : Branch → Branch) :
    (d.changeAt place f).get? place = some (.directory a (f entries)) := by
  obtain ⟨b, outer⟩ := d
  rw [Directory.get?, Directory.node] at there ⊢
  rw [Directory.changeAt]
  dsimp only at there ⊢
  induction place generalizing b outer with
  | nil =>
    rw [Node.get?] at there
    obtain ⟨rfl, rfl⟩ := Node.directory.inj (Option.some.inj there)
    rfl
  | cons name place ih =>
    rw [Node.get?] at there
    cases held : Entries.lookup name outer with
    | none =>
      rw [held] at there
      cases there
    | some child =>
      rw [held] at there
      cases child with
      | file c content => cases place <;> cases there
      | directory c middle =>
        rw [changeEntries, Node.get?, Entries.lookup_modify_self, held]
        exact ih c middle there

/-- The items of a directory whose entries are changed are those of the changed entries. -/
theorem itemAt?_changeAt_below (there : d.get? place = some (.directory a entries))
    (f : Branch → Branch) (hq : q ≠ []) :
    (d.changeAt place f).itemAt? (place ++ q) = itemIn q (f entries) :=
  Directory.itemAt?_append (get?_changeAt there f) hq

/-- All other items stay. -/
theorem itemAt?_changeAt_beside (d : Directory) (f : Branch → Branch)
    (hq : ¬ (place <+: q ∧ q ≠ place)) : (d.changeAt place f).itemAt? q = d.itemAt? q := by
  obtain ⟨b, outer⟩ := d
  rw [Directory.itemAt?, Directory.itemAt?, Directory.node, Directory.node, Directory.changeAt]
  dsimp only
  induction place generalizing q b outer with
  | nil =>
    have root : q = [] := Classical.byContradiction fun h => hq ⟨List.nil_prefix, h⟩
    rw [root]
    rfl
  | cons name place ih =>
    cases q with
    | nil => rfl
    | cons other q =>
      rw [Node.itemAt?_directory_cons, Node.itemAt?_directory_cons, changeEntries]
      by_cases same : other = name
      · subst same
        have inside : ¬ (place <+: q ∧ q ≠ place) := fun ⟨hp, hne⟩ =>
          hq ⟨List.cons_prefix_cons.mpr ⟨rfl, hp⟩, fun h => hne (List.cons.inj h).2⟩
        rw [itemIn, itemIn, Entries.lookup_modify_self]
        cases held : Entries.lookup other outer with
        | none => rfl
        | some child =>
          cases child with
          | file c content => rfl
          | directory c middle => exact ih inside c middle
      · rw [itemIn, itemIn, Entries.lookup_modify_of_ne _ _ same]

/-- A node that is stored stands at its path. -/
theorem get?_store (there : d.get? place = some (.directory a entries)) (node : Node) :
    (d.changeAt place (Entries.store name node)).get? (place ++ [name]) = some node := by
  rw [Directory.get?_concat, get?_changeAt there]
  exact Entries.lookup_store_self name node entries

/-- Storing a node changes nothing but what is at its path and below. -/
theorem itemAt?_store_beside (there : d.get? place = some (.directory a entries)) (node : Node)
    (hq : ¬ place ++ [name] <+: q) :
    (d.changeAt place (Entries.store name node)).itemAt? q = d.itemAt? q := by
  by_cases below : place <+: q ∧ q ≠ place
  · obtain ⟨⟨r, rfl⟩, differs⟩ := below
    have hr : r ≠ [] := fun h => differs (by rw [h, List.append_nil])
    rw [itemAt?_changeAt_below there _ hr, Directory.itemAt?_append there hr]
    obtain ⟨other, r, rfl⟩ := List.exists_cons_of_ne_nil hr
    refine itemIn_store_of_ne _ _ _ ?_
    rintro rfl
    exact hq ⟨r, by simp⟩
  · exact itemAt?_changeAt_beside d _ below

/-- A node with nothing below it that is stored where no directory stands is the item at its path,
and no other item changes. -/
theorem itemAt?_storeBare {node : Node} (there : d.get? place = some (.directory a entries))
    (bare : ∀ q ≠ [], node.itemAt? q = none)
    (free : ∀ c inner, Entries.lookup name entries ≠ some (.directory c inner)) (q : List String) :
    (d.changeAt place (Entries.store name node)).itemAt? q =
      if q = place ++ [name] then some node.item else d.itemAt? q := by
  by_cases hq : place ++ [name] <+: q
  · obtain ⟨r, rfl⟩ := hq
    cases r with
    | nil =>
      rw [List.append_nil, if_pos rfl, Directory.itemAt?, Node.itemAt?, ← Directory.get?,
        get?_store there]
      rfl
    | cons n ns =>
      -- below the name there is nothing, neither before the node was stored nor after
      have before : itemIn (name :: n :: ns) entries = none := by
        cases held : Entries.lookup name entries with
        | none => exact itemIn_of_lookup_none held _
        | some old =>
          cases old with
          | file c text => exact itemIn_of_lookup_some held _
          | directory c inner => exact absurd held (free c inner)
      have whole : place ++ [name] ++ n :: ns = place ++ name :: n :: ns := by simp
      rw [if_neg (by simp), whole, itemAt?_changeAt_below there _ (by simp),
        Directory.itemAt?_append there (by simp), before, itemIn_store_self,
        bare _ (by simp)]
  · have differs : q ≠ place ++ [name] := by
      rintro rfl
      exact hq List.prefix_rfl
    rw [itemAt?_store_beside there node hq, if_neg differs]

/-- A file that is stored where no directory stands is the item at its path, and no other item
changes. -/
theorem itemAt?_storeFile (there : d.get? place = some (.directory a entries))
    (free : ∀ c inner, Entries.lookup name entries ≠ some (.directory c inner)) (q : List String) :
    (d.changeAt place (Entries.store name (.file b content))).itemAt? q =
      if q = place ++ [name] then some (.file b content) else d.itemAt? q := by
  refine itemAt?_storeBare there (fun r hr => ?_) free q
  obtain ⟨n, ns, rfl⟩ := List.exists_cons_of_ne_nil hr
  rfl

/-- Erasing an entry takes away what is at its path and below, and no other item. There need not be
an entry, nor a directory around it. -/
theorem itemIn_eraseAt (name : String) (place : List String) (entries : Branch) (q : List String) :
    itemIn q (changeEntries (Entries.erase name) place entries) =
      if place ++ [name] <+: q then none else itemIn q entries := by
  induction place generalizing entries q with
  | nil =>
    rw [changeEntries, List.nil_append]
    cases q with
    | nil => rfl
    | cons other q =>
      by_cases same : other = name
      · subst same
        rw [itemIn_erase_self, if_pos (List.cons_prefix_cons.mpr ⟨rfl, List.nil_prefix⟩)]
      · rw [itemIn_erase_of_ne q entries same,
          if_neg fun on => same (List.cons_prefix_cons.mp on).1.symm]
  | cons first place ih =>
    cases q with
    | nil => rfl
    | cons other q =>
      by_cases same : other = first
      · subst same
        rw [List.cons_append, changeEntries, itemIn, itemIn, Entries.lookup_modify_self]
        simp only [List.cons_prefix_cons, true_and]
        cases Entries.lookup other entries with
        | none => simp
        | some child =>
          cases q with
          | nil => cases child <;> simp [Node.item]
          | cons n ns =>
            cases child with
            | file a content => simp
            | directory a inner =>
              rw [Option.map_some, Option.bind_some, Option.bind_some, Node.itemAt?_directory_cons,
                Node.itemAt?_directory_cons, ih]
      · rw [List.cons_append, changeEntries, itemIn, itemIn, Entries.lookup_modify_of_ne _ _ same,
          if_neg fun on => same (List.cons_prefix_cons.mp on).1.symm]

/-- Erasing takes an entry away, with all that is below it. -/
theorem itemAt?_eraseAt (d : Directory) (name : String) (place q : List String) :
    (d.changeAt place (Entries.erase name)).itemAt? q =
      if place ++ [name] <+: q then none else d.itemAt? q := by
  cases q with
  | nil =>
    rw [if_neg fun on => by simpa using List.prefix_nil.mp on]
    rfl
  | cons n ns =>
    rw [Directory.itemAt?_cons, Directory.itemAt?_cons]
    exact itemIn_eraseAt name place d.entries (n :: ns)

end Workbench.Tree
