import Workbench.Tree.Basic
import Mathlib.Data.List.Infix

/-!
# Trees as maps from paths

What a tree holds is known by the `Item` at every path: a file with its content, or a directory
without its entries. The order of the entries of a directory does not show in its items, as it does
not count for anything else. `itemIn` gives the items below a directory; storing a node under a name
changes those behind the name and no others.
-/

namespace Workbench.Tree

/-- A file, or a directory without its entries. -/
inductive Item where
  | file (attributes : Attributes) (content : String)
  | directory (attributes : Attributes)
  deriving Repr, DecidableEq

/-- What a node is without what is below it. -/
def Node.item : Node → Item
  | .file a content => .file a content
  | .directory a _ => .directory a

/-- The item that a list of names leads to from a node. -/
def Node.itemAt? (node : Node) (path : List String) : Option Item :=
  (node.get? path).map Node.item

/-- The item that a list of names leads to in a tree. -/
def Directory.itemAt? (d : Directory) (path : List String) : Option Item :=
  d.node.itemAt? path

/-- The item that a list of names leads to from the entries of a directory. The empty list leads to
none of them. -/
def itemIn : List String → Branch → Option Item
  | [], _ => none
  | name :: path, entries => (Entries.lookup name entries).bind (·.itemAt? path)

/-- The entries of the directory that a list of names leads to; none if there is no directory. -/
def entriesAt : List String → Branch → Branch
  | [], entries => entries
  | name :: path, entries =>
    match Entries.lookup name entries with
    | some (.directory _ inner) => entriesAt path inner
    | _ => []

section Items

variable {a : Attributes} {content name other : String} {entries inner : Branch}
variable {path q : List String}

@[simp] theorem Node.itemAt?_nil (node : Node) : node.itemAt? [] = some node.item := by
  cases node <;> rfl

@[simp] theorem Node.itemAt?_file_cons :
    (Node.file a content).itemAt? (name :: path) = none := rfl

@[simp] theorem Node.itemAt?_directory_cons :
    (Node.directory a inner).itemAt? (name :: path) = itemIn (name :: path) inner := by
  rw [Node.itemAt?, Node.get?, itemIn]
  cases Entries.lookup name inner <;> rfl

@[simp] theorem Directory.itemAt?_cons (d : Directory) :
    d.itemAt? (name :: path) = itemIn (name :: path) d.entries :=
  Node.itemAt?_directory_cons

@[simp] theorem itemIn_nil_right (path : List String) : itemIn path [] = none := by
  cases path <;> rfl

@[simp] theorem entriesAt_nil_right (path : List String) : entriesAt path [] = [] := by
  cases path <;> rfl

/-- Nothing is below a name that is not there. -/
theorem itemIn_of_lookup_none (h : Entries.lookup name entries = none) (path : List String) :
    itemIn (name :: path) entries = none := by
  rw [itemIn, h, Option.bind_none]

/-- What is below a name is below its node. -/
theorem itemIn_of_lookup_some {node : Node} (h : Entries.lookup name entries = some node)
    (path : List String) : itemIn (name :: path) entries = node.itemAt? path := by
  rw [itemIn, h, Option.bind_some]

/-- What is below a node that was stored. -/
theorem itemIn_store_self (node : Node) (path : List String) (entries : Branch) :
    itemIn (name :: path) (Entries.store name node entries) = node.itemAt? path :=
  itemIn_of_lookup_some (Entries.lookup_store_self _ _ _) path

/-- Storing changes nothing below other names. -/
theorem itemIn_store_of_ne (node : Node) (path : List String) (entries : Branch)
    (h : other ≠ name) :
    itemIn (other :: path) (Entries.store name node entries) = itemIn (other :: path) entries := by
  rw [itemIn, itemIn, Entries.lookup_store_of_ne node entries h]

/-- Nothing is below a name that was erased. -/
theorem itemIn_erase_self (path : List String) (entries : Branch) :
    itemIn (name :: path) (Entries.erase name entries) = none :=
  itemIn_of_lookup_none (Entries.lookup_erase_self _ _) path

/-- Erasing changes nothing below other names. -/
theorem itemIn_erase_of_ne (path : List String) (entries : Branch) (h : other ≠ name) :
    itemIn (other :: path) (Entries.erase name entries) = itemIn (other :: path) entries := by
  rw [itemIn, itemIn, Entries.lookup_erase_of_ne entries h]

/-- The items below a directory are those of its entries. -/
theorem itemIn_append (path : List String) (hq : q ≠ []) (entries : Branch) :
    itemIn (path ++ q) entries = itemIn q (entriesAt path entries) := by
  induction path generalizing entries with
  | nil => rfl
  | cons name path ih =>
    obtain ⟨n, ns, more⟩ : ∃ n ns, path ++ q = n :: ns :=
      List.exists_cons_of_ne_nil (by simp [hq])
    rw [List.cons_append, entriesAt]
    cases h : Entries.lookup name entries with
    | none => simp [itemIn_of_lookup_none h]
    | some node =>
      rw [itemIn_of_lookup_some h, more]
      cases node with
      | file a content => simp
      | directory a inner => rw [Node.itemAt?_directory_cons, ← more, ih]

end Items

end Workbench.Tree
