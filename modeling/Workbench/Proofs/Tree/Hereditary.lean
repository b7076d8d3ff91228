import Workbench.Proofs.Entries
import Workbench.Session

/-!
# What holds of every entry of a tree

`Fit fits entries` says that below `entries` no directory has two entries under one key, and that
every entry suits the key under which it is stored, as told by `fits`. With a `fits` that always
holds this is what makes a tree a tree; with `Named` it says that every node has its own key for a
name and that the key can be a segment of a path.

Every function that changes a tree keeps it fit if the entries that it makes are fit: storing a
node, making directories, and changing the entries of one directory.
-/

namespace Workbench.Tree

variable {fits : String → Attributes → Prop} {name key : String} {a : Attributes} {node : Node}
variable {entries entries' inner : Branch} {path : List String}

/-- Below the entries of a directory all keys of a directory are distinct, and every entry suits
its key. -/
inductive Fit (fits : String → Attributes → Prop) : Branch → Prop
  | intro {entries : Branch} (distinct : (Entries.keys entries).Nodup)
      (suits : ∀ key node, (key, node) ∈ entries → fits key node.attributes)
      (below : ∀ key a inner, (key, .directory a inner) ∈ entries → Fit fits inner) : Fit fits entries

/-- What stands below a node is fit. -/
def Node.Fit (fits : String → Attributes → Prop) (node : Node) : Prop :=
  ∀ a inner, node = .directory a inner → Tree.Fit fits inner

/-- What stands in a tree is fit. -/
def Directory.Fit (fits : String → Attributes → Prop) (d : Directory) : Prop :=
  Tree.Fit fits d.entries

/-- Whatever is made under a name suits it. -/
def Suits (fits : String → Attributes → Prop) (name : String) : Prop :=
  ∀ owner permissions, fits name ⟨name, owner, permissions⟩

/-- A result that was mapped is the image of one. -/
theorem exists_of_map_eq_ok {ε α β : Type} {x : Except ε α} {f : α → β} {b : β}
    (h : x.map f = .ok b) : ∃ a, x = .ok a ∧ f a = b := by
  cases x with
  | error e => cases h
  | ok a => exact ⟨a, rfl, Except.ok.inj h⟩

/-- What is in a directory fits as the directory does. -/
theorem Node.Fit.inside (h : (Node.directory a inner).Fit fits) : Tree.Fit fits inner :=
  h a inner rfl

namespace Fit

/-- Entries that fit have different names. -/
theorem distinct (h : Fit fits entries) : (Entries.keys entries).Nodup :=
  match h with | .intro distinct _ _ => distinct

/-- Each of them fits its name. -/
theorem suits (h : Fit fits entries) (held : (key, node) ∈ entries) : fits key node.attributes :=
  match h with | .intro _ suits _ => suits key node held

/-- So does what is below it. -/
theorem beneath (h : Fit fits entries) (held : (key, node) ∈ entries) : node.Fit fits :=
  match h with
  | .intro _ _ below => fun a inner same => below key a inner (same ▸ held)

theorem nil : Fit fits [] :=
  .intro List.nodup_nil (fun _ _ held => nomatch held) (fun _ _ _ held => nomatch held)

/-- Nothing is below a file. -/
theorem of_file (a : Attributes) (content : String) : (Node.file a content).Fit fits :=
  fun _ _ same => nomatch same

/-- A directory fits as its entries do. -/
theorem of_directory (h : Fit fits inner) : (Node.directory a inner).Fit fits := by
  rintro b inner' ⟨⟩
  exact h

/-- What fits a narrow condition fits a wide one. -/
theorem mono {fits' : String → Attributes → Prop} (weaker : ∀ key a, fits key a → fits' key a)
    (h : Fit fits entries) : Fit fits' entries := by
  induction h with
  | intro distinct suits below ih =>
    exact .intro distinct (fun key node held => weaker _ _ (suits key node held)) ih

/-- The entries of one directory after another that a path leads to are fit. -/
theorem get? {d : Directory} (h : d.Fit fits) (found : d.get? path = some node) :
    node.Fit fits := by
  obtain ⟨b, entries⟩ := d
  have root : (Node.directory b entries).Fit fits := of_directory h
  rw [Directory.get?, Directory.node] at found
  generalize Node.directory b entries = start at root found
  induction path generalizing start with
  | nil =>
    rw [Node.get?] at found
    exact Option.some.inj found ▸ root
  | cons name path ih =>
    cases start with
    | file c content => cases found
    | directory c inner =>
      rw [Node.get?] at found
      cases hl : Entries.lookup name inner with
      | none =>
        rw [hl] at found
        cases found
      | some child =>
        rw [hl] at found
        exact ih child (root.inside.beneath (Entries.mem_of_lookup hl)) found

/-! ### Changes of entries -/

/-- An entry that fits may be stored among others. -/
theorem store (h : Fit fits entries) (suited : fits key node.attributes) (hn : node.Fit fits) :
    Fit fits (Entries.store key node entries) := by
  refine .intro (Entries.nodup_keys_store key node h.distinct) (fun k v held => ?_)
    fun k b inner held => ?_
  · rcases Entries.eq_or_mem_of_mem_store held with ⟨rfl, rfl⟩ | old
    · exact suited
    · exact h.suits old
  · rcases Entries.eq_or_mem_of_mem_store held with ⟨-, rfl⟩ | old
    · exact hn.inside
    · exact (h.beneath old).inside

/-- Entries go on fitting without one of them. -/
theorem erase (h : Fit fits entries) (key : String) : Fit fits (Entries.erase key entries) := by
  have part := Entries.erase_sublist key entries
  exact .intro (h.distinct.sublist (part.map _)) (fun k v held => h.suits (part.subset held))
    fun k b inner held => (h.beneath (part.subset held)).inside

/-- Changing the entries of one directory keeps a tree fit if it keeps those entries fit. -/
theorem changeEntries {f : Branch → Branch} (keeps : ∀ es, Fit fits es → Fit fits (f es))
    (path : List String) (h : Fit fits entries) : Fit fits (changeEntries f path entries) := by
  induction path generalizing entries with
  | nil => exact keeps entries h
  | cons name path ih =>
    rw [Tree.changeEntries]
    refine .intro (by rw [Entries.keys_modify]; exact h.distinct) (fun k v held => ?_)
      fun k b inner held => ?_
    · rcases Entries.mem_or_of_mem_modify held with kept | ⟨old, was, rfl⟩
      · exact h.suits kept
      · have suited := h.suits was
        cases old <;> exact suited
    · rcases Entries.mem_or_of_mem_modify held with kept | ⟨old, was, same⟩
      · exact (h.beneath kept).inside
      · cases old with
        | file c content => cases same
        | directory c before =>
          obtain ⟨rfl, rfl⟩ := Node.directory.inj same
          exact ih (h.beneath was).inside

/-- A directory that is made on the way suits its name, however far it goes. -/
theorem makeDirectory {owner : String} (parents : Bool)
    (suited : ∀ name ∈ path, fits name ⟨name, owner, .ofDirectory⟩) (h : Fit fits entries) :
    Fit fits (Shell.makeDirectory owner parents path entries).2 := by
  induction path generalizing entries with
  | nil => exact h
  | cons name rest ih =>
    have here := suited name List.mem_cons_self
    have later : ∀ n ∈ rest, fits n ⟨n, owner, .ofDirectory⟩ := fun n hn =>
      suited n (List.mem_cons_of_mem _ hn)
    rw [Shell.makeDirectory]
    cases hl : Entries.lookup name entries with
    | none =>
      dsimp only
      split
      · exact h.store here (of_directory nil)
      · split
        · exact h.store here (of_directory (ih later nil))
        · exact h
    | some child =>
      have held := Entries.mem_of_lookup hl
      cases child with
      | file b content => exact h
      | directory b old =>
        have suited : fits name b := h.suits held
        have kept := ih later (h.beneath held).inside
        exact h.store suited (of_directory kept)

/-- Changing a directory that is made if it is missing keeps a tree fit if the change keeps the
entries of the directory fit. -/
theorem withDirectory {owner : String} {change : Branch → Option Branch}
    (keeps : ∀ es es', change es = some es' → Fit fits es → Fit fits es')
    (suited : ∀ name ∈ path, fits name ⟨name, owner, .ofDirectory⟩) (h : Fit fits entries)
    (changed : Session.withDirectory owner change path entries = some entries') :
    Fit fits entries' := by
  induction path generalizing entries entries' with
  | nil => exact keeps _ _ changed h
  | cons name path ih =>
    have later : ∀ n ∈ path, fits n ⟨n, owner, .ofDirectory⟩ := fun n hn =>
      suited n (List.mem_cons_of_mem _ hn)
    rw [Session.withDirectory] at changed
    cases hl : Entries.lookup name entries with
    | none =>
      rw [hl] at changed
      obtain ⟨new, hnew, rfl⟩ := Option.map_eq_some_iff.mp changed
      exact h.store (suited name List.mem_cons_self) (of_directory (ih later nil hnew))
    | some child =>
      have held := Entries.mem_of_lookup hl
      rw [hl] at changed
      cases child with
      | file b content => cases changed
      | directory b old =>
        obtain ⟨new, hnew, rfl⟩ := Option.map_eq_some_iff.mp changed
        have suited : fits name b := h.suits held
        have kept := ih later (h.beneath held).inside hnew
        exact h.store suited (of_directory kept)

/-- The tree of a new session is fit if its directories suit their names. -/
theorem initial (user : String)
    (suited : ∀ name ∈ ["home", user, "projects", "tmp"], Suits fits name) :
    (Directory.initial user).Fit fits := by
  have single (key : String) (node : Node) (suits : fits key node.attributes)
      (hn : node.Fit fits) : Fit fits [(key, node)] := by
    have stored : Fit fits (Entries.store key node []) := nil.store suits hn
    exact stored
  have projects : Fit fits [("projects", .newDirectory "projects" user)] :=
    single _ _ (suited "projects" (by simp) _ _) (of_directory nil)
  have home : Fit fits [(user, .directory ⟨user, user, .ofDirectory⟩ _)] :=
    single _ _ (suited user (by simp) _ _) (of_directory projects)
  have root : Fit fits [("home", .directory ⟨"home", "root", .ofDirectory⟩ _)] :=
    single _ _ (suited "home" (by simp) _ _) (of_directory home)
  have tmp : fits "tmp" (Node.directory ⟨"tmp", "root", .all⟩ []).attributes :=
    suited "tmp" (by simp) _ _
  exact root.store tmp (of_directory nil)

end Fit

end Workbench.Tree
