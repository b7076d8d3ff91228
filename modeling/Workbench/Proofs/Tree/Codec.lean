import Workbench.Proofs.Json.RoundTrip
import Workbench.Proofs.Tree.Hereditary
import Workbench.Tree.Wire

/-!
# Checking what was encoded

The check of a tree accepts the JSON form of every tree and gives the tree back: name, owner and
permissions, the content of a file, and the entries of a directory in their order. The JSON form of
a tree with distinct keys has no numbers and no object with two fields of one name, so that it is
also read back from its text.
-/

namespace Workbench

namespace Schema

variable {α : Type} {key : String} {default a : α} {check : Json → Check α} {input : Json}
variable {fields : Fields} {place : Place}

@[simp] theorem text_str (s : String) : text (.str s) = .ok s := rfl

@[simp] theorem Check.within_ok : Check.within place (.ok a) = .ok a := rfl

/-- A field that must be given is accepted if it is there with an accepted value. -/
theorem required_of_lookup (held : Entries.lookup key fields = some input)
    (accepts : check input = .ok a) : required key check fields = .ok a := by
  rw [required, held]
  dsimp only
  rw [accepts, Check.within_ok]

/-- A field with a default is accepted if it is there with an accepted value. -/
theorem optional_of_lookup (held : Entries.lookup key fields = some input)
    (accepts : check input = .ok a) : optional key default check fields = .ok a := by
  rw [optional, held]
  dsimp only
  rw [accepts, Check.within_ok]

/-- A list is accepted if each of its items is. -/
theorem eachFrom_map (encode : α → Json) (items : List α) (start : Nat)
    (accepts : ∀ item ∈ items, check (encode item) = .ok item) :
    Check.eachFrom check start (items.map encode) = .ok items := by
  induction items generalizing start with
  | nil => rfl
  | cons item items ih =>
    rw [List.map_cons, Check.eachFrom, accepts item List.mem_cons_self,
      ih (start + 1) fun i hi => accepts i (List.mem_cons_of_mem _ hi)]
    rfl

end Schema

namespace Tree

variable {fits : String → Attributes → Prop}

/-! ## Reading back -/

/-- Permissions are read as they were written. -/
theorem checkPermissions_text (p : Permissions) : checkPermissions (.str p.text) = .ok p := by
  rw [checkPermissions, Schema.text, Schema.Check.refine, Except.bind, Permissions.ofText_text]

/-- What is found among the fields of a node: its own attributes, then the fields behind them. -/
theorem lookup_fields (tag : String) (a : Attributes) (more : Schema.Fields) :
    Entries.lookup "type" (a.fields tag ++ more) = some (.str tag) ∧
      Entries.lookup "name" (a.fields tag ++ more) = some (.str a.name) ∧
      Entries.lookup "owner" (a.fields tag ++ more) = some (.str a.owner) ∧
      Entries.lookup "permissions" (a.fields tag ++ more) = some (.str a.permissions.text) := by
  simp [Attributes.fields, Entries.lookup]

/-- Name, owner and permissions are read back from among other fields. -/
theorem checkAttributes_fields (default : Permissions) (tag : String) (a : Attributes)
    (more : Schema.Fields) : checkAttributes default (a.fields tag ++ more) = .ok a := by
  obtain ⟨-, name, owner, permissions⟩ := lookup_fields tag a more
  rw [checkAttributes, Schema.required_of_lookup name (Schema.text_str _),
    Schema.optional_of_lookup owner (Schema.text_str _),
    Schema.optional_of_lookup permissions (checkPermissions_text a.permissions)]
  rfl

/-- So is a file. -/
theorem checkFile_fields (tag : String) (a : Attributes) (content : String) :
    checkFile (a.fields tag ++ [("content", .str content)]) = .ok (.file a content) := by
  have held : Entries.lookup "content" (a.fields tag ++ [("content", Json.str content)]) =
      some (.str content) := by
    simp [Attributes.fields, Entries.lookup]
  rw [checkFile, checkAttributes_fields, Schema.optional_of_lookup held (Schema.text_str _)]
  rfl

/-- The children of a directory are found behind its attributes. -/
theorem checkChildren_fields (tag : String) (a : Attributes) (children : Json) :
    checkChildren (a.fields tag ++ [("children", children)]) =
      Schema.Check.within (.name "children") (checkBranch children) := by
  simp [Attributes.fields, checkChildren]

/-- The tag says that a node is a file. -/
theorem checkNode_file (a : Attributes) (more : Schema.Fields) :
    checkNode (.obj (a.fields fileTag ++ more)) =
      Schema.Check.within (.name fileTag) (checkFile (a.fields fileTag ++ more)) := by
  rw [checkNode, (lookup_fields fileTag a more).1]
  exact if_pos rfl

/-- The tag says that a node is a directory. -/
theorem checkNode_directory (a : Attributes) (more : Schema.Fields) :
    checkNode (.obj (a.fields directoryTag ++ more)) =
      Schema.Check.within (.name directoryTag)
        (((checkAttributes .ofDirectory (a.fields directoryTag ++ more)).both
          (checkChildren (a.fields directoryTag ++ more))).map
            fun (attributes, entries) => .directory attributes entries) := by
  have differs : (Json.str directoryTag).str? ≠ some fileTag := by
    decide +kernel
  rw [checkNode, (lookup_fields directoryTag a more).1]
  exact (if_neg differs).trans (if_pos rfl)

mutual

/-- A node is read back. -/
theorem checkNode_toJson : ∀ node : Node, checkNode node.toJson = .ok node
  | .file a content => by
    rw [Node.toJson, checkNode_file, checkFile_fields, Schema.Check.within_ok]
  | .directory a entries => by
    rw [Node.toJson, checkNode_directory, checkAttributes_fields, checkChildren_fields, checkBranch,
      checkEntries_branchFields entries]
    rfl

/-- The entries of a directory are read back in their order. -/
theorem checkEntries_branchFields : ∀ entries : Branch,
    checkEntries (branchFields entries) = .ok entries
  | [] => rfl
  | (key, node) :: rest => by
    rw [branchFields, checkEntries, checkNode_toJson node, checkEntries_branchFields rest]
    rfl

end

/-- A tree is read back. -/
theorem Directory.check_toJson (d : Directory) : Directory.check d.toJson = .ok d := by
  obtain ⟨a, entries⟩ := d
  have tag (more : Schema.Fields) : checkRootTag (a.fields directoryTag ++ more) = .ok () :=
    Schema.optional_of_lookup (lookup_fields directoryTag a more).1 (if_pos rfl)
  rw [Directory.check, Directory.toJson, Directory.node, Node.toJson, Schema.record, tag,
    checkAttributes_fields, checkChildren_fields, checkBranch, checkEntries_branchFields]
  rfl

/-! ## Plain values -/

/-- Entries are written under their names. -/
theorem keys_branchFields (entries : Branch) :
    Entries.keys (branchFields entries) = Entries.keys entries := by
  induction entries with
  | nil => rfl
  | cons entry entries ih =>
    rw [branchFields, Entries.keys_cons, Entries.keys_cons, ih]

/-- Each field is an entry. -/
theorem exists_of_mem_branchFields {entries : Branch} {field : String × Json}
    (h : field ∈ branchFields entries) :
    ∃ key node, (key, node) ∈ entries ∧ field = (key, node.toJson) := by
  induction entries with
  | nil => cases h
  | cons entry entries ih =>
    obtain ⟨key, node⟩ := entry
    rw [branchFields, List.mem_cons] at h
    rcases h with rfl | later
    · exact ⟨key, node, List.mem_cons_self, rfl⟩
    · obtain ⟨k, n, held, same⟩ := ih later
      exact ⟨k, n, List.mem_cons_of_mem _ held, same⟩

/-- The attributes of a node and one more field make a plain value. -/
theorem plain_fields (tag key : String) (a : Attributes) {value : Json}
    (fresh : key ∉ ["type", "name", "owner", "permissions"]) (plain : value.Plain) :
    (Json.obj (a.fields tag ++ [(key, value)])).Plain := by
  refine .obj _ ?_ fun field held => ?_
  · have names : Entries.keys (a.fields tag ++ [(key, value)]) =
        ["type", "name", "owner", "permissions"] ++ [key] := rfl
    rw [names, List.nodup_append]
    refine ⟨by decide, List.nodup_singleton key, fun n hn k hk => ?_⟩
    rintro rfl
    exact fresh (List.mem_singleton.mp hk ▸ hn)
  · simp only [Attributes.fields, List.cons_append, List.nil_append, List.mem_cons,
      List.not_mem_nil, or_false] at held
    rcases held with rfl | rfl | rfl | rfl | rfl
    · exact .str _
    · exact .str _
    · exact .str _
    · exact .str _
    · exact plain

/-- The JSON form of a tree with distinct keys is plain. -/
theorem Fit.plain {entries : Branch} (h : Fit fits entries) :
    (Json.obj (branchFields entries)).Plain := by
  induction h with
  | intro distinct suits below ih =>
    refine .obj _ (by rwa [keys_branchFields]) fun field held => ?_
    obtain ⟨key, node, there, rfl⟩ := exists_of_mem_branchFields held
    cases node with
    | file a content =>
      rw [Node.toJson]
      exact plain_fields fileTag "content" a (by decide) (.str content)
    | directory a inner =>
      rw [Node.toJson]
      exact plain_fields directoryTag "children" a (by decide) (ih key a inner there)

/-- A tree has no numbers in it. -/
theorem Directory.Fit.plain {d : Directory} (h : d.Fit fits) : d.toJson.Plain := by
  rw [Directory.toJson, Directory.node, Node.toJson]
  exact plain_fields directoryTag "children" d.attributes (by decide) (Tree.Fit.plain h)

end Tree

end Workbench
