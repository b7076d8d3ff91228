import Workbench.Proofs.Tree.Codec

/-!
# How deep the JSON form of a tree is

A node is an object, and the entries of a directory are an object in it: each level of the tree
takes two levels of JSON, and the node itself takes one (`Directory.nesting_toJson`). A value from
which a tree can be made is at least as deep (`Directory.height_le_of_check`); fields that do not
count may make it deeper.
-/

namespace Workbench

namespace Schema.Check

variable {α β : Type} {x : Check α} {y : Check β} {a : α} {b : β} {place : Place}

/-- A check of a part that passes has its value. -/
theorem of_within_eq_ok (h : within place x = .ok a) : x = .ok a := by
  cases x with
  | error issues => cases h
  | ok value => exact h

/-- Two checks that pass have one each. -/
theorem of_both_eq_ok (h : x.both y = .ok (a, b)) : x = .ok a ∧ y = .ok b := by
  cases x <;> cases y <;> cases h
  exact ⟨rfl, rfl⟩

end Schema.Check

namespace Tree

open Json (nesting nestingOfFields)
open Schema.Check (of_within_eq_ok of_both_eq_ok)

/-! ## What is written -/

/-- The attributes of a node are texts; only the field behind them may hold something nested. -/
theorem nesting_fields (tag key : String) (a : Attributes) (value : Json) :
    nesting false (.obj (a.fields tag ++ [(key, value)])) = nesting false value + 1 := by
  simp [Attributes.fields, nesting, nestingOfFields]

mutual

/-- The JSON form of a node has two levels for each level below the node, and one for the node. -/
theorem Node.nesting_toJson : ∀ node : Node, nesting false node.toJson = 2 * node.height + 1
  | .file a content => by
    rw [Node.toJson, nesting_fields, Node.height]
    rfl
  | .directory a [] => by
    rw [Node.toJson, nesting_fields, Node.height, Node.branchHeight]
    rfl
  | .directory a (entry :: rest) => by
    have nonempty : (branchFields (entry :: rest)).isEmpty = false := rfl
    have deepest := nestingOfFields_branchFields (entry :: rest)
    have inhabited : 0 < Node.branchHeight (entry :: rest) := by
      rw [Node.branchHeight]
      omega
    rw [Node.toJson, nesting_fields, Node.height, nesting, nonempty, if_neg Bool.false_ne_true]
    omega

/-- The entries of a directory take one level less than two for each level of entries. -/
theorem nestingOfFields_branchFields : ∀ entries : Branch,
    nestingOfFields false (branchFields entries) = 2 * Node.branchHeight entries - 1
  | [] => rfl
  | (_, node) :: rest => by
    rw [branchFields, nestingOfFields, Node.nesting_toJson node, nestingOfFields_branchFields rest,
      Node.branchHeight]
    omega

end

/-- So it is for a tree, whose root is a node. -/
theorem Directory.nesting_toJson (d : Directory) : nesting false d.toJson = 2 * d.height + 1 :=
  d.node.nesting_toJson

/-! ## What is read -/

/-- An object with a field is not empty, so that it takes a level. -/
theorem nesting_obj_of_lookup {key : String} {fields : Schema.Fields} {value : Json}
    (held : Entries.lookup key fields = some value) :
    nesting false (.obj fields) = nestingOfFields false fields + 1 := by
  cases fields with
  | nil => cases held
  | cons field rest => rw [nesting, List.isEmpty_cons, if_neg Bool.false_ne_true]

/-- A file has its attributes and its content alone. -/
theorem height_of_checkFile {fields : Schema.Fields} {node : Node}
    (h : checkFile fields = .ok node) : node.height = 0 := by
  obtain ⟨⟨a, content⟩, -, rfl⟩ := exists_of_map_eq_ok h
  rw [Node.height]

mutual

/-- A value from which a node is made is at least as deep as the JSON form of the node. -/
theorem height_le_of_checkNode : ∀ {input : Json} {node : Node},
    checkNode input = .ok node → 2 * node.height + 1 ≤ nesting false input
  | .obj fields, node, h => by
    rw [checkNode] at h
    split at h
    · cases h
    next tag held =>
    rw [nesting_obj_of_lookup held]
    split_ifs at h
    · rw [height_of_checkFile (of_within_eq_ok h)]
      omega
    · obtain ⟨⟨a, entries⟩, parts, rfl⟩ := exists_of_map_eq_ok (of_within_eq_ok h)
      have below := height_le_of_checkChildren (of_both_eq_ok parts).2
      rw [Node.height]
      omega
    · cases h
  | .null, _, h | .bool _, _, h | .int _, _, h | .real _, _, h | .str _, _, h | .arr _, _, h => by
    cases h

/-- Children are found among the fields of a directory. -/
theorem height_le_of_checkChildren : ∀ {fields : List (String × Json)} {entries : Branch},
    checkChildren fields = .ok entries →
      2 * Node.branchHeight entries ≤ nestingOfFields false fields
  | [], entries, h => by
    cases h
    exact Nat.zero_le _
  | (key, input) :: rest, entries, h => by
    rw [checkChildren] at h
    rw [nestingOfFields]
    split_ifs at h
    · exact (height_le_of_checkBranch (of_within_eq_ok h)).trans (Nat.le_max_left _ _)
    · exact (height_le_of_checkChildren h).trans (Nat.le_max_right _ _)

theorem height_le_of_checkBranch : ∀ {input : Json} {entries : Branch},
    checkBranch input = .ok entries → 2 * Node.branchHeight entries ≤ nesting false input
  | .obj [], entries, h => by
    cases h
    exact Nat.zero_le _
  | .obj (field :: rest), entries, h => by
    rw [checkBranch] at h
    have below := height_le_of_checkEntries h
    rw [nesting, List.isEmpty_cons, if_neg Bool.false_ne_true]
    omega
  | .null, _, h | .bool _, _, h | .int _, _, h | .real _, _, h | .str _, _, h | .arr _, _, h => by
    cases h

/-- Children are made one by one. -/
theorem height_le_of_checkEntries : ∀ {fields : List (String × Json)} {entries : Branch},
    checkEntries fields = .ok entries →
      2 * Node.branchHeight entries - 1 ≤ nestingOfFields false fields
  | [], entries, h => by
    cases h
    exact Nat.zero_le _
  | (key, input) :: rest, entries, h => by
    obtain ⟨⟨node, later⟩, parts, rfl⟩ := exists_of_map_eq_ok h
    obtain ⟨made, others⟩ := of_both_eq_ok parts
    have first := height_le_of_checkNode (of_within_eq_ok made)
    have further := height_le_of_checkEntries others
    rw [nestingOfFields, Node.branchHeight]
    omega

end

/-- A value from which a tree is made is at least as deep as the JSON form of the tree. -/
theorem Directory.height_le_of_check {input : Json} {d : Directory}
    (h : Directory.check input = .ok d) : 2 * d.height + 1 ≤ nesting false input := by
  rw [Directory.check, Schema.record.eq_def] at h
  split at h
  · next fields =>
    obtain ⟨⟨tag, a, entries⟩, parts, rfl⟩ := exists_of_map_eq_ok h
    obtain ⟨named, children⟩ := of_both_eq_ok (of_both_eq_ok parts).2
    have below := height_le_of_checkChildren children
    cases fields with
    | nil => cases named
    | cons field rest =>
      rw [nesting, List.isEmpty_cons, if_neg Bool.false_ne_true]
      exact Nat.succ_le_succ below
  · cases h

end Tree

end Workbench
