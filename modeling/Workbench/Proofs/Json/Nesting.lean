import Workbench.Json.Reader

/-!
# How deep values are nested

A mode of reading admits the values that are not nested deeper than it can read (`Mode.Admits`).
An array that holds something is admitted if there is a level left for it and what it holds is
admitted inside (`Mode.admits_arr_iff`), and so is an object; an empty one needs a level only where
empty ones count.
-/

namespace Workbench.Json

variable {mode : Mode} {items : List Json} {fields : List (String × Json)} {emptyCounts : Bool}
variable {n : Nat}

/-- A value is not nested deeper than it can be read. -/
def Mode.Admits (mode : Mode) (j : Json) : Prop :=
  ∀ levels ∈ mode.levels, nesting (!mode.strict) j ≤ levels

/-- A bound on the items is one on each of them. -/
theorem nestingOfItems_le_iff :
    nestingOfItems emptyCounts items ≤ n ↔ ∀ item ∈ items, nesting emptyCounts item ≤ n := by
  induction items with
  | nil => simp [nestingOfItems]
  | cons item rest ih => rw [nestingOfItems, Nat.max_le, ih, List.forall_mem_cons]

/-- A bound on the fields is one on the value of each of them. -/
theorem nestingOfFields_le_iff :
    nestingOfFields emptyCounts fields ≤ n ↔ ∀ field ∈ fields, nesting emptyCounts field.2 ≤ n := by
  induction fields with
  | nil => simp [nestingOfFields]
  | cons field rest ih => rw [nestingOfFields, Nat.max_le, ih, List.forall_mem_cons]

/-- An array that holds something has one level more than its items. -/
theorem nesting_arr_le_iff (nonempty : items ≠ []) : nesting emptyCounts (.arr items) ≤ n ↔
    0 < n ∧ ∀ item ∈ items, nesting emptyCounts item ≤ n - 1 := by
  rw [nesting, if_neg (by simpa using nonempty), ← nestingOfItems_le_iff]
  omega

/-- An object that holds something has one level more than its fields. -/
theorem nesting_obj_le_iff (nonempty : fields ≠ []) : nesting emptyCounts (.obj fields) ≤ n ↔
    0 < n ∧ ∀ field ∈ fields, nesting emptyCounts field.2 ≤ n - 1 := by
  rw [nesting, if_neg (by simpa using nonempty), ← nestingOfFields_le_iff]
  omega

namespace Mode

/-- Without a limit everything is admitted. -/
theorem admits_of_unlimited (h : mode.levels = none) (j : Json) : mode.Admits j := by
  intro levels limited
  rw [h] at limited
  cases limited

/-- What is neither an array nor an object needs no level. -/
theorem admits_of_nesting_eq_zero {j : Json} (h : nesting (!mode.strict) j = 0) :
    mode.Admits j :=
  fun levels _ => h ▸ Nat.zero_le levels

/-- An array that is not empty takes a level for itself, and its items are inside. -/
theorem admits_arr_iff (nonempty : items ≠ []) : mode.Admits (.arr items) ↔
    mode.refuses false = false ∧ ∀ item ∈ items, mode.inside.Admits item := by
  obtain ⟨strict, _ | levels⟩ := mode
  · simp [Admits, refuses, isSpent, inside]
  · simp only [Admits, refuses, isSpent, inside, Option.mem_def, Option.some.injEq,
      forall_eq', nesting_arr_le_iff nonempty, Option.map_some]
    simp [Nat.pos_iff_ne_zero]

/-- So does an object. -/
theorem admits_obj_iff (nonempty : fields ≠ []) : mode.Admits (.obj fields) ↔
    mode.refuses false = false ∧ ∀ field ∈ fields, mode.inside.Admits field.2 := by
  obtain ⟨strict, _ | levels⟩ := mode
  · simp [Admits, refuses, isSpent, inside]
  · simp only [Admits, refuses, isSpent, inside, Option.mem_def, Option.some.injEq,
      forall_eq', nesting_obj_le_iff nonempty, Option.map_some]
    simp [Nat.pos_iff_ne_zero]

/-- An empty array is inside nothing. -/
theorem admits_arr_nil_iff : mode.Admits (.arr []) ↔ mode.refuses true = false := by
  obtain ⟨_ | _, _ | _ | levels⟩ := mode <;> simp [Admits, refuses, isSpent, nesting]

/-- Nor is an empty object. -/
theorem admits_obj_nil_iff : mode.Admits (.obj []) ↔ mode.refuses true = false := by
  obtain ⟨_ | _, _ | _ | levels⟩ := mode <;> simp [Admits, refuses, isSpent, nesting]

end Mode

end Workbench.Json
