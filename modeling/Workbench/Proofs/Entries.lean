import Workbench.Entries
import Mathlib.Data.List.Induction
import Mathlib.Data.List.Nodup

/-!
# Entries with distinct keys

The functions on entries leave the keys distinct, and what they leave is known by membership: an
entry of the result is the one that was put there or one that was there before. What `lookup` finds
is one of the entries, and where the keys are distinct `unique` has nothing to do.
-/

namespace Workbench.Entries

variable {α : Type} {key k : String} {value v : α} {entries : List (String × α)}

@[simp] theorem keys_cons (entry : String × α) (rest : List (String × α)) :
    keys (entry :: rest) = entry.1 :: keys rest := rfl

/-! ## Looking up -/

/-- What is found under a key stands there. -/
theorem mem_of_lookup (h : lookup key entries = some value) : (key, value) ∈ entries := by
  induction entries with
  | nil => cases h
  | cons entry rest ih =>
    obtain ⟨k, v⟩ := entry
    rw [lookup] at h
    by_cases same : k = key
    · rw [if_pos same] at h
      rw [same, Option.some.inj h]
      exact List.mem_cons_self
    · rw [if_neg same] at h
      exact List.mem_cons_of_mem _ (ih h)

/-- The value under a key, after it was modified. -/
@[simp] theorem lookup_modify_self (key : String) (f : α → α) (entries : List (String × α)) :
    lookup key (modify key f entries) = (lookup key entries).map f := by
  induction entries with
  | nil => rfl
  | cons entry rest ih =>
    obtain ⟨k, v⟩ := entry
    by_cases same : k = key
    · simp [modify, lookup, same]
    · simp [modify, lookup, same, ih]

/-- Modifying changes nothing under other keys. -/
theorem lookup_modify_of_ne (f : α → α) (entries : List (String × α)) (h : k ≠ key) :
    lookup k (modify key f entries) = lookup k entries := by
  induction entries with
  | nil => rfl
  | cons entry rest ih =>
    obtain ⟨k', v'⟩ := entry
    rw [modify]
    by_cases same : k' = key
    · rw [if_pos same, lookup, lookup, if_neg fun eq => h (eq.symm.trans same),
        if_neg fun eq => h (eq.symm.trans same)]
    · rw [if_neg same, lookup, lookup, ih]

/-! ## Storing, erasing and modifying -/

/-- Storing keeps the order of the keys; a new one comes last. -/
theorem keys_store (key : String) (value : α) (entries : List (String × α)) :
    keys (store key value entries) =
      if key ∈ keys entries then keys entries else keys entries ++ [key] := by
  induction entries with
  | nil => rfl
  | cons entry rest ih =>
    obtain ⟨k, v⟩ := entry
    rw [store, keys_cons]
    by_cases same : k = key
    · rw [if_pos same, if_pos (by simp [same]), keys_cons, same]
    · rw [if_neg same, keys_cons, ih]
      by_cases held : key ∈ keys rest
      · rw [if_pos held, if_pos (List.mem_cons_of_mem _ held)]
      · have fresh : key ∉ k :: keys rest := by
          simpa [Ne.symm same] using held
        rw [if_neg held, if_neg fresh, List.cons_append]

/-- Of two values stored under one key the second one is left. -/
@[simp] theorem store_store (key : String) (value v : α) (entries : List (String × α)) :
    store key v (store key value entries) = store key v entries := by
  induction entries with
  | nil => simp [store]
  | cons entry rest ih =>
    obtain ⟨k, w⟩ := entry
    by_cases same : k = key
    · simp [store, same]
    · simp [store, same, ih]

/-- Storing what is stored there changes nothing. -/
theorem store_of_lookup (h : lookup key entries = some value) :
    store key value entries = entries := by
  induction entries with
  | nil => cases h
  | cons entry rest ih =>
    obtain ⟨k, v⟩ := entry
    rw [lookup] at h
    by_cases same : k = key
    · rw [if_pos same] at h
      cases h
      simp [store, same]
    · rw [if_neg same] at h
      rw [store, if_neg same, ih h]

/-- Storing repeats no key. -/
theorem nodup_keys_store (key : String) (value : α) (distinct : (keys entries).Nodup) :
    (keys (store key value entries)).Nodup := by
  rw [keys_store]
  by_cases held : key ∈ keys entries
  · rwa [if_pos held]
  · rw [if_neg held]
    exact List.nodup_append.mpr
      ⟨distinct, List.nodup_singleton key, fun a ha b hb => by
        rintro rfl
        exact held (List.mem_singleton.mp hb ▸ ha)⟩

/-- What is there after storing was stored, or was there before. -/
theorem eq_or_mem_of_mem_store (h : (k, v) ∈ store key value entries) :
    k = key ∧ v = value ∨ (k, v) ∈ entries := by
  induction entries with
  | nil => exact .inl (by simpa [store] using h)
  | cons entry rest ih =>
    obtain ⟨k', v'⟩ := entry
    rw [store] at h
    by_cases same : k' = key
    · rw [if_pos same, List.mem_cons] at h
      rcases h with new | old
      · exact .inl (Prod.mk.inj new)
      · exact .inr (List.mem_cons_of_mem _ old)
    · rw [if_neg same, List.mem_cons] at h
      rcases h with first | later
      · exact .inr (first ▸ List.mem_cons_self)
      · exact (ih later).imp_right (List.mem_cons_of_mem _)

/-- Erasing keeps the order of what is left. -/
theorem erase_sublist (key : String) (entries : List (String × α)) :
    (erase key entries).Sublist entries := by
  induction entries with
  | nil => exact List.Sublist.slnil
  | cons entry rest ih =>
    obtain ⟨k, v⟩ := entry
    rw [erase]
    by_cases same : k = key
    · rw [if_pos same]
      exact ih.cons _
    · rw [if_neg same]
      exact ih.cons_cons _

/-- Modifying leaves the keys alone. -/
theorem keys_modify (key : String) (f : α → α) (entries : List (String × α)) :
    keys (modify key f entries) = keys entries := by
  induction entries with
  | nil => rfl
  | cons entry rest ih =>
    obtain ⟨k, v⟩ := entry
    rw [modify]
    by_cases same : k = key
    · rw [if_pos same, keys_cons, keys_cons]
    · rw [if_neg same, keys_cons, keys_cons, ih]

/-- Modifying a value that is there is storing the modified one. -/
theorem modify_eq_store (f : α → α) (h : lookup key entries = some v) :
    modify key f entries = store key (f v) entries := by
  induction entries with
  | nil => cases h
  | cons entry rest ih =>
    obtain ⟨k, w⟩ := entry
    rw [lookup] at h
    rw [modify, store]
    by_cases same : k = key
    · rw [if_pos same] at h
      rw [if_pos same, if_pos same, same, Option.some.inj h]
    · rw [if_neg same] at h
      rw [if_neg same, if_neg same, ih h]

/-- An entry after a value was modified: the entry with that value, or one that was there before. -/
theorem mem_or_of_mem_modify {f : α → α} (h : (k, v) ∈ modify key f entries) :
    (k, v) ∈ entries ∨ ∃ old, (k, old) ∈ entries ∧ v = f old := by
  induction entries with
  | nil => cases h
  | cons entry rest ih =>
    obtain ⟨k', v'⟩ := entry
    rw [modify] at h
    by_cases same : k' = key
    · rw [if_pos same, List.mem_cons] at h
      rcases h with changed | later
      · obtain ⟨rfl, rfl⟩ := Prod.mk.inj changed
        exact .inr ⟨v', List.mem_cons_self, rfl⟩
      · exact .inl (List.mem_cons_of_mem _ later)
    · rw [if_neg same, List.mem_cons] at h
      rcases h with first | later
      · exact .inl (first ▸ List.mem_cons_self)
      · rcases ih later with kept | ⟨old, held, rfl⟩
        · exact .inl (List.mem_cons_of_mem _ kept)
        · exact .inr ⟨old, List.mem_cons_of_mem _ held, rfl⟩

/-! ## Changing every value -/

section Map

variable {β : Type} (f : α → β)

end Map

/-! ## Keeping one entry for each key -/

/-- A value under a new key comes last. -/
theorem store_of_not_mem (fresh : key ∉ keys entries) :
    store key value entries = entries ++ [(key, value)] := by
  induction entries with
  | nil => rfl
  | cons entry rest ih =>
    obtain ⟨k, v⟩ := entry
    rw [keys_cons, List.mem_cons, not_or] at fresh
    rw [store, if_neg (Ne.symm fresh.1), ih fresh.2, List.cons_append]

/-- The last of several values under a key counts. -/
theorem unique_append_singleton (entries : List (String × α)) (key : String) (value : α) :
    unique (entries ++ [(key, value)]) = store key value (unique entries) := by
  simp [unique]

/-- Some entry is kept if there is one. -/
theorem unique_ne_nil (nonempty : entries ≠ []) : unique entries ≠ [] := by
  obtain ⟨front, ⟨key, value⟩, rfl⟩ := (List.eq_nil_or_concat' entries).resolve_left nonempty
  intro none
  have held := lookup_store_self key value (unique front)
  rw [← unique_append_singleton, none] at held
  cases held

/-- Entries with distinct keys are all kept. -/
theorem unique_of_nodup (distinct : (keys entries).Nodup) : unique entries = entries := by
  induction entries using List.reverseRecOn with
  | nil => rfl
  | append_singleton entries entry ih =>
    obtain ⟨k, v⟩ := entry
    rw [keys, List.map_append, List.nodup_append] at distinct
    obtain ⟨before, -, apart⟩ := distinct
    have fresh : k ∉ keys entries := fun held => apart k held k (by simp) rfl
    rw [unique_append_singleton, ih before, store_of_not_mem fresh]

/-- No key is left twice. -/
theorem nodup_keys_unique (entries : List (String × α)) : (keys (unique entries)).Nodup := by
  induction entries using List.reverseRecOn with
  | nil => exact List.nodup_nil
  | append_singleton entries entry ih =>
    rw [unique_append_singleton]
    exact nodup_keys_store _ _ ih

/-- What is left was there. -/
theorem mem_of_mem_unique (h : (k, v) ∈ unique entries) : (k, v) ∈ entries := by
  induction entries using List.reverseRecOn with
  | nil => cases h
  | append_singleton entries entry ih =>
    obtain ⟨key, value⟩ := entry
    rw [unique_append_singleton] at h
    rw [List.mem_append]
    rcases eq_or_mem_of_mem_store h with ⟨rfl, rfl⟩ | held
    · exact .inr List.mem_cons_self
    · exact .inl (ih held)

end Workbench.Entries
