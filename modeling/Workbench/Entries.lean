/-!
# Entries

Values stored under text keys, in the order in which the keys were first stored. Storing under a
key that is present puts the new value in the place of the old one; erasing a key and storing
under it again moves it to the end.
-/

namespace Workbench.Entries

variable {α β : Type}

/-- The value stored under a key. -/
def lookup (key : String) : List (String × α) → Option α
  | [] => none
  | (k, v) :: rest => if k = key then some v else lookup key rest

/-- Whether a value is stored under a key. -/
def has (key : String) (entries : List (String × α)) : Bool :=
  (lookup key entries).isSome

/-- Stores a value under a key: in the place of the old one, or at the end. -/
def store (key : String) (value : α) : List (String × α) → List (String × α)
  | [] => [(key, value)]
  | (k, v) :: rest => if k = key then (key, value) :: rest else (k, v) :: store key value rest

/-- Removes a key and its value. -/
def erase (key : String) : List (String × α) → List (String × α)
  | [] => []
  | (k, v) :: rest => if k = key then erase key rest else (k, v) :: erase key rest

/-- Changes the value stored under a key, if there is one. -/
def modify (key : String) (f : α → α) : List (String × α) → List (String × α)
  | [] => []
  | (k, v) :: rest => if k = key then (k, f v) :: rest else (k, v) :: modify key f rest

/-- The keys in order. -/
def keys (entries : List (String × α)) : List String :=
  entries.map (·.1)

/-- Keeps one entry for each key: the last value, in the place of the first. -/
def unique (entries : List (String × α)) : List (String × α) :=
  entries.foldl (fun acc (k, v) => store k v acc) []

/-- What was stored under a key is found there. -/
@[simp] theorem lookup_store_self (key : String) (value : α) (entries : List (String × α)) :
    lookup key (store key value entries) = some value := by
  induction entries with
  | nil => simp [store, lookup]
  | cons kv rest ih =>
    obtain ⟨k, v⟩ := kv
    by_cases h : k = key <;> simp [store, lookup, h, ih]

/-- Storing changes nothing under other keys. -/
theorem lookup_store_of_ne {key other : String} (value : α) (entries : List (String × α))
    (h : other ≠ key) : lookup other (store key value entries) = lookup other entries := by
  induction entries with
  | nil => simp [store, lookup, Ne.symm h]
  | cons kv rest ih =>
    obtain ⟨k, v⟩ := kv
    by_cases hk : k = key
    · subst hk
      simp [store, lookup, Ne.symm h]
    · rw [store, if_neg hk, lookup, lookup, ih]

/-- Nothing is left under a key that was erased. -/
@[simp] theorem lookup_erase_self (key : String) (entries : List (String × α)) :
    lookup key (erase key entries) = none := by
  induction entries with
  | nil => rfl
  | cons kv rest ih =>
    obtain ⟨k, v⟩ := kv
    by_cases h : k = key <;> simp [erase, lookup, h, ih]

/-- Erasing changes nothing under other keys. -/
theorem lookup_erase_of_ne {key other : String} (entries : List (String × α))
    (h : other ≠ key) : lookup other (erase key entries) = lookup other entries := by
  induction entries with
  | nil => rfl
  | cons kv rest ih =>
    obtain ⟨k, v⟩ := kv
    by_cases hk : k = key
    · subst hk
      simp [erase, lookup, Ne.symm h, ih]
    · rw [erase, if_neg hk, lookup, lookup, ih]

end Workbench.Entries
