import Workbench.Entries

/-!
# Storage

Durable storage of texts under keys, in which sessions are persisted.
-/

namespace Workbench

/-- Texts stored under keys. -/
structure Storage where
  entries : List (String × String)
  deriving Repr, DecidableEq, Inhabited

namespace Storage

/-- A storage that holds nothing. -/
def empty : Storage := ⟨[]⟩

/-- The text under a key. -/
def get? (s : Storage) (key : String) : Option String :=
  Entries.lookup key s.entries

/-- Stores a text under a key. -/
def set (s : Storage) (key value : String) : Storage :=
  ⟨Entries.store key value s.entries⟩

/-- Removes the text under a key. -/
def remove (s : Storage) (key : String) : Storage :=
  ⟨Entries.erase key s.entries⟩

/-- What was stored under a key is found there. -/
@[simp] theorem get?_set_self (s : Storage) (key value : String) :
    (s.set key value).get? key = some value := by
  simp [get?, set]

/-- Nothing is left under a key that was removed. -/
@[simp] theorem get?_remove_self (s : Storage) (key : String) :
    (s.remove key).get? key = none := by
  simp [get?, remove]

end Storage

end Workbench
