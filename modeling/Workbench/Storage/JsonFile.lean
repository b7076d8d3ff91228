import Workbench.Storage.Basic
import Workbench.Json.Reader
import Workbench.Json.Printer
import Workbench.Text.Utf8

/-!
# Storage in a file

A storage that is one JSON object in a file, read anew for every call and written after every change.
A file that is not there, is no JSON or holds no object counts as empty. Removing a key that holds
`null` does not write.

What is stored may be nested as deep as it likes here, as if the reader and the printer never ran out
of stack; the storage itself puts texts only into its object, so that it needs one level.
-/

namespace Workbench.Storage

/-- A file that holds a storage: its bytes, if it is there. -/
structure JsonFile where
  bytes : Option (List UInt8)
  deriving Repr, DecidableEq, Inhabited

/-- Why a file cannot be read at all. -/
inductive ReadFault where
  | malformed (m : Text.Utf8.Malformed)
  | number (e : Json.ReadError)
  deriving Repr, DecidableEq

def ReadFault.message : ReadFault → String
  | .malformed m => m.message "utf-8"
  | .number e => e.message

namespace JsonFile

/-- The values that a file holds. -/
def load (f : JsonFile) : Except ReadFault (List (String × Json)) :=
  match f.bytes with
  | none => .ok []
  | some bytes =>
    match Text.Utf8.decode bytes with
    | .error m => .error (.malformed m)
    | .ok cs =>
      match Json.read (String.ofList cs) with
      | .ok (.obj fields) => .ok fields
      | .ok _ => .ok []
      | .error e =>
        match e.fault with
        -- such a text is well-formed, so it is not taken for a file that holds no object
        | .tooManyDigits _ => .error (.number e)
        | _ => .ok []

/-- The file that holds given values. -/
def write (fields : List (String × Json)) : JsonFile :=
  ⟨some (Json.obj fields).spaced.toUTF8.toList⟩

/-- The value under a key. -/
def get (f : JsonFile) (key : String) : Except ReadFault Json :=
  f.load.map fun fields => (Entries.lookup key fields).getD .null

/-- Stores a text under a key. -/
def set (f : JsonFile) (key value : String) : Except ReadFault JsonFile :=
  f.load.map fun fields => write (Entries.store key (.str value) fields)

/-- Removes the value under a key. -/
def remove (f : JsonFile) (key : String) : Except ReadFault JsonFile :=
  f.load.map fun fields =>
    match Entries.lookup key fields with
    | none => f
    | some Json.null => f
    | some _ => write (Entries.erase key fields)

end JsonFile

end Workbench.Storage
