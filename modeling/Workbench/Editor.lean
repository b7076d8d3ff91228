import Workbench.Project.File

/-!
# The editor

The editor keeps a list of tabs, which of them is active, and a buffer for each file name that is
open. A buffer outlives its tab for whoever holds on to it, but is then disposed and can no longer
be typed into; so buffers are numbered, and names lead to numbers.

An editor can be made to forget: after a number of look-ups it finds no buffer any more.
-/

namespace Workbench

open Project (File)

/-- The text of an open file. -/
structure Buffer where
  fileName : String
  language : String
  value : String
  /-- Every value that was typed, in order. -/
  history : List String
  disposed : Bool
  deriving Repr, DecidableEq, Inhabited

structure Editor where
  tabs : List File
  active : Option String
  /-- The buffer of each file name. -/
  names : List (String × Nat)
  /-- All buffers that were ever opened. -/
  buffers : List Buffer
  /-- How many look-ups still find something; nothing if there is no end to them. -/
  lookups : Option Nat
  deriving Repr, DecidableEq, Inhabited

/-- An attempt to type into a buffer that is disposed. -/
structure DisposedFault where
  fileName : String
  deriving Repr, DecidableEq

def DisposedFault.message (f : DisposedFault) : String :=
  s!"Model for '{f.fileName}' is disposed"

namespace Editor

/-- An editor without tabs. -/
def empty (lookups : Option Nat) : Editor := ⟨[], none, [], [], lookups⟩

def buffer? (e : Editor) (number : Nat) : Option Buffer :=
  e.buffers[number]?

/-- Changes a buffer. -/
def modifyBuffer (e : Editor) (number : Nat) (f : Buffer → Buffer) : Editor :=
  { e with buffers := e.buffers.modify number f }

/-- The number of the live buffer of a name. -/
def live? (e : Editor) (name : String) : Option Nat := do
  let number ← Entries.lookup name e.names
  let buffer ← e.buffer? number
  if buffer.disposed then none else some number

/-- Opens a file in a tab, or shows its tab, and sees to it that its name has a live buffer. -/
def openFile (e : Editor) (file : File) : Editor :=
  let tabs := if e.tabs.any (·.id == file.id) then e.tabs else e.tabs ++ [file]
  let e := { e with tabs, active := some file.id }
  match e.live? file.name with
  | some _ => e
  | none =>
    { e with
      names := Entries.store file.name e.buffers.length e.names
      buffers := e.buffers ++ [⟨file.name, file.language, file.content, [], false⟩] }

/-- Takes a name away and disposes its buffer. -/
def dropName (e : Editor) (name : String) : Editor :=
  match Entries.lookup name e.names with
  | none => e
  | some number =>
    { e.modifyBuffer number ({ · with disposed := true }) with names := Entries.erase name e.names }

/-- Closes the tab of a file and disposes its buffer; the last tab that is left becomes active. -/
def closeFile (e : Editor) (id : String) : Editor :=
  let closing := e.tabs.filter (·.id == id)
  let tabs := e.tabs.filter (·.id != id)
  let e := closing.foldl (fun e tab => e.dropName tab.name) { e with tabs }
  if e.active == some id then { e with active := tabs.getLast?.map (·.id) } else e

/-- Looks up the live buffer of a name. An editor that forgets finds nothing once its look-ups are
used up. -/
def lookup (e : Editor) (name : String) : Option Nat × Editor :=
  match e.lookups with
  | none => (e.live? name, e)
  | some 0 => (none, e)
  | some (n + 1) => (e.live? name, { e with lookups := some n })

/-- Types a value into a buffer. -/
def setValue (e : Editor) (number : Nat) (value : String) : Except DisposedFault Editor :=
  match e.buffer? number with
  | none => .ok e
  | some buffer =>
    if buffer.disposed then .error ⟨buffer.fileName⟩
    else
      .ok (e.modifyBuffer number fun b => { b with value, history := b.history ++ [value] })

/-- Disposes a buffer. -/
def dispose (e : Editor) (number : Nat) : Editor :=
  e.modifyBuffer number ({ · with disposed := true })

/-- The buffers by name. -/
def open? (e : Editor) : List (String × Buffer) :=
  e.names.filterMap fun (name, number) => (e.buffer? number).map (name, ·)

end Editor

def Buffer.toJson (b : Buffer) : Json :=
  .obj [("file_name", .str b.fileName), ("language", .str b.language), ("value", .str b.value),
    ("history", .ofTexts b.history), ("disposed", .bool b.disposed)]

def Editor.toJson (e : Editor) : Json :=
  .obj [("tabs", .ofTexts (e.tabs.map (·.id))), ("active", .ofText? e.active),
    ("models", .obj (e.open?.map fun (name, b) => (name, b.toJson)))]

end Workbench
