/-!
# Permissions

Reading, writing and executing, each allowed or not for the owner, the group and all others. The
written form has nine characters: for each of the three, `r`, `w` and `x`, or a dash for what is
not allowed.
-/

namespace Workbench.Tree

/-- What one class of users may do. -/
structure Access where
  read : Bool
  write : Bool
  execute : Bool
  deriving Repr, DecidableEq, Inhabited

/-- What the owner, the group and all others may do. -/
structure Permissions where
  owner : Access
  group : Access
  others : Access
  deriving Repr, DecidableEq, Inhabited

/-- Why a text is no written form of permissions. -/
inductive PermissionFault where
  | length (text : String)
  | character (c : Char) (text : String)
  deriving Repr, DecidableEq

def PermissionFault.message : PermissionFault → String
  | .length text => s!"Permissions must be 9 characters, got '{text}'"
  | .character c text => s!"Invalid permission character '{c}' in '{text}'"

/-- The written form of one class. -/
def Access.chars (a : Access) : List Char :=
  [if a.read then 'r' else '-', if a.write then 'w' else '-', if a.execute then 'x' else '-']

namespace Permissions

/-- The written form of permissions. -/
def text (p : Permissions) : String :=
  String.ofList (p.owner.chars ++ p.group.chars ++ p.others.chars)

/-- Whether the flag `letter` is set by a character; nothing if the character is neither the letter
nor a dash. -/
def flagOf? (letter c : Char) : Option Bool :=
  if c = letter then some true else if c = '-' then some false else none

/-- The class that three characters describe. -/
def accessOf? (a b c : Char) : Option Access := do
  pure ⟨← flagOf? 'r' a, ← flagOf? 'w' b, ← flagOf? 'x' c⟩

/-- The first character that does not fit its column. -/
def misfit? (cs : List Char) : Option Char :=
  (cs.zip ['r', 'w', 'x', 'r', 'w', 'x', 'r', 'w', 'x']).findSome? fun (c, letter) =>
    if (flagOf? letter c).isNone then some c else none

/-- Reads the written form of permissions. -/
def ofText (text : String) : Except PermissionFault Permissions :=
  match text.toList with
  | [a, b, c, d, e, f, g, h, i] =>
    match accessOf? a b c, accessOf? d e f, accessOf? g h i with
    | some owner, some group, some others => .ok ⟨owner, group, others⟩
    | _, _, _ => .error (.character ((misfit? text.toList).getD '-') text)
  | _ => .error (.length text)

/-- The permissions of a new file: all may read, the owner may write. -/
def ofFile : Permissions :=
  ⟨⟨true, true, false⟩, ⟨true, false, false⟩, ⟨true, false, false⟩⟩

/-- The permissions of a new directory: all may list and enter it, the owner may change it. -/
def ofDirectory : Permissions :=
  ⟨⟨true, true, true⟩, ⟨true, false, true⟩, ⟨true, false, true⟩⟩

/-- Everything is allowed to everyone. -/
def all : Permissions :=
  ⟨⟨true, true, true⟩, ⟨true, true, true⟩, ⟨true, true, true⟩⟩

/-- The three letters of an access can be read back. -/
@[simp] theorem accessOf?_chars (a : Access) :
    accessOf? (if a.read then 'r' else '-') (if a.write then 'w' else '-')
      (if a.execute then 'x' else '-') = some a := by
  rcases a with ⟨_ | _, _ | _, _ | _⟩ <;> rfl

/-- Reading undoes writing. -/
theorem ofText_text (p : Permissions) : ofText p.text = .ok p := by
  simp [ofText, text, Access.chars]

end Permissions

end Workbench.Tree
