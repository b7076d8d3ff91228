import Workbench.Tree.Basic
import Workbench.Schema.Check

/-!
# Trees as JSON

A node is an object whose field `type` tells a file from a directory. Owner, permissions, content
and children may be left out; the root of a tree is a directory and need not say so.
-/

namespace Workbench.Tree

open Schema (Check Fields Source required optional)

def fileTag : String := "file"

def directoryTag : String := "directory"

/-- Permissions in their written form. -/
def checkPermissions (input : Json) : Check Permissions :=
  (Schema.text input).refine fun s =>
    match Permissions.ofText s with
    | .ok p => .ok p
    | .error fault => Check.fail (.refused fault.message) input

/-- Name, owner and permissions. -/
def checkAttributes (default : Permissions) (fields : Fields) : Check Attributes :=
  ((required "name" Schema.text fields).both
    ((optional "owner" "user" Schema.text fields).both
      (optional "permissions" default checkPermissions fields))).map
    fun (name, owner, permissions) => ⟨name, owner, permissions⟩

def checkFile (fields : Fields) : Check Node :=
  ((checkAttributes .ofFile fields).both (optional "content" "" Schema.text fields)).map
    fun (attributes, content) => .file attributes content

mutual

/-- A node that says what it is. -/
def checkNode : Json → Check Node
  | .obj fields =>
    match Entries.lookup "type" fields with
    | none => Check.fail .noTag (.obj fields)
    | some tag =>
      if tag.str? = some fileTag then Check.within (.name fileTag) (checkFile fields)
      else if tag.str? = some directoryTag then
        Check.within (.name directoryTag)
          (((checkAttributes .ofDirectory fields).both (checkChildren fields)).map
            fun (attributes, entries) => .directory attributes entries)
      else Check.fail (.unknownTag tag.plainText [fileTag, directoryTag]) (.obj fields)
  | input => Check.fail (.notMapping .text) input

/-- The children among the fields of a directory; none if the field is missing. -/
def checkChildren : List (String × Json) → Check Branch
  | [] => .ok []
  | (key, input) :: rest =>
    if key = "children" then Check.within (.name key) (checkBranch input) else checkChildren rest

/-- The children of a directory. -/
def checkBranch : Json → Check Branch
  | .obj fields => checkEntries fields
  | input => Check.fail (.notMapping .text) input

/-- The children of a directory one by one. -/
def checkEntries : List (String × Json) → Check Branch
  | [] => .ok []
  | (key, input) :: rest =>
    ((Check.within (.name key) (checkNode input)).both (checkEntries rest)).map
      fun (node, entries) => (key, node) :: entries

end

/-- The tag of a root, which may be left out. -/
def checkRootTag (fields : Fields) : Check Unit :=
  optional "type" ()
    (fun tag =>
      if tag.str? = some directoryTag then .ok () else Check.fail (.notLiteral [directoryTag]) tag)
    fields

/-- The root of a tree. -/
def Directory.check (input : Json) : Check Directory :=
  Schema.record .text "DirectoryNode"
    (fun fields =>
      ((checkRootTag fields).both
        ((checkAttributes .ofDirectory fields).both (checkChildren fields))).map
        fun (_, attributes, entries) => ⟨attributes, entries⟩)
    input

/-- Reads a tree from a JSON text. -/
def Directory.read (text : String) : Check Directory :=
  match Json.readStrict? text with
  | some input => Directory.check input
  | none => Check.fail .unreadable (.str text)

/-- Type, name, owner and permissions as fields. -/
def Attributes.fields (tag : String) (a : Attributes) : Fields :=
  [("type", .str tag), ("name", .str a.name), ("owner", .str a.owner),
    ("permissions", .str a.permissions.text)]

mutual

def Node.toJson : Node → Json
  | .file a content => .obj (a.fields fileTag ++ [("content", .str content)])
  | .directory a entries =>
    .obj (a.fields directoryTag ++ [("children", .obj (branchFields entries))])

/-- The entries of a directory as fields. -/
def branchFields : List (String × Node) → List (String × Json)
  | [] => []
  | (key, node) :: rest => (key, node.toJson) :: branchFields rest

end

def Directory.toJson (d : Directory) : Json :=
  d.node.toJson

/-- A node without what is below it: its size, and its content or the names of its entries. -/
def Node.outline (n : Node) : Json :=
  let size := ("size", Json.ofNat n.size)
  match n with
  | .file a content => .obj (a.fields fileTag ++ [size, ("content", .str content)])
  | .directory a entries =>
    .obj (a.fields directoryTag ++
      [size, ("children", Json.ofTexts (Directory.sortedNames ⟨a, entries⟩))])

end Workbench.Tree
