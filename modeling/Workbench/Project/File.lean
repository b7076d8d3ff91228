import Workbench.Schema.Check
import Workbench.Text.Lowercase
import Workbench.Text.Split

/-!
# Project files

A file of a project has an id that its store has given to it, a name relative to the project, its
content, and the language in which an editor shows it. Files are found by name without regard to
case.
-/

namespace Workbench.Project

open Schema (Check required optional)

structure File where
  id : String
  name : String
  content : String
  language : String
  deriving Repr, DecidableEq, Inhabited

/-- The language of a file whose name says nothing about it. -/
def defaultLanguage : String := "javascript"

/-- The languages of known extensions. -/
def languages : List (String × String) :=
  [("js", "javascript"), ("mjs", "javascript"), ("cjs", "javascript"), ("jsx", "javascript"),
    ("ts", "typescript"), ("tsx", "typescript"), ("py", "python"), ("html", "html"),
    ("htm", "html"), ("css", "css"), ("c", "cpp"), ("cc", "cpp"), ("cpp", "cpp"), ("rs", "rust"),
    ("json", "json"), ("md", "markdown")]

/-- The language that the extension of a name stands for: an unknown extension stands for
itself. -/
def languageOf (name : String) : String :=
  match (Text.pieces '.' name).reverse with
  | last :: _ :: _ =>
    let extension := Text.lower last
    (Entries.lookup extension languages).getD
      (if extension.isEmpty then defaultLanguage else extension)
  | _ => defaultLanguage

namespace File

/-- A file from its fields. -/
def check (input : Json) : Check File :=
  Schema.record .value "ProjectFile"
    (fun fields =>
      ((required "id" Schema.text fields).both
        ((required "name" Schema.text fields).both
          ((optional "content" "" Schema.text fields).both
            (optional "language" defaultLanguage Schema.text fields)))).map
        fun (id, name, content, language) => ⟨id, name, content, language⟩)
    input

def toJson (f : File) : Json :=
  .obj [("id", .str f.id), ("name", .str f.name), ("content", .str f.content),
    ("language", .str f.language)]

/-- Whether a file has a name when case is ignored. -/
def isNamed (name : String) (f : File) : Bool :=
  Text.lower f.name == Text.lower name

end File

/-- The first file with a name when case is ignored. -/
def findFile? (files : List File) (name : String) : Option File :=
  files.find? (·.isNamed name)

def filesJson (files : List File) : Json :=
  .arr (files.map File.toJson)

end Workbench.Project
