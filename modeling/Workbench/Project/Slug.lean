import Workbench.Text.Lowercase
import Workbench.Text.Blank

/-!
# Slugs

The name of the directory that shows a project: the name of the project in lower case, without
blanks around it, and with one underscore for each run of blanks inside.
-/

namespace Workbench.Project

def slug (name : String) : String :=
  String.ofList (Text.collapseBlanks '_' (Text.lower (Text.trimmed name)).toList)

end Workbench.Project
