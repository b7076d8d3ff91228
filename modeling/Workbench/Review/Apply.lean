import Workbench.Review.Round

/-!
# Applying patches

One patch, or all that wait, each as a round. A patch that cannot be applied stays where it is; if
several fail, the first of them is the one that is reported.
-/

namespace Workbench.Review

open Project (File)

def apply (patch : Patch) (r : Review) : Except Failure File × Review :=
  let round := (Round.start r [patch]).run
  match round.results with
  | result :: _ => (result, round.review)
  | [] => (.error .noProject, round.review)

/-- The files of results that are all good, or the first failure. -/
def gather (results : List (Except Failure File)) : Except Failure (List File) :=
  results.mapM id

/-- Applies all patches that wait. -/
def applyAll (r : Review) : Except Failure (List File) × Review :=
  let round := (Round.start r r.pending).run
  (gather round.results, round.review)

end Workbench.Review
