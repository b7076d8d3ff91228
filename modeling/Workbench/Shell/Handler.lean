import Workbench.Clock
import Workbench.Shell.Command
import Workbench.Shell.Result
import Workbench.Shell.State
import Workbench.Tree.Path
import Workbench.Pattern.Match
import Workbench.Decimal.Numeral

/-!
# Handlers

A handler carries out one command in a state. It answers with a result and the states that it wants
to become the state of the session, in order; most handlers want none. A handler can also break
down, which is shown as an error of its command.
-/

namespace Workbench.Shell

/-- Why a handler broke down. -/
inductive Breakdown where
  | pattern (text : String) (fault : Pattern.Fault)
  | count (fault : Decimal.CountFault)
  deriving Repr

def Breakdown.message : Breakdown → String
  | .pattern text fault => fault.message text.toList
  | .count fault => fault.message

/-- What a handler answers. -/
structure Outcome where
  result : Result
  /-- The states that are to become the state of the session, in order. -/
  states : List State
  deriving Repr

/-- Carries out a command in a state at a moment. -/
abbrev Handler := Clock → Command → State → Except Breakdown Outcome

namespace Outcome

/-- A result without a change. -/
def only (result : Result) : Outcome := ⟨result, []⟩

/-- A result and a new state. -/
def change (state : State) (result : Result) : Outcome := ⟨result, [state]⟩

/-- A result and a new tree. The result is an error iff there are error lines. -/
def changeTree (state : State) (fs : Tree.Directory) (errors : List String) : Outcome :=
  change { state with fs } (if errors.isEmpty then .text "" else .error ("\n".intercalate errors))

/-- The state after an outcome. -/
def latest (state : State) (outcome : Outcome) : State :=
  outcome.states.getLastD state

end Outcome

def readOnly (f : Command → State → Result) : Handler :=
  fun _ command state => .ok (.only (f command state))

/-- A handler that never breaks down. -/
def handler (f : Command → State → Outcome) : Handler :=
  fun _ command state => .ok (f command state)

/-- The node that a path leads to from the current directory. -/
def State.node? (state : State) (path : String) : Option Tree.Node :=
  (Tree.resolve path state.cwd state.fs).node

/-- The place of the entry that a path names from the current directory, in a tree. -/
def State.locateIn (state : State) (fs : Tree.Directory) (path : String) : Tree.Location :=
  Tree.locate path state.cwd fs

end Workbench.Shell
