import Workbench.Shell.Files

/-!
# Operands one after another

Some commands carry out their operands in turn, each on the tree that the operands before it have
left. `InTurn` tells what such a command has come to if it is known which operands can be carried
out in which trees, and what they do there: those that can be have done it, and each of the others
has left the tree as it was and an error line. Whatever each operand keeps is kept by all of them
(`InTurn.relates`), also from one operand on (`InTurn.exists_of_done`).
-/

namespace Workbench.Shell

open Workbench.Tree (Directory)

/-- The operands with their error lines, those that could be carried out without one; and the trees
before the first operand and after the last. -/
inductive InTurn (able : String → Directory → Prop) (does : String → Directory → Directory → Prop)
    (worded : String → String → Prop) : List (String × Option String) → Directory → Directory → Prop
  | nil (d : Directory) : InTurn able does worded [] d d
  /-- The first operand does its work. -/
  | done {operand : String} {rest : List (String × Option String)} {before middle after : Directory}
      (fit : able operand before) (did : does operand before middle)
      (later : InTurn able does worded rest middle after) :
      InTurn able does worded ((operand, none) :: rest) before after
  /-- The first operand fails. -/
  | failed {operand line : String} {rest : List (String × Option String)} {before after : Directory}
      (unfit : ¬ able operand before) (wording : worded operand line)
      (later : InTurn able does worded rest before after) :
      InTurn able does worded ((operand, some line) :: rest) before after

variable {able : String → Directory → Prop} {does : String → Directory → Directory → Prop}
variable {worded : String → String → Prop} {change : Change} {changes : List Change}
variable {operand line : String} {outcomes : List (String × Option String)}
variable {before after fs : Directory}

/-! ## Changes one after another -/

/-- One more change, behind others that have led to a tree and error lines. -/
def carry (done : Directory × List String) (change : Change) : Directory × List String :=
  ((change done.1).2, done.2 ++ (change done.1).1.toList)

/-- Error lines that were there before stay in front. -/
theorem foldl_carry (changes : List Change) (fs : Directory) (errors : List String) :
    changes.foldl carry (fs, errors) =
      ((applyChanges changes fs).1, errors ++ (applyChanges changes fs).2) := by
  have whole (changes : List Change) (fs : Directory) :
      applyChanges changes fs = changes.foldl carry (fs, []) := rfl
  induction changes generalizing fs errors with
  | nil => simp [applyChanges]
  | cons change changes ih =>
    rw [whole, List.foldl_cons, List.foldl_cons, carry, carry, ih, ih _ ([] ++ _)]
    simp

/-- The first change comes first, and the others find the tree that it leaves. -/
theorem applyChanges_cons (change : Change) (changes : List Change) (fs : Directory) :
    applyChanges (change :: changes) fs =
      ((applyChanges changes (change fs).2).1,
        (change fs).1.toList ++ (applyChanges changes (change fs).2).2) :=
  foldl_carry changes (change fs).2 (change fs).1.toList

/-- A handler that carries out a change for each operand hands over the tree that they leave. -/
theorem changing_eq (change : Command → State → String → Change) (command : Command)
    (state : State) :
    let left := applyChanges (command.args.map (change command state)) state.fs
    changing change command state =
      ⟨if left.2 = [] then .text "" else .error ("\n".intercalate left.2),
        [{ state with fs := left.1 }]⟩ := by
  simp [changing, Outcome.changeTree, Outcome.change]

/-! ## Operands in turn -/

/-- If each operand that can be carried out is, and each other one fails and leaves the tree as it
was, then operands one after another are carried out in turn, and the error lines are those of the
operands that failed. -/
theorem exists_inTurn {change : String → Change}
    (each : ∀ operand d,
      (∃ d', change operand d = (none, d') ∧ able operand d ∧ does operand d d') ∨
      ∃ line, change operand d = (some line, d) ∧ ¬ able operand d ∧ worded operand line)
    (operands : List String) (fs : Directory) :
    ∃ outcomes, outcomes.map Prod.fst = operands ∧
      InTurn able does worded outcomes fs (applyChanges (operands.map change) fs).1 ∧
      (applyChanges (operands.map change) fs).2 = outcomes.filterMap Prod.snd := by
  induction operands generalizing fs with
  | nil => exact ⟨[], rfl, .nil fs, rfl⟩
  | cons operand operands ih =>
    rw [List.map_cons, applyChanges_cons]
    rcases each operand fs with ⟨changed, made, fit, did⟩ | ⟨line, refused, unfit, wording⟩
    · obtain ⟨outcomes, same, later, lines⟩ := ih changed
      rw [made]
      exact ⟨(operand, none) :: outcomes, by simp [same], .done fit did later, by simp [lines]⟩
    · obtain ⟨outcomes, same, later, lines⟩ := ih fs
      rw [refused]
      exact ⟨(operand, some line) :: outcomes, by simp [same], .failed unfit wording later,
        by simp [lines]⟩

namespace InTurn

variable {r : Directory → Directory → Prop}

/-- What each operand keeps is kept by all of them. -/
theorem relates (refl : ∀ d, r d d) (trans : ∀ {d d' d''}, r d d' → r d' d'' → r d d'')
    (each : ∀ {operand d d'}, able operand d → does operand d d' → r d d')
    (h : InTurn able does worded outcomes before after) : r before after := by
  induction h with
  | nil d => exact refl d
  | done fit did later ih => exact trans (each fit did) ih
  | failed unfit wording later ih => exact ih

/-- An operand that was carried out has done its work in some tree, and what each operand keeps of
the tree that it has left is kept to the end. -/
theorem exists_of_done (refl : ∀ d, r d d) (trans : ∀ {d d' d''}, r d d' → r d' d'' → r d d'')
    (each : ∀ {operand d d'}, able operand d → does operand d d' → r d d')
    (h : InTurn able does worded outcomes before after) (done : (operand, none) ∈ outcomes) :
    ∃ d d', able operand d ∧ does operand d d' ∧ r d' after := by
  induction h with
  | nil d => cases done
  | done fit did later ih =>
    rcases List.mem_cons.mp done with first | behind
    · obtain ⟨rfl, -⟩ := Prod.mk.inj first
      exact ⟨_, _, fit, did, later.relates refl trans each⟩
    · exact ih behind
  | failed unfit wording later ih =>
    rcases List.mem_cons.mp done with first | behind
    · cases first
    · exact ih behind

/-- The line of an operand that has failed is worded for it. -/
theorem worded_of_failed (h : InTurn able does worded outcomes before after)
    (failed : (operand, some line) ∈ outcomes) : worded operand line := by
  induction h with
  | nil d => cases failed
  | done fit did later ih =>
    rcases List.mem_cons.mp failed with first | behind
    · cases first
    · exact ih behind
  | failed unfit wording later ih =>
    rcases List.mem_cons.mp failed with first | behind
    · obtain ⟨rfl, same⟩ := Prod.mk.inj first
      cases same
      exact wording
    · exact ih behind

end InTurn

end Workbench.Shell
