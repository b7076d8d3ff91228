import Workbench.Proofs.Shell.Operands
import Workbench.Proofs.Tree.Addressing

/-!
# Removing files and directories

`rm` carries out its operands in turn. An operand is taken exactly if it names a file, or a
directory when those are removed, too; then what stands at its path and below is gone, and every
other item stays (`Removes`). So nothing is added or changed, what is gone was at or below an entry
that was taken, and without that flag every directory stays. `rmdir` looks at all of its operands
first: it removes exactly their entries, all of them empty directories, or nothing.

With a flag for it, `rm` passes over operands that lead nowhere. Whether an operand leads somewhere
and whether it names an entry are two questions, which `locate` and `resolve` answer differently for
a single segment with a tilde: such an operand may name a directory of the current directory and yet
lead nowhere. It is refused then, and not passed over (`Astray`).
-/

namespace Workbench.Shell

open Workbench.Tree (Attributes Directory LoneTilde Node)

/-- Where the entry stands that an operand names. -/
def State.entryPath (state : State) (operand : String) : List String :=
  Tree.normalize (Tree.parentPath operand) state.cwd ++ [Tree.baseName operand]

/-- Directories are removed, too. -/
def Command.IsRecursive (command : Command) : Prop :=
  command.hasOption "r" = true ∨ command.hasOption "R" = true

instance (command : Command) : Decidable command.IsRecursive :=
  inferInstanceAs (Decidable (_ ∨ _))

section Operands

variable (command : Command) (state : State) (operand : String)

/-- The operand names a file, or a directory when those are removed, too. -/
def Takes (d : Directory) : Prop :=
  ∃ node, (Tree.locate operand state.cwd d).node = some node ∧
    (node.isDirectory = true → command.IsRecursive)

/-- The operand leads nowhere, and that is to be passed over. -/
def Passes (d : Directory) : Prop :=
  command.hasOption "f" = true ∧ (Tree.resolve operand state.cwd d).node = none

/-- The operand is taken, or it is passed over and names no entry. -/
def Handles (d : Directory) : Prop :=
  Takes command state operand d ∨
    Passes command state operand d ∧ (Tree.locate operand state.cwd d).node = none

/-- What an operand does to a tree: what stands at its path and below is gone if it is taken, and
otherwise nothing changes. -/
structure Removes (before after : Directory) : Prop where
  taken : Takes command state operand before → ∀ q, after.itemAt? q =
    if state.entryPath operand <+: q then none else before.itemAt? q
  spared : ¬ Takes command state operand before → after = before

/-- The operand is a single segment with a tilde. It leads nowhere and is to be passed over, but it
names a directory, and directories are not removed. -/
structure Astray (d : Directory) : Prop where
  lone : LoneTilde operand
  passes : Passes command state operand d
  named : ∃ a entries, (Tree.locate operand state.cwd d).node = some (.directory a entries)
  spared : ¬ command.IsRecursive

end Operands

/-- The line of an operand that is neither taken nor passed over. -/
inductive RefusesRemoving (operand : String) : String → Prop
  | dots : RefusesRemoving operand
      s!"rm: refusing to remove '.' or '..' directory: skipping '{operand}'"
  | missing : RefusesRemoving operand s!"rm: cannot remove '{operand}': No such file or directory"
  | directory : RefusesRemoving operand s!"rm: cannot remove '{operand}': Is a directory"

variable {command : Command} {state : State} {operand line : String} {node : Node}
variable {outcomes : List (String × Option String)} {d fs before middle after : Directory}

/-! ## One operand -/

/-- What an operand names stands at its path, and is removed there from any tree. -/
theorem removeAt_of_located (located : (Tree.locate operand state.cwd d).node = some node) :
    d.get? (state.entryPath operand) = some node ∧
    ∀ fs q, (removeAt (Tree.locate operand state.cwd d) fs).itemAt? q =
      if state.entryPath operand <+: q then none else fs.itemAt? q := by
  rcases Tree.locate_eq_or operand state.cwd d with nowhere | ⟨valid, a, entries, there⟩
  · rw [nowhere] at located
    cases located
  · rw [Tree.locate_of_directory valid there] at located ⊢
    refine ⟨?_, fun fs q => ?_⟩
    · rw [State.entryPath, Directory.get?_concat, there]
      exact located
    · exact Tree.itemAt?_eraseAt fs _ _ q

/-- An operand is removed, or fails and leaves the tree. -/
theorem rmChange_cases (command : Command) (state : State) (operand : String) (d : Directory) :
    (∃ d', rmChange command state operand d = (none, d') ∧ Handles command state operand d ∧
      Removes command state operand d d') ∨
    ∃ line, rmChange command state operand d = (some line, d) ∧ ¬ Handles command state operand d ∧
      RefusesRemoving operand line := by
  rw [rmChange, State.locateIn]
  cases located : (Tree.locate operand state.cwd d).node with
  | none =>
    have spared : ¬ Takes command state operand d := by
      rintro ⟨node, named, -⟩
      rw [located] at named
      cases named
    dsimp only
    cases found : (Tree.resolve operand state.cwd d).node with
    | some node =>
      refine .inr ⟨_, rfl, ?_, .dots⟩
      rintro (taken | ⟨⟨-, nowhere⟩, -⟩)
      · exact spared taken
      · rw [found] at nowhere
        cases nowhere
    | none =>
      by_cases force : command.hasOption "f" = true
      · exact .inl ⟨d, if_pos force, .inr ⟨⟨force, found⟩, located⟩,
          ⟨fun taken => absurd taken spared, fun _ => rfl⟩⟩
      · refine .inr ⟨_, if_neg force, ?_, .missing⟩
        rintro (taken | ⟨⟨given, -⟩, -⟩)
        · exact spared taken
        · exact force given
  | some node =>
    dsimp only
    by_cases barred : node.isDirectory = true ∧ ¬ command.IsRecursive
    · have refused : (node.isDirectory && !(command.hasOption "r" || command.hasOption "R")) =
          true := by simpa [Command.IsRecursive] using barred
      refine .inr ⟨_, if_pos refused, ?_, .directory⟩
      rintro (⟨node', named, allowed⟩ | ⟨-, nowhere⟩)
      · rw [located] at named
        obtain rfl := Option.some.inj named
        exact barred.2 (allowed barred.1)
      · rw [located] at nowhere
        cases nowhere
    · have accepted : ¬ (node.isDirectory && !(command.hasOption "r" || command.hasOption "R")) =
          true := by simpa [Command.IsRecursive] using barred
      have taken : Takes command state operand d :=
        ⟨node, located, fun directory => by_contra fun spared => barred ⟨directory, spared⟩⟩
      exact .inl ⟨_, if_neg accepted, .inl taken,
        ⟨fun _ => (removeAt_of_located located).2 d, fun spared => absurd taken spared⟩⟩

/-- Passing over what leads nowhere, whatever it names, is what happens to an operand in every tree
but those in which it is astray. -/
theorem handles_iff : ((Takes command state operand d ∨ Passes command state operand d) ↔
    Handles command state operand d) ↔ ¬ Astray command state operand d := by
  constructor
  · rintro same ⟨-, passes, ⟨a, entries, named⟩, spared⟩
    rcases same.mp (.inr passes) with ⟨node, located, allowed⟩ | ⟨-, nowhere⟩
    · rw [named] at located
      cases located
      exact spared (allowed rfl)
    · rw [named] at nowhere
      cases nowhere
  · intro straight
    refine ⟨?_, Or.imp_right And.left⟩
    rintro (taken | passes)
    · exact .inl taken
    · by_cases taken : Takes command state operand d
      · exact .inl taken
      refine .inr ⟨passes, ?_⟩
      -- what is named and not led to is a directory behind a lone tilde
      by_contra somewhere
      obtain ⟨node, located⟩ := Option.ne_none_iff_exists'.mp somewhere
      have barred : node.isDirectory = true ∧ ¬ command.IsRecursive := by
        by_contra free
        exact taken ⟨node, located, fun directory => by_contra fun spared =>
          free ⟨directory, spared⟩⟩
      refine straight ⟨?_, passes, ?_, barred.2⟩
      · by_contra several
        have addresses := Tree.addresses_of_not_loneTilde several state.cwd d
        rcases Tree.locate_eq_or operand state.cwd d with nowhere | ⟨valid, a, entries, there⟩
        · rw [nowhere] at located
          cases located
        · have held := addresses.held _ (by rw [Tree.locate_of_directory valid there])
          rw [located, passes.2] at held
          cases held
      · cases node with
        | file a content => cases barred.1
        | directory a entries => exact ⟨a, entries, located⟩

/-- The line of a refusal is one line, unless the operand itself holds a line feed. -/
theorem RefusesRemoving.newline_not_mem (h : RefusesRemoving operand line)
    (plain : '\n' ∉ operand.toList) : '\n' ∉ line.toList := by
  cases h <;> simp [toString, plain]

/-! ## What is left -/

/-- What is gone after operands in turn was at or below the entry of one that was carried out, and
that entry was there before and is gone as well. Every other item is as it was. -/
def Thins (state : State) (outcomes : List (String × Option String)) (before after : Directory) :
    Prop :=
  ∀ q, after.itemAt? q = before.itemAt? q ∨ after.itemAt? q = none ∧
    ∃ operand, (operand, none) ∈ outcomes ∧ state.entryPath operand <+: q ∧
      before.itemAt? (state.entryPath operand) ≠ none ∧
      after.itemAt? (state.entryPath operand) = none

/-- Two trees have the same directories. -/
def SameDirectories (before after : Directory) : Prop :=
  ∀ q a, after.itemAt? q = some (.directory a) ↔ before.itemAt? q = some (.directory a)

/-- The entry of an operand that is taken is there. -/
theorem Takes.itemAt?_ne_none (taken : Takes command state operand d) :
    d.itemAt? (state.entryPath operand) ≠ none := by
  obtain ⟨node, located, -⟩ := taken
  rw [Directory.itemAt?, Node.itemAt?, ← Directory.get?, (removeAt_of_located located).1]
  exact Option.some_ne_none _

/-- One operand more in front: what it takes was there before, and the others add nothing. -/
theorem Removes.thins (removes : Removes command state operand before middle)
    (thins : Thins state outcomes middle after) :
    Thins state ((operand, none) :: outcomes) before after := by
  intro q
  by_cases taken : Takes command state operand before
  · have cut := removes.taken taken
    have gone {q : List String} (below : state.entryPath operand <+: q) :
        after.itemAt? q = none := by
      rcases thins q with same | ⟨none_left, -⟩
      · rw [same, cut, if_pos below]
      · exact none_left
    by_cases below : state.entryPath operand <+: q
    · exact .inr ⟨gone below, operand, List.mem_cons_self, below, taken.itemAt?_ne_none,
        gone List.prefix_rfl⟩
    · rcases thins q with same | ⟨none_left, other, mem, on, there, missing⟩
      · exact .inl (by rw [same, cut, if_neg below])
      · refine .inr ⟨none_left, other, List.mem_cons_of_mem _ mem, on, ?_, missing⟩
        rw [cut] at there
        split at there
        · exact absurd rfl there
        · exact there
  · obtain rfl := removes.spared taken
    rcases thins q with same | ⟨none_left, other, mem, entry⟩
    · exact .inl same
    · exact .inr ⟨none_left, other, List.mem_cons_of_mem _ mem, entry⟩

/-- One operand after another, the tree is thinned out. -/
theorem InTurn.thins {able : String → Directory → Prop} {worded : String → String → Prop}
    (run : InTurn able (Removes command state) worded outcomes before after) :
    Thins state outcomes before after := by
  induction run with
  | nil d => exact fun q => .inl rfl
  | done fit did later ih => exact did.thins ih
  | failed unfit wording later ih =>
    intro q
    rcases ih q with same | ⟨none_left, other, mem, entry⟩
    · exact .inl same
    · exact .inr ⟨none_left, other, List.mem_cons_of_mem _ mem, entry⟩

/-- Only files are taken if directories are not removed, and below a file there is nothing. -/
theorem Removes.sameDirectories (removes : Removes command state operand before after)
    (spared : ¬ command.IsRecursive) : SameDirectories before after := by
  intro q a
  by_cases taken : Takes command state operand before
  · rw [removes.taken taken q]
    split
    · next below =>
      obtain ⟨node, located, allowed⟩ := taken
      have entry := (removeAt_of_located located).1
      obtain ⟨r, rfl⟩ := below
      cases node with
      | directory b entries => exact absurd (allowed rfl) spared
      | file b content =>
        rw [Directory.itemAt?, Node.itemAt?, Node.get?_append, ← Directory.get?, entry]
        cases r <;> simp [Node.get?, Node.item]
    · exact Iff.rfl
  · rw [removes.spared taken]

/-! ## Empty directories -/

/-- An operand of `rmdir` that is not at fault names an empty directory. -/
theorem exists_of_rmdirFault?_eq_none (sound : rmdirFault? state operand = none) :
    ∃ a, (Tree.locate operand state.cwd state.fs).node = some (.directory a []) := by
  rw [rmdirFault?, State.locateIn] at sound
  split at sound
  · cases sound
  · cases located : (Tree.locate operand state.cwd state.fs).node with
    | none =>
      rw [located] at sound
      cases sound
    | some node =>
      rw [located] at sound
      cases node with
      | file a content => cases sound
      | directory a entries =>
        cases entries with
        | nil => exact ⟨a, rfl⟩
        | cons entry entries => cases sound

/-- Removing what each operand names in one tree takes the entries of all of them out of another. -/
theorem itemAt?_foldl_removeAt {operands : List String}
    (named : ∀ operand ∈ operands, ∃ node,
      (Tree.locate operand state.cwd d).node = some node) (fs : Directory) (q : List String) :
    (operands.foldl (fun fs operand => removeAt (Tree.locate operand state.cwd d) fs)
        fs).itemAt? q =
      if ∃ operand ∈ operands, state.entryPath operand <+: q then none else fs.itemAt? q := by
  induction operands generalizing fs with
  | nil => simp
  | cons operand operands ih =>
    obtain ⟨node, located⟩ := named operand List.mem_cons_self
    rw [List.foldl_cons, ih fun other mem => named other (List.mem_cons_of_mem _ mem),
      (removeAt_of_located located).2]
    by_cases here : state.entryPath operand <+: q <;> simp [here]

/-- `rmdir` fails, or it takes exactly the entries of its operands out of the tree, and these are
empty directories. -/
theorem rmdir_cases (clock : Clock) (command : Command) (state : State) :
    (∃ line, rmdir clock command state = .ok (.only (.error line))) ∨
    ∃ fs, rmdir clock command state = .ok ⟨.text "", [{ state with fs }]⟩ ∧
      (∀ operand ∈ command.args, ∃ a,
        (Tree.locate operand state.cwd state.fs).node = some (.directory a [])) ∧
      ∀ q, fs.itemAt? q =
        if q ∈ command.args.map state.entryPath then none else state.fs.itemAt? q := by
  rw [rmdir, handler]
  dsimp only
  split
  · exact .inl ⟨_, rfl⟩
  · split
    · exact .inl ⟨_, rfl⟩
    · next sound =>
      have empty : ∀ operand ∈ command.args, ∃ a,
          (Tree.locate operand state.cwd state.fs).node = some (.directory a []) := by
        intro operand mem
        have fine := List.findSome?_eq_none_iff.mp sound operand mem
        exact exists_of_rmdirFault?_eq_none (Option.map_eq_none_iff.mp fine)
      refine .inr ⟨_, rfl, empty, fun q => ?_⟩
      have cut := itemAt?_foldl_removeAt (fun operand mem =>
        let ⟨_, located⟩ := empty operand mem
        ⟨_, located⟩) state.fs q
      refine cut.trans ?_
      by_cases entry : q ∈ command.args.map state.entryPath
      · obtain ⟨operand, mem, rfl⟩ := List.mem_map.mp entry
        rw [if_pos ⟨operand, mem, List.prefix_rfl⟩, if_pos entry]
      · rw [if_neg entry]
        split
        · next below =>
          -- there is nothing below an empty directory
          obtain ⟨operand, mem, r, rfl⟩ := below
          obtain ⟨a, located⟩ := empty operand mem
          have inside : r ≠ [] := by
            rintro rfl
            exact entry (by simpa using ⟨operand, mem, rfl⟩)
          rw [Directory.itemAt?_append (removeAt_of_located located).1 inside,
            Tree.itemIn_nil_right]
        · rfl

/-! ## All operands -/

/-- **Removal takes exactly what it may.** The operands of `rm` are carried out in turn: what an
operand names is removed, with everything below it, if and only if it is a file, or a directory when
those are removed, too; an operand that is not taken leaves the tree as it is and one line, unless
it is passed over. The result is an error exactly if there are lines, which stand in the order of
the operands. What is gone at the end was at or below an entry that is gone, too; everything else is
as it was, and so are the directories if those are not removed. With the flag for it, an operand
that leads nowhere is passed over, in every tree but those in which it is astray: there, and only
there, it leaves a line.

`rmdir` fails and changes nothing, or each of its operands names an empty directory, and the new
tree is the old one without exactly those entries. No file is removed. -/
theorem removal_takes_iff (clock : Clock) (state : State) {command : Command}
    (given : command.args ≠ []) :
    (∃ outcomes fs,
      outcomes.map Prod.fst = command.args ∧
      InTurn (Handles command state) (Removes command state) RefusesRemoving outcomes state.fs fs ∧
      (let lines := outcomes.filterMap Prod.snd
      rm clock command state = .ok
        ⟨if lines = [] then .text "" else .error ("\n".intercalate lines), [{ state with fs }]⟩) ∧
      (∀ operand line, (operand, some line) ∈ outcomes → '\n' ∉ operand.toList →
        '\n' ∉ line.toList) ∧
      Thins state outcomes state.fs fs ∧
      (¬ command.IsRecursive → SameDirectories state.fs fs)) ∧
    (∀ operand d, ((Takes command state operand d ∨ Passes command state operand d) ↔
      Handles command state operand d) ↔ ¬ Astray command state operand d) ∧
    ((∃ line, rmdir clock command state = .ok (.only (.error line))) ∨
      ∃ fs, rmdir clock command state = .ok ⟨.text "", [{ state with fs }]⟩ ∧
        (∀ operand ∈ command.args, ∃ a,
          (Tree.locate operand state.cwd state.fs).node = some (.directory a [])) ∧
        (∀ q, fs.itemAt? q =
          if q ∈ command.args.map state.entryPath then none else state.fs.itemAt? q) ∧
        ∀ q a content, state.fs.itemAt? q = some (.file a content) →
          fs.itemAt? q = some (.file a content)) := by
  refine ⟨?rm, fun operand d => handles_iff, ?rmdir⟩
  case rm =>
    obtain ⟨outcomes, same, run, lines⟩ := exists_inTurn
      (fun operand d => rmChange_cases command state operand d) command.args state.fs
    refine ⟨outcomes, _, same, run, ?_, fun operand line failed =>
      (run.worded_of_failed failed).newline_not_mem, run.thins, fun spared => ?_⟩
    · have bare : ¬ command.args.isEmpty = true := by simpa using given
      rw [rm, handler]
      dsimp only
      rw [if_neg bare, changing_eq, ← lines]
    · exact run.relates (fun d q a => Iff.rfl)
        (fun first second q a => (second q a).trans (first q a))
        fun able removes => removes.sameDirectories spared
  case rmdir =>
    rcases rmdir_cases clock command state with failed | ⟨fs, answer, empty, cut⟩
    · exact .inl failed
    · refine .inr ⟨fs, answer, empty, cut, fun q a content file => ?_⟩
      have other : q ∉ command.args.map state.entryPath := by
        intro entry
        obtain ⟨operand, mem, rfl⟩ := List.mem_map.mp entry
        obtain ⟨b, located⟩ := empty operand mem
        rw [Directory.itemAt?, Node.itemAt?, ← Directory.get?, (removeAt_of_located located).1]
          at file
        cases file
      rw [cut, if_neg other, file]

/-- A file goes once. A directory stays, and so does the one behind a lone tilde, though that
operand leads nowhere and is to be passed over. -/
theorem removal_takes_iff_astray :
    let command : Command :=
      ⟨"rm", ["~old", "a.txt", "src", "nowhere", "a.txt"], ["f"], none, none,
        ["-f", "~old", "a.txt", "src", "nowhere", "a.txt"]⟩
    let state := { State.initial "user" with
      fs := (Directory.initial "user").changeAt ["home", "user"] fun entries =>
        [("~old", .newDirectory "~old" "user"), ("src", .newDirectory "src" "user"),
          ("a.txt", .newFile "a.txt" "user" "text")] ++ entries }
    let refusals := "rm: cannot remove '~old': Is a directory\n" ++
      "rm: cannot remove 'src': Is a directory"
    command.args ≠ [] ∧
      (∃ fs, rm default command state = .ok ⟨.error refusals, [{ state with fs }]⟩ ∧
        SameDirectories state.fs fs) ∧
      Passes command state "~old" state.fs ∧ ¬ Handles command state "~old" state.fs := by
  intro command state refusals
  have given : command.args ≠ [] := List.cons_ne_nil _ _
  obtain ⟨⟨outcomes, fs, -, -, answer, -, -, directories⟩, astray_iff, -⟩ :=
    removal_takes_iff default state given
  have shown : (rm default command state).toOption.map (·.result) = some (.error refusals) := by
    decide +kernel
  rw [answer] at shown
  have result : (if outcomes.filterMap Prod.snd = [] then Result.text "" else
      .error ("\n".intercalate (outcomes.filterMap Prod.snd))) = .error refusals :=
    Option.some.inj shown
  have spared : ¬ command.IsRecursive := by decide +kernel
  have nowhere : (Tree.resolve "~old" state.cwd state.fs).node = none := by
    rw [Tree.resolve, show Tree.normalize "~old" state.cwd = ["home", "user", "old"] by
      decide +kernel]
    rfl
  have passes : Passes command state "~old" state.fs := ⟨by decide +kernel, nowhere⟩
  have named : (Tree.locate "~old" state.cwd state.fs).node =
      some (.newDirectory "~old" "user") := by
    have home : Tree.normalize (Tree.parentPath "~old") state.cwd = ["home", "user"] := by
      decide +kernel
    rw [Tree.locate_of_directory (by decide +kernel) (by rw [home]; rfl),
      show Tree.baseName "~old" = "~old" by decide +kernel]
    rfl
  have astray : Astray command state "~old" state.fs :=
    ⟨⟨by decide +kernel, by decide +kernel⟩, passes, ⟨_, _, named⟩, spared⟩
  refine ⟨given, ⟨fs, by rw [answer, result], directories spared⟩, passes, fun handled => ?_⟩
  have same : (Takes command state "~old" state.fs ∨ Passes command state "~old" state.fs) ↔
      Handles command state "~old" state.fs := iff_of_true (.inr passes) handled
  exact (astray_iff "~old" state.fs).mp same astray

end Workbench.Shell
