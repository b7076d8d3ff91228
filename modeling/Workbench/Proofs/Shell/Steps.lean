import Workbench.Proofs.Shell.Operands
import Workbench.Proofs.Tree.Canonical
import Workbench.Shell.Execute

/-!
# What a command does to a state

Whatever a command is, each state that it hands over follows from the one before in one of two ways:
the current directory becomes the normal form of a path, or the tree is reshaped. A reshaped tree
keeps every property of entries that new nodes have (`Reshapes`), since a node is only ever made
under its own name and never moved. `Follows` says this once for all commands. The handlers that
change nothing are `Silent`; the five others and the redirection of output have one lemma each.
-/

namespace Workbench.Shell

open Workbench.Tree (Node Directory Attributes IsName IsCanonical Location)

/-- Nodes that are made under their own name suit it, if that can be a segment of a path. -/
def Admits (fits : String → Attributes → Prop) : Prop :=
  ∀ name owner permissions, IsName name → fits name ⟨name, owner, permissions⟩

/-- A tree was changed to another without making an unfit entry. -/
def Reshapes (d d' : Directory) : Prop :=
  ∀ fits, Admits fits → d.Fit fits → d'.Fit fits

/-- A state as a command can leave it. -/
structure Follows (state next : State) : Prop where
  tree : Reshapes state.fs next.fs
  place : next.cwd = state.cwd ∨ IsCanonical next.cwd

/-- Every state that the handler hands over follows the one it was given. -/
def Modest (h : Handler) : Prop :=
  ∀ clock command state outcome, h clock command state = .ok outcome →
    ∀ next ∈ outcome.states, Follows state next

/-- The handler hands over no state. -/
def Silent (h : Handler) : Prop :=
  ∀ clock command state outcome, h clock command state = .ok outcome → outcome.states = []

variable {d d' d'' : Directory} {state next later : State} {path : String}

theorem Reshapes.refl (d : Directory) : Reshapes d d := fun _ _ fit => fit

/-- A tree may be reshaped twice. -/
theorem Reshapes.trans (h : Reshapes d d') (h' : Reshapes d' d'') : Reshapes d d'' :=
  fun fits admits fit => h' fits admits (h fits admits fit)

theorem Follows.refl (state : State) : Follows state state := ⟨.refl _, .inl rfl⟩

/-- States follow each other. -/
theorem Follows.trans (h : Follows state next) (h' : Follows next later) :
    Follows state later := by
  refine ⟨h.tree.trans h'.tree, ?_⟩
  rcases h'.place with same | canonical
  · rcases h.place with same' | canonical'
    · exact .inl (same.trans same')
    · exact .inr (same ▸ canonical')
  · exact .inr canonical

/-- A state with its tree reshaped follows. -/
theorem Follows.reshape {fs : Directory} (h : Reshapes state.fs fs) :
    Follows state { state with fs } :=
  ⟨h, .inl rfl⟩

/-- A result alone changes nothing. -/
theorem follows_only (result : Result) :
    ∀ next ∈ (Outcome.only result).states, Follows state next := by
  intro next handed
  cases handed

/-- What says nothing about the state is modest. -/
theorem Silent.modest {h : Handler} (silent : Silent h) : Modest h := by
  intro clock command state outcome answered next handed
  rw [silent clock command state outcome answered] at handed
  cases handed

/-! ## Finding places -/

/-- The node to which a walk leads stands at the normal form of the path. -/
theorem get?_of_resolve {cwd : String} {node : Node}
    (found : (Tree.resolve path cwd d).node = some node) :
    d.get? (Tree.normalize path cwd) = some node ∧
      (Tree.resolve path cwd d).fullPath = Tree.absolute (Tree.normalize path cwd) := by
  have given : path ≠ "" := by
    rintro rfl
    cases found
  cases there : d.get? (Tree.normalize path cwd) with
  | none =>
    rw [Tree.resolve_of_get?_none given there] at found
    cases found
  | some node' =>
    rw [Tree.resolve_of_get?_some given there] at found ⊢
    exact ⟨found, rfl⟩

/-- A path names no entry, or an entry with a name of a directory that is there. -/
theorem locate_cases (path cwd : String) (d : Directory) :
    ((Tree.locate path cwd d).parent = none ∧ (Tree.locate path cwd d).node = none) ∨
      ∃ place, (Tree.locate path cwd d).parent = some place ∧
        d.get? place.path = some place.directory.node ∧
        IsName (Tree.locate path cwd d).name ∧
        (Tree.locate path cwd d).node =
          Entries.lookup (Tree.locate path cwd d).name place.directory.entries := by
  rw [Tree.locate]
  split
  · next a entries found =>
    by_cases valid : Tree.isEntryName (Tree.baseName path) = true
    · rw [if_pos valid]
      exact .inr ⟨_, rfl, (get?_of_resolve found).1, Tree.isName_baseName valid, rfl⟩
    · rw [if_neg valid]
      exact .inl ⟨rfl, rfl⟩
  · exact .inl ⟨rfl, rfl⟩

/-! ## Changes of trees -/

/-- Changing the entries of one directory reshapes a tree if it keeps those entries fit. -/
theorem Reshapes.changeAt (place : List String) {f : Tree.Branch → Tree.Branch}
    (keeps : ∀ fits, Admits fits → d.Fit fits →
      ∀ entries, Tree.Fit fits entries → Tree.Fit fits (f entries)) :
    Reshapes d (d.changeAt place f) :=
  fun fits admits fit => fit.changeEntries (keeps fits admits fit) place

/-- A new file is stored under its own name. -/
theorem Reshapes.storeFile (place : List String) {name : String} (valid : IsName name)
    (owner content : String) :
    Reshapes d (d.changeAt place (Entries.store name (.newFile name owner content))) := by
  refine .changeAt place fun fits admits _ entries fit => ?_
  exact fit.store (admits name owner .ofFile valid) (Tree.Fit.of_file _ _)

/-- The content of a file is replaced. -/
theorem Reshapes.rewriteFile {place : Tree.Place} {name content content' : String}
    {a : Attributes} (there : d.get? place.path = some place.directory.node)
    (held : Entries.lookup name place.directory.entries = some (.file a content)) :
    Reshapes d (d.changeAt place.path (Entries.store name (.file a content'))) := by
  refine .changeAt place.path fun fits _ whole entries fit => ?_
  have around : Tree.Fit fits place.directory.entries := (Tree.Fit.get? whole there).inside
  have suited : fits name a := around.suits (Entries.mem_of_lookup held)
  exact fit.store suited (Tree.Fit.of_file _ _)

/-- Removing an entry reshapes the tree. -/
theorem Reshapes.removeAt (location : Location) (d : Directory) :
    Reshapes d (removeAt location d) := by
  rw [Shell.removeAt]
  split
  · exact .changeAt _ fun fits _ _ entries fit => fit.erase _
  · exact .refl d

/-- Directories are made under the names in the normal form of a path. -/
theorem Reshapes.mkdirChange (command : Command) (state : State) (path : String) (d : Directory) :
    Reshapes d (mkdirChange command state path d).2 := by
  intro fits admits fit
  refine Tree.Fit.makeDirectory (command.hasOption "p") (fun name hname => ?_) fit
  exact admits name _ _ (Tree.isName_of_mem_normalize hname)

/-- So does `touch`, for each operand. -/
theorem Reshapes.touchChange (command : Command) (state : State) (path : String)
    (d : Directory) : Reshapes d (touchChange command state path d).2 := by
  rw [Shell.touchChange]
  split
  · exact .refl d
  · dsimp only
    rcases locate_cases path state.cwd d with ⟨nowhere, -⟩ | ⟨place, somewhere, -, valid, -⟩
    · rw [State.locateIn, nowhere]
      exact .refl d
    · rw [State.locateIn, somewhere]
      exact .storeFile place.path valid state.user ""

/-- So does `rm`. -/
theorem Reshapes.rmChange (command : Command) (state : State) (path : String) (d : Directory) :
    Reshapes d (rmChange command state path d).2 := by
  rw [Shell.rmChange]
  split
  · split
    · exact .refl d
    · split <;> exact .refl d
  · split
    · exact .refl d
    · exact .removeAt _ d

/-- Changes that each reshape the tree that they find reshape it together. -/
theorem Reshapes.applyChanges {changes : List Change}
    (each : ∀ change ∈ changes, ∀ fs, Reshapes fs (change fs).2) (fs : Directory) :
    Reshapes fs (applyChanges changes fs).1 := by
  induction changes generalizing fs with
  | nil => exact .refl fs
  | cons change changes ih =>
    rw [applyChanges_cons]
    exact (each change List.mem_cons_self fs).trans
      (ih (fun c hc => each c (List.mem_cons_of_mem _ hc)) (change fs).2)

/-! ## Handlers -/

/-- Commands that only read change no state. -/
theorem silent_readOnly (f : Command → State → Result) : Silent (readOnly f) := by
  rintro clock command state outcome ⟨⟩
  rfl

/-- `date` is one of them. -/
theorem silent_date : Silent date := by
  rintro clock command state outcome ⟨⟩
  rfl

/-- So is `git`. -/
theorem silent_git : Silent git := by
  rintro clock command state outcome ⟨⟩
  rfl

/-- So is `grep`. -/
theorem silent_grep : Silent grep := by
  intro clock command state outcome answered
  rw [grep] at answered
  split at answered
  · split at answered
    · cases answered
      rfl
    · split at answered
      · cases answered
      · cases answered
        rfl
  · cases answered
    rfl

/-- So are `head` and `tail`. -/
theorem silent_someLines (name : String) (pick : Nat → List String → List String) :
    Silent (someLines name pick) := by
  intro clock command state outcome answered
  rw [someLines] at answered
  cases hc : lineCount command with
  | error breakdown =>
    rw [hc] at answered
    cases answered
  | ok counted =>
    rw [hc] at answered
    dsimp only [bind, Except.bind] at answered
    split at answered
    · cases answered
      rfl
    · cases answered
      rfl

/-- A handler that carries out changes of the tree, each of which reshapes it. -/
theorem modest_changing {change : Command → State → String → Change}
    {bare : Command → Result}
    (each : ∀ command state path fs, Reshapes fs (change command state path fs).2) :
    Modest (handler fun command state =>
      if command.args.isEmpty then .only (bare command) else changing change command state) := by
  rintro clock command state outcome ⟨⟩ next handed
  dsimp only at handed
  split at handed
  · cases handed
  · rw [List.mem_singleton.mp handed]
    refine .reshape (.applyChanges (fun c hc => ?_) state.fs)
    obtain ⟨path, -, rfl⟩ := List.mem_map.mp hc
    exact each command state path

/-- `cd` changes the directory only. -/
theorem modest_cd : Modest cd := by
  rintro clock command state outcome ⟨⟩ next handed
  dsimp only at handed
  split at handed
  · cases handed
  · cases handed
  · next a entries found =>
    rw [List.mem_singleton.mp handed]
    refine ⟨.refl _, .inr ?_⟩
    dsimp only
    rw [(get?_of_resolve found).2]
    exact Tree.isCanonical_absolute fun s hs => Tree.isName_of_mem_normalize hs

/-- `rmdir` changes the tree only. -/
theorem modest_rmdir : Modest rmdir := by
  rintro clock command state outcome ⟨⟩ next handed
  dsimp only at handed
  split at handed
  · cases handed
  · split at handed
    · cases handed
    · rw [List.mem_singleton.mp handed]
      refine .reshape ?_
      suffices h : ∀ (paths : List String) (fs : Directory), Reshapes fs (paths.foldl
          (fun fs path => Shell.removeAt (state.locateIn state.fs path) fs) fs) from h _ _
      intro paths
      induction paths with
      | nil => exact .refl
      | cons path paths ih => exact fun fs => (Reshapes.removeAt _ fs).trans (ih _)

/-- Every built-in command leaves a state that follows the one it was given. -/
theorem modest_builtins : ∀ entry ∈ builtins, Modest entry.2 := by
  have silent (f : Command → State → Result) : Modest (readOnly f) := (silent_readOnly f).modest
  simp only [builtins, List.forall_mem_cons, List.not_mem_nil, false_imp_iff, implies_true, and_true]
  refine ⟨silent _, silent _, modest_cd, ?mkdir, modest_rmdir, ?touch, ?rm, silent _, silent _,
    silent _, silent _, silent _, silent _, silent _, silent_grep.modest,
    (silent_someLines _ _).modest, (silent_someLines _ _).modest, silent _, silent _, silent _,
    silent _, silent _, silent_date.modest, silent _, silent _, silent _⟩
  case mkdir => exact modest_changing Reshapes.mkdirChange
  case touch => exact modest_changing Reshapes.touchChange
  case rm => exact modest_changing Reshapes.rmChange

/-! ## Commands -/

section Commands

variable {handlers : List (String × Handler)}

/-- A command is as modest as its handler. -/
theorem modest_dispatch (modest : ∀ entry ∈ handlers, Modest entry.2) :
    Modest (dispatch handlers) := by
  intro clock command state outcome answered
  rw [dispatch] at answered
  split at answered
  · exact Except.ok.inj answered ▸ follows_only _
  split at answered
  · exact Except.ok.inj answered ▸ follows_only _
  split at answered
  · exact Except.ok.inj answered ▸ follows_only _
  split at answered
  · exact silent_git.modest clock command state outcome answered
  cases found : Entries.lookup command.name handlers with
  | none =>
    rw [found] at answered
    exact Except.ok.inj answered ▸ follows_only _
  | some h =>
    rw [found] at answered
    exact modest _ (Entries.mem_of_lookup found) clock command state outcome answered

/-- Output is written to a new file under its name, or to a file that is there. -/
theorem writeOutput_follows (mode : Redirect) (target output : String) (state : State) :
    ∀ next ∈ (writeOutput mode target output state).states, Follows state next := by
  rw [writeOutput]
  dsimp only
  by_cases empty : target.isEmpty = true
  · rw [if_pos empty]
    exact follows_only _
  rw [if_neg empty, State.locateIn]
  rcases locate_cases target state.cwd state.fs with
    ⟨nowhere, -⟩ | ⟨place, somewhere, there, valid, held⟩
  · rw [nowhere]
    dsimp only
    split
    · exact follows_only _
    · exact follows_only _
  · rw [somewhere, held]
    cases hl : Entries.lookup (Tree.locate target state.cwd state.fs).name
        place.directory.entries with
    | none =>
      intro next handed
      rw [List.mem_singleton.mp handed]
      exact .reshape (.storeFile place.path valid state.user _)
    | some node =>
      cases node with
      | file a content =>
        intro next handed
        rw [List.mem_singleton.mp handed]
        exact .reshape (.rewriteFile there hl)
      | directory a entries => exact follows_only _

/-- The state after an outcome follows the one before if every state of the outcome does. -/
theorem Follows.latest {outcome : Outcome} (each : ∀ next ∈ outcome.states, Follows state next) :
    Follows state (outcome.latest state) := by
  rw [Outcome.latest, List.getLastD_eq_getLast?]
  cases hl : outcome.states.getLast? with
  | none => exact .refl state
  | some last => exact each last (List.mem_of_getLast? hl)

/-- Every state that a command hands over follows the one before the command, be its output
redirected or not. -/
theorem execute_follows (modest : ∀ entry ∈ handlers, Modest entry.2) (clock : Clock)
    (command : Command) (state : State) :
    ∀ next ∈ (execute handlers clock command state).states, Follows state next := by
  rw [execute]
  cases hd : dispatch handlers clock command state with
  | error breakdown => exact follows_only _
  | ok outcome =>
    have each := modest_dispatch modest clock command state outcome hd
    dsimp only
    split
    · exact each
    · next mode output _ =>
      intro next handed
      rcases List.mem_append.mp handed with before | written
      · exact each next before
      · exact (Follows.latest each).trans (writeOutput_follows _ _ _ _ next written)

end Commands

end Workbench.Shell
