import Workbench.Proofs.Session.Placement
import Workbench.Proofs.Shell.Operands
import Workbench.Proofs.Tree.Changes
import Workbench.Proofs.Tree.Locations

/-!
# Making directories

`mkdir` carries out its operands in turn. Without parents an operand is carried out exactly if
nothing stands at its path and the directory around it is there, and then one empty directory is
stored there. With parents it is carried out exactly if no file stands at its path or above, and
then the directories that are missing on the way are made; this is what rebuilding the directory of
a project does, too (`makeDirectory_parents`). No operand changes or removes what is there, so what
an operand has made is there at the end.
-/

namespace Workbench.Shell

open Workbench.Tree (Attributes Branch Directory Item Node)

/-- Whether a directory can be made at a path. Without parents nothing may stand there, and the
directory around it must be there; with parents no file may stand there or above. -/
def CanMake : Bool → List String → Directory → Prop
  | false, path, d => path ≠ [] ∧ d.get? path = none ∧
      ∃ a entries, d.get? path.dropLast = some (.directory a entries)
  | true, path, d => ∀ q ≠ [], q <+: path → ∀ a content, d.get? q ≠ some (.file a content)

/-- What making a directory at a path does to a tree. Without parents an empty directory is there,
and nothing else has changed; with parents every item that was missing on the way is a directory. -/
def Makes (owner : String) : Bool → List String → Directory → Directory → Prop
  | false, path, before, after =>
      after.get? path = some (.newDirectory (path.getLastD "") owner) ∧
      ∀ q ≠ path, after.itemAt? q = before.itemAt? q
  | true, path, before, after => ∀ q,
      after.itemAt? q = (before.itemAt? q).or (Session.missingDirectory owner path q)

/-- The line of an operand at which no directory could be made. -/
def RefusesMaking (operand line : String) : Prop :=
  ∃ fault : MakeFault, line = s!"mkdir: cannot create directory '{operand}': {fault.message}"

/-- Nothing that is in the first tree is changed or missing in the second. -/
def Grows (before after : Directory) : Prop :=
  ∀ q item, before.itemAt? q = some item → after.itemAt? q = some item

variable {owner name operand line : String} {parents : Bool} {path place q : List String}
variable {a : Attributes} {entries inner made : Branch} {d before after : Directory}

/-! ## One directory -/

/-- A directory that can be made without parents is stored as a new entry of the one around it. -/
theorem makeDirectory_of_directory (there : d.get? place = some (.directory a inner))
    (free : Entries.lookup name inner = none) (owner : String) :
    makeDirectory owner false (place ++ [name]) d.entries = (none,
      Tree.changeEntries (Entries.store name (.newDirectory name owner)) place d.entries) := by
  obtain ⟨b, outer⟩ := d
  rw [Directory.get?, Directory.node] at there
  dsimp only at there ⊢
  induction place generalizing b outer with
  | nil =>
    rw [Node.get?] at there
    obtain ⟨-, rfl⟩ := Node.directory.inj (Option.some.inj there)
    rw [List.nil_append, makeDirectory, free]
    rfl
  | cons n place ih =>
    rw [Node.get?] at there
    cases held : Entries.lookup n outer with
    | none =>
      rw [held] at there
      cases there
    | some child =>
      rw [held] at there
      cases child with
      | file c content => cases place <;> cases there
      | directory c middle =>
        rw [List.cons_append, makeDirectory, held, Tree.changeEntries,
          Entries.modify_eq_store _ held]
        dsimp only
        rw [ih c middle there]

/-- Without parents a directory is only made in a directory that is there, under a new name. -/
theorem exists_of_makeDirectory
    (h : (makeDirectory owner false (place ++ [name]) d.entries).1 = none) :
    ∃ a inner, d.get? place = some (.directory a inner) ∧ Entries.lookup name inner = none := by
  obtain ⟨b, outer⟩ := d
  rw [Directory.get?, Directory.node]
  dsimp only at h ⊢
  induction place generalizing b outer with
  | nil =>
    rw [List.nil_append, makeDirectory] at h
    refine ⟨b, outer, rfl, ?_⟩
    cases held : Entries.lookup name outer with
    | none => rfl
    | some child =>
      rw [held] at h
      cases child <;> cases h
  | cons n place ih =>
    rw [List.cons_append, makeDirectory] at h
    rw [Node.get?]
    cases held : Entries.lookup n outer with
    | none =>
      rw [held] at h
      dsimp only at h
      rw [if_neg (by simp), if_neg Bool.false_ne_true] at h
      cases h
    | some child =>
      rw [held] at h
      cases child with
      | file c content => cases h
      | directory c middle =>
        exact ih c middle h

/-! ## A directory and those above it -/

/-- Among no entries a directory is made with those above it. -/
theorem makeDirectory_nil (owner : String) (path : List String) :
    (makeDirectory owner true path []).1 = none := by
  induction path with
  | nil => rfl
  | cons name rest ih =>
    rw [makeDirectory, Entries.lookup]
    dsimp only
    split
    · rfl
    · exact ih

/-- **What fails leaves the entries as they were.** The loop stops at the first entry that is in the
way, and before it has made a directory: below one that it has made nothing is in the way. -/
theorem makeDirectory_of_fault {fault : MakeFault}
    (failed : (makeDirectory owner parents path entries).1 = some fault) :
    (makeDirectory owner parents path entries).2 = entries := by
  induction path generalizing entries with
  | nil => rfl
  | cons name rest ih =>
    rw [makeDirectory] at failed ⊢
    cases held : Entries.lookup name entries with
    | none =>
      rw [held] at failed
      dsimp only at failed ⊢
      split at failed
      · cases failed
      next more =>
        rw [if_neg more]
        cases parents with
        | false => rfl
        | true =>
          have made : (makeDirectory owner true rest []).1 = some fault := failed
          rw [makeDirectory_nil] at made
          cases made
    | some child =>
      rw [held] at failed
      cases child with
      | file b content => rfl
      | directory b inner =>
        dsimp only at failed ⊢
        rw [ih failed, Entries.store_of_lookup held]

/-- Making a directory with parents is making the directories that are missing on the way, and
changing nothing there. -/
theorem makeDirectory_parents (owner : String) (path : List String) (entries : Branch) :
    Session.withDirectory owner some path entries =
      if (makeDirectory owner true path entries).1 = none then
        some (makeDirectory owner true path entries).2
      else none := by
  induction path generalizing entries with
  | nil => rfl
  | cons name rest ih =>
    rw [makeDirectory, Session.withDirectory]
    cases Entries.lookup name entries with
    | none =>
      cases rest with
      | nil => rfl
      | cons next rest =>
        have below := makeDirectory_nil owner (next :: rest)
        simp [ih, below]
    | some child =>
      cases child with
      | file b content => rfl
      | directory b inner =>
        dsimp only
        rw [ih, apply_ite (Option.map _)]
        rfl

/-- A file is where the tree has it. -/
theorem itemAt?_eq_file_iff {content : String} :
    d.itemAt? path = some (.file a content) ↔ d.get? path = some (.file a content) := by
  rw [Directory.itemAt?, Node.itemAt?, ← Directory.get?]
  constructor
  · intro h
    obtain ⟨node, found, isFile⟩ := Option.map_eq_some_iff.mp h
    cases node with
    | file b text =>
      cases isFile
      exact found
    | directory b inner => cases isFile
  · intro h
    rw [h]
    rfl

/-- A path is blocked if no directories can be made along it. -/
theorem blocked_iff : Session.Blocked path d.entries ↔ ¬ CanMake true path d := by
  simp only [CanMake, Session.Blocked]
  constructor
  · rintro ⟨q, a, content, on, file⟩ clear
    obtain ⟨n, ns, rfl⟩ : ∃ n ns, q = n :: ns :=
      List.exists_cons_of_ne_nil (by rintro rfl; cases file)
    rw [← Directory.itemAt?_cons] at file
    exact clear _ (List.cons_ne_nil n ns) on a content (itemAt?_eq_file_iff.mp file)
  · intro blocked
    push Not at blocked
    obtain ⟨q, below, on, a, content, file⟩ := blocked
    obtain ⟨n, ns, rfl⟩ := List.exists_cons_of_ne_nil below
    refine ⟨n :: ns, a, content, on, ?_⟩
    rw [← Directory.itemAt?_cons]
    exact itemAt?_eq_file_iff.mpr file

/-- What was there below the path is still there, and what was missing on the way is made. -/
theorem makes_of_refills (refills : Session.Refills owner path (Tree.entriesAt path d.entries)
    d.entries made) : Makes owner true path d { d with entries := made } := by
  intro q
  by_cases below : path <+: q ∧ q ≠ path
  · obtain ⟨⟨r, rfl⟩, differs⟩ := below
    have hr : r ≠ [] := fun h => differs (by rw [h, List.append_nil])
    have apart : ¬ path ++ r <+: path := fun on => by
      have := on.length_le
      have := List.length_pos_iff.mpr hr
      rw [List.length_append] at *
      omega
    obtain ⟨n, ns, more⟩ : ∃ n ns, path ++ r = n :: ns :=
      List.exists_cons_of_ne_nil (by simp [hr])
    rw [Session.missingDirectory_of_not_prefix apart, Option.or_none, more,
      Directory.itemAt?_cons, Directory.itemAt?_cons, ← more, refills.below r hr,
      Tree.itemIn_append path hr]
  · cases q with
    | nil => rfl
    | cons n ns =>
      rw [Directory.itemAt?_cons, Directory.itemAt?_cons]
      exact refills.beside _ below

/-! ## Operands -/

/-- Where making a directory fails, none can be made. -/
theorem not_canMake_of_fault {fault : MakeFault}
    (failed : (makeDirectory owner parents path d.entries).1 = some fault) :
    ¬ CanMake parents path d := by
  cases parents with
  | true =>
    have missing := makeDirectory_parents owner path d.entries
    rw [failed, if_neg (by simp)] at missing
    rcases Session.withDirectory_eq_none_iff.mp missing with blocked | unchanged
    · exact blocked_iff.mp blocked
    · cases unchanged
  | false =>
    rintro ⟨below, free, a, inner, there⟩
    have whole := Session.dropLast_append_getLastD below
    rw [← whole, Directory.get?_concat, there] at free
    rw [← whole, makeDirectory_of_directory there free] at failed
    cases failed

/-- A new entry of a directory that is there is one directory more. -/
theorem makes_newDirectory (there : d.get? place = some (.directory a inner))
    (free : Entries.lookup name inner = none) (owner : String) :
    Makes owner false (place ++ [name]) d
      (d.changeAt place (Entries.store name (.newDirectory name owner))) := by
  rw [Makes, List.getLastD_concat]
  refine ⟨Tree.get?_store there _, fun q differs => ?_⟩
  have bare : ∀ r ≠ [], (Node.newDirectory name owner).itemAt? r = none := by
    intro r hr
    obtain ⟨n, ns, rfl⟩ := List.exists_cons_of_ne_nil hr
    rfl
  have unfilled : ∀ c entries, Entries.lookup name inner ≠ some (.directory c entries) := by
    intro c entries held
    rw [free] at held
    cases held
  exact (Tree.itemAt?_storeBare there bare unfilled q).trans (if_neg differs)

/-- Where a directory is made, it can be made, and is there. -/
theorem makes_of_makeDirectory
    (answer : makeDirectory owner parents path d.entries = (none, made)) :
    CanMake parents path d ∧ Makes owner parents path d { d with entries := made } := by
  cases parents with
  | true =>
    have filled := makeDirectory_parents owner path d.entries
    rw [answer, if_pos rfl] at filled
    constructor
    · by_contra unable
      rw [Session.withDirectory_eq_none_iff.mpr (.inl (blocked_iff.mpr unable))] at filled
      cases filled
    · obtain ⟨inner, same, refills⟩ := Session.withDirectory_refills filled
      cases same
      exact makes_of_refills refills
  | false =>
    have below : path ≠ [] := by
      rintro rfl
      cases answer
    obtain ⟨place, name, rfl⟩ : ∃ place name, path = place ++ [name] :=
      ⟨_, _, (Session.dropLast_append_getLastD below).symm⟩
    obtain ⟨a, inner, there, free⟩ := exists_of_makeDirectory (congrArg Prod.fst answer)
    rw [makeDirectory_of_directory there free] at answer
    obtain rfl := (Prod.mk.inj answer).2
    refine ⟨⟨below, ?_, a, inner, ?_⟩, makes_newDirectory there free owner⟩
    · rw [Directory.get?_concat, there]
      exact free
    · rw [List.dropLast_concat]
      exact there

/-- A directory is made exactly if it can be made. -/
theorem makeDirectory_cases (owner : String) (parents : Bool) (path : List String)
    (d : Directory) :
    (∃ made, makeDirectory owner parents path d.entries = (none, made) ∧ CanMake parents path d ∧
      Makes owner parents path d { d with entries := made }) ∨
    ∃ fault, makeDirectory owner parents path d.entries = (some fault, d.entries) ∧
      ¬ CanMake parents path d := by
  rcases answer : makeDirectory owner parents path d.entries with ⟨_ | fault, made⟩
  case none =>
    obtain ⟨able, makes⟩ := makes_of_makeDirectory answer
    exact .inl ⟨made, rfl, able, makes⟩
  case some =>
    have failed := congrArg Prod.fst answer
    obtain rfl : made = d.entries := by
      rw [← makeDirectory_of_fault failed, answer]
    exact .inr ⟨fault, rfl, not_canMake_of_fault failed⟩

/-- An operand is made, or fails and leaves the tree. -/
theorem mkdirChange_cases (command : Command) (state : State) (operand : String) (d : Directory) :
    let parents := command.hasOption "p"
    let target := Tree.normalize operand state.cwd
    (∃ d', mkdirChange command state operand d = (none, d') ∧ CanMake parents target d ∧
      Makes state.user parents target d d') ∨
    ∃ line, mkdirChange command state operand d = (some line, d) ∧ ¬ CanMake parents target d ∧
      RefusesMaking operand line := by
  intro parents target
  rw [mkdirChange]
  rcases makeDirectory_cases state.user parents target d with
    ⟨made, answer, able, makes⟩ | ⟨fault, answer, unable⟩
  · rw [answer]
    exact .inl ⟨_, rfl, able, makes⟩
  · rw [answer]
    exact .inr ⟨_, rfl, unable, fault, rfl⟩

/-! ## What is there stays there -/

theorem Grows.refl (d : Directory) : Grows d d := fun _ _ held => held

/-- Growing is passed on. -/
theorem Grows.trans {d d' d'' : Directory} (h : Grows d d') (h' : Grows d' d'') : Grows d d'' :=
  fun q item held => h' q item (h q item held)

/-- Making a directory takes nothing away. -/
theorem Makes.grows (able : CanMake parents path before)
    (makes : Makes owner parents path before after) : Grows before after := by
  intro q item held
  cases parents with
  | true => rw [makes q, held, Option.some_or]
  | false =>
    obtain ⟨-, free, -⟩ := able
    refine (makes.2 q ?_).trans held
    rintro rfl
    rw [Directory.itemAt?, Node.itemAt?, ← Directory.get?, free] at held
    cases held

/-- Where a directory was made there is a directory. -/
theorem Makes.exists_directory (able : CanMake parents path before)
    (makes : Makes owner parents path before after) :
    ∃ a, after.itemAt? path = some (.directory a) := by
  cases parents with
  | false =>
    refine ⟨⟨path.getLastD "", owner, .ofDirectory⟩, ?_⟩
    rw [Directory.itemAt?, Node.itemAt?, ← Directory.get?, makes.1]
    rfl
  | true =>
    by_cases below : path = []
    · subst below
      exact ⟨_, rfl⟩
    rw [makes path]
    cases held : before.itemAt? path with
    | none => exact ⟨_, if_pos ⟨below, List.prefix_rfl⟩⟩
    | some item =>
      cases item with
      | file a content =>
        exact absurd (itemAt?_eq_file_iff.mp held) (able path below List.prefix_rfl a content)
      | directory a => exact ⟨a, rfl⟩

/-- An operand resolves once its directory is there. -/
theorem exists_resolve_of_itemAt? {cwd : String} (given : operand ≠ "")
    (there : d.itemAt? (Tree.normalize operand cwd) = some (.directory a)) :
    ∃ entries, (Tree.resolve operand cwd d).node = some (.directory a entries) := by
  obtain ⟨node, found, isDirectory⟩ := Option.map_eq_some_iff.mp there
  rw [Tree.resolve_node given, Directory.get?, found]
  cases node with
  | file b content => cases isDirectory
  | directory b entries =>
    cases isDirectory
    exact ⟨entries, rfl⟩

/-- The line of a refusal is one line, unless the operand itself holds a line feed. -/
theorem RefusesMaking.newline_not_mem (h : RefusesMaking operand line)
    (plain : '\n' ∉ operand.toList) : '\n' ∉ line.toList := by
  obtain ⟨fault, rfl⟩ := h
  cases fault <;> simp [MakeFault.message, toString, plain]

/-- **`mkdir` is all or nothing for each operand, and only ever adds.** Its operands are carried out
in turn, each one if and only if it can be, and those that cannot leave the tree as it was and a
line. The result is an error exactly if there are such lines, which stand in the order of the
operands. Nothing that was there is changed or removed, and every operand that was carried out leads
to a directory of the final tree, unless its text is empty. -/
theorem mkdir_inTurn (clock : Clock) (state : State) {command : Command}
    (given : command.args ≠ []) :
    let parents := command.hasOption "p"
    let target := fun operand => Tree.normalize operand state.cwd
    ∃ outcomes fs,
      outcomes.map Prod.fst = command.args ∧
      InTurn (fun operand d => CanMake parents (target operand) d)
        (fun operand d d' => Makes state.user parents (target operand) d d') RefusesMaking
        outcomes state.fs fs ∧
      (let lines := outcomes.filterMap Prod.snd
      mkdir clock command state = .ok
        ⟨if lines = [] then .text "" else .error ("\n".intercalate lines), [{ state with fs }]⟩) ∧
      (∀ operand line, (operand, some line) ∈ outcomes → '\n' ∉ operand.toList →
        '\n' ∉ line.toList) ∧
      Grows state.fs fs ∧
      ∀ operand, (operand, none) ∈ outcomes → operand ≠ "" → ∃ a entries,
        (Tree.resolve operand state.cwd fs).node = some (.directory a entries) := by
  intro parents target
  obtain ⟨outcomes, same, run, lines⟩ := exists_inTurn
    (fun operand d => mkdirChange_cases command state operand d) command.args state.fs
  have each {operand : String} {d d' : Directory} (able : CanMake parents (target operand) d)
      (makes : Makes state.user parents (target operand) d d') : Grows d d' := makes.grows able
  refine ⟨outcomes, _, same, run, ?_, fun operand line failed =>
    (run.worded_of_failed failed).newline_not_mem, run.relates Grows.refl Grows.trans each,
    fun operand done filled => ?_⟩
  · have bare : ¬ command.args.isEmpty = true := by simpa using given
    rw [mkdir, handler]
    dsimp only
    rw [if_neg bare, changing_eq, ← lines]
  · obtain ⟨d, d', able, makes, grows⟩ := run.exists_of_done Grows.refl Grows.trans each done
    obtain ⟨a, there⟩ := makes.exists_directory able
    obtain ⟨entries, leads⟩ := exists_resolve_of_itemAt? filled (grows _ _ there)
    exact ⟨a, entries, leads⟩

/-- One operand is carried out, one has no directory around it, and one is there by then. -/
theorem mkdir_inTurn_one_of_three :
    let command : Command :=
      ⟨"mkdir", ["src", "a/b", "./src/"], [], none, none, ["src", "a/b", "./src/"]⟩
    let state := State.initial "user"
    command.args ≠ [] ∧ ∃ fs, mkdir default command state = .ok
      ⟨.error ("mkdir: cannot create directory 'a/b': No such file or directory\n" ++
        "mkdir: cannot create directory './src/': File exists"), [{ state with fs }]⟩ ∧
      Grows state.fs fs ∧
      ∃ a entries, (Tree.resolve "src" state.cwd fs).node = some (.directory a entries) := by
  intro command state
  have given : command.args ≠ [] := List.cons_ne_nil _ _
  obtain ⟨outcomes, fs, same, run, answer, -, grows, leads⟩ := mkdir_inTurn default state given
  have shown : (mkdir default command state).toOption.map (·.result) =
      some (.error ("mkdir: cannot create directory 'a/b': No such file or directory\n" ++
        "mkdir: cannot create directory './src/': File exists")) := by decide +kernel
  rw [answer] at shown
  have result : (if outcomes.filterMap Prod.snd = [] then Result.text "" else
      .error ("\n".intercalate (outcomes.filterMap Prod.snd))) =
      .error ("mkdir: cannot create directory 'a/b': No such file or directory\n" ++
        "mkdir: cannot create directory './src/': File exists") := Option.some.inj shown
  have able : CanMake false (Tree.normalize "src" state.cwd) state.fs := by
    rw [show Tree.normalize "src" state.cwd = ["home", "user", "src"] by decide +kernel]
    exact ⟨by decide, rfl, _, _, rfl⟩
  refine ⟨given, fs, ?_, grows, leads "src" ?_ (by decide)⟩
  · rw [answer, result]
  · -- the first operand names a new entry of a directory that is there
    cases run with
    | nil d => cases same
    | done fit did later =>
      obtain rfl := (List.cons.inj same).1
      exact List.mem_cons_self
    | failed unfit wording later =>
      obtain rfl := (List.cons.inj same).1
      exact absurd able unfit

end Workbench.Shell
