import Workbench.Proofs.Session.Consistency
import Workbench.Proofs.Session.Listings
import Workbench.Proofs.Shell.Codec

/-!
# What is persisted is the live state

Every operation of a session but `reset`, and a line that is answered, ends by persisting the state
it leaves. The text in which a state is persisted is read back as long as no directory of the tree
has two entries of one name (`Distinct`), and every operation keeps that: lines because commands
reshape trees, `sync` because it places files one by one. So a session that is started from the
storage continues where the live one is, with one exception: the tree may be too deep
(`run_restores_iff`). Commands make directories on any level, but from a certain level on what is
persisted is not read back, and from a still lower one the state is not persisted at all.
-/

namespace Workbench

open Shell (State EntryKind)
open Workbench.Tree (Directory Branch)
open Project (File)

/-- No directory of the tree has two entries of one name. -/
abbrev Tree.Directory.Distinct (d : Directory) : Prop :=
  d.Fit fun _ _ => True

namespace Session

/-- What can be done with a session. -/
inductive Operation where
  | execute (clock : Clock) (line : String)
  | appendOutput (lines : List String) (kind : EntryKind)
  | clearHistory
  | save
  | reset
  | sync (projectName : String) (files : List File)

/-- Carries out an operation. -/
def Operation.perform : Operation → Session → Session
  | execute clock line, s => (s.execute clock line).2
  | appendOutput lines kind, s => s.appendOutput lines kind
  | clearHistory, s => s.clearHistory
  | save, s => s.save
  | reset, s => s.reset
  | sync projectName files, s => s.sync projectName files

/-- Carries out operations one after another. -/
def run (ops : List Operation) (s : Session) : Session :=
  ops.foldl (fun s op => op.perform s) s

/-- The operation is a line that is not answered. -/
def Operation.Unanswered (s : Session) : Operation → Prop
  | execute clock line => (s.execute clock line).1 = none
  | _ => False

variable {s : Session} {op : Operation} {clock : Clock} {line : String}

/-! ## What operations keep of a tree -/

section Fitting

variable {fits : String → Tree.Attributes → Prop} {owner : String} {entries entries' : Branch}
variable {file : File} {files : List File}

/-- Files are placed under names that fit. -/
theorem placeFile_fit (admits : Shell.Admits fits) (fit : Tree.Fit fits entries)
    (placed : placeFile owner entries file = some entries') : Tree.Fit fits entries' := by
  rw [placeFile] at placed
  split at placed
  case isFalse => cases placed
  case isTrue hs =>
  obtain ⟨nonempty, single, double⟩ := areFileSegments_iff.mp hs
  have suits : ∀ name ∈ filePath file, Tree.Suits fits name := by
    intro name hname owner permissions
    obtain ⟨full, apart⟩ := Tree.mem_segments hname
    exact admits name owner permissions
      ⟨full, fun h => single (h ▸ hname), fun h => double (h ▸ hname), apart⟩
  have last : (filePath file).getLastD "" ∈ filePath file := by
    rw [List.getLastD_eq_getLast?, List.getLast?_eq_some_getLast nonempty]
    exact List.getLast_mem nonempty
  refine fit.withDirectory (fun es es' put fit => ?_)
    (fun name hname => suits name (List.mem_of_mem_dropLast hname) _ _) placed
  rw [putFile] at put
  split at put
  · cases put
  · exact Option.some.inj put ▸ fit.store (suits _ last _ _) (Tree.Fit.of_file _ _)

/-- So all of them are. -/
theorem projectEntries_fit (admits : Shell.Admits fits)
    (shown : projectEntries owner files = some entries) : Tree.Fit fits entries := by
  suffices h : ∀ start, Tree.Fit fits start →
      files.foldlM (placeFile owner) start = some entries → Tree.Fit fits entries from
    h [] Tree.Fit.nil shown
  clear shown
  induction files with
  | nil =>
    intro start fit same
    exact Option.some.inj same ▸ fit
  | cons file files ih =>
    intro start fit folded
    rw [List.foldlM_cons] at folded
    obtain ⟨next, placed, rest⟩ := Option.bind_eq_some_iff.mp folded
    exact ih next (placeFile_fit admits fit placed) rest

/-- The tree of a new session is fit if the directory of its user is. -/
theorem initial_fit {user : String} (admits : Shell.Admits fits) (suits : Tree.Suits fits user) :
    (Directory.initial user).Fit fits := by
  have valid : ∀ name ∈ ["home", "projects", "tmp"], Tree.IsName name := by
    intro name hname
    simp only [List.mem_cons, List.not_mem_nil, or_false] at hname
    rcases hname with rfl | rfl | rfl <;>
      exact ⟨by decide, by decide, by decide, by decide +kernel⟩
  refine Tree.Fit.initial user fun name hname => ?_
  by_cases same : name = user
  · exact same ▸ suits
  · exact fun owner permissions => admits name owner permissions (valid name (by simp_all))

/-- The project to which an operation gives a directory, if it is one. -/
def Operation.Syncs (projectName : String) : Operation → Prop
  | sync name _ => name = projectName ∧ Project.slug name ≠ ""
  | _ => False

/-- Showing files leaves every name fitting. -/
theorem sync_fit (admits : Shell.Admits fits) (user : Tree.Suits fits s.state.user)
    (projectName : String) (files : List File)
    (slug : Project.slug projectName ≠ "" → Tree.Suits fits (Project.slug projectName))
    (h : s.state.fs.Fit fits) : (s.sync projectName files).state.fs.Fit fits := by
  rw [sync_fs]
  cases hs : syncedTree? s.state projectName files with
  | none => exact initial_fit admits user
  | some fs =>
    have named : Project.slug projectName ≠ "" := by
      intro empty
      rw [syncedTree?_eq_none_iff.mpr (.unnamed empty)] at hs
      cases hs
    rw [syncedTree?_of_slug named] at hs
    obtain ⟨shown, hshown, hs⟩ := Option.bind_eq_some_iff.mp hs
    obtain ⟨entries, changed, rfl⟩ := Option.map_eq_some_iff.mp hs
    have home : Tree.Suits fits "home" := fun owner permissions =>
      admits "home" owner permissions ⟨by decide, by decide, by decide, by decide +kernel⟩
    have projects : Tree.Suits fits "projects" := fun owner permissions =>
      admits "projects" owner permissions ⟨by decide, by decide, by decide, by decide +kernel⟩
    refine Tree.Fit.withDirectory (fun es es' same _ => ?_) (fun name hname => ?_) h changed
    · exact Option.some.inj same ▸ projectEntries_fit admits hshown
    · simp only [projectPath, List.mem_cons, List.not_mem_nil, or_false] at hname
      rcases hname with rfl | rfl | rfl | rfl
      · exact home _ _
      · exact user _ _
      · exact projects _ _
      · exact slug named _ _

/-- Every operation keeps a tree fit, if what is made in it suits the names of the user and of the
directories of projects. -/
theorem Operation.fit (admits : Shell.Admits fits) (live : Tree.Suits fits s.state.user)
    (user : Tree.Suits fits s.user) (op : Operation)
    (slugs : ∀ projectName, op.Syncs projectName → Tree.Suits fits (Project.slug projectName))
    (h : s.state.fs.Fit fits) : (op.perform s).state.fs.Fit fits := by
  cases op with
  | execute clock line => exact (execute_follows_line clock line s).tree _ admits h
  | appendOutput lines kind => exact h
  | clearHistory => exact h
  | save => exact h
  | reset => exact initial_fit admits user
  | sync projectName files =>
    exact sync_fit admits live projectName files (fun named => slugs _ ⟨rfl, named⟩) h

/-- The user of the state stays, or is again that of a new session. -/
theorem Operation.perform_user (op : Operation) (s : Session) :
    (op.perform s).state.user = s.state.user ∨ (op.perform s).state.user = s.user := by
  cases op with
  | execute clock line => exact .inl (execute_user clock line s)
  | reset => exact .inr rfl
  | sync projectName files => exact .inl (sync_user projectName files s)
  | _ => exact .inl rfl

/-- A session keeps its key and the user of a new session. -/
theorem Operation.perform_key (op : Operation) (s : Session) :
    (op.perform s).key = s.key ∧ (op.perform s).user = s.user := by
  cases op with
  | execute clock line =>
    cases hp : Shell.Command.parse? line with
    | none =>
      rw [perform, execute_of_none hp]
      exact ⟨rfl, rfl⟩
    | some command =>
      obtain ⟨history, same⟩ := execute_of_some clock s hp
      rw [perform, same]
      exact ⟨rfl, rfl⟩
  | _ => exact ⟨rfl, rfl⟩

/-- A session keeps its key and its user. -/
theorem run_key (ops : List Operation) (s : Session) :
    (run ops s).key = s.key ∧ (run ops s).user = s.user := by
  induction ops generalizing s with
  | nil => exact ⟨rfl, rfl⟩
  | cons op ops ih =>
    obtain ⟨key, user⟩ := ih (op.perform s)
    obtain ⟨key', user'⟩ := op.perform_key s
    exact ⟨key.trans key', user.trans user'⟩

/-- The user of the tree is that of the session. -/
theorem run_user (ops : List Operation) (h : s.state.user = s.user) :
    (run ops s).state.user = s.user := by
  induction ops generalizing s with
  | nil => exact h
  | cons op ops ih =>
    have same := (op.perform_key s).2
    have live : (op.perform s).state.user = s.user :=
      (op.perform_user s).elim (·.trans h) id
    exact (ih (live.trans same.symm)).trans same

/-- Names fit after any operations. -/
theorem run_fit (admits : Shell.Admits fits) (live : Tree.Suits fits s.state.user)
    (user : Tree.Suits fits s.user) (ops : List Operation)
    (slugs : ∀ op ∈ ops, ∀ projectName, op.Syncs projectName →
      Tree.Suits fits (Project.slug projectName))
    (h : s.state.fs.Fit fits) : (run ops s).state.fs.Fit fits := by
  induction ops generalizing s with
  | nil => exact h
  | cons op ops ih =>
    have same := (op.perform_key s).2
    refine ih ?_ (same ▸ user) (fun later hlater => slugs later (List.mem_cons_of_mem _ hlater))
      (op.fit admits live user (slugs op List.mem_cons_self) h)
    rcases op.perform_user s with kept | renewed
    · exact kept ▸ live
    · exact renewed ▸ user

/-- Every operation leaves a tree without doubled names. -/
theorem Operation.distinct (op : Operation) (h : s.state.fs.Distinct) :
    (op.perform s).state.fs.Distinct :=
  op.fit (fun _ _ _ _ => trivial) (fun _ _ => trivial) (fun _ _ => trivial)
    (fun _ _ _ _ => trivial) h

/-- No two entries of a directory have one name, after any operations. -/
theorem run_distinct (ops : List Operation) (h : s.state.fs.Distinct) :
    (run ops s).state.fs.Distinct :=
  run_fit (fun _ _ _ _ => trivial) (fun _ _ => trivial) (fun _ _ => trivial) ops
    (fun _ _ _ _ _ _ => trivial) h

end Fitting

/-! ## What is stored -/

/-- A line is not answered if it has no command in it. -/
theorem execute_fst_eq_none_iff :
    (s.execute clock line).1 = none ↔ Shell.Command.parse? line = none := by
  cases h : Shell.Command.parse? line with
  | none => simp [execute_of_none h]
  | some command =>
    obtain ⟨history, same⟩ := execute_of_some clock s h
    simp [same]

/-- A line that is not answered changes nothing. -/
theorem Operation.Unanswered.perform_eq (h : op.Unanswered s) : op.perform s = s := by
  cases op with
  | execute clock line =>
    have blank : Shell.Command.parse? line = none := execute_fst_eq_none_iff.mp h
    exact congrArg Prod.snd (execute_of_none blank)
  | _ => exact h.elim

/-- The other operations leave the storage alone until they persist the state that they leave, but
for `reset`. -/
theorem Operation.exists_perform_eq_save (op : Operation) (answered : ¬ op.Unanswered s)
    (h : op ≠ .reset) : ∃ left : Session, op.perform s = left.save ∧ left.storage = s.storage := by
  cases op with
  | execute clock line =>
    cases hp : Shell.Command.parse? line with
    | none => exact absurd (execute_fst_eq_none_iff.mpr hp) answered
    | some command =>
      obtain ⟨history, same⟩ := execute_of_some clock s hp
      rw [perform, same]
      exact ⟨_, rfl, rfl⟩
  | appendOutput lines kind => exact ⟨_, rfl, rfl⟩
  | clearHistory => exact ⟨_, rfl, rfl⟩
  | save => exact ⟨s, rfl, rfl⟩
  | reset => exact absurd rfl h
  | sync projectName files => exact ⟨_, sync_eq projectName files s, rfl⟩

/-- A state that can be written is persisted under the key of the session. -/
theorem get?_save {blob : String} (written : s.state.blob = some blob) :
    s.save.storage.get? s.key = some blob := by
  rw [save, persisted, written]
  exact Storage.get?_set_self _ _ _

/-- A state that cannot be written leaves the storage as it is. -/
theorem storage_save_of_none (unwritten : s.state.blob = none) : s.save.storage = s.storage := by
  rw [save, persisted, unwritten]

/-- The tree of a session is too deep to be written. -/
def Unsaved (s : Session) : Prop :=
  State.deepestWritten < s.state.fs.height

/-- Persisting fails just if the tree is too deep to be written. -/
theorem unsaved?_eq_some_iff {failure : Failure} :
    s.unsaved? = some failure ↔ failure = .unwritable ∧ s.Unsaved := by
  rw [unsaved?, Unsaved, ← Shell.State.blob_eq_none_iff]
  cases s.state.blob <;> simp [eq_comm]

/-! ## Taking up a session -/

/-- What is persisted is the live state: it is read back as that state, also in the older form, and
a session that is started from the storage has it. -/
structure Restores (s : Session) : Prop where
  reads : ∃ blob, s.storage.get? s.key = some blob ∧ State.ofBlob blob = .ok s.state ∧
    ∃ json, Json.readStrict? blob = some json ∧
      State.ofBlob (json.rename State.cwdField State.olderCwdField).compact = .ok s.state
  starts : ∀ user, start s.storage user s.key = { s with user }

/-- What has become of a session that was to be persisted in a storage. -/
structure Persists (storage : Storage) (s : Session) : Prop where
  /-- It can be restored just if its tree is not too deep to be read back. -/
  restores_iff : Restores s ↔ s.state.fs.height ≤ State.deepestRead
  /-- A deeper tree that can still be written is persisted, but a new session that finds it starts
  afresh. -/
  discarded : State.deepestRead < s.state.fs.height → s.state.fs.height ≤ State.deepestWritten →
    s.unsaved? = none ∧ s.storage.get? s.key = some s.state.toJson.compact ∧
      ∀ user, start s.storage user s.key = ⟨s.storage, s.key, user, .initial user⟩
  /-- With a tree that cannot be written persisting fails, and the storage is as it was. -/
  unwritten : State.deepestWritten < s.state.fs.height →
    s.unsaved? = some .unwritable ∧ s.storage = storage

/-- A session that was saved is restored, unless its tree is too deep. -/
theorem restores_save (h : s.state.fs.Distinct) (level : s.state.fs.height ≤ State.deepestRead) :
    Restores s.save := by
  have written : s.state.blob = some s.state.toJson.compact :=
    Shell.State.blob_eq_some_iff.mpr ⟨level.trans (by decide), rfl⟩
  have read := Shell.State.ofBlob_compact h level
  have json : Json.readStrict? s.state.toJson.compact = some s.state.toJson :=
    Json.readStrict?_compact (Shell.State.plain_fieldsWith h (by decide))
      (Shell.State.strictly_admits_iff.mpr level)
  refine ⟨⟨_, get?_save written, read, _, json, Shell.State.ofBlob_older h level⟩, fun user => ?_⟩
  have loaded : load s.save.storage s.key user = s.state := by
    rw [load, get?_save written]
    dsimp only
    rw [read]
  exact congrArg (Session.mk s.save.storage s.key user) loaded

/-- A session whose tree has no doubled names is persisted as far as the depth of the tree
allows. -/
theorem persists_save (h : s.state.fs.Distinct) : Persists s.storage s.save where
  restores_iff := by
    refine ⟨fun restored => ?_, restores_save h⟩
    obtain ⟨blob, -, read, -⟩ := restored.reads
    exact Shell.State.height_le_of_ofBlob read
  discarded deep level := by
    have written : s.state.blob = some s.state.toJson.compact :=
      Shell.State.blob_eq_some_iff.mpr ⟨level, rfl⟩
    obtain ⟨issues, unread⟩ := Shell.State.ofBlob_compact_of_deep h deep
    refine ⟨?_, get?_save written, fun user => ?_⟩
    · rw [unsaved?, save, written]
    · have loaded : load s.save.storage s.key user = .initial user := by
        rw [load, get?_save written]
        dsimp only
        rw [unread]
      exact congrArg (Session.mk s.save.storage s.key user) loaded
  unwritten deep := by
    have unwritten : s.state.blob = none := Shell.State.blob_eq_none_iff.mpr deep
    exact ⟨unsaved?_eq_some_iff.mpr ⟨rfl, deep⟩, storage_save_of_none unwritten⟩

/-- After any operations on a session whose tree has no doubled names, one more operation leaves the
live state persisted under the key of the session, so that it can be restored, **just if its tree is
not too deep to be read back**; of a deeper one `Persists` tells what becomes. The exceptions are a
line that is not answered, which changes neither state nor storage, and `reset`, after which nothing
is stored under the key. -/
theorem run_restores_iff (ops : List Operation) (op : Operation) (s : Session)
    (h : s.state.fs.Distinct) :
    let before := run ops s
    let after := op.perform before
    (after.key = s.key ∧ after.user = s.user) ∧
    (op.Unanswered before → after = before) ∧
    (op = .reset → after.storage.get? after.key = none) ∧
    (¬ op.Unanswered before → op ≠ .reset → Persists before.storage after) := by
  intro before after
  refine ⟨?_, fun unanswered => unanswered.perform_eq, ?_, fun answered other => ?_⟩
  · obtain ⟨key, user⟩ := op.perform_key before
    obtain ⟨key', user'⟩ := run_key ops s
    exact ⟨key.trans key', user.trans user'⟩
  · intro reset
    have last : after = before.reset := congrArg (fun op => Operation.perform op before) reset
    rw [last]
    exact Storage.get?_remove_self _ _
  · have distinct : after.state.fs.Distinct := op.distinct (run_distinct ops h)
    obtain ⟨left, saved, storage⟩ := op.exists_perform_eq_save answered other
    have same : after = left.save := saved
    rw [same] at distinct ⊢
    exact storage ▸ persists_save distinct

/-- A session is taken up where it was left, after a line with output and a project that is shown.
After a project whose only file stands on the hundredth level it is not: a new session that finds
what was persisted starts afresh. -/
theorem run_restores_iff_two_runs :
    let s : Session := ⟨.empty, defaultKey, "user", .initial "user"⟩
    let ops : List Operation :=
      [.execute default "mkdir -p 'a b'/c", .sync "My App" [⟨"1", "src/a.js", "x\n", "javascript"⟩]]
    let after := (Operation.appendOutput ["\"done\"\x01"] .output).perform (run ops s)
    let nest : Operation :=
      .sync "App" [⟨"2", String.intercalate "/" (List.replicate 96 "d"), "", "javascript"⟩]
    let deep := nest.perform s
    s.state.fs.Distinct ∧ (start after.storage "user" defaultKey).state = after.state ∧
      deep.state.fs.height = 100 ∧ ¬ Restores deep ∧
      (start deep.storage "user" defaultKey).state = .initial "user" := by
  intro s ops after nest deep
  have distinct : s.state.fs.Distinct := Tree.Fit.initial "user" fun _ _ _ _ => trivial
  have low : after.state.fs.height ≤ State.deepestRead := by decide +kernel
  have high : deep.state.fs.height = 100 := by decide +kernel
  obtain ⟨⟨key, -⟩, -, -, persists⟩ :=
    run_restores_iff ops (.appendOutput ["\"done\"\x01"] .output) s distinct
  have again := ((persists id nofun).restores_iff.mpr low).starts "user"
  rw [key] at again
  obtain ⟨⟨kept, -⟩, -, -, persists'⟩ := run_restores_iff [] nest s distinct
  have key' : deep.key = s.key := kept
  have lost : Persists s.storage deep := persists' id nofun
  have deeper : State.deepestRead < deep.state.fs.height := by
    rw [high]
    decide
  have written : deep.state.fs.height ≤ State.deepestWritten := by
    rw [high]
    decide
  have afresh := (lost.discarded deeper written).2.2 "user"
  rw [key'] at afresh
  refine ⟨distinct, by rw [again], high, fun restored => ?_, by rw [afresh]⟩
  exact absurd (lost.restores_iff.mp restored) (Nat.not_le.mpr deeper)

end Session

end Workbench
