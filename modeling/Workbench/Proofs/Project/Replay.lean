import Workbench.Proofs.Project.Memory

/-!
# Calls of a store, replayed

A store in memory logs every call, so what happened to it is its log, replayed (`Memory.replay`),
whatever was refused. A file stays in the project in which it was created, and its id is never given
to another file. `Memory.StaysIn` says of calls that none of them changes or deletes a file that the
store holds under another project at that time.

Whoever calls the store knows it by the files that were listed before. `Memory.Cached` holds of
files that were listed, or created, at any time before; `Memory.Shows` says that no name means a
file of another project among them. Both are kept by every call.
-/

namespace Workbench.Project

/-- The id of the file that a call changes or deletes. -/
def Call.target? : Call → Option String
  | .update id _ | .delete id => some id
  | _ => none

namespace Memory

/-- The store after a call, which may have been refused. -/
def perform (m : Memory) : Call → Memory
  | .list project => (m.list project).2
  | .create project name content language => (m.create project name content language).2
  | .update id content => (m.update id content).2
  | .delete id => (m.delete id).2

/-- The store after calls, one after another. -/
def replay (m : Memory) (calls : List Call) : Memory :=
  calls.foldl perform m

variable {m : Memory} {project : Option String} {id : String} {files : List File}

/-- Calls can be replayed in two parts. -/
theorem replay_append (m : Memory) (calls more : List Call) :
    m.replay (calls ++ more) = (m.replay calls).replay more :=
  List.foldl_append

/-- The last call comes on top of the others. -/
theorem replay_concat (m : Memory) (calls : List Call) (call : Call) :
    m.replay (calls ++ [call]) = (m.replay calls).perform call :=
  replay_append m calls [call]

/-- A call is refused, or it is carried out on the store that has logged it. -/
theorem attempt_cases (m : Memory) {α : Type} (call : Call)
    (act : Memory → Except Failure α × Memory) :
    (∃ e, m.refusal m.calls call ≠ none ∧ m.attempt call act = (.error e, m.log call)) ∨
      m.attempt call act = act (m.log call) := by
  unfold attempt
  dsimp only
  cases m.refusal m.calls call with
  | some e => exact .inl ⟨e, Option.some_ne_none e, rfl⟩
  | none => exact .inr rfl

/-- A list is refused, or answered with the files of the project. -/
theorem list_cases (m : Memory) (project : String) :
    (∃ e, m.refusal m.calls (.list project) ≠ none ∧
      m.list project = (.error e, m.log (.list project))) ∨
      m.list project = (.ok (m.listing project), m.log (.list project)) :=
  attempt_cases m (.list project) fun m => (.ok (m.listing project), m)

/-- A file is refused or created. -/
theorem create_cases (m : Memory) (project name content language : String) :
    let call : Call := .create project name content language
    let logged := m.log call
    (∃ e, m.refusal m.calls call ≠ none ∧
      m.create project name content language = (.error e, logged)) ∨
      m.create project name content language =
        (.ok (logged.seed project name content language).1,
          (logged.seed project name content language).2) :=
  attempt_cases m (.create project name content language) fun m =>
    (.ok (m.seed project name content language).1, (m.seed project name content language).2)

/-- A file that is not there cannot be changed. -/
theorem update_cases (m : Memory) (id content : String) :
    let logged := m.log (.update id content)
    (∃ e, m.update id content = (.error e, logged)) ∨
      m.update id content = (.ok (), { logged with
        held := m.held.map fun (project, f) =>
          (project, if f.id == id then { f with content } else f) }) := by
  intro logged
  unfold update
  rcases attempt_cases m (.update id content) _ with ⟨e, -, h⟩ | h
  · exact .inl ⟨e, h⟩
  · rw [h]
    split
    · exact .inr rfl
    · exact .inl ⟨_, rfl⟩

/-- What a call does to the store, one constructor for each thing. -/
inductive Performs (m : Memory) : Call → Memory → Prop
  /-- The call is logged, and nothing is changed. -/
  | kept {call : Call} : Performs m call (m.log call)
  | created {project name content language : String} :
      Performs m (.create project name content language)
        ((m.log (.create project name content language)).seed project name content language).2
  | updated {id content : String} :
      Performs m (.update id content) { m.log (.update id content) with
        held := m.held.map fun (project, f) =>
          (project, if f.id == id then { f with content } else f) }
  | deleted {id : String} :
      Performs m (.delete id) { m.log (.delete id) with held := m.held.filter (·.2.id != id) }

/-- What a call does is one of the ways in which calls turn out. -/
theorem performs (m : Memory) (call : Call) : Performs m call (m.perform call) := by
  cases call with
  | list project =>
    rw [perform]
    rcases list_cases m project with ⟨e, -, h⟩ | h
    all_goals
      rw [h]
      exact .kept
  | create project name content language =>
    rw [perform]
    rcases create_cases m project name content language with ⟨e, -, h⟩ | h
    · rw [h]
      exact .kept
    · rw [h]
      exact .created
  | update id content =>
    rw [perform]
    rcases update_cases m id content with ⟨e, h⟩ | h
    · rw [h]
      exact .kept
    · rw [h]
      exact .updated
  | delete id =>
    rw [perform, delete]
    rcases attempt_cases m (.delete id) _ with ⟨e, -, h⟩ | h
    · rw [h]
      exact .kept
    · rw [h]
      split
      · exact .deleted
      · exact .kept

/-- Each call is logged. -/
theorem perform_calls (m : Memory) (call : Call) : (m.perform call).calls = m.calls ++ [call] := by
  have h := m.performs call
  generalize m.perform call = m' at h ⊢
  cases h <;> rfl

/-- What a store refuses stays the same. -/
theorem refusal_perform (m : Memory) (call : Call) : (m.perform call).refusal = m.refusal := by
  have h := m.performs call
  generalize m.perform call = m' at h ⊢
  cases h <;> rfl

/-- All calls are logged, in order. -/
theorem replay_calls (m : Memory) (calls : List Call) :
    (m.replay calls).calls = m.calls ++ calls := by
  induction calls generalizing m with
  | nil => exact (List.append_nil _).symm
  | cons call calls ih =>
    rw [replay, List.foldl_cons, ← replay, ih, perform_calls, List.append_assoc]
    rfl

/-- The store after calls tells which calls they were. -/
theorem replay_injective (m : Memory) : Function.Injective m.replay := by
  intro calls calls' h
  have := congrArg Memory.calls h
  rw [replay_calls, replay_calls] at this
  exact List.append_cancel_left this

/-- Files are counted up only. -/
theorem made_le_perform (m : Memory) (call : Call) : m.made ≤ (m.perform call).made := by
  have h := m.performs call
  generalize m.perform call = m' at h ⊢
  cases h with
  | created => exact Nat.le_succ _
  | kept | updated | deleted => exact Nat.le_refl _

/-- No call spoils the ids. -/
theorem Sound.perform (h : m.Sound) (call : Call) : (m.perform call).Sound := by
  cases call with
  | list project => exact h.list project
  | create project name content language => exact h.create project name content language
  | update id content => exact h.update id content
  | delete id => exact h.delete id

/-- Nor do any calls. -/
theorem Sound.replay (h : m.Sound) (calls : List Call) : (m.replay calls).Sound := by
  induction calls generalizing m with
  | nil => exact h
  | cons call calls ih => exact ih (h.perform call)

/-- A file that is held after a call was held before in the same project, or its id is new. -/
theorem mem_perform {call : Call} {e : String × File} (he : e ∈ (m.perform call).held) :
    (∃ e' ∈ m.held, e'.1 = e.1 ∧ e'.2.id = e.2.id) ∨ e.2.id = fileId (m.made + 1) := by
  have h := m.performs call
  generalize m.perform call = m' at h he
  cases h with
  | kept => exact .inl ⟨e, he, rfl, rfl⟩
  | created =>
    rcases List.mem_append.mp he with he | he
    · exact .inl ⟨e, he, rfl, rfl⟩
    · obtain rfl := List.mem_singleton.mp he
      exact .inr rfl
  | updated =>
    obtain ⟨e', he', rfl⟩ := List.mem_map.mp he
    refine .inl ⟨e', he', rfl, ?_⟩
    dsimp only
    split <;> rfl
  | deleted => exact .inl ⟨e, List.mem_of_mem_filter he, rfl, rfl⟩

/-! What an operation of a store in memory answers is what the memory answers, and the store after
it is the one after the call. -/

/-- Listing performs a call of the memory behind a store. -/
theorem list_memory (m : Memory) (project : String) :
    (Store.memory m).list project = ((m.list project).1, .memory (m.perform (.list project))) :=
  rfl

/-- So does creating. -/
theorem create_memory (m : Memory) (project name content language : String) :
    (Store.memory m).create project name content language =
      ((m.create project name content language).1,
        .memory (m.perform (.create project name content language))) :=
  rfl

/-- So does writing. -/
theorem update_memory (m : Memory) (id content : String) :
    (Store.memory m).update id content =
      ((m.update id content).1, .memory (m.perform (.update id content))) :=
  rfl

/-- So does deleting. -/
theorem delete_memory (m : Memory) (id : String) :
    (Store.memory m).delete id = ((m.delete id).1, .memory (m.perform (.delete id))) :=
  rfl

section Answers

variable {s store : Store} {name content language : String}

/-- What a list answered, and what it left. -/
theorem of_list {project : String} {answer : Except Failure (List File)} (hs : s = .memory m)
    (h : s.list project = (answer, store)) :
    (m.list project).1 = answer ∧ store = .memory (m.perform (.list project)) := by
  subst hs
  exact ⟨congrArg Prod.fst h, (congrArg Prod.snd h).symm⟩

/-- What a creation answered, and what it left. -/
theorem of_create {project : String} {answer : Except Failure File} (hs : s = .memory m)
    (h : s.create project name content language = (answer, store)) :
    (m.create project name content language).1 = answer ∧
      store = .memory (m.perform (.create project name content language)) := by
  subst hs
  exact ⟨congrArg Prod.fst h, (congrArg Prod.snd h).symm⟩

/-- What a write answered, and what it left. -/
theorem of_update {answer : Except Failure Unit} (hs : s = .memory m)
    (h : s.update id content = (answer, store)) :
    (m.update id content).1 = answer ∧ store = .memory (m.perform (.update id content)) := by
  subst hs
  exact ⟨congrArg Prod.fst h, (congrArg Prod.snd h).symm⟩

end Answers

/-- Deleting brings nothing in. -/
theorem held_of_mem_delete {e : String × File} (he : e ∈ (m.perform (.delete id)).held) :
    e ∈ m.held := by
  have h := m.performs (.delete id)
  generalize m.perform (.delete id) = m' at h he
  cases h with
  | kept => exact he
  | deleted => exact List.mem_of_mem_filter he

/-- A file that can be deleted is held. -/
theorem held_of_delete (h : (m.delete id).1 = .ok ()) : ∃ e ∈ m.held, e.2.id = id := by
  unfold delete at h
  rcases attempt_cases m (.delete id) _ with ⟨e, -, h'⟩ | h' <;> rw [h'] at h
  · cases h
  · split at h
    · next held => exact holds_iff.mp held
    · cases h

/-! ## Calls that stay in a project -/

/-- A call changes or deletes a file that the store holds under another project. -/
def Crosses (project : Option String) (m : Memory) (call : Call) : Prop :=
  ∃ e ∈ m.held, call.target? = some e.2.id ∧ some e.1 ≠ project

/-- Of calls, one after another, none crosses into another project. -/
def StaysIn (project : Option String) : Memory → List Call → Prop
  | _, [] => True
  | m, call :: calls => ¬ Crosses project m call ∧ StaysIn project (m.perform call) calls

/-- Calls stay in a project if the first of them do, and then the others. -/
theorem StaysIn.append {calls more : List Call} (h : StaysIn project m calls)
    (h' : StaysIn project (m.replay calls) more) : StaysIn project m (calls ++ more) := by
  induction calls generalizing m with
  | nil => exact h'
  | cons call calls ih => exact ⟨h.1, ih h.2 h'⟩

/-- A call that is for no file crosses nothing. -/
theorem not_crosses_of_target?_eq_none {call : Call} (h : call.target? = none) :
    ¬ Crosses project m call := by
  rintro ⟨e, -, target, -⟩
  rw [h] at target
  cases target

/-! ## Files that are known -/

/-- An id was given to a file, which need not be held any more. -/
def Given (m : Memory) (id : String) : Prop :=
  ∃ n ≤ m.made, id = fileId n

/-- If the store holds a file with the id, then in the project. -/
def Own (project : Option String) (m : Memory) (id : String) : Prop :=
  ∀ e ∈ m.held, e.2.id = id → some e.1 = project

/-- What was given before a call was given. -/
theorem Given.perform (h : m.Given id) (call : Call) : (m.perform call).Given id := by
  obtain ⟨n, hn, hid⟩ := h
  exact ⟨n, Nat.le_trans hn (m.made_le_perform call), hid⟩

/-- An id that was given is not the next one. -/
theorem Given.ne_fileId (h : m.Given id) : id ≠ fileId (m.made + 1) := by
  obtain ⟨n, hn, rfl⟩ := h
  intro same
  have := fileId_injective same
  omega

/-- A file with a given id that is held after a call was held before, in the same project. -/
theorem Given.exists_of_mem_perform (h : m.Given id) {call : Call} {e : String × File}
    (he : e ∈ (m.perform call).held) (hid : e.2.id = id) :
    ∃ e' ∈ m.held, e'.1 = e.1 ∧ e'.2.id = id := by
  rcases mem_perform he with ⟨e', he', hproject, hid'⟩ | new
  · exact ⟨e', he', hproject, hid'.trans hid⟩
  · exact absurd (hid.symm.trans new) h.ne_fileId

/-- A file is never moved to another project. -/
theorem Own.perform (h : m.Own project id) (given : m.Given id) (call : Call) :
    (m.perform call).Own project id := by
  intro e he hid
  obtain ⟨e', he', hproject, hid'⟩ := given.exists_of_mem_perform he hid
  rw [← hproject]
  exact h e' he' hid'

/-- Writing a file of one's own crosses nothing. -/
theorem Own.not_crosses (h : m.Own project id) {call : Call} (target : call.target? = some id) :
    ¬ Crosses project m call := by
  rintro ⟨e, he, target', other⟩
  exact other (h e he (Option.some.inj (target'.symm.trans target)))

/-! ## Files that were listed before -/

/-- Files that were listed or created before: their ids were given, and those that a name can mean
are held in one project, as far as they still are. -/
structure Cached (m : Memory) (files : List File) : Prop where
  given : ∀ f ∈ files, m.Given f.id
  together : ∀ f ∈ files, ∀ g ∈ files, Text.lower f.name = Text.lower g.name →
    ∀ e ∈ m.held, ∀ e' ∈ m.held, e.2.id = f.id → e'.2.id = g.id → e.1 = e'.1

theorem Cached.nil (m : Memory) : m.Cached [] :=
  ⟨fun _ h => absurd h List.not_mem_nil, fun _ h => absurd h List.not_mem_nil⟩

/-- Ids that were given stay given. -/
theorem Cached.perform (h : m.Cached files) (call : Call) : (m.perform call).Cached files := by
  refine ⟨fun f hf => (h.given f hf).perform call, ?_⟩
  intro f hf g hg same e he e' he' hid hid'
  obtain ⟨d, hd, hproject, hdid⟩ := (h.given f hf).exists_of_mem_perform he hid
  obtain ⟨d', hd', hproject', hdid'⟩ := (h.given g hg).exists_of_mem_perform he' hid'
  rw [← hproject, ← hproject']
  exact h.together f hf g hg same d hd d' hd' hdid hdid'

/-- So they do over any calls. -/
theorem Cached.replay (h : m.Cached files) (calls : List Call) :
    (m.replay calls).Cached files := by
  induction calls generalizing m with
  | nil => exact h
  | cons call calls ih => exact ih (h.perform call)

/-- What is listed is cached. -/
theorem Sound.cached_listing (h : m.Sound) (project : String) : m.Cached (m.listing project) := by
  have held {f : File} (hf : f ∈ m.listing project) : (project, f) ∈ m.held := mem_filesOf.mp hf
  refine ⟨fun f hf => h.given _ (held hf), ?_⟩
  intro f hf g hg _ e he e' he' hid hid'
  rw [h.eq_of_id_eq he (held hf) hid, h.eq_of_id_eq he' (held hg) hid']

/-- No name means a file that is held in another project. -/
def Shows (project : Option String) (m : Memory) (files : List File) : Prop :=
  ∀ name f, findFile? files name = some f → m.Own project f.id

theorem Shows.nil (project : Option String) (m : Memory) : m.Shows project [] :=
  fun _ _ h => nomatch h

/-- Files that are shown stay in their project. -/
theorem Shows.perform (h : m.Shows project files) (cached : m.Cached files) (call : Call) :
    (m.perform call).Shows project files :=
  fun name f found => (h name f found).perform (cached.given f (mem_of_findFile? found)) call

/-- So they do over any calls. -/
theorem Shows.replay (h : m.Shows project files) (cached : m.Cached files) (calls : List Call) :
    (m.replay calls).Shows project files := by
  induction calls generalizing m with
  | nil => exact h
  | cons call calls ih => exact ih (h.perform cached call) (cached.perform call)

/-- What is listed is held in the project. -/
theorem Sound.own_of_mem_listing (h : m.Sound) {project : String} {f : File}
    (hf : f ∈ m.listing project) : m.Own (some project) f.id := by
  intro e he hid
  rw [h.eq_of_id_eq he (mem_filesOf.mp hf) hid]

/-- The files that a project lists are its own. -/
theorem Sound.shows_listing (h : m.Sound) (project : String) :
    m.Shows (some project) (m.listing project) :=
  fun _ _ found => h.own_of_mem_listing (mem_of_findFile? found)

/-- A list that is answered is that of the project. -/
theorem listing_of_list {project : String} (h : (m.list project).1 = .ok files) :
    files = m.listing project := by
  rcases list_cases m project with ⟨e, -, h'⟩ | h'
  · rw [h'] at h
    cases h
  · rw [h'] at h
    exact (Except.ok.inj h).symm

/-! ## Files that are created -/

/-- What creating a file does. -/
structure Creation (m : Memory) (project name : String) (file : File) (m' : Memory) : Prop where
  named : file.name = name
  id_eq : file.id = fileId (m.made + 1)
  held_eq : m'.held = m.held ++ [(project, file)]
  made_eq : m'.made = m.made + 1

/-- A creation that is answered took place. -/
theorem creation_of_create {project name content language : String} {file : File}
    (h : (m.create project name content language).1 = .ok file) :
    Creation m project name file (m.perform (.create project name content language)) := by
  show Creation m project name file (m.create project name content language).2
  rcases create_cases m project name content language with ⟨e, -, h'⟩ | h'
  · rw [h'] at h
    cases h
  · rw [h'] at h ⊢
    obtain rfl := Except.ok.inj h
    exact ⟨rfl, rfl, rfl, rfl⟩

section Creation

variable {m' : Memory} {name : String} {file : File} {p : String}

/-- The file that is created is held in its project. -/
theorem Creation.own (c : Creation m p name file m') (sound : m.Sound) :
    m'.Own (some p) file.id := by
  intro e he hid
  rw [c.held_eq] at he
  rcases List.mem_append.mp he with he | he
  · exact absurd (hid.trans c.id_eq) (sound.fileId_ne he)
  · rw [List.mem_singleton.mp he]

/-- The id of a file that was created was given. -/
theorem Creation.given (c : Creation m p name file m') : m'.Given file.id :=
  ⟨m.made + 1, Nat.le_of_eq c.made_eq.symm, c.id_eq⟩

/-- A file that was created is one of its project. -/
theorem Creation.shows (c : Creation m p name file m') (sound : m.Sound)
    (h : m'.Shows (some p) files) : m'.Shows (some p) (files ++ [file]) := by
  intro other f found
  cases before : findFile? files other with
  | some g =>
    rw [findFile?_append_of_some before] at found
    exact Option.some.inj found ▸ h other g before
  | none =>
    rw [findFile?_append_of_none before] at found
    rw [List.mem_singleton.mp (mem_of_findFile? found)]
    exact c.own sound

/-- The files that were cached stay so with the one that is created, if those that have its name are
held in its project. -/
theorem Creation.cached (c : Creation m p name file m') (sound : m.Sound)
    (h : m'.Cached files)
    (claimed : ∀ g ∈ files, Text.lower g.name = Text.lower name → m'.Own (some p) g.id) :
    m'.Cached (files ++ [file]) := by
  have own := c.own sound
  rw [← c.named] at claimed
  refine ⟨?_, ?_⟩
  · intro f hf
    rcases List.mem_append.mp hf with hf | hf
    · exact h.given f hf
    · rw [List.mem_singleton.mp hf]
      exact c.given
  · intro f hf g hg same e he e' he' hid hid'
    -- two files of one name: both were cached before, or one of them is the new one
    rcases List.mem_append.mp hf with old | new <;> rcases List.mem_append.mp hg with old' | new'
    · exact h.together f old g old' same e he e' he' hid hid'
    · rw [List.mem_singleton.mp new'] at same hid'
      exact Option.some.inj ((claimed f old same e he hid).trans (own e' he' hid').symm)
    · rw [List.mem_singleton.mp new] at same hid
      exact Option.some.inj ((own e he hid).trans (claimed g old' same.symm e' he' hid').symm)
    · rw [List.mem_singleton.mp new] at hid
      rw [List.mem_singleton.mp new'] at hid'
      exact Option.some.inj ((own e he hid).trans (own e' he' hid').symm)

end Creation

end Memory

end Workbench.Project
