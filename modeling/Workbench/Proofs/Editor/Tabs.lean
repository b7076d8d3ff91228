import Workbench.Editor
import Mathlib.Data.List.Induction
import Mathlib.Data.List.Nodup

/-!
# Tabs and their buffers

Tabs are told apart by the ids of their files, buffers by their names. However files are opened and
closed, tabs have distinct ids and one of them is active as long as there are any (`Focused`); and a
name that leads to a buffer leads to a live one of that name (`Backed`).

Tabs and names stay in step (`Served`) as long as ids and names do. Two things part them: a tab is
closed while another one of the same name is open, which loses its buffer, and a file is opened
under the id of an open tab and a name that no tab has, which gets a buffer and no tab. Nothing else
does (`served_iff`).
-/

namespace Workbench

open Project (File)

/-- What is done to the tabs of an editor. -/
inductive TabAction where
  | openFile (file : File)
  | closeFile (id : String)
  deriving Repr, DecidableEq

namespace Editor

/-- Carries out an action. -/
def act (e : Editor) : TabAction → Editor
  | .openFile file => e.openFile file
  | .closeFile id => e.closeFile id

/-- A new editor after some actions. -/
def afterActions (actions : List TabAction) : Editor :=
  actions.foldl act (empty none)

/-- The tabs have distinct ids, and one of them is active unless there are none. -/
structure Focused (e : Editor) : Prop where
  distinct : (e.tabs.map (·.id)).Nodup
  idle : e.active = none ↔ e.tabs = []
  active : ∀ id, e.active = some id → ∃ tab ∈ e.tabs, tab.id = id

/-- Every open tab can be typed into, and no buffer is kept for a name without a tab. -/
structure Served (e : Editor) : Prop where
  live : ∀ tab ∈ e.tabs, ∃ number buffer, (e.lookup tab.name).1 = some number ∧
    e.buffer? number = some buffer ∧ buffer.disposed = false
  kept : ∀ name ∈ Entries.keys e.names, ∃ tab ∈ e.tabs, tab.name = name

/-- An action keeps tabs and names in step: a file that is opened under the id of an open tab has
the name of a tab, and no other tab has the name of one that is closed. -/
def Suits (e : Editor) : TabAction → Prop
  | .openFile file => (∃ tab ∈ e.tabs, tab.id = file.id) → ∃ tab ∈ e.tabs, tab.name = file.name
  | .closeFile id => ∀ tab ∈ e.tabs, tab.id = id → ∀ other ∈ e.tabs, other.name = tab.name →
      other.id = id

/-- An editor that never forgets, in which every name leads to a live buffer of that name. -/
structure Backed (e : Editor) : Prop where
  remembers : e.lookups = none
  backed : ∀ name number, Entries.lookup name e.names = some number →
    ∃ buffer, e.buffer? number = some buffer ∧ buffer.fileName = name ∧ buffer.disposed = false

/-- A name leads to a buffer. -/
def Keeps (e : Editor) (name : String) : Prop :=
  ∃ number, Entries.lookup name e.names = some number

variable {e : Editor} {file : File} {id name other : String} {actions : List TabAction}

/-! ## Buffers -/

/-- The names that lead to a buffer. -/
theorem mem_keys_names_iff : name ∈ Entries.keys e.names ↔ e.Keeps name := by
  rw [Keeps]
  generalize e.names = names
  induction names with
  | nil => simp [Entries.keys, Entries.lookup]
  | cons entry rest ih =>
    obtain ⟨key, number⟩ := entry
    rw [Entries.lookup]
    by_cases same : key = name
    · simp [same, Entries.keys]
    · rw [if_neg same, ← ih]
      simp [Entries.keys, Ne.symm same]

/-- A name that leads to a buffer leads to a live one. -/
theorem Backed.live? (h : e.Backed) (name : String) :
    e.live? name = Entries.lookup name e.names := by
  rw [Editor.live?]
  cases led : Entries.lookup name e.names with
  | none => rfl
  | some number =>
    obtain ⟨buffer, found, -, undisposed⟩ := h.backed name number led
    simp [found, undisposed]

/-- Looking a name up finds its buffer. -/
theorem Backed.lookup (h : e.Backed) (name : String) :
    (e.lookup name).1 = Entries.lookup name e.names := by
  rw [Editor.lookup, h.remembers]
  exact h.live? name

/-- In step are tabs and names that are the same. -/
theorem Backed.served_iff_keeps (h : e.Backed) :
    e.Served ↔ ∀ name, e.Keeps name ↔ ∃ tab ∈ e.tabs, tab.name = name := by
  constructor
  · intro served name
    refine ⟨fun keeps => served.kept name (mem_keys_names_iff.mpr keeps), ?_⟩
    rintro ⟨tab, mem, rfl⟩
    obtain ⟨number, -, found, -⟩ := served.live tab mem
    exact ⟨number, (h.lookup tab.name).symm.trans found⟩
  · intro same
    refine ⟨fun tab mem => ?_, fun name key => (same name).mp (mem_keys_names_iff.mp key)⟩
    obtain ⟨number, led⟩ := (same tab.name).mpr ⟨tab, mem, rfl⟩
    obtain ⟨buffer, found, -, undisposed⟩ := h.backed tab.name number led
    exact ⟨number, buffer, (h.lookup tab.name).trans led, found, undisposed⟩

/-- There is no name yet that could lead nowhere. -/
theorem empty_backed : (empty none).Backed :=
  ⟨rfl, nofun⟩

/-! ## Opening -/

/-- The tabs after a file was opened. -/
theorem tabs_openFile (e : Editor) (file : File) : (e.openFile file).tabs =
    if e.tabs.any (·.id == file.id) then e.tabs else e.tabs ++ [file] := by
  rw [openFile]
  dsimp only
  split <;> rfl

/-- The file that is opened becomes active. -/
theorem active_openFile (e : Editor) (file : File) : (e.openFile file).active = some file.id := by
  rw [openFile]
  dsimp only
  split <;> rfl

/-- Opening does not count as looking a buffer up. -/
theorem lookups_openFile (e : Editor) (file : File) : (e.openFile file).lookups = e.lookups := by
  rw [openFile]
  dsimp only
  split <;> rfl

/-- A name that has a live buffer keeps it when its file is opened again. -/
theorem openFile_of_live {number : Nat} (live : e.live? file.name = some number) :
    (e.openFile file).names = e.names ∧ (e.openFile file).buffers = e.buffers := by
  have same (tabs : List File) (active : Option String) :
      Editor.live? { e with tabs, active } file.name = some number := live
  rw [openFile]
  dsimp only
  rw [same]
  exact ⟨rfl, rfl⟩

/-- A name that has none gets one with the content of the file. -/
theorem openFile_of_not_live (dead : e.live? file.name = none) :
    (e.openFile file).names = Entries.store file.name e.buffers.length e.names ∧
      (e.openFile file).buffers =
        e.buffers ++ [⟨file.name, file.language, file.content, [], false⟩] := by
  have same (tabs : List File) (active : Option String) :
      Editor.live? { e with tabs, active } file.name = none := dead
  rw [openFile]
  dsimp only
  rw [same]
  exact ⟨rfl, rfl⟩

/-- Opening a file keeps every name backed. -/
theorem Backed.openFile (h : e.Backed) (file : File) : (e.openFile file).Backed := by
  refine ⟨(lookups_openFile e file).trans h.remembers, fun name number led => ?_⟩
  cases live : e.live? file.name with
  | some found =>
    obtain ⟨names_eq, buffers_eq⟩ := openFile_of_live live
    rw [names_eq] at led
    rw [buffer?, buffers_eq]
    exact h.backed name number led
  | none =>
    obtain ⟨names_eq, buffers_eq⟩ := openFile_of_not_live live
    rw [names_eq] at led
    rw [buffer?, buffers_eq]
    by_cases same : name = file.name
    · subst same
      rw [Entries.lookup_store_self] at led
      obtain rfl := Option.some.inj led
      exact ⟨_, List.getElem?_concat_length, rfl, rfl⟩
    · rw [Entries.lookup_store_of_ne _ _ same] at led
      obtain ⟨buffer, found, backed⟩ := h.backed name number led
      have inside : number < e.buffers.length := (List.getElem?_eq_some_iff.mp found).1
      exact ⟨buffer, (List.getElem?_append_left inside).trans found, backed⟩

/-- A file that is opened has a buffer, and the others keep theirs. -/
theorem Backed.keeps_openFile_iff (h : e.Backed) :
    (e.openFile file).Keeps name ↔ name = file.name ∨ e.Keeps name := by
  rw [Keeps]
  cases live : e.live? file.name with
  | some number =>
    rw [(openFile_of_live live).1]
    refine ⟨.inr, fun keeps => keeps.elim (fun same => ?_) id⟩
    exact ⟨number, by rw [same, ← h.live?, live]⟩
  | none =>
    rw [(openFile_of_not_live live).1]
    by_cases same : name = file.name
    · subst same
      exact iff_of_true ⟨_, Entries.lookup_store_self _ _ _⟩ (.inl rfl)
    · rw [Entries.lookup_store_of_ne _ _ same, or_iff_right same]
      rfl

/-! ## Closing -/

/-- Dropping a name touches only buffers and names. -/
theorem dropName_eq (e : Editor) (name : String) : ∃ buffers,
    e.dropName name = { e with buffers, names := Entries.erase name e.names } := by
  rw [dropName]
  cases led : Entries.lookup name e.names with
  | some number => exact ⟨_, rfl⟩
  | none =>
    refine ⟨e.buffers, ?_⟩
    have absent : Entries.erase name e.names = e.names := by
      generalize e.names = names at led
      induction names with
      | nil => rfl
      | cons entry rest ih =>
        obtain ⟨key, number⟩ := entry
        rw [Entries.lookup] at led
        split at led
        · cases led
        · next differs => rw [Entries.erase, if_neg differs, ih led]
    rw [absent]

/-- A name that is dropped has no buffer any more; the others keep theirs. -/
theorem keeps_dropName_iff : (e.dropName other).Keeps name ↔ name ≠ other ∧ e.Keeps name := by
  obtain ⟨buffers, dropped⟩ := dropName_eq e other
  rw [dropped, Keeps]
  dsimp only
  by_cases same : name = other
  · subst same
    rw [Entries.lookup_erase_self]
    exact iff_of_false nofun fun keeps => keeps.1 rfl
  · rw [Entries.lookup_erase_of_ne _ same]
    exact (and_iff_right same).symm

/-- The buffer that is disposed belongs to the name that is dropped and to no other. -/
theorem Backed.dropName (h : e.Backed) (other : String) : (e.dropName other).Backed := by
  rw [Editor.dropName]
  cases dropped : Entries.lookup other e.names with
  | none => exact h
  | some gone =>
    refine ⟨h.remembers, fun name number led => ?_⟩
    have differs : name ≠ other := by
      rintro rfl
      rw [Entries.lookup_erase_self] at led
      cases led
    rw [Entries.lookup_erase_of_ne _ differs] at led
    obtain ⟨buffer, found, named, undisposed⟩ := h.backed name number led
    obtain ⟨buffer', found', named', -⟩ := h.backed other gone dropped
    have apart : gone ≠ number := by
      rintro rfl
      obtain rfl := Option.some.inj (found.symm.trans found')
      exact differs (named.symm.trans named')
    refine ⟨buffer, ?_, named, undisposed⟩
    show (e.buffers.modify gone _)[number]? = some buffer
    rw [List.getElem?_modify_ne _ _ apart]
    exact found

variable {closing : List File}

/-- Dropping the names of files leaves the tabs and the active one. -/
theorem foldl_dropName_eq (e : Editor) (closing : List File) : ∃ buffers names,
    closing.foldl (fun e tab => e.dropName tab.name) e = { e with buffers, names } := by
  induction closing generalizing e with
  | nil => exact ⟨e.buffers, e.names, rfl⟩
  | cons tab closing ih =>
    obtain ⟨buffers, dropped⟩ := dropName_eq e tab.name
    obtain ⟨buffers', names', rest⟩ := ih (e.dropName tab.name)
    refine ⟨buffers', names', ?_⟩
    rw [List.foldl_cons, rest, dropped]

/-- So it is for the names of several tabs. -/
theorem keeps_foldl_dropName_iff :
    (closing.foldl (fun e tab => e.dropName tab.name) e).Keeps name ↔
      e.Keeps name ∧ ∀ tab ∈ closing, tab.name ≠ name := by
  induction closing generalizing e with
  | nil => simp
  | cons tab closing ih =>
    rw [List.foldl_cons, ih, keeps_dropName_iff, List.forall_mem_cons, and_comm (a := name ≠ _),
      and_assoc, ne_comm]

/-- Dropping the names of several tabs keeps the others backed. -/
theorem Backed.foldl_dropName (h : e.Backed) (closing : List File) :
    (closing.foldl (fun e tab => e.dropName tab.name) e).Backed := by
  induction closing generalizing e with
  | nil => exact h
  | cons tab closing ih => exact ih (h.dropName tab.name)

/-- The editor after a tab was closed: the names of its file are dropped, and the last tab becomes
active if the closed one was. -/
theorem closeFile_eq (e : Editor) (id : String) : ∃ dropped,
    dropped = (e.tabs.filter (·.id == id)).foldl (fun e tab => e.dropName tab.name)
      { e with tabs := e.tabs.filter (·.id != id) } ∧
    e.closeFile id = { dropped with
      tabs := e.tabs.filter (·.id != id)
      active := if e.active = some id then (e.tabs.filter (·.id != id)).getLast?.map (·.id)
        else e.active } := by
  refine ⟨_, rfl, ?_⟩
  obtain ⟨buffers, names, dropped⟩ := foldl_dropName_eq
    { e with tabs := e.tabs.filter (·.id != id) } (e.tabs.filter (·.id == id))
  rw [closeFile, dropped]
  by_cases same : e.active = some id
  · simp [same]
  · simp [same]

/-- The tabs that are left after one is closed. -/
theorem tabs_closeFile (e : Editor) (id : String) :
    (e.closeFile id).tabs = e.tabs.filter (·.id != id) := by
  obtain ⟨dropped, -, closed⟩ := closeFile_eq e id
  rw [closed]

/-- Closing a tab takes the buffer of its name away, whoever else has that name. -/
theorem keeps_closeFile_iff : (e.closeFile id).Keeps name ↔
    e.Keeps name ∧ ∀ tab ∈ e.tabs, tab.id = id → tab.name ≠ name := by
  obtain ⟨dropped, rfl, closed⟩ := closeFile_eq e id
  rw [closed]
  refine keeps_foldl_dropName_iff.trans ?_
  simp only [List.mem_filter, beq_iff_eq, and_imp]
  rfl

/-- Closing a tab keeps every name backed. -/
theorem Backed.closeFile (h : e.Backed) (id : String) : (e.closeFile id).Backed := by
  obtain ⟨dropped, rfl, closed⟩ := closeFile_eq e id
  have backed := Backed.foldl_dropName (e := { e with tabs := e.tabs.filter (·.id != id) })
    ⟨h.remembers, h.backed⟩ (e.tabs.filter (·.id == id))
  rw [closed]
  exact ⟨backed.remembers, backed.backed⟩

/-! ## One action -/

/-- The active tab is one of the tabs after a file was opened. -/
theorem Focused.openFile (h : e.Focused) (file : File) : (e.openFile file).Focused := by
  have there : ∃ tab ∈ (e.openFile file).tabs, tab.id = file.id := by
    rw [tabs_openFile]
    split
    · next shown => simpa using shown
    · exact ⟨file, List.mem_append_right _ List.mem_cons_self, rfl⟩
  refine ⟨?_, ?_, fun id active => ?_⟩
  · rw [tabs_openFile]
    split
    · exact h.distinct
    · next fresh =>
      rw [List.map_append, List.nodup_append]
      refine ⟨h.distinct, List.nodup_singleton _, fun id mem id' own => ?_⟩
      rintro rfl
      obtain ⟨tab, held, same⟩ := List.mem_map.mp mem
      rw [List.map_singleton, List.mem_singleton] at own
      rw [own] at same
      exact fresh (List.any_eq_true.mpr ⟨tab, held, beq_iff_eq.mpr same⟩)
  · obtain ⟨tab, mem, -⟩ := there
    rw [active_openFile]
    exact iff_of_false nofun (List.ne_nil_of_mem mem)
  · rw [active_openFile, Option.some.injEq] at active
    exact active ▸ there

/-- So it is after a tab was closed. -/
theorem Focused.closeFile (h : e.Focused) (id : String) : (e.closeFile id).Focused := by
  obtain ⟨dropped, -, closed⟩ := closeFile_eq e id
  rw [closed]
  refine ⟨h.distinct.sublist (List.filter_sublist.map _), ?_, fun other active => ?_⟩
  · dsimp only
    split
    · rw [Option.map_eq_none_iff, List.getLast?_eq_none_iff]
    · next differs =>
      rw [h.idle]
      constructor
      · intro none
        rw [none, List.filter_nil]
      · intro none
        -- the active tab would be left
        by_contra some_tab
        obtain ⟨other, active⟩ := Option.ne_none_iff_exists'.mp (mt h.idle.mp some_tab)
        obtain ⟨tab, mem, rfl⟩ := h.active other active
        have gone := List.filter_eq_nil_iff.mp none tab mem
        rw [bne_iff_ne, not_not] at gone
        exact differs (gone ▸ active)
  · dsimp only at active ⊢
    split at active
    · obtain ⟨tab, last, rfl⟩ := Option.map_eq_some_iff.mp active
      exact ⟨tab, List.mem_of_getLast? last, rfl⟩
    · next differs =>
      obtain ⟨tab, mem, rfl⟩ := h.active other active
      refine ⟨tab, List.mem_filter.mpr ⟨mem, bne_iff_ne.mpr ?_⟩, rfl⟩
      rintro rfl
      exact differs active

/-- Each action leaves an active tab that is open, or none at all. -/
theorem Focused.act (h : e.Focused) (action : TabAction) : (e.act action).Focused := by
  cases action with
  | openFile file => exact h.openFile file
  | closeFile id => exact h.closeFile id

/-- Each action keeps every name backed. -/
theorem Backed.act (h : e.Backed) (action : TabAction) : (e.act action).Backed := by
  cases action with
  | openFile file => exact h.openFile file
  | closeFile id => exact h.closeFile id

/-- A file that is opened gets a buffer in any case, and a tab unless its id has one. -/
theorem Backed.served_openFile_iff (h : e.Backed) (served : e.Served) :
    (e.openFile file).Served ↔ e.Suits (.openFile file) := by
  have same := h.served_iff_keeps.mp served
  rw [(h.openFile file).served_iff_keeps, Suits, tabs_openFile]
  simp only [h.keeps_openFile_iff, same]
  by_cases shown : ∃ tab ∈ e.tabs, tab.id = file.id
  · rw [if_pos (by simpa using shown)]
    constructor
    · exact fun all _ => (all file.name).mp (.inl rfl)
    · exact fun named name =>
        ⟨fun either => either.elim (fun eq => eq ▸ named shown) id, .inr⟩
  · rw [if_neg (by simpa using shown)]
    refine iff_of_true (fun name => ?_) fun open' => absurd open' shown
    simp only [List.mem_append, List.mem_singleton, or_and_right, exists_or, exists_eq_left]
    rw [or_comm, eq_comm]

/-- A tab that is closed takes the buffer of its name with it. -/
theorem Backed.served_closeFile_iff (h : e.Backed) (served : e.Served) :
    (e.closeFile id).Served ↔ e.Suits (.closeFile id) := by
  have same := h.served_iff_keeps.mp served
  rw [(h.closeFile id).served_iff_keeps, Suits, tabs_closeFile]
  simp only [keeps_closeFile_iff, same, List.mem_filter, bne_iff_ne]
  constructor
  · intro all tab mem closed other mem' named
    by_contra differs
    obtain ⟨-, apart⟩ := (all tab.name).mpr ⟨other, ⟨mem', differs⟩, named⟩
    exact apart tab mem closed rfl
  · intro alone name
    constructor
    · rintro ⟨⟨tab, mem, rfl⟩, apart⟩
      exact ⟨tab, ⟨mem, fun closed => apart tab mem closed rfl⟩, rfl⟩
    · rintro ⟨tab, ⟨mem, stays⟩, rfl⟩
      exact ⟨⟨tab, mem, rfl⟩, fun other mem' closed named =>
        stays (alone other mem' closed tab mem named.symm)⟩

/-- Tabs and names that are in step stay so with an action that suits them, and with no other. -/
theorem Backed.served_act_iff (h : e.Backed) (served : e.Served) (action : TabAction) :
    (e.act action).Served ↔ e.Suits action := by
  cases action with
  | openFile file => exact h.served_openFile_iff served
  | closeFile id => exact h.served_closeFile_iff served

/-! ## All actions -/

theorem afterActions_concat (actions : List TabAction) (action : TabAction) :
    afterActions (actions ++ [action]) = (afterActions actions).act action := by
  rw [afterActions, List.foldl_concat, afterActions]

/-- After any actions, names lead to live buffers. -/
theorem afterActions_backed (actions : List TabAction) : (afterActions actions).Backed := by
  induction actions using List.reverseRecOn with
  | nil => exact empty_backed
  | append_singleton actions action ih =>
    rw [afterActions_concat]
    exact ih.act action

/-- After any actions, the active tab is open. -/
theorem afterActions_focused (actions : List TabAction) : (afterActions actions).Focused := by
  induction actions using List.reverseRecOn with
  | nil => exact ⟨List.nodup_nil, iff_of_true rfl rfl, nofun⟩
  | append_singleton actions action ih =>
    rw [afterActions_concat]
    exact ih.act action

/-- What holds at each moment of a longer history holds at each of the shorter one and at its
end. -/
theorem forall_prefix_concat_iff {P : List TabAction → Prop} {action : TabAction} :
    (∀ before, before <+: actions ++ [action] → P before) ↔
      (∀ before, before <+: actions → P before) ∧ P (actions ++ [action]) := by
  simp only [List.prefix_concat_iff, or_imp, forall_and, forall_eq]
  exact and_comm

/-- What holds at every place of a list with one more item holds at the places before, and at the
last one. -/
theorem forall_split_concat_iff {P : List TabAction → TabAction → Prop} {action : TabAction} :
    (∀ before next after, actions ++ [action] = before ++ next :: after → P before next) ↔
      (∀ before next after, actions = before ++ next :: after → P before next) ∧
        P actions action := by
  constructor
  · intro all
    refine ⟨fun before next after split => all before next (after ++ [action]) ?_,
      all actions action [] rfl⟩
    rw [split, List.append_assoc, List.cons_append]
  · rintro ⟨earlier, last⟩ before next after split
    rcases List.eq_nil_or_concat after with rfl | ⟨after, end', rfl⟩
    · obtain ⟨rfl, ⟨⟩⟩ := List.append_inj' split rfl
      exact last
    · rw [List.concat_eq_append, ← List.cons_append, ← List.append_assoc] at split
      obtain ⟨rfl, -⟩ := List.append_inj' split rfl
      exact earlier before next after rfl

/-- **Every open tab can be typed into, as long as ids and names agree.** However files are opened
and closed in a new editor, tabs have distinct ids, and one of them is active unless there are none.
All along every tab has a live buffer, and no buffer is kept without a tab, if and only if no tab is
closed while another one of its name is open, and no file is opened under the id of a tab and a name
that no tab has. -/
theorem served_iff (actions : List TabAction) :
    (afterActions actions).Focused ∧
      ((∀ before, before <+: actions → (afterActions before).Served) ↔
        ∀ before action after, actions = before ++ action :: after →
          (afterActions before).Suits action) := by
  refine ⟨afterActions_focused actions, ?_⟩
  induction actions using List.reverseRecOn with
  | nil =>
    refine iff_of_true (fun before none => ?_) fun before action after split => ?_
    · obtain rfl := List.prefix_nil.mp none
      exact ⟨nofun, nofun⟩
    · exact absurd split (by simp)
  | append_singleton actions action ih =>
    rw [forall_prefix_concat_iff, forall_split_concat_iff, ← ih, afterActions_concat]
    refine and_congr_right fun served => ?_
    exact (afterActions_backed actions).served_act_iff (served actions List.prefix_rfl) action

/-- Two files of one name are open, and the first one is closed: the tab of the second one is left
without a buffer. -/
theorem served_iff_two_of_one_name :
    let first : File := ⟨"1", "app.js", "one", "javascript"⟩
    let second : File := ⟨"2", "app.js", "two", "javascript"⟩
    let actions := [.openFile first, .openFile second, .closeFile "1"]
    (afterActions actions).tabs = [second] ∧ ((afterActions actions).lookup "app.js").1 = none ∧
      ¬ ∀ before, before <+: actions → (afterActions before).Served := by
  intro first second actions
  refine ⟨by decide, by decide, fun served => ?_⟩
  have suits := (served_iff actions).2.mp served [.openFile first, .openFile second]
    (.closeFile "1") [] rfl
  have alone := suits first (by decide) rfl second (by decide) rfl
  exact absurd alone (by decide)

end Editor

end Workbench
