import Workbench.Proofs.Entries
import Workbench.Proofs.Json.Reading
import Workbench.Proofs.Tree.Height
import Workbench.Shell.State

/-!
# Reading back a state

A state is read back from its text if no directory of its tree has two entries of one name; a tree
that was built entry by entry is always so. The text of the older form, which calls the current
directory `cwd`, is read as the same state. A tree with more than `State.deepestRead` levels of
entries is not read back in either form, although it may be low enough to be written.
-/

namespace Workbench

/-- A value in which a field has another name; only the fields of the value itself count. -/
def Json.rename (old new : String) : Json → Json
  | .obj fields => .obj (fields.map fun (key, value) => (if key = old then new else key, value))
  | j => j

namespace Shell

variable {fits : String → Tree.Attributes → Prop} {s : State}

/-! ## Entries on the screen -/

/-- The name of a kind is read as that kind. -/
theorem EntryKind.check_name (kind : EntryKind) : EntryKind.check (.str kind.name) = .ok kind := by
  cases kind <;> rfl

/-- An optional text is read as it was written. -/
theorem text?_ofText? (text : Option String) : Schema.text? (.ofText? text) = .ok text := by
  cases text <;> rfl

/-- An entry is read as it was written. -/
theorem Entry.check_toJson (source : Schema.Source) (e : Entry) :
    Entry.check source e.toJson = .ok e := by
  have kind : Schema.required "type" EntryKind.check
      [("type", .str e.kind.name), ("content", .str e.content), ("cwd", .ofText? e.cwd)] =
        .ok e.kind :=
    Schema.required_of_lookup rfl (EntryKind.check_name e.kind)
  have content : Schema.required "content" Schema.text
      [("type", .str e.kind.name), ("content", .str e.content), ("cwd", .ofText? e.cwd)] =
        .ok e.content :=
    Schema.required_of_lookup (by simp [Entries.lookup]) (Schema.text_str e.content)
  have cwd : Schema.optional "cwd" none Schema.text?
      [("type", .str e.kind.name), ("content", .str e.content), ("cwd", .ofText? e.cwd)] =
        .ok e.cwd :=
    Schema.optional_of_lookup (by simp [Entries.lookup]) (text?_ofText? e.cwd)
  rw [Entry.check, Entry.toJson, Schema.record, kind, content, cwd]
  rfl

/-- An entry has no numbers in it. -/
theorem Entry.plain (e : Entry) : e.toJson.Plain := by
  have names : Entries.keys [("type", Json.str e.kind.name), ("content", .str e.content),
      ("cwd", .ofText? e.cwd)] = ["type", "content", "cwd"] := rfl
  refine .obj _ (names ▸ by decide) fun field held => ?_
  simp only [List.mem_cons, List.not_mem_nil, or_false] at held
  rcases held with rfl | rfl | rfl
  · exact .str _
  · exact .str _
  · cases e.cwd with
    | none => exact .null
    | some cwd => exact .str cwd

namespace State

/-! ## States -/

/-- The fields of a state, with a name for the field of the current directory. -/
def fieldsWith (cwdName : String) (s : State) : Schema.Fields :=
  [(fsField, s.fs.toJson), (cwdName, .str s.cwd), ("user", .str s.user),
    ("history", .arr (s.history.map Entry.toJson)), (logField, .ofTexts s.commandLog)]

/-- A state is written with the newer name of its directory. -/
theorem toJson_eq (s : State) : s.toJson = .obj (s.fieldsWith cwdField) := rfl

/-- Renaming that field gives what an older version wrote. -/
theorem rename_toJson (s : State) :
    s.toJson.rename cwdField olderCwdField = .obj (s.fieldsWith olderCwdField) := by
  simp [toJson, Json.rename, fieldsWith, fsField, cwdField, olderCwdField, logField]

/-- Fields that hold the parts of a state, and none under a second name, are checked to be the
state. -/
theorem check_of_lookup {given : Schema.Fields}
    (fs : Entries.lookup fsField (upgrade given) = some s.fs.toJson)
    (cwd : Entries.lookup cwdField (upgrade given) = some (.str s.cwd))
    (user : Entries.lookup "user" (upgrade given) = some (.str s.user))
    (history : Entries.lookup "history" (upgrade given) =
      some (.arr (s.history.map Entry.toJson)))
    (log : Entries.lookup logField (upgrade given) = some (.ofTexts s.commandLog)) :
    check (.obj given) = .ok s := by
  have cwdName : givenName cwdField "current_directory" (upgrade given) = cwdField := by
    simp [givenName, Entries.has, cwd]
  have logName : givenName logField "command_log" (upgrade given) = logField := by
    simp [givenName, Entries.has, log]
  have entries : Schema.list .text (Entry.check .text) (.arr (s.history.map Entry.toJson)) =
      .ok s.history :=
    Schema.eachFrom_map Entry.toJson s.history 0 fun e _ => Entry.check_toJson .text e
  have lines : Schema.list .text Schema.text (.ofTexts s.commandLog) = .ok s.commandLog :=
    Schema.eachFrom_map Json.str s.commandLog 0 fun line _ => Schema.text_str line
  rw [check, Schema.record]
  dsimp only
  rw [cwdName, logName,
    Schema.required_of_lookup fs (Tree.Directory.check_toJson s.fs),
    Schema.required_of_lookup cwd (Schema.text_str s.cwd),
    Schema.optional_of_lookup user (Schema.text_str s.user),
    Schema.optional_of_lookup history entries, Schema.optional_of_lookup log lines]
  rfl

/-- The JSON form of a state is checked to be the state. -/
theorem check_toJson (s : State) : check s.toJson = .ok s := by
  have present : upgrade (s.fieldsWith cwdField) = s.fieldsWith cwdField := by
    simp [upgrade, fieldsWith, Entries.lookup, fsField, cwdField, olderCwdField, logField]
  rw [toJson_eq]
  apply check_of_lookup <;> rw [present] <;>
    simp [fieldsWith, Entries.lookup, fsField, cwdField, logField]

/-- So is the older form. -/
theorem check_older (s : State) : check (s.toJson.rename cwdField olderCwdField) = .ok s := by
  have present : upgrade (s.fieldsWith olderCwdField) =
      [(fsField, s.fs.toJson), ("user", .str s.user),
        ("history", .arr (s.history.map Entry.toJson)), (logField, .ofTexts s.commandLog),
        (cwdField, .str s.cwd)] := by
    simp [upgrade, fieldsWith, Entries.lookup, Entries.erase, Entries.has, Entries.store, fsField,
      cwdField, olderCwdField, logField]
  rw [rename_toJson]
  apply check_of_lookup <;> rw [present] <;>
    simp [Entries.lookup, fsField, cwdField, logField]

/-- The fields of a state make a plain value if they have different names. -/
theorem plain_fieldsWith {cwdName : String} (tree : s.fs.Fit fits)
    (fresh : cwdName ∉ [fsField, "user", "history", logField]) :
    (Json.obj (s.fieldsWith cwdName)).Plain := by
  refine .obj _ ?_ fun field held => ?_
  · have names : Entries.keys (s.fieldsWith cwdName) =
        [fsField, cwdName, "user", "history", logField] := rfl
    have rest : [fsField, "user", "history", logField].Nodup := by decide
    rw [names, List.Perm.nodup_iff (List.Perm.swap cwdName fsField _)]
    exact List.nodup_cons.mpr ⟨fresh, rest⟩
  · simp only [fieldsWith, List.mem_cons, List.not_mem_nil, or_false] at held
    rcases held with rfl | rfl | rfl | rfl | rfl
    · exact tree.plain
    · exact .str _
    · exact .str _
    · refine .arr _ fun item hitem => ?_
      obtain ⟨e, -, rfl⟩ := List.mem_map.mp hitem
      exact e.plain
    · refine .arr _ fun item hitem => ?_
      obtain ⟨line, -, rfl⟩ := List.mem_map.mp hitem
      exact .str line

/-! ## How deep a tree may be -/

/-- The lowest level of entries with which a tree is read back: each level takes two levels of JSON,
and the root and the state around it take one each. -/
def deepestRead : Nat := 99

/-- An entry has nothing inside. -/
theorem Entry.nesting_toJson (e : Entry) : Json.nesting false e.toJson = 1 := by
  rcases e with ⟨kind, content, _ | cwd⟩ <;> rfl

/-- Only the tree makes a state deep: entries on the screen and lines take few levels. -/
theorem nesting_fieldsWith_le_iff {cwdName : String} {n : Nat} (roomy : 3 ≤ n) :
    Json.nesting false (.obj (s.fieldsWith cwdName)) ≤ n ↔ 2 * s.fs.height + 2 ≤ n := by
  have history : Json.nesting false (.arr (s.history.map Entry.toJson)) ≤ n - 1 := by
    cases hs : s.history with
    | nil => exact Nat.zero_le _
    | cons e rest =>
      refine (Json.nesting_arr_le_iff (by simp)).mpr ⟨by omega, fun item held => ?_⟩
      obtain ⟨entry, -, rfl⟩ := List.mem_map.mp held
      rw [Entry.nesting_toJson]
      omega
  have log : Json.nesting false (.ofTexts s.commandLog) ≤ n - 1 := by
    cases hs : s.commandLog with
    | nil => exact Nat.zero_le _
    | cons line rest =>
      refine (Json.nesting_arr_le_iff (by simp)).mpr ⟨by omega, fun item held => ?_⟩
      obtain ⟨entered, -, rfl⟩ := List.mem_map.mp held
      exact Nat.zero_le _
  have tree := s.fs.nesting_toJson
  have text (line : String) : Json.nesting false (.str line) ≤ n - 1 := Nat.zero_le _
  rw [Json.nesting_obj_le_iff (by simp [fieldsWith])]
  simp only [fieldsWith, List.forall_mem_cons, List.not_mem_nil, false_imp_iff, implies_true,
    history, log, text, and_true]
  omega

/-- A state can be read strictly just if its tree is low enough. -/
theorem strictly_admits_iff {cwdName : String} :
    Json.Mode.strictly.Admits (.obj (s.fieldsWith cwdName)) ↔ s.fs.height ≤ deepestRead := by
  have limit : Json.Mode.strictly.Admits (.obj (s.fieldsWith cwdName)) ↔
      Json.nesting false (.obj (s.fieldsWith cwdName)) ≤ 200 := by
    simp [Json.Mode.Admits, Json.Mode.strictly]
  rw [limit, nesting_fieldsWith_le_iff (by decide), deepestRead]
  omega

/-! ## Texts -/

/-- A state with distinct keys is read back from its text if its tree is not too deep for that. -/
theorem ofBlob_compact (tree : s.fs.Fit fits) (level : s.fs.height ≤ deepestRead) :
    ofBlob s.toJson.compact = .ok s := by
  have read : Json.readStrict? s.toJson.compact = some s.toJson :=
    Json.readStrict?_compact (plain_fieldsWith tree (by decide)) (strictly_admits_iff.mpr level)
  rw [ofBlob, read]
  exact check_toJson s

/-- It is also read back from the text of the older form. -/
theorem ofBlob_older (tree : s.fs.Fit fits) (level : s.fs.height ≤ deepestRead) :
    ofBlob (s.toJson.rename cwdField olderCwdField).compact = .ok s := by
  have read : Json.readStrict? (s.toJson.rename cwdField olderCwdField).compact =
      some (s.toJson.rename cwdField olderCwdField) := by
    rw [rename_toJson]
    exact Json.readStrict?_compact (plain_fieldsWith tree (by decide))
      (strictly_admits_iff.mpr level)
  rw [ofBlob, read]
  exact check_older s

/-- The tree is looked for under the same name in the older form. -/
theorem lookup_fs_upgrade (fields : Schema.Fields) :
    Entries.lookup fsField (upgrade fields) = Entries.lookup fsField fields := by
  rw [upgrade]
  split
  · rfl
  · dsimp only
    split
    · exact Entries.lookup_erase_of_ne _ (by decide)
    · rw [Entries.lookup_store_of_ne _ _ (by decide), Entries.lookup_erase_of_ne _ (by decide)]

/-- A value from which a state is made is as deep as the tree requires. -/
theorem height_le_of_check {input : Json} (h : check input = .ok s) :
    2 * s.fs.height + 2 ≤ Json.nesting false input := by
  rw [check, Schema.record.eq_def] at h
  split at h
  · next fields =>
    obtain ⟨⟨fs, others⟩, parts, rfl⟩ := Tree.exists_of_map_eq_ok h
    have tree := (Schema.Check.of_both_eq_ok parts).1
    rw [Schema.required, lookup_fs_upgrade] at tree
    split at tree
    · next value held =>
      have deep := Tree.Directory.height_le_of_check (Schema.Check.of_within_eq_ok tree)
      have inside : Json.nesting false value ≤ Json.nestingOfFields false fields :=
        Json.nestingOfFields_le_iff.mp le_rfl _ (Entries.mem_of_lookup held)
      rw [Tree.nesting_obj_of_lookup held]
      exact Nat.succ_le_succ (deep.trans inside)
    · cases tree
  · cases h

/-- **No text at all is read as a state whose tree is too deep.** -/
theorem height_le_of_ofBlob {blob : String} (h : ofBlob blob = .ok s) :
    s.fs.height ≤ deepestRead := by
  rw [ofBlob] at h
  split at h
  · next input read =>
    have tree := height_le_of_check h
    have text : Json.nesting false input ≤ 200 := Json.admits_of_readStrict? read 200 rfl
    rw [deepestRead]
    omega
  · cases h

/-- A state whose tree is too deep is not read back at all. -/
theorem ofBlob_compact_of_deep (tree : s.fs.Fit fits) (deep : deepestRead < s.fs.height) :
    ∃ issues, ofBlob s.toJson.compact = .error issues := by
  have unread : Json.readStrict? s.toJson.compact = none :=
    Json.readStrict?_compact_of_not_admits (plain_fieldsWith tree (by decide))
      (strictly_admits_iff.not.mpr (Nat.not_le.mpr deep))
  rw [ofBlob, unread]
  exact ⟨_, rfl⟩

/-- What is written is the text of the state; that is done for a tree that is not too deep. -/
theorem blob_eq_some_iff {blob : String} :
    s.blob = some blob ↔ s.fs.height ≤ deepestWritten ∧ s.toJson.compact = blob := by
  rw [State.blob]
  split <;> simp_all

/-- A state cannot be written if its tree is too deep. -/
theorem blob_eq_none_iff : s.blob = none ↔ deepestWritten < s.fs.height := by
  rw [State.blob]
  split <;> simp_all

end State

end Shell

end Workbench
