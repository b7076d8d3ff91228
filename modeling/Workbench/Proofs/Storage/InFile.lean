import Workbench.Storage.JsonFile
import Workbench.Proofs.Json.Reading
import Workbench.Proofs.Text.Utf8

/-!
# A storage in a file and one in memory

A storage in a file answers every call as a storage in memory does that holds what the file held at
first, also when it is replaced by a new one for the same file in between (`answers_holding`). The
file is read anew for each call, so the two are related after each call by what a `get` would find in
them (`Mirrors`): not by their values, as removing a key that holds `null` leaves it in the file.

There is one kind of text with which this fails. A file that holds no object counts as empty; but if
the reader comes upon an integer that is too long, every call fails and the file stays as it is.
-/

namespace Workbench.Storage

open Json (Regular)

/-- What is asked of a storage: one of its calls, or that a new one for the same file takes its
place. -/
inductive Call where
  | get (key : String)
  | set (key value : String)
  | remove (key : String)
  | reopen
  deriving Repr, DecidableEq

/-! ## In memory -/

/-- Values stored under keys in memory. -/
structure Memory where
  entries : List (String × Json)

namespace Memory

/-- The answer to a call, which is a value for `get`, and what is stored behind it. -/
def call (m : Memory) : Call → Option Json × Memory
  | .get key => (some ((Entries.lookup key m.entries).getD .null), m)
  | .set key value => (none, ⟨Entries.store key (.str value) m.entries⟩)
  | .remove key => (none, ⟨Entries.erase key m.entries⟩)
  | .reopen => (none, m)

/-- The answers to calls that follow each other. -/
def answers (m : Memory) : List Call → List (Option Json)
  | [] => []
  | c :: calls => (m.call c).1 :: (m.call c).2.answers calls

end Memory

/-! ## In a file -/

namespace JsonFile

/-- The file with a text in it, or no file. -/
def holding (content : Option String) : JsonFile :=
  ⟨content.map fun text => text.toUTF8.toList⟩

/-- The answer to a call, which is a value for `get`, and the file behind it. A call that fails
leaves the file as it is. -/
def call (f : JsonFile) : Call → Except ReadFault (Option Json) × JsonFile
  | .get key => ((f.get key).map some, f)
  | .set key value =>
    match f.set key value with
    | .ok written => (.ok none, written)
    | .error fault => (.error fault, f)
  | .remove key =>
    match f.remove key with
    | .ok written => (.ok none, written)
    | .error fault => (.error fault, f)
  | .reopen => (.ok none, f)

/-- The answers to calls that follow each other. -/
def answers (f : JsonFile) : List Call → List (Except ReadFault (Option Json))
  | [] => []
  | c :: calls => (f.call c).1 :: (f.call c).2.answers calls

/-- The fields of the object that is the content of a file; none if it is not there or its text is
no object. -/
def decoded : Option String → List (String × Json)
  | none => []
  | some text =>
    match Json.read text with
    | .ok (.obj fields) => fields
    | _ => []

/-- Whether the reader gives up the content because of an integer that is too long. -/
def TooLong (content : Option String) : Prop :=
  ∃ text error count, content = some text ∧ Json.read text = .error error ∧
    error.fault = .tooManyDigits count

variable {content : Option String} {fields : List (String × Json)} {f : JsonFile} {m : Memory}

/-! ## Reading the file -/

/-- What is loaded from a text, by what the reader makes of it. -/
def loaded : Except Json.ReadError Json → Except ReadFault (List (String × Json))
  | .ok (.obj fields) => .ok fields
  | .ok _ => .ok []
  | .error e =>
    match e.fault with
    | .tooManyDigits _ => .error (.number e)
    | _ => .ok []

/-- A file with a text is read by the reader. -/
theorem load_text (text : String) : (holding (some text)).load = loaded (Json.read text) := by
  rw [holding, Option.map_some, load]
  dsimp only
  rw [Text.Utf8.decode_toUTF8]
  change loaded (Json.read (String.ofList text.toList)) = _
  rw [String.ofList_toList]

/-- What is loaded is the object in the file, unless an integer is too long. -/
theorem load_holding (fine : ¬ TooLong content) :
    (holding content).load = .ok (decoded content) := by
  cases content with
  | none => rfl
  | some text =>
    rw [load_text, decoded]
    cases reads : Json.read text with
    | ok value => cases value <;> rfl
    | error e =>
      rw [loaded.eq_def]
      dsimp only
      split
      · next count fault => exact absurd ⟨text, e, count, rfl, reads, fault⟩ fine
      · rfl

/-- Then nothing is. -/
theorem exists_load_eq_error (h : TooLong content) :
    ∃ e, (holding content).load = .error (.number e) := by
  obtain ⟨text, e, count, rfl, reads, fault⟩ := h
  refine ⟨e, ?_⟩
  rw [load_text, reads, loaded.eq_def]
  dsimp only
  rw [fault]

/-- What was written is read again. -/
theorem load_write (regular : Regular (.obj fields)) :
    (write fields).load = .ok fields := by
  have text : write fields = holding (some (Json.obj fields).spaced) := rfl
  have same : loaded (.ok (.obj fields)) = .ok fields := rfl
  rw [text, load_text, regular.read_spaced, same]

/-- A file with nothing but an integer in it cannot be read if that is too long. -/
theorem tooLong_repr {n : Nat} (long : Json.maxDigits < (Nat.toDigits 10 n).length) :
    TooLong (some n.repr) := by
  have reads : Json.readChars (.lenient none) n.repr.toList =
      .error ⟨.tooManyDigits (Nat.toDigits 10 n).length, Nat.toDigits 10 n⟩ := by
    rw [Nat.toList_repr, Json.readChars_toDigits long]
  obtain ⟨position, refused⟩ : ∃ position, Json.read n.repr =
      .error ⟨.tooManyDigits (Nat.toDigits 10 n).length, n.repr.toList, position⟩ :=
    ⟨_, by rw [Json.read, reads, Json.located]⟩
  exact ⟨n.repr, _, _, rfl, refused, rfl⟩

/-- What was decoded can be written and read again. -/
theorem regular_decoded (content : Option String) : Regular (.obj (decoded content)) := by
  have empty : Regular (.obj []) := .obj [] List.nodup_nil (List.forall_mem_nil _)
  cases content with
  | none => exact empty
  | some text =>
    rw [decoded]
    split
    · next reads => exact Json.regular_of_read reads
    · exact empty

/-! ## One call -/

/-- So can it be after a text was stored. -/
theorem regular_store (regular : Regular (.obj fields)) (key value : String) :
    Regular (.obj (Entries.store key (.str value) fields)) := by
  cases regular with
  | obj _ distinct each =>
    refine .obj _ (Entries.nodup_keys_store key _ distinct) fun (k, v) mem => ?_
    rcases Entries.eq_or_mem_of_mem_store mem with ⟨-, rfl⟩ | held
    · exact .str value
    · exact each (k, v) held

/-- Or a key was erased. -/
theorem regular_erase (regular : Regular (.obj fields)) (key : String) :
    Regular (.obj (Entries.erase key fields)) := by
  have fewer := Entries.erase_sublist key fields
  cases regular with
  | obj _ distinct each =>
    exact .obj _ (distinct.sublist (fewer.map Prod.fst)) fun field mem =>
      each field (fewer.subset mem)

/-- Removing writes, unless there is nothing under the key or `null`. -/
theorem remove_eq (load : f.load = .ok fields) (key : String) :
    f.remove key = .ok f ∧ (Entries.lookup key fields).getD .null = .null ∨
      f.remove key = .ok (write (Entries.erase key fields)) := by
  rw [remove, load, Except.map]
  cases Entries.lookup key fields with
  | none => exact .inl ⟨rfl, rfl⟩
  | some value =>
    cases value with
    | null => exact .inl ⟨rfl, rfl⟩
    | _ => exact .inr rfl

/-- A file and a memory in which every `get` finds the same, and the file can be written and read
again. -/
def Mirrors (f : JsonFile) (m : Memory) : Prop :=
  ∃ fields, f.load = .ok fields ∧ Regular (.obj fields) ∧
    ∀ key, (Entries.lookup key fields).getD .null = (Entries.lookup key m.entries).getD .null

/-- The step: a call is answered alike, and the two are related after it. -/
theorem Mirrors.call (h : Mirrors f m) (c : Call) :
    (f.call c).1 = .ok (m.call c).1 ∧ Mirrors (f.call c).2 (m.call c).2 := by
  obtain ⟨fields, load, regular, same⟩ := h
  cases c with
  | get key =>
    refine ⟨?_, fields, load, regular, same⟩
    rw [JsonFile.call, get, load, Memory.call, ← same key]
    rfl
  | set key value =>
    have written : f.set key value = .ok (write (Entries.store key (.str value) fields)) := by
      rw [set, load]
      rfl
    rw [JsonFile.call, written]
    have regular' := regular_store regular key value
    refine ⟨rfl, _, load_write regular', regular', fun k => ?_⟩
    by_cases at_key : k = key
    · subst at_key
      rw [Memory.call, Entries.lookup_store_self, Entries.lookup_store_self]
    · rw [Memory.call, Entries.lookup_store_of_ne _ _ at_key,
        Entries.lookup_store_of_ne _ _ at_key, same k]
  | remove key =>
    -- what the memory finds without the key
    have gone (k : String) : (Entries.lookup k (m.call (.remove key)).2.entries).getD .null =
        if k = key then .null else (Entries.lookup k fields).getD .null := by
      rw [Memory.call]
      by_cases at_key : k = key
      · rw [if_pos at_key, at_key, Entries.lookup_erase_self]
        rfl
      · rw [if_neg at_key, Entries.lookup_erase_of_ne _ at_key, same k]
    rcases remove_eq load key with ⟨kept, null⟩ | written
    · rw [JsonFile.call, kept]
      refine ⟨rfl, fields, load, regular, fun k => ?_⟩
      rw [gone]
      split
      · next at_key => rw [at_key, null]
      · rfl
    · rw [JsonFile.call, written]
      have regular' := regular_erase regular key
      refine ⟨rfl, _, load_write regular', regular', fun k => ?_⟩
      rw [gone]
      split
      · next at_key =>
        rw [at_key, Entries.lookup_erase_self]
        rfl
      · next other => rw [Entries.lookup_erase_of_ne _ other]
  | reopen => exact ⟨rfl, fields, load, regular, same⟩

/-! ## Any number of calls -/

/-- The run, by induction on the calls. -/
theorem Mirrors.answers (h : Mirrors f m) (calls : List Call) :
    f.answers calls = (m.answers calls).map .ok := by
  induction calls generalizing f m with
  | nil => rfl
  | cons c calls ih =>
    obtain ⟨answer, next⟩ := h.call c
    rw [JsonFile.answers, Memory.answers, answer, ih next, List.map_cons]

/-- The answer of a file that cannot be read. -/
def refusal (e : Json.ReadError) : Call → Except ReadFault (Option Json)
  | .reopen => .ok none
  | _ => .error (.number e)

/-- A file that cannot be read fails each call, and stays. -/
theorem call_of_load_eq_error {e : Json.ReadError} (load : f.load = .error (.number e)) (c : Call) :
    f.call c = (refusal e c, f) := by
  cases c with
  | get key =>
    rw [call, get, load]
    rfl
  | set key value =>
    rw [call, set, load]
    rfl
  | remove key =>
    rw [call, remove, load]
    rfl
  | reopen => rfl

/-- So it does for all calls. -/
theorem answers_of_load_eq_error {e : Json.ReadError} (load : f.load = .error (.number e))
    (calls : List Call) : f.answers calls = calls.map (refusal e) := by
  induction calls with
  | nil => rfl
  | cons c calls ih => rw [answers, call_of_load_eq_error load, ih, List.map_cons]

/-- At first the memory holds what was decoded. -/
theorem mirrors_decoded (fine : ¬ TooLong content) :
    Mirrors (holding content) ⟨decoded content⟩ :=
  ⟨decoded content, load_holding fine, regular_decoded content, fun _ => rfl⟩

/-- **A storage in a file answers as one in memory**, whatever is in the file at first and wherever
it is replaced by a new one, exactly if the reader does not come upon an integer that is too long. If
it does, every call fails, and so does the next one. -/
theorem answers_holding (content : Option String) :
    ((∀ calls, (holding content).answers calls =
        ((⟨decoded content⟩ : Memory).answers calls).map .ok) ↔ ¬ TooLong content) ∧
      (TooLong content → ∃ e, ∀ calls,
        (holding content).answers calls = calls.map (refusal e)) := by
  have failing (long : TooLong content) : ∃ e, ∀ calls,
      (holding content).answers calls = calls.map (refusal e) := by
    obtain ⟨e, load⟩ := exists_load_eq_error long
    exact ⟨e, answers_of_load_eq_error load⟩
  refine ⟨⟨fun alike long => ?_, fun fine => (mirrors_decoded fine).answers⟩, failing⟩
  obtain ⟨e, refused⟩ := failing long
  have both := (refused [.get ""]).symm.trans (alike [.get ""])
  cases both

/-- One digit more than the reader takes, and nothing is found or stored, now and after the storage
is opened anew. -/
theorem answers_holding_digits : ∃ e,
    (holding (some (10 ^ Json.maxDigits).repr)).answers [.set "k" "v", .reopen, .get "k"] =
      [.error (.number e), .ok none, .error (.number e)] := by
  have long : Json.maxDigits < (Nat.toDigits 10 (10 ^ Json.maxDigits)).length := by
    rw [← not_le, Nat.length_toDigits_le_iff (by decide) (by decide)]
    exact lt_irrefl _
  obtain ⟨e, refused⟩ := (answers_holding _).2 (tooLong_repr long)
  exact ⟨e, refused _⟩

end JsonFile

end Workbench.Storage
