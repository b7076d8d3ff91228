import Workbench.Proofs.Editor.Tabs

/-!
# Typing into buffers

What was typed between two states of an editor can be told from the histories of its buffers, which
only become longer (`strokesSince`). Opening a file and looking buffers up types nothing; typing into
a live buffer adds one value to its history and leaves it live.
-/

namespace Workbench

open Project (File)

/-- A value that is typed into the buffer with a number. -/
structure Stroke where
  number : ℕ
  value : String
  deriving Repr, DecidableEq

namespace Editor

/-- The values that were ever typed into the buffer with a number. -/
def history (e : Editor) (number : ℕ) : List String :=
  ((e.buffer? number).map (·.history)).getD []

/-- What was typed since an earlier state of the editor, buffer by buffer. -/
def strokesSince (e e' : Editor) : List Stroke :=
  (List.range e'.buffers.length).flatMap fun number =>
    ((e'.history number).drop (e.history number).length).map (⟨number, ·⟩)

/-- The editor after a value was typed into a buffer. -/
def typeInto (e : Editor) (number : ℕ) (value : String) : Editor :=
  e.modifyBuffer number fun b => { b with value, history := b.history ++ [value] }

variable {e e' : Editor} {file : File} {name value : String} {number other : ℕ}

/-! ## What was typed -/

/-- Nothing was typed if no history grew. -/
theorem strokesSince_eq_nil (same : ∀ number, e'.history number = e.history number) :
    e.strokesSince e' = [] := by
  refine List.flatMap_eq_nil_iff.mpr fun number _ => ?_
  rw [same, List.drop_length, List.map_nil]

/-- If one history grew by one value, that was typed. -/
theorem strokesSince_eq_singleton (inside : number < e'.buffers.length)
    (typed : e'.history number = e.history number ++ [value])
    (others : ∀ other ≠ number, e'.history other = e.history other) :
    e.strokesSince e' = [⟨number, value⟩] := by
  have nothing (numbers : List ℕ) (apart : number ∉ numbers) :
      (numbers.flatMap fun other =>
        ((e'.history other).drop (e.history other).length).map (Stroke.mk other)) = [] := by
    refine List.flatMap_eq_nil_iff.mpr fun other mem => ?_
    have differs : other ≠ number := fun same => apart (same ▸ mem)
    rw [others other differs, List.drop_length, List.map_nil]
  obtain ⟨before, after, split⟩ := List.append_of_mem (List.mem_range.mpr inside)
  have once := List.nodup_range (n := e'.buffers.length)
  rw [split, List.nodup_middle, List.nodup_cons, List.mem_append, not_or] at once
  rw [strokesSince, split, List.flatMap_append, List.flatMap_cons, nothing before once.1.1,
    nothing after once.1.2, typed, List.drop_left, List.map_singleton, List.nil_append,
    List.append_nil]

/-! ## Live buffers -/

/-- A name leads to a live buffer, if that is not disposed. -/
theorem live?_eq_some_iff : e.live? name = some number ↔
    Entries.lookup name e.names = some number ∧
      ∃ buffer, e.buffer? number = some buffer ∧ buffer.disposed = false := by
  rw [live?]
  cases Entries.lookup name e.names with
  | none => simp
  | some found =>
    cases buffer : e.buffer? found with
    | none =>
      simp only [buffer, Option.bind_eq_bind, Option.bind_some, Option.bind_none,
        Option.some.injEq, reduceCtorEq, false_iff, not_and, not_exists]
      rintro rfl buffer' found'
      cases buffer.symm.trans found'
    | some b =>
      cases disposed : b.disposed with
      | true =>
        simp only [buffer, disposed, Option.bind_eq_bind, Option.bind_some, if_true,
          Option.some.injEq, reduceCtorEq, false_iff, not_and, not_exists]
        rintro rfl buffer' found' undisposed
        obtain rfl := Option.some.inj (buffer.symm.trans found')
        cases disposed.symm.trans undisposed
      | false =>
        simp only [buffer, disposed, Option.bind_eq_bind, Option.bind_some,
          Bool.false_eq_true, if_false, Option.some.injEq]
        refine ⟨?_, And.left⟩
        rintro rfl
        exact ⟨rfl, b, buffer, disposed⟩

/-- Looking a buffer up changes nothing but how many look-ups are left. -/
theorem lookup_snd (e : Editor) (name : String) :
    ∃ lookups, (e.lookup name).2 = { e with lookups } := by
  rw [lookup]
  split
  · exact ⟨_, rfl⟩
  · exact ⟨_, rfl⟩
  · exact ⟨_, rfl⟩

/-- What is found is live. -/
theorem live?_of_lookup (found : (e.lookup name).1 = some number) :
    e.live? name = some number := by
  rw [lookup] at found
  split at found
  · exact found
  · cases found
  · exact found

@[simp] theorem live?_lookup (e : Editor) (name other : String) :
    (e.lookup name).2.live? other = e.live? other := by
  obtain ⟨lookups, left⟩ := lookup_snd e name
  rw [left]
  rfl

/-- Looking a buffer up changes none. -/
@[simp] theorem buffer?_lookup (e : Editor) (name : String) (number : ℕ) :
    (e.lookup name).2.buffer? number = e.buffer? number := by
  obtain ⟨lookups, left⟩ := lookup_snd e name
  rw [left]
  rfl

/-- Nor does it type anything. -/
@[simp] theorem history_lookup (e : Editor) (name : String) (number : ℕ) :
    (e.lookup name).2.history number = e.history number := by
  rw [history, buffer?_lookup, history]

/-- A buffer that is opened has nothing typed into it yet. -/
@[simp] theorem history_openFile (e : Editor) (file : File) (number : ℕ) :
    (e.openFile file).history number = e.history number := by
  rw [history, history, buffer?, buffer?]
  cases live : e.live? file.name with
  | some found => rw [(openFile_of_live live).2]
  | none =>
    rw [(openFile_of_not_live live).2, List.getElem?_append]
    split
    · rfl
    · next outside =>
      rw [List.getElem?_eq_none (Nat.le_of_not_lt outside)]
      cases number - e.buffers.length <;> rfl

/-! ## Typing -/

/-- A live buffer can be typed into. -/
theorem setValue_of_live (live : e.live? name = some number) (value : String) :
    e.setValue number value = .ok (e.typeInto number value) := by
  obtain ⟨-, buffer, found, undisposed⟩ := live?_eq_some_iff.mp live
  rw [setValue, found]
  exact if_neg (by rw [undisposed]; exact Bool.false_ne_true)

/-- The buffer that is typed into has the value, and remembers it. -/
theorem buffer?_typeInto_self (e : Editor) (number : ℕ) (value : String) :
    (e.typeInto number value).buffer? number =
      (e.buffer? number).map fun b => { b with value, history := b.history ++ [value] } := by
  rw [buffer?, typeInto, modifyBuffer, buffer?]
  exact List.getElem?_modify_eq _ _ _

theorem buffer?_typeInto_of_ne (value : String) (differs : other ≠ number) :
    (e.typeInto number value).buffer? other = e.buffer? other :=
  List.getElem?_modify_ne _ _ differs.symm

/-- Typing into a buffer leaves it live. -/
theorem live?_typeInto (live : e.live? name = some number) (value : String) :
    (e.typeInto number value).live? name = some number := by
  obtain ⟨led, buffer, found, undisposed⟩ := live?_eq_some_iff.mp live
  have typed := buffer?_typeInto_self e number value
  rw [found, Option.map_some] at typed
  exact live?_eq_some_iff.mpr ⟨led, _, typed, undisposed⟩

/-- What was typed by typing into a live buffer, whatever was opened and looked up before. -/
theorem strokesSince_typeInto (same : ∀ number, e'.history number = e.history number)
    (live : e'.live? name = some number) (value : String) :
    e.strokesSince (e'.typeInto number value) = [⟨number, value⟩] := by
  obtain ⟨-, buffer, found, -⟩ := live?_eq_some_iff.mp live
  refine strokesSince_eq_singleton ?_ ?_ fun other differs => ?_
  · show number < (e'.buffers.modify number _).length
    rw [List.length_modify]
    exact (List.getElem?_eq_some_iff.mp found).1
  · rw [← same, history, buffer?_typeInto_self, history, found]
    rfl
  · rw [← same, history, buffer?_typeInto_of_ne value differs, history]

end Editor

end Workbench
