import Workbench.Proofs.Json.RoundTrip

/-!
# What is read

Whatever text a value is read from, its integers are not too long, its doubles have their form and
its objects have distinct names (`regular_of_readChars`): the reader refuses a longer integer, rounds
every other number to a double, and of two fields of one name it keeps one. So what was read can be
written and read again. Nor is it nested deeper than can be read (`admits_of_readChars`).
-/

namespace Workbench.Json

open Decimal (Binary64)

variable {mode : Mode} {j : Json} {fields : List (String × Json)} {text rest cs : List Char}
variable {fuel : Nat}

/-- The values that a mode of reading can yield. -/
def Mode.Yields (mode : Mode) (j : Json) : Prop :=
  Regular j ∧ mode.Admits j

/-! ## Numbers and words -/

/-- As many digits stand for no greater number. -/
theorem digitsValue_lt (each : ∀ c ∈ cs, isDigit c = true) : digitsValue cs < 10 ^ cs.length := by
  induction cs using List.reverseRecOn with
  | nil => exact Nat.one_pos
  | append_singleton cs c ih =>
    obtain ⟨earlier, last⟩ := List.forall_mem_append.mp each
    have small : digitsValue [c] ≤ 9 := by
      have digit := List.forall_mem_singleton.mp last
      rw [isDigit, Bool.and_eq_true, decide_eq_true_iff, decide_eq_true_iff] at digit
      have high : c.toNat ≤ 57 := digit.2
      rw [digitsValue, List.foldl_cons, List.foldl_nil]
      omega
    have front := ih earlier
    rw [digitsValue_append, List.length_append, List.length_singleton, pow_one, pow_succ]
    omega

/-- The digits in front are digits. -/
theorem isDigit_of_mem_wholePart {c : Char} (h : c ∈ wholePart cs) : isDigit c = true := by
  rw [wholePart.eq_def] at h
  split at h
  · rw [List.mem_singleton.mp h]
    rfl
  · exact List.mem_takeWhile_imp h

/-- As many digits stand for a number that is written with no more of them. -/
theorem length_toDigits_digitsValue_le (each : ∀ c ∈ cs, isDigit c = true)
    (few : cs.length ≤ maxDigits) : (Nat.toDigits 10 (digitsValue cs)).length ≤ maxDigits := by
  rw [Nat.length_toDigits_le_iff (by decide) (by decide)]
  exact (digitsValue_lt each).trans_le (Nat.pow_le_pow_right (by decide) few)

/-- A number that is read can be written and read again. -/
theorem yields_of_readNumber (h : readNumber text = .ok (j, rest)) : mode.Yields j := by
  rw [readNumber_eq] at h
  dsimp only at h
  split at h
  · cases h
  · split at h
    · split at h
      · cases h
      · next few =>
        cases h
        have short := length_toDigits_digitsValue_le
          (fun c => isDigit_of_mem_wholePart (c := c)) (Nat.not_lt.mp few)
        refine ⟨.int _ ?_, Mode.admits_of_nesting_eq_zero rfl⟩
        split
        · rwa [Int.natAbs_neg, Int.natAbs_natCast]
        · rwa [Int.natAbs_natCast]
    · cases h
      exact ⟨.real _ (Binary64.canonical_ofDecimal _ _ _), Mode.admits_of_nesting_eq_zero rfl⟩

/-- So can a scalar. -/
theorem yields_of_readScalar (h : readScalar text = .ok (j, rest)) : mode.Yields j := by
  rw [readScalar] at h
  cases found : readWord? text with
  | none =>
    rw [found] at h
    exact yields_of_readNumber h
  | some entry =>
    rw [found] at h
    cases h
    obtain ⟨⟨word, value⟩, mem, after⟩ := List.exists_of_findSome?_eq_some found
    obtain ⟨rest', -, same⟩ := Option.map_eq_some_iff.mp after
    cases same
    simp only [wordValues, List.mem_cons, List.not_mem_nil, or_false, Prod.mk.injEq] at mem
    rcases mem with ⟨-, rfl⟩ | ⟨-, rfl⟩ | ⟨-, rfl⟩ | ⟨-, rfl⟩ | ⟨-, rfl⟩ | ⟨-, rfl⟩
    · exact ⟨.null, Mode.admits_of_nesting_eq_zero rfl⟩
    · exact ⟨.bool true, Mode.admits_of_nesting_eq_zero rfl⟩
    · exact ⟨.bool false, Mode.admits_of_nesting_eq_zero rfl⟩
    all_goals exact ⟨.real _ trivial, Mode.admits_of_nesting_eq_zero rfl⟩

/-! ## Values -/

/-- An array is yielded if there is a level for it, and its items are yielded inside. -/
theorem Mode.yields_arr {items : List Json} (nonempty : items ≠ []) (room : mode.refuses false = false)
    (each : ∀ item ∈ items, mode.inside.Yields item) : mode.Yields (.arr items) :=
  ⟨.arr items fun item mem => (each item mem).1,
    (Mode.admits_arr_iff nonempty).mpr ⟨room, fun item mem => (each item mem).2⟩⟩

/-- An object is yielded if there is a level for it, and its fields are yielded inside. -/
theorem Mode.yields_object (nonempty : fields ≠ []) (room : mode.refuses false = false)
    (each : ∀ field ∈ fields, mode.inside.Yields field.2) : mode.Yields (object fields) := by
  have unique {field : String × Json} (mem : field ∈ Entries.unique fields) :=
    each field (Entries.mem_of_mem_unique mem)
  have some_left : Entries.unique fields ≠ [] := Entries.unique_ne_nil nonempty
  exact ⟨.obj _ (Entries.nodup_keys_unique fields) fun field mem => (unique mem).1,
    (Mode.admits_obj_iff some_left).mpr ⟨room, fun field mem => (unique mem).2⟩⟩

/-- What the reader yields with some fuel: a value at the front of a text, the items of an array from
those that were read and the text of the others, and the fields of an object likewise. -/
structure Yields (fuel : Nat) : Prop where
  value : ∀ {mode text j rest}, readValue mode fuel text = .ok (j, rest) → mode.Yields j
  items : ∀ {mode done text j rest}, (∀ item ∈ done, mode.Yields item) →
    readItems mode fuel done text = .ok (j, rest) →
      ∃ items, j = .arr items ∧ items ≠ [] ∧ ∀ item ∈ items, mode.Yields item
  fields : ∀ {mode done text j rest}, (∀ field ∈ done, mode.Yields field.2) →
    readFields mode fuel done text = .ok (j, rest) →
      ∃ fields, j = object fields ∧ fields ≠ [] ∧ ∀ field ∈ fields, mode.Yields field.2

theorem Yields.zero : Yields 0 where
  value h := by cases h
  items _ h := by cases h
  fields _ h := by cases h

/-- A computation in two parts that succeeds is one whose parts succeed. -/
theorem exists_of_bind_eq_ok {ε α β : Type} {first : Except ε α} {second : α → Except ε β} {b : β}
    (h : (first >>= second) = .ok b) : ∃ a, first = .ok a ∧ second a = .ok b := by
  cases first with
  | error e => cases h
  | ok a => exact ⟨a, rfl, h⟩

/-- So can a value, if those inside of it can. -/
theorem Yields.readValue_succ (h : Yields fuel)
    (reads : readValue mode (fuel + 1) text = .ok (j, rest)) : mode.Yields j := by
  rw [readValue.eq_def] at reads
  dsimp only at reads
  split at reads
  · obtain ⟨⟨s, more⟩, -, same⟩ := exists_of_bind_eq_ok reads
    cases same
    exact ⟨.str s, Mode.admits_of_nesting_eq_zero rfl⟩
  · split at reads <;> split at reads
    · cases reads
    · next room =>
      cases reads
      rw [Bool.not_eq_true] at room
      exact ⟨.arr [] (List.forall_mem_nil _), Mode.admits_arr_nil_iff.mpr room⟩
    · cases reads
    · next room =>
      rw [Bool.not_eq_true] at room
      obtain ⟨items, rfl, nonempty, each⟩ := h.items (List.forall_mem_nil _) reads
      exact Mode.yields_arr nonempty room each
  · split at reads <;> split at reads
    · cases reads
    · next room =>
      cases reads
      rw [Bool.not_eq_true] at room
      exact ⟨.obj [] List.nodup_nil (List.forall_mem_nil _), Mode.admits_obj_nil_iff.mpr room⟩
    · cases reads
    · next room =>
      rw [Bool.not_eq_true] at room
      obtain ⟨fields, rfl, nonempty, each⟩ := h.fields (List.forall_mem_nil _) reads
      exact Mode.yields_object nonempty room each
  · exact yields_of_readScalar reads

/-- The items of an array are yielded one by one. -/
theorem Yields.readItems_succ {done : List Json} (h : Yields fuel)
    (each : ∀ item ∈ done, mode.Yields item)
    (reads : readItems mode (fuel + 1) done text = .ok (j, rest)) :
    ∃ items, j = .arr items ∧ items ≠ [] ∧ ∀ item ∈ items, mode.Yields item := by
  rw [readItems] at reads
  obtain ⟨⟨item, more⟩, first, reads⟩ := exists_of_bind_eq_ok reads
  have longer : ∀ i ∈ item :: done, mode.Yields i := List.forall_mem_cons.mpr ⟨h.value first, each⟩
  dsimp only at reads
  split at reads
  · cases reads
    exact ⟨_, rfl, by simp, fun i mem => longer i (List.mem_reverse.mp mem)⟩
  · exact h.items longer reads
  · cases reads

/-- So are the fields of an object, of which the last of a name counts. -/
theorem Yields.readFields_succ {done : List (String × Json)} (h : Yields fuel)
    (each : ∀ field ∈ done, mode.Yields field.2)
    (reads : readFields mode (fuel + 1) done text = .ok (j, rest)) :
    ∃ fields, j = object fields ∧ fields ≠ [] ∧ ∀ field ∈ fields, mode.Yields field.2 := by
  rw [readFields.eq_def] at reads
  dsimp only at reads
  split at reads
  · obtain ⟨⟨key, more⟩, -, reads⟩ := exists_of_bind_eq_ok reads
    dsimp only at reads
    split at reads
    · obtain ⟨⟨value, more⟩, first, reads⟩ := exists_of_bind_eq_ok reads
      have longer : ∀ field ∈ (key, value) :: done, mode.Yields field.2 :=
        List.forall_mem_cons.mpr ⟨h.value first, each⟩
      dsimp only at reads
      split at reads
      · cases reads
        exact ⟨_, rfl, by simp, fun field mem => longer field (List.mem_reverse.mp mem)⟩
      · exact h.fields longer reads
      · cases reads
    · cases reads
  · cases reads

/-- By induction on the fuel, whatever the mode. -/
theorem yields (fuel : Nat) : Yields fuel := by
  induction fuel with
  | zero => exact .zero
  | succ fuel ih =>
    exact ⟨ih.readValue_succ, ih.readItems_succ, ih.readFields_succ⟩

/-- Whatever is read can be written and read again. -/
theorem yields_of_readChars (h : readChars mode text = .ok j) : mode.Yields j := by
  rw [readChars.eq_def] at h
  split at h
  · cases h
  · rw [readWhole] at h
    obtain ⟨⟨value, more⟩, reads, h⟩ := exists_of_bind_eq_ok h
    dsimp only at h
    split at h
    · cases h
      exact (yields _).value reads
    · cases h

/-- What is read can be written and read again. -/
theorem regular_of_readChars (h : readChars mode text = .ok j) : Regular j :=
  (yields_of_readChars h).1

/-- What is read is not nested deeper than can be read. -/
theorem admits_of_readChars (h : readChars mode text = .ok j) : mode.Admits j :=
  (yields_of_readChars h).2

/-- Whatever is read without a limit is regular. -/
theorem regular_of_read {s : String} (h : read s = .ok j) : Regular j := by
  rw [read] at h
  cases reads : readChars (.lenient none) s.toList with
  | ok value =>
    rw [reads] at h
    cases h
    exact regular_of_readChars reads
  | error failure =>
    rw [reads] at h
    cases h

/-- What is read strictly has no more levels than the strict reading allows. -/
theorem admits_of_readStrict? {s : String} (h : readStrict? s = some j) :
    Mode.strictly.Admits j := by
  rw [readStrict?] at h
  cases reads : readChars .strictly s.toList with
  | ok value =>
    rw [reads] at h
    cases h
    exact admits_of_readChars reads
  | error failure =>
    rw [reads] at h
    cases h

/-- An integer that is too long is refused. -/
theorem readChars_toDigits {n : Nat} (long : maxDigits < (Nat.toDigits 10 n).length) :
    readChars mode (Nat.toDigits 10 n) =
      .error ⟨.tooManyDigits (Nat.toDigits 10 n).length, Nat.toDigits 10 n⟩ := by
  obtain ⟨c, cs, front, digit⟩ := exists_toDigits_eq_digit_cons n
  have scalar : isScalarChar c = true := isScalarChar_of_isDigit digit
  have unmarked : c ≠ '\uFEFF' := ne_of_isScalarChar scalar (by decide)
  have refused := readScalar_toDigits n
  rw [if_pos long] at refused
  rw [readChars.eq_def]
  split
  · next same => exact absurd (List.cons.inj (front.symm.trans same)).1 unmarked
  · rw [front] at refused ⊢
    rw [readWhole, skipSpace_cons (isSpace_of_isScalarChar scalar), readValue_scalar scalar, refused]
    rfl

end Workbench.Json
