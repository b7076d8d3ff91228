import Workbench.Json.Encoding
import Workbench.Proofs.Json.RoundTrip
import Workbench.Proofs.Text.Utf8

/-!
# Loading what was written

A value without numbers that is written compactly, in UTF-8, is loaded from its bytes again
(`load_compact`). Nothing tells the encoding but the first two bytes: the first one stands for an
ASCII character, so that there is no byte-order mark, and neither of them is zero
(`Encoding.detect_encoded`).
-/

namespace Workbench.Json

variable {j : Json} {c : Char} {b : UInt8} {cs : List Char} {more : List UInt8}

/-! ## The encoding -/

namespace Encoding

/-- Bytes that begin with that of an ASCII character, and go on with no zero, are in UTF-8. -/
theorem detect_of_front (ascii : 0 < b.toNat ∧ b.toNat < 0x80) (next : more.head? ≠ some 0) :
    detect (b :: more) = (utf8, 0) := by
  have ne (mark : UInt8) (other : mark.toNat = 0 ∨ 0x80 ≤ mark.toNat) : mark ≠ b := by
    rintro rfl
    omega
  have unlike (mark : UInt8) (marks : List UInt8) (other : mark.toNat = 0 ∨ 0x80 ≤ mark.toNat) :
      (mark :: marks).isPrefixOf (b :: more) = false := by
    rw [List.isPrefixOf, beq_eq_false_iff_ne.mpr (ne mark other), Bool.false_and]
  have unmarked : ∀ mark ∈ marks, mark.1.isPrefixOf (b :: more) = false := by
    simp only [marks, List.forall_mem_cons, List.not_mem_nil, false_imp_iff, implies_true, and_true]
    exact ⟨unlike _ _ (by decide), unlike _ _ (by decide), unlike _ _ (by decide),
      unlike _ _ (by decide), unlike _ _ (by decide)⟩
  rw [detect, List.find?_eq_none.mpr fun mark mem => ne_true_of_eq_false (unmarked mark mem)]
  rcases more with _ | ⟨b₁, _ | ⟨b₂, _ | ⟨b₃, more⟩⟩⟩
  · rfl
  all_goals
    have second : b₁ ≠ 0 := fun zero => next (congrArg some zero)
    simp [ofZeros, (ne 0 (by decide)).symm, second]

/-- The first byte of a character is zero for the null character only. -/
theorem head?_utf8EncodeChar_ne (full : c ≠ '\x00') :
    (String.utf8EncodeChar c).head? ≠ some 0 := by
  have positive : 0 < c.val.toNat := by
    refine Nat.pos_of_ne_zero fun zero => full (Char.ext (UInt32.toNat_inj.mp zero))
  have front {n : ℕ} {more : List UInt8} (small : n < 256) (nonzero : 0 < n) :
      (UInt8.ofNat n :: more).head? ≠ some 0 := by
    intro same
    have value : (UInt8.ofNat n).toNat = n := Text.Utf8.toNat_byte small
    rw [Option.some.inj same] at value
    exact nonzero.ne value
  rw [String.utf8EncodeChar]
  split
  · exact front (by omega) positive
  · split
    · exact front (by omega) (by omega)
    · split
      · exact front (by omega) (by omega)
      · exact front (by omega) (by omega)

/-- A text that begins with an ASCII character, and goes on with no null character, is found to be
in UTF-8. -/
theorem detect_encoded (ascii : 0 < c.toNat ∧ c.toNat < 0x80) (next : cs.head? ≠ some '\x00') :
    detect ((c :: cs).flatMap String.utf8EncodeChar) = (utf8, 0) := by
  have small : c.val.toNat ≤ 0x7f := Nat.le_of_lt_succ ascii.2
  have value : (UInt8.ofNat c.val.toNat).toNat = c.toNat := Text.Utf8.toNat_byte (by omega)
  have first : String.utf8EncodeChar c = [UInt8.ofNat c.val.toNat] := by
    rw [String.utf8EncodeChar, if_pos small]
  rw [List.flatMap_cons, first, List.singleton_append]
  refine detect_of_front (value ▸ ascii) ?_
  cases cs with
  | nil => exact nofun
  | cons d cs =>
    have full : d ≠ '\x00' := fun null => next (congrArg some null)
    obtain ⟨b, more, bytes, -⟩ := Text.Utf8.first_encoded d
    have nonzero := head?_utf8EncodeChar_ne full
    rw [bytes] at nonzero
    rw [List.flatMap_cons, bytes]
    exact nonzero

end Encoding

/-! ## The text -/

/-- A character of a string is not written as a null character. -/
theorem head?_writtenChar_ne (asciiOnly : Bool) (c : Char) (cs : List Char) :
    (writtenChar asciiOnly c ++ cs).head? ≠ some '\x00' := by
  have escape (ds : List Char) : ('\\' :: ds ++ cs).head? ≠ some '\x00' := by
    rw [List.cons_append, List.head?_cons, Option.some_inj.ne]
    decide
  unfold writtenChar
  dsimp only
  split_ifs with _ _ _ _ _ _ _ control
  on_goal -1 =>
    -- the character itself, which is no control character
    rintro ⟨⟩
    exact control (by decide)
  all_goals exact escape _

/-- A value begins with an ASCII character. -/
theorem ascii_of_isOpening (h : isOpening c = true) : 0 < c.toNat ∧ c.toNat < 0x80 := by
  simp only [isOpening, isScalarChar, Bool.or_eq_true, beq_iff_eq] at h
  rcases h with (((((word | rfl) | rfl) | rfl) | rfl) | rfl) | rfl
  · change (decide (65 ≤ c.toNat ∧ c.toNat ≤ 90) ||
      (decide (97 ≤ c.toNat) && decide (c.toNat ≤ 122)) ||
      (decide (48 ≤ c.toNat) && decide (c.toNat ≤ 57))) = true at word
    simp only [Bool.or_eq_true, Bool.and_eq_true, decide_eq_true_eq] at word
    omega
  all_goals decide

/-- A value begins with a character of its own, and no null character follows. -/
theorem Plain.exists_write_eq_cons (h : Plain j) : ∃ c cs,
    write .compact [] j = c :: cs ∧ isOpening c = true ∧ cs.head? ≠ some '\x00' := by
  cases h with
  | null => exact ⟨'n', "ull".toList, rfl, by decide, by decide⟩
  | bool b => cases b with
    | true => exact ⟨'t', "rue".toList, rfl, by decide, by decide⟩
    | false => exact ⟨'f', "alse".toList, rfl, by decide, by decide⟩
  | str s =>
    refine ⟨'"', _, writtenString_append s [], by decide, ?_⟩
    cases s.toList with
    | nil => decide
    | cons c cs =>
      rw [List.flatMap_cons, List.append_assoc]
      exact head?_writtenChar_ne _ c _
  | arr items each => cases items with
    | nil => exact ⟨'[', [']'], rfl, by decide, by decide⟩
    | cons item rest =>
      have regular : ∀ other ∈ item :: rest, Regular other :=
        fun other mem => (each other mem).regular
      obtain ⟨d, ds, front, opens⟩ :=
        exists_writeItems_eq_cons regular (List.cons_ne_nil _ _) .compact [']']
      refine ⟨'[', _, by rw [write], by decide, ?_⟩
      rw [front, List.head?_cons, Option.some_inj.ne]
      exact ne_of_isOpening opens (by decide)
  | obj fields => cases fields with
    | nil => exact ⟨'{', ['}'], rfl, by decide, by decide⟩
    | cons field rest =>
      obtain ⟨ds, front⟩ := exists_writeFields_eq_cons (List.cons_ne_nil field rest) .compact ['}']
      refine ⟨'{', _, by rw [write], by decide, ?_⟩
      rw [front, List.head?_cons, Option.some_inj.ne]
      decide

/-- **Loading undoes writing**, if the value is not nested too deep. -/
theorem load_compact {levels : Option Nat} (h : Plain j)
    (admitted : (Mode.lenient levels).Admits j) :
    load levels j.compact.toUTF8.toList = .ok j := by
  obtain ⟨c, cs, front, opens, next⟩ := h.exists_write_eq_cons
  have text : j.compact.toList = write .compact [] j := String.toList_ofList
  have found : Encoding.detect j.compact.toUTF8.toList = (.utf8, 0) := by
    rw [Text.Utf8.toList_toUTF8, text, front]
    exact Encoding.detect_encoded (ascii_of_isOpening opens) next
  have decoded : Encoding.decode 0 j.compact.toUTF8.toList .utf8 = .ok (write .compact [] j) :=
    text ▸ Text.Utf8.decodePassing_toUTF8 j.compact
  rw [load, found]
  dsimp only
  rw [List.drop_zero, decoded]
  dsimp only
  rw [h.regular.readWhole_write .compact admitted]
  rfl

end Workbench.Json
