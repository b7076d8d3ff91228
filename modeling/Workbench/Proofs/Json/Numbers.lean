import Workbench.Json.Printer
import Workbench.Json.Reader
import Mathlib.Data.Int.Notation
import Mathlib.Data.List.TakeWhile
import Mathlib.Data.Nat.Digits.Defs

/-!
# Reading numbers and words

A value that is neither a string nor an array nor an object is read by `readScalar`. What it reads
does not depend on what follows, as long as that begins with a character that ends a value
(`readScalar_append`). An integer that is not too long is read back from its digits
(`readScalar_int`).
-/

namespace Workbench.Json

open Decimal (Binary64)

/-- What may follow a value: nothing, or something that begins with a character that ends it. -/
def Closes (tail : List Char) : Prop :=
  ∀ c cs, tail = c :: cs → c ∈ [',', ']', '}']

/-- Reads a text that begins like no string, array or object. -/
def readScalar (text : List Char) : Except Failure (Json × List Char) :=
  match readWord? text with
  | some found => .ok found
  | none => readNumber text

/-- Whether a number or the begin of a word consists of the character. -/
def isScalarChar (c : Char) : Bool :=
  c.isAlphanum || c == '-' || c == '+' || c == '.'

variable {text tail rest cs : List Char} {j : Json} {c : Char} {n : ℕ}

theorem Closes.nil : Closes [] := nofun

theorem Closes.cons (ends : c ∈ [',', ']', '}']) (cs : List Char) : Closes (c :: cs) := by
  rintro _ _ ⟨⟩
  exact ends

/-- What comes after a scalar cannot be part of it. -/
theorem Closes.isScalarChar_eq_false (h : Closes (c :: cs)) : isScalarChar c = false := by
  have ends := h c cs rfl
  simp only [List.mem_cons, List.not_mem_nil, or_false] at ends
  rcases ends with rfl | rfl | rfl <;> decide

theorem Closes.ne (h : Closes (c :: cs)) {d : Char} (scalar : isScalarChar d = true) : c ≠ d := by
  rintro rfl
  cases h.isScalarChar_eq_false.symm.trans scalar

/-! ## What follows a number -/

/-- Digits are those of the library. -/
theorem isDigit_eq_isDigit (c : Char) : isDigit c = c.isDigit := by
  simp [isDigit, Char.isDigit, Char.le_def]

/-- A digit can be part of a scalar. -/
theorem isScalarChar_of_isDigit (h : isDigit c = true) : isScalarChar c = true := by
  rw [isDigit_eq_isDigit] at h
  simp [isScalarChar, Char.isAlphanum, h]

/-- Digits do not run over the end of a scalar. -/
theorem takeWhile_append_of_closes (h : Closes tail) (cs : List Char) :
    (cs ++ tail).takeWhile isDigit = cs.takeWhile isDigit ∧
      (cs ++ tail).dropWhile isDigit = cs.dropWhile isDigit ++ tail := by
  induction cs with
  | nil =>
    cases tail with
    | nil => exact ⟨rfl, rfl⟩
    | cons c tail =>
      have stops : ¬ isDigit c = true := fun digit =>
        h.ne (isScalarChar_of_isDigit digit) rfl
      exact ⟨List.takeWhile_cons_of_neg stops, List.dropWhile_cons_of_neg stops⟩
  | cons c cs ih =>
    by_cases digit : isDigit c = true
    · rw [List.cons_append, List.takeWhile_cons_of_pos digit, List.takeWhile_cons_of_pos digit,
        List.dropWhile_cons_of_pos digit, List.dropWhile_cons_of_pos digit, ih.1, ih.2]
      exact ⟨rfl, rfl⟩
    · rw [List.cons_append, List.takeWhile_cons_of_neg digit, List.takeWhile_cons_of_neg digit,
        List.dropWhile_cons_of_neg digit, List.dropWhile_cons_of_neg digit]
      exact ⟨rfl, rfl⟩

theorem fractionPart_cons (other : c ≠ '.') (cs : List Char) :
    fractionPart (c :: cs) = ([], c :: cs) := by
  rw [fractionPart.eq_def]
  split
  · next same => exact absurd (List.cons.inj same).1 other
  · rfl

/-- Nor does a fraction. -/
theorem fractionPart_append (h : Closes tail) (cs : List Char) :
    fractionPart (cs ++ tail) = ((fractionPart cs).1, (fractionPart cs).2 ++ tail) := by
  cases cs with
  | nil =>
    cases tail with
    | nil => rfl
    | cons c tail =>
      rw [List.nil_append, fractionPart_cons (h.ne (by decide))]
      rfl
  | cons c cs =>
    by_cases point : c = '.'
    · subst point
      rw [List.cons_append, fractionPart, fractionPart, (takeWhile_append_of_closes h cs).1,
        (takeWhile_append_of_closes h cs).2]
      split <;> rfl
    · rw [List.cons_append, fractionPart_cons point, fractionPart_cons point]
      rfl

/-- The sign of an exponent, and the text behind it. -/
def exponentSign : List Char → Bool × List Char
  | '-' :: more => (true, more)
  | '+' :: more => (false, more)
  | more => (false, more)

theorem exponentSign_cons (minus : c ≠ '-') (plus : c ≠ '+') (cs : List Char) :
    exponentSign (c :: cs) = (false, c :: cs) := by
  rw [exponentSign.eq_def]
  split
  · next same => exact absurd (List.cons.inj same).1 minus
  · next same => exact absurd (List.cons.inj same).1 plus
  · rfl

/-- Nor does the sign of an exponent. -/
theorem exponentSign_append (h : Closes tail) (cs : List Char) :
    exponentSign (cs ++ tail) = ((exponentSign cs).1, (exponentSign cs).2 ++ tail) := by
  cases cs with
  | nil =>
    cases tail with
    | nil => rfl
    | cons c tail =>
      rw [List.nil_append, exponentSign_cons (h.ne (by decide)) (h.ne (by decide))]
      rfl
  | cons c cs =>
    by_cases minus : c = '-'
    · subst minus
      rfl
    · by_cases plus : c = '+'
      · subst plus
        rfl
      · rw [List.cons_append, exponentSign_cons minus plus, exponentSign_cons minus plus]
        rfl

theorem exponentPart_cons (c : Char) (cs : List Char) :
    exponentPart (c :: cs) =
      if c == 'e' || c == 'E' then
        if ((exponentSign cs).2.takeWhile isDigit).isEmpty then (none, c :: cs)
        else
          let n : ℤ := digitsValue ((exponentSign cs).2.takeWhile isDigit)
          (some (if (exponentSign cs).1 then -n else n), (exponentSign cs).2.dropWhile isDigit)
      else (none, c :: cs) := rfl

/-- Nor does an exponent. -/
theorem exponentPart_append (h : Closes tail) (cs : List Char) :
    exponentPart (cs ++ tail) = ((exponentPart cs).1, (exponentPart cs).2 ++ tail) := by
  cases cs with
  | nil =>
    cases tail with
    | nil => rfl
    | cons c tail =>
      have small : c ≠ 'e' := h.ne (by decide)
      have large : c ≠ 'E' := h.ne (by decide)
      rw [List.nil_append, exponentPart_cons, if_neg (by simp [small, large])]
      rfl
  | cons c cs =>
    rw [List.cons_append, exponentPart_cons, exponentPart_cons, exponentSign_append h,
      (takeWhile_append_of_closes h _).1, (takeWhile_append_of_closes h _).2]
    split
    · split <;> rfl
    · rfl

/-- The sign of a number, and the text behind it. -/
def numberSign : List Char → Bool × List Char
  | '-' :: cs => (true, cs)
  | cs => (false, cs)

/-- The digits before the point. -/
def wholePart : List Char → List Char
  | '0' :: _ => ['0']
  | cs => cs.takeWhile isDigit

/-- Reading a number, part by part. -/
theorem readNumber_eq (start : List Char) :
    readNumber start =
      let (negative, body) := numberSign start
      let whole := wholePart body
      if whole.isEmpty then .error ⟨.expectingValue, start⟩
      else
        let (fraction, rest) := fractionPart (body.drop whole.length)
        let (exponent, rest) := exponentPart rest
        if fraction.isEmpty && exponent.isNone then
          if maxDigits < whole.length then .error ⟨.tooManyDigits whole.length, start⟩
          else
            let n : Int := digitsValue whole
            .ok (.int (if negative then -n else n), rest)
        else
          let power := exponent.getD 0 - fraction.length
          .ok (.real (Binary64.ofDecimal negative (digitsValue (whole ++ fraction)) power), rest) :=
  rfl

theorem numberSign_cons (other : c ≠ '-') (cs : List Char) :
    numberSign (c :: cs) = (false, c :: cs) := by
  rw [numberSign.eq_def]
  split
  · next same => exact absurd (List.cons.inj same).1 other
  · rfl

/-- Nor does the sign. -/
theorem numberSign_append (h : Closes tail) (cs : List Char) :
    numberSign (cs ++ tail) = ((numberSign cs).1, (numberSign cs).2 ++ tail) := by
  cases cs with
  | nil =>
    cases tail with
    | nil => rfl
    | cons c tail =>
      rw [List.nil_append, numberSign_cons (h.ne (by decide))]
      rfl
  | cons c cs =>
    by_cases minus : c = '-'
    · subst minus
      rfl
    · rw [List.cons_append, numberSign_cons minus, numberSign_cons minus]
      rfl

theorem wholePart_cons (other : c ≠ '0') (cs : List Char) :
    wholePart (c :: cs) = (c :: cs).takeWhile isDigit := by
  rw [wholePart.eq_def]
  split
  · next same => exact absurd (List.cons.inj same).1 other
  · rfl

/-- Nor do the digits in front. -/
theorem wholePart_append (h : Closes tail) (cs : List Char) :
    wholePart (cs ++ tail) = wholePart cs := by
  cases cs with
  | nil =>
    cases tail with
    | nil => rfl
    | cons c tail =>
      have stops : ¬ isDigit c = true := fun digit => h.ne (isScalarChar_of_isDigit digit) rfl
      rw [List.nil_append, wholePart_cons (h.ne (by decide)), List.takeWhile_cons_of_neg stops]
      rfl
  | cons c cs =>
    by_cases zero : c = '0'
    · subst zero
      rfl
    · rw [List.cons_append, wholePart_cons zero, wholePart_cons zero, ← List.cons_append,
        (takeWhile_append_of_closes h _).1]

/-- The digits in front are part of the text. -/
theorem length_wholePart_le (cs : List Char) : (wholePart cs).length ≤ cs.length := by
  rw [wholePart.eq_def]
  split
  · rw [List.length_cons, List.length_nil, List.length_cons]
    omega
  · exact (List.takeWhile_sublist _).length_le

/-- What is read as a number is read as it before everything that ends a value. -/
theorem readNumber_append (h : readNumber text = .ok (j, rest)) (closes : Closes tail) :
    readNumber (text ++ tail) = .ok (j, rest ++ tail) := by
  rw [readNumber_eq] at h ⊢
  rw [numberSign_append closes]
  dsimp only at h ⊢
  rw [wholePart_append closes, List.drop_append_of_le_length (length_wholePart_le _),
    fractionPart_append closes]
  dsimp only
  rw [exponentPart_append closes]
  dsimp only
  split at h
  · cases h
  · next whole =>
    rw [if_neg whole]
    split at h
    · next integer =>
      rw [if_pos integer]
      split at h
      · cases h
      · next short =>
        cases h
        rw [if_neg short]
    · next real =>
      cases h
      rw [if_neg real]

/-! ## What follows a word -/

/-- A word does not run over the end of a scalar. -/
theorem afterWord?_append (closes : Closes tail) {word : List Char}
    (letters : ∀ c ∈ word, isScalarChar c = true) (text : List Char) :
    afterWord? word (text ++ tail) = (afterWord? word text).map (· ++ tail) := by
  induction word generalizing text with
  | nil => rfl
  | cons w word ih =>
    cases text with
    | nil =>
      cases tail with
      | nil => rfl
      | cons c tail =>
        have differs : w ≠ c := (closes.ne (letters w List.mem_cons_self)).symm
        show (if w = c then afterWord? word tail else none) = none
        exact if_neg differs
    | cons c text =>
      rw [List.cons_append, afterWord?, afterWord?,
        ih (fun d mem => letters d (List.mem_cons_of_mem _ mem))]
      split <;> rfl

/-- So what is read as a word is read whatever comes after it. -/
theorem readWord?_append (closes : Closes tail) (text : List Char) :
    readWord? (text ++ tail) = (readWord? text).map fun (value, rest) => (value, rest ++ tail) := by
  have all : (wordValues.all fun entry => entry.1.all isScalarChar) = true := by decide
  have letters : ∀ entry ∈ wordValues, ∀ c ∈ entry.1, isScalarChar c = true := fun entry mem =>
    List.all_eq_true.mp (List.all_eq_true.mp all entry mem)
  unfold readWord?
  generalize wordValues = words at letters ⊢
  induction words with
  | nil => rfl
  | cons entry words ih =>
    obtain ⟨word, value⟩ := entry
    rw [List.findSome?_cons, List.findSome?_cons]
    dsimp only
    rw [afterWord?_append closes (letters _ List.mem_cons_self)]
    cases afterWord? word text with
    | none => exact ih fun entry mem => letters entry (List.mem_cons_of_mem _ mem)
    | some rest => rfl

/-- **What is read does not depend on what follows.** -/
theorem readScalar_append (h : readScalar text = .ok (j, rest)) (closes : Closes tail) :
    readScalar (text ++ tail) = .ok (j, rest ++ tail) := by
  rw [readScalar] at h ⊢
  rw [readWord?_append closes]
  cases word : readWord? text with
  | some found =>
    rw [word] at h
    cases h
    rfl
  | none =>
    rw [word] at h
    exact readNumber_append h closes

/-! ## How numbers and words begin -/

/-- A number starts with a character of a scalar. -/
theorem isScalarChar_of_readNumber (h : readNumber (c :: cs) = .ok (j, rest)) :
    isScalarChar c = true := by
  by_contra other
  have minus : c ≠ '-' := by
    rintro rfl
    exact other rfl
  have zero : c ≠ '0' := by
    rintro rfl
    exact other rfl
  have digit : ¬ isDigit c = true := fun digit => other (isScalarChar_of_isDigit digit)
  rw [readNumber_eq, numberSign_cons minus] at h
  dsimp only at h
  rw [wholePart_cons zero, List.takeWhile_cons_of_neg digit] at h
  cases h

/-- A word starts with a character of a scalar. -/
theorem isScalarChar_of_afterWord? {word : List Char} (letter : word.head?.any isScalarChar = true)
    (h : afterWord? word (c :: cs) = some rest) : isScalarChar c = true := by
  cases word with
  | nil => cases letter
  | cons w word =>
    rw [afterWord?] at h
    split at h
    · next same => exact same ▸ letter
    · cases h

/-- What is read as a number or a word begins like one. -/
theorem isScalarChar_of_readScalar (h : readScalar (c :: cs) = .ok (j, rest)) :
    isScalarChar c = true := by
  have all : (wordValues.all fun entry => entry.1.head?.any isScalarChar) = true := by decide
  rw [readScalar] at h
  cases found : readWord? (c :: cs) with
  | some entry =>
    obtain ⟨⟨word, value⟩, mem, after⟩ := List.exists_of_findSome?_eq_some found
    obtain ⟨rest', after', -⟩ := Option.map_eq_some_iff.mp after
    exact isScalarChar_of_afterWord? (List.all_eq_true.mp all _ mem) after'
  | none =>
    rw [found] at h
    exact isScalarChar_of_readNumber h

/-! ## Integers -/

/-- The digits of an integer have its value. -/
theorem digitsValue_toDigits (n : ℕ) : digitsValue (Nat.toDigits 10 n) = n := by
  have fold (cs : List Char) (first : ℕ) :
      cs.foldl (fun n c => n * 10 + (c.toNat - 48)) first = Nat.ofDigitChars 10 cs first := by
    induction cs generalizing first with
    | nil => rfl
    | cons c cs ih =>
      rw [List.foldl_cons, ih, Nat.mul_comm]
      rfl
  rw [digitsValue, fold, Nat.ofDigitChars_ten_toDigits]

/-- Only zero is written with a zero in front. -/
theorem exists_toDigits_eq_cons (positive : 0 < n) :
    ∃ c cs, Nat.toDigits 10 n = c :: cs ∧ c ≠ '0' := by
  induction n using Nat.strongRecOn with
  | ind n ih =>
    by_cases small : n < 10
    · refine ⟨n.digitChar, [], Nat.toDigits_of_lt_base small, ?_⟩
      rw [Ne, Nat.digitChar_eq_zero]
      omega
    · obtain ⟨c, cs, front, nonzero⟩ := ih (n / 10) (by omega) (by omega)
      refine ⟨c, cs ++ [(n % 10).digitChar], ?_, nonzero⟩
      rw [Nat.toDigits_of_base_le (by decide) (by omega), front, List.cons_append]

theorem isDigit_of_mem_toDigits (h : c ∈ Nat.toDigits 10 n) : isDigit c = true := by
  rw [isDigit_eq_isDigit]
  exact Nat.isDigit_of_mem_toDigits (by decide) (by decide) h

/-- An integer is written with digits only. -/
theorem takeWhile_toDigits (n : ℕ) :
    (Nat.toDigits 10 n).takeWhile isDigit = Nat.toDigits 10 n :=
  List.takeWhile_eq_self_iff.mpr fun _ => isDigit_of_mem_toDigits

/-- All of them stand in front. -/
theorem wholePart_toDigits (n : ℕ) : wholePart (Nat.toDigits 10 n) = Nat.toDigits 10 n := by
  obtain rfl | positive := n.eq_zero_or_pos
  · rfl
  · obtain ⟨c, cs, front, nonzero⟩ := exists_toDigits_eq_cons positive
    rw [front, wholePart_cons nonzero, ← front, takeWhile_toDigits]

/-- An integer is read unless it is too long. -/
theorem readNumber_toDigits {negative : Bool}
    (body : numberSign text = (negative, Nat.toDigits 10 n)) :
    readNumber text =
      if maxDigits < (Nat.toDigits 10 n).length then
        .error ⟨.tooManyDigits (Nat.toDigits 10 n).length, text⟩
      else .ok (.int (if negative then -n else n), []) := by
  have nonempty : ¬ (Nat.toDigits 10 n).isEmpty = true := by simp [Nat.toDigits_ne_nil]
  have noFraction : fractionPart [] = ([], []) := rfl
  have noExponent : exponentPart [] = (none, []) := rfl
  have integer : (([] : List Char).isEmpty && (none : Option ℤ).isNone) = true := rfl
  rw [readNumber_eq, body]
  dsimp only
  rw [wholePart_toDigits, if_neg nonempty, List.drop_length, noFraction]
  dsimp only
  rw [noExponent]
  dsimp only
  rw [if_pos integer, digitsValue_toDigits]

/-- What begins with a digit is no word. -/
theorem readWord?_of_isDigit (digit : isDigit c = true) (cs : List Char) :
    readWord? (c :: cs) = none ∧ readWord? ('-' :: c :: cs) = none := by
  have other (w : Char) (letter : w.isDigit = false) : w ≠ c := by
    rintro rfl
    rw [isDigit_eq_isDigit, letter] at digit
    cases digit
  constructor <;> simp [readWord?, wordValues, afterWord?, other]

/-- An integer has a digit. -/
theorem exists_toDigits_eq_digit_cons (n : ℕ) :
    ∃ c cs, Nat.toDigits 10 n = c :: cs ∧ isDigit c = true := by
  obtain ⟨c, cs, front⟩ := List.exists_cons_of_ne_nil (Nat.toDigits_ne_nil (n := n) (b := 10))
  exact ⟨c, cs, front, isDigit_of_mem_toDigits (n := n) (front ▸ List.mem_cons_self)⟩

/-- A natural number is read from its digits, unless these are too many. -/
theorem readScalar_toDigits (n : ℕ) :
    readScalar (Nat.toDigits 10 n) =
      if maxDigits < (Nat.toDigits 10 n).length then
        .error ⟨.tooManyDigits (Nat.toDigits 10 n).length, Nat.toDigits 10 n⟩
      else .ok (.int n, []) := by
  obtain ⟨c, cs, front, digit⟩ := exists_toDigits_eq_digit_cons n
  have unsigned : c ≠ '-' := by
    rintro rfl
    cases digit
  have noWord : readWord? (Nat.toDigits 10 n) = none := by
    rw [front, (readWord?_of_isDigit digit cs).1]
  have body : numberSign (Nat.toDigits 10 n) = (false, Nat.toDigits 10 n) := by
    rw [front, numberSign_cons unsigned]
  rw [readScalar, noWord]
  exact readNumber_toDigits body

/-- An integer that is not too long is read back. -/
theorem readScalar_int {n : ℤ} (short : (Nat.toDigits 10 n.natAbs).length ≤ maxDigits) :
    readScalar (toString n).toList = .ok (.int n, []) := by
  have few : ¬ maxDigits < (Nat.toDigits 10 n.natAbs).length := Nat.not_lt.mpr short
  rw [Int.toString_eq_repr, Int.repr_eq_if]
  by_cases nonneg : 0 ≤ n
  · have abs : n.toNat = n.natAbs := by omega
    have value : (n.natAbs : ℤ) = n := by omega
    rw [if_pos nonneg, Nat.toList_repr, abs, readScalar_toDigits, if_neg few, value]
  · obtain ⟨c, cs, front, digit⟩ := exists_toDigits_eq_digit_cons n.natAbs
    have noWord : readWord? ('-' :: Nat.toDigits 10 n.natAbs) = none := by
      rw [front, (readWord?_of_isDigit digit cs).2]
    have abs : (-n).toNat = n.natAbs := by omega
    have value : -(n.natAbs : ℤ) = n := by omega
    have signed : ("-" ++ (-n).toNat.repr).toList = '-' :: Nat.toDigits 10 n.natAbs := by
      rw [String.toList_append, Nat.toList_repr, abs]
      rfl
    rw [if_neg nonneg, signed, readScalar, noWord]
    dsimp only
    rw [readNumber_toDigits rfl, if_neg few, if_pos rfl, value]

end Workbench.Json
