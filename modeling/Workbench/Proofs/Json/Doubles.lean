import Workbench.Proofs.Decimal.Shortest
import Workbench.Proofs.Json.Numbers

/-!
# Reading doubles

A double is read back from its text (`readScalar_writtenReal`). The text is made of the digits of a
decimal number that reads back as the double; here it is followed through the parts of a number to
the same decimal number, up to zeros at its ends.
-/

namespace Workbench.Json

open Decimal (Binary64 Scaled)
open Decimal.Binary64 (significantDigits positional withExponent decimalText shortest digitCount)

variable {negative : Bool} {digits whole fraction body cs start more : List Char} {c d : Char}
variable {point exponent power : ℤ} {n m : ℕ} {e : ℤ} {x : Binary64} {s : Scaled}

/-! ## Digits -/

/-- Digits behind others move those to the left. -/
theorem digitsValue_append (cs ds : List Char) :
    digitsValue (cs ++ ds) = digitsValue cs * 10 ^ ds.length + digitsValue ds := by
  have fold (first : ℕ) : ds.foldl (fun n c => n * 10 + (c.toNat - 48)) first =
      first * 10 ^ ds.length + digitsValue ds := by
    induction ds using List.reverseRecOn with
    | nil => rw [List.foldl_nil, List.length_nil, pow_zero, mul_one, digitsValue, List.foldl_nil,
        add_zero]
    | append_singleton ds d ih =>
      rw [digitsValue, List.foldl_concat, List.foldl_concat, ih, List.length_append,
        List.length_singleton, pow_succ, digitsValue]
      ring
  rw [digitsValue, List.foldl_append, ← digitsValue, fold]

theorem digitsValue_zeros (k : ℕ) : digitsValue (List.replicate k '0') = 0 := by
  induction k with
  | zero => rfl
  | succ k ih =>
    rw [List.replicate_succ', digitsValue_append, ih]
    rfl

/-- Zeros in front do not count. -/
theorem digitsValue_zeros_append (k : ℕ) (cs : List Char) :
    digitsValue (List.replicate k '0' ++ cs) = digitsValue cs := by
  rw [digitsValue_append, digitsValue_zeros, zero_mul, zero_add]

/-- The digits that a number is written with: at least one, and the first is not zero. -/
structure Leading (digits : List Char) : Prop where
  each : ∀ c ∈ digits, isDigit c = true
  front : ∃ c cs, digits = c :: cs ∧ c ≠ '0'

/-- Without the zeros at its end, the digits of a number are still its leading digits. -/
theorem exists_significantDigits_append (nonzero : n ≠ 0) :
    ∃ k, significantDigits n ++ List.replicate k '0' = Nat.toDigits 10 n ∧
      Leading (significantDigits n) := by
  obtain ⟨k, zeros⟩ : ∃ k, (Nat.toDigits 10 n).reverse.takeWhile (· == '0') =
      List.replicate k '0' :=
    ⟨_, List.eq_replicate_iff.mpr ⟨rfl, fun c mem => by simpa using List.mem_takeWhile_imp mem⟩⟩
  have whole : significantDigits n ++ List.replicate k '0' = Nat.toDigits 10 n := by
    rw [significantDigits, ← List.reverse_inj, List.reverse_append, List.reverse_replicate, ← zeros,
      List.reverse_reverse, List.takeWhile_append_dropWhile]
  refine ⟨k, whole, fun c mem => ?_, ?_⟩
  · exact isDigit_of_mem_toDigits (n := n) (whole ▸ List.mem_append_left _ mem)
  · obtain ⟨c, cs, front, other⟩ := exists_toDigits_eq_cons (Nat.pos_of_ne_zero nonzero)
    rw [front] at whole
    cases kept : significantDigits n with
    | nil =>
      rw [kept, List.nil_append] at whole
      have zero : c ∈ List.replicate k '0' := whole ▸ List.mem_cons_self
      exact absurd (List.eq_of_mem_replicate zero) other
    | cons d ds =>
      rw [kept, List.cons_append] at whole
      exact ⟨d, ds, rfl, (List.cons.inj whole).1 ▸ other⟩

/-! ## Parts of a number -/

/-- A number with a fraction or an exponent is a double, in the parts in which it is read. -/
theorem readNumber_real {exponent : Option ℤ} (sign : numberSign start = (negative, body))
    (first : wholePart body = whole) (nonempty : whole ≠ [])
    (second : fractionPart (body.drop whole.length) = (fraction, more))
    (third : exponentPart more = (exponent, []))
    (real : fraction ≠ [] ∨ exponent.isSome = true) :
    readNumber start = .ok (.real (Binary64.ofDecimal negative (digitsValue (whole ++ fraction))
      (exponent.getD 0 - fraction.length)), []) := by
  have some : ¬ whole.isEmpty = true := by simpa using nonempty
  have noInteger : ¬ (fraction.isEmpty && exponent.isNone) = true := by
    rcases real with real | real
    · simp [real]
    · simp [Option.isNone_eq_false_iff.mpr real]
  rw [readNumber_eq, sign]
  dsimp only
  rw [first, if_neg some, second]
  dsimp only
  rw [third]
  dsimp only
  rw [if_neg noInteger]

/-- The digits in front end at the first character that is none. -/
theorem wholePart_digits (leading : ∃ c cs, whole = c :: cs ∧ c ≠ '0')
    (each : ∀ c ∈ whole, isDigit c = true) (stop : isDigit c = false) :
    wholePart (whole ++ c :: more) = whole := by
  obtain ⟨d, ds, rfl, other⟩ := leading
  rw [List.cons_append, wholePart_cons other, ← List.cons_append, List.takeWhile_append_of_pos each,
    List.takeWhile_cons_of_neg (by simp [stop]), List.append_nil]

/-- So do those behind the point. -/
theorem fractionPart_digits (each : ∀ c ∈ fraction, isDigit c = true) (nonempty : fraction ≠ [])
    (stop : ∀ c cs, more = c :: cs → isDigit c = false) :
    fractionPart ('.' :: (fraction ++ more)) = (fraction, more) := by
  have behind : more.takeWhile isDigit = [] ∧ more.dropWhile isDigit = more := by
    cases more with
    | nil => exact ⟨rfl, rfl⟩
    | cons c cs =>
      have other : ¬ isDigit c = true := by simp [stop c cs rfl]
      exact ⟨List.takeWhile_cons_of_neg other, List.dropWhile_cons_of_neg other⟩
  have some : ¬ fraction.isEmpty = true := by simpa using nonempty
  rw [fractionPart, List.takeWhile_append_of_pos each, List.dropWhile_append_of_pos each,
    behind.1, behind.2, List.append_nil, if_neg some]

/-- The sign and the digits of an exponent. -/
def exponentText (exponent : ℤ) : List Char :=
  let size := Nat.toDigits 10 exponent.natAbs
  (if exponent < 0 then '-' else '+') :: (if size.length < 2 then '0' :: size else size)

/-- The exponent that is written is read. -/
theorem exponentPart_exponentText (exponent : ℤ) :
    exponentPart ('e' :: exponentText exponent) = (some exponent, []) := by
  obtain ⟨k, padded⟩ : ∃ k, (if (Nat.toDigits 10 exponent.natAbs).length < 2 then
      '0' :: Nat.toDigits 10 exponent.natAbs else Nat.toDigits 10 exponent.natAbs) =
        List.replicate k '0' ++ Nat.toDigits 10 exponent.natAbs := by
    split
    · exact ⟨1, rfl⟩
    · exact ⟨0, rfl⟩
  have value := digitsValue_toDigits exponent.natAbs
  have each : ∀ c ∈ List.replicate k '0' ++ Nat.toDigits 10 exponent.natAbs,
      isDigit c = true := by
    intro c mem
    rcases List.mem_append.mp mem with zero | digit
    · rw [List.eq_of_mem_replicate zero]
      rfl
    · exact isDigit_of_mem_toDigits digit
  have some : ¬ (List.replicate k '0' ++ Nat.toDigits 10 exponent.natAbs).isEmpty = true := by
    simp [Nat.toDigits_ne_nil]
  have sign : exponentSign (exponentText exponent) =
      (decide (exponent < 0), List.replicate k '0' ++ Nat.toDigits 10 exponent.natAbs) := by
    rw [exponentText, padded]
    by_cases below : exponent < 0
    · rw [if_pos below, decide_eq_true below]
      rfl
    · rw [if_neg below, decide_eq_false below]
      rfl
  rw [exponentPart_cons, if_pos (by decide), sign]
  dsimp only
  rw [List.takeWhile_eq_self_iff.mpr each, List.dropWhile_eq_nil_iff.mpr each, if_neg some,
    digitsValue_zeros_append, value]
  congr 2
  by_cases below : exponent < 0
  · rw [if_pos (decide_eq_true below)]
    omega
  · rw [if_neg (by simp [below])]
    omega

/-! ## Digits with a point -/

/-- Digits that are written with a point: what stands before it and behind it, and how many zeros
are added at the end. -/
structure Pointed (digits : List Char) (point : ℤ) (whole fraction : List Char) (count : ℕ) :
    Prop where
  text : positional digits point = whole ++ '.' :: fraction
  first : wholePart (whole ++ '.' :: fraction) = whole
  some_whole : whole ≠ []
  each : ∀ c ∈ fraction, isDigit c = true
  some_fraction : fraction ≠ []
  value : digitsValue (whole ++ fraction) = digitsValue digits * 10 ^ count
  places : point - digits.length - count = -fraction.length

theorem isDigit_of_mem_zeros {k : ℕ} : ∀ c ∈ List.replicate k '0', isDigit c = true :=
  fun _ mem => List.eq_of_mem_replicate mem ▸ rfl

/-- The point stands in front of the digits. -/
theorem Leading.pointed_front (leading : Leading digits) {k : ℕ} (front : point = -(k : ℤ)) :
    Pointed digits point ['0'] (List.replicate k '0' ++ digits) 0 where
  text := by
    rw [positional, if_pos (by omega), front, neg_neg, Int.toNat_natCast]
    rfl
  first := rfl
  some_whole := List.cons_ne_nil _ _
  each := List.forall_mem_append.mpr ⟨isDigit_of_mem_zeros, leading.each⟩
  some_fraction := by
    obtain ⟨d, ds, rfl, -⟩ := leading.front
    simp
  value := by
    rw [← List.append_assoc, ← List.replicate_one, List.replicate_append_replicate,
      digitsValue_zeros_append, pow_zero, mul_one]
  places := by
    rw [List.length_append, List.length_replicate, front]
    push_cast
    omega

/-- The point stands between the digits. -/
theorem Leading.pointed_between (leading : Leading digits) {k : ℕ} (between : k + 1 < digits.length)
    (place : point = (k + 1 : ℕ)) :
    Pointed digits point (digits.take (k + 1)) (digits.drop (k + 1)) 0 where
  text := by
    have part : ¬ (digits.drop (k + 1)).isEmpty = true := by
      rw [List.isEmpty_iff, List.drop_eq_nil_iff]
      omega
    have fill : k + 1 - digits.length = 0 := by omega
    rw [positional, if_neg (by omega), place, Int.toNat_natCast]
    dsimp only
    rw [if_neg part, fill, List.replicate_zero, List.append_nil]
  first := by
    obtain ⟨d, ds, rfl, other⟩ := leading.front
    exact wholePart_digits ⟨d, ds.take k, List.take_succ_cons, other⟩
      (fun c mem => leading.each c (List.mem_of_mem_take mem)) rfl
  some_whole := by
    obtain ⟨d, ds, rfl, -⟩ := leading.front
    simp
  each c mem := leading.each c (List.mem_of_mem_drop mem)
  some_fraction := by
    rw [Ne, List.drop_eq_nil_iff]
    omega
  value := by rw [List.take_append_drop, pow_zero, mul_one]
  places := by
    rw [List.length_drop]
    omega

/-- The point stands behind the digits, and a zero behind it. -/
theorem Leading.pointed_behind (leading : Leading digits) {k : ℕ}
    (behind : point = (digits.length + k : ℕ)) :
    Pointed digits point (digits ++ List.replicate k '0') ['0'] (k + 1) where
  text := by
    have positive : ¬ point ≤ 0 := by
      obtain ⟨d, ds, rfl, -⟩ := leading.front
      rw [behind, List.length_cons]
      push_cast
      omega
    rw [positional, if_neg positive, behind, Int.toNat_natCast]
    dsimp only
    rw [List.take_of_length_le (Nat.le_add_right _ _),
      List.drop_of_length_le (Nat.le_add_right _ _), Nat.add_sub_cancel_left]
    rfl
  first := by
    obtain ⟨d, ds, front, other⟩ := leading.front
    exact wholePart_digits ⟨d, ds ++ List.replicate k '0', by rw [front, List.cons_append], other⟩
      (List.forall_mem_append.mpr ⟨leading.each, isDigit_of_mem_zeros⟩) rfl
  some_whole := by
    obtain ⟨d, ds, rfl, -⟩ := leading.front
    simp
  each := isDigit_of_mem_zeros (k := 1)
  some_fraction := List.cons_ne_nil _ _
  value := by
    rw [List.append_assoc, ← List.replicate_succ', digitsValue_append, digitsValue_zeros,
      List.length_replicate, add_zero]
  places := by
    rw [behind, List.length_singleton]
    push_cast
    omega

/-- Digits can be pointed anywhere, with zeros where they do not reach. -/
theorem Leading.exists_pointed (leading : Leading digits) (point : ℤ) :
    ∃ whole fraction count, Pointed digits point whole fraction count := by
  rcases le_or_gt point 0 with front | behind
  · obtain ⟨k, same⟩ := Int.eq_ofNat_of_zero_le (by omega : 0 ≤ -point)
    exact ⟨_, _, _, leading.pointed_front (k := k) (by omega)⟩
  · by_cases between : point < digits.length
    · obtain ⟨k, same⟩ := Int.eq_ofNat_of_zero_le (by omega : 0 ≤ point - 1)
      exact ⟨_, _, _, leading.pointed_between (k := k) (by omega) (by omega)⟩
    · obtain ⟨k, same⟩ := Int.eq_ofNat_of_zero_le (by omega : 0 ≤ point - digits.length)
      exact ⟨_, _, _, leading.pointed_behind (k := k) (by omega)⟩

/-- Digits with a point among them are read as the number that they were written for. -/
theorem Leading.readNumber_positional (leading : Leading digits)
    (sign : numberSign start = (negative, positional digits point)) :
    readNumber start = .ok (.real (Binary64.ofDecimal negative (digitsValue digits)
      (point - digits.length)), []) := by
  obtain ⟨whole, fraction, count, pointed⟩ := leading.exists_pointed point
  have rest : fractionPart ('.' :: (fraction ++ [])) = (fraction, []) :=
    fractionPart_digits pointed.each pointed.some_fraction (by rintro _ _ ⟨⟩)
  have second : fractionPart ((whole ++ '.' :: fraction).drop whole.length) = (fraction, []) := by
    rw [List.drop_left, ← rest, List.append_nil]
  rw [pointed.text] at sign
  rw [readNumber_real sign pointed.first pointed.some_whole second rfl (.inl pointed.some_fraction),
    pointed.value, ← Binary64.ofDecimal_mul_ten_pow negative (digitsValue digits) count,
    pointed.places, Option.getD_none, zero_sub]

/-! ## Digits with an exponent -/

/-- The first digit stands before the point. -/
theorem withExponent_cons (d : Char) (ds : List Char) (exponent : ℤ) :
    withExponent (d :: ds) exponent =
      d :: ((if ds.isEmpty then [] else '.' :: ds) ++ 'e' :: exponentText exponent) := by
  cases ds <;> rfl

/-- So are digits with an exponent behind. -/
theorem Leading.readNumber_withExponent (leading : Leading digits)
    (sign : numberSign start = (negative, withExponent digits exponent)) :
    readNumber start = .ok (.real (Binary64.ofDecimal negative (digitsValue digits)
      (exponent + 1 - digits.length)), []) := by
  obtain ⟨d, ds, rfl, other⟩ := leading.front
  have third := exponentPart_exponentText exponent
  have digit : ∀ c ∈ [d], isDigit c = true :=
    List.forall_mem_singleton.mpr (leading.each d List.mem_cons_self)
  have places : exponent + 1 - (d :: ds).length = exponent - ds.length := by
    rw [List.length_cons]
    push_cast
    omega
  rw [withExponent_cons] at sign
  rw [places]
  cases ds with
  | nil =>
    have first : wholePart ([d] ++ 'e' :: exponentText exponent) = [d] :=
      wholePart_digits ⟨d, [], rfl, other⟩ digit rfl
    exact readNumber_real sign first (List.cons_ne_nil _ _) rfl third (.inr rfl)
  | cons c cs =>
    have first : wholePart ([d] ++ '.' :: (c :: cs ++ 'e' :: exponentText exponent)) = [d] :=
      wholePart_digits ⟨d, [], rfl, other⟩ digit rfl
    have later : ∀ b ∈ c :: cs, isDigit b = true := fun b mem =>
      leading.each b (List.mem_cons_of_mem d mem)
    have second : fractionPart ('.' :: (c :: cs ++ 'e' :: exponentText exponent)) =
        (c :: cs, 'e' :: exponentText exponent) :=
      fractionPart_digits later (List.cons_ne_nil c cs) (by rintro _ _ ⟨⟩; rfl)
    exact readNumber_real sign first (List.cons_ne_nil _ _) second third (.inr rfl)

/-! ## Doubles -/

/-- Either way, the shortest digits are read as the number they stand for. -/
theorem readNumber_decimalText (nonzero : s.digits ≠ 0)
    (sign : numberSign start = (negative, decimalText s)) :
    readNumber start = .ok (.real (Binary64.ofDecimal negative s.digits s.power), []) := by
  obtain ⟨k, zeros, leading⟩ := exists_significantDigits_append nonzero
  have count : digitCount s.digits = (significantDigits s.digits).length + k := by
    rw [digitCount, ← zeros, List.length_append, List.length_replicate]
  have value : s.digits = digitsValue (significantDigits s.digits) * 10 ^ k := by
    have whole := digitsValue_toDigits s.digits
    rw [← zeros, digitsValue_append, digitsValue_zeros, List.length_replicate, add_zero] at whole
    exact whole.symm
  have same : Binary64.ofDecimal negative (digitsValue (significantDigits s.digits))
      (digitCount s.digits + s.power - (significantDigits s.digits).length) =
        Binary64.ofDecimal negative s.digits s.power := by
    have power : s.power = digitCount s.digits + s.power - (significantDigits s.digits).length -
        k := by
      rw [count]
      push_cast
      omega
    conv_rhs => rw [value, power, Binary64.ofDecimal_mul_ten_pow]
  rw [decimalText] at sign
  split at sign
  · rw [leading.readNumber_positional sign, same]
  · rw [leading.readNumber_withExponent sign, sub_add_cancel, same]

/-- A number starts with a digit, its sign apart. -/
theorem exists_decimalText_eq_cons (nonzero : s.digits ≠ 0) :
    ∃ c cs, decimalText s = c :: cs ∧ isDigit c = true := by
  obtain ⟨-, -, leading⟩ := exists_significantDigits_append nonzero
  obtain ⟨d, ds, front, -⟩ := leading.front
  have digit : isDigit d = true := leading.each d (front ▸ List.mem_cons_self)
  rw [decimalText]
  split
  · rw [positional]
    split
    · exact ⟨'0', _, rfl, rfl⟩
    · next behind =>
      obtain ⟨k, same⟩ := Nat.exists_eq_add_one_of_ne_zero
        (by omega : (digitCount s.digits + s.power : ℤ).toNat ≠ 0)
      rw [same, front]
      exact ⟨d, _, rfl, digit⟩
  · rw [front, withExponent_cons]
    exact ⟨d, _, rfl, digit⟩

/-- What begins with a digit, or a digit behind a minus sign, is read as a number. -/
theorem readScalar_of_isDigit (digit : isDigit c = true) (cs : List Char) :
    readScalar (c :: cs) = readNumber (c :: cs) ∧
      readScalar ('-' :: c :: cs) = readNumber ('-' :: c :: cs) := by
  obtain ⟨noWord, noWord'⟩ := readWord?_of_isDigit digit cs
  rw [readScalar, readScalar, noWord, noWord']
  exact ⟨rfl, rfl⟩

/-- So the number is read, and taken for no word. -/
theorem readScalar_decimalText (nonzero : s.digits ≠ 0) (negative : Bool) :
    readScalar ((if negative then ['-'] else []) ++ decimalText s) =
      .ok (.real (Binary64.ofDecimal negative s.digits s.power), []) := by
  obtain ⟨c, cs, front, digit⟩ := exists_decimalText_eq_cons nonzero
  cases negative with
  | true =>
    have sign : numberSign ('-' :: decimalText s) = (true, decimalText s) := rfl
    rw [if_pos rfl, List.singleton_append, ← readNumber_decimalText nonzero sign, front]
    exact (readScalar_of_isDigit digit cs).2
  | false =>
    have unsigned : c ≠ '-' := by
      rintro rfl
      cases digit
    have sign : numberSign (decimalText s) = (false, decimalText s) := by
      rw [front, numberSign_cons unsigned]
    rw [if_neg Bool.false_ne_true, List.nil_append, ← readNumber_decimalText nonzero sign, front]
    exact (readScalar_of_isDigit digit cs).1

/-- A finite number is written with its shortest digits. -/
theorem writtenReal_finite (negative : Bool) (nonzero : m ≠ 0) (e : ℤ) :
    writtenReal (.finite negative m e) =
      (if negative then ['-'] else []) ++ decimalText (shortest m e) := by
  change (Binary64.finite negative m e).text.toList = _
  rw [Binary64.text, if_neg nonzero, String.toList_append, String.toList_ofList]
  cases negative <;> rfl

/-- **A double is read back from its text.** -/
theorem readScalar_writtenReal (canonical : x.Canonical) :
    readScalar (writtenReal x) = .ok (.real x, []) := by
  cases x with
  | nan => rfl
  | infinity negative => cases negative <;> rfl
  | finite negative m e =>
    have normal : Binary64.Normal m e := canonical
    by_cases zero : m = 0
    · subst zero
      obtain rfl : e = Binary64.leastExponent := normal.wide.resolve_left (by decide)
      cases negative <;> rfl
    · obtain ⟨nonzero, reads⟩ := Binary64.reads_shortest normal zero
      rw [writtenReal_finite negative zero, readScalar_decimalText nonzero,
        Binary64.ofDecimal_eq_withSign, reads, Binary64.withSign]

end Workbench.Json
