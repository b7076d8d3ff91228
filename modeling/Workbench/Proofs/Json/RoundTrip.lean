import Workbench.Proofs.Json.Doubles
import Workbench.Proofs.Json.Nesting
import Workbench.Proofs.Entries

/-!
# Reading what was written

A value is read back from its text, if its integers are not too long, its doubles have their form,
its objects have distinct names (`read_spaced`, `readStrict?_compact`) and it is not nested deeper
than can be read; a deeper one is refused (`Regular.readChars_write_of_not_admits`). The reader is
followed along the text: `readString` reads back what `writtenChar` writes for each character,
`readScalar` reads back numbers and words, and a value, the items of an array and the fields of an
object are read back in front of any text that begins with a character that ends a value. The fuel
of the reader bounds its calls; as every value has at least one character and every further item one
delimiter, twice the length of the text is always enough.
-/

namespace Workbench.Json

open Decimal (Binary64)

/-- A value without numbers, in which no object has two fields of one name. -/
inductive Plain : Json → Prop
  | null : Plain .null
  | bool (b : Bool) : Plain (.bool b)
  | str (s : String) : Plain (.str s)
  | arr (items : List Json) (each : ∀ item ∈ items, Plain item) : Plain (.arr items)
  | obj (fields : List (String × Json)) (distinct : (Entries.keys fields).Nodup)
      (each : ∀ field ∈ fields, Plain field.2) : Plain (.obj fields)

/-- A value in which no integer is too long, every double has its form and no object has two fields
of one name. -/
inductive Regular : Json → Prop
  | null : Regular .null
  | bool (b : Bool) : Regular (.bool b)
  | int (n : ℤ) (short : (Nat.toDigits 10 n.natAbs).length ≤ maxDigits) : Regular (.int n)
  | real (x : Binary64) (canonical : x.Canonical) : Regular (.real x)
  | str (s : String) : Regular (.str s)
  | arr (items : List Json) (each : ∀ item ∈ items, Regular item) : Regular (.arr items)
  | obj (fields : List (String × Json)) (distinct : (Entries.keys fields).Nodup)
      (each : ∀ field ∈ fields, Regular field.2) : Regular (.obj fields)

/-- A layout in which nothing but white space follows a comma or colon. -/
structure Layout.Legible (layout : Layout) : Prop where
  comma : ∃ space, layout.comma = ',' :: space ∧ space.all isSpace = true
  colon : ∃ space, layout.colon = ':' :: space ∧ space.all isSpace = true

variable {strict asciiOnly : Bool} {mode : Mode} {layout : Layout} {x : Binary64} {j : Json}
variable {cs text tail space opening acc : List Char} {c : Char} {n fuel : Nat}

theorem Layout.Legible.compact : Layout.compact.Legible :=
  ⟨⟨[], rfl, rfl⟩, ⟨[], rfl, rfl⟩⟩

theorem Layout.Legible.spaced : Layout.spaced.Legible :=
  ⟨⟨[' '], rfl, rfl⟩, ⟨[' '], rfl, rfl⟩⟩

/-- What has no doubles in it is regular if its integers are short enough. -/
theorem Plain.regular (h : Plain j) : Regular j := by
  induction h with
  | null => exact .null
  | bool b => exact .bool b
  | str s => exact .str s
  | arr items _ ih => exact .arr items ih
  | obj fields distinct _ ih => exact .obj fields distinct ih

/-! ## Hexadecimal digits -/

theorem hexValue?_digitChar : ∀ d < 16, hexValue? (Nat.digitChar d) = some d := by
  decide +kernel

/-- The four digits of a unit. -/
theorem hexDigits_four (n : Nat) :
    Text.hexDigits 4 n = [Nat.digitChar (n / 4096 % 16), Nat.digitChar (n / 256 % 16),
      Nat.digitChar (n / 16 % 16), Nat.digitChar (n % 16)] := by
  simp [Text.hexDigits, Nat.div_div_eq_div_mul]

/-- Four digits are read back, if they are not the end of the text. -/
theorem hexQuad?_hexDigits (small : n < 65536) (rest : List Char) :
    hexQuad? (Text.hexDigits 4 n ++ c :: rest) = some (n, c :: rest) := by
  have digit (m : Nat) : hexValue? (Nat.digitChar (m % 16)) = some (m % 16) :=
    hexValue?_digitChar (m % 16) (Nat.mod_lt m (by omega))
  have value : ((n / 4096 % 16 * 16 + n / 256 % 16) * 16 + n / 16 % 16) * 16 + n % 16 = n := by
    omega
  rw [hexDigits_four]
  simp only [List.cons_append, List.nil_append, hexQuad?, digit, Option.bind_eq_bind,
    Option.bind_some, value]
  rfl

/-! ## Strings -/

/-- The characters that an escape has used up are passed over. -/
theorem readString_skip (pre : List Char) :
    readString strict opening acc pre.length (pre ++ cs) = readString strict opening acc 0 cs := by
  induction pre with
  | nil => rfl
  | cons c pre ih => rw [List.length_cons, List.cons_append, readString, ih]

/-- A quote ends a text. -/
theorem readString_quote :
    readString strict opening acc 0 ('"' :: cs) = .ok (String.ofList acc.reverse, cs) := by
  rw [readString.eq_def]
  rfl

/-- A plain character stands for itself. -/
theorem readString_plain (quote : c ≠ '"') (backslash : c ≠ '\\') (control : ¬ c.toNat < 0x20) :
    readString strict opening acc 0 (c :: cs) = readString strict opening (c :: acc) 0 cs := by
  rw [readString.eq_def]
  simp only [beq_iff_eq, if_neg quote, if_neg backslash, if_neg control]

/-- A character that is written with a letter of its own is read back. -/
theorem readString_letter {e : Char} (plain : e ≠ 'u') (h : escaped? e = some c) :
    readString strict opening acc 0 ('\\' :: e :: cs) =
      readString strict opening (c :: acc) 0 cs := by
  have skipped : readString strict opening (c :: acc) 1 (e :: cs) =
      readString strict opening (c :: acc) 0 cs := readString_skip [e]
  rw [readString, if_neg (by decide), if_pos (by decide), h]
  · exact skipped
  · exact plain

/-- A character that is written by its code point is read back. -/
theorem readString_unit (small : c.toNat < 0x10000) {d : Char} :
    readString strict opening acc 0 (unitEscape c.toNat ++ d :: cs) =
      readString strict opening (c :: acc) 0 (d :: cs) := by
  have unit : unitChar strict c.toNat (d :: cs) = .ok (c, 0) := by
    have valid : c.toNat < 0xD800 ∨ 0xDFFF < c.toNat ∧ c.toNat < 0x110000 := c.valid
    have low : ¬ (0xD800 ≤ c.toNat ∧ c.toNat < 0xDC00) := by omega
    have low' : ¬ (0xDC00 ≤ c.toNat ∧ c.toNat < 0xE000) := by omega
    simp [unitChar, low, low']
  have skipped : readString strict opening (c :: acc) 5
      ('u' :: (Text.hexDigits 4 c.toNat ++ d :: cs)) =
        readString strict opening (c :: acc) 0 (d :: cs) := by
    rw [hexDigits_four]
    exact readString_skip ['u', _, _, _, _]
  rw [unitEscape, List.cons_append, List.cons_append, readString, if_neg (by decide),
    if_pos (by decide)]
  rw [hexQuad?_hexDigits small]
  dsimp only
  rw [unit]
  exact skipped

/-- Two halves of a surrogate pair are read as one character. -/
theorem unitChar_pair {high low : Nat} (isHigh : 0xD800 ≤ high ∧ high < 0xDC00)
    (isLow : 0xDC00 ≤ low ∧ low < 0xE000) {d : Char} :
    unitChar strict high (unitEscape low ++ d :: cs) =
      .ok (Char.ofNat (0x10000 + (high - 0xD800) * 0x400 + (low - 0xDC00)), 6) := by
  have quad := hexQuad?_hexDigits (c := d) (n := low) (by omega) []
  rw [hexDigits_four] at quad
  rw [unitEscape, hexDigits_four]
  simp only [List.cons_append, List.nil_append] at quad ⊢
  simp only [unitChar, isHigh, isLow, quad, decide_true, Bool.and_self, if_true]

/-- A character beyond the units is read back from the two halves of its pair. -/
theorem readString_pair {high low : Nat} (isHigh : 0xD800 ≤ high ∧ high < 0xDC00)
    (isLow : 0xDC00 ≤ low ∧ low < 0xE000)
    (value : 0x10000 + (high - 0xD800) * 0x400 + (low - 0xDC00) = c.toNat) {d : Char} :
    readString strict opening acc 0 (unitEscape high ++ (unitEscape low ++ d :: cs)) =
      readString strict opening (c :: acc) 0 (d :: cs) := by
  have unit : unitChar strict high (unitEscape low ++ d :: cs) = .ok (c, 6) := by
    rw [unitChar_pair isHigh isLow, value, Char.ofNat_toNat]
  have skipped : readString strict opening (c :: acc) (5 + 6)
      ('u' :: (Text.hexDigits 4 high ++ (unitEscape low ++ d :: cs))) =
        readString strict opening (c :: acc) 0 (d :: cs) := by
    rw [unitEscape, hexDigits_four, hexDigits_four]
    exact readString_skip ['u', _, _, _, _, '\\', 'u', _, _, _, _]
  have quad : hexQuad? (Text.hexDigits 4 high ++ (unitEscape low ++ d :: cs)) =
      some (high, unitEscape low ++ d :: cs) :=
    hexQuad?_hexDigits (by omega) _
  rw [unitEscape, List.cons_append, List.cons_append, readString, if_neg (by decide),
    if_pos (by decide), quad]
  dsimp only
  rw [unit]
  exact skipped

/-- What stands for a character is read back, if it is not the end of the text. -/
theorem readString_writtenChar (c d : Char) :
    readString strict opening acc 0 (writtenChar asciiOnly c ++ d :: cs) =
      readString strict opening (c :: acc) 0 (d :: cs) := by
  rw [writtenChar]
  by_cases named : c ∈ ['"', '\\', '\n', '\r', '\t', '\x08', '\x0c']
  · simp only [List.mem_cons, List.not_mem_nil, or_false] at named
    rcases named with rfl | rfl | rfl | rfl | rfl | rfl | rfl <;>
      exact readString_letter (by decide) (by decide)
  · simp only [List.mem_cons, List.not_mem_nil, or_false, not_or] at named
    obtain ⟨quote, backslash, lf, cr, tab, bs, ff⟩ := named
    simp only [beq_iff_eq, quote, backslash, lf, cr, tab, bs, ff, if_false]
    by_cases control : c.toNat < 0x20
    · rw [if_pos control]
      exact readString_unit (by omega)
    · rw [if_neg control]
      split
      · split
        · next small => exact readString_unit small
        · next large =>
          have valid : c.toNat < 0xD800 ∨ 0xDFFF < c.toNat ∧ c.toNat < 0x110000 := c.valid
          rw [List.append_assoc]
          exact readString_pair (by omega) (by omega) (by omega)
      · exact readString_plain quote backslash control

/-- The characters of a string are read back up to its closing quote. -/
theorem readString_flatMap (s acc : List Char) :
    readString strict opening acc 0 (s.flatMap (writtenChar asciiOnly) ++ '"' :: tail) =
      .ok (String.ofList (acc.reverse ++ s), tail) := by
  induction s generalizing acc with
  | nil =>
    rw [List.flatMap_nil, List.nil_append, readString_quote, List.append_nil]
  | cons c s ih =>
    obtain ⟨d, ds, front⟩ :
        ∃ d ds, s.flatMap (writtenChar asciiOnly) ++ '"' :: tail = d :: ds :=
      List.exists_cons_of_ne_nil (by simp)
    rw [List.flatMap_cons, List.append_assoc, front, readString_writtenChar, ← front, ih,
      List.reverse_cons, List.append_assoc, List.singleton_append]

/-- A text is written between quotes, character by character. -/
theorem writtenString_append (s : String) (tail : List Char) :
    writtenString asciiOnly s ++ tail =
      '"' :: (s.toList.flatMap (writtenChar asciiOnly) ++ '"' :: tail) := by
  simp [writtenString]

/-- A string is read back. -/
theorem readString_written (s : String) :
    readString strict opening [] 0 (s.toList.flatMap (writtenChar asciiOnly) ++ '"' :: tail) =
      .ok (s, tail) := by
  rw [readString_flatMap, List.reverse_nil, List.nil_append, String.ofList_toList]

/-! ## White space -/

theorem skipSpace_cons (h : isSpace c = false) : skipSpace (c :: cs) = c :: cs := by
  rw [skipSpace, List.dropWhile_cons_of_neg (by simp [h])]

/-- White space in front is skipped. -/
theorem skipSpace_append (white : space.all isSpace = true) :
    skipSpace (space ++ cs) = skipSpace cs := by
  rw [List.all_eq_true] at white
  rw [skipSpace, List.dropWhile_append_of_pos white, skipSpace]

/-- A scalar starts with no other character. -/
theorem ne_of_isScalarChar (h : isScalarChar c = true) {d : Char} (other : isScalarChar d = false) :
    c ≠ d := by
  rintro rfl
  cases h.symm.trans other

/-- A scalar starts with no white space. -/
theorem isSpace_of_isScalarChar (h : isScalarChar c = true) : isSpace c = false := by
  have other {d : Char} (space : isScalarChar d = false) : c ≠ d := ne_of_isScalarChar h space
  have blank : c ≠ ' ' := other (by decide)
  have tab : c ≠ '\t' := other (by decide)
  have lf : c ≠ '\n' := other (by decide)
  have cr : c ≠ '\r' := other (by decide)
  simp [isSpace, blank, tab, lf, cr]

/-- What begins like a number or a word is read as one. -/
theorem readValue_scalar (h : isScalarChar c = true) (cs : List Char) :
    readValue mode (fuel + 1) (c :: cs) = readScalar (c :: cs) := by
  have other {d : Char} (opens : isScalarChar d = false) : c ≠ d := ne_of_isScalarChar h opens
  have quote : c ≠ '"' := other (by decide)
  have bracket : c ≠ '[' := other (by decide)
  have brace : c ≠ '{' := other (by decide)
  rw [readValue.eq_def]
  dsimp only
  split
  · next same => exact absurd (List.cons.inj same).1 quote
  · next same => exact absurd (List.cons.inj same).1 bracket
  · next same => exact absurd (List.cons.inj same).1 brace
  · rfl

/-! ## Numbers and words -/

/-- A value that is written as a number or a word, with its text. -/
structure Scalar (j : Json) (text : List Char) : Prop where
  written : ∀ layout tail, write layout tail j = text ++ tail
  reads : readScalar text = .ok (j, [])

/-- `null` is read as it is written. -/
theorem Scalar.null : Scalar .null "null".toList :=
  ⟨fun _ _ => rfl, rfl⟩

/-- So are truth values. -/
theorem Scalar.bool (b : Bool) : Scalar (.bool b) (if b then "true" else "false").toList := by
  cases b with
  | true => exact ⟨fun _ _ => rfl, rfl⟩
  | false => exact ⟨fun _ _ => rfl, rfl⟩

/-- So are integers that are not too long. -/
theorem Scalar.int {n : ℤ} (short : (Nat.toDigits 10 n.natAbs).length ≤ maxDigits) :
    Scalar (.int n) (toString n).toList :=
  ⟨fun _ _ => by rw [write], readScalar_int short⟩

/-- So are doubles. -/
theorem Scalar.real (canonical : x.Canonical) : Scalar (.real x) (writtenReal x) :=
  ⟨fun _ _ => by rw [write], readScalar_writtenReal canonical⟩

/-- A scalar is written with one character at least. -/
theorem Scalar.exists_eq_cons (h : Scalar j text) :
    ∃ c cs, text = c :: cs ∧ isScalarChar c = true := by
  cases text with
  | nil => cases h.reads
  | cons c cs => exact ⟨c, cs, rfl, isScalarChar_of_readScalar h.reads⟩

/-! ## How texts begin -/

/-- Whether a value can begin with the character. -/
def isOpening (c : Char) : Bool :=
  isScalarChar c || c == '"' || c == '[' || c == '{'

/-- A value starts with no other character. -/
theorem ne_of_isOpening (h : isOpening c = true) {d : Char} (other : isOpening d = false) :
    c ≠ d := by
  rintro rfl
  cases h.symm.trans other

/-- A value starts with no white space. -/
theorem isSpace_of_isOpening (h : isOpening c = true) : isSpace c = false := by
  simp only [isOpening, Bool.or_eq_true, beq_iff_eq] at h
  rcases h with ((scalar | rfl) | rfl) | rfl
  · exact isSpace_of_isScalarChar scalar
  · rfl
  · rfl
  · rfl

/-- A scalar starts as a value does. -/
theorem Scalar.exists_write_eq_cons (h : Scalar j text) (layout : Layout) (tail : List Char) :
    ∃ c cs, write layout tail j = c :: cs ∧ isOpening c = true := by
  obtain ⟨c, cs, rfl, scalar⟩ := h.exists_eq_cons
  exact ⟨c, cs ++ tail, h.written layout tail, by simp [isOpening, scalar]⟩

/-- Every value that is written starts so. -/
theorem Regular.exists_write_eq_cons (h : Regular j) (layout : Layout)
    (tail : List Char) :
    ∃ c cs, write layout tail j = c :: cs ∧ isOpening c = true := by
  cases h with
  | null => exact Scalar.null.exists_write_eq_cons layout tail
  | bool b => exact (Scalar.bool b).exists_write_eq_cons layout tail
  | int n short => exact (Scalar.int short).exists_write_eq_cons layout tail
  | real x canonical => exact (Scalar.real canonical).exists_write_eq_cons layout tail
  | str s => exact ⟨'"', _, rfl, by decide⟩
  | arr items => exact ⟨'[', _, by rw [write], by decide⟩
  | obj fields => exact ⟨'{', _, by rw [write], by decide⟩

/-- Nothing is skipped in front of a value. -/
theorem Regular.skipSpace_write (h : Regular j) (tail : List Char) :
    skipSpace (write layout tail j) = write layout tail j := by
  obtain ⟨c, cs, front, opens⟩ := h.exists_write_eq_cons layout tail
  rw [front, skipSpace_cons (isSpace_of_isOpening opens)]

/-- The items of an array start as a value does. -/
theorem exists_writeItems_eq_cons {items : List Json}
    (regular : ∀ item ∈ items, Regular item) (nonempty : items ≠ [])
    (layout : Layout) (tail : List Char) :
    ∃ c cs, writeItems layout tail items = c :: cs ∧ isOpening c = true := by
  cases items with
  | nil => exact absurd rfl nonempty
  | cons item rest =>
    have first := (regular item List.mem_cons_self).exists_write_eq_cons layout
    cases rest with
    | nil => exact first tail
    | cons next rest => exact first _

/-- The fields of an object start with a quote. -/
theorem exists_writeFields_eq_cons {fields : List (String × Json)} (nonempty : fields ≠ [])
    (layout : Layout) (tail : List Char) : ∃ cs, writeFields layout tail fields = '"' :: cs := by
  cases fields with
  | nil => exact absurd rfl nonempty
  | cons field rest =>
    obtain ⟨key, value⟩ := field
    cases rest with
    | nil => exact ⟨_, writtenString_append key _⟩
    | cons next rest => exact ⟨_, writtenString_append key _⟩

/-! ## How long texts are -/

/-- Items are written behind what follows them. -/
theorem length_le_writeItems {items : List Json}
    (each : ∀ item ∈ items, ∀ tail, tail.length < (write layout tail item).length)
    (tail : List Char) : tail.length ≤ (writeItems layout tail items).length := by
  induction items with
  | nil => exact Nat.le_refl _
  | cons item rest ih =>
    have first := each item List.mem_cons_self
    cases rest with
    | nil => exact Nat.le_of_lt (first tail)
    | cons next rest =>
      have later := ih fun i hi => each i (List.mem_cons_of_mem _ hi)
      have whole := first (layout.comma ++ writeItems layout tail (next :: rest))
      rw [List.length_append] at whole
      rw [writeItems]
      omega

/-- So are fields. -/
theorem length_le_writeFields {fields : List (String × Json)}
    (each : ∀ field ∈ fields, ∀ tail, tail.length < (write layout tail field.2).length)
    (tail : List Char) : tail.length ≤ (writeFields layout tail fields).length := by
  induction fields with
  | nil => exact Nat.le_refl _
  | cons field rest ih =>
    obtain ⟨key, value⟩ := field
    have first (t : List Char) : t.length < (write layout t value).length :=
      each (key, value) List.mem_cons_self t
    cases rest with
    | nil =>
      have whole := first tail
      rw [writeFields, List.length_append, List.length_append]
      omega
    | cons next rest =>
      have later := ih fun f hf => each f (List.mem_cons_of_mem _ hf)
      have whole := first (layout.comma ++ writeFields layout tail (next :: rest))
      rw [List.length_append] at whole
      rw [writeFields, List.length_append, List.length_append]
      omega

/-- A scalar takes one character at least. -/
theorem Scalar.length_lt_write (h : Scalar j text) (layout : Layout) (tail : List Char) :
    tail.length < (write layout tail j).length := by
  obtain ⟨c, cs, rfl, -⟩ := h.exists_eq_cons
  rw [h.written layout tail, List.length_append, List.length_cons]
  omega

/-- A value has at least one character. -/
theorem Regular.length_lt_write (h : Regular j) (layout : Layout) (tail : List Char) :
    tail.length < (write layout tail j).length := by
  induction h generalizing tail with
  | null => exact Scalar.null.length_lt_write layout tail
  | bool b => exact (Scalar.bool b).length_lt_write layout tail
  | int n short => exact (Scalar.int short).length_lt_write layout tail
  | real x canonical => exact (Scalar.real canonical).length_lt_write layout tail
  | str s =>
    rw [write, writtenString, List.length_append, List.length_append, List.length_cons]
    omega
  | arr items _ ih =>
    have inner := length_le_writeItems ih (']' :: tail)
    rw [List.length_cons] at inner
    rw [write, List.length_cons]
    omega
  | obj fields _ _ ih =>
    have inner := length_le_writeFields ih ('}' :: tail)
    rw [List.length_cons] at inner
    rw [write, List.length_cons]
    omega

/-! ## Steps of the reader -/

section Steps

variable {rest after : List Char} {key : String} {item value : Json} {done : List Json}
variable {fields : List (String × Json)}

/-- The last item is read, and the array with it. -/
theorem readItems_last (h : readValue mode fuel text = .ok (item, ']' :: rest)) :
    readItems mode (fuel + 1) done text = .ok (.arr (done.reverse ++ [item]), rest) := by
  have close : skipSpace (']' :: rest) = ']' :: rest := skipSpace_cons rfl
  rw [readItems, h]
  simp [bind, Except.bind, pure, Except.pure, close]

/-- After an item the next one is read. -/
theorem readItems_next (h : readValue mode fuel text = .ok (item, ',' :: rest)) :
    readItems mode (fuel + 1) done text =
      readItems mode fuel (item :: done) (skipSpace rest) := by
  have comma : skipSpace (',' :: rest) = ',' :: rest := skipSpace_cons rfl
  rw [readItems, h]
  simp [bind, Except.bind, comma]

/-- The last field is read, and the object with it. -/
theorem readFields_last (front : skipSpace after = text)
    (h : readValue mode fuel text = .ok (value, '}' :: rest)) :
    readFields mode (fuel + 1) fields (writtenString asciiOnly key ++ ':' :: after) =
      .ok (object (fields.reverse ++ [(key, value)]), rest) := by
  have colon : skipSpace (':' :: after) = ':' :: after := skipSpace_cons rfl
  have close : skipSpace ('}' :: rest) = '}' :: rest := skipSpace_cons rfl
  rw [writtenString_append, readFields, readString_written]
  simp [bind, Except.bind, pure, Except.pure, colon, front, h, close]

/-- After a field the next one is read. -/
theorem readFields_next (front : skipSpace after = text)
    (h : readValue mode fuel text = .ok (value, ',' :: rest)) :
    readFields mode (fuel + 1) fields (writtenString asciiOnly key ++ ':' :: after) =
      readFields mode fuel ((key, value) :: fields) (skipSpace rest) := by
  have colon : skipSpace (':' :: after) = ':' :: after := skipSpace_cons rfl
  have comma : skipSpace (',' :: rest) = ',' :: rest := skipSpace_cons rfl
  rw [writtenString_append, readFields, readString_written]
  simp [bind, Except.bind, colon, front, h, comma]

/-- A value that cannot be read ends the object that it is in. -/
theorem readFields_error {failure : Failure} (front : skipSpace after = text)
    (h : readValue mode fuel text = .error failure) :
    readFields mode (fuel + 1) fields (writtenString asciiOnly key ++ ':' :: after) =
      .error failure := by
  have colon : skipSpace (':' :: after) = ':' :: after := skipSpace_cons rfl
  rw [writtenString_append, readFields, readString_written]
  simp [bind, Except.bind, colon, front, h]

/-- An empty array is read unless it is too deep. -/
theorem readValue_arr_nil (tail : List Char) : readValue mode (fuel + 1) ('[' :: ']' :: tail) =
    if mode.refuses true then .error ⟨.tooDeep .array, '[' :: ']' :: tail⟩
    else .ok (.arr [], tail) := by
  have close : skipSpace (']' :: tail) = ']' :: tail := skipSpace_cons rfl
  rw [readValue, close]
  rfl

/-- So is an empty object. -/
theorem readValue_obj_nil (tail : List Char) : readValue mode (fuel + 1) ('{' :: '}' :: tail) =
    if mode.refuses true then .error ⟨.tooDeep .object, '{' :: '}' :: tail⟩
    else .ok (.obj [], tail) := by
  have close : skipSpace ('}' :: tail) = '}' :: tail := skipSpace_cons rfl
  rw [readValue, close]
  rfl

/-- The items of an array are read one level below it. -/
theorem readValue_arr (front : skipSpace cs = c :: text) (h : c ≠ ']') :
    readValue mode (fuel + 1) ('[' :: cs) =
      if mode.refuses false then .error ⟨.tooDeep .array, '[' :: cs⟩
      else readItems mode.inside fuel [] (c :: text) := by
  rw [readValue, front]
  split
  · next same => exact absurd (List.cons.inj same).1 h
  · rfl

/-- So are the fields of an object. -/
theorem readValue_obj (front : skipSpace cs = c :: text) (h : c ≠ '}') :
    readValue mode (fuel + 1) ('{' :: cs) =
      if mode.refuses false then .error ⟨.tooDeep .object, '{' :: cs⟩
      else readFields mode.inside fuel [] (c :: text) := by
  rw [readValue, front]
  split
  · next same => exact absurd (List.cons.inj same).1 h
  · rfl

/-- The text of an array that has items is read as its items are. -/
theorem readValue_write_arr {items : List Json} (regular : ∀ item ∈ items, Regular item)
    (nonempty : items ≠ []) (layout : Layout) (tail : List Char) :
    readValue mode (fuel + 1) (write layout tail (.arr items)) =
      if mode.refuses false then .error ⟨.tooDeep .array, write layout tail (.arr items)⟩
      else readItems mode.inside fuel [] (writeItems layout (']' :: tail) items) := by
  obtain ⟨c, cs, front, opens⟩ := exists_writeItems_eq_cons regular nonempty layout (']' :: tail)
  have inside : skipSpace (writeItems layout (']' :: tail) items) = c :: cs := by
    rw [front, skipSpace_cons (isSpace_of_isOpening opens)]
  rw [write, readValue_arr inside (ne_of_isOpening opens (by decide)), front]

/-- The text of an object that has fields is read as its fields are. -/
theorem readValue_write_obj (nonempty : fields ≠ []) (layout : Layout) (tail : List Char) :
    readValue mode (fuel + 1) (write layout tail (.obj fields)) =
      if mode.refuses false then .error ⟨.tooDeep .object, write layout tail (.obj fields)⟩
      else readFields mode.inside fuel [] (writeFields layout ('}' :: tail) fields) := by
  obtain ⟨cs, front⟩ := exists_writeFields_eq_cons nonempty layout ('}' :: tail)
  have inside : skipSpace (writeFields layout ('}' :: tail) fields) = '"' :: cs := by
    rw [front, skipSpace_cons rfl]
  rw [write, readValue_obj inside (by decide), front]

end Steps

/-! ## Values -/

/-- With fuel for its text, a value is read back in front of any text that may follow it. -/
def ReadsBack (layout : Layout) (mode : Mode) (j : Json) : Prop :=
  ∀ tail fuel, Closes tail → 2 * (write layout tail j).length ≤ fuel →
    readValue mode fuel (write layout tail j) = .ok (j, tail)

/-- A value has a text, so there is fuel for the first call of the reader. -/
theorem ReadsBack.of_succ (longer : ∀ tail : List Char, tail.length < (write layout tail j).length)
    (step : ∀ tail fuel, Closes tail → 2 * (write layout tail j).length ≤ fuel + 1 →
      readValue mode (fuel + 1) (write layout tail j) = .ok (j, tail)) :
    ReadsBack layout mode j := by
  intro tail fuel closes enough
  have positive := longer tail
  obtain ⟨fuel, rfl⟩ := Nat.exists_eq_succ_of_ne_zero (by omega : fuel ≠ 0)
  exact step tail fuel closes enough

/-- What a scalar is written as is read as that scalar. -/
theorem Scalar.readsBack (h : Scalar j text) : ReadsBack layout mode j := by
  refine .of_succ (h.length_lt_write layout) fun tail fuel closes _ => ?_
  obtain ⟨c, cs, rfl, scalar⟩ := h.exists_eq_cons
  rw [h.written, List.cons_append, readValue_scalar scalar, ← List.cons_append,
    readScalar_append h.reads closes, List.nil_append]

section Lists

variable {items : List Json} {item next : Json} {rest done : List Json}
variable {fields more read : List (String × Json)} {field other : String × Json}

/-- The text of items begins with that of the first one, in front of what may follow it. -/
theorem exists_writeItems_eq_write (legible : layout.Legible) (tail : List Char) (item : Json)
    (rest : List Json) : ∃ after, Closes after ∧
      writeItems layout (']' :: tail) (item :: rest) = write layout after item := by
  cases rest with
  | nil => exact ⟨']' :: tail, .cons (by decide) tail, by rw [writeItems]⟩
  | cons next rest =>
    obtain ⟨space, comma, -⟩ := legible.comma
    refine ⟨',' :: (space ++ writeItems layout (']' :: tail) (next :: rest)),
      .cons (by decide) _, ?_⟩
    rw [writeItems, comma, List.cons_append]

/-- The text of fields begins with the first name and value, in front of what may follow it. -/
theorem exists_writeFields_eq_write (legible : layout.Legible) (tail : List Char)
    (field : String × Json) (rest : List (String × Json)) : ∃ gap after, Closes after ∧
      gap.all isSpace = true ∧
      writeFields layout ('}' :: tail) (field :: rest) =
        writtenString layout.asciiOnly field.1 ++ ':' :: (gap ++ write layout after field.2) := by
  obtain ⟨gap, colon, clear⟩ := legible.colon
  obtain ⟨key, value⟩ := field
  cases rest with
  | nil =>
    refine ⟨gap, '}' :: tail, .cons (by decide) tail, clear, ?_⟩
    rw [writeFields, colon, List.cons_append]
  | cons next rest =>
    obtain ⟨space, comma, -⟩ := legible.comma
    refine ⟨gap, ',' :: (space ++ writeFields layout ('}' :: tail) (next :: rest)),
      .cons (by decide) _, clear, ?_⟩
    rw [writeFields, colon, comma, List.cons_append, List.cons_append]

/-- An item that is read back leaves the items after it, and fuel for them. -/
theorem readItems_writeItems_next (done : List Json) (legible : layout.Legible)
    (first : Regular item) (regular : ∀ i ∈ next :: rest, Regular i) (here : ReadsBack layout mode item)
    (enough : 2 * (writeItems layout (']' :: tail) (item :: next :: rest)).length < fuel + 1) :
    2 * (writeItems layout (']' :: tail) (next :: rest)).length < fuel ∧
      readItems mode (fuel + 1) done (writeItems layout (']' :: tail) (item :: next :: rest)) =
        readItems mode fuel (item :: done) (writeItems layout (']' :: tail) (next :: rest)) := by
  obtain ⟨space, comma, white⟩ := legible.comma
  obtain ⟨c, cs, front, opens⟩ :=
    exists_writeItems_eq_cons regular (List.cons_ne_nil _ _) layout (']' :: tail)
  have whole : writeItems layout (']' :: tail) (item :: next :: rest) =
      write layout (',' :: (space ++ writeItems layout (']' :: tail) (next :: rest))) item := by
    rw [writeItems, comma, List.cons_append]
  have closes : Closes (',' :: (space ++ writeItems layout (']' :: tail) (next :: rest))) :=
    .cons (by decide) _
  have longer := first.length_lt_write layout
    (',' :: (space ++ writeItems layout (']' :: tail) (next :: rest)))
  rw [List.length_cons, List.length_append] at longer
  rw [whole] at enough ⊢
  refine ⟨by omega, ?_⟩
  rw [readItems_next (here _ fuel closes (by omega)), skipSpace_append white, front,
    skipSpace_cons (isSpace_of_isOpening opens)]

/-- A field that is read back leaves the fields after it, and fuel for them. -/
theorem readFields_writeFields_next (read : List (String × Json)) (legible : layout.Legible)
    (first : Regular field.2) (here : ReadsBack layout mode field.2)
    (enough : 2 * (writeFields layout ('}' :: tail) (field :: other :: more)).length < fuel + 1) :
    2 * (writeFields layout ('}' :: tail) (other :: more)).length < fuel ∧
      readFields mode (fuel + 1) read (writeFields layout ('}' :: tail) (field :: other :: more)) =
        readFields mode fuel (field :: read) (writeFields layout ('}' :: tail) (other :: more)) := by
  obtain ⟨gap, colon, clear⟩ := legible.colon
  obtain ⟨space, comma, white⟩ := legible.comma
  obtain ⟨cs, front⟩ :=
    exists_writeFields_eq_cons (List.cons_ne_nil other more) layout ('}' :: tail)
  obtain ⟨key, value⟩ := field
  dsimp only at first here
  have whole : writeFields layout ('}' :: tail) ((key, value) :: other :: more) =
      writtenString layout.asciiOnly key ++ ':' :: (gap ++
        write layout (',' :: (space ++ writeFields layout ('}' :: tail) (other :: more)))
          value) := by
    rw [writeFields, colon, comma, List.cons_append, List.cons_append]
  have behind : skipSpace (gap ++ write layout
      (',' :: (space ++ writeFields layout ('}' :: tail) (other :: more))) value) = _ :=
    (skipSpace_append clear).trans (first.skipSpace_write _)
  have closes : Closes (',' :: (space ++ writeFields layout ('}' :: tail) (other :: more))) :=
    .cons (by decide) _
  have longer := first.length_lt_write layout
    (',' :: (space ++ writeFields layout ('}' :: tail) (other :: more)))
  rw [List.length_cons, List.length_append] at longer
  rw [whole, List.length_append, List.length_cons, List.length_append] at enough
  refine ⟨by omega, ?_⟩
  rw [whole, readFields_next behind (here _ fuel closes (by omega)), skipSpace_append white, front,
    skipSpace_cons rfl]

/-- The items of an array that are left are read back up to its closing bracket. -/
theorem readItems_writeItems (legible : layout.Legible)
    (regular : ∀ item ∈ items, Regular item)
    (each : ∀ item ∈ items, ReadsBack layout mode item) (nonempty : items ≠ [])
    (done : List Json) (enough : 2 * (writeItems layout (']' :: tail) items).length < fuel) :
    readItems mode fuel done (writeItems layout (']' :: tail) items) =
      .ok (.arr (done.reverse ++ items), tail) := by
  induction items generalizing done fuel with
  | nil => exact absurd rfl nonempty
  | cons item rest ih =>
    obtain ⟨fuel, rfl⟩ := Nat.exists_eq_succ_of_ne_zero (by omega : fuel ≠ 0)
    obtain ⟨first, later⟩ := List.forall_mem_cons.mp regular
    obtain ⟨here, others⟩ := List.forall_mem_cons.mp each
    cases rest with
    | nil =>
      have closes : Closes (']' :: tail) := .cons (by decide) tail
      exact readItems_last (here _ _ closes (by rw [writeItems] at enough; omega))
    | cons next rest =>
      obtain ⟨enough', step⟩ := readItems_writeItems_next done legible first later here
        enough
      rw [step, ih later others (List.cons_ne_nil _ _) (item :: done) enough']
      simp

/-- The fields of an object that are left are read back up to its closing brace. -/
theorem readFields_writeFields (legible : layout.Legible)
    (regular : ∀ field ∈ fields, Regular field.2)
    (each : ∀ field ∈ fields, ReadsBack layout mode field.2)
    (nonempty : fields ≠ []) (done : List (String × Json))
    (enough : 2 * (writeFields layout ('}' :: tail) fields).length < fuel) :
    readFields mode fuel done (writeFields layout ('}' :: tail) fields) =
      .ok (object (done.reverse ++ fields), tail) := by
  induction fields generalizing done fuel with
  | nil => exact absurd rfl nonempty
  | cons field rest ih =>
    obtain ⟨fuel, rfl⟩ := Nat.exists_eq_succ_of_ne_zero (by omega : fuel ≠ 0)
    obtain ⟨first, later⟩ := List.forall_mem_cons.mp regular
    obtain ⟨here, others⟩ := List.forall_mem_cons.mp each
    cases rest with
    | nil =>
      obtain ⟨gap, colon, clear⟩ := legible.colon
      obtain ⟨key, value⟩ := field
      dsimp only at first here
      have whole : writeFields layout ('}' :: tail) [(key, value)] =
          writtenString layout.asciiOnly key ++
            ':' :: (gap ++ write layout ('}' :: tail) value) := by
        rw [writeFields, colon, List.cons_append]
      have closes : Closes ('}' :: tail) := .cons (by decide) tail
      have behind : skipSpace (gap ++ write layout ('}' :: tail) value) = _ :=
        (skipSpace_append clear).trans (first.skipSpace_write _)
      rw [whole, List.length_append, List.length_cons, List.length_append] at enough
      rw [whole]
      exact readFields_last behind (here _ fuel closes (by omega))
    | cons next rest =>
      obtain ⟨enough', step⟩ := readFields_writeFields_next done legible first here
        enough
      rw [step, ih later others (List.cons_ne_nil _ _) (field :: done) enough']
      simp

end Lists

/-- A value is read back from its text in every legible layout, if it is not nested too deep. -/
theorem Regular.readsBack (h : Regular j) (legible : layout.Legible) (admitted : mode.Admits j) :
    ReadsBack layout mode j := by
  induction h generalizing mode with
  | null => exact Scalar.null.readsBack
  | bool b => exact (Scalar.bool b).readsBack
  | int n short => exact (Scalar.int short).readsBack
  | real x canonical => exact (Scalar.real canonical).readsBack
  | str s =>
    refine .of_succ ((Regular.str s).length_lt_write layout) fun tail fuel _ _ => ?_
    have text : write layout tail (.str s) =
        '"' :: (s.toList.flatMap (writtenChar layout.asciiOnly) ++ '"' :: tail) :=
      writtenString_append s tail
    rw [text, readValue, readString_written]
    rfl
  | arr items regular ih =>
    refine .of_succ ((Regular.arr items regular).length_lt_write layout)
      fun tail fuel _ enough => ?_
    by_cases empty : items = []
    · subst empty
      exact (readValue_arr_nil tail).trans (if_neg (by simp [Mode.admits_arr_nil_iff.mp admitted]))
    · obtain ⟨room, inner⟩ := (Mode.admits_arr_iff empty).mp admitted
      rw [write, List.length_cons] at enough
      rw [readValue_write_arr regular empty, room, if_neg Bool.false_ne_true,
        readItems_writeItems legible regular (fun item mem => ih item mem (inner item mem))
          empty [] (by omega)]
      rfl
  | obj fields distinct regular ih =>
    refine .of_succ ((Regular.obj fields distinct regular).length_lt_write layout)
      fun tail fuel _ enough => ?_
    by_cases empty : fields = []
    · subst empty
      exact (readValue_obj_nil tail).trans (if_neg (by simp [Mode.admits_obj_nil_iff.mp admitted]))
    · obtain ⟨room, inner⟩ := (Mode.admits_obj_iff empty).mp admitted
      rw [write, List.length_cons] at enough
      rw [readValue_write_obj empty, room, if_neg Bool.false_ne_true,
        readFields_writeFields legible regular (fun field mem => ih field mem (inner field mem))
          empty [] (by omega),
        List.reverse_nil, List.nil_append, object, Entries.unique_of_nodup distinct]

/-! ## Values that are nested too deep -/

/-- An outcome of the reader is that the text is nested too deep. -/
def IsTooDeep {α : Type} (outcome : Except Failure α) : Prop :=
  ∃ collection rest, outcome = .error ⟨.tooDeep collection, rest⟩

/-- With fuel for its text, a value is refused for its nesting in front of any text that may follow
it. -/
def Sinks (layout : Layout) (mode : Mode) (j : Json) : Prop :=
  ∀ tail fuel, Closes tail → 2 * (write layout tail j).length ≤ fuel →
    IsTooDeep (readValue mode fuel (write layout tail j))

/-- It is enough to look at the first call of the reader. -/
theorem Sinks.of_succ (longer : ∀ tail : List Char, tail.length < (write layout tail j).length)
    (step : ∀ tail fuel, Closes tail → 2 * (write layout tail j).length ≤ fuel + 1 →
      IsTooDeep (readValue mode (fuel + 1) (write layout tail j))) : Sinks layout mode j := by
  intro tail fuel closes enough
  have positive := longer tail
  obtain ⟨fuel, rfl⟩ := Nat.exists_eq_succ_of_ne_zero (by omega : fuel ≠ 0)
  exact step tail fuel closes enough

/-- The first item that is nested too deep ends the reading of an array. -/
theorem isTooDeep_readItems (legible : layout.Legible) {items : List Json}
    (regular : ∀ item ∈ items, Regular item)
    (each : ∀ item ∈ items, ¬ mode.Admits item → Sinks layout mode item)
    (deep : ∃ item ∈ items, ¬ mode.Admits item) (done : List Json)
    (enough : 2 * (writeItems layout (']' :: tail) items).length < fuel) :
    IsTooDeep (readItems mode fuel done (writeItems layout (']' :: tail) items)) := by
  induction items generalizing done fuel with
  | nil => simp at deep
  | cons item rest ih =>
    obtain ⟨fuel, rfl⟩ := Nat.exists_eq_succ_of_ne_zero (by omega : fuel ≠ 0)
    obtain ⟨first, later⟩ := List.forall_mem_cons.mp regular
    obtain ⟨sinks, others⟩ := List.forall_mem_cons.mp each
    by_cases fits : mode.Admits item
    · have deeper : ∃ item ∈ rest, ¬ mode.Admits item := by
        obtain ⟨found, mem, sunk⟩ := deep
        exact ⟨found, (List.mem_cons.mp mem).resolve_left fun same => sunk (same ▸ fits), sunk⟩
      cases rest with
      | nil => simp at deeper
      | cons next rest =>
        obtain ⟨enough', step⟩ := readItems_writeItems_next done legible first later
          (first.readsBack legible fits) enough
        rw [step]
        exact ih later others deeper (item :: done) enough'
    · obtain ⟨after, closes, front⟩ := exists_writeItems_eq_write legible tail item rest
      rw [front] at enough ⊢
      obtain ⟨collection, left, sunk⟩ := sinks fits after fuel closes (by omega)
      exact ⟨collection, left, by rw [readItems, sunk]; rfl⟩

/-- The first field that is nested too deep ends the reading of an object. -/
theorem isTooDeep_readFields (legible : layout.Legible) {fields : List (String × Json)}
    (regular : ∀ field ∈ fields, Regular field.2)
    (each : ∀ field ∈ fields, ¬ mode.Admits field.2 → Sinks layout mode field.2)
    (deep : ∃ field ∈ fields, ¬ mode.Admits field.2) (done : List (String × Json))
    (enough : 2 * (writeFields layout ('}' :: tail) fields).length < fuel) :
    IsTooDeep (readFields mode fuel done (writeFields layout ('}' :: tail) fields)) := by
  induction fields generalizing done fuel with
  | nil => simp at deep
  | cons field rest ih =>
    obtain ⟨fuel, rfl⟩ := Nat.exists_eq_succ_of_ne_zero (by omega : fuel ≠ 0)
    obtain ⟨first, later⟩ := List.forall_mem_cons.mp regular
    obtain ⟨sinks, others⟩ := List.forall_mem_cons.mp each
    by_cases fits : mode.Admits field.2
    · have deeper : ∃ field ∈ rest, ¬ mode.Admits field.2 := by
        obtain ⟨found, mem, sunk⟩ := deep
        exact ⟨found, (List.mem_cons.mp mem).resolve_left fun same => sunk (same ▸ fits), sunk⟩
      cases rest with
      | nil => simp at deeper
      | cons next rest =>
        obtain ⟨enough', step⟩ := readFields_writeFields_next done legible first
          (first.readsBack legible fits) enough
        rw [step]
        exact ih later others deeper (field :: done) enough'
    · obtain ⟨gap, after, closes, clear, front⟩ :=
        exists_writeFields_eq_write legible tail field rest
      have behind : skipSpace (gap ++ write layout after field.2) = write layout after field.2 :=
        (skipSpace_append clear).trans (first.skipSpace_write after)
      rw [front, List.length_append, List.length_cons, List.length_append] at enough
      rw [front]
      obtain ⟨collection, left, sunk⟩ := sinks fits after fuel closes (by omega)
      exact ⟨collection, left, readFields_error behind sunk⟩

/-- A value that is nested too deep is refused, whatever the layout. -/
theorem Regular.sinks (h : Regular j) (legible : layout.Legible) (deep : ¬ mode.Admits j) :
    Sinks layout mode j := by
  induction h generalizing mode with
  | null | bool | int | real | str => exact absurd (Mode.admits_of_nesting_eq_zero rfl) deep
  | arr items regular ih =>
    refine .of_succ ((Regular.arr items regular).length_lt_write layout)
      fun tail fuel _ enough => ?_
    by_cases empty : items = []
    · subst empty
      rw [Mode.admits_arr_nil_iff, Bool.not_eq_false] at deep
      exact ⟨_, _, (readValue_arr_nil tail).trans (if_pos deep)⟩
    · rw [readValue_write_arr regular empty]
      split
      · exact ⟨_, _, rfl⟩
      · next room =>
        rw [Bool.not_eq_true] at room
        rw [Mode.admits_arr_iff empty, not_and] at deep
        have deeper := deep room
        push Not at deeper
        rw [write, List.length_cons] at enough
        exact isTooDeep_readItems legible regular (fun item mem => ih item mem) deeper [] (by omega)
  | obj fields distinct regular ih =>
    refine .of_succ ((Regular.obj fields distinct regular).length_lt_write layout)
      fun tail fuel _ enough => ?_
    by_cases empty : fields = []
    · subst empty
      rw [Mode.admits_obj_nil_iff, Bool.not_eq_false] at deep
      exact ⟨_, _, (readValue_obj_nil tail).trans (if_pos deep)⟩
    · rw [readValue_write_obj empty]
      split
      · exact ⟨_, _, rfl⟩
      · next room =>
        rw [Bool.not_eq_true] at room
        rw [Mode.admits_obj_iff empty, not_and] at deep
        have deeper := deep room
        push Not at deeper
        rw [write, List.length_cons] at enough
        exact isTooDeep_readFields legible regular (fun field mem => ih field mem) deeper []
          (by omega)

/-! ## Whole texts -/

/-- Reading undoes writing, in every legible layout, if the value is not nested too deep. -/
theorem Regular.readWhole_write (h : Regular j) (legible : layout.Legible)
    (admitted : mode.Admits j) : readWhole mode (write layout [] j) = .ok j := by
  have reads : ReadsBack layout mode j := h.readsBack legible admitted
  rw [readWhole, h.skipSpace_write, reads [] _ .nil (by omega)]
  rfl

/-- A value that is nested too deep is not read. -/
theorem Regular.readWhole_write_of_not_admits (h : Regular j) (legible : layout.Legible)
    (deep : ¬ mode.Admits j) : IsTooDeep (readWhole mode (write layout [] j)) := by
  obtain ⟨collection, rest, sunk⟩ := h.sinks legible deep [] _ .nil (Nat.le_add_right _ 2)
  exact ⟨collection, rest, by rw [readWhole, h.skipSpace_write, sunk]; rfl⟩

/-- A text that begins like a value has no byte-order mark. -/
theorem Regular.readChars_write (h : Regular j) :
    readChars mode (write layout [] j) = readWhole mode (write layout [] j) := by
  obtain ⟨c, cs, front, opens⟩ := h.exists_write_eq_cons layout []
  have unmarked : c ≠ '\uFEFF' := ne_of_isOpening opens (by decide)
  rw [readChars.eq_def]
  split
  · next same => exact absurd (List.cons.inj (front.symm.trans same)).1 unmarked
  · rfl

/-- The compact text of a value without numbers is read strictly as that value, if the value is not
nested too deep. -/
theorem readStrict?_compact (h : Plain j) (admitted : Mode.strictly.Admits j) :
    readStrict? j.compact = some j := by
  rw [readStrict?, compact, String.toList_ofList, h.regular.readChars_write,
    h.regular.readWhole_write .compact admitted]
  rfl

/-- The compact text of a value that is nested too deep is not read strictly. -/
theorem readStrict?_compact_of_not_admits (h : Plain j) (deep : ¬ Mode.strictly.Admits j) :
    readStrict? j.compact = none := by
  obtain ⟨collection, rest, sunk⟩ := h.regular.readWhole_write_of_not_admits .compact deep
  rw [readStrict?, compact, String.toList_ofList, h.regular.readChars_write, sunk]
  rfl

/-- The spaced text of a value is read as that value. -/
theorem Regular.read_spaced (h : Regular j) : read j.spaced = .ok j := by
  have admitted : (Mode.lenient none).Admits j := Mode.admits_of_unlimited rfl j
  rw [read, spaced, String.toList_ofList, h.readChars_write, h.readWhole_write .spaced admitted]
  rfl

end Workbench.Json
