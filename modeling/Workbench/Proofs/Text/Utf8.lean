import Workbench.Text.Utf8
import Mathlib.Data.List.TakeWhile

/-!
# Decoding what was encoded

The UTF-8 bytes of a text are decoded to its characters (`decode_toUTF8`): the bytes of a character
are one well-formed sequence in front of whatever follows (`first_encoded`), and the scan goes on
behind it.
-/

namespace Workbench.Text.Utf8

variable {b c : UInt8} {bytes tails rest : List UInt8} {size low high position : Nat}

/-- A well-formed sequence of two or more bytes is read in front of any others. -/
theorem first_of_shape (shape : shape? b.toNat = some (size, low, high)) (long : 2 ≤ size)
    (inside : low ≤ c.toNat ∧ c.toNat ≤ high)
    (each : ∀ t ∈ tails, 0x80 ≤ t.toNat ∧ t.toNat ≤ 0xBF) (count : tails.length = size - 2) :
    first b (c :: (tails ++ rest)) =
      .ok (Char.ofNat (tails.foldl (fun n t => n * 64 + t.toNat % 64)
        (b.toNat % Nat.pow 2 (7 - size) * 64 + c.toNat % 64)), size) := by
  have several : ¬ (size == 1) = true := by
    rw [beq_iff_eq]
    omega
  have within : ¬ (c.toNat < low || high < c.toNat) = true := by
    rw [Bool.or_eq_true, decide_eq_true_iff, decide_eq_true_iff]
    omega
  have all : tails.takeWhile (fun t => 0x80 ≤ t.toNat && t.toNat ≤ 0xBF) = tails := by
    refine List.takeWhile_eq_self_iff.mpr fun t mem => ?_
    rw [Bool.and_eq_true, decide_eq_true_iff, decide_eq_true_iff]
    exact each t mem
  rw [first, shape]
  dsimp only
  rw [if_neg several, if_neg within, List.take_append_of_le_length (by omega),
    List.take_of_length_le (by omega), all, if_pos (by rw [count, beq_self_eq_true])]

/-- The leading bytes of two-byte sequences. -/
theorem shape?_two {n : Nat} (h : 0xC2 ≤ n ∧ n < 0xE0) : shape? n = some (2, 0x80, 0xBF) := by
  rw [shape?, if_neg (by omega), if_neg (by omega), if_pos (by omega)]

/-- The second byte of three is bounded below after `E0` and above after `ED`. -/
theorem shape?_three {n m : Nat} (h : 0xE0 ≤ n ∧ n < 0xF0) (tail : 0x80 ≤ m ∧ m ≤ 0xBF)
    (short : n = 0xE0 → 0xA0 ≤ m) (surrogate : n = 0xED → m ≤ 0x9F) :
    ∃ low high, shape? n = some (3, low, high) ∧ low ≤ m ∧ m ≤ high := by
  rw [shape?, if_neg (by omega), if_neg (by omega), if_neg (by omega)]
  split
  · next first => exact ⟨_, _, rfl, short (beq_iff_eq.mp first), tail.2⟩
  · split
    · next first => exact ⟨_, _, rfl, tail.1, surrogate (beq_iff_eq.mp first)⟩
    · rw [if_pos (by omega)]
      exact ⟨_, _, rfl, tail⟩

/-- The second byte of four is bounded below after `F0` and above after `F4`. -/
theorem shape?_four {n m : Nat} (h : 0xF0 ≤ n ∧ n ≤ 0xF4) (tail : 0x80 ≤ m ∧ m ≤ 0xBF)
    (short : n = 0xF0 → 0x90 ≤ m) (large : n = 0xF4 → m ≤ 0x8F) :
    ∃ low high, shape? n = some (4, low, high) ∧ low ≤ m ∧ m ≤ high := by
  rw [shape?, if_neg (by omega), if_neg (by omega), if_neg (by omega),
    if_neg (by rw [beq_iff_eq]; omega), if_neg (by rw [beq_iff_eq]; omega), if_neg (by omega)]
  split
  · next first => exact ⟨_, _, rfl, short (beq_iff_eq.mp first), tail.2⟩
  · split
    · exact ⟨_, _, rfl, tail⟩
    · next first other =>
      rw [beq_iff_eq] at first
      rw [if_pos (by rw [beq_iff_eq]; omega)]
      exact ⟨_, _, rfl, tail.1, large (by omega)⟩

/-! ## One character -/

variable {v : Nat}

/-- A byte keeps the number it is made from. -/
theorem toNat_byte {n : Nat} (small : n < 256) : (UInt8.ofNat n).toNat = n := by
  rw [UInt8.toNat_ofNat', Nat.mod_eq_of_lt small]

/-- A continuation byte keeps its six bits. -/
theorem toNat_tail (n : Nat) : (UInt8.ofNat (n % 0x40 + 0x80)).toNat = n % 0x40 + 0x80 :=
  toNat_byte (by omega)

/-- A character of one byte is decoded. -/
theorem first_one (h : v ≤ 0x7f) (rest : List UInt8) :
    first (UInt8.ofNat v) rest = .ok (Char.ofNat v, 1) := by
  have shape : shape? v = some (1, 0, 0) := by
    rw [shape?, if_pos (by omega)]
  rw [first, toNat_byte (by omega), shape]
  rfl

/-- A character of two bytes is decoded. -/
theorem first_two (h : 0x7f < v ∧ v ≤ 0x7ff) (rest : List UInt8) :
    first (UInt8.ofNat (v / 64 % 0x20 + 0xc0)) (UInt8.ofNat (v % 0x40 + 0x80) :: rest) =
      .ok (Char.ofNat v, 2) := by
  have lead : (UInt8.ofNat (v / 64 % 0x20 + 0xc0)).toNat = v / 64 % 0x20 + 0xc0 :=
    toNat_byte (by omega)
  have shape : shape? (v / 64 % 0x20 + 0xc0) = some (2, 0x80, 0xBF) := shape?_two (by omega)
  have value : (v / 64 % 0x20 + 0xc0) % 32 * 64 + (v % 0x40 + 0x80) % 64 = v := by omega
  refine (first_of_shape (lead ▸ shape) (by decide) (by rw [toNat_tail]; omega)
    (List.forall_mem_nil _) rfl).trans ?_
  rw [List.foldl_nil, lead, toNat_tail]
  exact congrArg (fun n => Except.ok (Char.ofNat n, 2)) value

/-- A character of three bytes is decoded, which is no half of a surrogate pair. -/
theorem first_three (h : 0x7ff < v ∧ v ≤ 0xffff) (valid : v < 0xD800 ∨ 0xDFFF < v)
    (rest : List UInt8) :
    first (UInt8.ofNat (v / 4096 % 0x10 + 0xe0)) (UInt8.ofNat (v / 64 % 0x40 + 0x80) ::
        UInt8.ofNat (v % 0x40 + 0x80) :: rest) = .ok (Char.ofNat v, 3) := by
  have lead : (UInt8.ofNat (v / 4096 % 0x10 + 0xe0)).toNat = v / 4096 % 0x10 + 0xe0 :=
    toNat_byte (by omega)
  obtain ⟨low, high, shape, inside⟩ :
      ∃ low high, shape? (v / 4096 % 0x10 + 0xe0) = some (3, low, high) ∧
        low ≤ v / 64 % 0x40 + 0x80 ∧ v / 64 % 0x40 + 0x80 ≤ high :=
    shape?_three (by omega) (by omega) (by omega) (by omega)
  have value : ((v / 4096 % 0x10 + 0xe0) % 16 * 64 + (v / 64 % 0x40 + 0x80) % 64) * 64 +
      (v % 0x40 + 0x80) % 64 = v := by omega
  have each : ∀ t ∈ [UInt8.ofNat (v % 0x40 + 0x80)], 0x80 ≤ t.toNat ∧ t.toNat ≤ 0xBF := by
    rw [List.forall_mem_singleton, toNat_tail]
    omega
  refine (first_of_shape (lead ▸ shape) (by decide) (by rw [toNat_tail]; exact inside) each
    rfl).trans ?_
  rw [List.foldl_cons, List.foldl_nil, lead, toNat_tail, toNat_tail]
  exact congrArg (fun n => Except.ok (Char.ofNat n, 3)) value

/-- A character of four bytes is decoded. -/
theorem first_four (h : 0xffff < v ∧ v < 0x110000) (rest : List UInt8) :
    first (UInt8.ofNat (v / 262144 % 0x08 + 0xf0)) (UInt8.ofNat (v / 4096 % 0x40 + 0x80) ::
        UInt8.ofNat (v / 64 % 0x40 + 0x80) :: UInt8.ofNat (v % 0x40 + 0x80) :: rest) =
      .ok (Char.ofNat v, 4) := by
  have lead : (UInt8.ofNat (v / 262144 % 0x08 + 0xf0)).toNat = v / 262144 % 0x08 + 0xf0 :=
    toNat_byte (by omega)
  obtain ⟨low, high, shape, inside⟩ :
      ∃ low high, shape? (v / 262144 % 0x08 + 0xf0) = some (4, low, high) ∧
        low ≤ v / 4096 % 0x40 + 0x80 ∧ v / 4096 % 0x40 + 0x80 ≤ high :=
    shape?_four (by omega) (by omega) (by omega) (by omega)
  have value : (((v / 262144 % 0x08 + 0xf0) % 8 * 64 + (v / 4096 % 0x40 + 0x80) % 64) * 64 +
      (v / 64 % 0x40 + 0x80) % 64) * 64 + (v % 0x40 + 0x80) % 64 = v := by omega
  have each : ∀ t ∈ [UInt8.ofNat (v / 64 % 0x40 + 0x80), UInt8.ofNat (v % 0x40 + 0x80)],
      0x80 ≤ t.toNat ∧ t.toNat ≤ 0xBF := by
    rw [List.forall_mem_cons, List.forall_mem_singleton, toNat_tail, toNat_tail]
    omega
  refine (first_of_shape (lead ▸ shape) (by decide) (by rw [toNat_tail]; exact inside) each
    rfl).trans ?_
  rw [List.foldl_cons, List.foldl_cons, List.foldl_nil, lead, toNat_tail, toNat_tail, toNat_tail]
  exact congrArg (fun n => Except.ok (Char.ofNat n, 4)) value

/-- The bytes of a character are read in front of any others. -/
theorem first_encoded (ch : Char) :
    ∃ b more, String.utf8EncodeChar ch = b :: more ∧
      ∀ rest, first b (more ++ rest) = .ok (ch, more.length + 1) := by
  have valid : ch.val.toNat < 0xD800 ∨ 0xDFFF < ch.val.toNat ∧ ch.val.toNat < 0x110000 := ch.valid
  have back : Char.ofNat ch.val.toNat = ch := Char.ofNat_toNat ch
  rw [String.utf8EncodeChar]
  split
  · next one => exact ⟨_, _, rfl, fun rest => (first_one one rest).trans (by rw [back]; rfl)⟩
  · split
    · next two =>
      exact ⟨_, _, rfl, fun rest => (first_two (by omega) rest).trans (by rw [back]; rfl)⟩
    · split
      · next three =>
        exact ⟨_, _, rfl, fun rest =>
          (first_three (by omega) (by omega) rest).trans (by rw [back]; rfl)⟩
      · next four =>
        exact ⟨_, _, rfl, fun rest => (first_four (by omega) rest).trans (by rw [back]; rfl)⟩

/-! ## A whole text -/

/-- The rest of a sequence is passed over. -/
theorem scan_skip {next : UInt8 → List UInt8 → Except (Reason × Nat) (Char × Nat)}
    (pre : List UInt8) :
    scan next position pre.length (pre ++ rest) = scan next (position + pre.length) 0 rest := by
  induction pre generalizing position with
  | nil => rfl
  | cons b pre ih =>
    rw [List.length_cons, List.cons_append, scan, ih, Nat.add_assoc, Nat.add_comm 1]

/-- What is well formed is not let through but read. -/
theorem firstPassing_of_ok {outcome : Char × Nat} (h : first b rest = .ok outcome) :
    firstPassing b rest = .ok outcome := by
  unfold firstPassing
  split
  · next refused => cases h.symm.trans refused
  · exact h

/-- Scanning what was encoded finds each character, also where more than that is let through. -/
theorem scan_encoded {next : UInt8 → List UInt8 → Except (Reason × Nat) (Char × Nat)}
    (reads : ∀ b rest outcome, first b rest = .ok outcome → next b rest = .ok outcome)
    (cs : List Char) (position : Nat) :
    scan next position 0 (cs.flatMap String.utf8EncodeChar) = cs.map .inl := by
  induction cs generalizing position with
  | nil => rfl
  | cons c cs ih =>
    obtain ⟨b, more, bytes, here⟩ := first_encoded c
    rw [List.flatMap_cons, bytes, List.cons_append, scan, reads _ _ _ (here _)]
    dsimp only
    rw [Nat.add_sub_cancel, scan_skip, ih, List.map_cons]

/-- Characters alone are all that was scanned. -/
theorem characters_map_inl (cs : List Char) : characters (cs.map .inl) = .ok cs := by
  rw [characters]
  induction cs with
  | nil => rfl
  | cons c cs ih =>
    rw [List.map_cons, List.mapM_cons, ih]
    rfl

/-- The bytes of an array, read from its front or as its list. -/
theorem toList_eq_toList_data (bytes : ByteArray) : bytes.toList = bytes.data.toList := by
  have size : bytes.data.toList.length = bytes.size := Array.length_toList
  have loop (i : Nat) (front : List UInt8) :
      ByteArray.toList.loop bytes i front = front.reverse ++ bytes.data.toList.drop i := by
    induction left : bytes.size - i generalizing i front with
    | zero =>
      rw [ByteArray.toList.loop, if_neg (by omega), List.drop_of_length_le (by omega),
        List.append_nil]
    | succ n ih =>
      have inside : i < bytes.data.toList.length := by omega
      have next : bytes.get! i = bytes.data.toList[i] := by
        change bytes.data[i]! = _
        rw [getElem!_pos bytes.data i (by rw [← Array.length_toList]; omega), Array.getElem_toList]
      rw [ByteArray.toList.loop, if_pos (by omega), ih _ _ (by omega), next,
        List.drop_eq_getElem_cons inside, List.reverse_cons, List.append_assoc,
        List.singleton_append]
  rw [ByteArray.toList, loop]
  rfl

/-- The bytes of a text are those of its characters. -/
theorem toList_toUTF8 (s : String) :
    s.toUTF8.toList = s.toList.flatMap String.utf8EncodeChar := by
  rw [toList_eq_toList_data, String.toUTF8_eq_toByteArray, ← String.utf8Encode_toList,
    List.utf8Encode, List.toList_data_toByteArray]

/-- **Decoding undoes encoding.** -/
theorem decode_toUTF8 (s : String) : decode s.toUTF8.toList = .ok s.toList := by
  rw [decode, toList_toUTF8, scan_encoded fun _ _ _ h => h, characters_map_inl]

/-- So does decoding that lets half of a surrogate pair through. -/
theorem decodePassing_toUTF8 (s : String) : decodePassing s.toUTF8.toList = .ok s.toList := by
  rw [decodePassing, toList_toUTF8, scan_encoded fun _ _ _ => firstPassing_of_ok,
    characters_map_inl]

end Workbench.Text.Utf8
