import Workbench.Text.Lowercase

/-!
# Lower case in front of the letters

The characters in front of the letters in the order of code points, among them the digits, the dot,
the slash and the colon, stand for themselves: none of them is the lower-case partner of another
character (`eq_of_lowerChar_eq`), none is lost or gained when a text is put in lower case, and
without regard to case each agrees with itself only.
-/

namespace Workbench.Text

variable {c d : Char} {cs ds before : List Char}

/-- The character stands in front of the letters in the order of code points. -/
def BeforeLetters (c : Char) : Prop :=
  0 < c.toNat ∧ c.toNat < 64

theorem toNat_ofNat_of_pos {n : Nat} (h : 0 < (Char.ofNat n).toNat) : (Char.ofNat n).toNat = n := by
  by_cases valid : n.isValidChar
  · rw [Char.ofNat, dif_pos valid]
    rfl
  · rw [Char.ofNat, dif_neg valid] at h
    cases h

/-- No character in front of the letters is the partner of another one. -/
theorem eq_of_lowerChar_eq (h : lowerChar c = d) (front : BeforeLetters d) : c = d := by
  obtain ⟨positive, low⟩ := front
  have distant : ∀ run ∈ lowerRuns.toList, (64 : Int) ≤ run.1 + run.2.2.2 := by
    decide +kernel
  rw [lowerChar] at h
  split at h
  · split at h
    · next upper =>
      -- the partner of a capital letter is a small one
      simp only [Bool.and_eq_true, decide_eq_true_eq, Char.le_def, UInt32.le_iff_toNat_le] at upper
      have first : 65 ≤ c.toNat := upper.1
      have last : c.toNat ≤ 90 := upper.2
      have small := toNat_ofNat_of_pos (h ▸ positive)
      rw [← h, small] at low
      omega
    · exact h
  · split at h
    · rw [← h] at low
      exact absurd low (by decide)
    · rw [lowerDelta] at h
      split at h
      · next first last step delta found =>
        have far := distant _ (Array.mem_toList_iff.mpr (Array.mem_of_find?_eq_some found))
        have within := Array.find?_some found
        simp only [Bool.and_eq_true, decide_eq_true_eq] at within
        have small := toNat_ofNat_of_pos (h ▸ positive)
        rw [← h, small] at low
        dsimp only at far
        omega
      · simpa using h

/-- What stands before all letters has no case. -/
theorem lowerChar_eq_self (front : BeforeLetters c) : lowerChar c = c := by
  obtain ⟨-, low⟩ := front
  have ascii : c.toNat < 128 := by omega
  have small : ¬ ('A' ≤ c && c ≤ 'Z') = true := by
    simp only [Bool.and_eq_true, decide_eq_true_eq, Char.le_def, UInt32.le_iff_toNat_le]
    intro upper
    have first : 65 ≤ c.toNat := upper.1
    omega
  rw [lowerChar, if_pos ascii, if_neg small]

/-- What a character becomes in lower case starts with a character; one in front of the letters
is there only if it was there before. -/
theorem lowerFrom_cons (c : Char) (cs before : List Char) :
    ∃ x xs, lowerFrom before (c :: cs) = x :: (xs ++ lowerFrom (c :: before) cs) ∧
      (∀ y ∈ xs, ¬ BeforeLetters y) ∧ (BeforeLetters x ∨ BeforeLetters c → x = c ∧ xs = []) := by
  rw [lowerFrom]
  split
  · next dotted =>
    have far : c.toNat = 0x130 := by simpa using dotted
    refine ⟨'i', ['\u0307'], rfl, by simp [BeforeLetters], ?_⟩
    rintro (⟨-, low⟩ | ⟨-, low⟩)
    · exact absurd low (by decide)
    · omega
  · split
    · next sigma =>
      have same : c = 'Σ' := by simpa using sigma
      refine ⟨_, [], rfl, by simp, fun front => ?_⟩
      subst same
      rcases front with ⟨-, low⟩ | ⟨-, low⟩
      · split at low <;> exact absurd low (by decide)
      · exact absurd low (by decide)
    · refine ⟨lowerChar c, [], rfl, by simp, ?_⟩
      rintro (front | front)
      · exact ⟨(eq_of_lowerChar_eq rfl front).symm, rfl⟩
      · exact ⟨lowerChar_eq_self front, rfl⟩

/-- Lowering a text neither brings such a character in nor takes one out. -/
theorem mem_lowerFrom_iff (front : BeforeLetters d) : d ∈ lowerFrom before cs ↔ d ∈ cs := by
  induction cs generalizing before with
  | nil => exact Iff.rfl
  | cons c cs ih =>
    obtain ⟨x, xs, eq, others, same⟩ := lowerFrom_cons c cs before
    have absent : d ∉ xs := fun h => others d h front
    rw [eq, List.mem_cons, List.mem_append, List.mem_cons, ih]
    have here : d = x ↔ d = c := by
      constructor
      · rintro rfl
        exact (same (.inl front)).1
      · rintro rfl
        exact (same (.inr front)).1.symm
    rw [here]
    simp [absent]

/-- A text is the only one whose lower-case form it is, if all of it is in front of the letters. -/
theorem lowerFrom_eq_iff (front : ∀ d ∈ ds, BeforeLetters d) : lowerFrom before cs = ds ↔ cs = ds := by
  induction cs generalizing before ds with
  | nil => exact Iff.rfl
  | cons c cs ih =>
    obtain ⟨x, xs, eq, others, same⟩ := lowerFrom_cons c cs before
    rw [eq]
    constructor
    · rintro rfl
      obtain ⟨rfl, rfl⟩ := same (.inl (front x List.mem_cons_self))
      rw [List.nil_append] at front ⊢
      rw [← (ih fun d hd => front d (List.mem_cons_of_mem _ hd)).mp rfl]
    · rintro rfl
      obtain ⟨rfl, rfl⟩ := same (.inr (front c List.mem_cons_self))
      rw [List.nil_append, (ih fun d hd => front d (List.mem_cons_of_mem _ hd)).mpr rfl]

/-! ## Letters of one kind -/

/-- A character in front of the letters agrees with no other when case is ignored. -/
theorem sameLetter_iff_eq (front : BeforeLetters c) : sameLetter c d = true ↔ d = c := by
  have distant : ∀ entry ∈ sharedUpper.toList, 64 ≤ entry.1 := by decide +kernel
  have alone : lowerSiblings c = [] := by
    rw [lowerSiblings]
    split
    · next others found =>
      have far := distant _ (Array.mem_toList_iff.mpr (Array.mem_of_find?_eq_some found))
      have same := Array.find?_some found
      have low := front.2
      simp only [beq_iff_eq] at same
      dsimp only at far
      omega
    · rfl
  rw [sameLetter, lowerChar_eq_self front, alone]
  constructor
  · intro same
    have partner : c = lowerChar d := by simpa using same
    exact eq_of_lowerChar_eq partner.symm front
  · rintro rfl
    simp [lowerChar_eq_self front]

end Workbench.Text
