import Workbench.Patch.Completion
import Mathlib.Data.Int.Notation
import Mathlib.Data.List.Chain

/-!
# Pieces of a text

A text is typed piece by piece: each piece is a beginning of the text, longer than the one before,
and the last one is the text (`Grows`). The pieces are cut by counting how many characters are
shown; `framesFrom` has fuel for it, and enough of it as long as fuel and characters shown come to
the length of the text.
-/

namespace Workbench.Patch

/-- Growing beginnings of a text, at most `size` characters longer each time; the last one, and no
other, is the text itself. -/
structure Grows (size : ℕ) (text : List Char) (pieces : List (List Char)) : Prop where
  beginnings : ∀ piece ∈ pieces, piece <+: text
  steps : pieces.IsChain fun piece next =>
    piece.length < next.length ∧ next.length ≤ piece.length + size
  first : ∀ piece, pieces.head? = some piece → piece.length ≤ size
  last : pieces.getLast? = some text
  shorter : ∀ piece ∈ pieces.dropLast, piece.length < text.length

variable {size fuel shown : ℕ} {cs : List Char}

/-- The first piece shows what is to be shown, or the whole text if it is shorter. -/
theorem head?_framesFrom (enough : cs.length ≤ fuel + shown) :
    (framesFrom size cs fuel shown).head? = some (cs.take shown) := by
  cases fuel with
  | zero => rw [framesFrom, List.take_of_length_le (by omega), List.head?_cons]
  | succ fuel =>
    rw [framesFrom]
    split
    · rfl
    · next whole => rw [List.take_of_length_le (by omega), List.head?_cons]

/-- Each frame is a beginning of the text. -/
theorem prefix_of_mem_framesFrom {piece : List Char}
    (mem : piece ∈ framesFrom size cs fuel shown) : piece <+: cs := by
  induction fuel generalizing shown with
  | zero =>
    obtain rfl := List.mem_singleton.mp mem
    exact List.prefix_rfl
  | succ fuel ih =>
    rw [framesFrom] at mem
    split at mem
    · rcases List.mem_cons.mp mem with rfl | later
      · exact List.take_prefix shown cs
      · exact ih later
    · obtain rfl := List.mem_singleton.mp mem
      exact List.prefix_rfl

/-- Frames grow, and by no more than their size at once. -/
theorem isChain_framesFrom (positive : 0 < size) (enough : cs.length ≤ fuel + shown) :
    (framesFrom size cs fuel shown).IsChain fun piece next =>
      piece.length < next.length ∧ next.length ≤ piece.length + size := by
  induction fuel generalizing shown with
  | zero => exact List.isChain_singleton _
  | succ fuel ih =>
    rw [framesFrom]
    split
    · next more =>
      have enough' : cs.length ≤ fuel + (shown + size) := by omega
      refine List.isChain_cons.mpr ⟨fun next head => ?_, ih enough'⟩
      rw [head?_framesFrom enough', Option.mem_some_iff] at head
      rw [← head, List.length_take, List.length_take]
      omega
    · exact List.isChain_singleton _

/-- The last frame is the whole text. -/
theorem getLast?_framesFrom (size : ℕ) (cs : List Char) (fuel shown : ℕ) :
    (framesFrom size cs fuel shown).getLast? = some cs := by
  induction fuel generalizing shown with
  | zero => rfl
  | succ fuel ih =>
    rw [framesFrom]
    split
    · rw [List.getLast?_cons, ih, Option.getD_some]
    · rfl

/-- Pieces that become longer each time are shorter than the last one. -/
theorem length_lt_of_mem_dropLast {pieces : List (List Char)} {last piece : List Char}
    (chain : pieces.IsChain fun piece next => piece.length < next.length)
    (ends : pieces.getLast? = some last) (mem : piece ∈ pieces.dropLast) :
    piece.length < last.length := by
  obtain ⟨init, rfl⟩ := List.getLast?_eq_some_iff.mp ends
  rw [List.dropLast_concat] at mem
  have : IsTrans (List Char) fun piece next => piece.length < next.length :=
    ⟨fun _ _ _ => Nat.lt_trans⟩
  exact (List.pairwise_append.mp chain.pairwise).2.2 piece mem last (List.mem_singleton_self last)

/-- **A text is cut into growing beginnings.** -/
theorem exists_frames_grows {size : ℤ} (positive : 0 < size) (text : String) :
    ∃ frames, Patch.frames size text = .ok frames ∧
      Grows size.toNat text.toList (frames.map String.toList) := by
  have more : 0 < size.toNat := by omega
  have enough : text.toList.length ≤ text.toList.length + size.toNat := Nat.le_add_right _ _
  have chain := isChain_framesFrom more enough
  refine ⟨_, if_neg (by omega), ?_⟩
  have chars : ((framesFrom size.toNat text.toList text.toList.length size.toNat).map
      String.ofList).map String.toList =
        framesFrom size.toNat text.toList text.toList.length size.toNat := by
    rw [List.map_map]
    exact List.map_id'' (fun cs => String.toList_ofList) _
  rw [chars]
  refine ⟨fun piece => prefix_of_mem_framesFrom, chain, fun piece head => ?_,
    getLast?_framesFrom _ _ _ _, fun piece => ?_⟩
  · rw [head?_framesFrom enough, Option.some.injEq] at head
    rw [← head, List.length_take]
    exact Nat.min_le_left _ _
  · exact length_lt_of_mem_dropLast (chain.imp fun _ _ step => step.1)
      (getLast?_framesFrom _ _ _ _)

end Workbench.Patch
