import Workbench.Text.Split
import Mathlib.Data.List.Forall2

/-!
# Pieces of a text

Items are found in a text one behind the other (`InOrder`): each has a piece of the text that fits
it, and the pieces neither overlap nor change places. What fits may be narrowed to a part of each
piece, and items may be left out.
-/

namespace Workbench.Text

variable {α β : Type*} {Fits : List Char → α → Prop} {Narrow : List Char → β → Prop}
variable {text : List Char} {items : List α}

/-- The items have pieces of the text that fit them, disjoint and in the same order. -/
inductive InOrder (Fits : List Char → α → Prop) : List Char → List α → Prop
  | nil (text : List Char) : InOrder Fits text []
  | cons {piece after : List Char} {item : α} {items : List α} (before : List Char)
      (fits : Fits piece item) (later : InOrder Fits after items) :
      InOrder Fits (before ++ (piece ++ after)) (item :: items)

namespace InOrder

/-- Text in front makes no difference. -/
theorem prepend (h : InOrder Fits text items) (front : List Char) :
    InOrder Fits (front ++ text) items := by
  cases h with
  | nil => exact .nil _
  | cons before fits later =>
    rw [← List.append_assoc]
    exact .cons (front ++ before) fits later

/-- Each item has a piece that fits it. -/
theorem exists_fits {item : α} (h : InOrder Fits text items) (mem : item ∈ items) :
    ∃ piece, Fits piece item := by
  induction h with
  | nil => cases mem
  | cons _ fits _ ih =>
    rcases List.mem_cons.mp mem with rfl | later
    · exact ⟨_, fits⟩
    · exact ih later

/-- Items are replaced by others, each of which fits a part of the piece of the one before. -/
theorem forall₂ {R : α → β → Prop} {items' : List β} (h : InOrder Fits text items)
    (same : List.Forall₂ R items items')
    (narrow : ∀ piece item item', Fits piece item → R item item' →
      ∃ before inner after, piece = before ++ (inner ++ after) ∧ Narrow inner item') :
    InOrder Narrow text items' := by
  induction same generalizing text with
  | nil => exact .nil text
  | cons related _ ih =>
    cases h with
    | cons front fits later =>
      obtain ⟨before, inner, after, rfl, fits'⟩ := narrow _ _ _ fits related
      rw [List.append_assoc, List.append_assoc, ← List.append_assoc front]
      exact .cons (front ++ before) fits' ((ih later).prepend after)

/-- Items are replaced by others or left out. -/
theorem filterMap {f : α → Option β} (h : InOrder Fits text items)
    (narrow : ∀ piece item item', Fits piece item → f item = some item' →
      ∃ before inner after, piece = before ++ (inner ++ after) ∧ Narrow inner item') :
    InOrder Narrow text (items.filterMap f) := by
  induction h with
  | nil text => exact .nil text
  | @cons piece rest item items front fits later ih =>
    cases replaced : f item with
    | none =>
      rw [List.filterMap_cons_none replaced, ← List.append_assoc]
      exact ih.prepend (front ++ piece)
    | some item' =>
      obtain ⟨before, inner, after, rfl, fits'⟩ := narrow _ _ _ fits replaced
      rw [List.filterMap_cons_some replaced, List.append_assoc, List.append_assoc,
        ← List.append_assoc front]
      exact .cons (front ++ before) fits' (ih.prepend after)

/-- What fits is narrowed to a part of each piece. -/
theorem narrow {Narrow : List Char → α → Prop} (h : InOrder Fits text items)
    (narrow : ∀ piece item, Fits piece item →
      ∃ before inner after, piece = before ++ (inner ++ after) ∧ Narrow inner item) :
    InOrder Narrow text items := by
  rw [← List.filterMap_some (l := items)]
  refine h.filterMap fun piece item item' fits same => ?_
  obtain rfl := Option.some.inj same
  exact narrow piece item fits

/-- Items are left out. -/
theorem filter (h : InOrder Fits text items) (p : α → Bool) :
    InOrder Fits text (items.filter p) := by
  rw [← List.filterMap_eq_filter]
  refine h.filterMap fun piece item item' fits kept => ⟨[], piece, [], by simp, ?_⟩
  obtain ⟨rfl, -⟩ := Option.guard_eq_some_iff.mp kept
  exact fits

end InOrder

end Workbench.Text
