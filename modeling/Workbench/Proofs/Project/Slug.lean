import Workbench.Project.Slug
import Workbench.Proofs.Text.Lowercase
import Workbench.Proofs.Text.Scan
import Workbench.Proofs.Tree.Canonical

/-!
# Which slugs are names

Every name of a project that is not blank has a slug. Making it, no slash and no dot is lost or
gained: the characters in front of the letters stand for themselves in lower case, and only blank
characters are trimmed or collapsed. So the slug can be a segment of a path exactly if the name of
the project holds no slash and is, but for blanks around it, no single or double dot
(`isName_slug_iff`).
-/

namespace Workbench

namespace Text

variable {c mark : Char} {cs ds : List Char} {inRun : Bool}

/-! ## Collapsed blanks -/

/-- Collapsing runs of blanks leaves all other characters in place. -/
theorem mem_collapseFrom_iff (full : isBlank c = false) (other : c ≠ mark) :
    c ∈ collapseFrom mark inRun cs ↔ c ∈ cs := by
  induction cs generalizing inRun with
  | nil => exact Iff.rfl
  | cons d cs ih =>
    rw [collapseFrom, List.mem_cons]
    by_cases blank : isBlank d = true
    · have differs : c ≠ d := by
        rintro rfl
        rw [full] at blank
        cases blank
      rw [if_pos blank]
      split <;> simp [ih, other, differs]
    · rw [if_neg blank, List.mem_cons, ih]

/-- A text without blanks and marks is the only one that collapses to it. -/
theorem collapseBlanks_eq_iff (full : ∀ d ∈ ds, isBlank d = false) (absent : mark ∉ ds) :
    collapseBlanks mark cs = ds ↔ cs = ds := by
  rw [collapseBlanks]
  induction cs generalizing ds with
  | nil => exact Iff.rfl
  | cons c cs ih =>
    rw [collapseFrom]
    by_cases blank : isBlank c = true
    · rw [if_pos blank, if_neg Bool.false_ne_true]
      constructor
      · rintro rfl
        exact absurd List.mem_cons_self absent
      · rintro rfl
        rw [full c List.mem_cons_self] at blank
        cases blank
    · rw [if_neg blank]
      cases ds with
      | nil => simp
      | cons d ds =>
        rw [List.cons.injEq, List.cons.injEq, ih (fun e he => full e (List.mem_cons_of_mem _ he))
          (fun h => absent (List.mem_cons_of_mem _ h))]

end Text

namespace Project

open Text (BeforeLetters isBlank isBlankText trim)

variable {name : String} {c : Char} {ds : List Char}

/-- A name has a slug without letters and blanks only if it is that slug, blanks at its ends
apart. -/
theorem slug_eq_iff (front : ∀ d ∈ ds, BeforeLetters d) (full : ∀ d ∈ ds, isBlank d = false) :
    slug name = String.ofList ds ↔ trim name.toList = ds := by
  have absent : '_' ∉ ds := fun h => absurd (front _ h).2 (by decide)
  rw [slug, String.ofList_inj, Text.collapseBlanks_eq_iff full absent, Text.lower, Text.trimmed,
    String.toList_ofList, String.toList_ofList, Text.lowerFrom_eq_iff front]

/-- Such a character is in the slug if it is in the name. -/
theorem mem_slug_iff (front : BeforeLetters c) (full : isBlank c = false) :
    c ∈ (slug name).toList ↔ c ∈ name.toList := by
  have other : c ≠ '_' := by
    rintro rfl
    exact absurd front.2 (by decide)
  rw [slug, String.toList_ofList, Text.collapseBlanks, Text.mem_collapseFrom_iff full other,
    Text.lower, Text.trimmed, String.toList_ofList, String.toList_ofList,
    Text.mem_lowerFrom_iff front, Text.mem_trim_iff full]

/-- A slash is one of them. -/
theorem slash_mem_slug_iff : '/' ∈ (slug name).toList ↔ '/' ∈ name.toList :=
  mem_slug_iff ⟨by decide, by decide⟩ (by decide)

/-- A name that can be seen has a slug. -/
theorem slug_ne_empty (visible : isBlankText name = false) : slug name ≠ "" := by
  obtain ⟨c, mem, full⟩ : ∃ c ∈ name.toList, isBlank c = false := by
    simpa [isBlankText] using visible
  have nothing : slug name = String.ofList [] ↔ trim name.toList = [] :=
    slug_eq_iff (by simp) (by simp)
  exact fun empty => Text.trim_ne_nil mem full (nothing.mp empty)

/-- The slug of a name that is not blank can be a segment of a path exactly if the name holds no
slash and is not a single or double dot. -/
theorem isName_slug_iff (visible : isBlankText name = false) :
    Tree.IsName (slug name) ↔
      '/' ∉ name.toList ∧ Text.trimmed name ≠ "." ∧ Text.trimmed name ≠ ".." := by
  have dots (ds : List Char) (only : ∀ d ∈ ds, d = '.') :
      slug name = String.ofList ds ↔ Text.trimmed name = String.ofList ds := by
    rw [Text.trimmed, String.ofList_inj]
    refine slug_eq_iff (fun d hd => ?_) (fun d hd => ?_)
    · rw [only d hd]
      exact ⟨by decide, by decide⟩
    · rw [only d hd]
      decide
  have single : slug name = "." ↔ Text.trimmed name = "." := dots ['.'] (by simp)
  have double : slug name = ".." ↔ Text.trimmed name = ".." := dots ['.', '.'] (by simp)
  constructor
  · intro h
    exact ⟨mt slash_mem_slug_iff.mpr h.noSlash, mt single.mpr h.notDot, mt double.mpr h.notDotDot⟩
  · rintro ⟨noSlash, notDot, notDotDot⟩
    exact ⟨slug_ne_empty visible, mt single.mp notDot, mt double.mp notDotDot,
      mt slash_mem_slug_iff.mp noSlash⟩

end Project

end Workbench
