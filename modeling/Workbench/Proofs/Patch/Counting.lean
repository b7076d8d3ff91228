import Workbench.Proofs.Patch.Parsing

/-!
# Counts of lines and new files

What a patch says about the file that it is for (`Counted`): whether there is one, and how many
lines are added to it or removed from it. Patches of markers say it of the files of the project.
Names that were made up are not looked for among them, so that patches without markers say it of a
project without files (`parse_counted_iff`).
-/

namespace Workbench.Patch

open Project (File findFile?)

variable {made : ℕ} {files : List File} {text : String} {p : Patch}

/-- A patch is new if no file has its name when case is ignored, and then adds all its lines.
Otherwise it adds or removes as many lines as it has more or less than the first file with its
name. -/
structure Counted (files : List File) (p : Patch) : Prop where
  isNew_iff : p.isNew = true ↔ ∀ f ∈ files, Text.lower f.name ≠ Text.lower p.fileName
  new : p.isNew = true → p.added = lineCount p.newContent ∧ p.removed = 0
  old : ∀ before f after, files = before ++ f :: after →
    (∀ g ∈ before, Text.lower g.name ≠ Text.lower p.fileName) →
    Text.lower f.name = Text.lower p.fileName →
      p.added = max 0 ((lineCount p.newContent : ℤ) - lineCount f.content) ∧
      p.removed = max 0 ((lineCount f.content : ℤ) - lineCount p.newContent)

/-- No file has the name, whatever its case. -/
theorem findFile?_eq_none_iff {name : String} :
    findFile? files name = none ↔ ∀ f ∈ files, Text.lower f.name ≠ Text.lower name := by
  simp [findFile?, File.isNamed]

/-- The file that is found is the first that has the name, whatever its case. -/
theorem findFile?_eq_some_iff {name : String} {f : File} : findFile? files name = some f ↔
    ∃ before after, files = before ++ f :: after ∧
      (∀ g ∈ before, Text.lower g.name ≠ Text.lower name) ∧
      Text.lower f.name = Text.lower name := by
  rw [findFile?, List.find?_eq_some_iff_append]
  simp only [File.isNamed, beq_iff_eq, Bool.not_eq_true', beq_eq_false_iff_ne]
  constructor
  · rintro ⟨named, before, after, whole, first⟩
    exact ⟨before, after, whole, first, named⟩
  · rintro ⟨before, after, whole, first, named⟩
    exact ⟨named, before, after, whole, first⟩

/-- A patch is counted by the file that is found under its name. -/
theorem counted_make (id name content : String) (files : List File) :
    Counted files (make id name content (findFile? files name)) := by
  cases found : findFile? files name with
  | none =>
    have absent := findFile?_eq_none_iff.mp found
    refine ⟨?_, fun _ => ⟨rfl, rfl⟩, fun before f after whole _ named => ?_⟩
    · exact ⟨fun _ => absent, fun _ => rfl⟩
    · exact absurd named (absent f (by simp [whole]))
  | some file =>
    obtain ⟨before, after, whole, first, named⟩ := findFile?_eq_some_iff.mp found
    refine ⟨⟨nofun, fun absent => ?_⟩, nofun, fun before' f after' whole' first' named' => ?_⟩
    · exact absurd named (absent file (by simp [whole]))
    · -- the first file with the name is the one that was found
      have same := findFile?_eq_some_iff.mpr ⟨before', after', whole', first', named'⟩
      obtain rfl := Option.some.inj (found.symm.trans same)
      simp only [make]
      omega

/-- A patch that is counted without regard to files is counted by them, too, if none has its
name. -/
theorem counted_make_none_iff (id name content : String) (files : List File) :
    Counted files (make id name content none) ↔
      ∀ f ∈ files, Text.lower f.name ≠ Text.lower name := by
  refine ⟨fun counted => counted.isNew_iff.mp rfl, fun absent => ?_⟩
  have counted := counted_make id name content files
  rwa [findFile?_eq_none_iff.mpr absent] at counted

/-- **Which patches are counted by the files of the project.** Those of markers are, all of them.
A patch of a text without markers is if no file has the name that was made up for it, because it is
always counted as if there were no files. -/
theorem parse_counted_iff (mem : p ∈ parse made files text) :
    (Counted files p ↔ HasMarked text.toList ∨
      ∀ f ∈ files, Text.lower f.name ≠ Text.lower p.fileName) ∧
    (¬ HasMarked text.toList → Counted [] p) := by
  obtain ⟨q, -, n, rfl⟩ := exists_of_mem_parse mem
  by_cases marked : HasMarked text.toList
  · rw [compared?_of_marked marked]
    have counted := counted_make (freshId n) q.fileName q.content files
    exact ⟨⟨fun _ => .inl marked, fun _ => counted⟩, fun unmarked => absurd marked unmarked⟩
  · rw [compared?_of_not_marked marked, counted_make_none_iff, fileName_make]
    exact ⟨⟨.inr, fun h => h.resolve_left marked⟩,
      fun _ => (counted_make_none_iff _ _ _ []).mpr (by simp)⟩

/-- A file has the name that is made up for a fenced block: the patch passes for new. With a marker
in front that names the file, it is counted by it. -/
theorem parse_counted_iff_name_taken :
    let file : File := ⟨"file-1", "ai_node_1.js", "a\nb", "javascript"⟩
    let alone : Patch := ⟨"patch-1", "ai_node_1.js", "x", 1, 0, true⟩
    let marked : Patch := ⟨"patch-1", "AI_node_1.js", "x", 0, 1, false⟩
    (alone ∈ parse 0 [file] "```js\nx\n```" ∧ ¬ Counted [file] alone ∧ Counted [] alone) ∧
      (marked ∈ parse 0 [file] "FILE: AI_node_1.js\n```js\nx\n```" ∧ Counted [file] marked) := by
  intro file alone marked
  have mem : alone ∈ parse 0 [file] "```js\nx\n```" := by decide +kernel
  have mem' : marked ∈ parse 0 [file] "FILE: AI_node_1.js\n```js\nx\n```" := by decide +kernel
  have unmarked : ¬ HasMarked "```js\nx\n```".toList := by decide +kernel
  refine ⟨⟨mem, fun counted => ?_, (parse_counted_iff mem).2 unmarked⟩, mem', ?_⟩
  · have absent := ((parse_counted_iff mem).1.mp counted).resolve_left unmarked
    exact absent file List.mem_cons_self rfl
  · exact (parse_counted_iff mem').1.mpr (.inl (by decide +kernel))

end Workbench.Patch
