import Workbench.Patch.Basic
import Workbench.Proofs.Project.Memory

/-!
# What patches leave of files

Patches that are applied to the files `base` of a project create some files behind those that are
there and write contents to some. `Progress` says what can have been done at any time: a name is
created once, and only if nothing in `base` has it, and a content comes from a patch that means the
file. `Settled` says that every patch has been applied.

* `Settled.trans`: files that settle under some patches and then under others settle under both.
* `Settled.contentsOf_eq`: if no two patches mean the same name, then whichever way the files
  settle, the contents under every name are the same.
-/

namespace Workbench.Project

/-- The file that a name means has the id. -/
def Targets (files : List File) (name id : String) : Prop :=
  ∃ f, findFile? files name = some f ∧ f.id = id

section Targets

variable {files : List File} {name other id : String}

/-- Files behind others do not change what a name means. -/
theorem Targets.append (h : Targets files name id) (more : List File) :
    Targets (files ++ more) name id := by
  obtain ⟨f, hf, hid⟩ := h
  exact ⟨f, findFile?_append_of_some hf more, hid⟩

/-- What a name means is there. -/
theorem Targets.mem (h : Targets files name id) : ∃ f ∈ files, f.id = id := by
  obtain ⟨f, hf, hid⟩ := h
  exact ⟨f, mem_of_findFile? hf, hid⟩

/-- Nor do new contents. -/
theorem targets_revise_iff {c : Revision} :
    Targets (files.map (File.revise c)) name id ↔ Targets files name id := by
  simp [Targets, findFile?_revise]

/-- Files with distinct ids are the same file if their ids are. -/
theorem eq_of_id_eq (distinct : (files.map (·.id)).Nodup) {f g : File} (hf : f ∈ files)
    (hg : g ∈ files) (same : f.id = g.id) : f = g :=
  List.inj_on_of_nodup_map distinct hf hg same

/-- Names that mean files with one id are the same but for case. -/
theorem Targets.lower_eq (distinct : (files.map (·.id)).Nodup) (h : Targets files name id)
    (h' : Targets files other id) : Text.lower name = Text.lower other := by
  obtain ⟨f, hf, hid⟩ := h
  obtain ⟨g, hg, hid'⟩ := h'
  obtain rfl :=
    eq_of_id_eq distinct (mem_of_findFile? hf) (mem_of_findFile? hg) (hid.trans hid'.symm)
  exact (lower_name_of_findFile? hf).symm.trans (lower_name_of_findFile? hg)

end Targets

/-! ## Progress -/

/-- What patches may have done to the files `base` at any time: `made` are the files that were
created, `written` the contents that were written. -/
structure Progress (base : List File) (patches : List Patch) (made : List File)
    (written : Revision) : Prop where
  distinct : ((base ++ made).map (·.id)).Nodup
  /-- A name is created once, case ignored. -/
  once : (made.map fun f => Text.lower f.name).Nodup
  missing : ∀ f ∈ made, findFile? base f.name = none
  made_for : ∀ f ∈ made, ∃ p ∈ patches, p.fileName = f.name
  written_for : ∀ id content, written id = some content →
    ∃ p ∈ patches, Targets (base ++ made) p.fileName id ∧ p.newContent = content

namespace Progress

variable {base made : List File} {patches : List Patch} {written : Revision}

/-- Before anything is written, there is nothing to account for. -/
theorem start (patches : List Patch) (distinct : (base.map (·.id)).Nodup) :
    Progress base patches [] fun _ => none where
  distinct := by simpa using distinct
  once := List.nodup_nil
  missing := fun _ h => absurd h List.not_mem_nil
  made_for := fun _ h => absurd h List.not_mem_nil
  written_for := fun _ _ h => nomatch h

/-- A file is created whose name nothing has. -/
theorem create (h : Progress base patches made written) {p : Patch} (hp : p ∈ patches) {f : File}
    (named : f.name = p.fileName) (absent : findFile? (base ++ made) p.fileName = none)
    (new : ∀ g ∈ base ++ made, g.id ≠ f.id) : Progress base patches (made ++ [f]) written where
  distinct := by
    rw [← List.append_assoc, List.map_append]
    refine List.nodup_append.mpr ⟨h.distinct, List.nodup_singleton _, ?_⟩
    rintro id hid id' hid' rfl
    obtain ⟨g, hg, rfl⟩ := List.mem_map.mp hid
    exact new g hg (List.mem_singleton.mp hid')
  once := by
    rw [List.map_append]
    refine List.nodup_append.mpr ⟨h.once, List.nodup_singleton _, ?_⟩
    rintro name hname name' hname' rfl
    obtain ⟨g, hg, rfl⟩ := List.mem_map.mp hname
    have named' : Text.lower g.name = Text.lower p.fileName :=
      (List.mem_singleton.mp hname').trans (congrArg Text.lower named)
    have := List.find?_eq_none.mp absent g (List.mem_append_right _ hg)
    simp [File.isNamed, named'] at this
  missing := by
    intro g hg
    rcases List.mem_append.mp hg with hg | hg
    · exact h.missing g hg
    · obtain rfl := List.mem_singleton.mp hg
      rw [named]
      exact List.find?_eq_none.mpr fun x hx =>
        List.find?_eq_none.mp absent x (List.mem_append_left _ hx)
  made_for := by
    intro g hg
    rcases List.mem_append.mp hg with hg | hg
    · exact h.made_for g hg
    · obtain rfl := List.mem_singleton.mp hg
      exact ⟨p, hp, named.symm⟩
  written_for := by
    intro id content hid
    obtain ⟨q, hq, targets, hcontent⟩ := h.written_for id content hid
    refine ⟨q, hq, ?_, hcontent⟩
    rw [← List.append_assoc]
    exact targets.append [f]

/-- The content of a patch is written to the file that it means. -/
theorem write (h : Progress base patches made written) {p : Patch} (hp : p ∈ patches) {id : String}
    (targets : Targets (base ++ made) p.fileName id) :
    Progress base patches made (Function.update written id (some p.newContent)) where
  distinct := h.distinct
  once := h.once
  missing := h.missing
  made_for := h.made_for
  written_for := by
    intro id' content hid
    by_cases same : id' = id
    · subst same
      rw [Function.update_self] at hid
      exact ⟨p, hp, targets, Option.some.inj hid⟩
    · rw [Function.update_of_ne same] at hid
      exact h.written_for id' content hid

/-- Nothing is written to a file that is not there. -/
theorem written_eq_none (h : Progress base patches made written) {id : String}
    (absent : ∀ f ∈ base ++ made, f.id ≠ id) : written id = none := by
  cases hid : written id with
  | none => rfl
  | some content =>
    obtain ⟨p, _, targets, _⟩ := h.written_for id content hid
    obtain ⟨f, hf, hfid⟩ := targets.mem
    exact absurd hfid (absent f hf)

/-- The name of a file that was created means it. -/
theorem findFile?_made (h : Progress base patches made written) {f : File} (hf : f ∈ made) :
    findFile? (base ++ made) f.name = some f := by
  rw [findFile?_append_of_none (h.missing f hf)]
  cases found : findFile? made f.name with
  | none =>
    have := List.find?_eq_none.mp found f hf
    simp [File.isNamed] at this
  | some g =>
    rw [List.inj_on_of_nodup_map h.once (mem_of_findFile? found) hf (lower_name_of_findFile? found)]

/-- A file of `base` is written for a patch that means it in `base`. -/
theorem find_of_targets (h : Progress base patches made written) {f : File} (hf : f ∈ base)
    {name : String} (targets : Targets (base ++ made) name f.id) :
    findFile? base name = some f := by
  obtain ⟨g, hg, hid⟩ := targets
  obtain rfl := eq_of_id_eq h.distinct (mem_of_findFile? hg) (List.mem_append_left _ hf) hid
  cases hbase : findFile? base name with
  | some x =>
    rw [findFile?_append_of_some hbase] at hg
    exact hg
  | none =>
    -- a file that was created has another id than all of `base`
    rw [findFile?_append_of_none hbase] at hg
    have distinct := h.distinct
    rw [List.map_append] at distinct
    have apart := (List.nodup_append.mp distinct).2.2
    have mem := mem_of_findFile? hg
    exact absurd rfl (apart _ (List.mem_map_of_mem hf) _ (List.mem_map_of_mem mem))

/-! Progress under some patches, and then under others from where the first have led. -/

section Trans

variable {more : List Patch} {made' : List File} {written' : Revision}

/-- The files that are created later are not written before. -/
theorem revise_append (h : Progress base patches made written)
    (h' : Progress ((base ++ made).map (File.revise written)) more made' written') :
    (base ++ made).map (File.revise written) ++ made' =
      (base ++ (made ++ made')).map (File.revise written) := by
  have distinct := h'.distinct
  rw [List.map_append] at distinct
  have apart := (List.nodup_append.mp distinct).2.2
  have later : made'.map (File.revise written) = made' := by
    refine (List.map_congr_left fun f hf => ?_).trans (List.map_id made')
    have unwritten : written f.id = none := by
      refine h.written_eq_none fun g hg same => ?_
      refine apart g.id ?_ f.id (List.mem_map_of_mem hf) same
      exact List.mem_map.mpr ⟨g.revise written, List.mem_map_of_mem hg, rfl⟩
    simp [File.revise, unwritten]
  calc (base ++ made).map (File.revise written) ++ made'
      = (base ++ made).map (File.revise written) ++ made'.map (File.revise written) := by
        rw [later]
    _ = (base ++ (made ++ made')).map (File.revise written) := by
        rw [← List.map_append, List.append_assoc]

/-- A name means the same file whether the contents that were written before count or not. -/
theorem targets_append_iff (h : Progress base patches made written)
    (h' : Progress ((base ++ made).map (File.revise written)) more made' written')
    {name id : String} :
    Targets ((base ++ made).map (File.revise written) ++ made') name id ↔
      Targets (base ++ (made ++ made')) name id := by
  rw [h.revise_append h', targets_revise_iff]

/-- A later content counts more than an earlier one. -/
theorem trans (h : Progress base patches made written)
    (h' : Progress ((base ++ made).map (File.revise written)) more made' written') :
    Progress base (patches ++ more) (made ++ made') fun id => (written' id).or (written id) where
  distinct := by
    have := h'.distinct
    rw [h.revise_append h'] at this
    simpa [Function.comp_def] using this
  once := by
    rw [List.map_append]
    refine List.nodup_append.mpr ⟨h.once, h'.once, ?_⟩
    rintro name hname name' hname' rfl
    obtain ⟨f, hf, hfname⟩ := List.mem_map.mp hname
    obtain ⟨g, hg, rfl⟩ := List.mem_map.mp hname'
    -- a file of this name would have been found and written, not created
    have := List.find?_eq_none.mp (h'.missing g hg) (f.revise written)
      (List.mem_map_of_mem (List.mem_append_right _ hf))
    exact this (by simpa [File.isNamed] using hfname)
  missing := by
    intro f hf
    rcases List.mem_append.mp hf with hf | hf
    · exact h.missing f hf
    · have absent := h'.missing f hf
      rw [findFile?_revise, Option.map_eq_none_iff] at absent
      exact List.find?_eq_none.mpr fun x hx =>
        List.find?_eq_none.mp absent x (List.mem_append_left _ hx)
  made_for := by
    intro f hf
    rcases List.mem_append.mp hf with hf | hf
    · obtain ⟨p, hp, named⟩ := h.made_for f hf
      exact ⟨p, List.mem_append_left _ hp, named⟩
    · obtain ⟨p, hp, named⟩ := h'.made_for f hf
      exact ⟨p, List.mem_append_right _ hp, named⟩
  written_for := by
    intro id content hid
    cases hw : written' id with
    | some x =>
      obtain ⟨p, hp, means, hx⟩ := h'.written_for id x hw
      refine ⟨p, List.mem_append_right _ hp, (h.targets_append_iff h').mp means, hx.trans ?_⟩
      simpa [hw] using hid
    | none =>
      rw [hw, Option.none_or] at hid
      obtain ⟨p, hp, means, hx⟩ := h.written_for id content hid
      refine ⟨p, List.mem_append_left _ hp, ?_, hx⟩
      rw [← List.append_assoc]
      exact means.append made'

end Trans

end Progress

/-! ## Settled files -/

/-- What patches have done once every one of them has been applied: each has written to the file
that it means. -/
structure Settling (base : List File) (patches : List Patch) (made : List File)
    (written : Revision) : Prop extends Progress base patches made written where
  reached : ∀ p ∈ patches, ∃ id, Targets (base ++ made) p.fileName id ∧ written id ≠ none

/-- The files that are left of `base` once every patch has been applied. -/
def Settled (base : List File) (patches : List Patch) (files : List File) : Prop :=
  ∃ made written, Settling base patches made written ∧
    files = (base ++ made).map (File.revise written)

namespace Settled

variable {base files files' : List File} {patches more : List Patch}

/-- Without patches, the files stay as they are. -/
theorem nil (distinct : (base.map (·.id)).Nodup) : Settled base [] base := by
  refine ⟨[], fun _ => none, ⟨.start [] distinct, fun _ h => absurd h List.not_mem_nil⟩, ?_⟩
  rw [List.append_nil]
  exact (List.map_id base).symm

/-- Files that settle under some patches, and then under others, settle under both. -/
theorem trans (h : Settled base patches files) (h' : Settled files more files') :
    Settled base (patches ++ more) files' := by
  obtain ⟨made, written, hp, rfl⟩ := h
  obtain ⟨made', written', hp', rfl⟩ := h'
  have all := hp.revise_append hp'.toProgress
  refine ⟨made ++ made', _, { hp.trans hp'.toProgress with reached := ?_ }, ?_⟩
  · intro p hmem
    rcases List.mem_append.mp hmem with hmem | hmem
    · obtain ⟨id, means, hw⟩ := hp.reached p hmem
      refine ⟨id, ?_, by simp [hw]⟩
      rw [← List.append_assoc]
      exact means.append made'
    · obtain ⟨id, means, hw⟩ := hp'.reached p hmem
      exact ⟨id, (hp.targets_append_iff hp'.toProgress).mp means, by simp [hw]⟩
  · rw [all, List.map_map]
    exact List.map_congr_left fun f _ => File.revise_revise written written' f

end Settled

/-! ## Contents -/

/-- The contents of the files that have exactly the name. -/
def contentsOf (files : List File) (name : String) : List String :=
  (files.filter (·.name == name)).map (·.content)

/-- The contents of a name are taken in order. -/
theorem contentsOf_append (files more : List File) (name : String) :
    contentsOf (files ++ more) name = contentsOf files name ++ contentsOf more name := by
  simp [contentsOf]

/-- Among files whose names differ in more than case only one has a given name. -/
theorem filter_name_eq_singleton {files : List File}
    (once : (files.map fun f => Text.lower f.name).Nodup) {f : File} (hf : f ∈ files) :
    files.filter (·.name == f.name) = [f] :=
  filter_eq_singleton once hf (beq_self_eq_true _) fun _ same =>
    congrArg Text.lower (eq_of_beq same)

namespace Settling

variable {base made made' : List File} {patches : List Patch} {written written' : Revision}
variable (apart : ∀ p ∈ patches, ∀ q ∈ patches,
  Text.lower p.fileName = Text.lower q.fileName → p = q)

include apart

/-- The file that the only patch for it means has the content of the patch. -/
theorem written_eq (h : Settling base patches made written) {p : Patch} (hp : p ∈ patches)
    {id : String} (targets : Targets (base ++ made) p.fileName id) :
    written id = some p.newContent := by
  obtain ⟨id', targets', hw⟩ := h.reached p hp
  obtain rfl : id' = id := by
    obtain ⟨f, hf, rfl⟩ := targets
    obtain ⟨g, hg, rfl⟩ := targets'
    rw [Option.some.inj (hg.symm.trans hf)]
  obtain ⟨content, hcontent⟩ := Option.ne_none_iff_exists'.mp hw
  obtain ⟨q, hq, means, rfl⟩ := h.written_for _ _ hcontent
  rw [hcontent, apart q hq p hp (means.lower_eq h.distinct targets)]

/-- A file that was there has the content that it has the other way. -/
theorem written_base (h : Settling base patches made written)
    (h' : Settling base patches made' written') {f : File} (hf : f ∈ base) {content : String}
    (hw : written f.id = some content) : written' f.id = some content := by
  obtain ⟨p, hp, targets, rfl⟩ := h.written_for _ _ hw
  refine h'.written_eq apart hp (Targets.append ?_ made')
  exact ⟨f, h.find_of_targets hf targets, rfl⟩

/-- A patch for a name that was not there is the content under that name. -/
theorem contentsOf_made (h : Settling base patches made written) {p : Patch} (hp : p ∈ patches)
    (absent : findFile? base p.fileName = none) :
    contentsOf (made.map (File.revise written)) p.fileName = [p.newContent] := by
  obtain ⟨id, targets, -⟩ := h.reached p hp
  have hw := h.written_eq apart hp targets
  obtain ⟨f, hf, rfl⟩ := targets
  rw [findFile?_append_of_none absent] at hf
  have hmem := mem_of_findFile? hf
  have named : f.name = p.fileName := by
    obtain ⟨q, hq, hqname⟩ := h.made_for f hmem
    rw [← hqname, apart q hq p hp]
    rw [hqname]
    exact lower_name_of_findFile? hf
  unfold contentsOf
  rw [List.filter_map, ← named]
  simp only [Function.comp_def, File.revise_name, filter_name_eq_singleton h.once hmem]
  simp [File.revise, hw]

omit apart in
/-- Nothing is created under a name that no patch creates. -/
theorem contentsOf_made_eq_nil (h : Settling base patches made written) {name : String}
    (absent : ¬ ∃ p ∈ patches, findFile? base p.fileName = none ∧ p.fileName = name) :
    contentsOf (made.map (File.revise written)) name = [] := by
  unfold contentsOf
  rw [List.map_eq_nil_iff, List.filter_eq_nil_iff]
  intro f hf named
  obtain ⟨g, hg, rfl⟩ := List.mem_map.mp hf
  obtain ⟨p, hp, hpname⟩ := h.made_for g hg
  refine absent ⟨p, hp, ?_, hpname.trans (eq_of_beq named)⟩
  rw [hpname]
  exact h.missing g hg

end Settling

/-- **The order does not matter.** If no two patches mean the same name, then whichever way files
settle under them, the contents under every name are the same. -/
theorem Settled.contentsOf_eq {base files files' : List File} {patches : List Patch}
    (apart : ∀ p ∈ patches, ∀ q ∈ patches, Text.lower p.fileName = Text.lower q.fileName → p = q)
    (h : Settled base patches files) (h' : Settled base patches files') :
    contentsOf files = contentsOf files' := by
  obtain ⟨made, written, hs, rfl⟩ := h
  obtain ⟨made', written', hs', rfl⟩ := h'
  have there : base.map (File.revise written) = base.map (File.revise written') := by
    refine List.map_congr_left fun f hf => ?_
    have same : written f.id = written' f.id := by
      refine Option.ext fun content => ⟨?_, ?_⟩
      · exact hs.written_base apart hs' hf
      · exact hs'.written_base apart hs hf
    rw [File.revise, File.revise, same]
  funext name
  rw [List.map_append, List.map_append, contentsOf_append, contentsOf_append, there]
  congr 1
  by_cases created : ∃ p ∈ patches, findFile? base p.fileName = none ∧ p.fileName = name
  · obtain ⟨p, hp, absent, rfl⟩ := created
    rw [hs.contentsOf_made apart hp absent, hs'.contentsOf_made apart hp absent]
  · rw [hs.contentsOf_made_eq_nil created, hs'.contentsOf_made_eq_nil created]

end Workbench.Project
