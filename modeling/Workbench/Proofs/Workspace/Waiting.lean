import Workbench.Proofs.Patch.Parsing
import Workbench.Proofs.Workspace.Crossing

/-!
# Patches that wait

Completions are parsed, patches are rejected and applied, projects are opened, and nobody waits for
the other to come to an end: a patch of an old completion may still be under way when the next
completion has long been parsed. All of them write the list of the patches that wait.

`Step` lists what can happen while operations overlap, and labels it with what it means to the
patches that wait (`Event`). `Overlaps` strings steps together and keeps their labels, newest first,
so that `latest` and `earlier` can be read off: the patches of the latest completion, and those of
the completions before. `Step.pending_eq` says what each step makes of the patches that wait, and
`Issued` that no two patches of completions have the same id; all else follows from the two
(`pending_shrinks_for_cause`).

Operations of a workspace that are carried out one at a time are runs of this kind, too
(`Workspace.Operates.overlaps`).
-/

namespace Workbench.Review

open Project (File Memory Store)

/-- A review while operations overlap: patches are being applied, and files were asked for. -/
structure Flight where
  round : Round
  /-- The projects whose files were asked for and did not arrive yet. -/
  listings : List String

namespace Flight

/-- A review of which nothing is under way. -/
def idle (v : Review) : Flight := ⟨.start v [], []⟩

def review (f : Flight) : Review := f.round.review

def withReview (v : Review) (f : Flight) : Flight :=
  { f with round := { f.round with review := v } }

/-- Patches begin to be applied, beside those that are under way. -/
def launch (patches : List Patch) (f : Flight) : Flight :=
  { f with round := { f.round with tasks := f.round.tasks ++ patches.map (⟨·, .fresh⟩) } }

/-- The files of a project are asked for. -/
def ask (project : String) (f : Flight) : Flight :=
  { f with listings := f.listings ++ [project] }

/-- A task takes a step. -/
def advance (i : ℕ) (f : Flight) : Flight :=
  { f with round := f.round.advance i }

/-- A task was carried to its end, and its patch was applied. -/
def applied (i : ℕ) (f : Flight) : Bool :=
  f.round.tasks[i]?.any (·.isApplied)

end Flight

/-- What a step means to the patches that wait. -/
inductive Event where
  | parsed (patches : List Patch)
  | opened
  | rejected (patch : Patch)
  | applied (patch : Patch)
  | other

/-- What can happen while operations overlap. -/
inductive Step (f : Flight) : Event → Flight → Prop
  | parse (text : String) :
      Step f (.parsed (f.review.parse text).1) (f.withReview (f.review.parse text).2)
  | reject (patch : Patch) : Step f (.rejected patch) (f.withReview (f.review.reject patch))
  | apply (patch : Patch) : Step f .other (f.launch [patch])
  | applyAll : Step f .other (f.launch f.review.pending)
  /-- A task that may go on takes a step, and has not applied its patch. -/
  | goOn {i : ℕ} (go : f.round.MayGo i) (unapplied : (f.advance i).applied i = false) :
      Step f .other (f.advance i)
  /-- A task that may go on takes its last step, and has applied its patch. -/
  | succeed {i : ℕ} {t : Task} (ht : f.round.tasks[i]? = some t) (go : f.round.MayGo i)
      (applied : (f.advance i).applied i = true) : Step f (.applied t.patch) (f.advance i)
  | openProject (id : String) :
      Step f .opened ((f.withReview { f.review with project := some id, pending := [] }).ask id)
  | refresh {project : String} (opened : f.review.project = some project) :
      Step f .other (f.ask project)
  /-- The store is called for files that were asked for. -/
  | list {i : ℕ} {project : String} (asked : f.listings[i]? = some project) :
      Step f .other { f.withReview (f.review.list project).2 with
        listings := f.listings.eraseIdx i }
  /-- Other clients call the store, something happens to the editor, patches are made by hand,
  listings are passed on, tasks are queued up in another order. -/
  | meanwhile (store : Store) (editor : Option Editor) (announced : List (List File)) {made : ℕ}
      (ready : List ℕ) (more : f.review.made ≤ made) :
      Step f .other { f with round := { f.round with
        ready, review := { f.review with store, editor, announced, made } } }
  /-- All tasks are done and are not looked at any more. -/
  | settle (done : ∀ t ∈ f.round.tasks, ∃ result, t.stage = .finished result) :
      Step f .other ⟨.start f.review [], f.listings⟩

/-- `Overlaps f past f'`: steps lead from `f` to `f'`. Their events are in `past`, newest first. -/
inductive Overlaps (f : Flight) : List Event → Flight → Prop
  | start : Overlaps f [] f
  | step {past : List Event} {e : Event} {f' f'' : Flight} :
      Overlaps f past f' → Step f' e f'' → Overlaps f (e :: past) f''

/-! ## Completions -/

/-- The patches that an event returned. -/
def Event.patches : Event → List Patch
  | .parsed patches => patches
  | _ => []

/-- The patches of all completions. -/
def returned (past : List Event) : List Patch :=
  past.flatMap Event.patches

/-- The patches of the latest completion since a project was opened. -/
def latest : List Event → List Patch
  | [] => []
  | .parsed patches :: _ => patches
  | .opened :: _ => []
  | .rejected _ :: past | .applied _ :: past | .other :: past => latest past

/-- The patches of all other completions. -/
def earlier : List Event → List Patch
  | [] => []
  | .parsed _ :: past | .opened :: past => returned past
  | .rejected _ :: past | .applied _ :: past | .other :: past => earlier past

/-- What was returned was returned last, or before. -/
theorem returned_eq (past : List Event) : returned past = latest past ++ earlier past := by
  induction past with
  | nil => rfl
  | cons e past ih =>
    cases e with
    | parsed patches => rfl
    | opened => rfl
    | rejected patch | applied patch | other => exact ih

/-- What an event makes of the patches that wait. -/
def Event.leaves (pending : List Patch) : Event → List Patch
  | .parsed patches => patches
  | .opened => []
  | .rejected patch | .applied patch => pending.filter (·.id != patch.id)
  | .other => pending

section Step

variable {f f' : Flight} {e : Event}

/-- The step of a task is a stride, as far as the patches are concerned. -/
theorem exists_stride {i : ℕ} (go : f.round.MayGo i) : ∃ t e, f.round.tasks[i]? = some t ∧
    Stride i t f.review f.round.locks e ∧ (f.advance i).review.pending = e.review.pending ∧
      (f.advance i).review.made = e.review.made ∧
      (f.advance i).applied i = Task.isApplied { t with stage := e.stage } := by
  obtain ⟨t, ht, unfinished, -⟩ := go
  obtain ⟨e, he, same⟩ := Round.advance_eq_after ht unfinished
  refine ⟨t, e, ht, he, congrArg (·.review.pending) same, congrArg (·.review.made) same, ?_⟩
  unfold Flight.applied Flight.advance
  rw [(Round.of_bare_eq_after same).1, getElem?_restage_self ht]
  rfl

/-- **What a step makes of the patches that wait** is told by its event. -/
theorem Step.pending_eq (h : Step f e f') :
    f'.review.pending = e.leaves f.review.pending := by
  cases h with
  | goOn go unapplied =>
    obtain ⟨t, e, -, he, pending_eq, -, applied_eq⟩ := exists_stride go
    rw [pending_eq, he.pending_eq, ← applied_eq, unapplied]
    simp [Event.leaves]
  | succeed ht go applied =>
    obtain ⟨t, e, ht', he, pending_eq, -, applied_eq⟩ := exists_stride go
    obtain rfl := Option.some.inj (ht.symm.trans ht')
    rw [pending_eq, he.pending_eq, ← applied_eq, applied]
    simp [Event.leaves, bne, Bool.beq_comm]
  | @list i project _ =>
    show (f.review.list project).2.pending = f.review.pending
    unfold Review.list
    dsimp only
    split <;> rfl
  | _ => rfl

end Step

/-! ## Ids -/

/-- The patches of completions are told apart by their ids, which were given out in turn. -/
structure Issued (past : List Event) (made : ℕ) : Prop where
  distinct : ((returned past).map (·.id)).Nodup
  given : ∀ p ∈ returned past, ∃ n ≤ made, p.id = Patch.freshId n

section Issued

variable {past later : List Event} {made : ℕ} {f f' f₀ : Flight} {e : Event} {p q : Patch}

/-- An event without patches issues nothing. -/
theorem Issued.mono {made' : ℕ} (issued : Issued past made) (silent : e.patches = [])
    (more : made ≤ made') : Issued (e :: past) made' := by
  have same : returned (e :: past) = returned past := by
    rw [returned, List.flatMap_cons, silent, List.nil_append, returned]
  refine ⟨same ▸ issued.distinct, ?_⟩
  rw [same]
  intro p hp
  obtain ⟨n, hn, id_eq⟩ := issued.given p hp
  exact ⟨n, Nat.le_trans hn more, id_eq⟩

/-- Parsing issues fresh patches. -/
theorem Issued.parse {v : Review} (issued : Issued past v.made) (text : String) :
    Issued (.parsed (v.parse text).1 :: past) (v.parse text).2.made := by
  have ids : (v.parse text).1.map (·.id) =
      (List.range' (v.made + 1) (v.parse text).1.length).map Patch.freshId :=
    Patch.map_id_parse v.made v.files text
  have numbered : ∀ p ∈ (v.parse text).1, ∃ n, v.made < n ∧ n ≤ (v.parse text).2.made ∧
      p.id = Patch.freshId n := by
    intro p hp
    have mem := List.mem_map_of_mem (f := Patch.id) hp
    rw [ids, List.mem_map] at mem
    obtain ⟨n, hn, id_eq⟩ := mem
    rw [List.mem_range'_1] at hn
    refine ⟨n, by omega, ?_, id_eq.symm⟩
    show n ≤ v.made + (v.parse text).1.length
    omega
  have split_eq : returned (.parsed (v.parse text).1 :: past) =
      (v.parse text).1 ++ returned past := List.flatMap_cons
  constructor
  · rw [split_eq, List.map_append, List.nodup_append]
    refine ⟨?_, issued.distinct, ?_⟩
    · rw [ids]
      exact List.Nodup.map Patch.freshId_injective (List.nodup_range' 1)
    · -- the numbers of the older patches are not above those that were given out
      intro id hid id' hid' same
      obtain ⟨p, hp, rfl⟩ := List.mem_map.mp hid
      obtain ⟨q, hq, rfl⟩ := List.mem_map.mp hid'
      obtain ⟨n, above, -, p_eq⟩ := numbered p hp
      obtain ⟨k, below, q_eq⟩ := issued.given q hq
      have : n = k := Patch.freshId_injective (p_eq.symm.trans (same.trans q_eq))
      omega
  · rw [split_eq]
    intro p hp
    rcases List.mem_append.mp hp with new | old
    · obtain ⟨n, -, le, id_eq⟩ := numbered p new
      exact ⟨n, le, id_eq⟩
    · obtain ⟨n, le, id_eq⟩ := issued.given p old
      exact ⟨n, Nat.le_add_right_of_le le, id_eq⟩

/-- No step of a task issues patches. -/
theorem Stride.made_eq {i : ℕ} {t : Task} {v : Review} {locks : Locks} {e : Effect}
    (h : Stride i t v locks e) : e.review.made = v.made := by
  cases h <;> rfl

/-- Each step issues as many as it says. -/
theorem Step.issued (h : Step f e f') (issued : Issued past f.review.made) :
    Issued (e :: past) f'.review.made := by
  cases h with
  | parse text => exact issued.parse text
  | goOn go _ | succeed _ go _ =>
    obtain ⟨t, e, -, he, -, made_eq, -⟩ := exists_stride go
    have same := made_eq.trans he.made_eq
    exact issued.mono rfl (Nat.le_of_eq same.symm)
  | list _ =>
    refine issued.mono rfl (Nat.le_of_eq ?_)
    show f.review.made = (f.review.list _).2.made
    unfold Review.list
    dsimp only
    split <;> rfl
  | meanwhile _ _ _ _ more => exact issued.mono rfl more
  | _ => exact issued.mono rfl (Nat.le_refl _)

/-- So does every run. -/
theorem Overlaps.issued (run : Overlaps f₀ past f) : Issued past f.review.made := by
  induction run with
  | start => exact ⟨List.nodup_nil, nofun⟩
  | step _ step ih => exact step.issued ih

/-- A run may go on where another one stops. -/
theorem Overlaps.trans (run : Overlaps f₀ past f) (rest : Overlaps f later f') :
    Overlaps f₀ (later ++ past) f' := by
  induction rest with
  | start => exact run
  | step _ step ih => exact ih.step step

/-! ## What waits -/

/-- The patches that wait come from the latest completion. -/
theorem Overlaps.pending_sublist (run : Overlaps f₀ past f) (nothing : f₀.review.pending = []) :
    f.review.pending.Sublist (latest past) := by
  induction run with
  | start =>
    rw [nothing]
    exact List.Sublist.refl _
  | @step past e f f' _ step ih =>
    rw [step.pending_eq]
    cases e with
    | parsed patches => exact List.Sublist.refl _
    | opened => exact List.Sublist.refl _
    | rejected patch | applied patch => exact List.filter_sublist.trans ih
    | other => exact ih

/-- Completions before the latest one have no patch with the id of one of its patches. -/
theorem Issued.id_ne (issued : Issued past made) (hp : p ∈ earlier past) (hq : q ∈ latest past) :
    q.id ≠ p.id := by
  have distinct := issued.distinct
  rw [returned_eq, List.map_append, List.nodup_append] at distinct
  exact distinct.2.2 _ (List.mem_map_of_mem hq) _ (List.mem_map_of_mem hp)

/-- What was returned last was returned. -/
theorem mem_returned_of_mem_latest (hp : p ∈ latest past) : p ∈ returned past := by
  rw [returned_eq]
  exact List.mem_append_left _ hp

/-- A patch of a completion that does not wait never waits again, nor does one with its id. -/
theorem Overlaps.never_back (run : Overlaps f₀ past f) (nothing : f₀.review.pending = [])
    (hp : p ∈ returned past) (gone : p ∉ f.review.pending) (rest : Overlaps f later f') :
    ∀ q ∈ f'.review.pending, q.id ≠ p.id := by
  -- what waits was returned by a completion, so a patch with the same id is the same patch
  have unique : ∀ {past : List Event} {f : Flight}, Overlaps f₀ past f → p ∈ returned past →
      p ∉ f.review.pending → ∀ q ∈ f.review.pending, q.id ≠ p.id := by
    intro past f run hp gone q hq same
    have mem := mem_returned_of_mem_latest ((run.pending_sublist nothing).mem hq)
    have := List.inj_on_of_nodup_map run.issued.distinct mem hp same
    exact gone (this ▸ hq)
  induction rest with
  | start => exact unique run hp gone
  | @step later e f' f'' rest step ih =>
    have before := run.trans rest
    have still : p ∈ returned (later ++ past) := by
      rw [returned, List.flatMap_append]
      exact List.mem_append_right _ hp
    have hp' : p ∈ returned (e :: (later ++ past)) := by
      rw [returned, List.flatMap_cons]
      exact List.mem_append_right _ still
    refine unique (before.step step) hp' ?_
    rw [step.pending_eq]
    intro back
    cases e with
    | parsed patches =>
      -- a completion returns no patch that was returned before
      have issued := (before.step step).issued
      have old : p ∈ earlier (.parsed patches :: (later ++ past)) := still
      exact issued.id_ne old back rfl
    | opened => cases back
    | rejected patch | applied patch => exact ih p (List.mem_filter.mp back).1 rfl
    | other => exact ih p back rfl

/-- An event takes away patches with its id, or all of them. -/
theorem Event.exists_of_leaves {pending : List Patch} (hp : p ∈ pending)
    (gone : p ∉ e.leaves pending) :
    (∃ q, (e = .rejected q ∨ e = .applied q) ∧ q.id = p.id) ∨
      (∃ patches, e = .parsed patches) ∨ e = .opened := by
  have same {q : Patch} (gone : p ∉ pending.filter (·.id != q.id)) : q.id = p.id := by
    by_contra other
    exact gone (List.mem_filter.mpr ⟨hp, by simpa using Ne.symm other⟩)
  cases e with
  | parsed patches => exact .inr (.inl ⟨patches, rfl⟩)
  | opened => exact .inr (.inr rfl)
  | rejected q => exact .inl ⟨q, .inl rfl, same gone⟩
  | applied q => exact .inl ⟨q, .inr rfl, same gone⟩
  | other => exact absurd hp gone

/-- **The patches that wait.** Operations overlap in any way over any store, and no patch waits at
the start. Then at all times those that wait are some of the patches of the latest completion since
a project was opened, in their order and without duplicates. A patch stops waiting only if one with
its id is rejected or was applied, or if a completion is parsed or a project opened; and it never
waits again. When a patch of an earlier completion was applied, all that wait go on waiting. A
rejection calls no store, and leaves the files and the editor as they are. -/
theorem pending_shrinks_for_cause (nothing : f₀.review.pending = [])
    (run : Overlaps f₀ past f) :
    f.review.pending.Sublist (latest past) ∧ (f.review.pending.map (·.id)).Nodup ∧
    (∀ e f', Step f e f' →
      (∀ p ∈ f.review.pending, p ∉ f'.review.pending →
        (∃ q, (e = .rejected q ∨ e = .applied q) ∧ q.id = p.id) ∨
          (∃ patches, e = .parsed patches) ∨ e = .opened) ∧
      (∀ p ∈ earlier past, e = .applied p → f'.review.pending = f.review.pending) ∧
      (∀ p, e = .rejected p → f'.review.store = f.review.store ∧
        f'.review.files = f.review.files ∧ f'.review.editor = f.review.editor ∧
        f'.review.streaming = f.review.streaming)) ∧
    ∀ p ∈ returned past, p ∉ f.review.pending → ∀ later f', Overlaps f later f' →
      ∀ q ∈ f'.review.pending, q.id ≠ p.id := by
  have sublist := run.pending_sublist nothing
  have issued := run.issued
  refine ⟨sublist, ?_, fun e f' step => ⟨?_, ?_, ?_⟩, ?_⟩
  · have distinct := issued.distinct
    rw [returned_eq, List.map_append] at distinct
    exact (List.nodup_append.mp distinct).1.sublist (sublist.map _)
  · intro p hp gone
    rw [step.pending_eq] at gone
    exact Event.exists_of_leaves hp gone
  · rintro p hp rfl
    rw [step.pending_eq]
    refine List.filter_eq_self.mpr fun q hq => ?_
    simpa using issued.id_ne hp (sublist.mem hq)
  · rintro p rfl
    cases step with
    | reject => exact ⟨rfl, rfl, rfl, rfl⟩
  · intro p hp gone later f' rest
    exact run.never_back nothing hp gone rest

/-- A patch of the first completion is overtaken by the second completion: it is applied, and the
patch of the second completion goes on waiting. -/
theorem pending_shrinks_for_cause_overtaken :
    let v := Review.start (.memory .empty) (some "site") none 2 0
    let parsed := (Flight.idle v).withReview (v.parse "```js\none\n```").2
    let claimed := (parsed.launch parsed.review.pending).advance 0
    let overtaken := claimed.withReview (claimed.review.parse "```js\ntwo\n```").2
    let updated := (overtaken.advance 0).advance 0
    overtaken.review.pending.map (·.id) = ["patch-2"] ∧
      ∃ past p, Overlaps (.idle v) past updated ∧ p.id = "patch-1" ∧
        Step updated (.applied p) (updated.advance 0) ∧
        (updated.advance 0).review.pending = updated.review.pending := by
  intro v parsed claimed overtaken updated
  let completion := (v.parse "```js\none\n```").1
  have run : Overlaps (.idle v) [.other, .other, .parsed (claimed.review.parse "```js\ntwo\n```").1,
      .other, .other, .parsed completion] updated := by
    refine .step (.step (.step (.step (.step (.step .start (.parse _)) .applyAll) (.goOn ?_ ?_))
      (.parse _)) (.goOn ?_ ?_)) (.goOn ?_ ?_)
    all_goals decide +kernel
  have ids : updated.round.tasks.map (·.patch.id) = ["patch-1"] := by decide +kernel
  have patches : updated.round.tasks.map (·.patch) = completion := by decide +kernel
  obtain ⟨t, tasks_eq, id_eq⟩ := List.map_eq_singleton_iff.mp ids
  have ht : updated.round.tasks[0]? = some t := by
    rw [tasks_eq]
    rfl
  have step : Step updated (.applied t.patch) (updated.advance 0) := by
    refine .succeed ht ?_ ?_
    all_goals decide +kernel
  have old : t.patch ∈ completion := patches ▸ List.mem_map_of_mem (List.mem_of_getElem? ht)
  have nothing : (Flight.idle v).review.pending = [] := rfl
  obtain ⟨-, -, steps, -⟩ := pending_shrinks_for_cause nothing run
  refine ⟨by decide +kernel, _, t.patch, run, id_eq, step, ?_⟩
  refine (steps _ _ step).2.1 t.patch ?_ rfl
  simpa [earlier, returned, Event.patches] using old

end Issued

/-! ## One operation at a time -/

section Sequential

variable {r r' : Round} {n : ℕ}

/-- What tasks do in an interleaving, they do while operations overlap. -/
theorem Interleaving.overlaps (go : Interleaving r n r') (listings : List String) :
    ∃ past, Overlaps ⟨r, listings⟩ past ⟨r', listings⟩ := by
  induction go with
  | start => exact ⟨[], .start⟩
  | @step n r' i _ go ih =>
    obtain ⟨past, run⟩ := ih
    cases applied : (Flight.advance i ⟨r', listings⟩).applied i with
    | false => exact ⟨_, run.step (.goOn go applied)⟩
    | true =>
      obtain ⟨t, ht, -⟩ := id go
      exact ⟨_, run.step (.succeed ht go applied)⟩
  | edit editor _ ih =>
    obtain ⟨past, run⟩ := ih
    exact ⟨_, run.step (.meanwhile _ editor _ _ (Nat.le_refl _))⟩
  | requeue ready _ ih =>
    obtain ⟨past, run⟩ := ih
    exact ⟨_, run.step (.meanwhile _ _ _ ready (Nat.le_refl _))⟩

/-- A round from its start to its end. -/
theorem Interleaving.overlaps_of_ended {v : Review} {patches : List Patch}
    (go : Interleaving (.start v patches) n r) (ended : r.Ended) :
    ∃ past, Overlaps ((Flight.idle v).launch patches) past (.idle r.review) := by
  obtain ⟨past, run⟩ := go.overlaps []
  have queued : Overlaps ((Flight.idle v).launch patches) [.other] ⟨.start v patches, []⟩ :=
    .step .start (.meanwhile _ _ _ (List.range patches.length) (Nat.le_refl _))
  have done : ∀ t ∈ r.tasks, ∃ result, t.stage = .finished result := by
    intro t ht
    exact go.done_of_ended (.start v patches) ended ht
  exact ⟨_, (queued.trans run).step (.settle done)⟩

end Sequential

end Workbench.Review

namespace Workbench.Workspace

open Review (Overlaps Flight Round Interleaving)

/-- **One operation at a time.** What an operation of a workspace makes of the review, the shell
apart, steps that may overlap make of it when nothing else is under way. -/
theorem Operates.overlaps {w w' : Workspace} {op : Operation} (h : Operates w op w')
    (apart : ∀ clock line, op ≠ .execute clock line) :
    ∃ past, Overlaps (.idle w.review) past (.idle w'.review) := by
  -- at the end of an operation the listings are passed on to the session
  have passOn (w' : Workspace) (run : ∃ past, Overlaps (.idle w.review) past (.idle w'.review)) :
      ∃ past, Overlaps (.idle w.review) past (.idle w'.mirror.review) := by
    obtain ⟨past, run⟩ := run
    rw [mirror_review]
    exact ⟨_, run.step (.meanwhile _ _ [] _ (Nat.le_refl _))⟩
  cases h with
  | openProject id name =>
    exact passOn _ ⟨_, .step (.step .start (.openProject id)) (.list (i := 0) rfl)⟩
  | refresh =>
    refine passOn { w with review := w.review.refresh.2 } ?_
    cases opened : w.review.project with
    | none =>
      rw [Review.refresh_of_none opened]
      exact ⟨_, .start⟩
    | some id =>
      have same : w.review.refresh.2 = (w.review.list id).2 := by
        unfold Review.refresh Review.openProject?
        rw [opened]
      rw [same]
      exact ⟨_, .step (.step .start (.refresh opened)) (.list (i := 0) rfl)⟩
  | parse text => exact passOn _ ⟨_, .step .start (.parse text)⟩
  | applyPatch go ended =>
    obtain ⟨past, run⟩ := go.overlaps_of_ended ended
    exact passOn _ ⟨_, Overlaps.trans (.step .start (.apply _)) run⟩
  | applyAll go ended =>
    obtain ⟨past, run⟩ := go.overlaps_of_ended ended
    exact passOn _ ⟨_, Overlaps.trans (.step .start .applyAll) run⟩
  | rejectPatch patch => exact passOn _ ⟨_, .step .start (.reject patch)⟩
  | execute clock line => exact absurd rfl (apart clock line)
  | resetTerminal =>
    refine ⟨[], ?_⟩
    unfold Workspace.resetTerminal
    split <;> exact .start

end Workbench.Workspace
