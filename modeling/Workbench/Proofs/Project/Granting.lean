import Workbench.Proofs.Project.Replay

/-!
# Calls that are granted

A store may refuse any call. What a call then answers is known only if it is not refused: `Grants`
says so of calls, one after another. The lemmas below say for each call what it does in either case.
Only the files and the number of those that were created matter to what calls do from then on, so
stores are compared by these (`Matches`).
-/

namespace Workbench.Project

/-! ## Answers -/

/-- An answer is known by its value, if it has one. -/
theorem eq_ok_of_toOption {α : Type} {answer : Except Failure α} {a : α}
    (h : answer.toOption = some a) : answer = .ok a := by
  cases answer with
  | error e => cases h
  | ok b => rw [Option.some.inj h]

/-- An answer without a value is a failure. -/
theorem exists_eq_error_of_toOption {α : Type} {answer : Except Failure α}
    (h : answer.toOption = none) : ∃ e, answer = .error e := by
  cases answer with
  | error e => exact ⟨e, rfl⟩
  | ok b => cases h

/-! ## Stores -/

/-- A new content for one file. -/
def Revision.single (id content : String) : Revision :=
  Function.update (fun _ => none) id (some content)

namespace Memory

/-- Of calls, one after another, none is refused. -/
def Grants : Memory → List Call → Prop
  | _, [] => True
  | m, call :: calls => m.refusal m.calls call = none ∧ Grants (m.perform call) calls

/-- The stores have the same files and have created as many. -/
structure Matches (m m' : Memory) : Prop where
  held_eq : m'.held = m.held
  made_eq : m'.made = m.made

/-- The store with a new content for one file. -/
def rewrite (id content : String) (m : Memory) : Memory :=
  { m with held := m.held.map (reviseEntry (Revision.single id content)) }

variable {m m' m'' : Memory} {id : String}

/-- Calls are granted if the first of them are, and then the others. -/
theorem grants_append {calls more : List Call} :
    m.Grants (calls ++ more) ↔ m.Grants calls ∧ (m.replay calls).Grants more := by
  induction calls generalizing m with
  | nil => simp [Grants, replay]
  | cons call calls ih =>
    rw [List.cons_append, Grants, Grants, ih, and_assoc]
    rfl

/-- A store that refuses nothing grants all calls. -/
theorem Willing.grants (h : m.Willing) (calls : List Call) : m.Grants calls := by
  induction calls generalizing m with
  | nil => trivial
  | cons call calls ih => exact ⟨h _ _, ih fun _ _ => refusal_perform m call ▸ h _ _⟩

theorem Matches.refl (m : Memory) : m.Matches m := ⟨rfl, rfl⟩

/-- Matching is passed on. -/
theorem Matches.trans (h : m.Matches m') (h' : m'.Matches m'') : m.Matches m'' :=
  ⟨h'.held_eq.trans h.held_eq, h'.made_eq.trans h.made_eq⟩

/-- Stores that match list the same files. -/
theorem Matches.listing_eq (h : m.Matches m') (project : String) :
    m'.listing project = m.listing project :=
  listing_congr h.held_eq project

/-- Stores that match hold the same ids. -/
theorem Matches.holds_eq (h : m.Matches m') (id : String) : m'.holds id = m.holds id := by
  unfold holds
  rw [h.held_eq]

/-- A file can be rewritten in both. -/
theorem Matches.rewrite (h : m.Matches m') (id content : String) :
    (m.rewrite id content).Matches (m'.rewrite id content) :=
  ⟨congrArg (List.map _) h.held_eq, h.made_eq⟩

/-- A file can be created in both, and it is the same one. -/
theorem Matches.seed (h : m.Matches m') (project name content language : String) :
    (m'.seed project name content language).1 = (m.seed project name content language).1 ∧
      (m.seed project name content language).2.Matches
        (m'.seed project name content language).2 := by
  unfold Memory.seed
  rw [h.held_eq, h.made_eq]
  exact ⟨rfl, rfl, rfl⟩

/-- The files of a project after one was rewritten. -/
theorem listing_rewrite (m : Memory) (id content project : String) :
    (m.rewrite id content).listing project =
      (m.listing project).map (File.revise (Revision.single id content)) :=
  filesOf_map_reviseEntry project _ m.held

/-- Of two contents for one file the later one counts. -/
theorem rewrite_rewrite (m : Memory) (id content content' : String) :
    (m.rewrite id content).rewrite id content' = m.rewrite id content' := by
  unfold rewrite
  rw [List.map_map]
  congr 1
  refine List.map_congr_left fun e _ => ?_
  show (e.1, (e.2.revise _).revise _) = (e.1, e.2.revise _)
  by_cases same : e.2.id = id
  · simp [File.revise, Revision.single, same]
  · simp [File.revise, Revision.single, same]

/-- Rewriting a file neither brings an id in nor takes one out. -/
theorem holds_rewrite (m : Memory) (id content other : String) :
    (m.rewrite id content).holds other = m.holds other := by
  simp [holds, rewrite, reviseEntry, Function.comp_def]

/-! ## What a call does -/

/-- A list is answered with the files of the project, unless it is refused. -/
theorem list_turn (m : Memory) (project : String) :
    m.Matches (m.perform (.list project)) ∧
      ((∃ e, m.refusal m.calls (.list project) ≠ none ∧ (m.list project).1 = .error e) ∨
        (m.list project).1 = .ok (m.listing project)) := by
  rw [perform]
  rcases list_cases m project with ⟨e, refused, h⟩ | h <;> rw [h]
  · exact ⟨⟨rfl, rfl⟩, .inl ⟨e, refused, rfl⟩⟩
  · exact ⟨⟨rfl, rfl⟩, .inr rfl⟩

/-- A file is created, unless that is refused. -/
theorem create_turn (m : Memory) (project name content language : String) :
    let call : Call := .create project name content language
    (∃ e, m.refusal m.calls call ≠ none ∧
      (m.create project name content language).1 = .error e ∧ m.Matches (m.perform call)) ∨
    ((m.create project name content language).1 =
        .ok (m.seed project name content language).1 ∧
      (m.seed project name content language).2.Matches (m.perform call)) := by
  intro call
  rw [perform]
  rcases create_cases m project name content language with ⟨e, refused, h⟩ | h <;> rw [h]
  · exact .inl ⟨e, refused, rfl, rfl, rfl⟩
  · exact .inr ⟨rfl, rfl, rfl⟩

/-- A file that is there can be given a new content. -/
theorem update_turn (held : m.holds id = true) (content : String) :
    (∃ e, m.refusal m.calls (.update id content) ≠ none ∧
      (m.update id content).1 = .error e ∧ m.Matches (m.perform (.update id content))) ∨
    ((m.update id content).1 = .ok () ∧
      (m.rewrite id content).Matches (m.perform (.update id content))) := by
  rw [perform, update]
  rcases attempt_cases m (.update id content) _ with ⟨e, refused, h⟩ | h <;> rw [h]
  · exact .inl ⟨e, refused, rfl, rfl, rfl⟩
  · have there : (m.log (.update id content)).holds id = true := held
    rw [if_pos there]
    refine .inr ⟨rfl, ?_, rfl⟩
    have same := held_update (fun _ => none) id content m.held
    have unrevised : m.held.map (reviseEntry fun _ => none) = m.held :=
      (List.map_congr_left fun _ _ => rfl).trans (List.map_id _)
    rw [unrevised] at same
    exact same

/-- A file that is there can be deleted, and no other. -/
theorem delete_turn (m : Memory) (id : String) :
    (∃ e, m.refusal m.calls (.delete id) ≠ none ∧ (m.delete id).1 = .error e) ∨
      (m.holds id = true ∧ (m.delete id).1 = .ok () ∧
        (m.perform (.delete id)).held = m.held.filter (·.2.id != id)) ∨
      (m.holds id = false ∧ (m.delete id).1 = .error (.noFile id) ∧
        m.Matches (m.perform (.delete id))) := by
  rw [perform, delete]
  rcases attempt_cases m (.delete id) _ with ⟨e, refused, h⟩ | h <;> rw [h]
  · exact .inl ⟨e, refused, rfl⟩
  · cases there : m.holds id with
    | true =>
      have there' : (m.log (.delete id)).holds id = true := there
      rw [if_pos there']
      exact .inr (.inl ⟨rfl, rfl, rfl⟩)
    | false =>
      have gone : ¬ (m.log (.delete id)).holds id = true := by
        show ¬ m.holds id = true
        simp [there]
      rw [if_neg gone]
      exact .inr (.inr ⟨rfl, rfl, rfl, rfl⟩)

/-- A file that can be given a new content is there. -/
theorem holds_of_update {content : String} (h : (m.update id content).1 = .ok ()) :
    m.holds id = true := by
  unfold update at h
  rcases attempt_cases m (.update id content) _ with ⟨e, -, h'⟩ | h' <;> rw [h'] at h
  · cases h
  · split at h
    · assumption
    · cases h

end Memory

end Workbench.Project
