import Workbench.Proofs.Tree.Locations

/-!
# What a walk says about itself

A walk answers with an absolute path: that of the node to which it leads or, where it leads to none,
that of the last node on the way. Either way the path is made of names, so that walking along it
leads to that node from anywhere, with the same path as the answer. Where a walk has failed the path
cannot be made longer: no beginning of the way that is longer leads to a node.
-/

namespace Workbench.Tree

variable {path cwd name : String} {names way q : List String} {node last : Node} {d : Directory}

/-- No walk goes on from a node by a name: the node is a file, or a directory without that entry. -/
inductive Node.Ends (name : String) : Node → Prop
  | file (a : Attributes) (content : String) : Node.Ends name (.file a content)
  | directory (a : Attributes) (entries : Branch) (missing : Entries.lookup name entries = none) :
      Node.Ends name (.directory a entries)

/-! ## The longest beginning -/

/-- A way that leads to no node has a last node, from which no walk goes on by the next name. -/
theorem exists_of_get?_eq_none (missing : node.get? way = none) :
    ∃ name rest last, way = reachable node way ++ name :: rest ∧
      node.get? (reachable node way) = some last ∧ last.Ends name := by
  induction way generalizing node with
  | nil => cases node <;> cases missing
  | cons name way ih =>
    cases node with
    | file a content => exact ⟨name, way, .file a content, rfl, rfl, .file a content⟩
    | directory a entries =>
      rw [Node.get?] at missing
      rw [reachable]
      cases held : Entries.lookup name entries with
      | none => exact ⟨name, way, .directory a entries, rfl, rfl, .directory a entries held⟩
      | some child =>
        rw [held] at missing
        obtain ⟨next, rest, last, whole, there, ends⟩ := ih missing
        refine ⟨next, rest, last, congrArg (name :: ·) whole, ?_, ends⟩
        dsimp only
        rw [Node.get?, held]
        exact there

/-- No longer beginning of the way leads to a node. -/
theorem prefix_reachable (begins : q <+: way) (there : (node.get? q).isSome = true) :
    q <+: reachable node way := by
  induction way generalizing node q with
  | nil => exact List.prefix_nil.mp begins ▸ List.nil_prefix
  | cons name way ih =>
    cases q with
    | nil => exact List.nil_prefix
    | cons other q =>
      obtain ⟨rfl, inside⟩ := List.cons_prefix_cons.mp begins
      cases node with
      | file a content => cases there
      | directory a entries =>
        rw [Node.get?] at there
        rw [reachable]
        cases held : Entries.lookup other entries with
        | none =>
          rw [held] at there
          cases there
        | some child =>
          rw [held] at there
          exact List.cons_prefix_cons.mpr ⟨rfl, ih inside there⟩

/-! ## Where walks start -/

/-- A path that starts at the root or at home stands for the same path, seen from anywhere. -/
theorem normalize_of_fixed (fixed : path.toList.head? = some '/' ∨ path.toList.head? = some '~')
    (cwd cwd' : String) : normalize path cwd = normalize path cwd' := by
  rcases fixed with root | home
  · rw [normalize, normalize, rawSegments_of_root root, rawSegments_of_root root]
  · obtain ⟨rest, text⟩ := List.head?_eq_some_iff.mp home
    rw [normalize, normalize, rawSegments_of_home text, rawSegments_of_home text]

/-- Where a walk leads depends on the normal form of the path alone. -/
theorem resolve_congr {path' cwd' : String} (given : path ≠ "") (given' : path' ≠ "")
    (same : normalize path cwd = normalize path' cwd') :
    resolve path cwd d = resolve path' cwd' d := by
  cases there : d.get? (normalize path cwd) with
  | none => rw [resolve_of_get?_none given there, resolve_of_get?_none given' (same ▸ there), same]
  | some node =>
    rw [resolve_of_get?_some given there, resolve_of_get?_some given' (same ▸ there), same]

/-! ## Paths behind paths -/

/-- Dots can be taken out of the first segments before others follow. -/
theorem withoutDots_append (raw below : List String) :
    withoutDots (raw ++ below) = withoutDots (withoutDots raw ++ below) := by
  have first : (withoutDots raw).foldl pushSegment [] = raw.foldl pushSegment [] := by
    rw [foldl_pushSegment fun s hs => (mem_withoutDots hs).2, List.append_nil, withoutDots,
      List.reverse_reverse]
  rw [withoutDots, List.foldl_append, withoutDots, List.foldl_append, first]

/-- A path below another has its segments behind those of the other. -/
theorem rawSegments_append (given : path ≠ "") (below cwd : String) :
    rawSegments (path ++ "/" ++ below) cwd = rawSegments path cwd ++ segments below := by
  obtain ⟨c, rest, text⟩ : ∃ c rest, path.toList = c :: rest :=
    List.exists_cons_of_ne_nil (by simpa using given)
  have whole : (path ++ "/" ++ below).toList = c :: (rest ++ '/' :: below.toList) := by
    rw [String.toList_append, String.toList_append, text, List.append_assoc]
    rfl
  by_cases root : c = '/'
  · rw [rawSegments_of_root (by rw [whole, root, List.head?_cons]),
      rawSegments_of_root (by rw [text, root, List.head?_cons]), segments_append]
  by_cases home : c = '~'
  · subst home
    have tail : String.ofList (rest ++ '/' :: below.toList) =
        String.ofList rest ++ "/" ++ below := by
      rw [← String.toList_inj, String.toList_append, String.toList_append, String.toList_ofList,
        String.toList_ofList, List.append_assoc]
      rfl
    rw [rawSegments_of_home whole, rawSegments_of_home text, tail, segments_append,
      List.append_assoc]
  · rw [rawSegments_of_relative (by simpa [whole] using root) (by simpa [whole] using home),
      rawSegments_of_relative (by simpa [text] using root) (by simpa [text] using home),
      segments_append, List.append_assoc]

/-- A relative path behind another one stands for what it stands for seen from the path before. -/
theorem normalize_append {below : String} (given : path ≠ "")
    (notRoot : below.toList.head? ≠ some '/') (notHome : below.toList.head? ≠ some '~')
    (cwd : String) :
    normalize (path ++ "/" ++ below) cwd = normalize below (absolute (normalize path cwd)) := by
  have parts : segments (absolute (normalize path cwd)) = normalize path cwd :=
    segments_absolute fun s hs =>
      ⟨(isName_of_mem_normalize hs).nonempty, (isName_of_mem_normalize hs).noSlash⟩
  rw [normalize, normalize, rawSegments_append given, rawSegments_of_relative notRoot notHome,
    parts, normalize, ← withoutDots_append]

/-- A single dot stands for the current directory. -/
theorem normalize_dot (h : ∀ s ∈ names, IsName s) : normalize "." (absolute names) = names := by
  have parts := segments_absolute fun s hs => ⟨(h s hs).nonempty, (h s hs).noSlash⟩
  have dot : segments "." = ["."] := rfl
  rw [normalize, rawSegments_of_relative (by decide) (by decide), parts, dot,
    withoutDots_concat_dot, withoutDots_eq_self fun s hs => ⟨(h s hs).notDot, (h s hs).notDotDot⟩]

/-! ## Walking again -/

/-- **The path that a walk answers with is canonical.** If a walk along a path that is not empty
leads to a node, the path of the answer is the text of an absolute path made of names, and walking
along it leads to the same node with the same answer, from anywhere. If it leads to no node, the
path of the answer is that of a proper beginning of the way; walking along it leads, from anywhere,
to a node from which no walk goes on by the next name of the way, and no longer beginning of the way
leads to a node. If the path starts at the root or at home, the answer is the same from anywhere. -/
theorem resolve_canonical (given : path ≠ "") (cwd : String) (d : Directory) :
    let walk := resolve path cwd d
    (∀ node, walk.node = some node →
      (∀ cwd', resolve walk.fullPath cwd' d = walk) ∧
      ∃ names, walk.fullPath = absolute names ∧ ∀ s ∈ names, IsName s) ∧
    (walk.node = none → ∃ names name rest last,
      walk.fullPath = absolute names ∧ segments walk.fullPath = names ∧
      normalize path cwd = names ++ name :: rest ∧
      (∀ cwd', resolve walk.fullPath cwd' d = ⟨some last, walk.fullPath⟩) ∧ last.Ends name ∧
      ∀ q, q <+: normalize path cwd → (d.get? q).isSome = true → q <+: names) ∧
    (path.toList.head? = some '/' ∨ path.toList.head? = some '~' →
      ∀ cwd', resolve path cwd' d = walk) := by
  intro walk
  have named : ∀ s ∈ normalize path cwd, IsName s := fun s hs => isName_of_mem_normalize hs
  refine ⟨fun node found => ?found, fun missing => ?missing, fun fixed cwd' =>
    resolve_congr given given (normalize_of_fixed fixed cwd' cwd)⟩
  case found =>
    rw [resolve_node given] at found
    have answer : walk = ⟨some node, absolute (normalize path cwd)⟩ :=
      resolve_of_get?_some given found
    rw [answer]
    exact ⟨resolve_absolute_of_isName named found, normalize path cwd, rfl, named⟩
  case missing =>
    rw [resolve_node given] at missing
    have answer : walk = ⟨none, absolute (reachable d.node (normalize path cwd))⟩ :=
      resolve_of_get?_none given missing
    obtain ⟨name, rest, last, whole, there, ends⟩ := exists_of_get?_eq_none missing
    have named' : ∀ s ∈ reachable d.node (normalize path cwd), IsName s := fun s hs =>
      named s (whole ▸ List.mem_append_left _ hs)
    rw [answer]
    refine ⟨_, name, rest, last, rfl, segments_absolute fun s hs => ?_, whole,
      resolve_absolute_of_isName named' there, ends, fun q begins => prefix_reachable begins⟩
    exact ⟨(named' s hs).nonempty, (named' s hs).noSlash⟩

/-- From a directory that is not there, a path with a tilde, dots and a doubled slash fails below
the home directory, in which the walk along its answer ends. -/
theorem resolve_canonical_below_home :
    let d := Directory.initial "user"
    let walk := resolve "~/projects/..//src/./app.js" "/no/where" d
    walk.node.isNone = true ∧ walk.fullPath = "/home/user" ∧
      (∃ last, ∀ cwd', resolve "/home/user" cwd' d = ⟨some last, "/home/user"⟩) ∧
      ∀ cwd', resolve "~/projects/..//src/./app.js" cwd' d = walk := by
  intro d walk
  have given : "~/projects/..//src/./app.js" ≠ "" := by decide
  obtain ⟨-, missing, fixed⟩ := resolve_canonical given "/no/where" d
  have failed : walk.node.isNone = true := by decide +kernel
  have answer : walk.fullPath = "/home/user" := by decide +kernel
  obtain ⟨names, name, rest, last, -, -, -, again, -⟩ :=
    missing (Option.isNone_iff_eq_none.mp failed)
  refine ⟨failed, answer, ⟨last, fun cwd' => ?_⟩, fixed (.inr (by decide +kernel))⟩
  have walked := again cwd'
  rwa [answer] at walked

end Workbench.Tree
