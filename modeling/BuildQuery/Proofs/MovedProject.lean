import BuildQuery.Proofs.Containment
import BuildQuery.Proofs.GlobMatching
import BuildQuery.Proofs.LeafWise
import BuildQuery.Proofs.LowerCase

/-!
# What a query selects after a move

A project test matches segment by segment, so segments without stars that its path and a project
have in common can be taken away from both (`pathMatches_front`). Main statement: when a project
moves, the moved query holds of what has moved along exactly when the query held of it before
(`holds_moved`).
-/

namespace BuildQuery

/-- The entity with another project. -/
def Entity.inProject (entity : Entity) (project : String) : Entity :=
  fun field => if field = .project then some (.text project) else entity field

namespace ProjectPath

/-- A path as text, from the pieces between its slashes. -/
def joined (pieces : List (List Char)) : String :=
  String.ofList ([pathSeparator].intercalate pieces)

/-- The text of a path with more pieces below it. -/
def below (path : ProjectPath) (tail : List (List Char)) : String :=
  joined (path.map Segment.chars ++ tail)

/-- Whether no segment of a path has a star. -/
def IsLiteral (path : ProjectPath) : Prop := ∀ a ∈ path, Glob.wildcard ∉ a.chars

theorem isLiteral_of_text {path : ProjectPath} (h : Glob.wildcard ∉ path.text.toList) :
    path.IsLiteral :=
  fun _ ha hc => h (mem_text_of_mem ha hc)

theorem isLiteral_ofText {s : String} (h : Glob.wildcard ∉ s.toList) : (ofText s).IsLiteral :=
  fun _ ha hc => h (mem_of_mem_ofText ha hc)

/-- There is no star in lower case either. -/
theorem IsLiteral.folded {path : ProjectPath} (h : path.IsLiteral) :
    ∀ segment ∈ path.folded, Glob.wildcard ∉ segment := by
  intro segment hs
  obtain ⟨a, ha, rfl⟩ := List.mem_map.1 hs
  rw [Segment.folded, Text.mem_lower_iff (by decide)]
  exact h a ha

theorem lower_chars (path : ProjectPath) :
    (path.map Segment.chars).map Text.lower = path.folded :=
  List.map_map

theorem separator_not_mem_of_lower {piece : List Char} {a : Segment}
    (h : Text.lower piece = a.folded) : pathSeparator ∉ piece := by
  rw [← Text.mem_lower_iff (by decide), h, Segment.folded, Text.mem_lower_iff (by decide)]
  exact a.isSegment.2.2

/-- Pieces that spell a path in some case have no separator. -/
theorem separator_not_mem_of_spelled {spelled : List (List Char)} {path : ProjectPath}
    (same : spelled.map Text.lower = path.folded) : ∀ piece ∈ spelled, pathSeparator ∉ piece := by
  intro piece hp
  have folded : Text.lower piece ∈ path.folded := same ▸ List.mem_map_of_mem hp
  obtain ⟨a, -, e⟩ := List.mem_map.1 folded
  exact separator_not_mem_of_lower e.symm

/-- The pieces of a text in lower case are those of the text in lower case. -/
theorem splitOn_lower (cs : List Char) :
    (Text.lower cs).splitOn Glob.separator = (cs.splitOn Glob.separator).map Text.lower := by
  have free : ∀ piece ∈ (cs.splitOn Glob.separator).map Text.lower, Glob.separator ∉ piece := by
    intro piece hp
    obtain ⟨raw, hr, rfl⟩ := List.mem_map.1 hp
    rw [Text.mem_lower_iff (by decide)]
    exact not_mem_of_mem_splitOn hr
  have pieces := Text.lower_intercalate (cs.splitOn Glob.separator)
  rw [show ['/'].intercalate (cs.splitOn Glob.separator) = cs from List.intercalate_splitOn _]
    at pieces
  rw [pieces]
  exact List.splitOn_intercalate _ free (mt List.map_eq_nil_iff.1 (List.splitOn_ne_nil _ _))

/-- The pieces of a path in lower case. -/
theorem splitOn_lower_joined {pieces : List (List Char)} (full : pieces ≠ [])
    (free : ∀ piece ∈ pieces, pathSeparator ∉ piece) :
    (Text.lower (joined pieces).toList).splitOn Glob.separator = pieces.map Text.lower := by
  rw [splitOn_lower, joined, String.toList_ofList]
  exact congrArg (List.map Text.lower) (List.splitOn_intercalate _ free full)

end ProjectPath

/-- A path test matches the segments of the path against the pieces of the project. -/
theorem pathMatches_joined {path : ProjectPath} (full : path ≠ []) {pieces : List (List Char)}
    (full' : pieces ≠ []) (free : ∀ piece ∈ pieces, pathSeparator ∉ piece) :
    pathMatches path.text (ProjectPath.joined pieces) =
      Glob.matchesSegments path.folded (pieces.map Text.lower) := by
  have segments : ∀ piece ∈ path.map Segment.chars, pathSeparator ∉ piece := by
    intro piece hp
    obtain ⟨a, -, rfl⟩ := List.mem_map.1 hp
    exact a.isSegment.2.2
  rw [pathMatches, Glob.isPathMatch, ProjectPath.splitOn_lower_joined full' free]
  show Glob.matchesSegments
    ((Text.lower (ProjectPath.joined (path.map Segment.chars)).toList).splitOn _) _ = _
  rw [ProjectPath.splitOn_lower_joined (mt List.map_eq_nil_iff.1 full) segments, List.map_map]
  rfl

section Pieces

variable {path front : ProjectPath} {spelled tail rest : List (List Char)}

/-- The case of the pieces makes no difference. -/
theorem pathMatches_congr {pieces pieces' : List (List Char)} (pattern : String)
    (same : pieces.map Text.lower = pieces'.map Text.lower) :
    pathMatches pattern (ProjectPath.joined pieces) =
      pathMatches pattern (ProjectPath.joined pieces') := by
  have lower : Text.lower (ProjectPath.joined pieces).toList =
      Text.lower (ProjectPath.joined pieces').toList := by
    rw [ProjectPath.joined, ProjectPath.joined, String.toList_ofList, String.toList_ofList]
    show Text.lower (['/'].intercalate pieces) = Text.lower (['/'].intercalate pieces')
    rw [Text.lower_intercalate, Text.lower_intercalate, same]
  rw [pathMatches, pathMatches, lower]

theorem separator_not_mem_of_mem_append (same : spelled.map Text.lower = front.folded)
    (free : ∀ piece ∈ tail, pathSeparator ∉ piece) :
    ∀ piece ∈ spelled ++ tail, pathSeparator ∉ piece := by
  intro piece hp
  rcases List.mem_append.1 hp with hp | hp
  · exact ProjectPath.separator_not_mem_of_spelled same piece hp
  · exact free piece hp

theorem append_ne_nil_of_spelled (same : spelled.map Text.lower = front.folded)
    (full : front ≠ []) : spelled ++ tail ≠ [] := by
  refine List.append_ne_nil_of_left_ne_nil ?_ tail
  rintro rfl
  exact ProjectPath.folded_ne_nil full same.symm

/-- Segments without stars at the front of the path test are taken away from the project too. -/
theorem pathMatches_front (literal : front.IsLiteral) (full : front ≠ [])
    (same : spelled.map Text.lower = front.folded) (free : ∀ piece ∈ tail, pathSeparator ∉ piece)
    (e : path.folded = front.folded ++ rest) :
    pathMatches path.text (ProjectPath.joined (spelled ++ tail)) =
      Glob.matchesSegments rest (tail.map Text.lower) := by
  have full' : path ≠ [] := by
    rintro rfl
    exact List.append_ne_nil_of_left_ne_nil (ProjectPath.folded_ne_nil full) rest e.symm
  rw [pathMatches_joined full' (append_ne_nil_of_spelled same full)
    (separator_not_mem_of_mem_append same free), List.map_append, same, e]
  exact Glob.matchesSegments_append literal.folded rest _

/-- A path without stars matches no project within one that it is not within itself. -/
theorem pathMatches_of_not_isWithin (literal : path.IsLiteral) (full : path ≠ [])
    (full' : front ≠ []) (outside : path.isWithin front = false)
    (same : spelled.map Text.lower = front.folded)
    (free : ∀ piece ∈ tail, pathSeparator ∉ piece) :
    pathMatches path.text (ProjectPath.joined (spelled ++ tail)) = false := by
  rw [pathMatches_joined full (append_ne_nil_of_spelled same full')
    (separator_not_mem_of_mem_append same free), Bool.eq_false_iff, ne_eq,
    Glob.matchesSegments_literal_iff literal.folded, List.map_append, same]
  intro e
  have inside : path.isWithin front = true :=
    ProjectPath.isWithin_iff.2 ⟨full', _, e⟩
  rw [outside] at inside
  contradiction

end Pieces

/-! ## Leaves -/

namespace Leaf

variable {entity : Entity} {ctx : QueryContext} {source target : ProjectPath}
  {spelled tail : List (List Char)}

theorem holds_project {t : ProjectTest} {place : String}
    (h : entity .project = some (.text place)) :
    (project t).holds entity ctx = t.operator.apply (pathMatches t.path.text place) := by
  show (project t).outcome ((project t).holdsNaturally ctx.user? (entity .project)) = _
  rw [h]
  rfl

theorem holds_inProject {t : ProjectTest} (place : String) :
    (project t).holds (entity.inProject place) ctx =
      t.operator.apply (pathMatches t.path.text place) :=
  holds_project rfl

/-- Only project tests read the project. -/
theorem holds_inProject_of_ne {l : Leaf} (h : ∀ t, l ≠ project t) (place : String) :
    l.holds (entity.inProject place) ctx = l.holds entity ctx := by
  have other : l.field ≠ .project := by
    cases l with
    | project t => exact absurd rfl (h t)
    | text t =>
      intro e
      have textual := t.textual
      rw [show t.field = .project from e] at textual
      contradiction
    | number | status | date | submittedByMe => exact nofun
  rw [holds, holds, Entity.inProject, if_neg other]

section Moved

variable (located : entity .project = some (.text (ProjectPath.joined (spelled ++ tail))))

include located

/-- Spelling the pieces of the project in another case makes no difference. -/
theorem holds_respelled (same : spelled.map Text.lower = target.folded) (l : Leaf) :
    l.holds entity ctx = l.holds (entity.inProject (target.below tail)) ctx := by
  cases l with
  | project t =>
    rw [holds_project located, holds_inProject]
    refine congrArg t.operator.apply (pathMatches_congr _ ?_)
    rw [List.map_append, List.map_append, same, target.lower_chars]
  | text | number | status | date | submittedByMe =>
    symm
    exact holds_inProject_of_ne (by rintro t ⟨⟩) _

variable (same : spelled.map Text.lower = source.folded)
  (free : ∀ piece ∈ tail, pathSeparator ∉ piece) (full' : target ≠ [])

include same free full'

/-- A test of what moves holds of the moved project when it held before. -/
theorem holds_relocate_of_isWithin (literal : source.IsLiteral) (literal' : target.IsLiteral)
    {t : ProjectTest} (within : t.path.isWithin source = true) :
    (project t).holds entity ctx =
      ((project t).relocate source target).holds (entity.inProject (target.below tail)) ctx := by
  have moved : (t.relocate source target).path.folded =
      target.folded ++ ProjectPath.folded (t.path.drop source.length) := by
    rw [Criteria.path_relocate, ProjectPath.substitute?_of_isWithin within full', Option.getD_some,
      ProjectPath.folded_append]
  have before := pathMatches_front literal (ProjectPath.isWithin_iff.1 within).1 same free
    (ProjectPath.folded_of_isWithin within)
  have after := pathMatches_front literal' full' target.lower_chars free moved
  rw [holds_project located, before, relocate, holds_inProject, Criteria.operator_relocate,
    ProjectPath.below, after]

/-- A test without stars of another project fails, before and after. -/
theorem holds_of_not_isWithin (full : source ≠ []) {t : ProjectTest} (literal : t.path.IsLiteral)
    (outside : t.path.isWithin source = false) (outside' : t.path.isWithin target = false) :
    (project t).holds entity ctx =
      (project t).holds (entity.inProject (target.below tail)) ctx := by
  rw [holds_project located, holds_inProject, ProjectPath.below,
    pathMatches_of_not_isWithin literal t.notEmpty full outside same free,
    pathMatches_of_not_isWithin literal t.notEmpty full' outside' target.lower_chars free]

/-- Every leaf that moves along holds of the moved project as it held before. -/
theorem holds_relocate (full : source ≠ []) (literal : source.IsLiteral)
    (literal' : target.IsLiteral) {l : Leaf}
    (test : ∀ t, l = project t → l.isUsing source = true ∨
      t.path.IsLiteral ∧ l.isUsing target = false) :
    l.holds entity ctx =
      (l.relocate source target).holds (entity.inProject (target.below tail)) ctx := by
  cases l with
  | project t =>
    cases h : t.path.isWithin source with
    | true => exact holds_relocate_of_isWithin located same free full' literal literal' h
    | false =>
      have using' : (project t).isUsing source = false := h
      obtain ⟨free', outside⟩ := (test t rfl).resolve_left (by rw [using']; exact nofun)
      rw [Criteria.relocate_leaf_eq_self target using']
      exact holds_of_not_isWithin located same free full' full free' h outside
  | text | number | status | date | submittedByMe =>
    symm
    exact holds_inProject_of_ne (by rintro t ⟨⟩) _

end Moved

end Leaf

namespace Criteria

/-- When a project moves, a query that moves with it selects the moved project and what is below it
as before, as long as its other project tests have no stars and are not about the new place. -/
theorem holds_moved {old new : String} (plain : Glob.wildcard ∉ old.toList)
    (plain' : Glob.wildcard ∉ new.toList) (full : ProjectPath.ofText old ≠ [])
    {target : ProjectPath} (proper : ProjectPath.normalize new = .ok target) {c : Criteria}
    (tests : ∀ t, .project t ∈ c.leaves →
      (Leaf.project t).isUsing (.ofText old) = true ∨
        Glob.wildcard ∉ t.path.text.toList ∧ (Leaf.project t).isUsing (.ofText new) = false)
    {spelled tail : List (List Char)}
    (same : spelled.map Text.lower = (ProjectPath.ofText old).folded)
    (free : ∀ piece ∈ tail, pathSeparator ∉ piece) {entity : Entity}
    (located : entity .project = some (.text (ProjectPath.joined (spelled ++ tail))))
    (ctx : QueryContext) :
    c.holds entity ctx = (c.moved old new).holds (entity.inProject (target.below tail)) ctx := by
  have full' : target ≠ [] := ProjectPath.normalize_ne_nil proper
  obtain rfl := ProjectPath.eq_ofText_of_normalize proper
  unfold moved moved?
  rw [proper]
  dsimp only
  by_cases still : ProjectPath.ofText old = ProjectPath.ofText new
  · rw [if_pos (by simp [still]), Option.getD_none, holds_eq_truth, holds_eq_truth]
    exact truth_congr fun l _ => Leaf.holds_respelled located (still ▸ same) l
  -- a query that is left alone has no leaf that the move would change
  have followed : c.holds entity ctx =
      (c.mapLeaves (Leaf.relocate (.ofText old) (.ofText new))).holds
        (entity.inProject ((ProjectPath.ofText new).below tail)) ctx := by
    rw [holds_eq_truth, holds_eq_truth, truth_mapLeaves]
    refine truth_congr fun l hl => Leaf.holds_relocate located same free full' full
      (ProjectPath.isLiteral_ofText plain) (ProjectPath.isLiteral_ofText plain') ?_
    rintro t rfl
    exact (tests t hl).imp_right fun h => ⟨ProjectPath.isLiteral_of_text h.1, h.2⟩
  cases h : c.isUsing (.ofText old) with
  | true =>
    rw [if_neg (by simp [still]), Option.getD_some, relocate_eq_mapLeaves]
    exact followed
  | false =>
    rw [if_pos (by simp), Option.getD_none, followed, mapLeaves_relocate_eq_self _ h]

/-- A project and what is below it, but not another project. -/
theorem holds_moved_of_team :
    ∃ c : Criteria, c.holds (fun _ => some (.text "TEAM/aPP/sub")) .standard = true ∧
      (c.moved "Team/App" " /org/ ").holds
        (Entity.inProject (fun _ => some (.text "TEAM/aPP/sub")) "org/sub") .standard = true := by
  let c : Criteria :=
    .and (.leaf (.project ⟨.ofText "team/app/**", ⟨.is, .natural⟩, by decide, by decide⟩))
      (.leaf (.project ⟨.ofText "ops", ⟨.is, .negated⟩, by decide, by decide⟩))
  have tests : ∀ t, .project t ∈ c.leaves →
      (Leaf.project t).isUsing (.ofText "Team/App") = true ∨ Glob.wildcard ∉ t.path.text.toList ∧
        (Leaf.project t).isUsing (.ofText " /org/ ") = false := by
    intro t ht
    rcases List.mem_cons.1 ht with e | ht
    · obtain rfl := Leaf.project.inj e
      exact .inl (by decide)
    · obtain rfl := Leaf.project.inj (List.mem_singleton.1 ht)
      exact .inr (by decide)
  have located : some (.text "TEAM/aPP/sub") = some (Value.text (ProjectPath.joined
      (["TEAM".toList, "aPP".toList] ++ ["sub".toList]))) := by decide
  have proper : ProjectPath.normalize " /org/ " = .ok (.ofText " /org/ ") := by
    unfold ProjectPath.normalize
    dsimp only
    rw [if_neg (by decide), if_neg (by decide)]
  have before : c.holds (fun _ => some (.text "TEAM/aPP/sub")) .standard = true := by decide
  have after : c.holds (fun _ => some (.text "TEAM/aPP/sub")) .standard = _ :=
    holds_moved (by decide) (by decide) (by decide) proper tests (by decide) (by decide) located _
  have place : (ProjectPath.ofText " /org/ ").below ["sub".toList] = "org/sub" := by decide
  rw [before, place] at after
  exact ⟨c, before, after.symm⟩

end Criteria

end BuildQuery
