import BuildQuery.Proofs.Containment
import BuildQuery.Proofs.LeafWise

/-!
# Moves as changes of single paths

A move replaces the front of every path that refers to the old project and leaves all else alone
(`relocate_eq_mapLeaves_replaceFront`), whatever parts of a query it skips. Main statement: a move
in place is this change of the leaves, and a move that copies gives back the query itself, in cases
that can be told from the paths, or else makes the same change (`moves_leafwise`). Nothing refers to
the path without segments, although every path begins with it (`not_moved_from_blank_path`).
-/

namespace BuildQuery

/-! ## Paths -/

namespace ProjectPath

/-- Whether a path begins with the segments of another one, which has some, whatever the case. -/
def RefersTo (path old : ProjectPath) : Prop := old ≠ [] ∧ old.folded <+: path.folded

instance (path old : ProjectPath) : Decidable (path.RefersTo old) :=
  inferInstanceAs (Decidable (_ ∧ _))

/-- The path with the segments of `new` in place of those of `old` at its front. A path that does
not refer to `old` stays as it is, and every path does when `new` has no segments. -/
def replaceFront (path old new : ProjectPath) : ProjectPath :=
  if path.RefersTo old ∧ new ≠ [] then new ++ path.drop old.length else path

theorem replaceFront_eq_getD (path old new : ProjectPath) :
    path.replaceFront old new = (path.substitute? old new).getD path := by
  unfold replaceFront
  by_cases h : path.RefersTo old ∧ new ≠ []
  · rw [if_pos h, substitute?_of_isWithin (isWithin_iff.2 h.1) h.2, Option.getD_some]
  · have none : path.substitute? old new = none := by
      unfold substitute?
      refine if_neg fun he => h ?_
      rw [Bool.and_eq_true, Bool.not_eq_true', List.isEmpty_eq_false_iff] at he
      exact ⟨isWithin_iff.1 he.1, he.2⟩
    rw [if_neg h, none, Option.getD_none]

theorem replaceFront_ne_nil {path : ProjectPath} (h : path ≠ []) (old new : ProjectPath) :
    path.replaceFront old new ≠ [] := by
  unfold replaceFront
  split
  · next move => exact List.append_ne_nil_of_left_ne_nil move.2 _
  · exact h

end ProjectPath

/-! ## Leaves -/

namespace Leaf

/-- The leaf with the front of its path replaced, if it tests the project. -/
def replaceFront (old new : ProjectPath) : Leaf → Leaf
  | project t =>
    project { t with
      path := t.path.replaceFront old new
      notEmpty := ProjectPath.replaceFront_ne_nil t.notEmpty old new }
  | l => l

theorem relocate_eq_replaceFront (l : Leaf) (old new : ProjectPath) :
    l.relocate old new = l.replaceFront old new := by
  cases l with
  | project t =>
    refine congrArg project (ProjectTest.ext ?_ (Criteria.operator_relocate t old new))
    exact (Criteria.path_relocate t old new).trans (t.path.replaceFront_eq_getD old new).symm
  | text | number | status | date | submittedByMe => rfl

theorem isUsing_eq_false_iff {l : Leaf} {old : ProjectPath} :
    l.isUsing old = false ↔ ∀ t, l = project t → ¬ t.path.RefersTo old := by
  cases l with
  | project t =>
    rw [isUsing, ← Bool.not_eq_true, ProjectPath.isWithin_iff]
    constructor
    · rintro h _ ⟨⟩
      exact h
    · exact fun h => h t rfl
  | text | number | status | date | submittedByMe => exact iff_of_true rfl nofun

end Leaf

/-! ## Queries -/

namespace Criteria

variable {c : Criteria} {old new : ProjectPath}

theorem relocate_eq_mapLeaves_replaceFront (c : Criteria) (old new : ProjectPath) :
    c.relocate old new = c.mapLeaves (Leaf.replaceFront old new) := by
  rw [relocate_eq_mapLeaves]
  exact congrArg c.mapLeaves (funext fun l => l.relocate_eq_replaceFront old new)

theorem isUsing_eq_false_iff :
    c.isUsing old = false ↔ ∀ t, .project t ∈ c.leaves → ¬ t.path.RefersTo old := by
  simp only [isUsing, List.any_eq_false, Bool.not_eq_true, Leaf.isUsing_eq_false_iff]
  constructor
  · intro h t ht
    exact h _ ht t rfl
  · rintro h _ hl t rfl
    exact h t hl

/-- A part that does not refer to the old path has no leaf that a move would change. -/
theorem mapLeaves_replaceFront_eq_self (h : c.isUsing old = false) (new : ProjectPath) :
    c.mapLeaves (Leaf.replaceFront old new) = c := by
  rw [← relocate_eq_mapLeaves_replaceFront, relocate_eq_mapLeaves, mapLeaves_relocate_eq_self new h]

theorem moved?_eq_none_iff {c : Criteria} {old new : String} :
    c.moved? old new = none ↔ (∃ fault, ProjectPath.normalize new = .error fault) ∨
      ProjectPath.ofText old = .ofText new ∨ c.isUsing (.ofText old) = false := by
  unfold moved?
  cases h : ProjectPath.normalize new with
  | error fault => simp
  | ok target =>
    obtain rfl := ProjectPath.eq_ofText_of_normalize h
    simp [Decidable.or_iff_not_imp_left]

theorem eq_of_moved?_eq_some {c c' : Criteria} {old new : String} (h : c.moved? old new = some c') :
    c' = c.mapLeaves (Leaf.replaceFront (.ofText old) (.ofText new)) := by
  unfold moved? at h
  split at h
  · contradiction
  · next target proper =>
    dsimp only at h
    split at h
    · contradiction
    · rw [← Option.some.inj h, relocate_eq_mapLeaves_replaceFront,
        ProjectPath.eq_ofText_of_normalize proper]

/-- A move in place replaces the front of every path that refers to the old project and changes
nothing else. A move that copies gives back the query itself exactly when the new path is not a
proper one, when both paths have the same segments or when no test of the project refers to the old
path; otherwise it makes the same change as a move in place. What it skips has nothing to change. -/
theorem moves_leafwise (c : Criteria) (old new : String) :
    c.movedInPlace old new = c.mapLeaves (Leaf.replaceFront (.ofText old) (.ofText new)) ∧
      (c.moved? old new = none ↔ (∃ fault, ProjectPath.normalize new = .error fault) ∨
        ProjectPath.ofText old = .ofText new ∨
        ∀ t, .project t ∈ c.leaves → ¬ t.path.RefersTo (.ofText old)) ∧
      (c.moved? old new = none ∨
        c.moved? old new = some (c.mapLeaves (Leaf.replaceFront (.ofText old) (.ofText new)))) ∧
      ∀ part ∈ c.nodes, part.isUsing (.ofText old) = false →
        part.mapLeaves (Leaf.replaceFront (.ofText old) (.ofText new)) = part := by
  refine ⟨relocate_eq_mapLeaves_replaceFront c _ _, ?_, ?_, ?_⟩
  · rw [moved?_eq_none_iff, isUsing_eq_false_iff]
  · cases h : c.moved? old new with
    | none => exact .inl rfl
    | some c' => exact .inr (congrArg some (eq_of_moved?_eq_some h))
  · intro part _ skipped
    exact mapLeaves_replaceFront_eq_self skipped _

/-- A query of which one part is about the project that moves and the other part is not. -/
theorem moves_leafwise_of_team :
    let test (path : String) (h : ProjectPath.ofText path ≠ []) : Criteria :=
      .leaf (.project ⟨.ofText path, ⟨.is, .natural⟩, by decide, h⟩)
    let c : Criteria := .and (test "TEAM/App/**" (by decide)) (.not (test "ops/team" (by decide)))
    c.moved? "team/app" " /org/ " = some (c.movedInPlace "team/app" " /org/ ") ∧
      (Criteria.not (test "ops/team" (by decide))) ∈ c.nodes ∧
      (Criteria.not (test "ops/team" (by decide))).mapLeaves
        (Leaf.replaceFront (.ofText "team/app") (.ofText " /org/ ")) =
        Criteria.not (test "ops/team" (by decide)) := by
  intro test c
  have leafwise := moves_leafwise c "team/app" " /org/ "
  have mem : Criteria.not (test "ops/team" (by decide)) ∈ c.nodes := by decide
  have changed : c.moved? "team/app" " /org/ " ≠ none := by decide
  refine ⟨?_, mem, leafwise.2.2.2 _ mem (by decide)⟩
  rw [leafwise.1, leafwise.2.2.1.resolve_left changed]

/-- Every path begins with the path without segments, and yet nothing is put in front of a path when
that one moves. -/
theorem not_moved_from_blank_path :
    ∃ t moved : ProjectTest, (ProjectPath.ofText " / ").folded <+: t.path.folded ∧
      ProjectPath.ofText "org" ≠ [] ∧ moved.operator = t.operator ∧
      moved.path = .ofText "org" ++ t.path.drop (ProjectPath.ofText " / ").length ∧
      (leaf (.project t)).movedInPlace " / " "org" = leaf (.project t) ∧
      (leaf (.project t)).movedInPlace " / " "org" ≠ leaf (.project moved) := by
  refine ⟨⟨.ofText "team", ⟨.is, .natural⟩, by decide, by decide⟩,
    ⟨.ofText "org/team", ⟨.is, .natural⟩, by decide, by decide⟩, ?_⟩
  decide

end Criteria

end BuildQuery
