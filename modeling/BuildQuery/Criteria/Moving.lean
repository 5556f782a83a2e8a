import BuildQuery.Criteria.Basic

/-!
# Criteria after the move of a project

When a project moves, the tests of it and of the projects below it follow. A move is ignored when
the new path is not a proper one or is the old one; a query that does not refer to the old path
stays as it is.
-/

namespace BuildQuery

/-- The project test after the move of a project from one path to another. -/
def ProjectTest.relocate (t : ProjectTest) (old new : ProjectPath) : ProjectTest :=
  match h : t.path.substitute? old new with
  | some path => { t with path, notEmpty := ProjectPath.substitute?_ne_nil h }
  | none => t

namespace Leaf

/-- Whether a leaf refers to a project or to one below it. -/
def isUsing (project : ProjectPath) : Leaf → Bool
  | .project t => t.path.isWithin project
  | _ => false

/-- The leaf after the move of a project from one path to another. -/
def relocate (old new : ProjectPath) : Leaf → Leaf
  | project t => project (t.relocate old new)
  | l => l

end Leaf

namespace Criteria

/-- Whether a query refers to a project or to one below it. -/
def isUsing (c : Criteria) (project : ProjectPath) : Bool :=
  c.leaves.any fun l => l.isUsing project

/-- The query after the move of a project from one path to another. A part that does not refer to
the old path is kept as it is. -/
def relocate (old new : ProjectPath) : Criteria → Criteria
  | leaf l => leaf (l.relocate old new)
  | and l r =>
    and (if l.isUsing old then l.relocate old new else l)
      (if r.isUsing old then r.relocate old new else r)
  | or l r =>
    or (if l.isUsing old then l.relocate old new else l)
      (if r.isUsing old then r.relocate old new else r)
  | not c => not (if c.isUsing old then c.relocate old new else c)
  | group c => group (if c.isUsing old then c.relocate old new else c)

/-- The query after a move between two paths as somebody wrote them, if the move affects it. -/
def moved? (c : Criteria) (old new : String) : Option Criteria :=
  match ProjectPath.normalize new with
  | .error _ => none
  | .ok target =>
    let source := ProjectPath.ofText old
    if source = target || !c.isUsing source then none else some (c.relocate source target)

/-- The query after a move between two paths as somebody wrote them. -/
def moved (c : Criteria) (old new : String) : Criteria := (c.moved? old new).getD c

/-- The query after a move between two paths as somebody wrote them, when it is changed in place:
nothing is asked of the new path but that it has segments. -/
def movedInPlace (c : Criteria) (old new : String) : Criteria :=
  c.relocate (ProjectPath.ofText old) (ProjectPath.ofText new)

end Criteria

end BuildQuery
