import Mathlib.Data.List.Sort
import BuildQuery.Proofs.Backends
import BuildQuery.Store.Sql

/-!
# Known projects as a set

Compiling looks at the known projects in one place: a project test becomes a list of the known paths
that match, in lower case, in order and without repetition. Whether a path matches is a matter of
its lower-case form (`ProjectDirectory.mem_resolve_iff`), and a list in strictly ascending order is
given by what is in it. So neither the order of the known projects nor their spelling nor how often
they are listed can be seen in a predicate.

Main statement: under contexts with the same known projects in lower case, a query becomes the same
predicate, with the same clause and the same values (`Criteria.compile_of_sameProjects`).
-/

namespace BuildQuery

/-- Whether two directories have the same paths in lower case. -/
def ProjectDirectory.SameProjects (d d' : ProjectDirectory) : Prop :=
  ∀ s, s ∈ d.paths.map Text.lowercase ↔ s ∈ d'.paths.map Text.lowercase

theorem ProjectDirectory.SameProjects.resolve {d d' : ProjectDirectory} (same : d.SameProjects d')
    (path : ProjectPath) : d.resolve path = d'.resolve path := by
  refine (d.pairwise_resolve path).eq_of_mem_iff (d'.pairwise_resolve path) fun s => ?_
  rw [mem_resolve_iff, mem_resolve_iff, same]

/-- Whether two contexts have the same columns, the same user and the same known projects, in
whatever spelling and order. -/
structure QueryContext.SameProjects (ctx ctx' : QueryContext) : Prop where
  schema : ctx.schema = ctx'.schema
  user : ctx.user? = ctx'.user?
  projects : ctx.projects.SameProjects ctx'.projects

variable {ctx ctx' : QueryContext}

theorem QueryContext.SameProjects.naturalPredicate (same : ctx.SameProjects ctx') (column : String)
    (l : Leaf) : l.naturalPredicate ctx column = l.naturalPredicate ctx' column := by
  cases l with
  | project t => rw [Leaf.naturalPredicate, Leaf.naturalPredicate, same.projects.resolve]
  | submittedByMe => rw [Leaf.naturalPredicate, Leaf.naturalPredicate, same.user]
  | text | number | status | date => rfl

theorem QueryContext.SameProjects.compile_leaf (same : ctx.SameProjects ctx') (l : Leaf) :
    l.compile ctx = l.compile ctx' := by
  rw [Leaf.compile, Leaf.compile, same.schema]
  simp only [same.naturalPredicate]

/-- A query sees the known projects as a set of paths in lower case: contexts with the same columns
and the same user, in whose directories the same paths are left when all are put in lower case, make
the same predicate of it, or refuse it alike. So the clause and its values are the same as well. -/
theorem Criteria.compile_of_sameProjects (same : ctx.SameProjects ctx') (c : Criteria) :
    c.compile ctx = c.compile ctx' ∧
      (c.compile ctx).map SqlStatement.ofPredicate =
        (c.compile ctx').map SqlStatement.ofPredicate := by
  have compiled : c.compile ctx = c.compile ctx' := by
    induction c with
    | leaf l => exact same.compile_leaf l
    | and l r ihl ihr => rw [compile, compile, ihl, ihr]
    | or l r ihl ihr => rw [compile, compile, ihl, ihr]
    | not c ih => rw [compile, compile, ih]
    | group c ih => exact ih
  exact ⟨compiled, by rw [compiled]⟩

/-- Two projects, and the same two in other spellings and in another order, one of them three
times. -/
theorem Criteria.compile_of_sameProjects_of_two :
    let query : Criteria :=
      .and (.leaf (.project ⟨.ofText "Team/*", ⟨.is, .natural⟩, by decide, by decide⟩))
        (.not (.or (.leaf (.project ⟨.ofText "OPS", ⟨.is, .negated⟩, by decide, by decide⟩))
          (.leaf .submittedByMe)))
    let ctx : QueryContext := ⟨.standard, ⟨["Team/App", "ops"]⟩, some "ann"⟩
    let ctx' : QueryContext := ⟨.standard, ⟨["OPS", "team/app", "Ops", "ops"]⟩, some "ann"⟩
    ctx.SameProjects ctx' ∧ query.compile ctx = query.compile ctx' ∧
      ∃ p, query.compile ctx = .ok p ∧
        (SqlStatement.ofPredicate p).params = [.text "team/app", .text "ops", .text "ann"] := by
  intro query ctx ctx'
  have same : ctx.SameProjects ctx' := by
    refine ⟨rfl, rfl, fun s => ?_⟩
    have left : ctx.projects.paths.map Text.lowercase = ["team/app", "ops"] := by decide
    have right : ctx'.projects.paths.map Text.lowercase = ["ops", "team/app", "ops", "ops"] := by
      decide
    rw [left, right]
    simp [or_comm]
  exact ⟨same, (query.compile_of_sameProjects same).1, _, rfl, by decide⟩

end BuildQuery
