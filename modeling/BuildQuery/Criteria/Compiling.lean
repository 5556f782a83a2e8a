import BuildQuery.Criteria.Matching
import BuildQuery.Sorted
import BuildQuery.Store.Predicate
import BuildQuery.Pattern.Like

/-!
# Criteria compiled for the store

A query becomes a predicate on the columns of the store. The natural comparison of a leaf is guarded
by a test for a value, so that its negation also selects rows without one. A store does not know
path globs: the known projects that match are looked up when the query is compiled. Every leaf is
compiled, so a field without a column is always found.
-/

namespace BuildQuery

/-- A predicate in the polarity of an operator. -/
def Operator.applyTo (op : Operator) (natural : Predicate) : Predicate :=
  if op.isNegated then natural.negate else natural

/-- The known paths that match a project path, in lower case, in order and without repetition. -/
def ProjectDirectory.resolve (d : ProjectDirectory) (path : ProjectPath) : List String :=
  sortedStrings ((d.matching path.text).map Text.lowercase)

namespace Leaf

/-- The predicate for the natural comparison of a leaf whose field is kept in the given column. -/
def naturalPredicate (ctx : QueryContext) (column : String) : Leaf → Predicate
  | text t => .guarded column (.like column (String.ofList (Like.ofGlob t.glob)))
  | project t =>
    let known := ctx.projects.resolve t.path
    if known.isEmpty then .never else .guarded column (.oneOf column (known.map .text))
  | number t =>
    .guarded column (.compare column t.operator.comparison.relation (.int t.value))
  | status t => .guarded column (.compare column .equal (.text t.status.name))
  | date t =>
    .guarded column (.compare column t.operator.comparison.relation (.time t.time))
  | submittedByMe =>
    match ctx.user? with
    | some user => .guarded column (.compare column .equal (.text user))
    | none => .never

/-- The predicate in the polarity of a leaf. -/
def polarize (l : Leaf) (natural : Predicate) : Predicate :=
  match l.operator? with
  | some op => op.applyTo natural
  | none => natural

/-- The predicate of a leaf. -/
def compile (l : Leaf) (ctx : QueryContext) : Except QueryError Predicate := do
  let column ← ctx.schema.column l.field
  return l.polarize (l.naturalPredicate ctx column)

end Leaf

/-- The predicate of a query. -/
def Criteria.compile (ctx : QueryContext) : Criteria → Except QueryError Predicate
  | leaf l => l.compile ctx
  | and l r => do return (← l.compile ctx).conj (← r.compile ctx)
  | or l r => do return (← l.compile ctx).disj (← r.compile ctx)
  | not c => do return (← c.compile ctx).negate
  | group c => c.compile ctx

end BuildQuery
