import BuildQuery.Criteria.Matching
import BuildQuery.Criteria.Moving
import BuildQuery.Criteria.Reading
import BuildQuery.Criteria.Writing
import BuildQuery.Sorted

/-!
# Saved queries

A registry keeps queries under their names, in the order of the names, together with the people who
are told when one matches. When a project moves, all queries that refer to it follow.
-/

namespace BuildQuery

/-- A query under a name, with its subscribers. -/
structure SavedQuery where
  name : String
  criteria : Criteria
  subscribers : List String
  deriving DecidableEq

namespace SavedQuery

/-- The saved query of a query text. -/
def parse (name query : String) (subscribers : List String) : Except QueryError SavedQuery := do
  return ⟨name, ← Criteria.parse query, subscribers⟩

/-- The saved query after a move between two paths. -/
def moved (q : SavedQuery) (old new : String) : SavedQuery :=
  { q with criteria := q.criteria.moved old new }

@[simp] theorem criteria_moved (q : SavedQuery) (old new : String) :
    (q.moved old new).criteria = q.criteria.moved old new := rfl

end SavedQuery

/-- The news for a subscriber that a query matches. -/
structure Notification where
  query : String
  subscriber : String
  deriving DecidableEq, Repr

/-- Saved queries in the order of their names. -/
structure Registry where
  queries : SortedBy SavedQuery.name

namespace Registry

/-- The registry without queries. -/
def empty : Registry := ⟨.empty⟩

/-- The query of a name. -/
def get? (r : Registry) (name : String) : Option SavedQuery := r.queries.get? name

/-- The registry with a query put in, instead of one of the same name. -/
def register (r : Registry) (q : SavedQuery) : Registry := ⟨r.queries.insert q⟩

/-- The query that is given up when one is registered. -/
def replaced? (r : Registry) (q : SavedQuery) : Option SavedQuery := r.queries.replaced? q

/-- The registry without the query of a name. -/
def remove (r : Registry) (name : String) : Registry := ⟨r.queries.erase name⟩

/-- The query that is lost when a name is removed. -/
def removed? (r : Registry) (name : String) : Option SavedQuery := r.queries.erased? name

/-- The names of the queries, in order. -/
def names (r : Registry) : List String := r.queries.names

/-- The names of the queries that satisfy a condition, in order. -/
def namesWhere (r : Registry) (p : SavedQuery → Bool) : List String :=
  (r.queries.items.filter p).map SavedQuery.name

/-- The registry after a move between two paths. -/
def move (r : Registry) (old new : String) : Registry :=
  ⟨r.queries.map (fun q => q.moved old new) fun _ => rfl⟩

/-- How many queries a move between two paths affects. -/
def moveCount (r : Registry) (old new : String) : Nat :=
  r.queries.items.countP fun q => (q.criteria.moved? old new).isSome

/-- The names of the queries that refer to a project or to one below it. -/
def usersOf (r : Registry) (project : String) : List String :=
  r.namesWhere fun q => q.criteria.isUsing (ProjectPath.ofText project)

/-- The names of the queries that hold of an entity. -/
def matching (r : Registry) (entity : Entity) (ctx : QueryContext) : List String :=
  r.namesWhere fun q => q.criteria.holds entity ctx

/-- The news about an entity, one for each subscriber of each query that holds of it. -/
def notifications (r : Registry) (entity : Entity) (ctx : QueryContext) : List Notification :=
  (r.queries.items.filter fun q => q.criteria.holds entity ctx).flatMap fun q =>
    q.subscribers.map fun s => ⟨q.name, s⟩

end Registry

end BuildQuery
