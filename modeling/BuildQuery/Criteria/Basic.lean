import BuildQuery.Criteria.Leaf

/-!
# Criteria

A query is a tree of criteria over leaves. A group is a criterion that the text of the query puts in
parentheses.
-/

namespace BuildQuery

/-- A query, or a part of one. -/
inductive Criteria where
  | leaf (l : Leaf)
  | and (l r : Criteria)
  | or (l r : Criteria)
  | not (c : Criteria)
  | group (c : Criteria)
  deriving DecidableEq

namespace Criteria

/-- Every node of a tree, parents before children and left before right. -/
def nodes : Criteria → List Criteria
  | leaf l => [leaf l]
  | and l r => and l r :: (l.nodes ++ r.nodes)
  | or l r => or l r :: (l.nodes ++ r.nodes)
  | not c => not c :: c.nodes
  | group c => group c :: c.nodes

/-- The leaves of a tree from left to right. -/
def leaves : Criteria → List Leaf
  | leaf l => [l]
  | and l r | or l r => l.leaves ++ r.leaves
  | not c | group c => c.leaves

/-- The leaves are the nodes that are leaves. -/
theorem leaves_eq_filterMap_nodes (c : Criteria) :
    c.leaves = c.nodes.filterMap fun | leaf l => some l | _ => none := by
  induction c <;> simp_all [leaves, nodes]

end Criteria

end BuildQuery
