import BuildQuery.Criteria.Matching
import BuildQuery.Criteria.Moving

/-!
# Queries leaf by leaf

Matching combines the outcomes of the leaves (`holds_eq_truth`), and a move changes the leaves alone
(`relocate_eq_mapLeaves`): the parts that a move skips hold no leaf that it would change. What is
true of each leaf carries over to the tree by `truth_congr` and `truth_mapLeaves`.
-/

namespace BuildQuery.Criteria

/-- The outcome of a query from the outcomes of its leaves. -/
def truth (f : Leaf → Bool) : Criteria → Bool
  | leaf l => f l
  | and l r => l.truth f && r.truth f
  | or l r => l.truth f || r.truth f
  | not c => !c.truth f
  | group c => c.truth f

/-- The query with every leaf changed. -/
def mapLeaves (m : Leaf → Leaf) : Criteria → Criteria
  | leaf l => leaf (m l)
  | and l r => and (l.mapLeaves m) (r.mapLeaves m)
  | or l r => or (l.mapLeaves m) (r.mapLeaves m)
  | not c => not (c.mapLeaves m)
  | group c => group (c.mapLeaves m)

theorem holds_eq_truth (c : Criteria) (entity : Entity) (ctx : QueryContext) :
    c.holds entity ctx = c.truth fun l => l.holds entity ctx := by
  induction c with
  | leaf l => rfl
  | and l r ihl ihr => rw [holds, truth, ihl, ihr]
  | or l r ihl ihr => rw [holds, truth, ihl, ihr]
  | not c ih => rw [holds, truth, ih]
  | group c ih => rw [holds, truth, ih]

/-- Only the outcomes of the leaves that a query has matter. -/
theorem truth_congr {c : Criteria} {f g : Leaf → Bool} (h : ∀ l ∈ c.leaves, f l = g l) :
    c.truth f = c.truth g := by
  induction c with
  | leaf l => exact h l (by simp [leaves])
  | and l r ihl ihr =>
    rw [truth, truth, ihl fun x hx => h x (List.mem_append_left _ hx),
      ihr fun x hx => h x (List.mem_append_right _ hx)]
  | or l r ihl ihr =>
    rw [truth, truth, ihl fun x hx => h x (List.mem_append_left _ hx),
      ihr fun x hx => h x (List.mem_append_right _ hx)]
  | not c ih => rw [truth, truth, ih h]
  | group c ih => rw [truth, truth, ih h]

theorem truth_mapLeaves (c : Criteria) (f : Leaf → Bool) (m : Leaf → Leaf) :
    (c.mapLeaves m).truth f = c.truth fun l => f (m l) := by
  induction c with
  | leaf l => rfl
  | and l r ihl ihr => rw [mapLeaves, truth, truth, ihl, ihr]
  | or l r ihl ihr => rw [mapLeaves, truth, truth, ihl, ihr]
  | not c ih => rw [mapLeaves, truth, truth, ih]
  | group c ih => rw [mapLeaves, truth, truth, ih]

theorem leaves_mapLeaves (c : Criteria) (m : Leaf → Leaf) :
    (c.mapLeaves m).leaves = c.leaves.map m := by
  induction c with
  | leaf l => rfl
  | and l r ihl ihr => rw [mapLeaves, leaves, leaves, ihl, ihr, List.map_append]
  | or l r ihl ihr => rw [mapLeaves, leaves, leaves, ihl, ihr, List.map_append]
  | not c ih => exact ih
  | group c ih => exact ih

theorem mapLeaves_mapLeaves (c : Criteria) (m m' : Leaf → Leaf) :
    (c.mapLeaves m).mapLeaves m' = c.mapLeaves fun l => m' (m l) := by
  induction c with
  | leaf l => rfl
  | and l r ihl ihr => rw [mapLeaves, mapLeaves, mapLeaves, ihl, ihr]
  | or l r ihl ihr => rw [mapLeaves, mapLeaves, mapLeaves, ihl, ihr]
  | not c ih => rw [mapLeaves, mapLeaves, mapLeaves, ih]
  | group c ih => rw [mapLeaves, mapLeaves, mapLeaves, ih]

/-- Changes that agree on the leaves of a query change it alike. -/
theorem mapLeaves_congr {c : Criteria} {m m' : Leaf → Leaf} (h : ∀ l ∈ c.leaves, m l = m' l) :
    c.mapLeaves m = c.mapLeaves m' := by
  induction c with
  | leaf l => rw [mapLeaves, mapLeaves, h l (by simp [leaves])]
  | and l r ihl ihr =>
    rw [mapLeaves, mapLeaves, ihl fun x hx => h x (List.mem_append_left _ hx),
      ihr fun x hx => h x (List.mem_append_right _ hx)]
  | or l r ihl ihr =>
    rw [mapLeaves, mapLeaves, ihl fun x hx => h x (List.mem_append_left _ hx),
      ihr fun x hx => h x (List.mem_append_right _ hx)]
  | not c ih => rw [mapLeaves, mapLeaves, ih h]
  | group c ih => rw [mapLeaves, mapLeaves, ih h]

theorem mapLeaves_id (c : Criteria) : c.mapLeaves (fun l => l) = c := by
  induction c with
  | leaf l => rfl
  | and l r ihl ihr => rw [mapLeaves, ihl, ihr]
  | or l r ihl ihr => rw [mapLeaves, ihl, ihr]
  | not c ih => rw [mapLeaves, ih]
  | group c ih => rw [mapLeaves, ih]

theorem mapLeaves_eq_self {c : Criteria} {m : Leaf → Leaf} (h : ∀ l ∈ c.leaves, m l = l) :
    c.mapLeaves m = c :=
  (mapLeaves_congr h).trans c.mapLeaves_id

/-! ## Moves -/

attribute [ext] ProjectTest

/-- The path of a project test after a move: the substituted one, or the old one. -/
theorem path_relocate (t : ProjectTest) (old new : ProjectPath) :
    (t.relocate old new).path = (t.path.substitute? old new).getD t.path := by
  unfold ProjectTest.relocate
  split
  · next e => simp only [e, Option.getD_some]
  · next e => simp only [e, Option.getD_none]

theorem operator_relocate (t : ProjectTest) (old new : ProjectPath) :
    (t.relocate old new).operator = t.operator := by
  unfold ProjectTest.relocate
  split <;> rfl

/-- A leaf that does not refer to the old path stays as it is. -/
theorem relocate_leaf_eq_self {l : Leaf} {old : ProjectPath} (new : ProjectPath)
    (h : l.isUsing old = false) : l.relocate old new = l := by
  cases l with
  | project t =>
    have none : t.path.substitute? old new = none := by
      unfold ProjectPath.substitute?
      rw [show t.path.isWithin old = false from h]
      rfl
    refine congrArg Leaf.project (ProjectTest.ext ?_ (operator_relocate t old new))
    rw [path_relocate, none, Option.getD_none]
  | text | number | status | date | submittedByMe => rfl

/-- A part that a move skips has no leaf that the move would change. -/
theorem mapLeaves_relocate_eq_self {c : Criteria} {old : ProjectPath} (new : ProjectPath)
    (h : c.isUsing old = false) : c.mapLeaves (Leaf.relocate old new) = c := by
  refine mapLeaves_eq_self fun l hl => relocate_leaf_eq_self new ?_
  simpa using List.any_eq_false.1 h l hl

/-- Whether a part is skipped or not, what is left of it is its leaf-wise change. -/
theorem ite_isUsing_eq (c : Criteria) (old new : ProjectPath)
    (ih : c.relocate old new = c.mapLeaves (Leaf.relocate old new)) :
    (if c.isUsing old then c.relocate old new else c) = c.mapLeaves (Leaf.relocate old new) := by
  by_cases h : c.isUsing old = true
  · rw [if_pos h, ih]
  · rw [if_neg h, mapLeaves_relocate_eq_self new (by simpa using h)]

/-- A move changes a query leaf by leaf. -/
theorem relocate_eq_mapLeaves (c : Criteria) (old new : ProjectPath) :
    c.relocate old new = c.mapLeaves (Leaf.relocate old new) := by
  induction c with
  | leaf l => rfl
  | and l r ihl ihr =>
    rw [relocate, mapLeaves, ite_isUsing_eq l old new ihl, ite_isUsing_eq r old new ihr]
  | or l r ihl ihr =>
    rw [relocate, mapLeaves, ite_isUsing_eq l old new ihl, ite_isUsing_eq r old new ihr]
  | not c ih => rw [relocate, mapLeaves, ite_isUsing_eq c old new ih]
  | group c ih => rw [relocate, mapLeaves, ite_isUsing_eq c old new ih]

end BuildQuery.Criteria
