import BuildQuery.Context
import BuildQuery.Criteria.Basic

/-!
# Criteria matched against an entity

A leaf holds of an entity when its natural comparison has the outcome that its polarity asks for. A
field without a value, or with a value of another kind, never satisfies the natural comparison.
-/

namespace BuildQuery

/-- The glob of a text test, in lower case. A test for containment looks for its pattern with
anything on either side. -/
def TextTest.glob (t : TextTest) : List Char :=
  let pattern := Text.lower t.pattern.toList
  match t.operator.comparison with
  | .contains => Glob.wildcard :: (pattern ++ [Glob.wildcard])
  | _ => pattern

/-- The relation of a number to the operand that satisfies the natural comparison. -/
def Comparison.relation : Comparison → Relation
  | greaterThan | after => .greater
  | lessThan | before => .less
  | is | contains => .equal

namespace Leaf

/-- Whether the value of its field satisfies the natural comparison of a leaf. -/
def holdsNaturally (user? : Option String) : Leaf → Option Value → Bool
  | text t, some (.text s) => Glob.isMatch t.glob (Text.lower s.toList)
  | project t, some (.text s) => pathMatches t.path.text s
  | number t, some (.int n) => t.operator.comparison.relation.holds (.int n) (.int t.value)
  | status t, some v => v == .text t.status.name
  | date t, some (.time s) => t.operator.comparison.relation.holds (.time s) (.time t.time)
  | submittedByMe, some (.text s) => user? == some s
  | _, _ => false

/-- The outcome of a leaf from the outcome of its natural comparison. -/
def outcome (l : Leaf) (natural : Bool) : Bool :=
  match l.operator? with
  | some op => op.apply natural
  | none => natural

/-- Whether a leaf holds of an entity. -/
def holds (l : Leaf) (entity : Entity) (ctx : QueryContext) : Bool :=
  l.outcome (l.holdsNaturally ctx.user? (entity l.field))

end Leaf

/-- Whether a query holds of an entity. -/
def Criteria.holds (entity : Entity) (ctx : QueryContext) : Criteria → Bool
  | leaf l => l.holds entity ctx
  | and l r => l.holds entity ctx && r.holds entity ctx
  | or l r => l.holds entity ctx || r.holds entity ctx
  | not c => !c.holds entity ctx
  | group c => c.holds entity ctx

end BuildQuery
