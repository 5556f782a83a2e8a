import BuildQuery.Value

/-!
# Store predicates

A predicate is a condition on the columns of a row that a store understands. The combinators keep
predicates flat: a conjunction of conjunctions is one conjunction, likewise for disjunctions, and a
negation undoes another one.
-/

namespace BuildQuery

/-- A condition on a row. -/
inductive Predicate where
  | always
  | never
  /-- The column holds no value. -/
  | isNull (column : String)
  /-- The lower-case text of the column matches a pattern of the store. -/
  | like (column pattern : String)
  | compare (column : String) (relation : Relation) (value : Value)
  /-- The value of the column, a text in lower case, is one of the given ones. -/
  | oneOf (column : String) (values : List Value)
  | and (parts : List Predicate)
  | or (parts : List Predicate)
  | not (p : Predicate)
  deriving Repr

namespace Predicate

/-- The parts of a conjunction; another predicate is its own only part. -/
def conjuncts : Predicate → List Predicate
  | and parts => parts
  | p => [p]

/-- The parts of a disjunction; another predicate is its own only part. -/
def disjuncts : Predicate → List Predicate
  | or parts => parts
  | p => [p]

/-- The conjunction of two predicates. -/
def conj (p q : Predicate) : Predicate := and (p.conjuncts ++ q.conjuncts)

/-- The disjunction of two predicates. -/
def disj (p q : Predicate) : Predicate := or (p.disjuncts ++ q.disjuncts)

/-- The negation of a predicate. -/
def negate : Predicate → Predicate
  | always => never
  | never => always
  | not p => p
  | p => not p

/-- The column holds a value. -/
def isNotNull (column : String) : Predicate := (isNull column).negate

/-- A condition that fails on a row without a value in the column, where it would be unknown. -/
def guarded (column : String) (condition : Predicate) : Predicate :=
  (isNotNull column).conj condition

end Predicate

end BuildQuery
