import BuildQuery.Criteria.Basic
import BuildQuery.Criteria.Token

/-!
# Criteria as query text

Criteria are written with as few parentheses as keep their meaning: `or` binds loosest, then `and`,
then `not`, then leaves and groups. A criterion inside another one is put in parentheses when it
binds looser.
-/

namespace BuildQuery

/-- The text of a leaf: its field, its operator and its operand. -/
def Leaf.render (l : Leaf) : String :=
  match l.operator? with
  | some op =>
    Token.quote l.field.name ++ " " ++ op.keyword ++ " " ++ Token.quote l.operandText
  | none => "submitted by me"

namespace Criteria

/-- How tight a criterion binds. -/
def precedence : Criteria → Nat
  | or .. => 1
  | and .. => 2
  | not _ => 3
  | leaf _ | group _ => 4

/-- A text in parentheses. -/
def parenthesized (s : String) : String := "(" ++ s ++ ")"

/-- The text of a criterion inside one that binds with the given tightness. -/
def inside (outer inner : Nat) (text : String) : String :=
  if inner < outer then parenthesized text else text

/-- The text of a query. -/
def render : Criteria → String
  | leaf l => l.render
  | and l r => inside 2 l.precedence l.render ++ " and " ++ inside 2 r.precedence r.render
  | or l r => inside 1 l.precedence l.render ++ " or " ++ inside 1 r.precedence r.render
  | not c => "not " ++ inside 3 c.precedence c.render
  | group c => parenthesized c.render

end Criteria

end BuildQuery
