import BuildQuery.Field
import BuildQuery.Time.Timestamp

/-!
# Values and entities

A field of an entity holds a value of one of three kinds or nothing. Values of different kinds are
never compared.
-/

namespace BuildQuery

/-- A value of a field. -/
inductive Value where
  | int (n : Int64)
  | time (t : Timestamp)
  | text (s : String)
  deriving DecidableEq, Repr

namespace Value

/-- The text of a textual value. -/
def text? : Value → Option String
  | text s => some s
  | _ => none

/-- Whether two values are of one kind. -/
def sameKind : Value → Value → Bool
  | int _, int _ => true
  | time _, time _ => true
  | text _, text _ => true
  | _, _ => false

/-- Whether the first of two values of one kind comes before the second: integers by size,
timestamps by time, texts by code points. -/
def isBelow : Value → Value → Bool
  | int m, int n => decide (m < n)
  | time s, time t => s.isBefore t
  | text s, text t => decide (s < t)
  | _, _ => false

end Value

/-- How a value is compared with another one. -/
inductive Relation where
  | equal
  | greater
  | less
  deriving DecidableEq, Repr

/-- Whether a value stands in a relation to another one of its kind. -/
def Relation.holds : Relation → Value → Value → Bool
  | equal, v, w => v == w
  | greater, v, w => w.isBelow v
  | less, v, w => v.isBelow w

/-- What a query is matched against: a value, or none, for each field. -/
abbrev Entity := Field → Option Value

end BuildQuery
