import BuildQuery.Store.Row

/-!
# Predicates evaluated part by part

A store goes through the parts of a conjunction from the first one to the last. It stops at a part
that is false and bears in mind whether it has come past an unknown one; among the parts of a
disjunction it stops at one that is true.
-/

namespace BuildQuery.Predicate

mutual

/-- What a store finds a predicate to be of a row. -/
def scan (row : Row) : Predicate → Truth
  | always => .yes
  | never => .no
  | isNull column => .ofBool (row.get? column).isNone
  | like column pattern => likeTruth pattern (row.get? column)
  | compare column relation value => compareTruth relation value (row.get? column)
  | oneOf column values => oneOfTruth values (row.get? column)
  | and parts => scanAll row .yes parts
  | or parts => scanAny row .no parts
  | not p => (scan row p).not

/-- What a store finds a conjunction to be, of which the given parts are left. -/
def scanAll (row : Row) (soFar : Truth) : List Predicate → Truth
  | [] => soFar
  | p :: ps =>
    match scan row p with
    | .no => .no
    | .unknown => scanAll row .unknown ps
    | .yes => scanAll row soFar ps

/-- What a store finds a disjunction to be, of which the given parts are left. -/
def scanAny (row : Row) (soFar : Truth) : List Predicate → Truth
  | [] => soFar
  | p :: ps =>
    match scan row p with
    | .yes => .yes
    | .unknown => scanAny row .unknown ps
    | .no => scanAny row soFar ps

end

end BuildQuery.Predicate
