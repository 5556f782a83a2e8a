import BuildQuery.Store.Predicate
import BuildQuery.Time.Writing
import BuildQuery.Text.Integer

/-!
# Predicates as SQL

A predicate is written as a condition with placeholders, together with the values for the
placeholders in order. Column names are put in double quotes part by part, where the parts are
divided by dots. An empty conjunction is written as a true condition, an empty disjunction as a
false one.
-/

namespace BuildQuery

/-- The characters with every occurrence of one of them written twice. -/
def doubled (c : Char) (cs : List Char) : List Char :=
  cs.flatMap fun d => if d = c then [d, d] else [d]

/-- A value as SQL. -/
def Value.sql : Value → String
  | text s => "'" ++ String.ofList (doubled '\'' s.toList) ++ "'"
  | int n => String.ofList (Text.writeInt64 n)
  | time t => "'" ++ t.rfc3339 ++ "'"

/-- The sign of a relation. -/
def Relation.symbol : Relation → String
  | equal => "="
  | greater => ">"
  | less => "<"

/-- A condition with placeholders, and the values for them in order. -/
structure SqlStatement where
  clause : String
  params : List Value
  deriving DecidableEq, Repr

namespace Sql

/-- A part of a column name in double quotes. -/
def quotedPart (part : List Char) : List Char := '"' :: (doubled '"' part ++ ['"'])

/-- A column name, each of its dotted parts in double quotes. -/
def identifier (column : String) : String :=
  String.ofList (['.'].intercalate ((column.toList.splitOn '.').map quotedPart))

/-- Conditions in parentheses with a connective between each two; `empty` stands for none. -/
def joined (connective empty : String) (clauses : List String) : String :=
  if clauses.isEmpty then empty else "(" ++ String.intercalate connective clauses ++ ")"

mutual

/-- The condition that a predicate is written as. -/
def clause : Predicate → String
  | .always => "1 = 1"
  | .never => "1 = 0"
  | .isNull column => identifier column ++ " IS NULL"
  | .like column _ => "LOWER(" ++ identifier column ++ ") LIKE ? ESCAPE '\\'"
  | .compare column relation _ => identifier column ++ " " ++ relation.symbol ++ " ?"
  | .oneOf column values =>
    "LOWER(" ++ identifier column ++ ") IN (" ++
      String.intercalate ", " (values.map fun _ => "?") ++ ")"
  | .and parts => joined " AND " "1 = 1" (clauses parts)
  | .or parts => joined " OR " "1 = 0" (clauses parts)
  | .not (.isNull column) => identifier column ++ " IS NOT NULL"
  | .not p => "NOT (" ++ clause p ++ ")"

/-- The conditions that predicates are written as. -/
def clauses : List Predicate → List String
  | [] => []
  | p :: ps => clause p :: clauses ps

end

mutual

/-- The values for the placeholders of a predicate, in order. -/
def params : Predicate → List Value
  | .always | .never | .isNull _ => []
  | .like _ pattern => [.text pattern]
  | .compare _ _ value => [value]
  | .oneOf _ values => values
  | .and parts | .or parts => paramsOfAll parts
  | .not p => params p

/-- The values for the placeholders of predicates, in order. -/
def paramsOfAll : List Predicate → List Value
  | [] => []
  | p :: ps => params p ++ paramsOfAll ps

end

end Sql

namespace SqlStatement

/-- A predicate as SQL. -/
def ofPredicate (p : Predicate) : SqlStatement := ⟨Sql.clause p, Sql.params p⟩

/-- The statement as text, with the values for its placeholders in a remark. -/
def render (s : SqlStatement) : String :=
  if s.params.isEmpty then s.clause
  else s.clause ++ " -- [" ++ String.intercalate ", " (s.params.map Value.sql) ++ "]"

end SqlStatement

end BuildQuery
