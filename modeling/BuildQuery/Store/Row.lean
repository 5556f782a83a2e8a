import BuildQuery.Pattern.Like
import BuildQuery.Store.Predicate
import BuildQuery.Store.Schema
import BuildQuery.Store.Truth
import BuildQuery.Text.Lowercase

/-!
# Rows

A row holds values in columns. A predicate is true, false or unknown of a row: a test of a column
without a value, or with a value of another kind, is unknown. Main statements: what is written to a
column is what is read from it (`get?_set_self`, `get?_set_of_ne`).
-/

namespace BuildQuery

/-- A row of a store: the latest value written to each column. -/
structure Row where
  cells : List (String × Value)
  deriving DecidableEq, Repr

namespace Row

/-- The row without values. -/
def empty : Row := ⟨[]⟩

/-- The row with a value written to a column. -/
def set (row : Row) (column : String) (value : Value) : Row := ⟨(column, value) :: row.cells⟩

/-- The value in a column. -/
def get? (row : Row) (column : String) : Option Value := row.cells.lookup column

/-- The row of an entity: its values in the columns of their fields. Where fields share a column the
last one with a value wins. -/
def ofEntity (entity : Entity) (schema : Schema) : Row :=
  schema.columns.foldl
    (fun row (field, column) =>
      match entity field with
      | some value => row.set column value
      | none => row)
    empty

@[simp] theorem get?_empty (column : String) : empty.get? column = none := rfl

@[simp] theorem get?_set_self (row : Row) (column : String) (value : Value) :
    (row.set column value).get? column = some value := by
  simp [get?, set]

theorem get?_set_of_ne (row : Row) {column other : String} (value : Value) (h : other ≠ column) :
    (row.set column value).get? other = row.get? other := by
  simp [get?, set, List.lookup_cons, beq_false_of_ne h]

end Row

/-- The value with its text in lower case. -/
def Value.folded : Value → Value
  | text s => text (Text.lowercase s)
  | v => v

namespace Predicate

/-- What `like` makes of the value of its column. -/
def likeTruth (pattern : String) : Option Value → Truth
  | some (.text s) => .ofBool (Like.isMatch pattern.toList (Text.lower s.toList))
  | _ => .unknown

/-- What `compare` makes of the value of its column. -/
def compareTruth (relation : Relation) (value : Value) : Option Value → Truth
  | some current =>
    if current.sameKind value then .ofBool (relation.holds current value) else .unknown
  | none => .unknown

/-- What `oneOf` makes of the value of its column. -/
def oneOfTruth (values : List Value) : Option Value → Truth
  | some current => .ofBool (values.contains current.folded)
  | none => .unknown

mutual

/-- What a predicate is of a row. -/
def eval (row : Row) : Predicate → Truth
  | always => .yes
  | never => .no
  | isNull column => .ofBool (row.get? column).isNone
  | like column pattern => likeTruth pattern (row.get? column)
  | compare column relation value => compareTruth relation value (row.get? column)
  | oneOf column values => oneOfTruth values (row.get? column)
  | and parts => evalAll row parts
  | or parts => evalAny row parts
  | not p => (eval row p).not

/-- What the conjunction of predicates is of a row. -/
def evalAll (row : Row) : List Predicate → Truth
  | [] => .yes
  | p :: ps => (eval row p).and (evalAll row ps)

/-- What the disjunction of predicates is of a row. -/
def evalAny (row : Row) : List Predicate → Truth
  | [] => .no
  | p :: ps => (eval row p).or (evalAny row ps)

end

/-- The places of the rows of which the predicate is true. -/
def select (p : Predicate) (rows : List Row) : List Nat :=
  (rows.zipIdx.filter fun (row, _) => p.eval row == .yes).map Prod.snd

end Predicate

end BuildQuery
