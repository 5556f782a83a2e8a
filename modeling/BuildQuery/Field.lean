import BuildQuery.Text.Name

/-!
# Fields

The nine fields of an entity that a query can test, in the order in which they are listed. Main
statement: every name leads back to its field (`ofName?_name`).
-/

namespace BuildQuery

/-- A field that a query can test. -/
inductive Field where
  | project
  | number
  | job
  | version
  | branch
  | tag
  | status
  | submitter
  | submitDate
  deriving DecidableEq, Repr

namespace Field

/-- Every field, in order. -/
def all : List Field :=
  [project, number, job, version, branch, tag, status, submitter, submitDate]

/-- The name of a field in query text. -/
def name : Field → String
  | project => "Project"
  | number => "Number"
  | job => "Job"
  | version => "Version"
  | branch => "Branch"
  | tag => "Tag"
  | status => "Status"
  | submitter => "Submitter"
  | submitDate => "Submit Date"

/-- The field that a name stands for, up to outer blanks and ASCII case. -/
def ofName? (written : String) : Option Field :=
  all.find? fun f => Text.namesText written f.name

theorem mem_all (f : Field) : f ∈ all := by
  cases f <;> decide

@[simp] theorem ofName?_name (f : Field) : ofName? f.name = some f := by
  cases f <;> decide

end Field

end BuildQuery
