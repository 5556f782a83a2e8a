import BuildQuery.Error
import BuildQuery.Status
import BuildQuery.Value
import BuildQuery.Time.Reading

/-!
# Tests of single fields

A leaf of a query tests one field. Each kind of leaf is built by a function that checks its operand
and its operator, so that a leaf that exists is well formed: its field supports its comparison, a
text pattern is not blank, a project path has segments, and a date is kept with the text that writes
it, trimmed and not blank.
-/

namespace BuildQuery

/-- Whether an operator makes a comparison that the field supports. -/
def Operator.Supports (op : Operator) (field : Field) : Prop := op.comparison ∈ field.comparisons

instance (op : Operator) (field : Field) : Decidable (op.Supports field) :=
  inferInstanceAs (Decidable (_ ∈ _))

/-- The fields that hold free text. -/
def Field.isTextual : Field → Bool
  | job | version | branch | tag | submitter => true
  | project | number | status | submitDate => false

/-- A test of a textual field against a glob. -/
structure TextTest where
  field : Field
  operator : Operator
  pattern : String
  textual : field.isTextual = true
  supports : operator.Supports field
  notBlank : Text.isBlankString pattern = false
  deriving DecidableEq

/-- A test of the project of an entity against a path glob. -/
structure ProjectTest where
  path : ProjectPath
  operator : Operator
  supports : operator.Supports .project
  notEmpty : path ≠ []
  deriving DecidableEq

/-- A test of the number of an entity. -/
structure NumberTest where
  value : Int64
  operator : Operator
  supports : operator.Supports .number
  deriving DecidableEq

/-- A test of the status of an entity. -/
structure StatusTest where
  status : Status
  operator : Operator
  supports : operator.Supports .status
  deriving DecidableEq

/-- A test of the date on which an entity was submitted. The point in time is kept with the text
that writes it. -/
structure DateTest where
  text : String
  time : Timestamp
  operator : Operator
  supports : operator.Supports .submitDate
  trimmed : Text.trimmed text = text
  notBlank : Text.isBlankString text = false
  reads : Timestamp.ofOperand? text = some time
  deriving DecidableEq

/-- A leaf of a query: a test of one field, or the test that the user who asks is the submitter. -/
inductive Leaf where
  | text (test : TextTest)
  | project (test : ProjectTest)
  | number (test : NumberTest)
  | status (test : StatusTest)
  | date (test : DateTest)
  | submittedByMe
  deriving DecidableEq

/-- The test of a textual field against a pattern, which must not be blank. -/
def TextTest.make (field : Field) (pattern : String) (op : Operator) :
    Except OperandError TextTest :=
  if h : field.isTextual = true ∧ op.Supports field then
    if b : Text.isBlankString pattern = false then
      .ok ⟨field, op, pattern, h.1, h.2, b⟩
    else .error (.empty field)
  else .error (.unsupported field op)

/-- The test of the project against the path that a text writes. -/
def ProjectTest.make (written : String) (op : Operator) : Except OperandError ProjectTest :=
  if h : op.Supports .project then
    if Text.isBlankString written then .error (.empty .project)
    else match e : ProjectPath.normalize written with
      | .error fault => .error (.invalid .project written (.path fault))
      | .ok path => .ok ⟨path, op, h, ProjectPath.normalize_ne_nil e⟩
  else .error (.unsupported .project op)

/-- The test of the number against a given one. -/
def NumberTest.make (value : Int64) (op : Operator) : Except OperandError NumberTest :=
  if h : op.Supports .number then .ok ⟨value, op, h⟩ else .error (.unsupported .number op)

/-- The text without a number sign in front. -/
def dropNumberSign : List Char → List Char
  | '#' :: cs => cs
  | cs => cs

/-- The test of the number against the one that a text writes, with or without a number sign. -/
def NumberTest.read (written : String) (op : Operator) : Except OperandError NumberTest :=
  if Text.isBlankString written then .error (.empty .number)
  else match Text.readInt64 (dropNumberSign (Text.trim written.toList)) with
    | .error fault => .error (.invalid .number written (.integer fault))
    | .ok value => NumberTest.make value op

/-- The test of the status against a given one. -/
def StatusTest.make (status : Status) (op : Operator) : Except OperandError StatusTest :=
  if h : op.Supports .status then .ok ⟨status, op, h⟩ else .error (.unsupported .status op)

/-- The test of the status against the one that a text names. -/
def StatusTest.read (written : String) (op : Operator) : Except OperandError StatusTest :=
  if Text.isBlankString written then .error (.empty .status)
  else match Status.ofName? written with
    | none => .error (.invalid .status written .unknownStatus)
    | some status => StatusTest.make status op

/-- The test of the date of submission against the point in time that a text writes. -/
def DateTest.read (written : String) (op : Operator) : Except OperandError DateTest :=
  if h : op.Supports .submitDate then
    if b : Text.isBlankString written = false then
      match e : Timestamp.ofOperand? (Text.trimmed written) with
      | none => .error (.invalid .submitDate (Text.trimmed written) .notATimestamp)
      | some time =>
        .ok ⟨Text.trimmed written, time, op, h, Text.trimmed_trimmed written,
          (Text.isBlankString_trimmed written).trans b, e⟩
    else .error (.empty .submitDate)
  else .error (.unsupported .submitDate op)

namespace Leaf

/-- The test of a field with an operator and an operand, as a query writes it. -/
def ofOperand (field : Field) (written : String) (op : Operator) : Except OperandError Leaf :=
  match field with
  | .project => (ProjectTest.make written op).map .project
  | .number => (NumberTest.read written op).map .number
  | .status => (StatusTest.read written op).map .status
  | .submitDate => (DateTest.read written op).map .date
  | .job | .version | .branch | .tag | .submitter => (TextTest.make field written op).map .text

/-- The field that a leaf reads. -/
def field : Leaf → Field
  | text t => t.field
  | project _ => .project
  | number _ => .number
  | status _ => .status
  | date _ => .submitDate
  | submittedByMe => .submitter

/-- The operator of a leaf, if it has one. -/
def operator? : Leaf → Option Operator
  | text t => some t.operator
  | project t => some t.operator
  | number t => some t.operator
  | status t => some t.operator
  | date t => some t.operator
  | submittedByMe => none

/-- The text of the operand of a leaf. -/
def operandText : Leaf → String
  | text t => t.pattern
  | project t => t.path.text
  | number t => String.ofList (Text.writeInt64 t.value)
  | status t => t.status.name
  | date t => t.text
  | submittedByMe => ""

end Leaf

end BuildQuery
