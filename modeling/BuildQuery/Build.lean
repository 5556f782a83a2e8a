import BuildQuery.Json.Reading
import BuildQuery.Json.Writing
import BuildQuery.Status
import BuildQuery.Time.Reading
import BuildQuery.Time.Writing
import BuildQuery.Value

/-!
# Builds

A build is the entity that a continuous integration server records: every field but the version,
the branch, the tag and the submitter is always there. Builds are kept as JSON objects with one
member for each field; members of other names are ignored, and a field that may be absent may be
left out or null.
-/

namespace BuildQuery

/-- A build of a project. -/
structure Build where
  project : String
  number : Int64
  job : String
  version? : Option String
  branch? : Option String
  tag? : Option String
  status : Status
  submitter? : Option String
  submitDate : Timestamp
  deriving DecidableEq, Repr

namespace Build

/-- The values of a build by field. -/
def entity (b : Build) : Entity
  | .project => some (.text b.project)
  | .number => some (.int b.number)
  | .job => some (.text b.job)
  | .version => b.version?.map .text
  | .branch => b.branch?.map .text
  | .tag => b.tag?.map .text
  | .status => some (.text b.status.name)
  | .submitter => b.submitter?.map .text
  | .submitDate => some (.time b.submitDate)

/-! ## Reading -/

/-- Text that may be null. -/
def nullableText? : Json → Option (Option String)
  | .null => some none
  | j => j.text?.map some

/-- A status by its key, or by an object of the key alone with nothing in it. -/
def status? : Json → Option Status
  | .object [(name, .null)] => (Json.chars? name).bind fun cs => Status.ofKey? (String.ofList cs)
  | j => j.text?.bind Status.ofKey?

/-- A point in time as text. -/
def time? (j : Json) : Option Timestamp :=
  j.text?.bind fun s => Timestamp.ofLenient? s.toList

/-- The build of the values of its nine fields, in order. -/
def ofValues? : List Json → Option Build
  | [project, number, job, version, branch, tag, status, submitter, submitDate] => do
    return ⟨← project.text?, ← number.int64?, ← job.text?, ← nullableText? version,
      ← nullableText? branch, ← nullableText? tag, ← status? status, ← nullableText? submitter,
      ← time? submitDate⟩
  | _ => none

/-- The names of the members of a build, in order, with those that may be left out. -/
def memberNames : List (String × Bool) :=
  [("project", false), ("number", false), ("job", false), ("version", true), ("branch", true),
    ("tag", true), ("status", false), ("submitter", true), ("submit_date", false)]

/-- The value of a member; one that may be left out is null then. No member may be there twice. -/
def member? (members : List (String × Json)) (name : String) (optional : Bool) : Option Json :=
  match members.filter fun m => m.1 == name with
  | [] => if optional then some .null else none
  | [m] => some m.2
  | _ => none

/-- The build that a JSON value records: an object, or the values of all fields in order. -/
def ofJson? : Json → Option Build
  | .array values => ofValues? values
  | .object members => do
    let members ← members.mapM fun (name, value) => do
      return (String.ofList (← Json.chars? name), value)
    ofValues? (← memberNames.mapM fun (name, optional) => member? members name optional)
  | _ => none

/-- The build that a JSON text records. -/
def parse? (s : String) : Option Build := (Json.parse? s).bind ofJson?

/-- The builds that a JSON text records as an array. -/
def parseList? (s : String) : Option (List Build) :=
  (Json.parse? s).bind fun
    | .array elements => elements.mapM ofJson?
    | _ => none

/-! ## Writing -/

/-- The JSON text of a build, with every field. -/
def toJson (b : Build) : String :=
  Json.writeObject
    [("project", Json.writeString b.project),
      ("number", String.ofList (Text.writeInt64 b.number)),
      ("job", Json.writeString b.job),
      ("version", Json.writeString? b.version?),
      ("branch", Json.writeString? b.branch?),
      ("tag", Json.writeString? b.tag?),
      ("status", Json.writeString b.status.key),
      ("submitter", Json.writeString? b.submitter?),
      ("submit_date", Json.writeString (b.submitDate.write "Z"))]

end Build

end BuildQuery
