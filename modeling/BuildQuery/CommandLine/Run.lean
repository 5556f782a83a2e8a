import BuildQuery.Build
import BuildQuery.CommandLine.Invocation
import BuildQuery.Config.Reading
import BuildQuery.Criteria.Compiling
import BuildQuery.Environment.Basic
import BuildQuery.Store.Row
import BuildQuery.Store.Sql

/-!
# Running a command

A command prints lines, or it fails. The files that it can read and the environment are given, so
that a run is a function of them and of the arguments. First the assignments of the file `.env` are
made; then the arguments are read, then the configuration, and then the command is performed.
-/

namespace BuildQuery.CommandLine

/-- What a run can read: environment variables, the text of the file `.env`, and the texts of other
files by their paths. -/
structure Surroundings where
  environment : Environment
  assignments? : Option String
  file? : String → Option String

/-- The assignments that add to the environment. -/
def Surroundings.assignments (w : Surroundings) : List Assignment :=
  (w.assignments?.map Assignment.ofText).getD []

/-- Why a command fails. -/
inductive Failure where
  | loading (path : String)
  | reading (path : String)
  | builds (path : String)
  | config (error : ConfigError)
  | query (error : QueryError)
  deriving DecidableEq, Repr

/-- The wording of a failure. -/
def Failure.message : Failure → String
  | loading path => "Failed to load config " ++ path
  | reading path => "Failed to read " ++ path
  | builds path => "Invalid JSON in " ++ path
  | config e => e.message
  | query e => e.message

/-- The result or the failure that stands for its error. -/
def orFail {ε α : Type} (failure : ε → Failure) : Except ε α → Except Failure α
  | .ok a => .ok a
  | .error e => .error (failure e)

/-- The result, if there is one. -/
def orElseFail {α : Type} (failure : Failure) : Option α → Except Failure α
  | some a => .ok a
  | none => .error failure

/-- The variable that names the user who asks. -/
def userVariable : String := "CRITERIA_USER"

/-- The configuration in a file, or the empty one, for the user whom the environment names. -/
def loadConfig (w : Surroundings) (path? : Option String) : Except Failure Config := do
  let config ← match path? with
    | some path => orElseFail (.loading path) ((w.file? path).bind Config.parse?)
    | none => pure .empty
  return config.withUser (w.environment.get? userVariable)

/-- What a file of builds records, as `parse` reads it. -/
def readBuilds {α : Type} (w : Surroundings) (parse : String → Option α) (path : String) :
    Except Failure α := do
  orElseFail (.builds path) (parse (← orElseFail (.reading path) (w.file? path)))

/-- The criteria that a query text writes. -/
def readQuery (query : String) : Except Failure Criteria := orFail .query (Criteria.parse query)

/-- The lines that a command prints under a configuration. -/
def perform (w : Surroundings) (config : Config) (ctx : QueryContext) :
    Command → Except Failure (List String)
  | .render query => do return [(← readQuery query).render]
  | .test query path => do
    let criteria ← readQuery query
    let build ← readBuilds w Build.parse? path
    return [if criteria.holds build.entity ctx then "true" else "false"]
  | .compile query => do
    let predicate ← orFail .query ((← readQuery query).compile ctx)
    return [(SqlStatement.ofPredicate predicate).render]
  | .select query path => do
    let criteria ← readQuery query
    let builds ← readBuilds w Build.parseList? path
    let predicate ← orFail .query (criteria.compile ctx)
    let selected := predicate.select (builds.map fun b => Row.ofEntity b.entity ctx.schema)
    return selected.filterMap fun n => builds[n]?.map Build.toJson
  | .moveProject source target => do
    let registry ← orFail .config config.registry
    return (registry.move source target).queries.items.map fun q =>
      q.name ++ ": " ++ q.criteria.render
  | .usage project => do return (← orFail .config config.registry).usersOf project
  | .notify path => do
    let registry ← orFail .config config.registry
    let build ← readBuilds w Build.parse? path
    return (registry.notifications build.entity ctx).map fun n => n.query ++ " -> " ++ n.subscriber

/-- The lines that an invocation prints. -/
def Invocation.perform (w : Surroundings) (i : Invocation) : Except Failure (List String) := do
  let config ← loadConfig w i.config?
  let ctx ← orFail .config config.context
  CommandLine.perform w config ctx i.command

/-- How a run ends: the lines that it prints, a failure, a refusal of its arguments, or a variable
in `.env` that cannot be set. -/
inductive Outcome where
  | lines (printed : List String)
  | failed (failure : Failure)
  | refused (refusal : Refusal)
  | badVariable
  deriving DecidableEq, Repr

namespace Outcome

/-- The exit code of a run. -/
def code : Outcome → Nat
  | lines _ | refused .information => 0
  | failed _ => 1
  | refused .usage => 2
  | badVariable => 101

/-- What a run prints. -/
def output : Outcome → String
  | lines printed => String.join (printed.map (· ++ "\n"))
  | _ => ""

/-- What a run reports as an error. -/
def report? : Outcome → Option String
  | failed failure => some ("Error: " ++ failure.message)
  | refused .usage => some "Error: wrong arguments"
  | badVariable => some "Error: a variable cannot be set"
  | lines _ | refused .information => none

end Outcome

/-- A run with the given arguments. -/
def run (w : Surroundings) (args : List String) : Outcome :=
  match w.environment.load? w.assignments with
  | none => .badVariable
  | some environment =>
    match Invocation.read args with
    | .error refusal => .refused refusal
    | .ok i =>
      match i.perform { w with environment } with
      | .error failure => .failed failure
      | .ok printed => .lines printed

end BuildQuery.CommandLine
