import BuildQuery.Registry

/-!
# The configuration of the engine

A configuration names the user who asks, overrides columns of the standard schema, lists the known
projects and defines saved queries. From it come a query context and a registry, unless it names an
unknown field, keeps two fields in one column, or holds a bad path or query.
-/

namespace BuildQuery

/-- A saved query as a configuration defines it. -/
structure QueryDefinition where
  name : String
  query : String
  subscribers : List String
  deriving DecidableEq, Repr

/-- A configuration. -/
structure Config where
  user? : Option String
  columns : SortedBy (Prod.fst : String × String → String)
  projects : List String
  queries : List QueryDefinition

/-- Why a configuration is refused. -/
inductive ConfigError where
  | unknownField (name : String)
  | sharedColumn (column : String) (first second : Field)
  | project (path : String) (fault : PathFault)
  | query (name : String) (error : QueryError)
  | duplicateQuery (name : String)
  deriving DecidableEq, Repr

/-- The wording of a refusal. -/
def ConfigError.message (e : ConfigError) : String :=
  "Configuration error: " ++ match e with
    | unknownField name => "unknown field '" ++ name ++ "' in columns"
    | sharedColumn column first second =>
      "column '" ++ column ++ "' is mapped to both '" ++ first.name ++ "' and '" ++ second.name ++
        "'"
    | project path fault => "project '" ++ path ++ "': " ++ fault.message
    | query name error => "saved query '" ++ name ++ "': " ++ error.message
    | duplicateQuery name => "saved query '" ++ name ++ "' is defined twice"

/-- The first two fields that are kept in one column: the second one is the first field whose column
an earlier field has. -/
def sharedColumn? : List (Field × String) → List (Field × String) → Option ConfigError
  | _, [] => none
  | earlier, (field, column) :: rest =>
    match earlier.find? fun e => e.2 == column with
    | some (other, _) => some (.sharedColumn column other field)
    | none => sharedColumn? ((field, column) :: earlier) rest

namespace Config

/-- The configuration that says nothing. -/
def empty : Config := ⟨none, .empty, [], []⟩

/-- The configuration for the user whom the environment names, if it names one. -/
def withUser (c : Config) (user? : Option String) : Config :=
  match user? with
  | some user => if Text.isBlankString user then c else { c with user? := some (Text.trimmed user) }
  | none => c

/-- The standard schema with columns overridden, in the order of the names of the fields. -/
def schema (c : Config) : Except ConfigError Schema :=
  c.columns.items.foldlM
    (fun schema (name, column) =>
      match Field.ofName? name with
      | some field => .ok (schema.insert field column)
      | none => .error (.unknownField name))
    Schema.standard

/-- The known projects, normalized. -/
def directory (c : Config) : Except ConfigError ProjectDirectory := do
  let paths ← c.projects.mapM fun p =>
    match ProjectPath.normalize p with
    | .ok path => .ok path.text
    | .error fault => .error (ConfigError.project p fault)
  return ⟨paths⟩

/-- The context of queries under a configuration. -/
def context (c : Config) : Except ConfigError QueryContext := do
  let schema ← c.schema
  if let some e := sharedColumn? [] schema.columns then throw e
  return ⟨schema, ← c.directory, c.user?⟩

/-- The saved queries of a configuration. -/
def registry (c : Config) : Except ConfigError Registry :=
  c.queries.foldlM
    (fun r d =>
      match SavedQuery.parse d.name d.query d.subscribers with
      | .error e => .error (.query d.name e)
      | .ok q =>
        if (r.get? d.name).isSome then .error (.duplicateQuery d.name) else .ok (r.register q))
    Registry.empty

end Config

end BuildQuery
