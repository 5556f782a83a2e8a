import BuildQuery.Pattern.Glob
import BuildQuery.Store.Schema
import BuildQuery.Text.Lowercase

/-!
# Query contexts

What a query may read besides the entity: the schema of the store, the known projects, and the user
who asks.
-/

namespace BuildQuery

/-- The known projects, by their paths as they were given. -/
structure ProjectDirectory where
  paths : List String
  deriving DecidableEq, Repr

/-- Whether a project path as text matches a path glob, whatever the case of either. -/
def pathMatches (pattern path : String) : Bool :=
  Glob.isPathMatch (Text.lower pattern.toList) (Text.lower path.toList)

/-- The known paths that match a path glob. -/
def ProjectDirectory.matching (d : ProjectDirectory) (pattern : String) : List String :=
  d.paths.filter (pathMatches pattern)

/-- The surroundings of a query. -/
structure QueryContext where
  schema : Schema
  projects : ProjectDirectory
  user? : Option String

/-- The context of the standard schema without any project or user. -/
def QueryContext.standard : QueryContext := ⟨.standard, ⟨[]⟩, none⟩

end BuildQuery
