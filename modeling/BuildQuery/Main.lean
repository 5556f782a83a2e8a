import BuildQuery.CommandLine.Run

/-!
# The program

Everything that a run can read is read beforehand: the file `.env` of this directory or the nearest
one above it, the files that the arguments name, and the variables that are made use of.
-/

namespace BuildQuery.CommandLine

/-- The text of a file, if it can be read. -/
def readFile? (path : String) : IO (Option String) := do
  try return some (← IO.FS.readFile path) catch _ => return none

/-- The text of the first file that can be read. -/
def readFirst? : List String → IO (Option String)
  | [] => return none
  | path :: paths => do
    match ← readFile? path with
    | some text => return some text
    | none => readFirst? paths

/-- The paths of `.env` in this directory and in those above it. -/
def assignmentFiles : IO (List String) := do
  let depth := ((← IO.currentDir).toString.splitOn "/").length
  return (List.range depth).map fun up => String.join (List.replicate up "../") ++ ".env"

/-- What a run with the given arguments can read. -/
def surroundings (args : List String) : IO Surroundings := do
  let assignments? ← readFirst? (← assignmentFiles)
  let assignments := (assignments?.map Assignment.ofText).getD []
  let bindings ← (userVariable :: assignments.flatMap Assignment.names).filterMapM fun name => do
    return (← IO.getEnv name).map fun value => (name, value)
  let paths := match Invocation.read args with
    | .ok i => i.files
    | .error _ => []
  let files ← paths.filterMapM fun path => do
    return (← readFile? path).map fun text => (path, text)
  return ⟨⟨bindings⟩, assignments?, fun path => files.lookup path⟩

end BuildQuery.CommandLine

open BuildQuery.CommandLine in
def main (args : List String) : IO UInt32 := do
  let outcome := run (← surroundings args) args
  IO.print outcome.output
  if let some report := outcome.report? then IO.eprintln report
  return UInt32.ofNat outcome.code
