import BuildQuery.Environment.Assignment

/-!
# Environment variables

The environment gives values to names. Each variable makes up a text, `name=value`, and is looked up
by how this text begins. Assignments add to the environment: a variable that is set already keeps
its value, and a value can refer to variables that are set before it. Main statement: a variable
that is set keeps its value (`get?_load?`).
-/

namespace BuildQuery

/-- Variables with their values. -/
structure Environment where
  bindings : List (String × String)

namespace Environment

/-- What follows a name and an equals sign in the text of a variable, if it begins with them. When
the value holds an equals sign too, the name can reach up to that one. -/
def after? (name : String) (binding : String × String) : Option String :=
  ((name ++ "=").toList.isPrefixOf? (binding.1 ++ "=" ++ binding.2).toList).map String.ofList

/-- The value of a variable. No variable has the empty name. -/
def get? (e : Environment) (name : String) : Option String :=
  if name = "" then none else e.bindings.findSome? (after? name)

/-- The environment with one more variable, which must not be set yet. -/
def add (e : Environment) (name value : String) : Environment := ⟨e.bindings ++ [(name, value)]⟩

theorem get?_add_of_some {e : Environment} {name other value v : String}
    (h : e.get? name = some v) : (e.add other value).get? name = some v := by
  unfold get? add at *
  split at h
  · simp at h
  · next nonempty =>
    rw [if_neg nonempty]
    simp [List.findSome?_append, h]

/-- The value of which the parts are given. A variable that is not set has no text. -/
def expand (e : Environment) (parts : List ValuePart) : List Char :=
  parts.flatMap fun
    | .char c => [c]
    | .reference name => ((e.get? name).getD "").toList

/-- The environment after assignments, unless a value would hold a null character. -/
def load? (e : Environment) : List Assignment → Option Environment
  | [] => some e
  | a :: as =>
    if (e.get? a.name).isSome then e.load? as
    else if (e.expand a.value).contains '\x00' then none
    else (e.add a.name (String.ofList (e.expand a.value))).load? as

/-- A variable that is set keeps its value. -/
theorem get?_load? {e e' : Environment} {as : List Assignment} {name v : String}
    (h : e.get? name = some v) (loaded : e.load? as = some e') : e'.get? name = some v := by
  induction as generalizing e with
  | nil => simp_all [load?]
  | cons a as ih =>
    rw [load?] at loaded
    split at loaded
    · exact ih h loaded
    · split at loaded
      · simp at loaded
      · exact ih (get?_add_of_some h) loaded

end Environment

end BuildQuery
