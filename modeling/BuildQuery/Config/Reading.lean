import BuildQuery.Config.Basic
import BuildQuery.Yaml.Node

/-!
# Configurations written in YAML

A configuration is a mapping with the keys `current_user`, `columns`, `projects` and
`saved_queries`, each of which can be missing; other keys are ignored. A scalar is its text, however
it is written. A plain scalar without text stands for nothing: no entries and no elements.
-/

namespace BuildQuery

namespace Yaml.Node

/-- The text of a scalar. -/
def text? : Node → Option String
  | scalar _ text => some text
  | _ => none

/-- Whether a node stands for nothing. -/
def isNothing : Node → Bool
  | scalar .plain text => text == ""
  | _ => false

/-- Whether a node stands for no value. -/
def isNull : Node → Bool
  | scalar .plain text => ["", "null", "Null", "NULL", "~"].contains text
  | _ => false

/-- The elements of a sequence. -/
def items? : Node → Option (List Node)
  | sequence items => some items
  | n => if n.isNothing then some [] else none

/-- The texts of the elements of a sequence of scalars. -/
def texts? (n : Node) : Option (List String) := do (← n.items?).mapM text?

/-- The entries of a mapping whose keys are scalars. -/
def entries? : Node → Option (List (String × Node))
  | mapping entries => entries.mapM fun (key, value) => do return (← key.text?, value)
  | n => if n.isNothing then some [] else none

end Yaml.Node

open Yaml (Node)

/-- What the entry of a key says, or a default if there is no such entry. There must not be two. -/
def settingOr? {α : Type} (entries : List (String × Node)) (key : String) (absent : Option α)
    (read : Node → Option α) : Option α :=
  match entries.filter fun e => e.1 == key with
  | [] => absent
  | [(_, value)] => read value
  | _ => none

/-- The saved query that a mapping with the keys `name`, `query` and `subscribers` defines. -/
def QueryDefinition.ofNode? (n : Node) : Option QueryDefinition := do
  let entries ← n.entries?
  return ⟨← settingOr? entries "name" none Node.text?, ← settingOr? entries "query" none Node.text?,
    ← settingOr? entries "subscribers" (some []) Node.texts?⟩

namespace Config

/-- The user whom a node names, if it names one. -/
def userOfNode? (n : Node) : Option (Option String) :=
  if n.isNull then some none else n.text?.map some

/-- The columns that a node gives to fields. The last entry of a field counts. -/
def columnsOfNode? (n : Node) : Option (SortedBy (Prod.fst : String × String → String)) := do
  let columns ← (← n.entries?).mapM fun (key, value) => do return (key, ← value.text?)
  return .ofList columns

/-- The configuration that a node describes. -/
def ofNode? (n : Node) : Option Config := do
  let entries ← n.entries?
  return ⟨← settingOr? entries "current_user" (some none) userOfNode?,
    ← settingOr? entries "columns" (some .empty) columnsOfNode?,
    ← settingOr? entries "projects" (some []) Node.texts?,
    ← settingOr? entries "saved_queries" (some [])
      fun queries => do (← queries.items?).mapM QueryDefinition.ofNode?⟩

/-- The configuration that a YAML text describes. -/
def parse? (s : String) : Option Config := do ofNode? (← Node.parse? s)

end Config

end BuildQuery
