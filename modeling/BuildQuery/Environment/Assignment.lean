import BuildQuery.Text.Alphanumeric

/-!
# Assignments to variables

A file of assignments has one in each line, besides blank lines and comments. A value can be quoted
in parts, and it can refer to variables. A line that is no assignment ends the file.
-/

namespace BuildQuery

/-- A part of an assigned value: a character, or the value of a variable. -/
inductive ValuePart where
  | char (c : Char)
  | reference (name : String)
  deriving DecidableEq, Repr

/-- An assignment to a variable. -/
structure Assignment where
  name : String
  value : List ValuePart
  deriving DecidableEq, Repr

/-- What reading an assigned value is in the middle of. Where quotes can be open around it,
`inQuotes` says whether double quotes are. -/
inductive ValueMode where
  | bare
  | singleQuotes
  | doubleQuotes
  | escape (inQuotes : Bool)
  | name (inQuotes : Bool) (sofar : List Char)
  | braces (inQuotes : Bool) (sofar : List Char)
  | ended

namespace ValueMode

/-- The mode around an escape or a variable. -/
def around (inQuotes : Bool) : ValueMode := if inQuotes then doubleQuotes else bare

/-- The character that a backslash with this character stands for. -/
def unescape? (c : Char) : Option Char :=
  if ['\\', '\'', '"', '$', ' '].contains c then some c else if c = 'n' then some '\n' else none

/-- The parts of a value, of which some text is left to read. Behind a blank, only a comment can
follow. The character after a variable without braces is always part of the value, whatever it
is. -/
def parts? : ValueMode → List Char → Option (List ValuePart)
  | bare, [] | escape false, [] | ended, [] => some []
  | name false sofar, [] => some [.reference (String.ofList sofar)]
  | _, [] => none
  | ended, c :: cs =>
    if c = ' ' || c = '\t' then parts? ended cs else if c = '#' then some [] else none
  | escape inQuotes, c :: cs => do
    return .char (← unescape? c) :: (← parts? (around inQuotes) cs)
  | singleQuotes, c :: cs =>
    if c = '\'' then parts? bare cs else do return .char c :: (← parts? singleQuotes cs)
  | name inQuotes sofar, c :: cs =>
    if Text.isAlphanumeric c then parts? (name inQuotes (sofar ++ [c])) cs
    else if c = '\x7b' && sofar.isEmpty then parts? (braces inQuotes []) cs
    else if c = '$' then do
      return .reference (String.ofList sofar) :: (← parts? (name inQuotes []) cs)
    else do
      return .reference (String.ofList sofar) :: .char c :: (← parts? (around inQuotes) cs)
  | braces inQuotes sofar, c :: cs =>
    if c = '\x7d' then do
      return .reference (String.ofList sofar) :: (← parts? (around inQuotes) cs)
    else parts? (braces inQuotes (sofar ++ [c])) cs
  | doubleQuotes, c :: cs =>
    if c = '$' then parts? (name true []) cs
    else if c = '"' then parts? bare cs
    else if c = '\\' then parts? (escape true) cs
    else do return .char c :: (← parts? doubleQuotes cs)
  | bare, c :: cs =>
    if c = '$' then parts? (name false []) cs
    else if c = '\'' then parts? singleQuotes cs
    else if c = '"' then parts? doubleQuotes cs
    else if c = '\\' then parts? (escape false) cs
    else if c = ' ' || c = '\t' then parts? ended cs
    else do return .char c :: (← parts? bare cs)

end ValueMode

namespace Assignment

/-- The characters that a name can begin with. -/
def isNameStart (c : Char) : Bool := c.isAlpha || c == '_'

/-- The characters that a name can hold. -/
def isNameChar (c : Char) : Bool := c.isAlphanum || c == '_' || c == '.'

/-- The name at the front of a text, and what follows the blanks behind it. -/
def name? (cs : List Char) : Option (List Char × List Char) :=
  if cs.head?.any isNameStart then
    some (cs.takeWhile isNameChar, Text.trimLeft (cs.dropWhile isNameChar))
  else none

/-- The name that is assigned to, and what follows the equals sign. The word `export` can stand in
front of the name. -/
def target? (cs : List Char) : Option (List Char × List Char) := do
  let (name, rest) ← name? cs
  match rest with
  | '=' :: value => return (name, value)
  | _ =>
    if name ≠ "export".toList then none
    let (name, rest) ← name? rest
    match rest with
    | '=' :: value => return (name, value)
    | _ => none

/-- Whether nothing but a comment is left. -/
def isOver (cs : List Char) : Bool := cs.isEmpty || cs.head? == some '#'

/-- The assignment in a line, if it holds one. The outer option is empty when the line is neither an
assignment nor blank or a comment. -/
def ofLine? (line : List Char) : Option (Option Assignment) := do
  let line := Text.trim line
  if isOver line then return none
  let (name, value) ← target? line
  let value := Text.trimLeft value
  let parts ← if isOver value then some [] else ValueMode.parts? .bare value
  return some ⟨String.ofList name, parts⟩

/-- The assignments in a file, up to the first line that is malformed. -/
def ofLines : List (List Char) → List Assignment
  | [] => []
  | line :: lines =>
    match ofLine? line with
    | none => []
    | some none => ofLines lines
    | some (some a) => a :: ofLines lines

/-- The assignments in the text of a file. -/
def ofText (s : String) : List Assignment := ofLines (s.toList.splitOn '\n')

/-- The names of the variables of which an assignment makes use. -/
def names (a : Assignment) : List String :=
  a.name :: a.value.filterMap fun
    | .reference name => some name
    | .char _ => none

end Assignment

end BuildQuery
