/-!
# Arguments of the command line

An argument is an option, the value of the option in front of it, or a text. An option has a long
name after two hyphens, and may have a letter after one. Its value is the next argument, or is
attached to it: after an equals sign, or right after the letter. An argument that begins with a
hyphen is a value only when it is attached, or the hyphen alone. After two hyphens there are texts
only.
-/

namespace BuildQuery.CommandLine

/-- An option. Each of them takes a value. -/
inductive Key where
  | config
  | build
  | builds
  | source
  | target
  deriving DecidableEq, Repr

namespace Key

/-- The long name of an option. -/
def long : Key → String
  | config => "config"
  | build => "build"
  | builds => "builds"
  | source => "from"
  | target => "to"

/-- The letter of an option. -/
def letter? : Key → Option Char
  | config => some 'c'
  | build | builds => some 'b'
  | source | target => none

/-- Whether the value of an option is the path of a file, which must not be empty. -/
def isPath : Key → Bool
  | config | build | builds => true
  | source | target => false

end Key

/-- Why arguments give nothing to do: they ask for information, or they are wrong. -/
inductive Refusal where
  | information
  | usage
  deriving DecidableEq, Repr

/-- The arguments that a part of the command line can hold. -/
structure Form where
  keys : List Key
  takesText : Bool
  /-- Whether one can ask for the version. -/
  hasVersion : Bool

/-- Arguments that were read. The value of the last option is judged only when something follows
it. -/
structure Arguments where
  text? : Option String
  values : List (Key × String)
  /-- The last option, with its value as soon as that is read. -/
  last? : Option (Key × Option String)

namespace Arguments

/-- No arguments. -/
def empty : Arguments := ⟨none, [], none⟩

/-- The value of an option. -/
def get? (a : Arguments) (key : Key) : Option String := a.values.lookup key

/-- The option that waits for its value. -/
def waiting? (a : Arguments) : Option Key :=
  match a.last? with
  | some (key, none) => some key
  | _ => none

/-- The value of the last option is judged: there has to be one, it must not be an empty path, and
the option must not be there twice. -/
def settle (a : Arguments) : Except Refusal Arguments :=
  match a.last? with
  | none => .ok a
  | some (_, none) => .error .usage
  | some (key, some value) =>
    if (a.get? key).isSome || (key.isPath && value.isEmpty) then .error .usage
    else .ok { a with values := (key, value) :: a.values, last? := none }

/-- One more option; a value that is attached to it is judged at once. -/
def addKey (a : Arguments) (key : Key) (attached? : Option String) : Except Refusal Arguments := do
  let a ← a.settle
  match attached? with
  | none => return { a with last? := some (key, none) }
  | some value => settle { a with last? := some (key, some value) }

/-- One more text; there can be one. -/
def addText (form : Form) (a : Arguments) (text : String) : Except Refusal Arguments := do
  let a ← a.settle
  if form.takesText && a.text?.isNone then return { a with text? := some text }
  else .error .usage

/-- A request for information. -/
def ask (a : Arguments) : Except Refusal Arguments := do
  let _ ← a.settle
  .error .information

/-- An option by its long name, with what follows the name. -/
def addLong (form : Form) (a : Arguments) (name rest : List Char) : Except Refusal Arguments :=
  let name := String.ofList name
  match form.keys.find? (fun key => key.long == name), rest with
  | some key, '=' :: value => a.addKey key (some (String.ofList value))
  | some key, _ => a.addKey key none
  | none, rest =>
    if rest.isEmpty && (name == "help" || (form.hasVersion && name == "version")) then a.ask
    else .error .usage

/-- An option by its letter, with what follows the letter. -/
def addLetter (form : Form) (a : Arguments) (c : Char) (rest : List Char) :
    Except Refusal Arguments :=
  match form.keys.find? (fun key => key.letter? == some c), rest with
  | some key, [] => a.addKey key none
  | some key, '=' :: value => a.addKey key (some (String.ofList value))
  | some key, value => a.addKey key (some (String.ofList value))
  | none, _ =>
    if c = 'h' || (form.hasVersion && c = 'V') then a.ask else .error .usage

/-- One more argument in front of two hyphens. -/
def add (form : Form) (a : Arguments) (arg : String) : Except Refusal Arguments :=
  match arg.toList with
  | '-' :: '-' :: cs => a.addLong form (cs.takeWhile (· != '=')) (cs.dropWhile (· != '='))
  | '-' :: c :: cs => a.addLetter form c cs
  | _ =>
    match a.waiting? with
    | some key => .ok { a with last? := some (key, some arg) }
    | none => a.addText form arg

/-- The arguments of a part of the command line, with more of them to read. -/
def read (form : Form) (a : Arguments) : List String → Except Refusal Arguments
  | [] => a.settle
  | arg :: args =>
    if arg = "--" then do (← args.foldlM (addText form) (← a.settle)).settle
    else do (← a.add form arg).read form args

end Arguments

end BuildQuery.CommandLine
