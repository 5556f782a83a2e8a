import BuildQuery.CommandLine.Arguments

/-!
# Commands of the command line

The command line names a command, with the options and the text that the command takes. The path of
a configuration can be given in front of the command or behind it; behind it counts.
-/

namespace BuildQuery.CommandLine

/-- What the program is to do. Builds are given by the paths of files. -/
inductive Command where
  | render (query : String)
  | test (query build : String)
  | compile (query : String)
  | select (query builds : String)
  | moveProject (source target : String)
  | usage (project : String)
  | notify (build : String)
  deriving DecidableEq, Repr

/-- The files of builds that a command reads. -/
def Command.files : Command → List String
  | test _ path | select _ path | notify path => [path]
  | render _ | compile _ | moveProject _ _ | usage _ => []

/-- What a word at the command line calls for: the options of the command, whether it takes a text,
and the command that these make up when all of them are there. -/
structure Verb where
  word : String
  keys : List Key
  takesText : Bool
  command? : Arguments → Option Command

namespace Verb

/-- The verbs of all commands. -/
def all : List Verb :=
  [⟨"render", [], true, fun a => do return .render (← a.text?)⟩,
    ⟨"match", [.build], true, fun a => do return .test (← a.text?) (← a.get? .build)⟩,
    ⟨"compile", [], true, fun a => do return .compile (← a.text?)⟩,
    ⟨"select", [.builds], true, fun a => do return .select (← a.text?) (← a.get? .builds)⟩,
    ⟨"move-project", [.source, .target], false,
      fun a => do return .moveProject (← a.get? .source) (← a.get? .target)⟩,
    ⟨"usage", [], true, fun a => do return .usage (← a.text?)⟩,
    ⟨"notify", [.build], false, fun a => do return .notify (← a.get? .build)⟩]

/-- The verb of a word. -/
def ofWord? (word : String) : Option Verb := all.find? fun v => v.word == word

/-- What can follow a verb. -/
def form (v : Verb) : Form := ⟨.config :: v.keys, v.takesText, false⟩

end Verb

/-- What can stand in front of a verb. -/
def outerForm : Form := ⟨[.config], false, true⟩

/-- A command, and the path of its configuration. -/
structure Invocation where
  config? : Option String
  command : Command
  deriving DecidableEq, Repr

/-- What follows the word `help`: at most one word, which has to be known. -/
def helpRefusal : List String → Refusal
  | [] => .information
  | [word] => if word = "help" || (Verb.ofWord? word).isSome then .information else .usage
  | _ => .usage

namespace Invocation

/-- The invocation of a verb behind the given arguments. -/
def ofVerb (outer : Arguments) (v : Verb) (args : List String) : Except Refusal Invocation := do
  let inner ← Arguments.empty.read v.form args
  let some command := v.command? inner | .error .usage
  let outer ← outer.settle
  return ⟨(inner.get? .config).or (outer.get? .config), command⟩

/-- The invocation that arguments make, with more of them to read. -/
def readFrom (outer : Arguments) : List String → Except Refusal Invocation
  | [] => .error .usage
  | arg :: args =>
    if arg = "--" then .error .usage
    else
      let verb? := if outer.waiting?.isNone then Verb.ofWord? arg else none
      match verb? with
      | some v => ofVerb outer v args
      | none =>
        if outer.waiting?.isNone && arg == "help" then .error (helpRefusal args)
        else do readFrom (← outer.add outerForm arg) args

/-- The invocation that arguments make. -/
def read (args : List String) : Except Refusal Invocation := readFrom .empty args

/-- The files that an invocation can read. -/
def files (i : Invocation) : List String := i.config?.toList ++ i.command.files

end Invocation

end BuildQuery.CommandLine
