import BuildQuery.Pattern.Glob

/-!
# Patterns of the store

A store matches text against `LIKE` patterns: `%` stands for any run of characters, `_` for any one
character, and a character after the escape `\` for itself. A glob becomes a pattern when what is
special in a pattern is escaped and its stars are turned into `%`.
-/

namespace BuildQuery.Like

/-- The character that takes the meaning from the character after it. -/
def escape : Char := '\\'

/-- A piece of a pattern. -/
inductive Token where
  | anyRun
  | anyOne
  | literal (c : Char)
  deriving DecidableEq, Repr

/-- The pieces of a pattern. An escape at the very end stands for itself. -/
def tokens : List Char → List Token
  | [] => []
  | [c] =>
    [if c = '%' then .anyRun else if c = '_' then .anyOne else .literal c]
  | c :: d :: cs =>
    if c = '%' then .anyRun :: tokens (d :: cs)
    else if c = '_' then .anyOne :: tokens (d :: cs)
    else if c = escape then .literal d :: tokens cs
    else .literal c :: tokens (d :: cs)

/-- Marks every place at or after a marked one. -/
def spread (marked : Bool) : List Bool → List Bool
  | [] => []
  | m :: row => (marked || m) :: spread (marked || m) row

/-- Moves every mark over one character, where the character is accepted. -/
def advance (accepts : Char → Bool) (text : List Char) (row : List Bool) : List Bool :=
  false :: List.zipWith (fun c m => accepts c && m) text row

/-- The places of a text that one more piece can end at, from those that the pieces before it can
end at. There is a place before each character and one at the end. -/
def step (text : List Char) (row : List Bool) : Token → List Bool
  | .anyRun => spread false row
  | .anyOne => advance (fun _ => true) text row
  | .literal d => advance (fun c => c == d) text row

/-- Whether the pieces can make up a whole text. -/
def matchesTokens (pattern : List Token) (text : List Char) : Bool :=
  let start := true :: text.map fun _ => false
  (pattern.foldl (step text) start).getLast? == some true

/-- Whether a text matches a pattern. -/
def isMatch (pattern text : List Char) : Bool := matchesTokens (tokens pattern) text

/-- The piece of pattern text for a character of a glob. -/
def ofGlobChar (c : Char) : List Char :=
  if c = Glob.wildcard then ['%']
  else if c = '%' || c = '_' || c = escape then [escape, c]
  else [c]

/-- The pattern of a glob. -/
def ofGlob (glob : List Char) : List Char := glob.flatMap ofGlobChar

end BuildQuery.Like
