/-!
# Globs

In a glob, `*` stands for any run of characters, and every other character stands for itself. The
stars cut a glob into chunks of literal characters; a text matches when it begins with the first
chunk, ends with the last one, and holds the others in between, in order and without overlap. Each
of these is taken at its first place, which leaves the most text for the later ones.

In a path glob the same is done segment by segment, and a segment `**` stands for any number of
whole segments. Matching is exact about case.
-/

namespace BuildQuery.Glob

/-- The character that stands for a run of characters. -/
def wildcard : Char := '*'

/-- The character between the segments of a path. -/
def separator : Char := '/'

/-- The path segment that stands for any number of segments. -/
def deepWildcard : List Char := [wildcard, wildcard]

/-- What follows the first place where `chunk` stands in a text. -/
def afterFirst? (chunk : List Char) : List Char → Option (List Char)
  | [] => if chunk.isEmpty then some [] else none
  | c :: cs =>
    if chunk.isPrefixOf (c :: cs) then some ((c :: cs).drop chunk.length)
    else afterFirst? chunk cs

/-- Whether a text holds the chunks, in order and without overlap, with the last one at its end. -/
def matchesChunks : List (List Char) → List Char → Bool
  | [], cs => cs.isEmpty
  | [last], cs => last.isSuffixOf cs
  | chunk :: next :: chunks, cs =>
    match afterFirst? chunk cs with
    | some rest => matchesChunks (next :: chunks) rest
    | none => false

/-- Whether a text matches a glob. -/
def isMatch (glob text : List Char) : Bool :=
  match glob.splitOn wildcard with
  | [] => false
  | [only] => only == text
  | first :: chunks => first.isPrefixOf text && matchesChunks chunks (text.drop first.length)

/-! ## Path globs -/

/-- Whether a list can be cut in two so that its second part satisfies `p`. -/
def anySuffix {α : Type} (p : List α → Bool) : List α → Bool
  | [] => p []
  | a :: as => p (a :: as) || anySuffix p as

/-- Whether the segments of a path match the segments of a path glob. -/
def matchesSegments : List (List Char) → List (List Char) → Bool
  | [], path => path.isEmpty
  | segment :: pattern, path =>
    if segment = deepWildcard then anySuffix (matchesSegments pattern) path
    else match path with
      | [] => false
      | head :: rest => isMatch segment head && matchesSegments pattern rest

/-- Whether a path matches a path glob. -/
def isPathMatch (glob path : List Char) : Bool :=
  matchesSegments (glob.splitOn separator) (path.splitOn separator)

end BuildQuery.Glob
