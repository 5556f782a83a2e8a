import BuildQuery.Pattern.Glob

/-!
# Globs matched character by character

A scan of a glob and a text goes by two indices. It remembers only the last star, together with the
place up to which that star takes characters of the text. Where the characters differ it goes back
there and lets the star take one character more. When the text is used up, only stars may be left of
the glob. Every character is looked up at an index, and a round that looked behind the end would
say so.
-/

namespace BuildQuery.Glob

/-- A star of a glob, and the place in the text up to which it takes characters. -/
structure Star where
  index : Nat
  taken : Nat
  deriving DecidableEq, Repr

/-- How far a scan has come in the glob and in the text, and the last star that it has seen. -/
structure Scan where
  globIndex : Nat
  textIndex : Nat
  star? : Option Star
  deriving DecidableEq, Repr

/-- What a round of a scan leads to. -/
inductive Round where
  | next (s : Scan)
  | answer (matched : Bool)
  /-- An index behind the end was looked up. -/
  | outOfRange
  deriving DecidableEq, Repr

/-- What is left of the characters from an index on, which may be at most their number. -/
def fromIndex? (cs : List Char) (index : Nat) : Option (List Char) :=
  if index ≤ cs.length then some (cs.drop index) else none

namespace Scan

/-- The scan before its first round. -/
def start : Scan := ⟨0, 0, none⟩

/-- The scan with the star at the current index of the glob as its last one. -/
def atStar (s : Scan) : Scan := ⟨s.globIndex + 1, s.textIndex, some ⟨s.globIndex, s.textIndex⟩⟩

/-- The scan after a character that the glob and the text have in common. -/
def pastChar (s : Scan) : Scan := ⟨s.globIndex + 1, s.textIndex + 1, s.star?⟩

/-- The scan back behind a star, which takes one character more. -/
def backTo (star : Star) : Scan :=
  ⟨star.index + 1, star.taken + 1, some { star with taken := star.taken + 1 }⟩

/-- What to do when the characters differ: without a star there is no match. -/
def retreat (s : Scan) : Round :=
  match s.star? with
  | some star => .next (backTo star)
  | none => .answer false

/-- One round of a scan. -/
def round (glob text : List Char) (s : Scan) : Round :=
  if h : s.textIndex < text.length then
    if glob[s.globIndex]? = some wildcard then .next s.atStar
    else if glob[s.globIndex]? = some text[s.textIndex] then .next s.pastChar
    else s.retreat
  else match fromIndex? glob s.globIndex with
    | some rest => .answer (rest.all (· == wildcard))
    | none => .outOfRange

/-- What a number of rounds lead to. A scan that has answered, or has looked behind the end, makes
no more rounds. -/
def run (glob text : List Char) (s : Scan) : Nat → Round
  | 0 => .next s
  | n + 1 =>
    match s.round glob text with
    | .next s => s.run glob text n
    | r => r

end Scan

end BuildQuery.Glob
