import BuildQuery.Pattern.Like

/-!
# Store patterns matched place by place

A row has a mark for each place of a text, the one before the first character and the one at the end
included. For each piece of a pattern a new row is written over a blank one, from its first place to
its last. A piece for any run looks at the mark of the same place in the old row and at the mark
written just before; the other pieces look at the place before in the old row. Every mark and every
character is looked up at an index, and a look-up or a mark behind the end leaves nothing.
-/

namespace BuildQuery.Like

/-- The row of a text without any marks. -/
def blankRow (text : List Char) : List Bool := List.replicate (text.length + 1) false

/-- The row with one place overwritten. -/
def put? (row : List Bool) (place : Nat) (mark : Bool) : Option (List Bool) :=
  if place < row.length then some (row.set place mark) else none

/-- The mark for a place of the new row, from the old row and what is written of the new one. -/
def mark? (text : List Char) (row written : List Bool) : Token → Nat → Option Bool
  | .anyRun, 0 => row[0]?
  | .anyRun, j + 1 => do
    let same ← row[j + 1]?
    let before ← written[j]?
    return same || before
  | .anyOne, 0 => some false
  | .anyOne, j + 1 => row[j]?
  | .literal _, 0 => some false
  | .literal d, j + 1 => do
    let before ← row[j]?
    let c ← text[j]?
    return before && c == d

/-- The new row with one more place written. -/
def write? (text : List Char) (row : List Bool) (token : Token) (written : List Bool) (j : Nat) :
    Option (List Bool) := do
  let mark ← mark? text row written token j
  put? written j mark

/-- The new row of a piece, written from the first place to the last. -/
def nextRow? (text : List Char) (row : List Bool) (token : Token) : Option (List Bool) :=
  (List.range (text.length + 1)).foldlM (write? text row token) (blankRow text)

/-- Whether the end of the text is marked once the rows of all pieces are written. The first row has
the place before the text marked. -/
def matchByRows? (pattern text : List Char) : Option Bool := do
  let first ← put? (blankRow text) 0 true
  let last ← (tokens pattern).foldlM (nextRow? text) first
  last[text.length]?

end BuildQuery.Like
