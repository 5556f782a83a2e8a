import BuildQuery.Text.Blank

/-!
# Characters and lines of YAML text

YAML text is printable text in lines. A line ends in one of five ways; three of them mean the same,
so a text is read after they are written alike. A position counts lines and, within a line, columns;
it also counts the bytes of UTF-8 in front of it.
-/

namespace BuildQuery.Yaml

/-- The characters that YAML text can hold, as ascending inclusive ranges of code points. -/
def printableRanges : List (Nat × Nat) :=
  [(0x09, 0x0A), (0x0D, 0x0D), (0x20, 0x7E), (0x85, 0x85), (0xA0, 0xD7FF), (0xE000, 0xFFFD),
    (0x10000, 0x10FFFF)]

/-- A character that YAML text can hold. -/
def isPrintable (c : Char) : Bool := Text.inRanges printableRanges c.toNat

/-- The text with a line feed for every carriage return, with or without a line feed after it, and
for every next-line character. -/
def alikeBreaks : List Char → List Char
  | [] => []
  | '\r' :: '\n' :: cs => '\n' :: alikeBreaks cs
  | c :: cs => (if c = '\r' ∨ c = '\u0085' then '\n' else c) :: alikeBreaks cs

/-- The end of a line: a line feed, or a line or paragraph separator. -/
def isBreak (c : Char) : Bool := c == '\n' || c == '\u2028' || c == '\u2029'

/-- A blank within a line. -/
def isSpace (c : Char) : Bool := c == ' ' || c == '\t'

/-- A character that can stand between words. -/
def isGap (c : Char) : Bool := isSpace c || isBreak c

/-- Whether no word goes on at the front of a text. -/
def startsGap : List Char → Bool
  | [] => true
  | c :: _ => isGap c

/-- Whether what follows a gap stands at the beginning of a line. -/
def startsLine (gap : List Char) : Bool := gap.getLast?.any isBreak

/-- A mark that a document begins or ends, seen at the beginning of a line. -/
def isDocumentMark (cs : List Char) : Bool :=
  ("---".toList.isPrefixOf cs || "...".toList.isPrefixOf cs) && startsGap (cs.drop 3)

/-- A place in a text: its line, its column within the line, and its distance in bytes from the
beginning of the text. -/
structure Position where
  line : Nat
  column : Nat
  offset : Nat
  deriving DecidableEq, Repr

/-- The beginning of a text. -/
def Position.start : Position := ⟨0, 0, 0⟩

/-- The position behind one more character. -/
def Position.next (p : Position) (c : Char) : Position :=
  if isBreak c then ⟨p.line + 1, 0, p.offset + c.utf8Size⟩
  else ⟨p.line, p.column + 1, p.offset + c.utf8Size⟩

/-- The position behind more text. -/
def Position.after (p : Position) (cs : List Char) : Position := cs.foldl next p

theorem Position.after_append (p : Position) (cs ds : List Char) :
    p.after (cs ++ ds) = (p.after cs).after ds := by
  simp [after]

end BuildQuery.Yaml
