import BuildQuery.Yaml.Scalar

/-!
# Tokens of YAML text

Outside brackets, the nesting of YAML text is given by columns: a collection is open as long as what
follows does not begin to the left of it. Tokens make this nesting explicit. That something is a key
shows only when a colon follows it; until then the place where it began is kept, and the tokens for
the key are put in there. Of YAML's repertoire, this is the part with collections in both styles,
with plain and quoted scalars, and with comments.
-/

namespace BuildQuery.Yaml

/-- How a scalar is written. -/
inductive Style where
  | plain
  | quoted
  deriving DecidableEq, Repr

/-- A token of YAML text. The tokens `sequenceStart`, `mappingStart` and `blockEnd` mark the nesting
that columns give. -/
inductive Token where
  | documentStart
  | documentEnd
  | sequenceStart
  | mappingStart
  | blockEnd
  | openBracket
  | closeBracket
  | openBrace
  | closeBrace
  | comma
  | entry
  | key
  | value
  | scalar (style : Style) (text : String)
  deriving DecidableEq, Repr

/-- A place where a key may have begun, known by the number of tokens in front of it. -/
structure KeyPlace where
  tokenCount : Nat
  position : Position
  isRequired : Bool

/-- A text that is being divided into tokens. -/
structure Lexer where
  rest : List Char
  position : Position
  /-- The tokens so far, the last one first. -/
  tokens : List Token
  /-- The columns of the open block collections, the innermost one first. -/
  columns : List Nat
  /-- Whether a key may begin at this position. -/
  keyAllowed : Bool
  /-- Where a key may have begun since the innermost open bracket. -/
  place? : Option KeyPlace
  /-- The same for each part of the text around an open bracket, the innermost one first. -/
  outerPlaces : List (Option KeyPlace)

namespace Lexer

/-- The beginning of a text. -/
def start (cs : List Char) : Lexer := ⟨cs, .start, [], [], true, none, []⟩

/-- Whether a bracket is open. -/
def inFlow (s : Lexer) : Bool := !s.outerPlaces.isEmpty

/-- The least column of what belongs to the innermost open block collection. -/
def leastColumn (s : Lexer) : Nat :=
  match s.columns with
  | [] => 0
  | column :: _ => column + 1

/-- The same with one more token. -/
def emit (s : Lexer) (t : Token) : Lexer := { s with tokens := t :: s.tokens }

/-- The same with a token put in after the first ones. -/
def emitAfter (s : Lexer) (count : Nat) (t : Token) : Lexer :=
  { s with tokens := s.tokens.insertIdx (s.tokens.length - count) t }

/-- The same at the end `rest` of the text. -/
def moveTo (s : Lexer) (rest : List Char) : Lexer :=
  { s with
    rest
    position := s.position.after (s.rest.take (s.rest.length - rest.length)) }

/-- The same after some characters. -/
def skip (s : Lexer) (count : Nat) : Lexer := s.moveTo (s.rest.drop count)

/-! ## Places of keys -/

/-- A place is given up, unless a key is required there. -/
def giveUp? : Option KeyPlace → Option (Option KeyPlace)
  | some p => if p.isRequired then none else some none
  | none => some none

/-- The innermost place is given up. -/
def dropPlace? (s : Lexer) : Option Lexer := do
  return { s with place? := ← giveUp? s.place? }

/-- This position is kept as a place if a key may begin here. In a block collection, what begins in
its column has to be a key. -/
def keepPlace? (s : Lexer) : Option Lexer :=
  if s.keyAllowed then do
    let s ← s.dropPlace?
    return { s with
      place? := some
        ⟨s.tokens.length, s.position, !s.inFlow && s.columns.head? = some s.position.column⟩ }
  else some s

/-- Whether a colon at a position is too far from a place: a key is at most 1024 bytes long, in one
line. -/
def isBeyond (position : Position) (p : KeyPlace) : Bool :=
  decide (p.position.line < position.line) || decide (p.position.offset + 1024 < position.offset)

/-- The places that are too far away are given up. -/
def dropFarPlaces? (s : Lexer) : Option Lexer := do
  let drop? (place? : Option KeyPlace) : Option (Option KeyPlace) :=
    if place?.any (isBeyond s.position) then giveUp? place? else some place?
  return { s with place? := ← drop? s.place?, outerPlaces := ← s.outerPlaces.mapM drop? }

/-! ## Block collections -/

/-- A block collection is opened in a column, unless that is the column of one already. Its first
token comes after the given number of tokens. -/
def openBlock (s : Lexer) (column : Nat) (count : Nat) (t : Token) : Lexer :=
  if s.inFlow || decide (column < s.leastColumn) then s
  else { s with columns := column :: s.columns }.emitAfter count t

/-- The innermost block collections whose columns satisfy a condition are closed. -/
def closeBlocks (s : Lexer) (p : Nat → Bool) : Lexer :=
  if s.inFlow then s
  else
    { s with
      columns := s.columns.dropWhile p
      tokens := (s.columns.takeWhile p).map (fun _ => Token.blockEnd) ++ s.tokens }

/-! ## Reading one token -/

/-- Where in a line a gap goes on. -/
inductive GapPlace where
  | lineStart
  | inLine
  | comment
  deriving DecidableEq, Repr

/-- The text after blanks, comments and line breaks, and whether a key may begin there. Outside
brackets a tab cannot stand where a key may begin. A byte order mark at the beginning of a line is
skipped, but takes up a column. -/
def skipGap (inFlow keyAllowed : Bool) : GapPlace → List Char → List Char × Bool
  | _, [] => ([], keyAllowed)
  | place, c :: cs =>
    if isBreak c then skipGap inFlow (keyAllowed || !inFlow) .lineStart cs
    else if place = .comment || c = '#' then skipGap inFlow keyAllowed .comment cs
    else if c = ' ' || (c = '\t' && (inFlow || !keyAllowed)) ||
        (c = '\uFEFF' && place = .lineStart) then
      skipGap inFlow keyAllowed .inLine cs
    else (c :: cs, keyAllowed)

/-- The same at the next token, with the block collections to the right of it closed. -/
def toNext? (s : Lexer) : Option Lexer := do
  let place : GapPlace := if s.position.column = 0 then .lineStart else .inLine
  let (rest, keyAllowed) := skipGap s.inFlow s.keyAllowed place s.rest
  let s ← { s.moveTo rest with keyAllowed }.dropFarPlaces?
  return s.closeBlocks fun column => decide (s.position.column < column)

/-- After the mark of a document. -/
def documentMark? (s : Lexer) (t : Token) : Option Lexer := do
  let s ← (s.closeBlocks fun _ => true).dropPlace?
  return { s with keyAllowed := false }.emit t |>.skip 3

/-- After an opening bracket. A key may begin with it, and another one inside. -/
def openFlow? (s : Lexer) (t : Token) : Option Lexer := do
  let s ← s.keepPlace?
  return { s with keyAllowed := true, place? := none, outerPlaces := s.place? :: s.outerPlaces
    }.emit t |>.skip 1

/-- After a closing bracket. -/
def closeFlow? (s : Lexer) (t : Token) : Option Lexer := do
  let s ← s.dropPlace?
  return { s with
    keyAllowed := false
    place? := s.outerPlaces.head?.join
    outerPlaces := s.outerPlaces.tail }.emit t |>.skip 1

/-- After a comma between brackets. -/
def comma? (s : Lexer) : Option Lexer := do
  let s ← s.dropPlace?
  return { s with keyAllowed := true }.emit .comma |>.skip 1

/-- After the dash of an element. -/
def entry? (s : Lexer) : Option Lexer := do
  if !s.inFlow && !s.keyAllowed then none
  let s ← (s.openBlock s.position.column s.tokens.length .sequenceStart).dropPlace?
  return { s with keyAllowed := true }.emit .entry |>.skip 1

/-- After the question mark of a key. -/
def key? (s : Lexer) : Option Lexer := do
  if !s.inFlow && !s.keyAllowed then none
  let s ← (s.openBlock s.position.column s.tokens.length .mappingStart).dropPlace?
  return { s with keyAllowed := !s.inFlow }.emit .key |>.skip 1

/-- After the colon of a value. It makes a key of what began at the innermost place. -/
def value? (s : Lexer) : Option Lexer :=
  match s.place? with
  | some p =>
    let s := { s with keyAllowed := false, place? := none }.emitAfter p.tokenCount .key
    some (s.openBlock p.position.column p.tokenCount .mappingStart |>.emit .value |>.skip 1)
  | none =>
    if !s.inFlow && !s.keyAllowed then none
    else
      let s := s.openBlock s.position.column s.tokens.length .mappingStart
      some ({ s with keyAllowed := !s.inFlow }.emit .value |>.skip 1)

/-- After a scalar in quotes. -/
def quoted? (s : Lexer) (read : List Char → Option (List Char × List Char)) : Option Lexer := do
  let s ← s.keepPlace?
  let (text, rest) ← read (s.rest.drop 1)
  return { s with keyAllowed := false }.emit (.scalar .quoted (String.ofList text)) |>.moveTo rest

/-- After a plain scalar. A key may follow it only in another line. -/
def plain? (s : Lexer) : Option Lexer := do
  let s ← s.keepPlace?
  let found ← Yaml.plain? s.inFlow s.leastColumn s.rest
  return { s with keyAllowed := found.endsLine
    }.emit (.scalar .plain (String.ofList found.text)) |>.moveTo found.rest

/-- The characters that cannot begin a token. Some of them have a meaning in other parts of YAML. -/
def isReserved (c : Char) : Bool :=
  ['&', '*', '!', '|', '>', '%', '@', '\x60'].contains c || isGap c

/-- After the token at this position. -/
def token? (s : Lexer) : Option Lexer :=
  if s.position.column = 0 && isDocumentMark s.rest then
    s.documentMark? (if s.rest.head? = some '-' then .documentStart else .documentEnd)
  else
    match s.rest with
    | [] => none
    | '[' :: _ => s.openFlow? .openBracket
    | '\x7b' :: _ => s.openFlow? .openBrace
    | ']' :: _ => s.closeFlow? .closeBracket
    | '\x7d' :: _ => s.closeFlow? .closeBrace
    | ',' :: _ => s.comma?
    | '\'' :: _ => s.quoted? (singleQuoted? [])
    | '"' :: _ => s.quoted? (doubleQuoted? .empty)
    | '-' :: cs => if startsGap cs then s.entry? else s.plain?
    | '?' :: cs => if s.inFlow || startsGap cs then s.key? else s.plain?
    | ':' :: cs => if s.inFlow || startsGap cs then s.value? else s.plain?
    | c :: _ => if isReserved c then none else s.plain?

/-! ## Reading a text -/

/-- All tokens at the end of the text. -/
def finish? (s : Lexer) : Option (List Token) := do
  let s ← (s.closeBlocks fun _ => true).dropPlace?
  return s.tokens.reverse

/-- The tokens of the whole text, of which some are read. -/
def run? (s : Lexer) : Option (List Token) := do
  let next ← s.toNext?
  if next.rest.isEmpty then next.finish?
  else
    let after ← next.token?
    if _ : after.rest.length < s.rest.length then after.run? else none
termination_by s.rest.length

end Lexer

/-- The tokens of a text. -/
def tokens? (s : String) : Option (List Token) :=
  if s.toList.all isPrintable then (Lexer.start (alikeBreaks s.toList)).run? else none

end BuildQuery.Yaml
