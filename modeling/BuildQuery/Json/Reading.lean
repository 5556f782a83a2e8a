import BuildQuery.Json.Basic
import BuildQuery.Parsed
import BuildQuery.Text.Hexadecimal

/-!
# JSON read from text

The grammar of JSON, exactly: one value with blanks around it, no comma after the last element, no
zeros in front of a number, no control characters in a string.
-/

namespace BuildQuery.Json

/-- The characters that can stand between the parts of a JSON text. -/
def isSpace (c : Char) : Bool := c == ' ' || c == '\t' || c == '\n' || c == '\r'

/-- The text after its leading blanks. -/
def skipSpace (cs : List Char) : List Char := cs.dropWhile isSpace

theorem length_skipSpace (cs : List Char) : (skipSpace cs).length ≤ cs.length :=
  (List.dropWhile_suffix _).length_le

/-- The code point that a backslash with this character stands for. -/
def escape? : Char → Option Nat
  | '"' => some 0x22
  | '\\' => some 0x5C
  | '/' => some 0x2F
  | 'b' => some 0x08
  | 'f' => some 0x0C
  | 'n' => some 0x0A
  | 'r' => some 0x0D
  | 't' => some 0x09
  | _ => none

/-- The code points of a string after its opening quote, and what follows its closing quote. -/
def stringBody? : List Char → Option (List Nat × List Char)
  | [] => none
  | '"' :: cs => some ([], cs)
  | '\\' :: 'u' :: a :: b :: c :: d :: cs => do
    let n ← Text.hexNumber? [a, b, c, d]
    let (points, rest) ← stringBody? cs
    return (n :: points, rest)
  | '\\' :: c :: cs => do
    let n ← escape? c
    let (points, rest) ← stringBody? cs
    return (n :: points, rest)
  | c :: cs =>
    if c.toNat < 0x20 || c = '\\' then none
    else do
      let (points, rest) ← stringBody? cs
      return (c.toNat :: points, rest)

/-- The digits at the front of a text and what follows them; there has to be one. -/
def digits? (cs : List Char) : Option (List Char × List Char) :=
  let digits := cs.takeWhile Char.isDigit
  if digits.isEmpty then none else some (digits, cs.dropWhile Char.isDigit)

/-- The fraction of a number, which may be missing. -/
def fraction? : List Char → Option (List Char × List Char)
  | '.' :: cs => (digits? cs).map fun (ds, rest) => ('.' :: ds, rest)
  | cs => some ([], cs)

/-- The exponent of a number, which may be missing. -/
def exponent? : List Char → Option (List Char × List Char)
  | [] => some ([], [])
  | e :: cs =>
    if e = 'e' || e = 'E' then
      match cs with
      | '+' :: cs => (digits? cs).map fun (ds, rest) => (e :: '+' :: ds, rest)
      | '-' :: cs => (digits? cs).map fun (ds, rest) => (e :: '-' :: ds, rest)
      | cs => (digits? cs).map fun (ds, rest) => (e :: ds, rest)
    else some ([], e :: cs)

/-- A number without a sign as it is written, and what follows it. -/
def magnitude? (cs : List Char) : Option (List Char × List Char) := do
  let (whole, cs) ← digits? cs
  if whole.length ≠ 1 ∧ whole.head? = some '0' then none
  let (fraction, cs) ← fraction? cs
  let (exponent, cs) ← exponent? cs
  return (whole ++ fraction ++ exponent, cs)

/-- A number as it is written, and what follows it. -/
def number? : List Char → Option (List Char × List Char)
  | '-' :: cs => (magnitude? cs).map fun (written, rest) => ('-' :: written, rest)
  | cs => magnitude? cs

/-- The text after the given one. -/
def after? (start cs : List Char) : Option (List Char) :=
  if start.isPrefixOf cs then some (cs.drop start.length) else none

/-- A value read from the front of a text, if what is left is shorter. -/
def parsed? {α : Type} (cs : List Char) (value : α) (rest : List Char) : Option (Parsed α cs) :=
  if h : rest.length < cs.length then some ⟨value, rest, h⟩ else none

/-- The name of a member with the colon after it. -/
def name? (cs : List Char) : Option (Parsed (List Nat) cs) :=
  match skipSpace cs with
  | '"' :: cs' => do
    let (points, rest) ← stringBody? cs'
    let rest ← after? [':'] (skipSpace rest)
    parsed? cs points rest
  | _ => none

mutual

/-- A value after any blanks. -/
def value? (cs : List Char) : Option (Parsed Json cs) :=
  match h : skipSpace cs with
  | [] => none
  | c :: rest =>
    have shorter : rest.length < cs.length := by
      have := length_skipSpace cs
      simp only [h, List.length_cons] at this
      omega
    if c = '"' then do
      let (points, rest) ← stringBody? rest
      parsed? cs (.string points) rest
    else if c = '[' then do
      match skipSpace rest with
      | ']' :: rest => parsed? cs (.array []) rest
      | _ =>
        let p ← elements? rest
        return (p.map Json.array).widen (Nat.le_of_lt shorter)
    else if c = '\x7b' then do
      match skipSpace rest with
      | '\x7d' :: rest => parsed? cs (.object []) rest
      | _ =>
        let p ← members? rest
        return (p.map Json.object).widen (Nat.le_of_lt shorter)
    else if c = 'n' then do parsed? cs .null (← after? "ull".toList rest)
    else if c = 't' then do parsed? cs (.bool true) (← after? "rue".toList rest)
    else if c = 'f' then do parsed? cs (.bool false) (← after? "alse".toList rest)
    else do
      let (written, rest) ← number? (c :: rest)
      parsed? cs (.number written) rest
termination_by (cs.length, 0)

/-- The elements of an array that is not empty, and its closing bracket. -/
def elements? (cs : List Char) : Option (Parsed (List Json) cs) := do
  let first ← value? cs
  match h : skipSpace first.rest with
  | ',' :: rest =>
    have shorter : rest.length < cs.length := by
      have := length_skipSpace first.rest
      have := first.shorter
      simp only [h, List.length_cons] at *
      omega
    let others ← elements? rest
    return (others.map (first.value :: ·)).widen (Nat.le_of_lt shorter)
  | ']' :: rest => parsed? cs [first.value] rest
  | _ => none
termination_by (cs.length, 1)

/-- The members of an object that is not empty, and its closing brace. -/
def members? (cs : List Char) : Option (Parsed (List (List Nat × Json)) cs) := do
  let name ← name? cs
  have := name.shorter
  let first ← value? name.rest
  match h : skipSpace first.rest with
  | ',' :: rest =>
    have shorter : rest.length < cs.length := by
      have := length_skipSpace first.rest
      have := first.shorter
      simp only [h, List.length_cons] at *
      omega
    let others ← members? rest
    return (others.map ((name.value, first.value) :: ·)).widen (Nat.le_of_lt shorter)
  | '\x7d' :: rest => parsed? cs [(name.value, first.value)] rest
  | _ => none
termination_by (cs.length, 1)

end

/-- The value that a whole text writes. -/
def parse? (s : String) : Option Json := do
  let p ← value? s.toList
  if (skipSpace p.rest).isEmpty then return p.value else none

end BuildQuery.Json
