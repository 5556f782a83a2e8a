import BuildQuery.Text.Hexadecimal
import BuildQuery.Yaml.Line

/-!
# Scalars of YAML

A scalar is plain, or in single or double quotes. Between the words of each kind there are gaps of
blanks and line breaks. A gap within a line stands for itself, a single line break for a space, and
each further line break for itself. Each reader returns the text of a scalar and what follows it.
-/

namespace BuildQuery.Yaml

/-- The text that a gap inside a scalar stands for. -/
def folded (gap : List Char) : List Char :=
  match gap.filter isBreak with
  | [] => gap
  | ['\n'] => [' ']
  | '\n' :: more => more
  | breaks => breaks

/-! ## Quoted scalars -/

/-- The rest of a scalar in single quotes of which a gap was just read. A quote inside it is written
twice. -/
def singleQuoted? (gap : List Char) : List Char → Option (List Char × List Char)
  | [] => none
  | '\'' :: '\'' :: cs => do
    let (text, rest) ← singleQuoted? [] cs
    return (folded gap ++ '\'' :: text, rest)
  | '\'' :: cs => some (folded gap, cs)
  | c :: cs =>
    if isGap c then singleQuoted? (gap ++ [c]) cs
    else if startsLine gap && isDocumentMark (c :: cs) then none
    else do
      let (text, rest) ← singleQuoted? [] cs
      return (folded gap ++ c :: text, rest)

/-- The character that a backslash with this character stands for. -/
def escape? : Char → Option Char
  | '0' => some '\x00'
  | 'a' => some '\x07'
  | 'b' => some '\x08'
  | 't' | '\t' => some '\t'
  | 'n' => some '\n'
  | 'v' => some '\x0B'
  | 'f' => some '\x0C'
  | 'r' => some '\r'
  | 'e' => some '\x1B'
  | ' ' => some ' '
  | '"' => some '"'
  | '/' => some '/'
  | '\\' => some '\\'
  | 'N' => some '\u0085'
  | '_' => some '\u00A0'
  | 'L' => some '\u2028'
  | 'P' => some '\u2029'
  | _ => none

/-- The character of a hexadecimal number. -/
def hexChar? (digits : List Char) : Option Char := do
  let n ← Text.hexNumber? digits
  if n.isValidChar then return Char.ofNat n else none

/-- A gap inside a scalar in double quotes, which may have an escaped line break in front. -/
structure Gap where
  isEscaped : Bool
  chars : List Char

namespace Gap

/-- The gap between two characters with nothing between them. -/
def empty : Gap := ⟨false, []⟩

/-- The gap with one more character. -/
def push (g : Gap) (c : Char) : Gap := ⟨g.isEscaped, g.chars ++ [c]⟩

/-- The text that a gap stands for. After an escaped line break, only further ones count. -/
def text (g : Gap) : List Char := if g.isEscaped then g.chars.filter isBreak else folded g.chars

/-- Whether what follows a gap stands at the beginning of a line. -/
def endsLine (g : Gap) : Bool := (g.isEscaped && g.chars.isEmpty) || startsLine g.chars

end Gap

/-- The rest of a scalar in double quotes of which a gap was just read. -/
def doubleQuoted? (gap : Gap) : List Char → Option (List Char × List Char)
  | [] => none
  | '"' :: cs => some (gap.text, cs)
  | '\\' :: 'x' :: a :: b :: cs => do
    let c ← hexChar? [a, b]
    let (text, rest) ← doubleQuoted? .empty cs
    return (gap.text ++ c :: text, rest)
  | '\\' :: 'u' :: a :: b :: c :: d :: cs => do
    let c ← hexChar? [a, b, c, d]
    let (text, rest) ← doubleQuoted? .empty cs
    return (gap.text ++ c :: text, rest)
  | '\\' :: 'U' :: a :: b :: c :: d :: e :: f :: g :: h :: cs => do
    let c ← hexChar? [a, b, c, d, e, f, g, h]
    let (text, rest) ← doubleQuoted? .empty cs
    return (gap.text ++ c :: text, rest)
  | '\\' :: c :: cs =>
    if isBreak c then do
      let (text, rest) ← doubleQuoted? ⟨true, []⟩ cs
      return (gap.text ++ text, rest)
    else do
      let c ← escape? c
      let (text, rest) ← doubleQuoted? .empty cs
      return (gap.text ++ c :: text, rest)
  | c :: cs =>
    if isGap c then doubleQuoted? (gap.push c) cs
    else if c = '\\' || gap.endsLine && isDocumentMark (c :: cs) then none
    else do
      let (text, rest) ← doubleQuoted? .empty cs
      return (gap.text ++ c :: text, rest)

/-! ## Plain scalars -/

/-- The characters that give brackets and braces their structure. -/
def isFlowSign (c : Char) : Bool := [',', '[', ']', '\x7b', '\x7d'].contains c

/-- The word of a plain scalar at the front of a text, which may be empty, and what follows it. It
ends at a gap, at a colon before a gap and, within brackets, at a sign of theirs. Within brackets a
colon must not stand before such a sign. -/
def plainWord? (inFlow : Bool) : List Char → Option (List Char × List Char)
  | [] => some ([], [])
  | c :: cs =>
    if isGap c then some ([], c :: cs)
    else if inFlow && c == ':' && cs.head?.any (fun d => isFlowSign d || d == '?') then none
    else if (c == ':' && startsGap cs) || (inFlow && isFlowSign c) then some ([], c :: cs)
    else do
      let (word, rest) ← plainWord? inFlow cs
      return (c :: word, rest)

/-- A word and what follows it make up the text. -/
theorem plainWord?_append {inFlow : Bool} {cs word rest : List Char}
    (h : plainWord? inFlow cs = some (word, rest)) : word ++ rest = cs := by
  fun_induction plainWord? inFlow cs generalizing word rest with
  | case1 => simp_all
  | case2 c cs => simp_all
  | case3 => simp at h
  | case4 c cs => simp_all
  | case5 c cs _ _ _ ih =>
    obtain ⟨⟨word', rest'⟩, e, h⟩ := Option.bind_eq_some_iff.1 h
    obtain ⟨rfl, rfl⟩ : c :: word' = word ∧ rest' = rest := by simpa using h
    rw [List.cons_append, ih e]

/-- The column behind a gap that holds a line break. -/
def columnAfter (gap : List Char) : Nat := (gap.reverse.takeWhile fun c => !isBreak c).length

/-- Whether a gap has a tab among the first columns of a line. -/
def hasTabBefore (column : Nat) (gap : List Char) : Bool :=
  (gap.splitOnP isBreak).tail.any fun line => (line.take column).contains '\t'

/-- A plain scalar: its text, what follows it, and whether the gap behind it holds a line break. -/
structure PlainScalar where
  text : List Char
  rest : List Char
  endsLine : Bool

/-- The rest of a plain scalar after a word. Further lines belong to it from the column `least` on;
within brackets, wherever they begin. -/
def plainRest? (inFlow : Bool) (least : Nat) (cs : List Char) : Option PlainScalar := do
  let gap := cs.takeWhile isGap
  let rest := cs.dropWhile isGap
  let endsLine := gap.any isBreak
  if hasTabBefore least gap then none
  if rest.head? = some '#' || (startsLine gap && isDocumentMark rest) ||
      (endsLine && !inFlow && columnAfter gap < least) then
    return ⟨[], rest, endsLine⟩
  match h : plainWord? inFlow rest with
  | none => none
  | some ([], _) => return ⟨[], rest, endsLine⟩
  | some (c :: word, rest') =>
    have : rest'.length < cs.length := by
      have := congrArg List.length (plainWord?_append h)
      have : rest.length ≤ cs.length := (List.dropWhile_suffix _).length_le
      simp only [List.length_append, List.length_cons] at *
      omega
    let more ← plainRest? inFlow least rest'
    return { more with text := folded gap ++ c :: word ++ more.text }
termination_by cs.length

/-- A plain scalar at the front of a text. -/
def plain? (inFlow : Bool) (least : Nat) (cs : List Char) : Option PlainScalar := do
  let (word, rest) ← plainWord? inFlow cs
  let more ← plainRest? inFlow least rest
  return { more with text := word ++ more.text }

end BuildQuery.Yaml
