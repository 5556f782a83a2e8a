import BuildQuery.Error

/-!
# Tokens of query text

Query text is made of parentheses, quoted values and bare words with blanks between them. A value
is quoted with double or single quotes, and a backslash takes the special meaning from the
character after it. Words are the same in either case. A token is read together with its place,
which is counted in bytes of UTF-8. Main statement: reading undoes quoting (`unquote?_quote`).
-/

namespace BuildQuery

/-- A token of query text; a word is in lower case. -/
inductive Token where
  | quoted (value : String)
  | word (w : String)
  | openParen
  | closeParen
  deriving DecidableEq, Repr

/-- A token at its place in a text. -/
structure Lexeme where
  token : Token
  offset : Nat
  deriving DecidableEq, Repr

namespace Token

/-- The bytes that a text takes up in UTF-8. -/
def byteLength : List Char → Nat
  | [] => 0
  | c :: cs => c.utf8Size + byteLength cs

/-- The characters that begin a quoted value. -/
def isQuote (c : Char) : Bool := c == '"' || c == '\''

/-- The characters that a bare word can hold. -/
def isWordChar (c : Char) : Bool := !(Text.isBlank c || c == '(' || c == ')' || isQuote c)

/-- What follows the opening quote `q` of a value: the value, and the text after the closing
quote. -/
def unquote? (q : Char) : List Char → Option (List Char × List Char)
  | [] => none
  | '\\' :: c :: cs => (unquote? q cs).map fun (value, rest) => (c :: value, rest)
  | c :: cs =>
    if c = q then some ([], cs)
    else (unquote? q cs).map fun (value, rest) => (c :: value, rest)

/-- The characters of a value with a backslash before each that has a special meaning. -/
def escaped : List Char → List Char
  | [] => []
  | c :: cs => if c = '"' || c = '\\' then '\\' :: c :: escaped cs else c :: escaped cs

/-- A value in double quotes. -/
def quoteChars (value : List Char) : List Char := '"' :: (escaped value ++ ['"'])

/-- A value in double quotes, as query text. -/
def quote (value : String) : String := String.ofList (quoteChars value.toList)

theorem byteLength_append (cs ds : List Char) :
    byteLength (cs ++ ds) = byteLength cs + byteLength ds := by
  induction cs with
  | nil => rw [List.nil_append, byteLength, Nat.zero_add]
  | cons c cs ih => rw [List.cons_append, byteLength, byteLength, ih, Nat.add_assoc]

theorem unquote?_length {q : Char} {cs value rest : List Char}
    (h : unquote? q cs = some (value, rest)) : rest.length < cs.length := by
  fun_induction unquote? q cs generalizing value rest with
  | case1 => simp at h
  | case2 c cs ih =>
    obtain ⟨⟨value', rest'⟩, e, h⟩ := Option.map_eq_some_iff.1 h
    simp only [Prod.mk.injEq] at h
    have := ih e
    simp only [List.length_cons, ← h.2]
    omega
  | case3 cs => simp_all
  | case4 c cs _ _ ih =>
    obtain ⟨⟨value', rest'⟩, e, h⟩ := Option.map_eq_some_iff.1 h
    simp only [Prod.mk.injEq] at h
    have := ih e
    simp only [List.length_cons, ← h.2]
    omega

/-- The first token of a text that begins at the given place, with the text after it. There is none
when only blanks are left. -/
def readFrom (offset : Nat) : (cs : List Char) → Except QueryError (List Lexeme)
  | [] => .ok []
  | c :: cs =>
    if Text.isBlank c then readFrom (offset + c.utf8Size) cs
    else if c = '(' then do
      return ⟨openParen, offset⟩ :: (← readFrom (offset + c.utf8Size) cs)
    else if c = ')' then do
      return ⟨closeParen, offset⟩ :: (← readFrom (offset + c.utf8Size) cs)
    else if isQuote c then
      match h : unquote? c cs with
      | none => .error (.grammar offset .unterminatedQuote)
      | some (value, rest) => do
        have := unquote?_length h
        return ⟨quoted (String.ofList value), offset⟩ ::
          (← readFrom (offset + (byteLength (c :: cs) - byteLength rest)) rest)
    else do
      have : (cs.dropWhile isWordChar).length ≤ cs.length := (List.dropWhile_suffix _).length_le
      let word := c :: cs.takeWhile isWordChar
      return ⟨Token.word (String.ofList (Text.lower word)), offset⟩ ::
        (← readFrom (offset + byteLength word) (cs.dropWhile isWordChar))
  termination_by cs => cs.length

/-- The tokens of a query text. -/
def tokenize (s : String) : Except QueryError (List Lexeme) := readFrom 0 s.toList

/-! ## Reading what is quoted -/

/-- The quoted form of a value is read back, and the text after it is left. -/
theorem unquote?_quote (value rest : List Char) :
    unquote? '"' (escaped value ++ '"' :: rest) = some (value, rest) := by
  induction value with
  | nil => simp [escaped, unquote?]
  | cons c value ih =>
    by_cases h : c = '"' ∨ c = '\\'
    · simp [escaped, h, unquote?, ih]
    · simp only [not_or] at h
      simp [escaped, h, unquote?, ih]

end Token

end BuildQuery
