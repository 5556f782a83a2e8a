import BuildQuery.Criteria.Basic
import BuildQuery.Criteria.Token
import BuildQuery.Parsed

/-!
# Criteria read from query text

The grammar of queries, from loosest to tightest binding:

* alternatives joined by `or`, grouped to the left;
* criteria joined by `and`, grouped to the left;
* `not` before a criterion;
* a query in parentheses, `submitted by me`, or a test: a quoted field name, the phrase of an
  operator and a quoted operand.

Each function reads one of these from the front of the tokens; `stop` is the length of the text,
which is where a fault lies when the tokens end too early.
-/

namespace BuildQuery.Criteria

/-- The place of the first token, or the end of the text. -/
def placeOf (stop : Nat) : List Lexeme → Nat
  | [] => stop
  | l :: _ => l.offset

/-- A fault at the first token. -/
def faultAt {α : Type} (stop : Nat) (ts : List Lexeme) (fault : GrammarFault) :
    Except QueryError α :=
  .error (.grammar (placeOf stop ts) fault)

/-- The tokens after the given words. -/
def afterWords? : List String → List Lexeme → Option (List Lexeme)
  | [], ts => some ts
  | _ :: _, [] => none
  | w :: ws, l :: ts => if l.token = .word w then afterWords? ws ts else none

/-- The operator with the longest phrase at the front, and the tokens after the phrase. -/
def operator? (ts : List Lexeme) : Option (Operator × List Lexeme) :=
  Operator.longestFirst.findSome? fun op => (afterWords? op.words ts).map fun rest => (op, rest)

theorem afterWords?_length {ws : List String} {ts rest : List Lexeme}
    (h : afterWords? ws ts = some rest) : ts.length = ws.length + rest.length := by
  fun_induction afterWords? ws ts with
  | case1 => simp_all
  | case2 => simp at h
  | case3 w ws l ts _ ih =>
    have := ih h
    simp only [List.length_cons]
    omega
  | case4 => simp at h

theorem operator?_length {ts rest : List Lexeme} {op : Operator}
    (h : operator? ts = some (op, rest)) : rest.length ≤ ts.length := by
  obtain ⟨op', _, h⟩ := List.exists_of_findSome?_eq_some h
  obtain ⟨rest', e, h⟩ := Option.map_eq_some_iff.1 h
  have := afterWords?_length e
  simp only [Prod.mk.injEq] at h
  rw [← h.2]
  omega

/-- What follows `submitted`. -/
def mine (stop : Nat) (ts : List Lexeme) : Except QueryError (Parsed Criteria ts) :=
  match ts with
  | [] => faultAt stop [] (.expectedWord "by")
  | l :: ts =>
    if l.token = .word "by" then
      match ts with
      | [] => faultAt stop [] (.expectedWord "me")
      | l :: ts =>
        if l.token = .word "me" then
          .ok ⟨.leaf .submittedByMe, ts, by simp only [List.length_cons]; omega⟩
        else faultAt stop (l :: ts) (.expectedWord "me")
    else faultAt stop (l :: ts) (.expectedWord "by")

/-- What follows the name of a field. -/
def test (stop : Nat) (name : String) (ts : List Lexeme) :
    Except QueryError (Parsed Criteria ts) :=
  match Field.ofName? name with
  | none => .error (.unknownField name)
  | some field =>
    match h : operator? ts with
    | none => faultAt stop ts .expectedOperator
    | some (op, ⟨.quoted operand, _⟩ :: rest) =>
      match Leaf.ofOperand field operand op with
      | .error e => .error (.operand e)
      | .ok found => .ok ⟨.leaf found, rest, operator?_length h⟩
    | some (_, rest) => faultAt stop rest .expectedQuoted

mutual

/-- Criteria joined by `or`. -/
def alternatives (stop : Nat) (ts : List Lexeme) : Except QueryError (Parsed Criteria ts) := do
  let left ← conjunction stop ts
  have := left.shorter
  moreAlternatives stop left
termination_by (ts.length, 3)

/-- What `left` and any further criteria joined to it by `or` make up. -/
def moreAlternatives (stop : Nat) {ts : List Lexeme} (left : Parsed Criteria ts) :
    Except QueryError (Parsed Criteria ts) :=
  match h : left.rest with
  | [] => .ok left
  | l :: rest =>
    if l.token = .word "or" then do
      have front : rest.length < left.rest.length := by simp [h]
      let right ← conjunction stop rest
      have shorter := Nat.lt_trans right.shorter front
      moreAlternatives stop
        ⟨.or left.value right.value, right.rest, Nat.lt_trans shorter left.shorter⟩
    else .ok left
termination_by (left.rest.length, 0)

/-- Criteria joined by `and`. -/
def conjunction (stop : Nat) (ts : List Lexeme) : Except QueryError (Parsed Criteria ts) := do
  let left ← negation stop ts
  have := left.shorter
  moreConjuncts stop left
termination_by (ts.length, 2)

/-- What `left` and any further criteria joined to it by `and` make up. -/
def moreConjuncts (stop : Nat) {ts : List Lexeme} (left : Parsed Criteria ts) :
    Except QueryError (Parsed Criteria ts) :=
  match h : left.rest with
  | [] => .ok left
  | l :: rest =>
    if l.token = .word "and" then do
      have front : rest.length < left.rest.length := by simp [h]
      let right ← negation stop rest
      have shorter := Nat.lt_trans right.shorter front
      moreConjuncts stop
        ⟨.and left.value right.value, right.rest, Nat.lt_trans shorter left.shorter⟩
    else .ok left
termination_by (left.rest.length, 0)

/-- A criterion with any number of `not` before it. -/
def negation (stop : Nat) (ts : List Lexeme) : Except QueryError (Parsed Criteria ts) :=
  match ts with
  | [] => primary stop []
  | l :: ts =>
    if l.token = .word "not" then do
      let inner ← negation stop ts
      return (inner.map Criteria.not).widen (Nat.le_succ _)
    else primary stop (l :: ts)
termination_by (ts.length, 1)

/-- A criterion that binds tightest. -/
def primary (stop : Nat) (ts : List Lexeme) : Except QueryError (Parsed Criteria ts) :=
  match ts with
  | ⟨.openParen, _⟩ :: ts => do
    let inner ← alternatives stop ts
    match h : inner.rest with
    | ⟨.closeParen, _⟩ :: rest =>
      have := inner.shorter
      return ⟨.group inner.value, rest, by simp only [h, List.length_cons] at this ⊢; omega⟩
    | rest => faultAt stop rest .expectedClose
  | ⟨.word w, offset⟩ :: ts =>
    if w = "submitted" then do
      let inner ← mine stop ts
      return inner.widen (Nat.le_succ _)
    else faultAt stop (⟨.word w, offset⟩ :: ts) .expectedCriteria
  | ⟨.quoted name, _⟩ :: ts => do
    let inner ← test stop name ts
    return inner.widen (Nat.le_succ _)
  | ts => faultAt stop ts .expectedCriteria
termination_by (ts.length, 0)

end

/-- The query that the tokens of a text of length `stop` make up. -/
def ofTokens (stop : Nat) (ts : List Lexeme) : Except QueryError Criteria := do
  if ts.isEmpty then throw (.grammar 0 .emptyQuery)
  let query ← alternatives stop ts
  if query.rest.isEmpty then return query.value
  else faultAt stop query.rest .trailingInput

/-- The query that a text writes. -/
def parse (s : String) : Except QueryError Criteria := do
  let ts ← Token.tokenize s
  ofTokens (Token.byteLength s.toList) ts

end BuildQuery.Criteria
