import BuildQuery.Field

/-!
# Operators

An operator is a comparison with a polarity; the negated polarity is the complement of the natural
one. Query text spells an operator as a phrase of one to four words. Main statements: `negated`
flips the outcome (`apply_negated`) and is an involution (`negated_negated`), and no two operators
share a phrase (`words_injective`).
-/

namespace BuildQuery

/-- What a test compares. -/
inductive Comparison where
  | is
  | contains
  | greaterThan
  | lessThan
  | before
  | after
  deriving DecidableEq, Repr

/-- Whether a comparison or its complement is meant. -/
inductive Polarity where
  | natural
  | negated
  deriving DecidableEq, Repr

/-- A comparison with a polarity. -/
structure Operator where
  comparison : Comparison
  polarity : Polarity
  deriving DecidableEq, Repr

/-- Every comparison, in order. -/
def Comparison.all : List Comparison := [is, contains, greaterThan, lessThan, before, after]

/-- The comparisons that a test of the field can make. -/
def Field.comparisons : Field → List Comparison
  | project | status => [.is]
  | number => [.is, .greaterThan, .lessThan]
  | submitDate => [.before, .after]
  | job | version | branch | tag | submitter => [.is, .contains]

/-- The polarity turned around. -/
def Polarity.opposite : Polarity → Polarity
  | natural => negated
  | negated => natural

namespace Operator

/-- Every operator, each comparison in its natural polarity first. -/
def all : List Operator := Comparison.all.flatMap fun c => [⟨c, .natural⟩, ⟨c, .negated⟩]

/-- The same comparison in the opposite polarity. -/
def negated (op : Operator) : Operator := ⟨op.comparison, op.polarity.opposite⟩

/-- Whether the complement of the comparison is meant. -/
def isNegated (op : Operator) : Bool := op.polarity == .negated

/-- The outcome of a test, from the outcome of its natural comparison. -/
def apply (op : Operator) (natural : Bool) : Bool :=
  match op.polarity with
  | .natural => natural
  | .negated => !natural

/-- The phrase of an operator, word by word. -/
def words : Operator → List String
  | ⟨.is, .natural⟩ => ["is"]
  | ⟨.is, .negated⟩ => ["is", "not"]
  | ⟨.contains, .natural⟩ => ["contains"]
  | ⟨.contains, .negated⟩ => ["does", "not", "contain"]
  | ⟨.greaterThan, .natural⟩ => ["is", "greater", "than"]
  | ⟨.greaterThan, .negated⟩ => ["is", "not", "greater", "than"]
  | ⟨.lessThan, .natural⟩ => ["is", "less", "than"]
  | ⟨.lessThan, .negated⟩ => ["is", "not", "less", "than"]
  | ⟨.before, .natural⟩ => ["is", "before"]
  | ⟨.before, .negated⟩ => ["is", "not", "before"]
  | ⟨.after, .natural⟩ => ["is", "after"]
  | ⟨.after, .negated⟩ => ["is", "not", "after"]

/-- The phrase of an operator as query text. -/
def keyword (op : Operator) : String := String.intercalate " " op.words

/-- Every operator, longer phrases before shorter ones, so that the first phrase found at the front
of a text is the longest one there. -/
def longestFirst : List Operator :=
  [4, 3, 2, 1].flatMap fun n => all.filter fun op => op.words.length == n

theorem mem_all (op : Operator) : op ∈ all := by
  rcases op with ⟨c, p⟩
  cases c <;> cases p <;> decide

theorem mem_longestFirst (op : Operator) : op ∈ longestFirst := by
  rcases op with ⟨c, p⟩
  cases c <;> cases p <;> decide

@[simp] theorem negated_negated (op : Operator) : op.negated.negated = op := by
  rcases op with ⟨c, p⟩
  cases p <;> rfl

@[simp] theorem comparison_negated (op : Operator) : op.negated.comparison = op.comparison := rfl

@[simp] theorem isNegated_negated (op : Operator) : op.negated.isNegated = !op.isNegated := by
  rcases op with ⟨c, p⟩
  cases p <;> rfl

theorem apply_eq (op : Operator) (b : Bool) :
    op.apply b = if op.isNegated then !b else b := by
  rcases op with ⟨c, p⟩
  cases p <;> rfl

@[simp] theorem apply_negated (op : Operator) (b : Bool) : op.negated.apply b = !op.apply b := by
  rcases op with ⟨c, p⟩
  cases p <;> simp [apply, negated, Polarity.opposite]

theorem words_injective {op op' : Operator} (h : op.words = op'.words) : op = op' := by
  have key : ∀ o ∈ all, ∀ o' ∈ all, o.words = o'.words → o = o' := by decide
  exact key op (mem_all op) op' (mem_all op') h

end Operator

end BuildQuery
