/-!
# Values read from the front of an input
-/

namespace BuildQuery

/-- A value read from the front of a list, together with what follows it. At least one element was
read, so what follows is shorter than the list. -/
structure Parsed {τ : Type} (α : Type) (input : List τ) where
  value : α
  rest : List τ
  shorter : rest.length < input.length

namespace Parsed

variable {τ α : Type} {input : List τ}

/-- The same reading of a longer input, the end of which is what was left before. -/
def widen {longer : List τ} (p : Parsed α input) (h : input.length ≤ longer.length) :
    Parsed α longer :=
  ⟨p.value, p.rest, Nat.lt_of_lt_of_le p.shorter h⟩

/-- The same reading with another value. -/
def map {β : Type} (f : α → β) (p : Parsed α input) : Parsed β input :=
  ⟨f p.value, p.rest, p.shorter⟩

@[simp] theorem value_widen {longer : List τ} (p : Parsed α input)
    (h : input.length ≤ longer.length) : (p.widen h).value = p.value := rfl

@[simp] theorem rest_widen {longer : List τ} (p : Parsed α input)
    (h : input.length ≤ longer.length) : (p.widen h).rest = p.rest := rfl

@[simp] theorem value_map {β : Type} (f : α → β) (p : Parsed α input) :
    (p.map f).value = f p.value := rfl

@[simp] theorem rest_map {β : Type} (f : α → β) (p : Parsed α input) : (p.map f).rest = p.rest :=
  rfl

end Parsed

end BuildQuery
