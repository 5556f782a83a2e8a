import BuildQuery.Proofs.Grammar
import BuildQuery.Proofs.OperandText
import BuildQuery.Proofs.Regrouping
import BuildQuery.Proofs.Spelling

/-!
# Queries read back from their text

The tokens of a query derive the query as its text groups it (`derives_tokens`), so this is what is
read of its text (`parse_render`). Main statement: the text of every query is read, and the query
read from it has the same text, the same leaves, the same predicate and the same outcome for every
entity (`read_written`).
-/

namespace BuildQuery.Criteria

/-- The layer of the grammar that a criterion belongs to. -/
def layer : Criteria → Layer
  | or .. => .alternatives
  | and .. => .conjunction
  | not _ => .negation
  | leaf _ | group _ => .primary

@[simp] theorem precedence_layer (c : Criteria) : c.layer.precedence = c.precedence := by
  cases c <;> rfl

/-! ## Chains -/

/-- What is read between `and` is no conjunction itself. -/
theorem andJoin_of_derives {ts : List Token} {r : Criteria} (h : Derives .negation ts r)
    (l : Criteria) : l.andJoin r = and l r := by
  cases h with
  | primary h => cases h <;> rfl
  | not => rfl

/-- What is read between `or` is no disjunction itself. -/
theorem orJoin_of_derives {ts : List Token} {r : Criteria} (h : Derives .conjunction ts r)
    (l : Criteria) : l.orJoin r = or l r := by
  cases h with
  | negation h =>
    cases h with
    | primary h => cases h <;> rfl
    | not => rfl
  | and => rfl

theorem derives_andJoin {ts us : List Token} {l r : Criteria} (hl : Derives .conjunction ts l)
    (hr : Derives .conjunction us r) :
    Derives .conjunction (ts ++ .word "and" :: us) (l.andJoin r) := by
  -- on the right side, from which the parts go over one by one
  induction r generalizing us with
  | and a b ih =>
    cases hr with
    | negation h => rw [andJoin_of_derives h]; exact hl.and h
    | and ha hb =>
      have step := (ih ha).and hb
      rwa [List.append_assoc] at step
  | leaf | or | not | group =>
    cases hr with
    | negation h => exact hl.and h

theorem derives_orJoin {ts us : List Token} {l r : Criteria} (hl : Derives .alternatives ts l)
    (hr : Derives .alternatives us r) :
    Derives .alternatives (ts ++ .word "or" :: us) (l.orJoin r) := by
  induction r generalizing us with
  | or a b ih =>
    cases hr with
    | conjunction h => rw [orJoin_of_derives h]; exact hl.or h
    | or ha hb =>
      have step := (ih ha).or hb
      rwa [List.append_assoc] at step
  | leaf | and | not | group =>
    cases hr with
    | conjunction h => exact hl.or h

/-! ## Queries -/

theorem derives_leaf (l : Leaf) : Derives .primary l.tokens (leaf l) := by
  unfold Leaf.tokens
  cases h : l.operator? with
  | some op => exact .test (Field.ofName?_name l.field) (Leaf.ofOperand_operandText h)
  | none =>
    obtain rfl : l = .submittedByMe := by
      cases l with
      | submittedByMe => rfl
      | text | project | number | status | date => contradiction
    exact .mine

theorem derives_inside {c d : Criteria} {ts : List Token} (outer : Layer)
    (h : Derives c.layer ts d) :
    Derives outer (tokensInside outer.precedence c.precedence ts)
      (enclosed outer.precedence c.precedence d) := by
  unfold tokensInside enclosed
  by_cases looser : c.precedence < outer.precedence
  · rw [if_pos looser, if_pos looser]
    exact (Derives.group h.whole).loosen (by cases outer <;> decide)
  · rw [if_neg looser, if_neg looser]
    exact h.loosen (by rw [precedence_layer]; exact Nat.not_lt.1 looser)

/-- The tokens of a query derive the query as its text groups it. -/
theorem derives_tokens (c : Criteria) : Derives c.layer c.tokens c.asRead := by
  induction c with
  | leaf l => exact derives_leaf l
  | and l r ihl ihr =>
    exact derives_andJoin (derives_inside .conjunction ihl) (derives_inside .conjunction ihr)
  | or l r ihl ihr =>
    exact derives_orJoin (derives_inside .alternatives ihl) (derives_inside .alternatives ihr)
  | not c ih => exact (derives_inside .negation ih).not
  | group c ih => exact .group ih.whole

/-- A text is read as the query that the tokens derive which it spells. -/
theorem parse_of_spells {s : String} {layer : Layer} {ts : List Token} {c : Criteria}
    (spelt : Token.Spells s.toList ts) (h : Derives layer ts c) : parse s = .ok c := by
  obtain ⟨ls, read, e⟩ := Token.tokenize_of_spells spelt
  refine parse_of_derives read ?_
  rw [e]
  exact h.whole

/-- The text of a query is read as the query grouped like the text. -/
theorem parse_render (c : Criteria) : parse c.render = .ok c.asRead :=
  parse_of_spells c.spells_render c.derives_tokens

/-- The text of a query is read as a query that nothing tells apart from it but its grouping. -/
theorem read_written (c : Criteria) : ∃ c', parse c.render = .ok c' ∧ c'.render = c.render ∧
    c'.leaves = c.leaves ∧ (∀ ctx, c'.compile ctx = c.compile ctx) ∧
    ∀ entity ctx, c'.holds entity ctx = c.holds entity ctx := by
  have alike := alike_asRead 0 c
  exact ⟨c.asRead, c.parse_render, alike.render, alike.leaves, alike.compile, alike.holds⟩

end BuildQuery.Criteria
