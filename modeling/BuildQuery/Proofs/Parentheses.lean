import BuildQuery.Proofs.Canonical
import BuildQuery.Proofs.UnmappedFields

/-!
# Parentheses that are needed

The text of a query has implicit parentheses around an operand that binds looser than its place asks
for. When such parentheses are left out, the loose connective of the operand takes over: its last
part binds to what follows, its first part to what stands before, and the connective ends up at the
top of what is read (`exists_not_derived`, `exists_and_derived`). The predicate has it at the top
too, where that of the query has another one.

Main statement: a text that lacks implicit parentheses of a query is read as a query with another
predicate, and a text that lacks none as one with the same predicate (`parentheses_needed`).
-/

namespace BuildQuery.Criteria

/-! ## Texts without some of their parentheses -/

/-- Whether the text of a query has implicit parentheses around its first operand. -/
def wrapsFirst : Criteria → Bool
  | and (or ..) _ | not (or ..) | not (and ..) => true
  | _ => false

/-- Whether the text of a query has implicit parentheses around its second operand. -/
def wrapsSecond : Criteria → Bool
  | and _ (or ..) => true
  | _ => false

/-- The text of an operand in its place, without implicit parentheses when it is bare. -/
def operandText (outer : Nat) (bare : Bool) (c : Criteria) : String :=
  if bare then c.render else inside outer c.precedence c.render

/-- The text of a query, without the implicit parentheses around those of its operands that are
bare. -/
def renderBare (first second : Bool) : Criteria → String
  | leaf l => l.render
  | and l r => operandText 2 first l ++ " and " ++ operandText 2 second r
  | or l r => operandText 1 first l ++ " or " ++ operandText 1 second r
  | not c => "not " ++ operandText 3 first c
  | group c => parenthesized c.render

/-- Whether parentheses are missing where the given operands are bare. -/
def lacksParens (first second : Bool) (c : Criteria) : Bool :=
  (first && c.wrapsFirst) || (second && c.wrapsSecond)

/-! ## What is read without them -/

section Derived

variable {layer : Layer} {ts us : List Token} {c d : Criteria}

@[simp] theorem precedence_andJoin (l r : Criteria) : (l.andJoin r).precedence = 2 := by
  cases r <;> rfl

@[simp] theorem precedence_orJoin (l r : Criteria) : (l.orJoin r).precedence = 1 := by
  cases r <;> rfl

/-- What is derived anywhere is derived wherever it binds tight enough. -/
theorem Derives.tighten {layer' : Layer} (h : Derives layer ts c)
    (tight : layer'.precedence ≤ c.precedence) : Derives layer' ts c := by
  have own : Derives c.layer ts c := by
    induction h with
    | conjunction _ ih | negation _ ih | primary _ ih => exact ih tight
    | or left right => exact left.or right
    | and left right => exact left.and right
    | not h => exact h.not
    | group h => exact .group h
    | mine => exact .mine
    | test named accepted => exact .test named accepted
  exact own.loosen (by rwa [precedence_layer])

/-- In front of a query, `not` takes the first part of its first alternative. -/
theorem exists_not_derived (h : Derives layer ts c) :
    ∃ e, Derives .alternatives (.word "not" :: ts) e ∧ e.precedence = min 3 c.precedence := by
  induction h with
  | conjunction _ ih | negation _ ih | primary _ ih => exact ih
  | or _ right ih _ =>
    obtain ⟨e, he, -⟩ := ih
    exact ⟨or e _, he.or right, rfl⟩
  | @and _ _ l _ left right ih _ =>
    obtain ⟨e, he, tight⟩ := ih
    have chain : 2 ≤ l.precedence := (isCanonical_of_derives left).1
    have front : Derives .conjunction _ e := he.tighten (by
      rw [tight]
      exact Nat.le_min.2 ⟨by decide, chain⟩)
    exact ⟨and e _, (front.and right).whole, rfl⟩
  | not h => exact ⟨not (not _), h.not.not.whole, rfl⟩
  | group h => exact ⟨not (group _), (Derives.group h).primary.not.whole, rfl⟩
  | mine => exact ⟨not _, Derives.mine.primary.not.whole, rfl⟩
  | test named accepted => exact ⟨not _, (Derives.test named accepted).primary.not.whole, rfl⟩

/-- Behind a conjunction, `and` takes the first alternative of what follows. -/
theorem exists_and_derived_right (left : Derives .conjunction ts c) (h : Derives layer us d) :
    ∃ e, Derives .alternatives (ts ++ .word "and" :: us) e ∧
      e.precedence = min 2 d.precedence := by
  have joined {us : List Token} {d : Criteria} (right : Derives .conjunction us d) :
      ∃ e, Derives .alternatives (ts ++ .word "and" :: us) e ∧
        e.precedence = min 2 d.precedence := by
    have chain : 2 ≤ d.precedence := (isCanonical_of_derives right).1
    refine ⟨c.andJoin d, (derives_andJoin left right).whole, ?_⟩
    rw [precedence_andJoin, Nat.min_eq_left chain]
  -- on the query behind, from which the later alternatives are taken off
  induction d generalizing layer us with
  | or l r ih =>
    cases h.whole with
    | conjunction right => exact joined right
    | or first second =>
      obtain ⟨e, he, -⟩ := ih first
      have whole := he.or second
      rw [List.append_assoc, List.cons_append] at whole
      exact ⟨or e r, whole, rfl⟩
  | leaf | and | not | group =>
    cases h.whole with
    | conjunction right => exact joined right

/-- Between two queries, `and` takes the last alternative of the first one and the first alternative
of the second one. -/
theorem exists_and_derived (left : Derives .alternatives ts c)
    (right : Derives .alternatives us d) :
    ∃ e, Derives .alternatives (ts ++ .word "and" :: us) e ∧
      e.precedence = min 2 (min c.precedence d.precedence) := by
  cases left with
  | conjunction left =>
    have chain : 2 ≤ c.precedence := (isCanonical_of_derives left).1
    rw [← Nat.min_assoc, Nat.min_eq_left chain]
    exact exists_and_derived_right left right
  | @or _ _ l r before last =>
    obtain ⟨e, he, -⟩ := exists_and_derived_right last right
    have whole := derives_orJoin before he
    rw [← List.cons_append, ← List.append_assoc] at whole
    have loosest : min (or l r).precedence d.precedence = 1 := Nat.min_eq_left d.precedence_pos
    exact ⟨l.orJoin e, whole, by rw [precedence_orJoin, loosest]; rfl⟩

end Derived

/-! ## Bare operands -/

/-- The tokens of an operand in its place, without implicit parentheses when it is bare. -/
def operandTokens (outer : Nat) (bare : Bool) (c : Criteria) : List Token :=
  if bare then c.tokens else tokensInside outer c.precedence c.tokens

/-- How tight the text of an operand binds in its place. -/
def operandPrecedence (outer : Nat) (bare : Bool) (c : Criteria) : Nat :=
  if bare then c.precedence else if c.precedence < outer then 4 else c.precedence

/-- The tokens of a query, without the implicit parentheses around operands that are bare. -/
def bareTokens (first second : Bool) : Criteria → List Token
  | leaf l => l.tokens
  | and l r => operandTokens 2 first l ++ .word "and" :: operandTokens 2 second r
  | or l r => operandTokens 1 first l ++ .word "or" :: operandTokens 1 second r
  | not c => .word "not" :: operandTokens 3 first c
  | group c => parenthesizedTokens c.tokens

@[simp] theorem precedence_asRead (c : Criteria) : c.asRead.precedence = c.precedence := by
  cases c with
  | and l r => exact precedence_andJoin _ _
  | or l r => exact precedence_orJoin _ _
  | leaf | not | group => rfl

theorem spells_operandText (outer : Nat) (bare : Bool) (c : Criteria) :
    Token.Spells (operandText outer bare c).toList (operandTokens outer bare c) := by
  cases bare with
  | true => exact c.spells_render
  | false => exact spells_inside c.spells_render

theorem exists_operand_derived (outer : Layer) (bare : Bool) (c : Criteria) :
    ∃ e, Derives .alternatives (operandTokens outer.precedence bare c) e ∧
      e.precedence = operandPrecedence outer.precedence bare c := by
  cases bare with
  | true => exact ⟨c.asRead, c.derives_tokens.whole, c.precedence_asRead⟩
  | false =>
    refine ⟨_, (derives_inside outer c.derives_tokens).whole, ?_⟩
    unfold enclosed operandPrecedence
    split
    · rfl
    · exact c.precedence_asRead

theorem spells_renderBare (first second : Bool) (c : Criteria) :
    Token.Spells (c.renderBare first second).toList (c.bareTokens first second) := by
  cases c with
  | leaf l => exact l.spells_render
  | and l r =>
    exact spells_joined (w := "and") (by decide) (spells_operandText 2 first l)
      (spells_operandText 2 second r)
  | or l r =>
    exact spells_joined (w := "or") (by decide) (spells_operandText 1 first l)
      (spells_operandText 1 second r)
  | not c =>
    rw [renderBare, String.toList_append]
    exact (Token.spells_word (w := "not") (by decide)).append (spells_operandText 3 first c).blank
      (by decide)
  | group c => exact spells_parenthesized c.spells_render

/-! ## Parentheses that are missing -/

section Missing

variable {first second : Bool} {c : Criteria}

theorem wrapsFirst_and (l r : Criteria) : (and l r).wrapsFirst = decide (l.precedence < 2) := by
  cases l <;> rfl

theorem wrapsSecond_and (l r : Criteria) : (and l r).wrapsSecond = decide (r.precedence < 2) := by
  cases r <;> rfl

theorem wrapsFirst_not (c : Criteria) : (not c).wrapsFirst = decide (c.precedence < 3) := by
  cases c <;> rfl

/-- Parentheses are missing around a loose operand of a conjunction or of a negation. -/
theorem lacksParens_iff : c.lacksParens first second = true ↔
    (∃ l r, c = and l r ∧ (first = true ∧ l.precedence < 2 ∨ second = true ∧ r.precedence < 2)) ∨
      ∃ d, c = not d ∧ first = true ∧ d.precedence < 3 := by
  cases c with
  | and l r => simp [lacksParens, wrapsFirst_and, wrapsSecond_and]
  | not d => simp [lacksParens, wrapsFirst_not, wrapsSecond]
  | leaf | or | group => simp [lacksParens, wrapsFirst, wrapsSecond]

/-- Where no parentheses are missing, the operands have those that they need. -/
theorem operandText_eq_inside {outer : Nat} {bare : Bool}
    (tight : bare = true → outer ≤ c.precedence) :
    operandText outer bare c = inside outer c.precedence c.render := by
  cases bare with
  | true => exact (inside_eq_self (tight rfl) c.render).symm
  | false => rfl

theorem renderBare_eq_render (h : c.lacksParens first second = false) :
    c.renderBare first second = c.render := by
  rw [Bool.eq_false_iff, ne_eq, lacksParens_iff] at h
  cases c with
  | leaf | group => rfl
  | and l r =>
    have left : first = true → 2 ≤ l.precedence := fun bare =>
      Nat.not_lt.1 fun loose => h (.inl ⟨l, r, rfl, .inl ⟨bare, loose⟩⟩)
    have right : second = true → 2 ≤ r.precedence := fun bare =>
      Nat.not_lt.1 fun loose => h (.inl ⟨l, r, rfl, .inr ⟨bare, loose⟩⟩)
    rw [renderBare, operandText_eq_inside left, operandText_eq_inside right, render]
  | or l r =>
    rw [renderBare, operandText_eq_inside fun _ => l.precedence_pos,
      operandText_eq_inside fun _ => r.precedence_pos, render]
  | not d =>
    have tight : first = true → 3 ≤ d.precedence := fun bare =>
      Nat.not_lt.1 fun loose => h (.inr ⟨d, rfl, bare, loose⟩)
    rw [renderBare, operandText_eq_inside tight, render]

/-- Where parentheses are missing, something looser than the query is read. -/
theorem exists_bare_derived (h : c.lacksParens first second = true) :
    ∃ e, Derives .alternatives (c.bareTokens first second) e ∧ e.precedence < c.precedence := by
  obtain ⟨l, r, rfl, loose⟩ | ⟨d, rfl, rfl, loose⟩ := lacksParens_iff.1 h
  · obtain ⟨l', hl, tight⟩ := exists_operand_derived .conjunction first l
    obtain ⟨r', hr, tight'⟩ := exists_operand_derived .conjunction second r
    obtain ⟨e, he, loosest⟩ := exists_and_derived hl hr
    have loose' : l'.precedence < 2 ∨ r'.precedence < 2 := by
      rcases loose with ⟨rfl, loose⟩ | ⟨rfl, loose⟩
      · exact .inl (tight ▸ loose)
      · exact .inr (tight' ▸ loose)
    refine ⟨e, he, ?_⟩
    show e.precedence < 2
    omega
  · obtain ⟨d', hd, tight⟩ := exists_operand_derived .negation true d
    obtain ⟨e, he, loosest⟩ := exists_not_derived hd
    have loose' : d'.precedence < 3 := tight ▸ loose
    refine ⟨e, he, ?_⟩
    show e.precedence < 3
    omega

variable {ctx : QueryContext} {p q : Predicate}

/-- The predicate of a loose query has the connective of the query at its top. -/
theorem compile_of_loose (h : c.compile ctx = .ok p) (loose : c.precedence < 3) :
    (c.precedence = 1 ∧ ∃ parts, p = .or parts) ∨ c.precedence = 2 ∧ ∃ parts, p = .and parts := by
  cases c with
  | and l r =>
    obtain ⟨a, b, -, -, rfl⟩ := compile_and_eq_ok_iff.1 h
    exact .inr ⟨rfl, _, rfl⟩
  | or l r =>
    obtain ⟨a, b, -, -, rfl⟩ := compile_or_eq_ok_iff.1 h
    exact .inl ⟨rfl, _, rfl⟩
  | not => exact absurd loose (Nat.lt_irrefl 3)
  | leaf | group => exact absurd loose (Nat.not_lt.2 (Nat.le_succ 3))

/-- What is looser than a query that lacks parentheses has another predicate. -/
theorem compile_ne_of_looser {e : Criteria} (h : c.lacksParens first second = true)
    (looser : e.precedence < c.precedence) (compiled : c.compile ctx = .ok p)
    (compiled' : e.compile ctx = .ok q) : q ≠ p := by
  obtain ⟨l, r, rfl, -⟩ | ⟨d, rfl, -, loose⟩ := lacksParens_iff.1 h
  · obtain ⟨a, b, -, -, rfl⟩ := compile_and_eq_ok_iff.1 compiled
    have below : e.precedence < 2 := looser
    obtain ⟨-, parts, rfl⟩ | ⟨chain, -⟩ := compile_of_loose compiled' (Nat.lt_succ_of_lt below)
    · exact nofun
    · exact absurd chain (Nat.ne_of_lt below)
  · obtain ⟨a, ha, rfl⟩ := compile_not_eq_ok_iff.1 compiled
    -- the predicate of the operand is negated as a whole
    have negated : a.negate = .not a := by
      obtain ⟨-, parts, rfl⟩ | ⟨-, parts, rfl⟩ := compile_of_loose ha loose
      · rfl
      · rfl
    rw [negated]
    obtain ⟨-, parts, rfl⟩ | ⟨-, parts, rfl⟩ := compile_of_loose compiled' looser
    · exact nofun
    · exact nofun

/-- The text of a query without some of the implicit parentheses around its operands is read. When
none are missing, it is the text of the query, and the predicate is that of the query under every
context. When some are missing, the predicate is another one under every context that has a column
for every field. -/
theorem parentheses_needed (c : Criteria) (first second : Bool) :
    ∃ d, parse (c.renderBare first second) = .ok d ∧
      (c.lacksParens first second = false →
        c.renderBare first second = c.render ∧ ∀ ctx, d.compile ctx = c.compile ctx) ∧
      (c.lacksParens first second = true →
        ∀ ctx : QueryContext, (∀ f, ∃ column, ctx.schema.column? f = some column) →
          ∃ p q, c.compile ctx = .ok p ∧ d.compile ctx = .ok q ∧ q ≠ p) := by
  cases h : c.lacksParens first second with
  | false =>
    obtain ⟨d, read, -, -, same, -⟩ := c.read_written
    rw [renderBare_eq_render h]
    exact ⟨d, read, fun _ => ⟨rfl, same⟩, nofun⟩
  | true =>
    obtain ⟨d, derived, looser⟩ := exists_bare_derived h
    refine ⟨d, parse_of_spells (spells_renderBare first second c) derived, nofun,
      fun _ ctx mapped => ?_⟩
    obtain ⟨p, compiled⟩ := exists_compile mapped c
    obtain ⟨q, compiled'⟩ := exists_compile mapped d
    exact ⟨p, q, compiled, compiled', compile_ne_of_looser h looser compiled compiled'⟩

/-- A negated conjunction with a negation and a group in it, which `not` takes apart. -/
theorem parentheses_needed_of_negated_chain :
    let mine : Criteria := .leaf .submittedByMe
    let c : Criteria := .not (.and (.not mine) (.group mine))
    c.render = "not (not submitted by me and (submitted by me))" ∧
      c.renderBare true false = "not not submitted by me and (submitted by me)" ∧
      c.lacksParens true false = true ∧
      ∃ d p q, parse "not not submitted by me and (submitted by me)" = .ok d ∧
        c.compile .standard = .ok p ∧ d.compile .standard = .ok q ∧ q ≠ p := by
  intro mine c
  have mapped : ∀ f, ∃ column, QueryContext.standard.schema.column? f = some column :=
    fun f => ⟨_, rfl⟩
  obtain ⟨d, read, -, differs⟩ := parentheses_needed c true false
  obtain ⟨p, q, compiled, compiled', ne⟩ := differs rfl .standard mapped
  have bare : c.renderBare true false = "not not submitted by me and (submitted by me)" := by
    decide
  exact ⟨by decide, bare, rfl, d, p, q, bare ▸ read, compiled, compiled', ne⟩

end Missing

end BuildQuery.Criteria
