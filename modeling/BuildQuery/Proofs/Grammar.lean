import BuildQuery.Criteria.Reading

/-!
# The grammar of queries

The grammar as a relation between tokens and the queries that they write, and the reader against it.
The reader is complete (`ofTokens_of_derives`): on tokens that derive a query, followed by others
that cannot go on with it, each of its functions reads exactly these tokens. It is sound
(`derives_of_ofTokens`): what a function has read derives its result. Main statement: a text is read
as a query exactly when its tokens derive this query, and they derive no other one (`parse_exact`).
-/

namespace BuildQuery.Criteria

/-- A part of a query, by what binds it together, from loosest to tightest. -/
inductive Layer where
  | alternatives
  | conjunction
  | negation
  | primary
  deriving DecidableEq, Repr

/-- The tokens that write a query. -/
inductive Derives : Layer → List Token → Criteria → Prop where
  | conjunction {ts c} (h : Derives .conjunction ts c) : Derives .alternatives ts c
  | or {ts us l r} (left : Derives .alternatives ts l) (right : Derives .conjunction us r) :
      Derives .alternatives (ts ++ .word "or" :: us) (.or l r)
  | negation {ts c} (h : Derives .negation ts c) : Derives .conjunction ts c
  | and {ts us l r} (left : Derives .conjunction ts l) (right : Derives .negation us r) :
      Derives .conjunction (ts ++ .word "and" :: us) (.and l r)
  | primary {ts c} (h : Derives .primary ts c) : Derives .negation ts c
  | not {ts c} (h : Derives .negation ts c) : Derives .negation (.word "not" :: ts) (.not c)
  | group {ts c} (h : Derives .alternatives ts c) :
      Derives .primary (.openParen :: (ts ++ [.closeParen])) (.group c)
  | mine : Derives .primary [.word "submitted", .word "by", .word "me"] (.leaf .submittedByMe)
  | test {name operand field op l} (named : Field.ofName? name = some field)
      (accepted : Leaf.ofOperand field operand op = .ok l) :
      Derives .primary (.quoted name :: (op.words.map .word ++ [.quoted operand])) (.leaf l)

/-- How tight a layer binds. -/
def Layer.precedence : Layer → Nat
  | alternatives => 1
  | conjunction => 2
  | negation => 3
  | primary => 4

/-- What binds tight can stand where something looser is asked for. -/
theorem Derives.loosen {a b : Layer} {ts : List Token} {c : Criteria} (h : Derives a ts c)
    (le : b.precedence ≤ a.precedence) : Derives b ts c := by
  cases a with
  | alternatives =>
    cases b with
    | alternatives => exact h
    | conjunction | negation | primary => exact absurd le (by decide)
  | conjunction =>
    cases b with
    | alternatives => exact h.conjunction
    | conjunction => exact h
    | negation | primary => exact absurd le (by decide)
  | negation =>
    cases b with
    | alternatives => exact h.negation.conjunction
    | conjunction => exact h.negation
    | negation => exact h
    | primary => exact absurd le (by decide)
  | primary =>
    cases b with
    | alternatives => exact h.primary.negation.conjunction
    | conjunction => exact h.primary.negation
    | negation => exact h.primary
    | primary => exact h

/-- What is derived anywhere is derived as a whole query. -/
theorem Derives.whole {layer : Layer} {ts : List Token} {c : Criteria} (h : Derives layer ts c) :
    Derives .alternatives ts c :=
  h.loosen (by cases layer <;> decide)

/-! ## Operator phrases -/

theorem afterWords?_eq_some_iff {ws : List String} {ts rest : List Lexeme} :
    afterWords? ws ts = some rest ↔
      ∃ front, ts = front ++ rest ∧ front.map Lexeme.token = ws.map .word := by
  induction ws generalizing ts with
  | nil =>
    rw [afterWords?, List.map_nil, Option.some.injEq]
    constructor
    · rintro rfl
      exact ⟨[], rfl, rfl⟩
    · rintro ⟨front, rfl, e⟩
      rw [List.map_eq_nil_iff.1 e, List.nil_append]
  | cons w ws ih =>
    cases ts with
    | nil => simp [afterWords?]
    | cons l ts =>
      rw [afterWords?]
      by_cases h : l.token = .word w
      · rw [if_pos h, ih]
        constructor
        · rintro ⟨front, rfl, e⟩
          exact ⟨l :: front, rfl, by rw [List.map_cons, List.map_cons, h, e]⟩
        · rintro ⟨front, e, hf⟩
          cases front with
          | nil => simp at hf
          | cons l' front =>
            rw [List.cons_append, List.cons.injEq] at e
            rw [List.map_cons, List.map_cons, List.cons.injEq] at hf
            exact ⟨front, e.2, hf.2⟩
      · rw [if_neg h]
        refine iff_of_false nofun ?_
        rintro ⟨front, e, hf⟩
        cases front with
        | nil => simp at hf
        | cons l' front =>
          rw [List.cons_append, List.cons.injEq] at e
          rw [List.map_cons, List.map_cons, List.cons.injEq] at hf
          exact h (e.1 ▸ hf.1)

/-- Words that come before something that is no word are found from the front only as far as they
agree with the words that are there. -/
theorem prefix_of_afterWords? {ws vs : List String} {front rest found : List Lexeme} {l : Lexeme}
    (hf : front.map Lexeme.token = vs.map .word) (hl : ∀ w, l.token ≠ .word w)
    (h : afterWords? ws (front ++ l :: rest) = some found) : ws <+: vs := by
  induction ws generalizing front vs with
  | nil => exact List.nil_prefix
  | cons w ws ih =>
    cases vs with
    | nil =>
      rw [List.map_nil, List.map_eq_nil_iff] at hf
      rw [hf, List.nil_append, afterWords?, if_neg (hl w)] at h
      contradiction
    | cons v vs =>
      cases front with
      | nil => simp at hf
      | cons l' front =>
        rw [List.map_cons, List.map_cons, List.cons.injEq] at hf
        rw [List.cons_append, afterWords?] at h
        by_cases hw : l'.token = .word w
        · rw [if_pos hw] at h
          obtain rfl : w = v := Token.word.inj (hw.symm.trans hf.1)
          exact List.cons_prefix_cons.2 ⟨rfl, ih hf.2 h⟩
        · rw [if_neg hw] at h
          contradiction

/-- No phrase is tried before a longer one that it is the beginning of. -/
theorem not_prefix_of_tried_before (op : Operator) :
    ∀ op' ∈ Operator.longestFirst.takeWhile (· != op), ¬ op'.words <+: op.words := by
  have key : ∀ op ∈ Operator.all, ∀ op' ∈ Operator.longestFirst.takeWhile (· != op),
      ¬ op'.words <+: op.words := by decide
  exact key op (Operator.mem_all op)

/-- The whole phrase of an operator is read when something that is no word follows it. -/
theorem operator?_append {op : Operator} {front rest : List Lexeme} {l : Lexeme}
    (hf : front.map Lexeme.token = op.words.map .word) (hl : ∀ w, l.token ≠ .word w) :
    operator? (front ++ l :: rest) = some (op, l :: rest) := by
  have split : Operator.longestFirst = Operator.longestFirst.takeWhile (· != op) ++
      op :: (Operator.longestFirst.dropWhile (· != op)).tail := by
    have key : ∀ op ∈ Operator.all, Operator.longestFirst =
        Operator.longestFirst.takeWhile (· != op) ++
          op :: (Operator.longestFirst.dropWhile (· != op)).tail := by decide
    exact key op (Operator.mem_all op)
  have found : afterWords? op.words (front ++ l :: rest) = some (l :: rest) :=
    afterWords?_eq_some_iff.2 ⟨front, rfl, hf⟩
  refine List.findSome?_eq_some_iff.2 ⟨_, op, _, split, by rw [found]; rfl, ?_⟩
  intro op' before
  rw [Option.map_eq_none_iff]
  cases h : afterWords? op'.words (front ++ l :: rest) with
  | none => rfl
  | some found' =>
    exact absurd (prefix_of_afterWords? hf hl h) (not_prefix_of_tried_before op op' before)

theorem front_of_operator? {ts rest : List Lexeme} {op : Operator}
    (h : operator? ts = some (op, rest)) :
    ∃ front, ts = front ++ rest ∧ front.map Lexeme.token = op.words.map .word := by
  obtain ⟨op', _, h⟩ := List.exists_of_findSome?_eq_some h
  obtain ⟨rest', e, h⟩ := Option.map_eq_some_iff.1 h
  obtain ⟨rfl, rfl⟩ := Prod.mk.inj h
  exact afterWords?_eq_some_iff.1 e

/-! ## Completeness -/

/-- Whether the next token is the given one. -/
def NextIs (t : Token) : List Lexeme → Prop
  | [] => False
  | l :: _ => l.token = t

section Steps

variable {stop : Nat} {ts rest : List Lexeme} {l : Lexeme} {left : Parsed Criteria ts}

theorem moreAlternatives_of_not_nextIs (h : ¬ NextIs (.word "or") left.rest) :
    moreAlternatives stop left = .ok left := by
  rw [moreAlternatives]
  split
  · rfl
  · next l rest e => exact if_neg fun ht => h (by rw [e]; exact ht)

theorem moreConjuncts_of_not_nextIs (h : ¬ NextIs (.word "and") left.rest) :
    moreConjuncts stop left = .ok left := by
  rw [moreConjuncts]
  split
  · rfl
  · next l rest e => exact if_neg fun ht => h (by rw [e]; exact ht)

theorem moreAlternatives_of_or {c : Criteria} {shorter : (l :: rest).length < ts.length}
    (hl : l.token = .word "or") {right : Parsed Criteria rest}
    (h : conjunction stop rest = .ok right) :
    ∃ shorter', moreAlternatives stop ⟨c, l :: rest, shorter⟩ =
      moreAlternatives stop (⟨.or c right.value, right.rest, shorter'⟩ : Parsed Criteria ts) := by
  refine ⟨Nat.lt_trans (Nat.lt_trans right.shorter (Nat.lt_succ_self _)) shorter, ?_⟩
  rw [moreAlternatives]
  dsimp only
  rw [if_pos hl, h]
  rfl

theorem moreConjuncts_of_and {c : Criteria} {shorter : (l :: rest).length < ts.length}
    (hl : l.token = .word "and") {right : Parsed Criteria rest}
    (h : negation stop rest = .ok right) :
    ∃ shorter', moreConjuncts stop ⟨c, l :: rest, shorter⟩ =
      moreConjuncts stop (⟨.and c right.value, right.rest, shorter'⟩ : Parsed Criteria ts) := by
  refine ⟨Nat.lt_trans (Nat.lt_trans right.shorter (Nat.lt_succ_self _)) shorter, ?_⟩
  rw [moreConjuncts]
  dsimp only
  rw [if_pos hl, h]
  rfl

end Steps

/-- The function for a layer reads a query from the front of the tokens and leaves the rest. For the
two layers that go on in a loop, it has come to the loop with the query. -/
def Layer.Reads (stop : Nat) (ts : List Lexeme) (c : Criteria) (rest : List Lexeme) : Layer → Prop
  | alternatives => ¬ NextIs (.word "and") rest →
      ∃ shorter, Criteria.alternatives stop ts = moreAlternatives stop ⟨c, rest, shorter⟩
  | conjunction => ∃ shorter, Criteria.conjunction stop ts = moreConjuncts stop ⟨c, rest, shorter⟩
  | negation => ∃ shorter, Criteria.negation stop ts = .ok ⟨c, rest, shorter⟩
  | primary => ∃ shorter, Criteria.primary stop ts = .ok ⟨c, rest, shorter⟩

namespace Layer

variable {stop : Nat} {ts rest : List Lexeme} {c : Criteria}

theorem Reads.finish_conjunction (h : Reads stop ts c rest conjunction)
    (hr : ¬ NextIs (.word "and") rest) :
    ∃ shorter, Criteria.conjunction stop ts = .ok ⟨c, rest, shorter⟩ := by
  obtain ⟨shorter, h⟩ := h
  exact ⟨shorter, h.trans (moreConjuncts_of_not_nextIs hr)⟩

theorem Reads.finish_alternatives (h : Reads stop ts c rest alternatives)
    (hr : ¬ NextIs (.word "and") rest) (ho : ¬ NextIs (.word "or") rest) :
    ∃ shorter, Criteria.alternatives stop ts = .ok ⟨c, rest, shorter⟩ := by
  obtain ⟨shorter, h⟩ := h hr
  exact ⟨shorter, h.trans (moreAlternatives_of_not_nextIs ho)⟩

theorem Reads.alternatives (h : Reads stop ts c rest conjunction) :
    Reads stop ts c rest alternatives := by
  intro hr
  obtain ⟨shorter, h⟩ := h.finish_conjunction hr
  refine ⟨shorter, ?_⟩
  rw [Criteria.alternatives, h]
  rfl

theorem Reads.conjunction (h : Reads stop ts c rest negation) :
    Reads stop ts c rest conjunction := by
  obtain ⟨shorter, h⟩ := h
  refine ⟨shorter, ?_⟩
  rw [Criteria.conjunction, h]
  rfl

theorem Reads.or {l : Lexeme} {mid : List Lexeme} {d : Criteria}
    (left : Reads stop ts c (l :: mid) .alternatives) (hl : l.token = .word "or")
    (right : Reads stop mid d rest .conjunction) : Reads stop ts (.or c d) rest .alternatives := by
  intro hr
  obtain ⟨_, hleft⟩ := left fun h => nomatch hl.symm.trans h
  obtain ⟨_, hright⟩ := right.finish_conjunction hr
  obtain ⟨shorter, step⟩ := moreAlternatives_of_or hl hright
  exact ⟨shorter, hleft.trans step⟩

theorem Reads.and {l : Lexeme} {mid : List Lexeme} {d : Criteria}
    (left : Reads stop ts c (l :: mid) .conjunction) (hl : l.token = .word "and")
    (right : Reads stop mid d rest .negation) : Reads stop ts (.and c d) rest .conjunction := by
  obtain ⟨_, hleft⟩ := left
  obtain ⟨_, hright⟩ := right
  obtain ⟨shorter, step⟩ := moreConjuncts_of_and hl hright
  exact ⟨shorter, hleft.trans step⟩

theorem Reads.not {l : Lexeme} (hl : l.token = .word "not") (h : Reads stop ts c rest .negation) :
    Reads stop (l :: ts) (.not c) rest .negation := by
  obtain ⟨shorter, h⟩ := h
  refine ⟨Nat.lt_succ_of_lt shorter, ?_⟩
  rw [Criteria.negation, if_pos hl, h]
  rfl

/-- A part that binds tightest does not begin with `not`. -/
theorem Reads.negation {l : Lexeme} (hl : l.token ≠ .word "not")
    (h : Reads stop (l :: ts) c rest .primary) : Reads stop (l :: ts) c rest .negation := by
  obtain ⟨shorter, h⟩ := h
  refine ⟨shorter, ?_⟩
  rw [Criteria.negation, if_neg hl, h]

theorem Reads.group {open' close : Lexeme} (ho : open'.token = .openParen)
    (hc : close.token = .closeParen) (h : Reads stop ts c (close :: rest) .alternatives) :
    Reads stop (open' :: ts) (.group c) rest .primary := by
  obtain ⟨token, place⟩ := open'
  obtain ⟨token', place'⟩ := close
  obtain rfl : token = .openParen := ho
  obtain rfl : token' = .closeParen := hc
  obtain ⟨shorter, h⟩ := h.finish_alternatives nofun nofun
  refine ⟨Nat.lt_succ_of_lt (Nat.lt_of_succ_lt shorter), ?_⟩
  rw [Criteria.primary]
  dsimp only
  rw [h]
  rfl

theorem reads_mine {a b c : Lexeme} (ha : a.token = .word "submitted") (hb : b.token = .word "by")
    (hc : c.token = .word "me") :
    Reads stop (a :: b :: c :: rest) (.leaf .submittedByMe) rest .primary := by
  obtain ⟨token, place⟩ := a
  obtain rfl : token = .word "submitted" := ha
  refine ⟨by simp only [List.length_cons]; omega, ?_⟩
  rw [Criteria.primary]
  dsimp only [mine]
  rw [if_pos rfl, if_pos hb, if_pos hc]
  rfl

theorem reads_test {q v : Lexeme} {front : List Lexeme} {name operand : String} {field : Field}
    {op : Operator} {l : Leaf} (hq : q.token = .quoted name)
    (hf : front.map Lexeme.token = op.words.map .word) (hv : v.token = .quoted operand)
    (named : Field.ofName? name = some field) (accepted : Leaf.ofOperand field operand op = .ok l) :
    Reads stop (q :: (front ++ v :: rest)) (.leaf l) rest .primary := by
  obtain ⟨token, place⟩ := q
  obtain rfl : token = .quoted name := hq
  obtain ⟨token, place'⟩ := v
  obtain rfl : token = .quoted operand := hv
  have phrase : operator? (front ++ ⟨.quoted operand, place'⟩ :: rest) = some (op, _) :=
    operator?_append hf nofun
  have read : ∃ shorter, Criteria.test stop name (front ++ ⟨.quoted operand, place'⟩ :: rest) =
      .ok ⟨.leaf l, rest, shorter⟩ := by
    have shorter : rest.length < (front ++ ⟨.quoted operand, place'⟩ :: rest).length := by
      simp only [List.length_append, List.length_cons]
      omega
    refine ⟨shorter, ?_⟩
    unfold Criteria.test
    rw [named]
    dsimp only
    split
    · next e => rw [phrase] at e; contradiction
    · next e =>
      rw [phrase] at e
      obtain ⟨rfl, tokens⟩ := Prod.mk.inj (Option.some.inj e)
      obtain ⟨first, rfl⟩ := List.cons.inj tokens
      obtain rfl := Token.quoted.inj (Lexeme.mk.inj first).1
      rw [accepted]
    · next other e =>
      rw [phrase] at e
      obtain ⟨rfl, rfl⟩ := Prod.mk.inj (Option.some.inj e)
      exact absurd rfl (other _ _ _)
  obtain ⟨shorter, read⟩ := read
  refine ⟨Nat.lt_succ_of_lt shorter, ?_⟩
  rw [Criteria.primary, read]
  rfl

end Layer

theorem head_of_derives_primary {ts : List Token} {c : Criteria} (h : Derives .primary ts c) :
    ∃ t us, ts = t :: us ∧ t ≠ .word "not" := by
  cases h with
  | group => exact ⟨_, _, rfl, nofun⟩
  | mine => exact ⟨_, _, rfl, by decide⟩
  | test => exact ⟨_, _, rfl, nofun⟩

theorem ne_nil_of_derives {layer : Layer} {ts : List Token} {c : Criteria}
    (h : Derives layer ts c) : ts ≠ [] := by
  induction h with
  | conjunction _ ih | negation _ ih | primary _ ih => exact ih
  | or | and => exact List.append_ne_nil_of_right_ne_nil _ (List.cons_ne_nil _ _)
  | not | group | mine | test => exact List.cons_ne_nil _ _

/-- Tokens that derive a query are read as this query, whatever comes after them. -/
theorem Layer.reads_of_derives {stop : Nat} {layer : Layer} {ts : List Token} {c : Criteria}
    (h : Derives layer ts c) (front rest : List Lexeme) (hf : front.map Lexeme.token = ts) :
    layer.Reads stop (front ++ rest) c rest := by
  -- on the derivation; what is left may be anything, so that the left part of a chain is followed
  -- by the word and the right part
  induction h generalizing front rest with
  | conjunction _ ih => exact (ih front rest hf).alternatives
  | negation _ ih => exact (ih front rest hf).conjunction
  | or _ _ ihl ihr =>
    obtain ⟨left, tail, rfl, hleft, htail⟩ := List.map_eq_append_iff.1 hf
    obtain ⟨l, right, rfl, hl, hright⟩ := List.map_eq_cons_iff.1 htail
    rw [List.append_assoc, List.cons_append]
    exact (ihl left _ hleft).or hl (ihr right rest hright)
  | and _ _ ihl ihr =>
    obtain ⟨left, tail, rfl, hleft, htail⟩ := List.map_eq_append_iff.1 hf
    obtain ⟨l, right, rfl, hl, hright⟩ := List.map_eq_cons_iff.1 htail
    rw [List.append_assoc, List.cons_append]
    exact (ihl left _ hleft).and hl (ihr right rest hright)
  | primary h ih =>
    obtain ⟨t, us, rfl, ht⟩ := head_of_derives_primary h
    have read := ih front rest hf
    obtain ⟨l, tail, rfl, hl, -⟩ := List.map_eq_cons_iff.1 hf
    exact read.negation (hl ▸ ht)
  | not _ ih =>
    obtain ⟨l, tail, rfl, hl, htail⟩ := List.map_eq_cons_iff.1 hf
    exact (ih tail rest htail).not hl
  | group _ ih =>
    obtain ⟨l, tail, rfl, hl, htail⟩ := List.map_eq_cons_iff.1 hf
    obtain ⟨inner, last, rfl, hinner, hlast⟩ := List.map_eq_append_iff.1 htail
    obtain ⟨close, none, rfl, hclose, hnone⟩ := List.map_eq_cons_iff.1 hlast
    obtain rfl := List.map_eq_nil_iff.1 hnone
    rw [List.cons_append, List.append_assoc]
    exact (ih inner _ hinner).group hl hclose
  | mine =>
    obtain ⟨a, tail, rfl, ha, htail⟩ := List.map_eq_cons_iff.1 hf
    obtain ⟨b, last, rfl, hb, hlast⟩ := List.map_eq_cons_iff.1 htail
    obtain ⟨c, none, rfl, hc, hnone⟩ := List.map_eq_cons_iff.1 hlast
    obtain rfl := List.map_eq_nil_iff.1 hnone
    exact reads_mine ha hb hc
  | test named accepted =>
    obtain ⟨q, tail, rfl, hq, htail⟩ := List.map_eq_cons_iff.1 hf
    obtain ⟨words, last, rfl, hwords, hlast⟩ := List.map_eq_append_iff.1 htail
    obtain ⟨v, none, rfl, hv, hnone⟩ := List.map_eq_cons_iff.1 hlast
    obtain rfl := List.map_eq_nil_iff.1 hnone
    rw [List.cons_append, List.append_assoc]
    exact reads_test hq hwords hv named accepted

/-- The tokens of a query are read as this query. -/
theorem ofTokens_of_derives {stop : Nat} {ts : List Lexeme} {c : Criteria}
    (h : Derives .alternatives (ts.map Lexeme.token) c) : ofTokens stop ts = .ok c := by
  have full : ts.isEmpty = false := by
    rw [List.isEmpty_eq_false_iff]
    rintro rfl
    exact ne_nil_of_derives h rfl
  have read : Layer.alternatives.Reads stop (ts ++ []) c [] := Layer.reads_of_derives h ts [] rfl
  rw [List.append_nil] at read
  obtain ⟨_, read⟩ := read.finish_alternatives nofun nofun
  rw [ofTokens, full, read]
  rfl

/-! ## Soundness -/

/-- What was read from the front of the tokens derives the query that came of it. -/
def Found (layer : Layer) {ts : List Lexeme} (p : Parsed Criteria ts) : Prop :=
  ∃ front, ts = front ++ p.rest ∧ Derives layer (front.map Lexeme.token) p.value

/-- What was read after a first part, which some tokens derive, derives together with these tokens
the query that came of it all. -/
def FoundMore (layer : Layer) (us : List Token) {ts : List Lexeme} (left p : Parsed Criteria ts) :
    Prop :=
  ∃ more, left.rest = more ++ p.rest ∧ Derives layer (us ++ more.map Lexeme.token) p.value

section Found

variable {stop : Nat} {layer : Layer} {ts : List Lexeme} {l : Lexeme}

theorem FoundMore.nothing {us : List Token} {left : Parsed Criteria ts}
    (d : Derives layer us left.value) : FoundMore layer us left left :=
  ⟨[], rfl, by rwa [List.map_nil, List.append_nil]⟩

/-- A part of a chain is found after the word that goes before it. -/
theorem FoundMore.part {us : List Token} {front rest rest' : List Lexeme} {c : Criteria}
    {shorter : rest'.length < ts.length} {left p : Parsed Criteria ts} (e : left.rest = l :: rest)
    (e' : rest = front ++ rest')
    (h : FoundMore layer (us ++ l.token :: front.map Lexeme.token) ⟨c, rest', shorter⟩ p) :
    FoundMore layer us left p := by
  obtain ⟨more, e'', d⟩ := h
  refine ⟨l :: (front ++ more), ?_, ?_⟩
  · rw [e, e', List.cons_append, List.append_assoc, ← e'']
  · rw [List.append_assoc, List.cons_append] at d
    rwa [List.map_cons, List.map_append]

theorem Found.of_more {front : List Lexeme} {left p : Parsed Criteria ts}
    (e : ts = front ++ left.rest) (h : FoundMore layer (front.map Lexeme.token) left p) :
    Found layer p := by
  obtain ⟨more, e', d⟩ := h
  exact ⟨front ++ more, by rw [List.append_assoc, ← e', ← e], by rwa [List.map_append]⟩

theorem found_of_mine {p : Parsed Criteria ts} (hl : l.token = .word "submitted")
    (h : mine stop ts = .ok p) : Found .primary (p.widen (Nat.le_succ _) : Parsed _ (l :: ts)) := by
  unfold mine at h
  split at h
  · contradiction
  · next by' ts =>
    by_cases hby : by'.token = .word "by"
    · rw [if_pos hby] at h
      split at h
      · contradiction
      · next me ts =>
        by_cases hme : me.token = .word "me"
        · rw [if_pos hme] at h
          obtain rfl := Except.ok.inj h
          refine ⟨[l, by', me], rfl, ?_⟩
          rw [List.map_cons, List.map_cons, List.map_cons, hl, hby, hme]
          exact .mine
        · rw [if_neg hme] at h
          contradiction
    · rw [if_neg hby] at h
      contradiction

theorem found_of_test {name : String} {p : Parsed Criteria ts} (hl : l.token = .quoted name)
    (h : test stop name ts = .ok p) :
    Found .primary (p.widen (Nat.le_succ _) : Parsed _ (l :: ts)) := by
  unfold test at h
  split at h
  · contradiction
  · next field named =>
    split at h
    · contradiction
    · next op operand place rest phrase =>
      split at h
      · contradiction
      · next leaf accepted =>
        obtain rfl := Except.ok.inj h
        obtain ⟨front, e, words⟩ := front_of_operator? phrase
        refine ⟨l :: (front ++ [⟨.quoted operand, place⟩]), ?_, ?_⟩
        · rw [List.cons_append, List.append_assoc]
          exact congrArg (l :: ·) e
        · rw [List.map_cons, List.map_append, hl, words]
          exact .test named accepted
    · contradiction

-- by the recursion of the reader, with its measure
mutual

theorem found_of_alternatives {ts : List Lexeme} {p : Parsed Criteria ts}
    (h : alternatives stop ts = .ok p) : Found .alternatives p := by
  rw [alternatives] at h
  obtain ⟨left, hleft, h⟩ := bind_eq_ok_iff.1 h
  obtain ⟨front, e, d⟩ := found_of_conjunction hleft
  have := left.shorter
  exact .of_more e (found_of_moreAlternatives d.conjunction h)
termination_by (ts.length, 3)

theorem found_of_moreAlternatives {ts : List Lexeme} {left p : Parsed Criteria ts}
    {us : List Token} (d : Derives .alternatives us left.value)
    (h : moreAlternatives stop left = .ok p) : FoundMore .alternatives us left p := by
  rw [moreAlternatives] at h
  split at h
  · next e =>
    obtain rfl := Except.ok.inj h
    exact .nothing d
  · next l rest e =>
    by_cases hl : l.token = .word "or"
    · rw [if_pos hl] at h
      obtain ⟨right, hright, h⟩ := bind_eq_ok_iff.1 h
      have front : rest.length < left.rest.length := by rw [e]; exact Nat.lt_succ_self _
      have := right.shorter
      obtain ⟨front, e', d'⟩ := found_of_conjunction hright
      have more := found_of_moreAlternatives (d.or d') h
      rw [← hl] at more
      exact .part e e' more
    · rw [if_neg hl] at h
      obtain rfl := Except.ok.inj h
      exact .nothing d
termination_by (left.rest.length, 0)

theorem found_of_conjunction {ts : List Lexeme} {p : Parsed Criteria ts}
    (h : conjunction stop ts = .ok p) : Found .conjunction p := by
  rw [conjunction] at h
  obtain ⟨left, hleft, h⟩ := bind_eq_ok_iff.1 h
  obtain ⟨front, e, d⟩ := found_of_negation hleft
  have := left.shorter
  exact .of_more e (found_of_moreConjuncts d.negation h)
termination_by (ts.length, 2)

theorem found_of_moreConjuncts {ts : List Lexeme} {left p : Parsed Criteria ts}
    {us : List Token} (d : Derives .conjunction us left.value)
    (h : moreConjuncts stop left = .ok p) : FoundMore .conjunction us left p := by
  rw [moreConjuncts] at h
  split at h
  · next e =>
    obtain rfl := Except.ok.inj h
    exact .nothing d
  · next l rest e =>
    by_cases hl : l.token = .word "and"
    · rw [if_pos hl] at h
      obtain ⟨right, hright, h⟩ := bind_eq_ok_iff.1 h
      have front : rest.length < left.rest.length := by rw [e]; exact Nat.lt_succ_self _
      have := right.shorter
      obtain ⟨front, e', d'⟩ := found_of_negation hright
      have more := found_of_moreConjuncts (d.and d') h
      rw [← hl] at more
      exact .part e e' more
    · rw [if_neg hl] at h
      obtain rfl := Except.ok.inj h
      exact .nothing d
termination_by (left.rest.length, 0)

theorem found_of_negation {ts : List Lexeme} {p : Parsed Criteria ts}
    (h : negation stop ts = .ok p) : Found .negation p := by
  match ts, p, h with
  | [], p, h =>
    rw [negation] at h
    obtain ⟨front, e, d⟩ := found_of_primary h
    exact ⟨front, e, d.primary⟩
  | l :: ts, p, h =>
    rw [negation] at h
    by_cases hl : l.token = .word "not"
    · rw [if_pos hl] at h
      obtain ⟨inner, hinner, h⟩ := bind_eq_ok_iff.1 h
      obtain rfl := Except.ok.inj h
      obtain ⟨front, e, d⟩ := found_of_negation hinner
      refine ⟨l :: front, congrArg _ e, ?_⟩
      rw [List.map_cons, hl]
      exact d.not
    · rw [if_neg hl] at h
      obtain ⟨front, e, d⟩ := found_of_primary h
      exact ⟨front, e, d.primary⟩
termination_by (ts.length, 1)

theorem found_of_primary {ts : List Lexeme} {p : Parsed Criteria ts}
    (h : primary stop ts = .ok p) : Found .primary p := by
  rw [primary.eq_def] at h
  split at h
  · next place ts =>
    obtain ⟨inner, hinner, h⟩ := bind_eq_ok_iff.1 h
    obtain ⟨front, e, d⟩ := found_of_alternatives hinner
    split at h
    · next place' rest closed =>
      obtain rfl := Except.ok.inj h
      refine ⟨⟨.openParen, place⟩ :: (front ++ [⟨.closeParen, place'⟩]), ?_, ?_⟩
      · rw [closed] at e
        rw [List.cons_append, List.append_assoc]
        exact congrArg (⟨.openParen, place⟩ :: ·) e
      · rw [List.map_cons, List.map_append]
        exact d.group
    · contradiction
  · next w place ts =>
    by_cases hw : w = "submitted"
    · rw [if_pos hw] at h
      obtain ⟨inner, hinner, h⟩ := bind_eq_ok_iff.1 h
      obtain rfl := Except.ok.inj h
      exact found_of_mine (congrArg Token.word hw) hinner
    · rw [if_neg hw] at h
      contradiction
  · next name place ts =>
    obtain ⟨inner, hinner, h⟩ := bind_eq_ok_iff.1 h
    obtain rfl := Except.ok.inj h
    exact found_of_test rfl hinner
  · contradiction
termination_by (ts.length, 0)

end

end Found

/-- A query that was read is derived by the tokens. -/
theorem derives_of_ofTokens {stop : Nat} {ts : List Lexeme} {c : Criteria}
    (h : ofTokens stop ts = .ok c) : Derives .alternatives (ts.map Lexeme.token) c := by
  unfold ofTokens at h
  split at h
  · contradiction
  obtain ⟨p, hp, h⟩ := bind_eq_ok_iff.1 h
  obtain ⟨front, e, d⟩ := found_of_alternatives hp
  split at h
  · next all =>
    obtain rfl := Except.ok.inj h
    rw [List.isEmpty_iff.1 all, List.append_nil] at e
    rw [congrArg (List.map Lexeme.token) e]
    exact d
  · contradiction

theorem parse_of_derives {s : String} {ts : List Lexeme} {c : Criteria}
    (read : Token.tokenize s = .ok ts) (h : Derives .alternatives (ts.map Lexeme.token) c) :
    parse s = .ok c := by
  rw [parse, read]
  exact ofTokens_of_derives h

/-- A text is read as a query when its tokens derive this query. -/
theorem parse_eq_ok_iff {s : String} {c : Criteria} : parse s = .ok c ↔
    ∃ ts, Token.tokenize s = .ok ts ∧ Derives .alternatives (ts.map Lexeme.token) c := by
  constructor
  · intro h
    obtain ⟨ts, read, h⟩ := bind_eq_ok_iff.1 h
    exact ⟨ts, read, derives_of_ofTokens h⟩
  · rintro ⟨ts, read, h⟩
    exact parse_of_derives read h

theorem derives_of_parse {s : String} {c : Criteria} (h : parse s = .ok c) :
    ∃ ts, Derives .alternatives ts c := by
  obtain ⟨ts, -, h⟩ := parse_eq_ok_iff.1 h
  exact ⟨_, h⟩

/-! ## The language of queries -/

/-- Tokens derive at most one query, since the reader, which is complete, finds one only. -/
theorem Derives.unique {a b : Layer} {ts : List Token} {c d : Criteria} (h : Derives a ts c)
    (h' : Derives b ts d) : c = d := by
  have tokens : (ts.map fun t => (⟨t, 0⟩ : Lexeme)).map Lexeme.token = ts := by
    rw [List.map_map]
    exact List.map_id ts
  have all := h.whole
  have all' := h'.whole
  rw [← tokens] at all all'
  have read : ofTokens 0 _ = .ok c := ofTokens_of_derives all
  rw [ofTokens_of_derives all'] at read
  exact (Except.ok.inj read).symm

/-- A text is read as a query exactly when its tokens, all of them, derive this query, and no tokens
derive two queries. Every other text is refused. -/
theorem parse_exact :
    (∀ (s : String) (ts : List Lexeme), Token.tokenize s = .ok ts →
        ∀ c, parse s = .ok c ↔ Derives .alternatives (ts.map Lexeme.token) c) ∧
      (∀ (ts : List Token) (c d : Criteria), Derives .alternatives ts c →
        Derives .alternatives ts d → c = d) ∧
      ∀ s : String, (∃ e, parse s = .error e) ↔ ¬ ∃ ts c, Token.tokenize s = .ok ts ∧
        Derives .alternatives (ts.map Lexeme.token) c := by
  refine ⟨?_, fun ts c d => Derives.unique, ?_⟩
  · intro s ts read c
    rw [parse_eq_ok_iff]
    constructor
    · rintro ⟨ts', read', h⟩
      obtain rfl := Except.ok.inj (read.symm.trans read')
      exact h
    · exact fun h => ⟨ts, read, h⟩
  · intro s
    rw [exists_comm]
    simp only [← parse_eq_ok_iff]
    cases parse s with
    | ok c => simp
    | error e => simp

/-- An operator whose words begin with those of two other ones, before a group under `not`. -/
theorem parse_exact_of_not_greater :
    let c : Criteria := .and (.leaf (.number ⟨5, ⟨.greaterThan, .negated⟩, by decide⟩))
      (.not (.group (.leaf .submittedByMe)))
    parse "'number' IS not Greater than '#5' and not (submitted by me)" = .ok c ∧
      ∀ ts d,
        Token.tokenize "'number' IS not Greater than '#5' and not (submitted by me)" = .ok ts →
          Derives .alternatives (ts.map Lexeme.token) d → d = c := by
  intro c
  have read : Token.tokenize "'number' IS not Greater than '#5' and not (submitted by me)" =
      .ok [⟨.quoted "number", 0⟩, ⟨.word "is", 9⟩, ⟨.word "not", 12⟩, ⟨.word "greater", 16⟩,
        ⟨.word "than", 24⟩, ⟨.quoted "#5", 29⟩, ⟨.word "and", 34⟩, ⟨.word "not", 38⟩,
        ⟨.openParen, 42⟩, ⟨.word "submitted", 43⟩, ⟨.word "by", 53⟩, ⟨.word "me", 56⟩,
        ⟨.closeParen, 58⟩] := by
    with_unfolding_all rfl
  have accepted : Leaf.ofOperand .number "#5" ⟨.greaterThan, .negated⟩ =
      .ok (.number ⟨5, ⟨.greaterThan, .negated⟩, by decide⟩) := rfl
  have number : Derives .primary [.quoted "number", .word "is", .word "not", .word "greater",
      .word "than", .quoted "#5"] (.leaf (.number ⟨5, ⟨.greaterThan, .negated⟩, by decide⟩)) :=
    .test (by decide) accepted
  have group : Derives .primary
      [.openParen, .word "submitted", .word "by", .word "me", .closeParen]
      (.group (.leaf .submittedByMe)) :=
    .group (.conjunction (.negation (.primary .mine)))
  have whole : Derives .alternatives _ c :=
    .conjunction (.and (.negation (.primary number)) (.not (.primary group)))
  refine ⟨(parse_exact.1 _ _ read c).2 whole, fun ts d read' other => ?_⟩
  obtain rfl := Except.ok.inj (read.symm.trans read')
  exact parse_exact.2.1 _ d c other whole

end BuildQuery.Criteria
