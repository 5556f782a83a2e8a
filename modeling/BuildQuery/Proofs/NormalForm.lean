import BuildQuery.Proofs.AnyEntity
import BuildQuery.Proofs.ByteOrder
import BuildQuery.Proofs.Regrouping

/-!
# Predicates in normal form

The combinators keep a predicate flat, and every test of a value right behind the test that its
column holds one (`IsNormal.conj`, `IsNormal.disj`, `IsNormal.negate`): two lists of guarded tests
stay guarded when they are put together, and a negation either undoes another one or has something
to negate that is no constant. A natural comparison is in normal form from the start.

Main statement: whatever a query compiles to is in normal form, its lists are those of the known
projects that its project tests match, and it is not changed when the query is regrouped, negated
twice or negated at a leaf (`Criteria.compile_in_normal_form`).
-/

namespace BuildQuery

namespace Predicate

/-! ## Normal form -/

/-- Whether a predicate is another one or stands somewhere inside it. -/
inductive Occurs (q : Predicate) : Predicate → Prop where
  | self : Occurs q q
  | inAnd {p : Predicate} {parts : List Predicate} (mem : p ∈ parts) (h : Occurs q p) :
      Occurs q (and parts)
  | inOr {p : Predicate} {parts : List Predicate} (mem : p ∈ parts) (h : Occurs q p) :
      Occurs q (or parts)
  | inNot {p : Predicate} (h : Occurs q p) : Occurs q (not p)

/-- The column of a test of a value, which is unknown where the column holds none. -/
def testedColumn? : Predicate → Option String
  | like column _ | compare column _ _ | oneOf column _ => some column
  | always | never | isNull _ | and _ | or _ | not _ => none

/-- Whether each test of a value in a list stands right behind the test that its column holds
one. -/
def AreGuarded (parts : List Predicate) : Prop :=
  ∀ before q after column, parts = before ++ q :: after → q.testedColumn? = some column →
    ∃ front, before = front ++ [isNotNull column]

/-- What is asked of the parts of a conjunction. -/
structure IsNormalAnd (parts : List Predicate) : Prop where
  two : 2 ≤ parts.length
  flat : ∀ q ∈ parts, ∀ ps, q ≠ and ps
  guarded : AreGuarded parts

/-- What is asked of the parts of a disjunction. -/
structure IsNormalOr (parts : List Predicate) : Prop where
  two : 2 ≤ parts.length
  flat : ∀ q ∈ parts, ∀ ps, q ≠ or ps
  noTest : ∀ q ∈ parts, q.testedColumn? = none

/-- What is asked of a predicate that is negated. -/
structure IsNormalNot (p : Predicate) : Prop where
  notAlways : p ≠ always
  notNever : p ≠ never
  notNot : ∀ q, p ≠ not q
  noTest : p.testedColumn? = none

/-- What is asked of each predicate in one that is in normal form. -/
def IsNormalNode : Predicate → Prop
  | and parts => IsNormalAnd parts
  | or parts => IsNormalOr parts
  | not p => IsNormalNot p
  | always | never | isNull _ | like .. | compare .. | oneOf .. => True

/-- A predicate in normal form: what is negated is no constant and no negation, conjunctions and
disjunctions are flat and have at least two parts, and tests of values stand in conjunctions only,
each right behind the test that its column holds a value. -/
structure IsNormal (p : Predicate) : Prop where
  noTest : p.testedColumn? = none
  nodes : ∀ q, Occurs q p → q.IsNormalNode

/-! ### Parts -/

section Parts

variable {p q : Predicate} {ps qs : List Predicate}

theorem AreGuarded.append (h : AreGuarded ps) (h' : AreGuarded qs) : AreGuarded (ps ++ qs) := by
  intro before q after column e tested
  rcases List.append_eq_append_iff.1 e with ⟨mid, rfl, e'⟩ | ⟨mid, e', e''⟩
  · obtain ⟨front, rfl⟩ := h' mid q after column e' tested
    exact ⟨ps ++ front, (List.append_assoc ..).symm⟩
  · cases mid with
    | nil =>
      -- a test in front of the second list would have no guard there
      obtain ⟨front, none⟩ := h' [] q after column e''.symm tested
      exact absurd none.symm (List.append_ne_nil_of_right_ne_nil front (List.cons_ne_nil _ _))
    | cons r mid =>
      obtain ⟨rfl, rfl⟩ := List.cons.inj e''
      exact h before q mid column e' tested

theorem areGuarded_singleton (noTest : p.testedColumn? = none) : AreGuarded [p] := by
  intro before q after column e tested
  have mem : q ∈ [p] := e ▸ List.mem_append_right before List.mem_cons_self
  obtain rfl := List.mem_singleton.1 mem
  rw [noTest] at tested
  contradiction

theorem occurs_of_mem_conjuncts {r : Predicate} (mem : r ∈ p.conjuncts) (h : Occurs q r) :
    Occurs q p := by
  cases p with
  | and parts => exact .inAnd mem h
  | always | never | isNull | like | compare | oneOf | or | not =>
    obtain rfl := List.mem_singleton.1 mem
    exact h

theorem occurs_of_mem_disjuncts {r : Predicate} (mem : r ∈ p.disjuncts) (h : Occurs q r) :
    Occurs q p := by
  cases p with
  | or parts => exact .inOr mem h
  | always | never | isNull | like | compare | oneOf | and | not =>
    obtain rfl := List.mem_singleton.1 mem
    exact h

end Parts

/-! ### Combinators -/

namespace IsNormal

variable {p q : Predicate}

theorem conjuncts (h : p.IsNormal) : 1 ≤ p.conjuncts.length ∧
    (∀ r ∈ p.conjuncts, ∀ ps, r ≠ and ps) ∧ AreGuarded p.conjuncts := by
  cases p with
  | and parts =>
    have node : IsNormalAnd parts := h.nodes _ .self
    exact ⟨Nat.le_of_succ_le node.two, node.flat, node.guarded⟩
  | always | never | isNull | like | compare | oneOf | or | not =>
    refine ⟨Nat.le_refl 1, fun r mem ps => ?_, areGuarded_singleton h.noTest⟩
    obtain rfl := List.mem_singleton.1 mem
    exact nofun

theorem disjuncts (h : p.IsNormal) : 1 ≤ p.disjuncts.length ∧
    (∀ r ∈ p.disjuncts, ∀ ps, r ≠ or ps) ∧ ∀ r ∈ p.disjuncts, r.testedColumn? = none := by
  cases p with
  | or parts =>
    have node : IsNormalOr parts := h.nodes _ .self
    exact ⟨Nat.le_of_succ_le node.two, node.flat, node.noTest⟩
  | always | never | isNull | like | compare | oneOf | and | not =>
    refine ⟨Nat.le_refl 1, fun r mem ps => ?_, fun r mem => ?_⟩
    · obtain rfl := List.mem_singleton.1 mem
      exact nofun
    · obtain rfl := List.mem_singleton.1 mem
      exact h.noTest

theorem conj (hp : p.IsNormal) (hq : q.IsNormal) : (p.conj q).IsNormal := by
  refine ⟨rfl, fun r occurs => ?_⟩
  cases occurs with
  | self =>
    obtain ⟨one, flat, guarded⟩ := hp.conjuncts
    obtain ⟨one', flat', guarded'⟩ := hq.conjuncts
    refine ⟨?_, fun r mem => ?_, guarded.append guarded'⟩
    · rw [List.length_append]
      exact Nat.add_le_add one one'
    · exact (List.mem_append.1 mem).elim (flat r) (flat' r)
  | inAnd mem h =>
    rcases List.mem_append.1 mem with mem | mem
    · exact hp.nodes _ (occurs_of_mem_conjuncts mem h)
    · exact hq.nodes _ (occurs_of_mem_conjuncts mem h)

theorem disj (hp : p.IsNormal) (hq : q.IsNormal) : (p.disj q).IsNormal := by
  refine ⟨rfl, fun r occurs => ?_⟩
  cases occurs with
  | self =>
    obtain ⟨one, flat, noTest⟩ := hp.disjuncts
    obtain ⟨one', flat', noTest'⟩ := hq.disjuncts
    refine ⟨?_, fun r mem => ?_, fun r mem => ?_⟩
    · rw [List.length_append]
      exact Nat.add_le_add one one'
    · exact (List.mem_append.1 mem).elim (flat r) (flat' r)
    · exact (List.mem_append.1 mem).elim (noTest r) (noTest' r)
  | inOr mem h =>
    rcases List.mem_append.1 mem with mem | mem
    · exact hp.nodes _ (occurs_of_mem_disjuncts mem h)
    · exact hq.nodes _ (occurs_of_mem_disjuncts mem h)

theorem not (h : p.IsNormal) (node : IsNormalNot p) : (not p).IsNormal := by
  refine ⟨rfl, fun r occurs => ?_⟩
  cases occurs with
  | self => exact node
  | inNot occurs => exact h.nodes r occurs

theorem inside_not (h : (Predicate.not p).IsNormal) : p.IsNormal :=
  ⟨IsNormalNot.noTest (h.nodes _ .self), fun r occurs => h.nodes r (.inNot occurs)⟩

end IsNormal

/-- A predicate without parts, which is no test of a value. -/
theorem isNormal_of_occurs {p : Predicate} (noTest : p.testedColumn? = none)
    (node : p.IsNormalNode) (atom : ∀ q, Occurs q p → q = p) : p.IsNormal :=
  ⟨noTest, fun q occurs => atom q occurs ▸ node⟩

theorem isNormal_always : always.IsNormal :=
  isNormal_of_occurs rfl trivial fun q occurs => by cases occurs; rfl

theorem isNormal_never : never.IsNormal :=
  isNormal_of_occurs rfl trivial fun q occurs => by cases occurs; rfl

theorem isNormal_isNotNull (column : String) : (isNotNull column).IsNormal := by
  have null : (isNull column).IsNormal :=
    isNormal_of_occurs rfl trivial fun q occurs => by cases occurs; rfl
  exact null.not ⟨nofun, nofun, nofun, rfl⟩

theorem negate_eq_not {p : Predicate} (h : IsNormalNot p) : p.negate = not p := by
  cases p with
  | always => exact absurd rfl h.notAlways
  | never => exact absurd rfl h.notNever
  | not q => exact absurd rfl (h.notNot q)
  | isNull | like | compare | oneOf | and | or => rfl

namespace IsNormal

variable {p : Predicate}

theorem negate (h : p.IsNormal) : p.negate.IsNormal := by
  cases p with
  | always => exact isNormal_never
  | never => exact isNormal_always
  | not q => exact h.inside_not
  | isNull | like | compare | oneOf | and | or => exact h.not ⟨nofun, nofun, nofun, h.noTest⟩

theorem negate_negate (h : p.IsNormal) : p.negate.negate = p := by
  cases p with
  | not q => exact negate_eq_not (h.nodes _ .self)
  | always | never | isNull | like | compare | oneOf | and | or => rfl

end IsNormal

/-! ### Guarded tests -/

section Guarded

variable {column : String} {condition : Predicate}

theorem guarded_eq_and (tested : condition.testedColumn? = some column) :
    guarded column condition = and [isNotNull column, condition] := by
  cases condition with
  | like | compare | oneOf => rfl
  | always | never | isNull | and | or | not => contradiction

theorem areGuarded_pair (tested : condition.testedColumn? = some column) :
    AreGuarded [isNotNull column, condition] := by
  intro before q after other e tested'
  cases before with
  | nil =>
    -- the test for a value is no test of a value
    obtain ⟨rfl, -⟩ := List.cons.inj e
    contradiction
  | cons guard before =>
    obtain ⟨rfl, e'⟩ := List.cons.inj e
    rcases List.append_eq_singleton_iff.1 e'.symm with ⟨rfl, last⟩ | ⟨-, none⟩
    · obtain ⟨rfl, -⟩ := List.cons.inj last
      obtain rfl := Option.some.inj (tested.symm.trans tested')
      exact ⟨[], rfl⟩
    · contradiction

/-- A guarded test of a value is in normal form. -/
theorem isNormal_guarded (tested : condition.testedColumn? = some column) :
    (guarded column condition).IsNormal := by
  rw [guarded_eq_and tested]
  refine ⟨rfl, fun q occurs => ?_⟩
  cases occurs with
  | self =>
    refine ⟨Nat.le_refl 2, fun q mem parts e => ?_, areGuarded_pair tested⟩
    rcases List.mem_pair.1 mem with rfl | rfl
    · contradiction
    · rw [e] at tested
      contradiction
  | @inAnd p _ mem h =>
    rcases List.mem_pair.1 mem with rfl | rfl
    · exact (isNormal_isNotNull column).nodes q h
    · cases p with
      | like | compare | oneOf => cases h; trivial
      | always | never | isNull | and | or | not => contradiction

end Guarded

/-! ## Lists -/

mutual

/-- The lists that a predicate looks for values in, with their columns, from left to right. -/
def lists : Predicate → List (String × List Value)
  | oneOf column values => [(column, values)]
  | and parts | or parts => listsOfAll parts
  | not p => lists p
  | always | never | isNull _ | like .. | compare .. => []

/-- The lists of predicates, from left to right. -/
def listsOfAll : List Predicate → List (String × List Value)
  | [] => []
  | p :: ps => lists p ++ listsOfAll ps

end

theorem listsOfAll_append (ps qs : List Predicate) :
    listsOfAll (ps ++ qs) = listsOfAll ps ++ listsOfAll qs := by
  induction ps with
  | nil => rfl
  | cons p ps ih => rw [List.cons_append, listsOfAll, listsOfAll, ih, List.append_assoc]

theorem listsOfAll_conjuncts (p : Predicate) : listsOfAll p.conjuncts = p.lists := by
  cases p with
  | and parts => rw [conjuncts, lists]
  | always | never | isNull | like | compare | oneOf | or | not => exact List.append_nil _

theorem listsOfAll_disjuncts (p : Predicate) : listsOfAll p.disjuncts = p.lists := by
  cases p with
  | or parts => rw [disjuncts, lists]
  | always | never | isNull | like | compare | oneOf | and | not => exact List.append_nil _

theorem lists_conj (p q : Predicate) : (p.conj q).lists = p.lists ++ q.lists := by
  rw [conj, lists, listsOfAll_append, listsOfAll_conjuncts, listsOfAll_conjuncts]

theorem lists_disj (p q : Predicate) : (p.disj q).lists = p.lists ++ q.lists := by
  rw [disj, lists, listsOfAll_append, listsOfAll_disjuncts, listsOfAll_disjuncts]

theorem lists_negate (p : Predicate) : p.negate.lists = p.lists := by
  cases p <;> rfl

theorem lists_guarded (column : String) (condition : Predicate) :
    (guarded column condition).lists = condition.lists := by
  rw [guarded, lists_conj]
  rfl

end Predicate

/-! ## Leaves -/

/-- What a store looks for on behalf of a project test: a list of texts, in strictly ascending order
by their bytes, which are the known paths that match, in lower case. -/
structure ProjectTest.IsListed (ctx : QueryContext) (t : ProjectTest)
    (list : String × List Value) : Prop where
  column : ctx.schema.column? .project = some list.1
  full : list.2 ≠ []
  known : ∃ paths : List String, list.2 = paths.map .text ∧
    (paths.Pairwise fun s s' => Text.utf8 s < Text.utf8 s') ∧
    ∀ s, s ∈ paths ↔ s ∈ (ctx.projects.matching t.path.text).map Text.lowercase

/-- The project test that a leaf is, if it is one. -/
def Leaf.project? : Leaf → Option ProjectTest
  | project t => some t
  | text _ | number _ | status _ | date _ | submittedByMe => none

/-- The project tests among leaves that match a known project, from left to right. -/
def ProjectDirectory.testsFor (d : ProjectDirectory) (ls : List Leaf) : List ProjectTest :=
  (ls.filterMap Leaf.project?).filter fun t => !(d.matching t.path.text).isEmpty

theorem ProjectDirectory.testsFor_append (d : ProjectDirectory) (ls ls' : List Leaf) :
    d.testsFor (ls ++ ls') = d.testsFor ls ++ d.testsFor ls' := by
  rw [testsFor, List.filterMap_append, List.filter_append, testsFor, testsFor]

theorem ProjectDirectory.testsFor_project (d : ProjectDirectory) (t : ProjectTest) :
    d.testsFor [.project t] = if (d.matching t.path.text).isEmpty then [] else [t] := by
  show [t].filter _ = _
  rw [List.filter_singleton, Bool.cond_not, Bool.cond_eq_ite]

theorem ProjectDirectory.isEmpty_resolve (d : ProjectDirectory) (path : ProjectPath) :
    (d.resolve path).isEmpty = (d.matching path.text).isEmpty := by
  rw [Bool.eq_iff_iff, List.isEmpty_iff, List.isEmpty_iff, List.eq_nil_iff_forall_not_mem,
    List.eq_nil_iff_forall_not_mem]
  simp [resolve, mem_sortedStrings]

namespace Leaf

variable {l : Leaf} {ctx : QueryContext} {column : String} {p : Predicate}

theorem isNormal_naturalPredicate (ctx : QueryContext) (column : String) (l : Leaf) :
    (l.naturalPredicate ctx column).IsNormal := by
  cases l with
  | text | number | status | date => exact Predicate.isNormal_guarded rfl
  | project t =>
    unfold naturalPredicate
    dsimp only
    split
    · exact Predicate.isNormal_never
    · exact Predicate.isNormal_guarded rfl
  | submittedByMe =>
    unfold naturalPredicate
    cases ctx.user? with
    | none => exact Predicate.isNormal_never
    | some user => exact Predicate.isNormal_guarded rfl

theorem polarize_cases (l : Leaf) (p : Predicate) : l.polarize p = p ∨ l.polarize p = p.negate := by
  unfold polarize
  cases l.operator? with
  | none => exact .inl rfl
  | some op =>
    dsimp only [Operator.applyTo]
    split
    · exact .inr rfl
    · exact .inl rfl

theorem polarize_negated? {l' : Leaf} (h : l.negated? = some l') (normal : p.IsNormal) :
    l'.polarize p = (l.polarize p).negate := by
  have opposite (op : Operator) : op.negated.applyTo p = (op.applyTo p).negate := by
    unfold Operator.applyTo
    rw [Operator.isNegated_negated]
    cases op.isNegated with
    | true => exact normal.negate_negate.symm
    | false => rfl
  cases l <;> cases h <;> exact opposite _

theorem isNormal_of_compile (compiled : l.compile ctx = .ok p) : p.IsNormal := by
  obtain ⟨column, -, rfl⟩ := compile_eq_ok_iff.1 compiled
  have natural := l.isNormal_naturalPredicate ctx column
  rcases l.polarize_cases (l.naturalPredicate ctx column) with e | e
  · rw [e]
    exact natural
  · rw [e]
    exact natural.negate

theorem lists_polarize (l : Leaf) (p : Predicate) : (l.polarize p).lists = p.lists := by
  rcases l.polarize_cases p with e | e
  · rw [e]
  · rw [e, Predicate.lists_negate]

theorem lists_of_compile (compiled : l.compile ctx = .ok p) :
    List.Forall₂ (ProjectTest.IsListed ctx) (ctx.projects.testsFor [l]) p.lists := by
  obtain ⟨column, mapped, rfl⟩ := compile_eq_ok_iff.1 compiled
  rw [lists_polarize]
  cases l with
  | text | number | status | date =>
    unfold naturalPredicate
    rw [Predicate.lists_guarded]
    exact .nil
  | submittedByMe =>
    unfold naturalPredicate
    cases ctx.user? with
    | none => exact .nil
    | some user => exact .nil
  | project t =>
    unfold naturalPredicate
    rw [ProjectDirectory.testsFor_project, ← ctx.projects.isEmpty_resolve]
    dsimp only
    cases empty : (ctx.projects.resolve t.path).isEmpty with
    | true => exact .nil
    | false =>
      rw [if_neg Bool.false_ne_true, if_neg Bool.false_ne_true, Predicate.lists_guarded]
      have full : ctx.projects.resolve t.path ≠ [] := List.isEmpty_eq_false_iff.1 empty
      have ascending := (ctx.projects.pairwise_resolve t.path).imp Text.utf8_lt
      refine .cons ⟨mapped, mt List.map_eq_nil_iff.1 full, _, rfl, ascending, fun s => ?_⟩ .nil
      exact mem_sortedStrings

end Leaf

/-! ## Queries -/

namespace Criteria

variable {ctx : QueryContext} {c : Criteria} {p : Predicate}

theorem isNormal_of_compile (compiled : c.compile ctx = .ok p) : p.IsNormal := by
  induction c generalizing p with
  | leaf l => exact Leaf.isNormal_of_compile compiled
  | and l r ihl ihr =>
    obtain ⟨a, b, ha, hb, rfl⟩ := compile_and_eq_ok_iff.1 compiled
    exact (ihl ha).conj (ihr hb)
  | or l r ihl ihr =>
    obtain ⟨a, b, ha, hb, rfl⟩ := compile_or_eq_ok_iff.1 compiled
    exact (ihl ha).disj (ihr hb)
  | not c ih =>
    obtain ⟨a, ha, rfl⟩ := compile_not_eq_ok_iff.1 compiled
    exact (ih ha).negate
  | group c ih => exact ih compiled

theorem lists_of_compile (compiled : c.compile ctx = .ok p) :
    List.Forall₂ (ProjectTest.IsListed ctx) (ctx.projects.testsFor c.leaves) p.lists := by
  induction c generalizing p with
  | leaf l => exact Leaf.lists_of_compile compiled
  | and l r ihl ihr =>
    obtain ⟨a, b, ha, hb, rfl⟩ := compile_and_eq_ok_iff.1 compiled
    rw [leaves, ProjectDirectory.testsFor_append, Predicate.lists_conj]
    exact List.rel_append (ihl ha) (ihr hb)
  | or l r ihl ihr =>
    obtain ⟨a, b, ha, hb, rfl⟩ := compile_or_eq_ok_iff.1 compiled
    rw [leaves, ProjectDirectory.testsFor_append, Predicate.lists_disj]
    exact List.rel_append (ihl ha) (ihr hb)
  | not c ih =>
    obtain ⟨a, ha, rfl⟩ := compile_not_eq_ok_iff.1 compiled
    rw [Predicate.lists_negate]
    exact ih ha
  | group c ih => exact ih compiled

/-! ### Queries in another shape -/

/-- Whether two queries become the same when chains are grouped in another way, groups are added or
taken away, double negations are taken away, and the operator of a leaf is negated instead of the
leaf, anywhere in them. -/
inductive Reshaped : Criteria → Criteria → Prop where
  | refl (c : Criteria) : Reshaped c c
  | symm {c d : Criteria} (h : Reshaped c d) : Reshaped d c
  | trans {c d e : Criteria} (h : Reshaped c d) (h' : Reshaped d e) : Reshaped c e
  | and_assoc (a b c : Criteria) : Reshaped (and (and a b) c) (and a (and b c))
  | or_assoc (a b c : Criteria) : Reshaped (or (or a b) c) (or a (or b c))
  | group (c : Criteria) : Reshaped (group c) c
  | not_not (c : Criteria) : Reshaped (not (not c)) c
  | negated {l l' : Leaf} (h : l.negated? = some l') : Reshaped (leaf l') (not (leaf l))
  | inAnd {a a' b b' : Criteria} (h : Reshaped a a') (h' : Reshaped b b') :
      Reshaped (and a b) (and a' b')
  | inOr {a a' b b' : Criteria} (h : Reshaped a a') (h' : Reshaped b b') :
      Reshaped (or a b) (or a' b')
  | inNot {c d : Criteria} (h : Reshaped c d) : Reshaped (not c) (not d)
  | inGroup {c d : Criteria} (h : Reshaped c d) : Reshaped (.group c) (.group d)

theorem compile_not_not (c : Criteria) (ctx : QueryContext) :
    (not (not c)).compile ctx = c.compile ctx := by
  rw [compile, compile]
  cases h : c.compile ctx with
  | error e => rfl
  | ok p => exact congrArg Except.ok (isNormal_of_compile h).negate_negate

theorem compile_negated {l l' : Leaf} (h : l.negated? = some l') (ctx : QueryContext) :
    (leaf l').compile ctx = (not (leaf l)).compile ctx := by
  rw [compile, compile, compile, Leaf.compile, Leaf.compile, Leaf.field_negated? h]
  cases ctx.schema.column l.field with
  | error e => rfl
  | ok column =>
    refine congrArg Except.ok ?_
    rw [Leaf.naturalPredicate_negated? h]
    exact Leaf.polarize_negated? h (l.isNormal_naturalPredicate ctx column)

theorem Reshaped.compile_eq {d : Criteria} (h : Reshaped c d) : c.compile ctx = d.compile ctx := by
  induction h with
  | refl c => rfl
  | symm _ ih => exact ih.symm
  | trans _ _ ih ih' => exact ih.trans ih'
  | and_assoc a b c =>
    have same : Alike 0 _ _ := alike_and_assoc a b c
    exact same.compile ctx
  | or_assoc a b c =>
    have same : Alike 0 _ _ := alike_or_assoc a b c
    exact same.compile ctx
  | group c => rfl
  | not_not c => exact c.compile_not_not ctx
  | negated h => exact compile_negated h ctx
  | inAnd _ _ ih ih' => rw [compile, compile, ih, ih']
  | inOr _ _ ih ih' => rw [compile, compile, ih, ih']
  | inNot _ ih => rw [compile, compile, ih]
  | inGroup _ ih => exact ih

/-- What a query compiles to is in normal form, and it looks for one list of known projects for each
project test that matches any, in the order of the leaves, each list holding exactly the known paths
that the test matches. A query in another shape compiles to the same predicate, or fails alike. -/
theorem compile_in_normal_form (c : Criteria) (ctx : QueryContext) :
    (∀ p, c.compile ctx = .ok p → p.IsNormal ∧
        List.Forall₂ (ProjectTest.IsListed ctx) (ctx.projects.testsFor c.leaves) p.lists) ∧
      ∀ d, Reshaped c d → c.compile ctx = d.compile ctx :=
  ⟨fun _ compiled => ⟨isNormal_of_compile compiled, lists_of_compile compiled⟩,
    fun _ => Reshaped.compile_eq⟩

/-- A negated test of projects with two spellings, grouped to the right in a group and under two
negations. -/
theorem compile_in_normal_form_of_nested :
    let project (op : Operator) (h : op.Supports .project) : Leaf :=
      .project ⟨.ofText "Team/*", op, h, by decide⟩
    let version : Criteria :=
      .leaf (.text ⟨.version, ⟨.is, .natural⟩, "1.*", rfl, by decide, by decide⟩)
    let c := and (leaf (project ⟨.is, .negated⟩ (by decide))) (group (and version version))
    let d := and (and (not (leaf (project ⟨.is, .natural⟩ (by decide)))) version)
      (not (not version))
    let ctx : QueryContext := ⟨.standard, ⟨["team/web", "Team/App", "TEAM/WEB", "ops"]⟩, none⟩
    Reshaped c d ∧ ∃ p, c.compile ctx = .ok p ∧ d.compile ctx = .ok p ∧ p.IsNormal ∧
      p.lists = [("project.path", [.text "team/app", .text "team/web"])] := by
  intro project version c d ctx
  have first : Reshaped (leaf (project ⟨.is, .negated⟩ (by decide)))
      (not (leaf (project ⟨.is, .natural⟩ (by decide)))) := .negated rfl
  have rest : Reshaped (group (and version version)) (and version (not (not version))) :=
    (Reshaped.group _).trans (.inAnd (.refl version) (Reshaped.not_not version).symm)
  have same : Reshaped c d := (Reshaped.inAnd first rest).trans (Reshaped.and_assoc _ _ _).symm
  obtain ⟨p, compiled⟩ : ∃ p, c.compile ctx = .ok p := ⟨_, rfl⟩
  have normal := (compile_in_normal_form c ctx).1 p compiled
  have alike := (compile_in_normal_form c ctx).2 d same
  refine ⟨same, p, compiled, alike.symm.trans compiled, normal.1, ?_⟩
  obtain rfl := Except.ok.inj compiled
  decide

end Criteria

end BuildQuery
