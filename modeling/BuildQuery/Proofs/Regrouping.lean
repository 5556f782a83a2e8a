import BuildQuery.Criteria.Compiling
import BuildQuery.Criteria.Writing

/-!
# Queries as their text groups them

The text of a query does not say how a chain of `and` or of `or` is grouped, and its parentheses do
not say whether the query has a group there. A reader groups chains to the left and takes every pair
of parentheses for a group (`asRead`). Main statement: this makes no difference to the text, to the
leaves, to the compiled predicate and to the entities that match (`alike_asRead`).
-/

namespace BuildQuery

namespace Predicate

theorem conj_assoc (p q r : Predicate) : (p.conj q).conj r = p.conj (q.conj r) :=
  congrArg and (List.append_assoc p.conjuncts q.conjuncts r.conjuncts)

theorem disj_assoc (p q r : Predicate) : (p.disj q).disj r = p.disj (q.disj r) :=
  congrArg or (List.append_assoc p.disjuncts q.disjuncts r.disjuncts)

end Predicate

namespace Criteria

/-- A conjunction, with the parts of the right side put to the left one after the other. -/
def andJoin (l : Criteria) : Criteria → Criteria
  | and a b => and (l.andJoin a) b
  | r => and l r

/-- A disjunction, with the parts of the right side put to the left one after the other. -/
def orJoin (l : Criteria) : Criteria → Criteria
  | or a b => or (l.orJoin a) b
  | r => or l r

/-- A criterion inside one that binds with the given tightness, in a group where its text is in
parentheses. -/
def enclosed (outer inner : Nat) (c : Criteria) : Criteria := if inner < outer then group c else c

/-- A query as the text of it is read. -/
def asRead : Criteria → Criteria
  | leaf l => leaf l
  | and l r => (enclosed 2 l.precedence l.asRead).andJoin (enclosed 2 r.precedence r.asRead)
  | or l r => (enclosed 1 l.precedence l.asRead).orJoin (enclosed 1 r.precedence r.asRead)
  | not c => not (enclosed 3 c.precedence c.asRead)
  | group c => group c.asRead

/-- Whether two criteria cannot be told apart inside one that binds with the given tightness. -/
structure Alike (outer : Nat) (c d : Criteria) : Prop where
  text : inside outer c.precedence c.render = inside outer d.precedence d.render
  leaves : c.leaves = d.leaves
  compile : ∀ ctx, c.compile ctx = d.compile ctx
  holds : ∀ entity ctx, c.holds entity ctx = d.holds entity ctx

theorem precedence_pos (c : Criteria) : 0 < c.precedence := by
  cases c <;> exact Nat.zero_lt_succ _

theorem inside_eq_self {outer inner : Nat} (h : outer ≤ inner) (text : String) :
    inside outer inner text = text :=
  if_neg (Nat.not_lt.2 h)

namespace Alike

variable {outer : Nat} {c d e l l' r r' : Criteria}

theorem refl (outer : Nat) (c : Criteria) : Alike outer c c :=
  ⟨rfl, rfl, fun _ => rfl, fun _ _ => rfl⟩

theorem trans (h : Alike outer c d) (h' : Alike outer d e) : Alike outer c e :=
  ⟨h.text.trans h'.text, h.leaves.trans h'.leaves,
    fun ctx => (h.compile ctx).trans (h'.compile ctx),
    fun entity ctx => (h.holds entity ctx).trans (h'.holds entity ctx)⟩

theorem render (h : Alike 0 c d) : c.render = d.render := by
  have text := h.text
  rwa [inside_eq_self (Nat.zero_le _), inside_eq_self (Nat.zero_le _)] at text

theorem and (hl : Alike 2 l l') (hr : Alike 2 r r') : Alike outer (and l r) (and l' r') where
  text := congrArg (inside outer 2) (by rw [Criteria.render, Criteria.render, hl.text, hr.text])
  leaves := by rw [Criteria.leaves, Criteria.leaves, hl.leaves, hr.leaves]
  compile ctx := by rw [Criteria.compile, Criteria.compile, hl.compile, hr.compile]
  holds entity ctx := by rw [Criteria.holds, Criteria.holds, hl.holds, hr.holds]

theorem or (hl : Alike 1 l l') (hr : Alike 1 r r') : Alike outer (or l r) (or l' r') where
  text := congrArg (inside outer 1) (by rw [Criteria.render, Criteria.render, hl.text, hr.text])
  leaves := by rw [Criteria.leaves, Criteria.leaves, hl.leaves, hr.leaves]
  compile ctx := by rw [Criteria.compile, Criteria.compile, hl.compile, hr.compile]
  holds entity ctx := by rw [Criteria.holds, Criteria.holds, hl.holds, hr.holds]

theorem not (h : Alike 3 c d) : Alike outer (not c) (not d) where
  text := congrArg (inside outer 3) (by rw [Criteria.render, Criteria.render, h.text])
  leaves := h.leaves
  compile ctx := by rw [Criteria.compile, Criteria.compile, h.compile]
  holds entity ctx := by rw [Criteria.holds, Criteria.holds, h.holds]

theorem group (h : Alike 0 c d) : Alike outer (group c) (group d) where
  text := congrArg (inside outer 4) (by rw [Criteria.render, Criteria.render, h.render])
  leaves := h.leaves
  compile := h.compile
  holds := h.holds

end Alike

/-! ## Chains -/

section Chains

variable {outer : Nat}

theorem alike_and_assoc (a b c : Criteria) : Alike outer (and (and a b) c) (and a (and b c)) where
  text := by
    refine congrArg (inside outer 2) ?_
    simp only [render, precedence, inside_eq_self (Nat.le_refl 2), String.append_assoc]
  leaves := List.append_assoc _ _ _
  compile ctx := by
    rw [compile, compile, compile, compile]
    exact combine_assoc Predicate.conj_assoc _ _ _
  holds entity ctx := Bool.and_assoc _ _ _

theorem alike_or_assoc (a b c : Criteria) : Alike outer (or (or a b) c) (or a (or b c)) where
  text := by
    refine congrArg (inside outer 1) ?_
    simp only [render, precedence, inside_eq_self (Nat.le_refl 1), String.append_assoc]
  leaves := List.append_assoc _ _ _
  compile ctx := by
    rw [compile, compile, compile, compile]
    exact combine_assoc Predicate.disj_assoc _ _ _
  holds entity ctx := Bool.or_assoc _ _ _

theorem alike_andJoin (l r : Criteria) : Alike outer (l.andJoin r) (and l r) := by
  induction r generalizing outer with
  | and a b ih => exact (Alike.and ih (.refl 2 b)).trans (alike_and_assoc l a b)
  | leaf | or | not | group => exact .refl outer _

theorem alike_orJoin (l r : Criteria) : Alike outer (l.orJoin r) (or l r) := by
  induction r generalizing outer with
  | or a b ih => exact (Alike.or ih (.refl 1 b)).trans (alike_or_assoc l a b)
  | leaf | and | not | group => exact .refl outer _

end Chains

/-- A group in the place of parentheses. -/
theorem alike_enclosed {outer : Nat} {c d : Criteria} (le : outer ≤ 4)
    (h : ∀ n, Alike n d c) : Alike outer (enclosed outer c.precedence d) c := by
  unfold enclosed
  by_cases looser : c.precedence < outer
  · rw [if_pos looser]
    refine ⟨?_, (h 0).leaves, (h 0).compile, (h 0).holds⟩
    show inside outer 4 (parenthesized d.render) = _
    rw [inside_eq_self le, inside, if_pos looser, (h 0).render]
  · rw [if_neg looser]
    exact h outer

/-- The text of a query is read as one that cannot be told apart from it. -/
theorem alike_asRead (outer : Nat) (c : Criteria) : Alike outer c.asRead c := by
  induction c generalizing outer with
  | leaf l => exact .refl outer _
  | and l r ihl ihr =>
    have left : Alike 2 _ l := alike_enclosed (by decide) ihl
    have right : Alike 2 _ r := alike_enclosed (by decide) ihr
    exact (alike_andJoin _ _).trans (.and left right)
  | or l r ihl ihr =>
    have left : Alike 1 _ l := alike_enclosed (by decide) ihl
    have right : Alike 1 _ r := alike_enclosed (by decide) ihr
    exact (alike_orJoin _ _).trans (.or left right)
  | not c ih => exact .not (alike_enclosed (by decide) ih)
  | group c ih => exact .group (ih 0)

end Criteria

end BuildQuery
