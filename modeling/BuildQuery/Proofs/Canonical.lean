import BuildQuery.Proofs.LeafWise
import BuildQuery.Proofs.RoundTrip

/-!
# Canonical queries

A query is canonical when its text shows how it is grouped: chains go to the left, and whatever
binds looser than the place where it stands is in a group. A query that is read is canonical
(`isCanonical_of_parse`), a move keeps it so (`Move.isCanonical_apply`), and a canonical query is
read back from its text as it is (`parse_render_of_isCanonical`).
-/

namespace BuildQuery

namespace Criteria

/-- Whether the text of a query shows how it is grouped. -/
def IsCanonical : Criteria → Prop
  | leaf _ => True
  | and l r => 2 ≤ l.precedence ∧ 3 ≤ r.precedence ∧ l.IsCanonical ∧ r.IsCanonical
  | or l r => 2 ≤ r.precedence ∧ l.IsCanonical ∧ r.IsCanonical
  | not c => 3 ≤ c.precedence ∧ c.IsCanonical
  | group c => c.IsCanonical

theorem enclosed_eq_self {outer inner : Nat} (h : outer ≤ inner) (c : Criteria) :
    enclosed outer inner c = c :=
  if_neg (Nat.not_lt.2 h)

theorem andJoin_of_precedence {r : Criteria} (h : 3 ≤ r.precedence) (l : Criteria) :
    l.andJoin r = and l r := by
  cases r with
  | and => exact absurd h (Nat.not_succ_le_self 2)
  | leaf | or | not | group => rfl

theorem orJoin_of_precedence {r : Criteria} (h : 2 ≤ r.precedence) (l : Criteria) :
    l.orJoin r = or l r := by
  cases r with
  | or => exact absurd h (Nat.not_succ_le_self 1)
  | leaf | and | not | group => rfl

theorem asRead_eq_self {c : Criteria} (h : c.IsCanonical) : c.asRead = c := by
  induction c with
  | leaf l => rfl
  | and l r ihl ihr =>
    obtain ⟨pl, pr, hl, hr⟩ := h
    rw [asRead, ihl hl, ihr hr, enclosed_eq_self pl, enclosed_eq_self (Nat.le_of_succ_le pr),
      andJoin_of_precedence pr]
  | or l r ihl ihr =>
    obtain ⟨pr, hl, hr⟩ := h
    rw [asRead, ihl hl, ihr hr, enclosed_eq_self l.precedence_pos,
      enclosed_eq_self (Nat.le_of_succ_le pr), orJoin_of_precedence pr]
  | not c ih =>
    obtain ⟨pc, hc⟩ := h
    rw [asRead, ih hc, enclosed_eq_self pc]
  | group c ih => rw [asRead, ih h]

/-- A canonical query is read back from its text as it is. -/
theorem parse_render_of_isCanonical {c : Criteria} (h : c.IsCanonical) :
    parse c.render = .ok c := by
  rw [parse_render, asRead_eq_self h]

/-- What the grammar derives is canonical and binds as tight as its layer. -/
theorem isCanonical_of_derives {layer : Layer} {ts : List Token} {c : Criteria}
    (h : Derives layer ts c) : layer.precedence ≤ c.precedence ∧ c.IsCanonical := by
  induction h with
  | conjunction _ ih | negation _ ih | primary _ ih => exact ⟨Nat.le_of_succ_le ih.1, ih.2⟩
  | or _ _ ihl ihr => exact ⟨Nat.le_refl 1, ihr.1, ihl.2, ihr.2⟩
  | and _ _ ihl ihr => exact ⟨Nat.le_refl 2, ihl.1, ihr.1, ihl.2, ihr.2⟩
  | not _ ih => exact ⟨Nat.le_refl 3, ih.1, ih.2⟩
  | group _ ih => exact ⟨Nat.le_refl 4, ih.2⟩
  | mine | test => exact ⟨Nat.le_refl 4, trivial⟩

/-- A query that is read is canonical. -/
theorem isCanonical_of_parse {s : String} {c : Criteria} (h : parse s = .ok c) :
    c.IsCanonical := by
  obtain ⟨ts, d⟩ := derives_of_parse h
  exact (isCanonical_of_derives d).2

/-! ## Moves -/

@[simp] theorem precedence_mapLeaves (c : Criteria) (m : Leaf → Leaf) :
    (c.mapLeaves m).precedence = c.precedence := by
  cases c <;> rfl

/-- Changing leaves keeps the grouping. -/
theorem isCanonical_mapLeaves_iff {c : Criteria} {m : Leaf → Leaf} :
    (c.mapLeaves m).IsCanonical ↔ c.IsCanonical := by
  induction c with
  | leaf l => exact Iff.rfl
  | and l r ihl ihr =>
    rw [mapLeaves, IsCanonical, IsCanonical, precedence_mapLeaves, precedence_mapLeaves, ihl, ihr]
  | or l r ihl ihr => rw [mapLeaves, IsCanonical, IsCanonical, precedence_mapLeaves, ihl, ihr]
  | not c ih => rw [mapLeaves, IsCanonical, IsCanonical, precedence_mapLeaves, ih]
  | group c ih => exact ih

theorem IsCanonical.relocate {c : Criteria} (h : c.IsCanonical) (old new : ProjectPath) :
    (c.relocate old new).IsCanonical := by
  rw [relocate_eq_mapLeaves]
  exact isCanonical_mapLeaves_iff.2 h

theorem IsCanonical.moved {c : Criteria} (h : c.IsCanonical) (old new : String) :
    (c.moved old new).IsCanonical := by
  unfold Criteria.moved moved?
  cases ProjectPath.normalize new with
  | error fault => exact h
  | ok target =>
    dsimp only
    split
    · exact h
    · exact h.relocate _ _

end Criteria

/-- The move of a project between two paths as somebody wrote them. -/
inductive Move where
  /-- The query is copied if anything changes. -/
  | copied (old new : String)
  /-- The query is changed where it is. -/
  | inPlace (old new : String)
  deriving DecidableEq, Repr

namespace Move

/-- The query after a move. -/
def apply : Move → Criteria → Criteria
  | copied old new, c => c.moved old new
  | inPlace old new, c => c.movedInPlace old new

/-- The query after several moves, one after the other. -/
def applyAll (moves : List Move) (c : Criteria) : Criteria := moves.foldl (fun c m => m.apply c) c

theorem isCanonical_apply {c : Criteria} (h : c.IsCanonical) (m : Move) :
    (m.apply c).IsCanonical := by
  cases m with
  | copied old new => exact h.moved old new
  | inPlace old new => exact h.relocate _ _

theorem isCanonical_applyAll {c : Criteria} (h : c.IsCanonical) (moves : List Move) :
    (applyAll moves c).IsCanonical := by
  induction moves generalizing c with
  | nil => exact h
  | cons m moves ih => exact ih (isCanonical_apply h m)

end Move

end BuildQuery
