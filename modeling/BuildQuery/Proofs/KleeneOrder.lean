import Mathlib.Order.Bounds.Basic
import Mathlib.Order.MinMax
import BuildQuery.Proofs.StoreEval
import BuildQuery.Store.Scan

/-!
# Predicates and the order of truth

In the order from false over unknown to true, a conjunction is the least of its parts and a
disjunction the greatest (`isLeast_eval_and`, `isGreatest_eval_or`), so that only the set of their
outcomes matters. A scan that stops early comes to the same, since nothing is below false and
nothing above true (`scan_eq_eval`).

Main statement: predicates are evaluated in Kleene's logic, and neither the order of parts nor their
grouping nor repetition makes a difference, at whatever depth (`eval_is_kleene`).
-/

namespace BuildQuery

/-! ## The order -/

namespace Truth

/-- The place of an outcome in the order from false to true. -/
def rank : Truth → Nat
  | no => 0
  | unknown => 1
  | yes => 2

theorem rank_injective : Function.Injective rank := by
  intro s t h
  cases s <;> cases t <;> first | rfl | contradiction

/-- False is below unknown, which is below true. -/
instance : LinearOrder Truth := LinearOrder.lift' rank rank_injective

instance : BoundedOrder Truth where
  top := yes
  le_top t := by cases t <;> decide
  bot := no
  bot_le t := by cases t <;> decide

theorem and_eq_min (s t : Truth) : s.and t = min s t := by
  cases s <;> cases t <;> rfl

theorem or_eq_max (s t : Truth) : s.or t = max s t := by
  cases s <;> cases t <;> rfl

theorem and_unknown_and {s : Truth} (h : s ≠ no) (t : Truth) :
    s.and (unknown.and t) = unknown.and t := by
  cases s <;> cases t <;> first | rfl | contradiction

theorem or_unknown_or {s : Truth} (h : s ≠ yes) (t : Truth) :
    s.or (unknown.or t) = unknown.or t := by
  cases s <;> cases t <;> first | rfl | contradiction

end Truth

namespace Predicate

variable (row : Row)

/-! ## Parts -/

/-- The outcomes of predicates. -/
def outcomes (ps : List Predicate) : Set Truth := {t | ∃ p ∈ ps, p.eval row = t}

theorem outcomes_nil : outcomes row [] = ∅ := by
  simp [outcomes]

theorem outcomes_cons (p : Predicate) (ps : List Predicate) :
    outcomes row (p :: ps) = insert (p.eval row) (outcomes row ps) := by
  ext t
  simp [outcomes, eq_comm]

theorem isGLB_evalAll (ps : List Predicate) : IsGLB (outcomes row ps) (evalAll row ps) := by
  induction ps with
  | nil =>
    rw [outcomes_nil]
    exact isGLB_empty
  | cons p ps ih =>
    rw [outcomes_cons, evalAll, Truth.and_eq_min]
    exact ih.insert _

theorem isLUB_evalAny (ps : List Predicate) : IsLUB (outcomes row ps) (evalAny row ps) := by
  induction ps with
  | nil =>
    rw [outcomes_nil]
    exact isLUB_empty
  | cons p ps ih =>
    rw [outcomes_cons, evalAny, Truth.or_eq_max]
    exact ih.insert _

variable {row} {ps qs : List Predicate}

theorem evalAll_mem_outcomes (full : ps ≠ []) : evalAll row ps ∈ outcomes row ps := by
  induction ps with
  | nil => contradiction
  | cons p ps ih =>
    rw [outcomes_cons, evalAll, Truth.and_eq_min]
    cases ps with
    | nil => exact .inl (min_eq_left le_top)
    | cons q qs =>
      rcases min_choice (p.eval row) (evalAll row (q :: qs)) with h | h
      · exact .inl h
      · rw [h]
        exact .inr (ih (List.cons_ne_nil q qs))

theorem evalAny_mem_outcomes (full : ps ≠ []) : evalAny row ps ∈ outcomes row ps := by
  induction ps with
  | nil => contradiction
  | cons p ps ih =>
    rw [outcomes_cons, evalAny, Truth.or_eq_max]
    cases ps with
    | nil => exact .inl (max_eq_left bot_le)
    | cons q qs =>
      rcases max_choice (p.eval row) (evalAny row (q :: qs)) with h | h
      · exact .inl h
      · rw [h]
        exact .inr (ih (List.cons_ne_nil q qs))

theorem isLeast_eval_and (full : ps ≠ []) :
    IsLeast (outcomes row ps) ((and ps).eval row) := by
  rw [eval]
  exact ⟨evalAll_mem_outcomes full, (isGLB_evalAll row ps).1⟩

theorem isGreatest_eval_or (full : ps ≠ []) :
    IsGreatest (outcomes row ps) ((or ps).eval row) := by
  rw [eval]
  exact ⟨evalAny_mem_outcomes full, (isLUB_evalAny row ps).1⟩

/-! ## Parts that are rearranged -/

/-- Parts in another order, with one of them put in front once more, or with some that stand
together grouped under the connective. -/
inductive Regrouped (connective : List Predicate → Predicate) :
    List Predicate → List Predicate → Prop where
  | permute {ps qs : List Predicate} (h : ps.Perm qs) : Regrouped connective ps qs
  | duplicate {p : Predicate} {ps : List Predicate} (mem : p ∈ ps) :
      Regrouped connective ps (p :: ps)
  | group (before inside after : List Predicate) :
      Regrouped connective (before ++ inside ++ after) (before ++ connective inside :: after)

/-- Whether two predicates become the same when the parts of conjunctions and disjunctions are
rearranged, at whatever depth. -/
inductive Rearranged : Predicate → Predicate → Prop where
  | refl (p : Predicate) : Rearranged p p
  | symm {p q : Predicate} (h : Rearranged p q) : Rearranged q p
  | trans {p q r : Predicate} (h : Rearranged p q) (h' : Rearranged q r) : Rearranged p r
  | and {ps qs : List Predicate} (h : Regrouped .and ps qs) : Rearranged (.and ps) (.and qs)
  | or {ps qs : List Predicate} (h : Regrouped .or ps qs) : Rearranged (.or ps) (.or qs)
  | inAnd {p q : Predicate} (before after : List Predicate) (h : Rearranged p q) :
      Rearranged (.and (before ++ p :: after)) (.and (before ++ q :: after))
  | inOr {p q : Predicate} (before after : List Predicate) (h : Rearranged p q) :
      Rearranged (.or (before ++ p :: after)) (.or (before ++ q :: after))
  | inNot {p q : Predicate} (h : Rearranged p q) : Rearranged (.not p) (.not q)

theorem outcomes_congr (same : ∀ p, p ∈ ps ↔ p ∈ qs) : outcomes row ps = outcomes row qs := by
  simp only [outcomes, same]

theorem evalAll_congr (same : ∀ p, p ∈ ps ↔ p ∈ qs) : evalAll row ps = evalAll row qs := by
  have least := isGLB_evalAll row ps
  rw [outcomes_congr same] at least
  exact least.unique (isGLB_evalAll row qs)

theorem evalAny_congr (same : ∀ p, p ∈ ps ↔ p ∈ qs) : evalAny row ps = evalAny row qs := by
  have greatest := isLUB_evalAny row ps
  rw [outcomes_congr same] at greatest
  exact greatest.unique (isLUB_evalAny row qs)

theorem mem_iff_mem_cons {p : Predicate} (mem : p ∈ ps) (q : Predicate) : q ∈ ps ↔ q ∈ p :: ps := by
  grind

theorem Regrouped.evalAll_eq (h : Regrouped and ps qs) : evalAll row ps = evalAll row qs := by
  cases h with
  | permute h => exact evalAll_congr fun _ => h.mem_iff
  | duplicate mem => exact evalAll_congr (mem_iff_mem_cons mem)
  | group before inside after =>
    rw [List.append_assoc, evalAll_append, evalAll_append, evalAll_append, evalAll, eval]

theorem Regrouped.evalAny_eq (h : Regrouped or ps qs) : evalAny row ps = evalAny row qs := by
  cases h with
  | permute h => exact evalAny_congr fun _ => h.mem_iff
  | duplicate mem => exact evalAny_congr (mem_iff_mem_cons mem)
  | group before inside after =>
    rw [List.append_assoc, evalAny_append, evalAny_append, evalAny_append, evalAny, eval]

/-- Rearranging makes no difference to the outcome. -/
theorem Rearranged.eval_eq {p q : Predicate} (h : Rearranged p q) : p.eval row = q.eval row := by
  induction h with
  | refl p => rfl
  | symm _ ih => exact ih.symm
  | trans _ _ ih ih' => exact ih.trans ih'
  | and h => rw [eval, eval, h.evalAll_eq]
  | or h => rw [eval, eval, h.evalAny_eq]
  | inAnd before after _ ih =>
    rw [eval, eval, evalAll_append, evalAll_append, evalAll, evalAll, ih]
  | inOr before after _ ih =>
    rw [eval, eval, evalAny_append, evalAny_append, evalAny, evalAny, ih]
  | inNot _ ih => rw [eval, eval, ih]

/-! ## Scans -/

mutual

/-- A scan comes to the outcome of the predicate. -/
theorem scan_eq_eval (row : Row) : ∀ p : Predicate, p.scan row = p.eval row
  | always | never | isNull _ | like .. | compare .. | oneOf .. => rfl
  | and parts => scanAll_eq row .yes nofun parts
  | or parts => scanAny_eq row .no nofun parts
  | not p => congrArg Truth.not (scan_eq_eval row p)

/-- As long as no part was false, the parts that are left are joined to what was found so far. -/
theorem scanAll_eq (row : Row) (soFar : Truth) (undecided : soFar ≠ .no) :
    ∀ ps : List Predicate, scanAll row soFar ps = soFar.and (evalAll row ps)
  | [] => (Truth.and_yes soFar).symm
  | p :: ps => by
    rw [scanAll, scan_eq_eval row p, evalAll]
    cases p.eval row with
    | no => exact (Truth.and_no soFar).symm
    | yes => exact scanAll_eq row soFar undecided ps
    | unknown =>
      have rest := scanAll_eq row .unknown nofun ps
      exact rest.trans (Truth.and_unknown_and undecided _).symm

/-- As long as no part was true, the parts that are left are joined to what was found so far. -/
theorem scanAny_eq (row : Row) (soFar : Truth) (undecided : soFar ≠ .yes) :
    ∀ ps : List Predicate, scanAny row soFar ps = soFar.or (evalAny row ps)
  | [] => (Truth.or_no soFar).symm
  | p :: ps => by
    rw [scanAny, scan_eq_eval row p, evalAny]
    cases p.eval row with
    | yes => exact (Truth.or_yes soFar).symm
    | no => exact scanAny_eq row soFar undecided ps
    | unknown =>
      have rest := scanAny_eq row .unknown nofun ps
      exact rest.trans (Truth.or_unknown_or undecided _).symm

end

/-- Predicates are evaluated in Kleene's three-valued logic, also by a scan that stops at the first
part that decides. In the order from false over unknown to true, a conjunction is the least of its
parts, true without parts, and a disjunction is the greatest, false without parts; a negation swaps
true and false. So parts can be permuted, repeated and grouped at any depth. The combinators have
the least, the greatest and the opposite outcome, whatever the shape of the predicates. -/
theorem eval_is_kleene (row : Row) :
    (∀ p : Predicate, p.scan row = p.eval row) ∧
      ((and []).eval row = .yes ∧
        ∀ ps, ps ≠ [] → IsLeast (outcomes row ps) ((and ps).eval row)) ∧
      ((or []).eval row = .no ∧
        ∀ ps, ps ≠ [] → IsGreatest (outcomes row ps) ((or ps).eval row)) ∧
      (∀ p : Predicate, (not p).eval row = (p.eval row).not) ∧
      (∀ p q : Predicate, Rearranged p q → p.eval row = q.eval row) ∧
      ∀ p q : Predicate, (p.conj q).eval row = min (p.eval row) (q.eval row) ∧
        (p.disj q).eval row = max (p.eval row) (q.eval row) ∧
        p.negate.eval row = (p.eval row).not := by
  refine ⟨scan_eq_eval row, ⟨by rw [eval, evalAll], fun _ => isLeast_eval_and⟩,
    ⟨by rw [eval, evalAny], fun _ => isGreatest_eval_or⟩, fun p => by rw [eval],
    fun _ _ => Rearranged.eval_eq, fun p q => ⟨?_, ?_, eval_negate row p⟩⟩
  · rw [eval_conj, Truth.and_eq_min]
  · rw [eval_disj, Truth.or_eq_max]

/-- A conjunction with an unknown part that is repeated, put behind and grouped, under a
negation. -/
theorem eval_is_kleene_of_empty_row :
    let missing : Predicate := .like "version" "%"
    let p : Predicate := .not (.and [missing, .not .never, missing])
    let q : Predicate := .not (.and [.not .never, .and [missing]])
    Rearranged p q ∧ p.scan .empty = .unknown ∧ q.eval .empty = .unknown ∧
      IsLeast (outcomes .empty [.not .never, .and [missing]]) .unknown := by
  intro missing p q
  have repeated : Regrouped .and [.not .never, missing] [missing, .not .never, missing] :=
    .duplicate (List.mem_cons_of_mem _ List.mem_cons_self)
  have grouped : Regrouped .and [.not .never, missing] [.not .never, .and [missing]] :=
    .group [.not .never] [missing] []
  have same : Rearranged p q := .inNot ((Rearranged.and repeated).symm.trans (.and grouped))
  obtain ⟨scanned, ⟨-, least⟩, -, -, rearranged, -⟩ := eval_is_kleene .empty
  have unknown : p.eval .empty = .unknown := by decide
  exact ⟨same, (scanned p).trans unknown, (rearranged p q same).symm.trans unknown,
    least [.not .never, .and [missing]] nofun⟩

end Predicate

end BuildQuery
