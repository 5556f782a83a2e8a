import Mathlib.Data.Finset.Card
import BuildQuery.Proofs.Backends
import BuildQuery.Proofs.SqlReading

/-!
# Clauses without operands

The form of a predicate is what is left of it when every operand gives way to one and the same text.
A predicate has the clause of its form and as many values (`clause_form`, `length_params_form`), and
the combinators act on forms (`form_conj`, `form_disj`, `form_negate`). Compiling looks at an
operand in one place only, where no known project matches a path.

Main statement: queries that differ in operands, asked by users with different names, become the
same clause with equally many values (`same_clause`).
-/

namespace BuildQuery

namespace Predicate

/-! ## Forms -/

mutual

/-- The predicate with the empty text in place of every operand. -/
def form : Predicate → Predicate
  | always => always
  | never => never
  | isNull column => isNull column
  | like column _ => like column ""
  | compare column relation _ => compare column relation (.text "")
  | oneOf column values => oneOf column (values.map fun _ => .text "")
  | and parts => and (forms parts)
  | or parts => or (forms parts)
  | not p => not (form p)

/-- The forms of predicates. -/
def forms : List Predicate → List Predicate
  | [] => []
  | p :: ps => form p :: forms ps

end

theorem forms_append (ps qs : List Predicate) : forms (ps ++ qs) = forms ps ++ forms qs := by
  induction ps with
  | nil => rfl
  | cons p ps ih => rw [List.cons_append, forms, forms, ih, List.cons_append]

theorem conjuncts_form (p : Predicate) : p.form.conjuncts = forms p.conjuncts := by
  cases p <;> rfl

theorem disjuncts_form (p : Predicate) : p.form.disjuncts = forms p.disjuncts := by
  cases p <;> rfl

theorem form_conj (p q : Predicate) : (p.conj q).form = p.form.conj q.form := by
  rw [conj, form, forms_append, conj, conjuncts_form, conjuncts_form]

theorem form_disj (p q : Predicate) : (p.disj q).form = p.form.disj q.form := by
  rw [disj, form, forms_append, disj, disjuncts_form, disjuncts_form]

theorem form_negate (p : Predicate) : p.negate.form = p.form.negate := by
  cases p <;> rfl

theorem form_guarded (column : String) (condition : Predicate) :
    (guarded column condition).form = guarded column condition.form :=
  form_conj _ _

end Predicate

/-! ## Clauses -/

namespace Sql

open Predicate (form forms)

theorem clause_not_form {p : Predicate} (h : clause p.form = clause p) :
    clause (.not p.form) = clause (.not p) := by
  by_cases null : ∃ column, p = .isNull column
  · obtain ⟨column, rfl⟩ := null
    rfl
  · have other : ∀ column, p.form ≠ .isNull column := by
      intro column e
      cases p with
      | isNull column => exact null ⟨column, rfl⟩
      | always | never | like | compare | oneOf | and | or | not => cases e
    rw [clause_not other, clause_not fun column e => null ⟨column, e⟩, h]

mutual

/-- A predicate is written like its form. -/
theorem clause_form : ∀ p : Predicate, clause p.form = clause p
  | .always | .never | .isNull _ | .like .. | .compare .. => rfl
  | .oneOf column values => by
    rw [form, clause, clause, List.map_map]
    rfl
  | .and parts => by rw [form, clause, clause, clauses_forms parts]
  | .or parts => by rw [form, clause, clause, clauses_forms parts]
  | .not p => clause_not_form (clause_form p)

theorem clauses_forms : ∀ ps : List Predicate, clauses (forms ps) = clauses ps
  | [] => rfl
  | p :: ps => by rw [forms, clauses, clauses, clause_form p, clauses_forms ps]

end

mutual

/-- A predicate has as many values as its form. -/
theorem length_params_form : ∀ p : Predicate, (params p.form).length = (params p).length
  | .always | .never | .isNull _ | .like .. | .compare .. => rfl
  | .oneOf .. => List.length_map _
  | .and parts => length_paramsOfAll_forms parts
  | .or parts => length_paramsOfAll_forms parts
  | .not p => length_params_form p

theorem length_paramsOfAll_forms :
    ∀ ps : List Predicate, (paramsOfAll (forms ps)).length = (paramsOfAll ps).length
  | [] => rfl
  | p :: ps => by
    rw [forms, paramsOfAll, paramsOfAll, List.length_append, List.length_append,
      length_params_form p, length_paramsOfAll_forms ps]

end

end Sql

/-! ## Queries of the same form -/

/-- How many known projects match a path, those that differ in case alone counted once. -/
def ProjectDirectory.matchCount (d : ProjectDirectory) (path : ProjectPath) : Nat :=
  ((d.matching path.text).map Text.lowercase).toFinset.card

theorem ProjectDirectory.length_resolve (d : ProjectDirectory) (path : ProjectPath) :
    (d.resolve path).length = d.matchCount path := by
  have same : (d.resolve path).toFinset = ((d.matching path.text).map Text.lowercase).toFinset := by
    ext s
    rw [List.mem_toFinset, List.mem_toFinset, resolve, mem_sortedStrings]
  rw [matchCount, ← same]
  exact (List.toFinset_card_of_nodup (nodup_sortedStrings _)).symm

/-- Whether two contexts have the same columns, and both a user or both none. -/
structure QueryContext.SameForm (ctx ctx' : QueryContext) : Prop where
  schema : ctx.schema = ctx'.schema
  user : ctx.user?.isSome = ctx'.user?.isSome

/-- Whether two leaves are tests of the same kind, of the same field and with the same operator,
where tests of the project match equally many known projects. -/
inductive Leaf.SameForm (known known' : ProjectDirectory) : Leaf → Leaf → Prop where
  | text {t t' : TextTest} (field : t.field = t'.field) (operator : t.operator = t'.operator) :
      SameForm known known' (.text t) (.text t')
  | project {t t' : ProjectTest} (operator : t.operator = t'.operator)
      (count : known.matchCount t.path = known'.matchCount t'.path) :
      SameForm known known' (.project t) (.project t')
  | number {t t' : NumberTest} (operator : t.operator = t'.operator) :
      SameForm known known' (.number t) (.number t')
  | status {t t' : StatusTest} (operator : t.operator = t'.operator) :
      SameForm known known' (.status t) (.status t')
  | date {t t' : DateTest} (operator : t.operator = t'.operator) :
      SameForm known known' (.date t) (.date t')
  | submittedByMe : SameForm known known' .submittedByMe .submittedByMe

/-- Whether two queries have the same shape, with leaves of the same form. -/
inductive Criteria.SameForm (known known' : ProjectDirectory) : Criteria → Criteria → Prop where
  | leaf {l l' : Leaf} (h : l.SameForm known known' l') : SameForm known known' (.leaf l) (.leaf l')
  | and {l l' r r' : Criteria} (hl : SameForm known known' l l') (hr : SameForm known known' r r') :
      SameForm known known' (.and l r) (.and l' r')
  | or {l l' r r' : Criteria} (hl : SameForm known known' l l') (hr : SameForm known known' r r') :
      SameForm known known' (.or l r) (.or l' r')
  | not {c c' : Criteria} (h : SameForm known known' c c') :
      SameForm known known' (.not c) (.not c')
  | group {c c' : Criteria} (h : SameForm known known' c c') :
      SameForm known known' (.group c) (.group c')

/-! ### Leaves -/

namespace Leaf

variable {known known' : ProjectDirectory} {ctx ctx' : QueryContext} {l l' : Leaf}

theorem SameForm.field (h : l.SameForm known known' l') : l.field = l'.field := by
  cases h with
  | text field operator => exact field
  | project | number | status | date | submittedByMe => rfl

theorem SameForm.operator? (h : l.SameForm known known' l') : l.operator? = l'.operator? := by
  cases h with
  | text _ operator | project operator | number operator | status operator | date operator =>
    exact congrArg some operator
  | submittedByMe => rfl

theorem form_polarize (l : Leaf) (p : Predicate) : (l.polarize p).form = l.polarize p.form := by
  unfold polarize
  cases l.operator? with
  | none => rfl
  | some op =>
    dsimp only
    rw [Operator.applyTo, Operator.applyTo, apply_ite Predicate.form, Predicate.form_negate]

/-- How many known projects there are to look for is all that the form shows of them. -/
theorem form_oneOfKnown (column : String) {known known' : List String}
    (count : known.length = known'.length) :
    (if known.isEmpty then Predicate.never
      else .guarded column (.oneOf column (known.map .text))).form =
      (if known'.isEmpty then Predicate.never
        else .guarded column (.oneOf column (known'.map .text))).form := by
  have none : known.isEmpty = known'.isEmpty := by
    rw [Bool.eq_iff_iff, List.isEmpty_iff_length_eq_zero, List.isEmpty_iff_length_eq_zero, count]
  have blank (ss : List String) : (Predicate.oneOf column (ss.map .text)).form =
      .oneOf column (List.replicate ss.length (.text "")) := by
    rw [Predicate.form, List.map_map]
    exact congrArg (Predicate.oneOf column) (List.map_const' ..)
  rw [apply_ite Predicate.form, apply_ite Predicate.form, none, Predicate.form_guarded,
    Predicate.form_guarded, blank, blank, count]

/-- The predicate for a natural comparison has nothing of the operand in its form. -/
theorem SameForm.form_naturalPredicate (h : l.SameForm ctx.projects ctx'.projects l')
    (user : ctx.user?.isSome = ctx'.user?.isSome) (column : String) :
    (l.naturalPredicate ctx column).form = (l'.naturalPredicate ctx' column).form := by
  cases h with
  | text | status => rfl
  | number operator | date operator =>
    rw [naturalPredicate, naturalPredicate, operator, Predicate.form_guarded,
      Predicate.form_guarded]
    rfl
  | @project t t' operator count =>
    rw [← ProjectDirectory.length_resolve, ← ProjectDirectory.length_resolve] at count
    exact form_oneOfKnown column count
  | submittedByMe =>
    unfold naturalPredicate
    cases me : ctx.user? with
    | none =>
      have nobody : ctx'.user? = none := by
        rwa [me, Option.isSome_none, eq_comm, Option.isSome_eq_false_iff, Option.isNone_iff_eq_none]
          at user
      rw [nobody]
    | some name =>
      obtain ⟨name', somebody⟩ : ∃ name', ctx'.user? = some name' := by
        rwa [me, Option.isSome_some, eq_comm, Option.isSome_iff_exists] at user
      rw [somebody]
      rfl

theorem SameForm.form_compile (h : l.SameForm ctx.projects ctx'.projects l')
    (alike : ctx.SameForm ctx') :
    (l.compile ctx).map Predicate.form = (l'.compile ctx').map Predicate.form := by
  rw [compile, compile, alike.schema, h.field]
  cases ctx'.schema.column l'.field with
  | error e => rfl
  | ok column =>
    refine congrArg Except.ok ?_
    rw [form_polarize, form_polarize, h.form_naturalPredicate alike.user column, polarize, polarize,
      h.operator?]

end Leaf

/-! ### Queries -/

/-- Two steps that show the same combine to what shows the same. -/
theorem map_combine {ε α β : Type} {f : α → α → α} {view : α → β} {f' : β → β → β}
    (hf : ∀ a b, view (f a b) = f' (view a) (view b)) (x y : Except ε α) :
    (do return f (← x) (← y)).map view =
      (do return f' (← x.map view) (← y.map view) : Except ε β) := by
  cases x with
  | error e => rfl
  | ok a =>
    cases y with
    | error e => rfl
    | ok b => exact congrArg Except.ok (hf a b)

/-- What a step shows has the failures of the step. -/
theorem map_eq_error_iff {ε α β : Type} {f : α → β} {x : Except ε α} {e : ε} :
    x.map f = .error e ↔ x = .error e := by
  cases x with
  | error fault => simp [Except.map]
  | ok a => exact iff_of_false nofun nofun

theorem map_form_negate {ε : Type} (x : Except ε Predicate) :
    (do return (← x).negate).map Predicate.form = (x.map Predicate.form).map Predicate.negate := by
  cases x with
  | error e => rfl
  | ok p => exact congrArg Except.ok p.form_negate

namespace Criteria

variable {ctx ctx' : QueryContext} {c c' : Criteria}

/-- Queries of the same form become predicates of the same form, or fail alike. -/
theorem SameForm.form_compile (h : c.SameForm ctx.projects ctx'.projects c')
    (alike : ctx.SameForm ctx') :
    (c.compile ctx).map Predicate.form = (c'.compile ctx').map Predicate.form := by
  induction h with
  | leaf h => exact h.form_compile alike
  | and hl hr ihl ihr =>
    rw [compile, compile, map_combine Predicate.form_conj, map_combine Predicate.form_conj, ihl,
      ihr]
  | or hl hr ihl ihr =>
    rw [compile, compile, map_combine Predicate.form_disj, map_combine Predicate.form_disj, ihl,
      ihr]
  | not h ih => rw [compile, compile, map_form_negate, map_form_negate, ih]
  | group h ih => exact ih

/-- Queries that differ in the operands of their tests, and users who differ in their names, make no
difference to the clause: of two queries of the same form either both fail to be compiled, for the
same field, or both become predicates with the same clause and equally many values. So whatever
comes from an operand is among the values. -/
theorem same_clause (alike : ctx.SameForm ctx') (h : c.SameForm ctx.projects ctx'.projects c') :
    (∀ e, c.compile ctx = .error e ↔ c'.compile ctx' = .error e) ∧
      ∀ p p', c.compile ctx = .ok p → c'.compile ctx' = .ok p' →
        (SqlStatement.ofPredicate p).clause = (SqlStatement.ofPredicate p').clause ∧
          (SqlStatement.ofPredicate p).params.length =
            (SqlStatement.ofPredicate p').params.length := by
  have forms := h.form_compile alike
  constructor
  · intro e
    rw [← map_eq_error_iff (f := Predicate.form), forms, map_eq_error_iff]
  · intro p p' compiled compiled'
    rw [compiled, compiled'] at forms
    have same : p.form = p'.form := Except.ok.inj forms
    constructor
    · calc Sql.clause p = Sql.clause p.form := (Sql.clause_form p).symm
        _ = Sql.clause p' := by rw [same, Sql.clause_form]
    · calc (Sql.params p).length = (Sql.params p.form).length := (Sql.length_params_form p).symm
        _ = (Sql.params p').length := by rw [same, Sql.length_params_form]

/-- An operand that is itself SQL, a user whose name has a quote in it, and project paths that match
other projects, but as many of them up to case. -/
theorem same_clause_of_sql_in_operands :
    let query (path version : String) (h : ProjectPath.ofText path ≠ [])
        (notBlank : Text.isBlankString version = false) : Criteria :=
      .and (.leaf (.project ⟨ProjectPath.ofText path, ⟨.is, .natural⟩, by decide, h⟩))
        (.not (.or (.leaf (.text ⟨.version, ⟨.is, .natural⟩, version, rfl, by decide, notBlank⟩))
          (.leaf .submittedByMe)))
    let c := query "team/*" "\"; DROP TABLE builds; --" (by decide) (by decide)
    let c' := query "o*" "1.0" (by decide) (by decide)
    let projects : ProjectDirectory := ⟨["team/app", "ops", "Team/web", "TEAM/APP", "org"]⟩
    let ctx : QueryContext := ⟨.standard, projects, some "ann"⟩
    let ctx' : QueryContext := ⟨.standard, projects, some "o'brien ?"⟩
    ctx.SameForm ctx' ∧ c.SameForm ctx.projects ctx'.projects c' ∧
      ∃ p p', c.compile ctx = .ok p ∧ c'.compile ctx' = .ok p' ∧
        (SqlStatement.ofPredicate p).clause = (SqlStatement.ofPredicate p').clause ∧
          (SqlStatement.ofPredicate p).params ≠ (SqlStatement.ofPredicate p').params := by
  intro query c c' projects ctx ctx'
  have alike : ctx.SameForm ctx' := ⟨rfl, rfl⟩
  have same : c.SameForm ctx.projects ctx'.projects c' :=
    .and (.leaf (.project rfl (by decide)))
      (.not (.or (.leaf (.text rfl rfl)) (.leaf .submittedByMe)))
  exact ⟨alike, same, _, _, rfl, rfl, ((same_clause alike same).2 _ _ rfl rfl).1, by decide⟩

end Criteria

end BuildQuery
