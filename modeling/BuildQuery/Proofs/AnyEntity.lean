import BuildQuery.Proofs.UnmappedFields

/-!
# Compiled queries on the rows of any entities

An entity may hold a value of any kind in any field, but a store compares values of one kind only:
where a leaf asks for another kind of value than the entity has, its predicate is unknown in spite
of its guard (`Leaf.eval_compile_any`). On the row of any entity a compiled query has the outcome
that three-valued logic makes of its leaves (`Criteria.eval_compile_any`). Main statement: it is
true or false when the store can compare every value that is tested, so that a store selects each
row for a query or for its negation (`Criteria.selected_or_negation_selected`); otherwise it may
select a row for neither of them (`Criteria.unknown_of_number_in_version`).
-/

namespace BuildQuery

/-! ## Kinds of values -/

namespace Value

theorem fits_text {field : Field} (textual : field.isTextual = true) (s : String) :
    (text s).fits field = true := by
  cases field with
  | job | version | branch | tag | submitter => rfl
  | project | number | status | submitDate => contradiction

theorem sameKind_int (v : Value) (n : Int64) : v.sameKind (int n) = v.fits .number := by
  cases v <;> rfl

theorem sameKind_time (v : Value) (t : Timestamp) : v.sameKind (time t) = v.fits .submitDate := by
  cases v <;> rfl

theorem sameKind_text_status (v : Value) (s : String) : v.sameKind (text s) = v.fits .status := by
  cases v <;> rfl

theorem sameKind_text_submitter (v : Value) (s : String) :
    v.sameKind (text s) = v.fits .submitter := by
  cases v <;> rfl

end Value

/-! ## Leaves -/

namespace Leaf

/-- Whether a store can compare a value with what a leaf asks for: any value is in a list of known
projects or not, and nobody is the user where there is none; the other leaves ask for a value of the
kind that builds give their field. -/
def canCompare (user? : Option String) (l : Leaf) (value : Value) : Bool :=
  match l with
  | project _ => true
  | submittedByMe => user?.isNone || value.fits .submitter
  | l => value.fits l.field

/-- The outcome of the natural comparison of a leaf for a store. -/
def naturalOutcome (ctx : QueryContext) (l : Leaf) (value? : Option Value) : Truth :=
  if value?.all (l.canCompare ctx.user?) then .ofBool (l.naturalInStore ctx value?) else .unknown

/-- The outcome of a leaf for a store, in its own polarity. -/
def outcomeInStore (l : Leaf) (entity : Entity) (ctx : QueryContext) : Truth :=
  let natural := l.naturalOutcome ctx (entity l.field)
  if l.operator?.any Operator.isNegated then natural.not else natural

section Natural

variable {ctx : QueryContext} {row : Row} {column : String} {value : Value}

/-- A guard does not keep a comparison with a value of another kind from being unknown. -/
theorem eval_guarded_compare_of_other_kind (hv : row.get? column = some value)
    (relation : Relation) {operand : Value} (other : value.sameKind operand = false) :
    (Predicate.guarded column (.compare column relation operand)).eval row = .unknown := by
  rw [Predicate.eval_guarded, Predicate.eval, hv]
  simp [Predicate.compareTruth, other]

/-- The predicate for the natural comparison of a leaf is unknown of a row with a value that the
store cannot compare. -/
theorem eval_naturalPredicate_of_not_canCompare (hv : row.get? column = some value) {l : Leaf}
    (h : l.canCompare ctx.user? value = false) :
    (l.naturalPredicate ctx column).eval row = .unknown := by
  cases l with
  | text t =>
    unfold naturalPredicate
    rw [Predicate.eval_guarded, Predicate.eval, hv]
    cases value with
    | text s => exact absurd (Value.fits_text t.textual s) (ne_true_of_eq_false h)
    | int | time => rfl
  | project t => contradiction
  | number t => exact eval_guarded_compare_of_other_kind hv _ ((value.sameKind_int _).trans h)
  | status t =>
    exact eval_guarded_compare_of_other_kind hv _ ((value.sameKind_text_status _).trans h)
  | date t => exact eval_guarded_compare_of_other_kind hv _ ((value.sameKind_time _).trans h)
  | submittedByMe =>
    obtain ⟨someone, other⟩ := Bool.or_eq_false_iff.1 h
    unfold naturalPredicate
    cases user : ctx.user? with
    | none =>
      rw [user] at someone
      contradiction
    | some user =>
      exact eval_guarded_compare_of_other_kind hv _ ((value.sameKind_text_submitter _).trans other)

/-- No value but a text is in a list of projects. -/
theorem eval_naturalPredicate_project_of_not_fits (hv : row.get? column = some value)
    (t : ProjectTest) (other : value.fits .project = false) :
    ((project t).naturalPredicate ctx column).eval row = .no := by
  have out : ((ctx.projects.resolve t.path).map Value.text).contains value.folded = false := by
    cases value with
    | text s => contradiction
    | int | time => simp [Value.folded]
  unfold naturalPredicate
  dsimp only
  split
  · rw [Predicate.eval]
  · rw [Predicate.eval_guarded, Predicate.eval, hv]
    simp only [Option.isSome_some, if_true, Predicate.oneOfTruth, out, Truth.ofBool]

/-- The predicate for the natural comparison of a leaf says of a row with a value that the store can
compare what the comparison says. -/
theorem eval_naturalPredicate_of_canCompare (hv : row.get? column = some value) {l : Leaf}
    (h : l.canCompare ctx.user? value = true) :
    (l.naturalPredicate ctx column).eval row = .ofBool (l.naturalInStore ctx (some value)) := by
  cases fits : value.fits l.field with
  | true =>
    refine eval_naturalPredicate hv l ?_
    rintro _ ⟨⟩
    exact fits
  | false =>
    cases l with
    | text | number | status | date => exact absurd h (ne_true_of_eq_false fits)
    | project t =>
      rw [eval_naturalPredicate_project_of_not_fits hv t fits]
      cases value with
      | text s => contradiction
      | int | time => rfl
    | submittedByMe =>
      have nobody : ctx.user? = none :=
        Option.isNone_iff_eq_none.1 ((Bool.or_eq_true_iff.1 h).resolve_right
          (ne_true_of_eq_false fits))
      unfold naturalPredicate naturalInStore
      rw [nobody]
      cases value <;> rfl

/-- The predicate for the natural comparison of a leaf has the outcome of this comparison for a
store. -/
theorem eval_naturalPredicate_any {value? : Option Value} (hv : row.get? column = value?)
    (l : Leaf) : (l.naturalPredicate ctx column).eval row = l.naturalOutcome ctx value? := by
  unfold naturalOutcome
  cases value? with
  | none => exact eval_naturalPredicate hv l nofun
  | some value =>
    rw [Option.all_some]
    cases h : l.canCompare ctx.user? value with
    | true => exact eval_naturalPredicate_of_canCompare hv h
    | false => exact eval_naturalPredicate_of_not_canCompare hv h

end Natural

/-- The test in the opposite polarity. There is none that the user is not the submitter. -/
def negated? : Leaf → Option Leaf
  | text t => some (text { t with operator := t.operator.negated })
  | project t => some (project { t with operator := t.operator.negated })
  | number t => some (number { t with operator := t.operator.negated })
  | status t => some (status { t with operator := t.operator.negated })
  | date t => some (date { t with operator := t.operator.negated })
  | submittedByMe => none

section Polarity

variable {l negated : Leaf} {ctx : QueryContext} {row : Row} {p : Predicate}

theorem field_negated? (h : l.negated? = some negated) : negated.field = l.field := by
  cases l <;> cases h <;> rfl

/-- The natural comparison is the same in both polarities. -/
theorem naturalPredicate_negated? (h : l.negated? = some negated) (ctx : QueryContext)
    (column : String) : negated.naturalPredicate ctx column = l.naturalPredicate ctx column := by
  cases l <;> cases h <;> rfl

theorem isNegated_negated? (h : l.negated? = some negated) :
    negated.operator?.any Operator.isNegated = !l.operator?.any Operator.isNegated := by
  cases l <;> cases h <;> exact Operator.isNegated_negated _

/-- A predicate in the polarity of a leaf has its own outcome or the opposite one. -/
theorem eval_polarize_any (l : Leaf) (p : Predicate) :
    (l.polarize p).eval row =
      if l.operator?.any Operator.isNegated then (p.eval row).not else p.eval row := by
  unfold polarize
  cases l.operator? with
  | none => rfl
  | some op =>
    dsimp only [Operator.applyTo]
    rw [Option.any_some]
    split
    · exact Predicate.eval_negate row p
    · rfl

/-- The predicate of a leaf has on the row of any entity the outcome that the leaf has for a
store. -/
theorem eval_compile_any (distinct : ctx.schema.Distinct) (compiled : l.compile ctx = .ok p)
    (entity : Entity) :
    p.eval (Row.ofEntity entity ctx.schema) = l.outcomeInStore entity ctx := by
  obtain ⟨column, hc, rfl⟩ := compile_eq_ok_iff.1 compiled
  have hv := Row.get?_ofEntity distinct hc entity
  rw [eval_polarize_any, eval_naturalPredicate_any hv, outcomeInStore]

/-- A leaf in the opposite polarity compiles when the leaf does, and then has the opposite outcome
on every row. -/
theorem eval_compile_negated? (h : l.negated? = some negated) (compiled : l.compile ctx = .ok p) :
    ∃ q, negated.compile ctx = .ok q ∧ ∀ row, q.eval row = (p.eval row).not := by
  obtain ⟨column, hc, rfl⟩ := compile_eq_ok_iff.1 compiled
  refine ⟨_, compile_eq_ok_iff.2 ⟨column, (field_negated? h).symm ▸ hc, rfl⟩, fun row => ?_⟩
  rw [naturalPredicate_negated? h, eval_polarize_any, eval_polarize_any, isNegated_negated? h]
  cases l.operator?.any Operator.isNegated with
  | true => exact (Truth.not_not _).symm
  | false => rfl

end Polarity

/-- The outcome of a leaf is known where the store can compare the value of the entity, if there is
one. -/
theorem outcomeInStore_of_canCompare {l : Leaf} {entity : Entity} {ctx : QueryContext}
    (h : ∀ v, entity l.field = some v → l.canCompare ctx.user? v = true) :
    l.outcomeInStore entity ctx = .ofBool (l.holdsInStore entity ctx) := by
  have known : (entity l.field).all (l.canCompare ctx.user?) = true := by
    cases e : entity l.field with
    | none => rfl
    | some v => exact h v e
  unfold outcomeInStore naturalOutcome holdsInStore outcome
  dsimp only
  rw [if_pos known]
  cases l.operator? with
  | none => rfl
  | some op =>
    dsimp only
    rw [Option.any_some, Operator.apply_eq]
    split
    · exact Truth.not_ofBool _
    · rfl

end Leaf

/-! ## Queries -/

namespace Criteria

/-- The outcome of a query in three-valued logic, from the outcomes of its leaves. -/
def kleene (f : Leaf → Truth) : Criteria → Truth
  | leaf l => f l
  | and l r => (l.kleene f).and (r.kleene f)
  | or l r => (l.kleene f).or (r.kleene f)
  | not c => (c.kleene f).not
  | group c => c.kleene f

/-- Where all leaves have a known outcome, a query has the outcome of two-valued logic. -/
theorem kleene_ofBool {c : Criteria} {f : Leaf → Truth} {g : Leaf → Bool}
    (h : ∀ l ∈ c.leaves, f l = .ofBool (g l)) : c.kleene f = .ofBool (c.truth g) := by
  induction c with
  | leaf l => exact h l List.mem_cons_self
  | and l r ihl ihr =>
    rw [kleene, truth, ihl fun x hx => h x (List.mem_append_left _ hx),
      ihr fun x hx => h x (List.mem_append_right _ hx), Truth.ofBool_and]
  | or l r ihl ihr =>
    rw [kleene, truth, ihl fun x hx => h x (List.mem_append_left _ hx),
      ihr fun x hx => h x (List.mem_append_right _ hx), Truth.ofBool_or]
  | not c ih => rw [kleene, truth, ih h, Truth.not_ofBool]
  | group c ih => rw [kleene, truth, ih h]

variable {ctx : QueryContext} {c : Criteria} {p : Predicate}

/-- Every leaf of a query that compiles does. -/
theorem compile_leaf_of_mem (compiled : c.compile ctx = .ok p) {l : Leaf} (hl : l ∈ c.leaves) :
    ∃ q, l.compile ctx = .ok q :=
  Leaf.exists_compile_iff.2 (exists_compile_iff.1 ⟨p, compiled⟩ l hl)

/-- The predicate of a query has on the row of any entity the outcome that three-valued logic makes
of the outcomes of its leaves. -/
theorem eval_compile_any (distinct : ctx.schema.Distinct) (compiled : c.compile ctx = .ok p)
    (entity : Entity) : p.eval (Row.ofEntity entity ctx.schema) =
      c.kleene fun l => l.outcomeInStore entity ctx := by
  induction c generalizing p with
  | leaf l => exact Leaf.eval_compile_any distinct compiled entity
  | and l r ihl ihr =>
    obtain ⟨a, b, ha, hb, rfl⟩ := compile_and_eq_ok_iff.1 compiled
    rw [Predicate.eval_conj, ihl ha, ihr hb, kleene]
  | or l r ihl ihr =>
    obtain ⟨a, b, ha, hb, rfl⟩ := compile_or_eq_ok_iff.1 compiled
    rw [Predicate.eval_disj, ihl ha, ihr hb, kleene]
  | not c ih =>
    obtain ⟨a, ha, rfl⟩ := compile_not_eq_ok_iff.1 compiled
    rw [Predicate.eval_negate, ih ha, kleene]
  | group c ih => exact ih compiled

/-- The predicate of a query is true or false of the row of an entity when the store can compare
every value that the query tests. Then a store selects the row for exactly one of the query and its
negation, and a leaf in the opposite polarity has the opposite outcome. -/
theorem selected_or_negation_selected (distinct : ctx.schema.Distinct)
    (compiled : c.compile ctx = .ok p) {entity : Entity}
    (comparable : ∀ l ∈ c.leaves, ∀ v, entity l.field = some v →
      l.canCompare ctx.user? v = true) :
    p.eval (Row.ofEntity entity ctx.schema) =
        .ofBool (c.truth fun l => l.holdsInStore entity ctx) ∧
      (∃ q, (not c).compile ctx = .ok q ∧ ∀ (rows : List Row) (i : Nat),
        rows[i]? = some (Row.ofEntity entity ctx.schema) →
          (i ∈ q.select rows ↔ i ∉ p.select rows)) ∧
      ∀ l ∈ c.leaves, ∀ l', l.negated? = some l' → ∃ a b known,
        l.compile ctx = .ok a ∧ l'.compile ctx = .ok b ∧
          a.eval (Row.ofEntity entity ctx.schema) = .ofBool known ∧
          b.eval (Row.ofEntity entity ctx.schema) = .ofBool !known := by
  have outcome : ∀ l ∈ c.leaves,
      l.outcomeInStore entity ctx = .ofBool (l.holdsInStore entity ctx) :=
    fun l hl => Leaf.outcomeInStore_of_canCompare (comparable l hl)
  have eval : p.eval (Row.ofEntity entity ctx.schema) =
      .ofBool (c.truth fun l => l.holdsInStore entity ctx) :=
    (eval_compile_any distinct compiled entity).trans (kleene_ofBool outcome)
  refine ⟨eval, ⟨p.negate, compile_not_eq_ok_iff.2 ⟨p, compiled, rfl⟩, ?_⟩, ?_⟩
  · intro rows i hi
    rw [Predicate.mem_select_iff, Predicate.mem_select_iff, hi]
    simp only [Option.some.injEq, exists_eq_left', Predicate.eval_negate, eval, Truth.not_ofBool,
      Truth.ofBool_eq_yes_iff, Bool.not_eq_true', Bool.not_eq_true]
  · intro l hl l' opposite
    obtain ⟨a, ha⟩ := compile_leaf_of_mem compiled hl
    obtain ⟨b, hb, negates⟩ := Leaf.eval_compile_negated? opposite ha
    have known := (Leaf.eval_compile_any distinct ha entity).trans (outcome l hl)
    refine ⟨a, b, _, ha, hb, known, ?_⟩
    rw [negates, known, Truth.not_ofBool]

/-- An entity with a number for a project, which a store can look for in a list, and no version. -/
theorem selected_or_negation_selected_of_numbered_project :
    let entity : Entity := fun f => if f = .project then some (.int 5) else none
    let query : Criteria :=
      .or (.leaf (.project ⟨.ofText "team/**", ⟨.is, .natural⟩, by decide, by decide⟩))
        (.leaf (.text ⟨.version, ⟨.is, .negated⟩, "1.0*", rfl, by decide, by decide⟩))
    ∃ p q, query.compile .standard = .ok p ∧ (not query).compile .standard = .ok q ∧
      0 ∈ p.select [Row.ofEntity entity .standard] ∧
      0 ∉ q.select [Row.ofEntity entity .standard] := by
  intro entity query
  have comparable : ∀ l ∈ query.leaves, ∀ v, entity l.field = some v →
      l.canCompare QueryContext.standard.user? v = true := by
    intro l hl v hv
    rcases List.mem_cons.1 hl with rfl | hl
    · rfl
    · obtain rfl := List.mem_singleton.1 hl
      contradiction
  obtain ⟨p, hp⟩ : ∃ p, query.compile .standard = .ok p := ⟨_, rfl⟩
  obtain ⟨eval, ⟨q, hq, one⟩, -⟩ :=
    selected_or_negation_selected Schema.distinct_standard hp comparable
  have selected : 0 ∈ p.select [Row.ofEntity entity .standard] :=
    Predicate.mem_select_iff.2 ⟨_, rfl, eval.trans (by decide)⟩
  exact ⟨p, q, hp, hq, selected, fun h => (one _ 0 rfl).1 h selected⟩

/-- A store selects an entity with a number for a version neither for a test of the version nor for
its negation, which matching says holds. -/
theorem unknown_of_number_in_version :
    let entity : Entity := fun f => if f = .version then some (.int 5) else none
    let query : Criteria :=
      .leaf (.text ⟨.version, ⟨.is, .natural⟩, "1.0", rfl, by decide, by decide⟩)
    ∃ p q, query.compile .standard = .ok p ∧ (not query).compile .standard = .ok q ∧
      p.eval (Row.ofEntity entity .standard) = .unknown ∧
      q.eval (Row.ofEntity entity .standard) = .unknown ∧
      p.select [Row.ofEntity entity .standard] = [] ∧
      q.select [Row.ofEntity entity .standard] = [] ∧
      (not query).holds entity .standard = true := by
  intro entity query
  exact ⟨_, _, rfl, rfl, by decide, by decide, by decide, by decide, by decide⟩

end Criteria

end BuildQuery
