import Mathlib.Data.List.Nodup
import BuildQuery.Criteria.Compiling
import BuildQuery.Build
import BuildQuery.Store.Row

/-!
# Rows of entities and predicates on them

Where no two fields share a column, the row of an entity holds the value of each mapped field in the
column of the field (`get?_ofEntity`). The combinators of predicates evaluate like the connectives
of three-valued logic (`eval_conj`, `eval_disj`, `eval_negate`), and a guarded condition is never
unknown on a row without a value in its column (`eval_guarded`).
-/

namespace BuildQuery

/-- No two fields are kept in one column. -/
def Schema.Distinct (s : Schema) : Prop :=
  ∀ f g column, s.column? f = some column → s.column? g = some column → f = g

theorem Schema.distinct_standard : Schema.standard.Distinct := by
  intro f g column hf hg
  have e : standardColumn f = standardColumn g := Option.some.inj (hf.trans hg.symm)
  revert e
  cases f <;> cases g <;> decide

/-- The columns of a schema that keeps no two fields in one are listed without repetition. -/
theorem Schema.Distinct.nodup_columns {s : Schema} (distinct : s.Distinct) :
    (s.columns.map Prod.snd).Nodup := by
  have listed : s.columns.map Prod.snd = Field.all.filterMap s.column? := by
    rw [columns, List.map_filterMap]
    refine List.filterMap_congr fun f _ => ?_
    cases s.column? f <;> rfl
  rw [listed]
  exact List.Nodup.filterMap (fun f g column hf hg => distinct f g column hf hg) (by decide)

/-- Whether a value is of the kind that builds give a field. -/
def Value.fits : Value → Field → Bool
  | int _, .number => true
  | time _, .submitDate => true
  | text _, .number | text _, .submitDate => false
  | text _, _ => true
  | _, _ => false

/-- Every value that an entity has is of the kind that builds give its field. -/
def Entity.IsTyped (entity : Entity) : Prop :=
  ∀ field value, entity field = some value → value.fits field = true

theorem Build.isTyped_entity (b : Build) : b.entity.IsTyped := by
  intro field value h
  cases field <;> simp only [Build.entity, Option.map_eq_some_iff, Option.some.injEq] at h
  case project | number | job | status | submitDate => rw [← h]; rfl
  case version | branch | tag | submitter =>
    obtain ⟨s, -, rfl⟩ := h
    rfl

/-! ## Rows -/

namespace Row

/-- The row with the value of one more field, if the entity has one. -/
def add (entity : Entity) (row : Row) (place : Field × String) : Row :=
  match entity place.1 with
  | some value => row.set place.2 value
  | none => row

theorem ofEntity_eq_foldl (entity : Entity) (schema : Schema) :
    ofEntity entity schema = schema.columns.foldl (add entity) empty := rfl

theorem get?_add_self {entity : Entity} {row : Row} {field : Field} {column : String}
    (h : row.get? column = none) : (add entity row (field, column)).get? column = entity field := by
  unfold add
  cases entity field with
  | some value => exact get?_set_self _ _ _
  | none => exact h

theorem get?_add_of_ne (entity : Entity) (row : Row) (field : Field) {column other : String}
    (h : other ≠ column) : (add entity row (field, column)).get? other = row.get? other := by
  unfold add
  cases entity field with
  | some value => exact get?_set_of_ne row value h
  | none => rfl

theorem get?_foldl_add_of_not_mem {entity : Entity} {pairs : List (Field × String)}
    {column : String} (h : column ∉ pairs.map Prod.snd) (row : Row) :
    (pairs.foldl (add entity) row).get? column = row.get? column := by
  induction pairs generalizing row with
  | nil => rfl
  | cons pair pairs ih =>
    rw [List.map_cons, List.mem_cons, not_or] at h
    rw [List.foldl_cons, ih h.2, get?_add_of_ne entity row pair.1 h.1]

theorem get?_foldl_add_of_mem {entity : Entity} {pairs : List (Field × String)}
    (distinct : (pairs.map Prod.snd).Nodup) {field : Field} {column : String}
    (mem : (field, column) ∈ pairs) {row : Row} (h : row.get? column = none) :
    (pairs.foldl (add entity) row).get? column = entity field := by
  induction pairs generalizing row with
  | nil => contradiction
  | cons pair pairs ih =>
    rw [List.map_cons, List.nodup_cons] at distinct
    rw [List.foldl_cons]
    rcases List.mem_cons.1 mem with rfl | mem
    · rw [get?_foldl_add_of_not_mem distinct.1, get?_add_self h]
    · have ne : column ≠ pair.2 := by
        intro e
        exact distinct.1 (List.mem_map.2 ⟨_, mem, e⟩)
      exact ih distinct.2 mem (by rw [get?_add_of_ne entity row pair.1 ne, h])

/-- The row of an entity holds the value of a field in its column. -/
theorem get?_ofEntity {schema : Schema} (distinct : schema.Distinct) {field : Field}
    {column : String} (h : schema.column? field = some column) (entity : Entity) :
    (ofEntity entity schema).get? column = entity field := by
  rw [ofEntity_eq_foldl]
  exact get?_foldl_add_of_mem distinct.nodup_columns (Schema.mem_columns.2 h) rfl

end Row

/-! ## Three-valued logic -/

namespace Truth

theorem and_assoc (s t u : Truth) : (s.and t).and u = s.and (t.and u) := by
  cases s <;> cases t <;> cases u <;> rfl

theorem or_assoc (s t u : Truth) : (s.or t).or u = s.or (t.or u) := by
  cases s <;> cases t <;> cases u <;> rfl

theorem ofBool_and (a b : Bool) : (ofBool a).and (ofBool b) = ofBool (a && b) := by
  cases a <;> cases b <;> rfl

theorem ofBool_or (a b : Bool) : (ofBool a).or (ofBool b) = ofBool (a || b) := by
  cases a <;> cases b <;> rfl

theorem not_ofBool (a : Bool) : (ofBool a).not = ofBool (!a) := by
  cases a <;> rfl

theorem ofBool_eq_yes_iff {a : Bool} : ofBool a = yes ↔ a = true := by
  cases a <;> simp [ofBool]

end Truth

/-! ## Predicates -/

namespace Predicate

variable (row : Row)

theorem evalAll_append (ps qs : List Predicate) :
    evalAll row (ps ++ qs) = (evalAll row ps).and (evalAll row qs) := by
  induction ps with
  | nil => rfl
  | cons p ps ih => rw [List.cons_append, evalAll, ih, evalAll, Truth.and_assoc]

theorem evalAny_append (ps qs : List Predicate) :
    evalAny row (ps ++ qs) = (evalAny row ps).or (evalAny row qs) := by
  induction ps with
  | nil => rfl
  | cons p ps ih => rw [List.cons_append, evalAny, ih, evalAny, Truth.or_assoc]

theorem evalAll_conjuncts (p : Predicate) : evalAll row p.conjuncts = p.eval row := by
  cases p with
  | and parts => rw [conjuncts, eval]
  | always | never | isNull | like | compare | oneOf | or | not =>
    exact Truth.and_yes _

theorem evalAny_disjuncts (p : Predicate) : evalAny row p.disjuncts = p.eval row := by
  cases p with
  | or parts => rw [disjuncts, eval]
  | always | never | isNull | like | compare | oneOf | and | not =>
    exact Truth.or_no _

@[simp] theorem eval_conj (p q : Predicate) :
    (p.conj q).eval row = (p.eval row).and (q.eval row) := by
  rw [conj, eval, evalAll_append, evalAll_conjuncts, evalAll_conjuncts]

@[simp] theorem eval_disj (p q : Predicate) :
    (p.disj q).eval row = (p.eval row).or (q.eval row) := by
  rw [disj, eval, evalAny_append, evalAny_disjuncts, evalAny_disjuncts]

@[simp] theorem eval_negate (p : Predicate) : p.negate.eval row = (p.eval row).not := by
  cases p with
  | not p => rw [negate, eval, Truth.not_not]
  | always | never | isNull | like | compare | oneOf | and | or => rfl

/-- A guarded condition is the condition where the column holds a value, and false elsewhere. -/
theorem eval_guarded (column : String) (condition : Predicate) :
    (guarded column condition).eval row =
      if (row.get? column).isSome then condition.eval row else .no := by
  rw [guarded, isNotNull, eval_conj, eval_negate, eval]
  cases row.get? column <;> rfl

/-- A store selects the rows of which the predicate is true. -/
theorem mem_select_iff {p : Predicate} {rows : List Row} {i : Nat} :
    i ∈ p.select rows ↔ ∃ row, rows[i]? = some row ∧ p.eval row = .yes := by
  simp only [select, List.mem_map, List.mem_filter, beq_iff_eq, Prod.exists,
    List.mk_mem_zipIdx_iff_getElem?]
  constructor
  · rintro ⟨row, j, ⟨hr, hp⟩, rfl⟩
    exact ⟨row, hr, hp⟩
  · rintro ⟨row, hr, hp⟩
    exact ⟨row, i, ⟨hr, hp⟩, rfl⟩

/-- A store selects places in ascending order. -/
theorem pairwise_select (p : Predicate) (rows : List Row) :
    (p.select rows).Pairwise (· < ·) := by
  have places : (p.select rows).Sublist (rows.zipIdx.map Prod.snd) :=
    List.filter_sublist.map Prod.snd
  rw [List.zipIdx_map_snd] at places
  exact List.Pairwise.sublist places List.pairwise_lt_range'

end Predicate

end BuildQuery
