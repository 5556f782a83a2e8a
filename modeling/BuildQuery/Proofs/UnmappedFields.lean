import BuildQuery.Proofs.Backends

/-!
# Fields without a column

Every leaf looks up the column of its field before anything else, and a query compiles all of its
leaves from left to right. So a query fails as its first leaf does that fails, and nothing but the
schema decides which one that is.

Main statement: a query compiles exactly when the field of each leaf has a column, and otherwise the
error names the field of the first leaf without one (`compile_fails_at_first_unmapped`).
-/

namespace BuildQuery

/-! ## Steps that fail -/

section Steps

variable {ε α β γ : Type}

/-- A step whose result is only changed fails as before. -/
theorem change_eq_error_iff {x : Except ε α} {f : α → β} {e : ε} :
    (do return f (← x)) = .error e ↔ x = .error e := by
  rw [bind_eq_error_iff]
  refine or_iff_left ?_
  rintro ⟨a, -, h⟩
  cases h

/-- A combination of two steps fails as the first one does, or as the second one does when the first
one succeeds. -/
theorem combine_eq_error_iff {x : Except ε α} {y : Except ε β} {f : α → β → γ} {e : ε} :
    (do return f (← x) (← y)) = .error e ↔
      x = .error e ∨ (∃ a, x = .ok a) ∧ y = .error e := by
  have second (a : α) : (do return f a (← y) : Except ε γ) = .error e ↔ y = .error e :=
    change_eq_error_iff
  rw [bind_eq_error_iff]
  simp only [second, exists_and_right]

theorem exists_eq_ok_iff {x : Except ε α} : (∃ a, x = .ok a) ↔ ∀ e, x ≠ .error e := by
  cases x <;> simp

end Steps

/-! ## Leaves -/

/-- Whether the field that a leaf tests has a column. -/
def Leaf.isMapped (schema : Schema) (l : Leaf) : Bool := (schema.column? l.field).isSome

/-- Whatever a leaf asks for, it fails only for want of a column. -/
theorem Leaf.compile_eq_error_iff {l : Leaf} {ctx : QueryContext} {e : QueryError} :
    l.compile ctx = .error e ↔
      l.isMapped ctx.schema = false ∧ e = .unmappedField l.field := by
  unfold compile isMapped Schema.column
  rw [bind_eq_error_iff]
  cases ctx.schema.column? l.field with
  | none => simp [eq_comm]
  | some column => exact iff_of_false (by rintro (h | ⟨_, _, h⟩) <;> cases h) (by simp)

theorem Leaf.exists_compile_iff {l : Leaf} {ctx : QueryContext} :
    (∃ p, l.compile ctx = .ok p) ↔ l.isMapped ctx.schema = true := by
  rw [exists_eq_ok_iff]
  simp only [ne_eq, compile_eq_error_iff]
  cases l.isMapped ctx.schema <;> simp

/-! ## Queries -/

namespace Criteria

/-- The first leaf of a query, from left to right, whose field has no column. -/
def firstUnmapped? (schema : Schema) (c : Criteria) : Option Leaf :=
  c.leaves.find? fun l => !l.isMapped schema

theorem firstUnmapped?_eq_none_iff {schema : Schema} {c : Criteria} :
    c.firstUnmapped? schema = none ↔ ∀ l ∈ c.leaves, l.isMapped schema = true := by
  simp [firstUnmapped?]

variable {ctx : QueryContext}

/-- One side of a query after the other one: an error of the second side counts when the first side
has none. -/
theorem error_of_parts_iff {l r : Criteria} {e : QueryError}
    (left : ∀ e, l.compile ctx = .error e ↔
      ∃ x, l.firstUnmapped? ctx.schema = some x ∧ e = .unmappedField x.field)
    (right : r.compile ctx = .error e ↔
      ∃ x, r.firstUnmapped? ctx.schema = some x ∧ e = .unmappedField x.field) :
    (l.compile ctx = .error e ∨ (∃ p, l.compile ctx = .ok p) ∧ r.compile ctx = .error e) ↔
      ∃ x, (l.leaves ++ r.leaves).find? (fun x => !x.isMapped ctx.schema) = some x ∧
        e = .unmappedField x.field := by
  rw [exists_eq_ok_iff]
  simp only [ne_eq, left, right, List.find?_append]
  unfold firstUnmapped?
  cases l.leaves.find? fun x => !x.isMapped ctx.schema with
  | none => simp
  | some x => simp

/-- A query fails for the field of its first leaf without a column, and for nothing else. -/
theorem compile_eq_error_iff {c : Criteria} {e : QueryError} :
    c.compile ctx = .error e ↔
      ∃ l, c.firstUnmapped? ctx.schema = some l ∧ e = .unmappedField l.field := by
  induction c generalizing e with
  | leaf l =>
    rw [compile, Leaf.compile_eq_error_iff, firstUnmapped?, leaves]
    cases h : l.isMapped ctx.schema with
    | true => simp [h]
    | false => simp [h]
  | and l r ihl ihr =>
    rw [compile, combine_eq_error_iff]
    exact error_of_parts_iff (fun _ => ihl) ihr
  | or l r ihl ihr =>
    rw [compile, combine_eq_error_iff]
    exact error_of_parts_iff (fun _ => ihl) ihr
  | not c ih =>
    rw [compile, change_eq_error_iff]
    exact ih
  | group c ih => exact ih

theorem exists_compile_iff {c : Criteria} :
    (∃ p, c.compile ctx = .ok p) ↔ ∀ l ∈ c.leaves, l.isMapped ctx.schema = true := by
  rw [exists_eq_ok_iff, ← firstUnmapped?_eq_none_iff]
  simp only [ne_eq, compile_eq_error_iff]
  cases c.firstUnmapped? ctx.schema <;> simp

/-- Where every field has a column, every query is compiled. -/
theorem exists_compile (mapped : ∀ f, ∃ column, ctx.schema.column? f = some column)
    (c : Criteria) : ∃ p, c.compile ctx = .ok p :=
  exists_compile_iff.2 fun l _ => Option.isSome_iff_exists.2 (mapped l.field)

/-- A query compiles exactly when the field of every leaf has a column, whatever the projects are
and whoever asks. Otherwise the error names the field of the first leaf without a column. -/
theorem compile_fails_at_first_unmapped (c : Criteria) (ctx : QueryContext) :
    ((∃ p, c.compile ctx = .ok p) ↔
        ∀ l ∈ c.leaves, ∃ column, ctx.schema.column? l.field = some column) ∧
      ∀ e, c.compile ctx = .error e ↔ ∃ before l after, c.leaves = before ++ l :: after ∧
        (∀ l' ∈ before, ∃ column, ctx.schema.column? l'.field = some column) ∧
        ctx.schema.column? l.field = none ∧ e = .unmappedField l.field := by
  constructor
  · simp only [exists_compile_iff, Leaf.isMapped, Option.isSome_iff_exists]
  · intro e
    simp only [compile_eq_error_iff, firstUnmapped?, List.find?_eq_some_iff_append,
      Leaf.isMapped, Bool.not_eq_true', Option.isSome_eq_false_iff, Option.isNone_iff_eq_none,
      Bool.not_not, Option.isSome_iff_exists]
    constructor
    · rintro ⟨l, ⟨unmapped, before, after, parts, mapped⟩, rfl⟩
      exact ⟨before, l, after, parts, mapped, unmapped, rfl⟩
    · rintro ⟨before, l, after, parts, mapped, unmapped, rfl⟩
      exact ⟨l, ⟨unmapped, before, after, parts, mapped⟩, rfl⟩

end Criteria

end BuildQuery
