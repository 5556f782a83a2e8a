import BuildQuery.Error

/-!
# Schemas

A schema says in which column of the store each field is kept. A field that it does not map cannot
be compiled into a store predicate.
-/

namespace BuildQuery

/-- The columns of a store by field. -/
structure Schema where
  column? : Field → Option String

namespace Schema

/-- The schema that maps no field. -/
def empty : Schema := ⟨fun _ => none⟩

/-- The schema with a field kept in the given column. -/
def insert (s : Schema) (field : Field) (column : String) : Schema :=
  ⟨fun f => if f = field then some column else s.column? f⟩

/-- The schema without a column for a field. -/
def erase (s : Schema) (field : Field) : Schema :=
  ⟨fun f => if f = field then none else s.column? f⟩

/-- The column of a field, which has to be mapped. -/
def column (s : Schema) (field : Field) : Except QueryError String :=
  match s.column? field with
  | some column => .ok column
  | none => .error (.unmappedField field)

/-- The mapped fields in order, each with its column. -/
def columns (s : Schema) : List (Field × String) :=
  Field.all.filterMap fun f => (s.column? f).map fun column => (f, column)

/-- The column in which a store keeps a field unless it is told otherwise. -/
def standardColumn : Field → String
  | .project => "project.path"
  | .number => "number"
  | .job => "job_name"
  | .version => "version"
  | .branch => "branch"
  | .tag => "tag"
  | .status => "status"
  | .submitter => "submitter.login"
  | .submitDate => "submit_date"

/-- The schema with the standard column for every field. -/
def standard : Schema := ⟨fun f => some (standardColumn f)⟩

@[simp] theorem column?_insert_self (s : Schema) (f : Field) (c : String) :
    (s.insert f c).column? f = some c := by
  simp [insert]

theorem column?_insert_of_ne (s : Schema) {f g : Field} (c : String) (h : g ≠ f) :
    (s.insert f c).column? g = s.column? g := by
  simp [insert, h]

@[simp] theorem column?_erase_self (s : Schema) (f : Field) : (s.erase f).column? f = none := by
  simp [erase]

theorem column?_erase_of_ne (s : Schema) {f g : Field} (h : g ≠ f) :
    (s.erase f).column? g = s.column? g := by
  simp [erase, h]

theorem mem_columns {s : Schema} {f : Field} {c : String} :
    (f, c) ∈ s.columns ↔ s.column? f = some c := by
  simp only [columns, List.mem_filterMap, Option.map_eq_some_iff, Prod.mk.injEq]
  constructor
  · rintro ⟨g, _, d, h, rfl, rfl⟩
    exact h
  · intro h
    exact ⟨f, Field.mem_all f, c, h, rfl, rfl⟩

end Schema

end BuildQuery
