import Mathlib.Data.Set.List
import BuildQuery.Config.Basic
import BuildQuery.Proofs.Backends
import BuildQuery.Proofs.OperandText
import BuildQuery.Proofs.UnmappedFields

/-!
# Contexts of configurations

Of the overrides of a field the last one counts, in the order of the names (`Config.columnOf`). A
schema made by overriding is determined by these columns (`schema_eq_ok_iff`), and so is whether two
fields share one in the end (`sharedColumn?_eq_none_iff`), whatever they shared on the way. In a
context that comes out of a configuration every field is mapped (`column?_of_context`), so that
every query is compiled.

Main statement: which configurations have a context, and that a store under such a context selects
the builds of known projects that match, in order (`context_sound`).
-/

namespace BuildQuery

open ProjectPath (normalize)

/-! ## Schemas by overriding -/

namespace Config

/-- The column that the last override of a field gives it. -/
def lastColumn? (entries : List (String × String)) (f : Field) : Option String :=
  (entries.filter fun e => Field.ofName? e.1 = some f).getLast?.map Prod.snd

/-- The column of a field: that of the last override of the field, or the standard one. -/
def columnOf (c : Config) (f : Field) : String :=
  (lastColumn? c.columns.items f).getD (Schema.standardColumn f)

/-- The schema with one column overridden. -/
def override (schema : Schema) (entry : String × String) : Except ConfigError Schema :=
  match Field.ofName? entry.1 with
  | some field => .ok (schema.insert field entry.2)
  | none => .error (.unknownField entry.1)

theorem schema_eq_foldlM (c : Config) :
    c.schema = c.columns.items.foldlM override Schema.standard := rfl

theorem override_eq_ok_iff {s s' : Schema} {entry : String × String} :
    override s entry = .ok s' ↔ ∃ f, Field.ofName? entry.1 = some f ∧ s' = s.insert f entry.2 := by
  unfold override
  cases Field.ofName? entry.1 with
  | none => exact iff_of_false nofun nofun
  | some f => simp only [Except.ok.injEq, Option.some.injEq, exists_eq_left', eq_comm]

theorem lastColumn?_cons (e : String × String) (entries : List (String × String)) (f : Field) :
    lastColumn? (e :: entries) f =
      (lastColumn? entries f).or (if Field.ofName? e.1 = some f then some e.2 else none) := by
  unfold lastColumn?
  by_cases named : Field.ofName? e.1 = some f
  · rw [List.filter_cons_of_pos (by simpa using named), if_pos named, List.getLast?_cons]
    cases (entries.filter fun e => Field.ofName? e.1 = some f).getLast? <;> rfl
  · rw [List.filter_cons_of_neg (by simpa using named), if_neg named, Option.or_none]

/-- The schema that a list of overrides makes of another one. -/
theorem foldlM_override_eq_ok_iff {entries : List (String × String)} {s s' : Schema} :
    entries.foldlM override s = .ok s' ↔
      (∀ e ∈ entries, (Field.ofName? e.1).isSome) ∧
        s' = ⟨fun f => (lastColumn? entries f).or (s.column? f)⟩ := by
  induction entries generalizing s with
  | nil =>
    constructor
    · intro h
      exact ⟨nofun, (Except.ok.inj h).symm⟩
    · rintro ⟨-, rfl⟩
      rfl
  | cons e entries ih =>
    rw [List.foldlM_cons, bind_eq_ok_iff, List.forall_mem_cons]
    simp only [override_eq_ok_iff, ih]
    -- an override that comes first gives way to the later ones of the same field
    have later (f : Field) (named : Field.ofName? e.1 = some f) :
        (fun g => (lastColumn? entries g).or ((s.insert f e.2).column? g)) =
          fun g => (lastColumn? (e :: entries) g).or (s.column? g) := by
      funext g
      rw [lastColumn?_cons, Option.or_assoc, named]
      by_cases same : f = g
      · rw [if_pos (congrArg some same), ← same, Schema.column?_insert_self, Option.some_or]
      · rw [if_neg (mt Option.some.inj same), Option.none_or,
          Schema.column?_insert_of_ne s e.2 (Ne.symm same)]
    constructor
    · rintro ⟨_, ⟨f, named, rfl⟩, rest, rfl⟩
      exact ⟨⟨named ▸ rfl, rest⟩, congrArg Schema.mk (later f named)⟩
    · rintro ⟨⟨first, rest⟩, rfl⟩
      obtain ⟨f, named⟩ := Option.isSome_iff_exists.1 first
      exact ⟨_, ⟨f, named, rfl⟩, rest, congrArg Schema.mk (later f named).symm⟩

theorem schema_eq_ok_iff {c : Config} {s : Schema} :
    c.schema = .ok s ↔
      (∀ e ∈ c.columns.items, (Field.ofName? e.1).isSome) ∧ s = ⟨fun f => some (c.columnOf f)⟩ := by
  have columns : (fun f => (lastColumn? c.columns.items f).or (Schema.standard.column? f)) =
      fun f => some (c.columnOf f) := by
    funext f
    exact Option.or_some
  rw [schema_eq_foldlM, foldlM_override_eq_ok_iff, columns]

end Config

/-! ## Shared columns -/

/-- No two fields share a column when the columns in the list differ from each other and from those
that came before. -/
theorem sharedColumn?_eq_none_iff {earlier places : List (Field × String)} :
    sharedColumn? earlier places = none ↔
      (∀ e ∈ earlier, e.2 ∉ places.map Prod.snd) ∧ (places.map Prod.snd).Nodup := by
  induction places generalizing earlier with
  | nil => simp [sharedColumn?]
  | cons place places ih =>
    obtain ⟨field, column⟩ := place
    rw [sharedColumn?, List.map_cons, List.nodup_cons]
    cases found : earlier.find? fun e => e.2 == column with
    | some e =>
      have mem := List.mem_of_find?_eq_some found
      have same : e.2 = column := by simpa using List.find?_some found
      exact iff_of_false nofun fun h => h.1 e mem (same ▸ List.mem_cons_self)
    | none =>
      have other : ∀ e ∈ earlier, e.2 ≠ column := by simpa using found
      rw [ih, List.forall_mem_cons]
      simp only [List.mem_cons, not_or]
      constructor
      · rintro ⟨⟨fresh, rest⟩, nodup⟩
        exact ⟨fun e he => ⟨other e he, rest e he⟩, fresh, nodup⟩
      · rintro ⟨rest, fresh, nodup⟩
        exact ⟨⟨fresh, fun e he => (rest e he).2⟩, nodup⟩

/-- The fields have columns of their own when these are listed without repetition. -/
theorem Schema.distinct_iff_nodup_columns {s : Schema} :
    s.Distinct ↔ (s.columns.map Prod.snd).Nodup := by
  refine ⟨Distinct.nodup_columns, fun nodup f g column hf hg => ?_⟩
  have same := List.inj_on_of_nodup_map nodup (mem_columns.2 hf) (mem_columns.2 hg) rfl
  exact congrArg Prod.fst same

/-- A schema is found to have no shared column when its fields have columns of their own. -/
theorem Schema.sharedColumn?_columns_eq_none_iff {s : Schema} :
    sharedColumn? [] s.columns = none ↔ s.Distinct := by
  rw [sharedColumn?_eq_none_iff, distinct_iff_nodup_columns]
  exact and_iff_right nofun

/-! ## Known projects -/

/-- A step for each element of a list succeeds with the values that the single steps give. -/
theorem mapM_eq_ok_iff {ε α β : Type} {f : α → Except ε β} {xs : List α} {ys : List β} :
    xs.mapM f = .ok ys ↔ ys.map .ok = xs.map f := by
  induction xs generalizing ys with
  | nil =>
    rw [List.mapM_nil, List.map_nil, List.map_eq_nil_iff]
    simp [pure, Except.pure, eq_comm]
  | cons x xs ih =>
    rw [List.mapM_cons, combine_eq_ok_iff, List.map_cons]
    simp only [ih, List.map_eq_cons_iff]
    constructor
    · rintro ⟨y, ys, hy, hys, rfl⟩
      exact ⟨y, ys, rfl, hy.symm, hys⟩
    · rintro ⟨y, ys, rfl, hy, hys⟩
      exact ⟨y, ys, hy.symm, hys, rfl⟩

theorem exists_mapM_eq_ok_iff {ε α β : Type} {f : α → Except ε β} {xs : List α} :
    (∃ ys, xs.mapM f = .ok ys) ↔ ∀ x ∈ xs, ∃ y, f x = .ok y := by
  have liftable := Set.ext_iff.1 (Set.range_list_map (Except.ok : β → Except ε β)) (xs.map f)
  simp only [mapM_eq_ok_iff]
  rw [← Set.mem_range, liftable, Set.mem_ofPred_eq, List.forall_mem_map]
  exact forall₂_congr fun x _ => exists_congr fun y => eq_comm

namespace Config

/-- The text of a project path in normal form. -/
def normalText (p : String) : Except ConfigError String :=
  match normalize p with
  | .ok path => .ok path.text
  | .error fault => .error (.project p fault)

theorem normalText_eq_ok_iff {p s : String} :
    normalText p = .ok s ↔ ∃ path, normalize p = .ok path ∧ s = path.text := by
  unfold normalText
  cases normalize p with
  | error fault => exact iff_of_false nofun nofun
  | ok path => simp [eq_comm]

theorem directory_eq_ok_iff {c : Config} {d : ProjectDirectory} :
    c.directory = .ok d ↔ c.projects.mapM normalText = .ok d.paths := by
  have steps : c.directory = do return ⟨← c.projects.mapM normalText⟩ := rfl
  rw [steps, bind_eq_ok_iff]
  constructor
  · rintro ⟨paths, known, h⟩
    exact Except.ok.inj h ▸ known
  · intro known
    exact ⟨_, known, rfl⟩

/-- The text of a normalized path is in normal form. -/
theorem normalize_of_mem_directory {c : Config} {d : ProjectDirectory} (h : c.directory = .ok d)
    {s : String} (hs : s ∈ d.paths) : ∃ path, normalize s = .ok path ∧ path.text = s := by
  have listed := mapM_eq_ok_iff.1 (directory_eq_ok_iff.1 h)
  obtain ⟨p, -, hp⟩ := List.mem_map.1 (listed ▸ List.mem_map_of_mem hs)
  obtain ⟨path, normal, rfl⟩ := normalText_eq_ok_iff.1 hp
  exact ⟨path, ProjectPath.normalize_text (ProjectPath.normalize_ne_nil normal), rfl⟩

theorem exists_directory_iff {c : Config} :
    (∃ d, c.directory = .ok d) ↔ ∀ p ∈ c.projects, ∃ path, normalize p = .ok path := by
  have same : (∃ d, c.directory = .ok d) ↔ ∃ paths, c.projects.mapM normalText = .ok paths := by
    simp only [directory_eq_ok_iff]
    exact ⟨fun ⟨d, h⟩ => ⟨d.paths, h⟩, fun ⟨paths, h⟩ => ⟨⟨paths⟩, h⟩⟩
  rw [same, exists_mapM_eq_ok_iff]
  simp [normalText_eq_ok_iff]

/-! ## Contexts -/

theorem context_eq_ok_iff {c : Config} {ctx : QueryContext} :
    c.context = .ok ctx ↔
      ∃ s, c.schema = .ok s ∧ s.Distinct ∧ ∃ d, c.directory = .ok d ∧ ctx = ⟨s, d, c.user?⟩ := by
  unfold context
  rw [bind_eq_ok_iff]
  refine exists_congr fun s => and_congr_right fun _ => ?_
  rw [← Schema.sharedColumn?_columns_eq_none_iff]
  cases sharedColumn? [] s.columns with
  | some e => exact iff_of_false nofun nofun
  | none =>
    refine Iff.trans bind_eq_ok_iff ?_
    constructor
    · rintro ⟨d, known, h⟩
      exact ⟨rfl, d, known, (Except.ok.inj h).symm⟩
    · rintro ⟨-, d, known, rfl⟩
      exact ⟨d, known, rfl⟩

/-- The fields of a context have columns of their own when the columns of the configuration differ
in the end. -/
theorem distinct_columnOf_iff {c : Config} :
    (⟨fun f => some (c.columnOf f)⟩ : Schema).Distinct ↔ Function.Injective c.columnOf := by
  constructor
  · intro distinct f g same
    exact distinct f g (c.columnOf g) (congrArg some same) rfl
  · intro injective f g column hf hg
    exact injective (Option.some.inj (hf.trans hg.symm))

/-- A context has the columns of its configuration. -/
theorem column?_of_context {c : Config} {ctx : QueryContext} (h : c.context = .ok ctx) (f : Field) :
    ctx.schema.column? f = some (c.columnOf f) := by
  obtain ⟨s, made, -, d, -, rfl⟩ := context_eq_ok_iff.1 h
  obtain ⟨-, rfl⟩ := schema_eq_ok_iff.1 made
  rfl

theorem distinct_of_context {c : Config} {ctx : QueryContext} (h : c.context = .ok ctx) :
    ctx.schema.Distinct := by
  obtain ⟨s, -, distinct, d, -, rfl⟩ := context_eq_ok_iff.1 h
  exact distinct

theorem normalize_of_mem_context {c : Config} {ctx : QueryContext} (h : c.context = .ok ctx)
    {s : String} (hs : s ∈ ctx.projects.paths) :
    ∃ path, normalize s = .ok path ∧ path.text = s := by
  obtain ⟨_, -, -, d, known, rfl⟩ := context_eq_ok_iff.1 h
  exact normalize_of_mem_directory known hs

/-- A configuration has a context unless an override is of no field, two fields end up in one
column, or the path of a project has no normal form. -/
theorem exists_context_iff {c : Config} :
    (∃ ctx, c.context = .ok ctx) ↔
      (∀ e ∈ c.columns.items, (Field.ofName? e.1).isSome) ∧ Function.Injective c.columnOf ∧
        ∀ p ∈ c.projects, ∃ path, normalize p = .ok path := by
  rw [← exists_directory_iff, ← distinct_columnOf_iff]
  constructor
  · rintro ⟨ctx, h⟩
    obtain ⟨s, made, distinct, d, known, rfl⟩ := context_eq_ok_iff.1 h
    obtain ⟨named, rfl⟩ := schema_eq_ok_iff.1 made
    exact ⟨named, distinct, d, known⟩
  · rintro ⟨named, distinct, d, known⟩
    exact ⟨_, context_eq_ok_iff.2 ⟨_, schema_eq_ok_iff.2 ⟨named, rfl⟩, distinct, d, known, rfl⟩⟩

end Config

/-! ## Queries under a context -/

/-- The row of a build of a known project is selected where the query holds of the build. -/
theorem Criteria.mem_select_builds_iff {ctx : QueryContext} {c : Criteria} {p : Predicate}
    (distinct : ctx.schema.Distinct) (compiled : c.compile ctx = .ok p) {builds : List Build}
    (known : ∀ b ∈ builds,
      Text.lowercase b.project ∈ ctx.projects.paths.map Text.lowercase) {i : Nat} :
    i ∈ p.select (builds.map fun b => Row.ofEntity b.entity ctx.schema) ↔
      ∃ b, builds[i]? = some b ∧ c.holds b.entity ctx = true := by
  -- the predicate is true of the row of a build in the list exactly when the query holds of it
  have agree : ∀ b ∈ builds, p.eval (Row.ofEntity b.entity ctx.schema) = .yes ↔
      c.holds b.entity ctx = true := by
    intro b hb
    rw [eval_compile distinct compiled b.isTyped_entity, Truth.ofBool_eq_yes_iff,
      truth_holdsInStore fun s h => ?_]
    obtain rfl : b.project = s := Value.text.inj (Option.some.inj h)
    exact known b hb
  rw [Predicate.mem_select_iff]
  simp only [List.getElem?_map, Option.map_eq_some_iff]
  constructor
  · rintro ⟨_, ⟨b, at_i, rfl⟩, true_of⟩
    exact ⟨b, at_i, (agree b (List.mem_of_getElem? at_i)).1 true_of⟩
  · rintro ⟨b, at_i, holds⟩
    exact ⟨_, ⟨b, at_i, rfl⟩, (agree b (List.mem_of_getElem? at_i)).2 holds⟩

/-- A configuration has a context exactly when every override is of a field, the nine columns that
result differ, and every project path has a normal form. The context has these columns and known
projects in normal form, every query is compiled under it, and of builds of known projects a store
selects those of which the query holds, in ascending order of their places. -/
theorem Config.context_sound (c : Config) :
    ((∃ ctx, c.context = .ok ctx) ↔
      (∀ e ∈ c.columns.items, (Field.ofName? e.1).isSome) ∧
        (∀ f g, c.columnOf f = c.columnOf g → f = g) ∧
        ∀ p ∈ c.projects, ∃ path, normalize p = .ok path) ∧
    ∀ ctx, c.context = .ok ctx →
      (∀ f, ctx.schema.column? f = some (c.columnOf f)) ∧
      ctx.schema.Distinct ∧
      (∀ s ∈ ctx.projects.paths, ∃ path, normalize s = .ok path ∧ path.text = s) ∧
      ∀ query : Criteria, ∃ p, query.compile ctx = .ok p ∧
        ∀ builds : List Build,
          (∀ b ∈ builds, Text.lowercase b.project ∈ ctx.projects.paths.map Text.lowercase) →
          let selected := p.select (builds.map fun b => Row.ofEntity b.entity ctx.schema)
          selected.Pairwise (· < ·) ∧
            ∀ i, i ∈ selected ↔ ∃ b, builds[i]? = some b ∧ query.holds b.entity ctx = true := by
  refine ⟨exists_context_iff, fun ctx made => ?_⟩
  have columns := column?_of_context made
  have distinct := distinct_of_context made
  refine ⟨columns, distinct, fun s hs => normalize_of_mem_context made hs, fun query => ?_⟩
  obtain ⟨p, compiled⟩ := query.exists_compile fun f => ⟨_, columns f⟩
  refine ⟨p, compiled, fun builds known => ⟨p.pairwise_select _, fun i => ?_⟩⟩
  exact Criteria.mem_select_builds_iff distinct compiled known

/-- Two fields swap their columns, one of them by way of two overrides and through a column that
another field has meanwhile. -/
theorem Config.context_sound_of_swapped_columns :
    let columns : SortedBy (Prod.fst : String × String → String) :=
      .ofList [("Tag", "version"), (" VERSION", "status"), ("version", "tag")]
    let c : Config := ⟨none, columns, ["/Team/App/ ", "ops"], []⟩
    let build (project tag : String) : Build :=
      ⟨project, 7, "ci", some "1.0", none, some tag, .failed, none, ⟨738000, 0, 0⟩⟩
    let builds := [build "TEAM/app" "v1", build "Ops" "nightly"]
    let query : Criteria :=
      .not (.leaf (.text ⟨.tag, ⟨.is, .natural⟩, "v*", rfl, by decide, by decide⟩))
    ∃ ctx, c.context = .ok ctx ∧
      (∀ b ∈ builds, Text.lowercase b.project ∈ ctx.projects.paths.map Text.lowercase) ∧
      ∃ p, query.compile ctx = .ok p ∧
        1 ∈ p.select (builds.map fun b => Row.ofEntity b.entity ctx.schema) := by
  intro columns c build builds query
  refine ⟨_, rfl, by decide, ?_⟩
  obtain ⟨p, compiled, selects⟩ := (c.context_sound.2 _ rfl).2.2.2 query
  refine ⟨p, compiled, ((selects builds (by decide)).2 1).2 ?_⟩
  exact ⟨build "Ops" "nightly", rfl, by decide⟩

end BuildQuery
