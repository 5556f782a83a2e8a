import BuildQuery.Proofs.LeafWise
import BuildQuery.Proofs.LikeMatching
import BuildQuery.Proofs.StoreEval

/-!
# The two ways to answer a query

A query is matched against an entity, or compiled to a predicate that a store evaluates on the row
of the entity. The store knows only the projects of the directory, so a test of a project holds
there of known projects alone (`Leaf.holdsInStore`). Up to this the two ways agree on every leaf
(`Leaf.eval_compile`), where guards keep the predicate from being unknown, and so on every query
(`Criteria.store_agrees_with_matching`).
-/

namespace BuildQuery

/-! ## Kinds of values -/

namespace Value

variable {v : Value}

theorem eq_int_of_fits (h : v.fits .number = true) : ∃ n, v = int n := by
  cases v with
  | int n => exact ⟨n, rfl⟩
  | time => contradiction
  | text => contradiction

theorem eq_time_of_fits (h : v.fits .submitDate = true) : ∃ t, v = time t := by
  cases v with
  | int => contradiction
  | time t => exact ⟨t, rfl⟩
  | text => contradiction

theorem eq_text_of_fits {field : Field} (h : v.fits field = true) (number : field ≠ .number)
    (date : field ≠ .submitDate) : ∃ s, v = text s := by
  cases v with
  | int => cases field <;> contradiction
  | time => cases field <;> contradiction
  | text s => exact ⟨s, rfl⟩

end Value

/-! ## Known projects -/

namespace ProjectDirectory

variable {d : ProjectDirectory} {path : ProjectPath} {s : String}

/-- Whether a store looks for a path is a matter of the known paths in lower case alone. -/
theorem mem_resolve_iff : s ∈ d.resolve path ↔
    s ∈ d.paths.map Text.lowercase ∧
      Glob.isPathMatch (Text.lower path.text.toList) s.toList = true := by
  simp only [resolve, mem_sortedStrings, List.mem_map, matching, List.mem_filter, pathMatches]
  constructor
  · rintro ⟨p, ⟨hp, matched⟩, rfl⟩
    exact ⟨⟨p, hp, rfl⟩, by rwa [Text.toList_lowercase]⟩
  · rintro ⟨⟨p, hp, rfl⟩, matched⟩
    exact ⟨p, ⟨hp, by rwa [Text.toList_lowercase] at matched⟩, rfl⟩

/-- The known paths that a store looks for are in strictly ascending order. -/
theorem pairwise_resolve (d : ProjectDirectory) (path : ProjectPath) :
    (d.resolve path).Pairwise (· < ·) :=
  pairwise_sortedStrings _

/-- The known paths that a store looks for are those that match. -/
theorem lowercase_mem_resolve_iff :
    Text.lowercase s ∈ d.resolve path ↔
      pathMatches path.text s = true ∧ Text.lowercase s ∈ d.paths.map Text.lowercase := by
  rw [mem_resolve_iff, Text.toList_lowercase, and_comm]
  rfl

end ProjectDirectory

namespace Leaf

/-- Whether the directory has the project that a leaf tests, in whatever case. For a leaf that tests
another field there is nothing to know. -/
def isKnown (projects : ProjectDirectory) : Leaf → Option Value → Bool
  | project _, some (.text s) => (projects.paths.map Text.lowercase).contains (Text.lowercase s)
  | _, _ => true

/-- Whether the value of its field satisfies the natural comparison of a leaf for a store, which
knows only the projects of the directory. -/
def naturalInStore (ctx : QueryContext) (l : Leaf) (value? : Option Value) : Bool :=
  l.holdsNaturally ctx.user? value? && l.isKnown ctx.projects value?

theorem isKnown_eq_true {projects : ProjectDirectory} {entity : Entity}
    (known : ∀ s, entity .project = some (.text s) →
      Text.lowercase s ∈ projects.paths.map Text.lowercase) (l : Leaf) :
    l.isKnown projects (entity l.field) = true := by
  cases l with
  | project t =>
    show isKnown projects (project t) (entity .project) = true
    cases h : entity .project with
    | none => rfl
    | some v =>
      cases v with
      | text s => exact List.contains_iff_mem.2 (known s h)
      | int | time => rfl
  | text | number | status | date | submittedByMe => rfl

/-- Whether a leaf holds of an entity for a store. -/
def holdsInStore (l : Leaf) (entity : Entity) (ctx : QueryContext) : Bool :=
  l.outcome (l.naturalInStore ctx (entity l.field))

/-! ## Leaves -/

section Natural

variable {ctx : QueryContext} {row : Row} {column : String} {value? : Option Value}

/-- A guarded comparison with values of its own kind is true where the value stands in the relation,
and false elsewhere. -/
theorem eval_guarded_compare (hv : row.get? column = value?) (relation : Relation) {operand : Value}
    (kind : ∀ v, value? = some v → v.sameKind operand = true) :
    (Predicate.guarded column (.compare column relation operand)).eval row =
      .ofBool (value?.any fun v => relation.holds v operand) := by
  rw [Predicate.eval_guarded, Predicate.eval, hv]
  cases value? with
  | none => rfl
  | some v => simp [Predicate.compareTruth, kind v rfl]

theorem eval_naturalPredicate_text (hv : row.get? column = value?) (t : TextTest)
    (typed : ∀ v, value? = some v → v.fits t.field = true) :
    ((text t).naturalPredicate ctx column).eval row =
      .ofBool (naturalInStore ctx (text t) value?) := by
  unfold naturalPredicate naturalInStore
  rw [Predicate.eval_guarded, Predicate.eval, hv]
  cases value? with
  | none => rfl
  | some v =>
    have textual := t.textual
    obtain ⟨s, rfl⟩ := Value.eq_text_of_fits (typed v rfl)
      (by intro e; rw [e] at textual; contradiction)
      (by intro e; rw [e] at textual; contradiction)
    have agree : Like.isMatch (Like.ofGlob t.glob) (Text.lower s.toList) =
        Glob.isMatch t.glob (Text.lower s.toList) := by
      rw [Bool.eq_iff_iff, Like.isMatch_ofGlob_iff, Glob.isMatch_iff]
    simp [Predicate.likeTruth, holdsNaturally, isKnown, agree]

theorem eval_naturalPredicate_project (hv : row.get? column = value?) (t : ProjectTest)
    (typed : ∀ v, value? = some v → v.fits .project = true) :
    ((project t).naturalPredicate ctx column).eval row =
      .ofBool (naturalInStore ctx (project t) value?) := by
  unfold naturalPredicate naturalInStore
  cases value? with
  | none =>
    have natural : holdsNaturally ctx.user? (project t) none = false := rfl
    rw [natural, Bool.false_and]
    dsimp only
    split_ifs
    · rw [Predicate.eval]
      rfl
    · rw [Predicate.eval_guarded, hv]
      rfl
  | some v =>
    obtain ⟨s, rfl⟩ := Value.eq_text_of_fits (typed v rfl) (by decide) (by decide)
    have agree : (ctx.projects.resolve t.path).contains (Text.lowercase s) =
        (pathMatches t.path.text s &&
          (ctx.projects.paths.map Text.lowercase).contains (Text.lowercase s)) := by
      rw [Bool.eq_iff_iff, Bool.and_eq_true, List.contains_iff_mem, List.contains_iff_mem,
        ProjectDirectory.lowercase_mem_resolve_iff]
    have natural : holdsNaturally ctx.user? (project t) (some (.text s)) =
        pathMatches t.path.text s := rfl
    have known : isKnown ctx.projects (project t) (some (.text s)) =
        (ctx.projects.paths.map Text.lowercase).contains (Text.lowercase s) := rfl
    rw [natural, known, ← agree]
    dsimp only
    by_cases h : (ctx.projects.resolve t.path).isEmpty = true
    · rw [if_pos h, Predicate.eval, List.isEmpty_iff.1 h]
      rfl
    · rw [if_neg h, Predicate.eval_guarded, Predicate.eval, hv]
      simp [Predicate.oneOfTruth, Value.folded, List.contains_eq_mem]

/-- The predicate for the natural comparison of a leaf is never unknown of a row that holds what the
leaf reads, and says what the comparison says. -/
theorem eval_naturalPredicate (hv : row.get? column = value?) (l : Leaf)
    (typed : ∀ v, value? = some v → v.fits l.field = true) :
    (l.naturalPredicate ctx column).eval row = .ofBool (naturalInStore ctx l value?) := by
  cases l with
  | text t => exact eval_naturalPredicate_text hv t typed
  | project t => exact eval_naturalPredicate_project hv t typed
  | number t =>
    have kind : ∀ v, value? = some v → v.sameKind (.int t.value) = true := by
      intro v h
      obtain ⟨n, rfl⟩ := Value.eq_int_of_fits (typed v h)
      rfl
    rw [naturalPredicate, eval_guarded_compare hv _ kind]
    cases value? with
    | none => rfl
    | some v =>
      obtain ⟨n, rfl⟩ := Value.eq_int_of_fits (typed v rfl)
      simp [naturalInStore, holdsNaturally, isKnown]
  | status t =>
    have kind : ∀ v, value? = some v → v.sameKind (.text t.status.name) = true := by
      intro v h
      obtain ⟨s, rfl⟩ := Value.eq_text_of_fits (typed v h) nofun nofun
      rfl
    rw [naturalPredicate, eval_guarded_compare hv _ kind]
    cases value? with
    | none => rfl
    | some v => simp [naturalInStore, holdsNaturally, isKnown, Relation.holds]
  | date t =>
    have kind : ∀ v, value? = some v → v.sameKind (.time t.time) = true := by
      intro v h
      obtain ⟨n, rfl⟩ := Value.eq_time_of_fits (typed v h)
      rfl
    rw [naturalPredicate, eval_guarded_compare hv _ kind]
    cases value? with
    | none => rfl
    | some v =>
      obtain ⟨n, rfl⟩ := Value.eq_time_of_fits (typed v rfl)
      simp [naturalInStore, holdsNaturally, isKnown]
  | submittedByMe =>
    unfold naturalPredicate naturalInStore
    cases ctx.user? with
    | none =>
      cases value? with
      | none => rfl
      | some v => cases v <;> rfl
    | some user =>
      have kind : ∀ v, value? = some v → v.sameKind (.text user) = true := by
        intro v h
        obtain ⟨s, rfl⟩ := Value.eq_text_of_fits (typed v h) nofun nofun
        rfl
      dsimp only
      rw [eval_guarded_compare hv _ kind]
      cases value? with
      | none => rfl
      | some v =>
        obtain ⟨s, rfl⟩ := Value.eq_text_of_fits (typed v rfl) nofun nofun
        have same : (Value.text s == Value.text user) = (user == s) := by
          rw [Bool.eq_iff_iff, beq_iff_eq, beq_iff_eq, Value.text.injEq]
          exact eq_comm
        simp [holdsNaturally, isKnown, Relation.holds, same]

end Natural

/-- A predicate in the polarity of a leaf has the outcome that the polarity asks for. -/
theorem eval_polarize {row : Row} {p : Predicate} {b : Bool} (l : Leaf)
    (h : p.eval row = .ofBool b) : (l.polarize p).eval row = .ofBool (l.outcome b) := by
  unfold polarize outcome
  cases l.operator? with
  | none => exact h
  | some op =>
    dsimp only
    rw [Operator.applyTo, Operator.apply_eq]
    split_ifs
    · rw [Predicate.eval_negate, h, Truth.not_ofBool]
    · exact h

theorem compile_eq_ok_iff {l : Leaf} {ctx : QueryContext} {p : Predicate} :
    l.compile ctx = .ok p ↔
      ∃ column, ctx.schema.column? l.field = some column ∧
        p = l.polarize (l.naturalPredicate ctx column) := by
  unfold compile Schema.column
  rw [bind_eq_ok_iff]
  cases ctx.schema.column? l.field with
  | none => simp
  | some column =>
    simp only [Except.ok.injEq, exists_eq_left', Option.some.injEq]
    exact ⟨fun h => (Except.ok.inj h).symm, fun h => congrArg Except.ok h.symm⟩

/-- The predicate of a leaf says of the row of an entity what the leaf says of the entity. -/
theorem eval_compile {l : Leaf} {ctx : QueryContext} (distinct : ctx.schema.Distinct)
    {p : Predicate} (compiled : l.compile ctx = .ok p) {entity : Entity} (typed : entity.IsTyped) :
    p.eval (Row.ofEntity entity ctx.schema) = .ofBool (l.holdsInStore entity ctx) := by
  obtain ⟨column, hc, rfl⟩ := compile_eq_ok_iff.1 compiled
  have hv := Row.get?_ofEntity distinct hc entity
  exact eval_polarize l (eval_naturalPredicate hv l fun v h => typed l.field v h)

end Leaf

/-! ## Queries -/

namespace Criteria

variable {ctx : QueryContext} {p : Predicate}

theorem compile_and_eq_ok_iff {l r : Criteria} :
    (and l r).compile ctx = .ok p ↔
      ∃ a b, l.compile ctx = .ok a ∧ r.compile ctx = .ok b ∧ p = a.conj b := by
  rw [compile]
  exact combine_eq_ok_iff

theorem compile_or_eq_ok_iff {l r : Criteria} :
    (or l r).compile ctx = .ok p ↔
      ∃ a b, l.compile ctx = .ok a ∧ r.compile ctx = .ok b ∧ p = a.disj b := by
  rw [compile]
  exact combine_eq_ok_iff

theorem compile_not_eq_ok_iff {c : Criteria} :
    (not c).compile ctx = .ok p ↔ ∃ a, c.compile ctx = .ok a ∧ p = a.negate := by
  rw [compile, bind_eq_ok_iff]
  constructor
  · rintro ⟨a, ha, h⟩
    exact ⟨a, ha, (Except.ok.inj h).symm⟩
  · rintro ⟨a, ha, rfl⟩
    exact ⟨a, ha, rfl⟩

/-- The predicate of a query is never unknown of the row of an entity. -/
theorem eval_compile {c : Criteria} (distinct : ctx.schema.Distinct)
    (compiled : c.compile ctx = .ok p) {entity : Entity} (typed : entity.IsTyped) :
    p.eval (Row.ofEntity entity ctx.schema) =
      .ofBool (c.truth fun l => l.holdsInStore entity ctx) := by
  induction c generalizing p with
  | leaf l => exact Leaf.eval_compile distinct compiled typed
  | and l r ihl ihr =>
    obtain ⟨a, b, ha, hb, rfl⟩ := compile_and_eq_ok_iff.1 compiled
    rw [Predicate.eval_conj, ihl ha, ihr hb, Truth.ofBool_and, truth]
  | or l r ihl ihr =>
    obtain ⟨a, b, ha, hb, rfl⟩ := compile_or_eq_ok_iff.1 compiled
    rw [Predicate.eval_disj, ihl ha, ihr hb, Truth.ofBool_or, truth]
  | not c ih =>
    obtain ⟨a, ha, rfl⟩ := compile_not_eq_ok_iff.1 compiled
    rw [Predicate.eval_negate, ih ha, Truth.not_ofBool, truth]
  | group c ih => exact ih compiled

/-- For an entity without a project, or in a known one, the store says what matching says. -/
theorem truth_holdsInStore {entity : Entity}
    (known : ∀ s, entity .project = some (.text s) →
      Text.lowercase s ∈ ctx.projects.paths.map Text.lowercase) (c : Criteria) :
    (c.truth fun l => l.holdsInStore entity ctx) = c.holds entity ctx := by
  rw [holds_eq_truth]
  refine truth_congr fun l _ => ?_
  rw [Leaf.holdsInStore, Leaf.naturalInStore, l.isKnown_eq_true known, Bool.and_true, Leaf.holds]

/-- The two ways to answer a query agree: of the row of a typed entity, the predicate of a query is
true or false as matching says, where a test of a project holds of known projects alone. A store
selects the rows of entities without a project, or in a known one, exactly where the query holds. -/
theorem store_agrees_with_matching {c : Criteria} (distinct : ctx.schema.Distinct)
    (compiled : c.compile ctx = .ok p) {entity : Entity} (typed : entity.IsTyped) :
    p.eval (Row.ofEntity entity ctx.schema) =
        .ofBool (c.truth fun l => l.holdsInStore entity ctx) ∧
      ((∀ s, entity .project = some (.text s) →
          Text.lowercase s ∈ ctx.projects.paths.map Text.lowercase) →
        ∀ (rows : List Row) (i : Nat), rows[i]? = some (Row.ofEntity entity ctx.schema) →
          (i ∈ p.select rows ↔ c.holds entity ctx = true)) := by
  have agree := eval_compile distinct compiled typed
  refine ⟨agree, fun known rows i hi => ?_⟩
  rw [Predicate.mem_select_iff, hi]
  simp [agree, truth_holdsInStore known, Truth.ofBool_eq_yes_iff]

/-- A failed build of a known project, whose version is full of what is special in patterns, under a
query with both polarities. -/
theorem store_agrees_with_matching_of_failed_build :
    let build : Build :=
      ⟨"Team/App", 7, "ci", some "1.0_%\\", none, none, .failed, none, ⟨738000, 0, 0⟩⟩
    let ctx : QueryContext := ⟨.standard, ⟨["other", "TEAM/app"]⟩, none⟩
    let query : Criteria :=
      .and (.leaf (.project ⟨ProjectPath.ofText "team/**", ⟨.is, .natural⟩, by decide, by decide⟩))
        (.not (.or (.leaf (.text ⟨.version, ⟨.is, .negated⟩, "*0_%\\", rfl, by decide, by decide⟩))
          (.leaf (.text ⟨.branch, ⟨.contains, .natural⟩, "main", rfl, by decide, by decide⟩))))
    ctx.schema.Distinct ∧ build.entity.IsTyped ∧ ∃ p, query.compile ctx = .ok p ∧
      0 ∈ p.select [Row.ofEntity build.entity ctx.schema] := by
  intro build ctx query
  have known : ∀ s, build.entity .project = some (.text s) →
      Text.lowercase s ∈ ctx.projects.paths.map Text.lowercase := by
    intro s h
    obtain rfl : "Team/App" = s := by simpa [build, Build.entity] using h
    decide
  have holds : query.holds build.entity ctx = true := by decide
  refine ⟨Schema.distinct_standard, build.isTyped_entity, _, rfl, ?_⟩
  exact ((store_agrees_with_matching Schema.distinct_standard rfl build.isTyped_entity).2 known _ 0
    rfl).2 holds

end Criteria

end BuildQuery
