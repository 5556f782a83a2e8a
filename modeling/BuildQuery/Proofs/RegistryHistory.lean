import BuildQuery.Proofs.Canonical
import BuildQuery.Registry

/-!
# Registries over time

A registry goes through a history of operations: queries are registered and removed, and projects
move. Every query is registered as it was read from a text. Main statement: at any time the text of
every query of the registry is read back as this query (`parse_render_after_moves`), because each
operation keeps all queries canonical (`Operation.isCanonical_apply`).
-/

namespace BuildQuery

/-- An operation on a registry. -/
inductive Operation where
  | register (q : SavedQuery)
  | remove (name : String)
  | move (old new : String)

namespace Operation

/-- The registry after an operation. -/
def apply (r : Registry) : Operation → Registry
  | register q => r.register q
  | remove name => r.remove name
  | move old new => r.move old new

/-- Whether a query that is registered was read from a text. -/
def IsParsed : Operation → Prop
  | register q => ∃ query, SavedQuery.parse q.name query q.subscribers = .ok q
  | remove _ | move .. => True

end Operation

namespace Registry

/-- The registry after several operations, one after the other. -/
def after (r : Registry) (ops : List Operation) : Registry := ops.foldl Operation.apply r

/-- Whether all queries are canonical. -/
def IsCanonical (r : Registry) : Prop := ∀ q ∈ r.queries.items, q.criteria.IsCanonical

theorem isCanonical_empty : empty.IsCanonical := nofun

theorem IsCanonical.register {r : Registry} {q : SavedQuery} (h : r.IsCanonical)
    (hq : q.criteria.IsCanonical) : (r.register q).IsCanonical := by
  intro p hp
  rcases mem_of_mem_insertBy hp with rfl | hp
  · exact hq
  · exact h p hp

theorem IsCanonical.remove {r : Registry} (h : r.IsCanonical) (name : String) :
    (r.remove name).IsCanonical :=
  fun p hp => h p (List.mem_filter.1 hp).1

theorem IsCanonical.move {r : Registry} (h : r.IsCanonical) (old new : String) :
    (r.move old new).IsCanonical := by
  intro p hp
  obtain ⟨q, hq, rfl⟩ := List.mem_map.1 hp
  exact (h q hq).moved old new

end Registry

theorem SavedQuery.isCanonical_of_parse {name query : String} {subscribers : List String}
    {q : SavedQuery} (h : parse name query subscribers = .ok q) : q.criteria.IsCanonical := by
  obtain ⟨c, hc, h⟩ := bind_eq_ok_iff.1 h
  obtain rfl := Except.ok.inj h
  exact Criteria.isCanonical_of_parse hc

/-- Every operation keeps all queries canonical. -/
theorem Operation.isCanonical_apply {r : Registry} (h : r.IsCanonical) {op : Operation}
    (read : op.IsParsed) : (op.apply r).IsCanonical := by
  cases op with
  | register q =>
    obtain ⟨query, hq⟩ := read
    exact h.register (SavedQuery.isCanonical_of_parse hq)
  | remove name => exact h.remove name
  | move old new => exact h.move old new

namespace Registry

theorem isCanonical_after {r : Registry} (h : r.IsCanonical) {ops : List Operation}
    (read : ∀ op ∈ ops, op.IsParsed) : (r.after ops).IsCanonical := by
  induction ops generalizing r with
  | nil => exact h
  | cons op ops ih =>
    have first := Operation.isCanonical_apply h (read op List.mem_cons_self)
    exact ih first fun op' hop => read op' (List.mem_cons_of_mem op hop)

end Registry

namespace Criteria

/-- A query that was read from a text is read back from its own text after any moves, and so is
every query of a registry that was filled with queries read from texts. -/
theorem parse_render_after_moves :
    (∀ (s : String) (c : Criteria) (moves : List Move), parse s = .ok c →
      parse (Move.applyAll moves c).render = .ok (Move.applyAll moves c)) ∧
    ∀ ops : List Operation, (∀ op ∈ ops, op.IsParsed) →
      ∀ q ∈ (Registry.empty.after ops).queries.items,
        parse q.criteria.render = .ok q.criteria := by
  constructor
  · intro s c moves h
    exact parse_render_of_isCanonical (Move.isCanonical_applyAll (isCanonical_of_parse h) moves)
  · intro ops read q hq
    have canonical := Registry.isCanonical_after Registry.isCanonical_empty read
    exact parse_render_of_isCanonical (canonical q hq)

/-- A query that moves twice, the second time from a path that is not in normal form, and a registry
in which the project of its only query moves. -/
theorem parse_render_after_moves_of_team :
    ∃ c, parse "\"Project\" is \"team/**\" and submitted by me" = .ok c ∧
      parse (Move.applyAll [.copied "Team" " /org/x/ ", .inPlace "org//x" "ops"] c).render =
        .ok (Move.applyAll [.copied "Team" " /org/x/ ", .inPlace "org//x" "ops"] c) ∧
      ∀ q ∈ (Registry.empty.after
          [.register ⟨"team", c, ["ann"]⟩, .move "team" "org"]).queries.items,
        parse q.criteria.render = .ok q.criteria := by
  let c : Criteria :=
    .and (.leaf (.project ⟨ProjectPath.ofText "team/**", ⟨.is, .natural⟩, by decide, by decide⟩))
      (.leaf .submittedByMe)
  have text : c.render = "\"Project\" is \"team/**\" and submitted by me" := by decide
  have read : parse "\"Project\" is \"team/**\" and submitted by me" = .ok c :=
    text ▸ c.parse_render
  refine ⟨c, read, parse_render_after_moves.1 _ c _ read, parse_render_after_moves.2 _ ?_⟩
  intro op hop
  rcases List.mem_cons.1 hop with rfl | hop
  · exact ⟨_, bind_eq_ok_iff.2 ⟨c, read, rfl⟩⟩
  · obtain rfl := List.mem_singleton.1 hop
    trivial

end Criteria

end BuildQuery
