import BuildQuery.Proofs.MovedRegistry
import BuildQuery.Proofs.RegistryByName
import BuildQuery.Proofs.RoundTrip

/-!
# Queries counted by a move

The text of a query determines its leaves, so that a move leaves the text of a query as it is only
when it leaves the query as it is (`render_moved_eq_iff`). A move is counted for every query that
refers to the old project. Main statement: these are the queries whose text changes, but for those
that spell the old project with the segments of the new one already (`moveCount_eq_iff`), which can
be only when the two differ in case alone. Such a query is counted although nothing happens to it
(`moveCount_of_spelled_already`).
-/

namespace BuildQuery

open ProjectPath (ofText normalize)

/-! ## Texts and leaves -/

namespace Criteria

/-- Queries with the same text have the same leaves. -/
theorem leaves_eq_of_render_eq {c d : Criteria} (h : c.render = d.render) :
    c.leaves = d.leaves := by
  have read : c.asRead = d.asRead :=
    Except.ok.inj (c.parse_render.symm.trans (h ▸ d.parse_render))
  rw [← (alike_asRead 0 c).leaves, ← (alike_asRead 0 d).leaves, read]

/-- Of a change of the leaves that the leaves do not show, none is changed. -/
theorem eq_self_of_leaves_mapLeaves_eq {c : Criteria} {m : Leaf → Leaf}
    (h : (c.mapLeaves m).leaves = c.leaves) : ∀ l ∈ c.leaves, m l = l := by
  rw [leaves_mapLeaves] at h
  exact List.map_inj_left.1 (h.trans (List.map_id _).symm)

/-- A change of leaves that the text does not show is none. -/
theorem mapLeaves_eq_self_of_render_eq {c : Criteria} {m : Leaf → Leaf}
    (h : (c.mapLeaves m).render = c.render) : c.mapLeaves m = c :=
  mapLeaves_eq_self (eq_self_of_leaves_mapLeaves_eq (leaves_eq_of_render_eq h))

theorem mapLeaves_eq_self_iff {c : Criteria} {m : Leaf → Leaf} :
    c.mapLeaves m = c ↔ ∀ l ∈ c.leaves, m l = l :=
  ⟨fun same => eq_self_of_leaves_mapLeaves_eq (congrArg leaves same), mapLeaves_eq_self⟩

end Criteria

/-! ## Moves without an effect -/

/-- A path that refers to the old project stays as it is when its first segments are those of the
new one. -/
theorem ProjectPath.replaceFront_eq_self_iff {path old new : ProjectPath} (used : path.RefersTo old)
    (full : new ≠ []) : path.replaceFront old new = path ↔ path.take old.length = new := by
  have split : path.take old.length ++ path.drop old.length = path := List.take_append_drop _ _
  rw [replaceFront_of_refersTo used full]
  constructor
  · intro same
    exact List.append_cancel_right (split.trans same.symm)
  · rintro rfl
    exact split

/-- A path whose first segments are those of the new project refers to the old one only if the two
differ in case alone. -/
theorem ProjectPath.RefersTo.folded_take {path old : ProjectPath} (used : path.RefersTo old) :
    folded (path.take old.length) = old.folded := by
  have front := List.prefix_iff_eq_take.1 used.2
  rw [folded, List.length_map] at front
  rw [folded, List.map_take]
  exact front.symm

theorem Leaf.replaceFront_eq_self_iff {l : Leaf} {old new : ProjectPath} (full : new ≠ []) :
    l.replaceFront old new = l ↔
      ∀ t, l = project t → t.path.RefersTo old → t.path.take old.length = new := by
  cases l with
  | project t =>
    constructor
    · rintro same _ ⟨⟩ used
      have path := congrArg ProjectTest.path (project.inj same)
      exact (ProjectPath.replaceFront_eq_self_iff used full).1 path
    · intro spelled
      refine congrArg project (ProjectTest.ext ?_ rfl)
      by_cases used : t.path.RefersTo old
      · exact (ProjectPath.replaceFront_eq_self_iff used full).2 (spelled t rfl used)
      · exact ProjectPath.replaceFront_of_not_refersTo used new
  | text | number | status | date | submittedByMe => exact iff_of_true rfl nofun

namespace Criteria

variable {c : Criteria} {old new : String}

/-- A move that takes effect leaves a query as it is when each of its tests that refer to the old
project begins with the segments of the new one. -/
theorem moved_eq_self_iff (h : TakesEffect old new) :
    c.moved old new = c ↔ ∀ t, .project t ∈ c.leaves → t.path.RefersTo (ofText old) →
      t.path.take (ofText old).length = ofText new := by
  simp only [moved_of_takesEffect h, mapLeaves_eq_self_iff, Leaf.replaceFront_eq_self_iff h.ne_nil]
  constructor
  · exact fun spelled t ht => spelled _ ht t rfl
  · rintro spelled _ hl t rfl
    exact spelled t hl

/-- The text of a query shows whether a move changes it. -/
theorem render_moved_eq_iff : (c.moved old new).render = c.render ↔ c.moved old new = c := by
  refine ⟨fun same => ?_, congrArg render⟩
  by_cases effect : TakesEffect old new
  · rw [moved_of_takesEffect effect] at same ⊢
    exact mapLeaves_eq_self_of_render_eq same
  · exact moved_of_moved?_eq_none (moved?_of_not_takesEffect effect c)

/-- A move gives back a new query that is the same when it affects the query without a change. -/
theorem moved?_eq_some_self_iff :
    c.moved? old new = some c ↔ (c.moved? old new).isSome = true ∧ c.moved old new = c := by
  rw [moved]
  cases c.moved? old new <;> simp

/-- A move that gives back another query is one that affects the query. -/
theorem isSome_moved?_of_ne (h : c.moved old new ≠ c) : (c.moved? old new).isSome = true := by
  rw [Option.isSome_iff_ne_none]
  exact fun none => h (moved_of_moved?_eq_none none)

theorem isUsing_iff {p : ProjectPath} :
    c.isUsing p = true ↔ ∃ t, .project t ∈ c.leaves ∧ t.path.RefersTo p := by
  rw [← Bool.not_eq_false, isUsing_eq_false_iff]
  simp only [Classical.not_forall, Classical.not_not, exists_prop]

/-- A move that takes effect changes a query that refers to the old project, unless each of the
tests that do so begins with the segments of the new one already. -/
theorem moved?_ne_some_self_iff :
    c.moved? old new ≠ some c ↔ TakesEffect old new → c.isUsing (ofText old) = true →
      ∃ t, .project t ∈ c.leaves ∧ t.path.RefersTo (ofText old) ∧
        t.path.take (ofText old).length ≠ ofText new := by
  by_cases effect : TakesEffect old new
  · have affected : (c.moved? old new).isSome = true ↔ c.isUsing (ofText old) = true := by
      rw [Option.isSome_iff_ne_none, ne_eq, moved?_eq_none_iff_of_takesEffect effect,
        Bool.not_eq_false]
    rw [ne_eq, moved?_eq_some_self_iff, moved_eq_self_iff effect, affected]
    simp only [effect, forall_const, not_and, Classical.not_forall, exists_prop, ne_eq]
  · rw [moved?_of_not_takesEffect effect]
    exact iff_of_true nofun fun h => absurd h effect

end Criteria

/-! ## Counts -/

namespace Registry

/-- The text of the query of a name. -/
def text? (r : Registry) (name : String) : Option String :=
  (r.get? name).map fun q => q.criteria.render

/-- The names of the queries whose text is another one in a later registry. -/
def changedTexts (r later : Registry) : List String :=
  r.names.filter fun n => later.text? n ≠ r.text? n

variable {r : Registry} {old new : String}

theorem text?_name {q : SavedQuery} (hq : q ∈ r.queries.items) :
    r.text? q.name = some q.criteria.render := by
  rw [text?, get?_eq_some_iff.2 ⟨hq, rfl⟩, Option.map_some]

theorem text?_move_name {q : SavedQuery} (hq : q ∈ r.queries.items) :
    (r.move old new).text? q.name = some (q.criteria.moved old new).render := by
  rw [text?, get?_move, get?_eq_some_iff.2 ⟨hq, rfl⟩, Option.map_some, Option.map_some,
    SavedQuery.criteria_moved]

/-- The texts that a move changes are those of the queries that it changes. -/
theorem length_changedTexts (r : Registry) (old new : String) :
    (r.changedTexts (r.move old new)).length =
      r.queries.items.countP fun q => q.criteria.moved old new ≠ q.criteria := by
  rw [changedTexts, ← List.countP_eq_length_filter, names, SortedBy.names, List.countP_map]
  refine List.countP_congr fun q hq => ?_
  rw [Function.comp_apply, text?_name hq, text?_move_name hq, decide_eq_true_eq, decide_eq_true_eq,
    ne_eq, Option.some_inj, Criteria.render_moved_eq_iff]

/-- A move is counted for the queries that it changes and for those that it gives back as new ones
although they are the same. -/
theorem moveCount_eq_add (r : Registry) (old new : String) :
    r.moveCount old new = (r.changedTexts (r.move old new)).length +
      r.queries.items.countP fun q => q.criteria.moved? old new = some q.criteria := by
  let affected (q : SavedQuery) : Bool := (q.criteria.moved? old new).isSome
  let changed (q : SavedQuery) : Bool := decide (q.criteria.moved old new ≠ q.criteria)
  have split := List.countP_eq_countP_filter_add r.queries.items affected changed
  rw [List.countP_filter, List.countP_filter] at split
  have shown : r.queries.items.countP (fun q => affected q && changed q) =
      r.queries.items.countP changed := by
    refine List.countP_congr fun q _ => ?_
    rw [Bool.and_eq_true, decide_eq_true_eq]
    exact and_iff_right_of_imp Criteria.isSome_moved?_of_ne
  have hidden : r.queries.items.countP (fun q => affected q && !changed q) =
      r.queries.items.countP fun q => q.criteria.moved? old new = some q.criteria := by
    refine List.countP_congr fun q _ => ?_
    rw [Bool.and_eq_true, Bool.not_eq_true', decide_eq_false_iff_not, Decidable.not_not,
      decide_eq_true_eq]
    exact Criteria.moved?_eq_some_self_iff.symm
  rw [moveCount, split, shown, hidden, length_changedTexts]

/-- Every query whose text a move changes is counted. A counted query keeps its text exactly when
each of its tests that refer to the old project begins with the segments of the new one already, and
then the two projects differ in case alone. -/
theorem moveCount_eq_iff (r : Registry) (old new : String) :
    (r.changedTexts (r.move old new)).length ≤ r.moveCount old new ∧
      (r.moveCount old new = (r.changedTexts (r.move old new)).length ↔
        ∀ q ∈ r.queries.items, Criteria.TakesEffect old new →
          q.criteria.isUsing (ofText old) = true →
          ∃ t, .project t ∈ q.criteria.leaves ∧ t.path.RefersTo (ofText old) ∧
            t.path.take (ofText old).length ≠ ofText new) ∧
      ((ofText old).folded ≠ (ofText new).folded →
        r.moveCount old new = (r.changedTexts (r.move old new)).length) := by
  have total := r.moveCount_eq_add old new
  have agree_iff : r.moveCount old new = (r.changedTexts (r.move old new)).length ↔
      ∀ q ∈ r.queries.items, q.criteria.moved? old new ≠ some q.criteria := by
    rw [total, Nat.add_eq_left, List.countP_eq_zero]
    simp only [decide_eq_true_eq]
  refine ⟨total ▸ Nat.le_add_right _ _, ?_, fun differ => agree_iff.2 fun q _ => ?_⟩
  · rw [agree_iff]
    simp only [Criteria.moved?_ne_some_self_iff]
  · rw [Criteria.moved?_ne_some_self_iff]
    intro _ used
    obtain ⟨t, ht, refers⟩ := Criteria.isUsing_iff.1 used
    exact ⟨t, ht, refers, fun same => differ (same ▸ refers.folded_take.symm)⟩

/-- The case of a project is changed in a query that spells it in a third way, and a project moves
to another place. -/
theorem moveCount_eq_iff_of_team :
    let test (path : String) (h : ofText path ≠ []) : Criteria :=
      .leaf (.project ⟨.ofText path, ⟨.is, .natural⟩, by decide, h⟩)
    let r := (empty.register ⟨"moves", .not (test "TEAM/app/**" (by decide)), ["ann"]⟩).register
      ⟨"stays", test "ops" (by decide), []⟩
    r.moveCount "team" "Team" = 1 ∧
      (r.changedTexts (r.move "team" "Team")).length = 1 ∧
      (ofText "ops").folded ≠ (ofText "org").folded ∧
      r.moveCount "ops" "org" = (r.changedTexts (r.move "ops" "org")).length := by
  intro test r
  have count : r.moveCount "team" "Team" = 1 := by decide
  have respelled : ∀ q ∈ r.queries.items, Criteria.TakesEffect "team" "Team" →
      q.criteria.isUsing (ofText "team") = true →
      ∃ t, .project t ∈ q.criteria.leaves ∧ t.path.RefersTo (ofText "team") ∧
        t.path.take (ofText "team").length ≠ ofText "Team" := by
    intro q hq _ used
    rcases mem_of_mem_insertBy hq with rfl | hq
    · exact absurd used (by decide)
    · obtain rfl := List.mem_singleton.1 hq
      exact ⟨⟨.ofText "TEAM/app/**", ⟨.is, .natural⟩, by decide, by decide⟩, by decide⟩
  have differ : (ofText "ops").folded ≠ (ofText "org").folded := by decide
  refine ⟨count, ?_, differ, (moveCount_eq_iff r "ops" "org").2.2 differ⟩
  exact ((moveCount_eq_iff r "team" "Team").2.1.2 respelled).symm.trans count

/-- A query that was read from a text and spells a project in its new way already is counted when
the case of the project changes, and its text stays as it is. -/
theorem moveCount_of_spelled_already :
    ∃ q, SavedQuery.parse "app" "\"Project\" is \"team/app\"" [] = .ok q ∧
      (empty.after [.register q]).moveCount "TEAM" "team" = 1 ∧
      (empty.after [.register q]).changedTexts ((empty.after [.register q]).move "TEAM" "team") =
        [] := by
  let c : Criteria :=
    .leaf (.project ⟨.ofText "team/app", ⟨.is, .natural⟩, by decide, by decide⟩)
  have text : c.render = "\"Project\" is \"team/app\"" := by decide
  have read : Criteria.parse "\"Project\" is \"team/app\"" = .ok c := text ▸ c.parse_render
  exact ⟨⟨"app", c, []⟩, bind_eq_ok_iff.2 ⟨c, read, rfl⟩, by decide, by decide⟩

end Registry

end BuildQuery
