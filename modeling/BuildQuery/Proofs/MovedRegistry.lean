import BuildQuery.Proofs.RepeatedMoves
import BuildQuery.Registry

/-!
# Moves of projects in a registry

A move acts on every query of a registry by itself and keeps the names
(`namesWhere_move`, `moveCount_eq_zero_iff`). Main statements: after a move between unrelated paths
nothing refers to the old project, and the same move has nothing left to do (`usersOf_move`); moves
between unrelated projects come to the same in either order (`move_comm`).
-/

namespace BuildQuery

open ProjectPath (ofText normalize Unrelated)

namespace Registry

variable {r : Registry} {old new : String}

/-- A registry is determined by its queries. -/
theorem eq_of_items_eq {r r' : Registry} (h : r.queries.items = r'.queries.items) : r = r' := by
  obtain ⟨⟨items, _⟩⟩ := r
  obtain ⟨⟨items', _⟩⟩ := r'
  obtain rfl : items = items' := h
  rfl

@[simp] theorem items_move (r : Registry) (old new : String) :
    (r.move old new).queries.items = r.queries.items.map fun q => q.moved old new := rfl

/-- What is asked of the queries after a move can be asked of the moved queries. -/
theorem namesWhere_move (r : Registry) (old new : String) (p : SavedQuery → Bool) :
    (r.move old new).namesWhere p = r.namesWhere fun q => p (q.moved old new) := by
  rw [namesWhere, items_move, List.filter_map, List.map_map]
  rfl

theorem mem_namesWhere_iff {p : SavedQuery → Bool} {q : SavedQuery} (hq : q ∈ r.queries.items) :
    q.name ∈ r.namesWhere p ↔ p q = true := by
  rw [namesWhere, List.mem_map]
  constructor
  · rintro ⟨q', hq', e⟩
    obtain ⟨mem, holds⟩ := List.mem_filter.1 hq'
    rwa [← r.queries.eq_of_name_eq mem hq e]
  · exact fun h => ⟨q, List.mem_filter.2 ⟨hq, h⟩, rfl⟩

theorem namesWhere_eq_nil {p : SavedQuery → Bool} (h : ∀ q, p q = false) : r.namesWhere p = [] := by
  rw [namesWhere, List.map_eq_nil_iff, List.filter_eq_nil_iff]
  exact fun q _ => Bool.eq_false_iff.1 (h q)

/-- The names under either of two conditions, in order. -/
theorem filter_names_eq_namesWhere (p p' : SavedQuery → Bool) :
    r.names.filter (fun n => n ∈ r.namesWhere p ∨ n ∈ r.namesWhere p') =
      r.namesWhere fun q => p q || p' q := by
  rw [names, SortedBy.names, List.filter_map]
  refine congrArg (List.map SavedQuery.name) (List.filter_congr fun q hq => ?_)
  rw [Bool.eq_iff_iff, Function.comp_apply, decide_eq_true_eq, mem_namesWhere_iff hq,
    mem_namesWhere_iff hq, Bool.or_eq_true]

theorem moveCount_eq_zero_iff :
    r.moveCount old new = 0 ↔ ∀ q ∈ r.queries.items, q.criteria.moved? old new = none := by
  rw [moveCount, List.countP_eq_zero]
  simp only [Option.not_isSome_iff_eq_none]

/-- A move that affects no query changes nothing. -/
theorem move_eq_self (h : ∀ q ∈ r.queries.items, q.criteria.moved? old new = none) :
    r.move old new = r := by
  refine eq_of_items_eq ?_
  have still : ∀ q ∈ r.queries.items, q.moved old new = q := fun q hq =>
    congrArg (SavedQuery.mk q.name · q.subscribers) (Criteria.moved_of_moved?_eq_none (h q hq))
  rw [items_move, List.map_congr_left still, List.map_id']

/-! ## What a move leaves behind -/

/-- After a move between unrelated paths no query refers to the old project. The new one has the
users that either had before, the same move affects nothing any more, and it gives back every query
itself. -/
theorem usersOf_move (r : Registry) {old new : String} {target : ProjectPath}
    (proper : normalize new = .ok target) (apart : Unrelated (ofText old) (ofText new)) :
    (r.move old new).usersOf old = [] ∧
      (r.move old new).usersOf new =
        r.names.filter (fun n => n ∈ r.usersOf old ∨ n ∈ r.usersOf new) ∧
      (r.move old new).moveCount old new = 0 ∧
      (∀ q ∈ (r.move old new).queries.items, q.criteria.moved? old new = none) ∧
      (r.move old new).move old new = r.move old new := by
  have effect : Criteria.TakesEffect old new :=
    ⟨⟨target, proper⟩,
      ProjectPath.ne_of_unrelated apart (Criteria.ofText_ne_nil_of_normalize proper)⟩
  have gone (q : SavedQuery) : (q.moved old new).criteria.isUsing (ofText old) = false := by
    rw [SavedQuery.criteria_moved, Criteria.isUsing_moved_old effect apart]
  have arrived (q : SavedQuery) : (q.moved old new).criteria.isUsing (ofText new) =
      (q.criteria.isUsing (ofText old) || q.criteria.isUsing (ofText new)) := by
    rw [SavedQuery.criteria_moved, Criteria.isUsing_moved_new effect]
  have settled : ∀ q ∈ (r.move old new).queries.items, q.criteria.moved? old new = none := by
    intro q hq
    obtain ⟨before, -, rfl⟩ := List.mem_map.1 hq
    exact (Criteria.moved?_eq_none_iff_of_takesEffect effect).2 (gone before)
  refine ⟨?_, ?_, moveCount_eq_zero_iff.2 settled, settled, move_eq_self settled⟩
  · rw [usersOf, namesWhere_move]
    exact namesWhere_eq_nil gone
  · rw [usersOf, namesWhere_move, usersOf, usersOf, filter_names_eq_namesWhere]
    exact congrArg r.namesWhere (funext arrived)

/-- A project moves to a place where its own path is repeated, and one query refers to that place
already. -/
theorem usersOf_move_of_team :
    let test (path : String) (h : ofText path ≠ []) : Criteria :=
      .leaf (.project ⟨.ofText path, ⟨.is, .natural⟩, by decide, h⟩)
    let r := ((empty.register ⟨"moves", .not (test "TEAM/App/**" (by decide)), ["ann"]⟩).register
      ⟨"stays", test "team" (by decide), []⟩).register
      ⟨"there", test "org/Team/app" (by decide), []⟩
    Unrelated (ofText "team/app") (ofText "org/team/app") ∧
      (r.move "team/app" "org/team/app").usersOf "team/app" = [] ∧
      (r.move "team/app" "org/team/app").usersOf "org/team/app" = ["moves", "there"] ∧
      r.moveCount "team/app" "org/team/app" = 1 ∧
      (r.move "team/app" "org/team/app").moveCount "team/app" "org/team/app" = 0 := by
  intro test r
  have proper : normalize "org/team/app" = .ok (ofText "org/team/app") := rfl
  have apart : Unrelated (ofText "team/app") (ofText "org/team/app") := by decide
  have after := usersOf_move r proper apart
  have before : r.names.filter
      (fun n => n ∈ r.usersOf "team/app" ∨ n ∈ r.usersOf "org/team/app") = ["moves", "there"] := by
    decide
  exact ⟨apart, after.1, after.2.1.trans before, by decide, after.2.2.1⟩

/-! ## Moves in either order -/

theorem moveCount_move (r : Registry) {a b c d : String} (ac : Unrelated (ofText a) (ofText c))
    (bc : Unrelated (ofText b) (ofText c)) :
    (r.move a b).moveCount c d = r.moveCount c d := by
  rw [moveCount, moveCount, items_move, List.countP_map]
  refine List.countP_congr fun q _ => Bool.eq_iff_iff.1 ?_
  rw [Function.comp_apply, SavedQuery.criteria_moved, Criteria.isSome_moved?_moved ac bc]

/-- Moves that have nothing to do with each other come to the same in either order, and each of them
affects as many queries as without the other. -/
theorem move_comm (r : Registry) {a b c d : String} (ac : Unrelated (ofText a) (ofText c))
    (bc : Unrelated (ofText b) (ofText c)) (da : Unrelated (ofText d) (ofText a)) :
    (r.move a b).move c d = (r.move c d).move a b ∧
      (r.move c d).moveCount a b = r.moveCount a b ∧
      (r.move a b).moveCount c d = r.moveCount c d := by
  refine ⟨eq_of_items_eq ?_, moveCount_move r ac.symm da, moveCount_move r ac bc⟩
  simp only [items_move, List.map_map]
  refine List.map_congr_left fun q _ => ?_
  simp only [Function.comp_apply, SavedQuery.moved, Criteria.moved_comm ac bc da]

/-- Two projects move, one of them to a place below the other's new one. -/
theorem move_comm_of_team :
    let test (path : String) (h : ofText path ≠ []) : Criteria :=
      .leaf (.project ⟨.ofText path, ⟨.is, .natural⟩, by decide, h⟩)
    let r := (empty.register
      ⟨"both", .or (test "team/App" (by decide)) (test "OPS/x/*" (by decide)), []⟩).register
      ⟨"first", test "TEAM/app/**" (by decide), ["ann"]⟩
    Unrelated (ofText "team/app") (ofText "ops/x") ∧ Unrelated (ofText "org") (ofText "ops/x") ∧
      Unrelated (ofText "org/team") (ofText "team/app") ∧
      (r.move "team/app" "org").move "ops/x" "org/team" =
        (r.move "ops/x" "org/team").move "team/app" "org" ∧
      (r.move "ops/x" "org/team").moveCount "team/app" "org" = 2 ∧
      (r.move "team/app" "org").moveCount "ops/x" "org/team" = 1 := by
  intro test r
  have sources : Unrelated (ofText "team/app") (ofText "ops/x") := by decide
  have second : Unrelated (ofText "org") (ofText "ops/x") := by decide
  have first : Unrelated (ofText "org/team") (ofText "team/app") := by decide
  have either := move_comm r sources second first
  have counts : r.moveCount "team/app" "org" = 2 ∧ r.moveCount "ops/x" "org/team" = 1 := by decide
  exact ⟨sources, second, first, either.1, either.2.1.trans counts.1, either.2.2.trans counts.2⟩

end Registry

end BuildQuery
