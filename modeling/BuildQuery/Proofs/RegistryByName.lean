import BuildQuery.Handle
import BuildQuery.Proofs.ByteOrder
import BuildQuery.Proofs.RegistryHistory

/-!
# The registry as the history of its names

What a registry holds under a name is told by the operations on it. It is the query that was
registered last under that name, after all moves since then, unless the name was removed in the
meantime (`get?_after_eq_some_iff`, `get?_after_eq_none_iff`): an operation on another name leaves
the query alone, and a move reaches it once (`Operation.get?_apply_of_not_concerns`). Main
statement: the same is true of a registry that is used through handles, whatever calls on other
registries come in between (`shared_registry_is_history`).
-/

namespace BuildQuery

namespace Operation

/-- Whether an operation registers a query under a name. -/
def Registers (name : String) : Operation → Prop
  | register q => q.name = name
  | remove _ | move .. => False

/-- Whether an operation registers a query under a name or removes that name. -/
def Concerns (name : String) : Operation → Prop
  | register q => q.name = name
  | remove n => n = name
  | move .. => False

instance (name : String) : DecidablePred (Registers name)
  | register q => inferInstanceAs (Decidable (q.name = name))
  | remove _ | move .. => inferInstanceAs (Decidable False)

instance (name : String) : DecidablePred (Concerns name)
  | register q => inferInstanceAs (Decidable (q.name = name))
  | remove n => inferInstanceAs (Decidable (n = name))
  | move .. => inferInstanceAs (Decidable False)

/-- The moves among operations, in order. -/
def moves (ops : List Operation) : List Move :=
  ops.filterMap fun
    | move old new => some (.copied old new)
    | register _ | remove _ => none

theorem moves_append (ops ops' : List Operation) : moves (ops ++ ops') = moves ops ++ moves ops' :=
  List.filterMap_append

/-- Whether a name was never registered, or was removed after it was registered last. -/
def Missing (name : String) (ops : List Operation) : Prop :=
  (∀ op ∈ ops, ¬ op.Registers name) ∨
    ∃ before later, ops = before ++ remove name :: later ∧ ∀ op ∈ later, ¬ op.Registers name

/-- Whether a query is the last one that was registered under its name and the name was not removed
after it, when the given operations came later. -/
def LastRegistered (q : SavedQuery) (ops later : List Operation) : Prop :=
  (∃ before, ops = before ++ register q :: later) ∧ ∀ op ∈ later, ¬ op.Concerns q.name

/-- Either a name is missing or some query was registered last under it. -/
theorem missing_or_lastRegistered (name : String) (ops : List Operation) :
    Missing name ops ∨ ∃ q later, LastRegistered q ops later ∧ q.name = name := by
  induction ops with
  | nil => exact .inl (.inl nofun)
  | cons op ops ih =>
    rcases ih with (never | ⟨before, later, rfl, clear⟩) | ⟨q, later, ⟨⟨before, rfl⟩, clear⟩, named⟩
    · by_cases first : op.Registers name
      · cases op with
        | register q =>
          by_cases removed : ∃ n, n = name ∧ remove n ∈ ops
          · obtain ⟨n, rfl, mem⟩ := removed
            obtain ⟨before, later, rfl⟩ := List.append_of_mem mem
            refine .inl (.inr ⟨register q :: before, later, rfl, fun op hop => never op ?_⟩)
            exact List.mem_append_right _ (List.mem_cons_of_mem _ hop)
          · refine .inr ⟨q, ops, ⟨⟨[], rfl⟩, fun op hop concerns => ?_⟩, first⟩
            cases op with
            | register p => exact never _ hop (concerns.trans first)
            | remove n => exact removed ⟨n, concerns.trans first, hop⟩
            | move old new => exact concerns
        | remove n => exact first.elim
        | move old new => exact first.elim
      · exact .inl (.inl (List.forall_mem_cons.2 ⟨first, never⟩))
    · exact .inl (.inr ⟨op :: before, later, rfl, clear⟩)
    · exact .inr ⟨q, later, ⟨⟨op :: before, rfl⟩, clear⟩, named⟩

end Operation

/-- The saved query after several moves, one after the other. -/
def SavedQuery.afterMoves (q : SavedQuery) (moves : List Move) : SavedQuery :=
  { q with criteria := Move.applyAll moves q.criteria }

theorem SavedQuery.afterMoves_afterMoves (q : SavedQuery) (ms ms' : List Move) :
    (q.afterMoves ms).afterMoves ms' = q.afterMoves (ms ++ ms') := by
  simp only [afterMoves, Move.applyAll, List.foldl_append]

open Operation (Registers Concerns Missing LastRegistered moves moves_append
  missing_or_lastRegistered)

/-! ## One operation -/

namespace Registry

variable {r : Registry} {name : String}

theorem get?_register_self (r : Registry) (q : SavedQuery) :
    (r.register q).get? q.name = some q :=
  r.queries.get?_insert_self q

theorem get?_register_of_ne {q : SavedQuery} (h : q.name ≠ name) :
    (r.register q).get? name = r.get? name :=
  r.queries.get?_insert_of_ne h

theorem get?_remove_self (r : Registry) (name : String) : (r.remove name).get? name = none :=
  r.queries.get?_erase_self name

theorem get?_remove_of_ne {n : String} (h : n ≠ name) : (r.remove n).get? name = r.get? name :=
  r.queries.get?_erase_of_ne h

theorem get?_move (r : Registry) (old new name : String) :
    (r.move old new).get? name = (r.get? name).map fun q => q.moved old new :=
  r.queries.get?_map (f := fun q => q.moved old new) (fun _ => rfl) name

theorem names_move (r : Registry) (old new : String) : (r.move old new).names = r.names :=
  r.queries.names_map (f := fun q => q.moved old new) fun _ => rfl

theorem get?_eq_some_iff {q : SavedQuery} :
    r.get? name = some q ↔ q ∈ r.queries.items ∧ q.name = name :=
  SortedBy.get?_eq_some_iff

theorem mem_names_iff : name ∈ r.names ↔ (r.get? name).isSome :=
  SortedBy.mem_names_iff

/-- The names ascend in the order of their bytes. -/
theorem pairwise_names (r : Registry) :
    r.names.Pairwise fun n n' => Text.utf8 n < Text.utf8 n' :=
  List.pairwise_map.2 (r.queries.ascending.imp Text.utf8_lt)

end Registry

/-- An operation that is not about a name leaves the query of the name as it is, but for a move. -/
theorem Operation.get?_apply_of_not_concerns {op : Operation} {name : String}
    (h : ¬ op.Concerns name) (r : Registry) :
    (op.apply r).get? name = (r.get? name).map fun q => q.afterMoves (moves [op]) := by
  cases op with
  | register q => exact (Registry.get?_register_of_ne h).trans Option.map_id'.symm
  | remove n => exact (Registry.get?_remove_of_ne h).trans Option.map_id'.symm
  | move old new => exact r.get?_move old new name

/-! ## A history of operations -/

namespace Registry

variable {r : Registry} {name : String} {ops later : List Operation}

theorem after_cons (r : Registry) (op : Operation) (ops : List Operation) :
    r.after (op :: ops) = (op.apply r).after ops := rfl

theorem after_append (r : Registry) (ops ops' : List Operation) :
    r.after (ops ++ ops') = (r.after ops).after ops' :=
  List.foldl_append

/-- Operations that are not about a name leave the query of the name as it is, but for the moves. -/
theorem get?_after_of_not_concerns (h : ∀ op ∈ ops, ¬ op.Concerns name) (r : Registry) :
    (r.after ops).get? name = (r.get? name).map fun q => q.afterMoves (moves ops) := by
  induction ops generalizing r with
  | nil => exact Option.map_id'.symm
  | cons op ops ih =>
    obtain ⟨first, rest⟩ := List.forall_mem_cons.1 h
    rw [after_cons, ih rest, Operation.get?_apply_of_not_concerns first, Option.map_map]
    simp only [Function.comp_def, SavedQuery.afterMoves_afterMoves, ← moves_append,
      List.singleton_append]

/-- A name that is missing stays so until it is registered. -/
theorem get?_after_eq_none (h : ∀ op ∈ ops, ¬ op.Registers name) (missing : r.get? name = none) :
    (r.after ops).get? name = none := by
  induction ops generalizing r with
  | nil => exact missing
  | cons op ops ih =>
    obtain ⟨first, rest⟩ := List.forall_mem_cons.1 h
    refine ih (r := op.apply r) rest ?_
    cases op with
    | register q => exact (get?_register_of_ne first).trans missing
    | remove n =>
      by_cases e : n = name
      · exact e ▸ r.get?_remove_self n
      · exact (get?_remove_of_ne e).trans missing
    | move old new => exact (r.get?_move old new name).trans (congrArg _ missing)

theorem get?_after_of_missing (h : Missing name ops) : (empty.after ops).get? name = none := by
  rcases h with never | ⟨before, later, rfl, clear⟩
  · exact get?_after_eq_none never rfl
  · rw [after_append]
    exact get?_after_eq_none (r := (empty.after before).remove name) clear (get?_remove_self _ name)

theorem get?_after_of_lastRegistered {q : SavedQuery} (h : LastRegistered q ops later)
    (r : Registry) : (r.after ops).get? q.name = some (q.afterMoves (moves later)) := by
  obtain ⟨⟨before, rfl⟩, clear⟩ := h
  rw [after_append]
  refine (get?_after_of_not_concerns clear ((r.after before).register q)).trans ?_
  rw [get?_register_self, Option.map_some]

/-- A new registry lacks just the names that were never registered or removed since. -/
theorem get?_after_eq_none_iff : (empty.after ops).get? name = none ↔ Missing name ops := by
  refine ⟨fun none => ?_, get?_after_of_missing⟩
  rcases missing_or_lastRegistered name ops with missing | ⟨q, later, last, rfl⟩
  · exact missing
  · rw [get?_after_of_lastRegistered last] at none
    contradiction

/-- A new registry holds under a name the query that was registered last, after the moves since. -/
theorem get?_after_eq_some_iff {q : SavedQuery} :
    (empty.after ops).get? name = some q ↔
      ∃ p later, LastRegistered p ops later ∧ p.name = name ∧ q = p.afterMoves (moves later) := by
  constructor
  · intro some
    rcases missing_or_lastRegistered name ops with missing | ⟨p, later, last, rfl⟩
    · rw [get?_after_of_missing missing] at some
      contradiction
    · rw [get?_after_of_lastRegistered last] at some
      exact ⟨p, later, last, rfl, (Option.some.inj some).symm⟩
  · rintro ⟨p, later, last, rfl, rfl⟩
    exact get?_after_of_lastRegistered last empty

end Registry

/-! ## Registries used through handles -/

/-- An operation that is called through a handle. -/
structure Call where
  handle : Handle
  operation : Operation

/-- The operations that are called through a handle or its clones, in order. -/
def Call.through (h : Handle) (calls : List Call) : List Operation :=
  (calls.filter fun c => c.handle = h).map Call.operation

/-- The shelf after calls, in the order in which they got hold of their registries. -/
def Shelf.run (s : Shelf) (calls : List Call) : Shelf :=
  calls.foldl (fun s c => s.update c.handle fun r => c.operation.apply r) s

theorem Shelf.run_cons (s : Shelf) (c : Call) (calls : List Call) :
    s.run (c :: calls) = (s.update c.handle fun r => c.operation.apply r).run calls := rfl

/-- A registry goes through the operations that are called through its handles, and no others. -/
theorem Shelf.get?_run (s : Shelf) (calls : List Call) (h : Handle) :
    (s.run calls).get? h = (s.get? h).map fun r => r.after (Call.through h calls) := by
  induction calls generalizing s with
  | nil => exact Option.map_id'.symm
  | cons c calls ih =>
    rw [run_cons, ih, Call.through, Call.through, List.filter_cons]
    by_cases e : c.handle = h
    · rw [if_pos (decide_eq_true e), e, get?_update_self, Option.map_map]
      rfl
    · rw [if_neg (by simpa using e), get?_update_of_ne _ e]

/-- A new registry that is used through handles holds every query under its own name, its names are
those that it holds a query under, in ascending order of their bytes, and what it holds under a name
is told by the calls through the handle: nothing if the name was never registered or was removed
after that, and else the query that was registered last, after all moves since. At any time
registering and removing give back what was held under the name and leave every other name alone,
and a move keeps the names. -/
theorem shared_registry_is_history (s : Shelf) (calls : List Call) :
    let handle := (s.put .empty).2
    let ops := Call.through handle calls
    ∃ r, ((s.put .empty).1.run calls).get? handle = some r ∧
      (∀ name q, r.get? name = some q ↔ q ∈ r.queries.items ∧ q.name = name) ∧
      (∀ name, name ∈ r.names ↔ (r.get? name).isSome) ∧
      r.names.Pairwise (fun n n' => Text.utf8 n < Text.utf8 n') ∧
      (∀ name, r.get? name = none ↔ Missing name ops) ∧
      (∀ name q, r.get? name = some q ↔
        ∃ p later, LastRegistered p ops later ∧ p.name = name ∧ q = p.afterMoves (moves later)) ∧
      (∀ q, r.replaced? q = r.get? q.name) ∧
      (∀ name, r.removed? name = r.get? name) ∧
      (∀ q name, q.name ≠ name → (r.register q).get? name = r.get? name) ∧
      (∀ n name, n ≠ name → (r.remove n).get? name = r.get? name) ∧
      ∀ old new, (r.move old new).names = r.names := by
  intro handle ops
  let r := Registry.empty.after ops
  refine ⟨r, ?_, fun _ _ => Registry.get?_eq_some_iff, fun _ => Registry.mem_names_iff,
    r.pairwise_names, fun _ => Registry.get?_after_eq_none_iff,
    fun _ _ => Registry.get?_after_eq_some_iff, r.queries.replaced?_eq_get?,
    r.queries.erased?_eq_get?, ?others, ?removed, r.names_move⟩
  · rw [Shelf.get?_run, Shelf.get?_put_self, Option.map_some]
  case others => exact fun _ _ => Registry.get?_register_of_ne
  case removed => exact fun _ _ => Registry.get?_remove_of_ne

/-- Two names in one registry, while somebody else uses another registry. One name is registered
again between two moves, the other is removed. -/
theorem shared_registry_is_history_of_two_names :
    let test (path : String) (h : ProjectPath.ofText path ≠ []) : Criteria :=
      .leaf (.project ⟨.ofText path, ⟨.is, .natural⟩, by decide, h⟩)
    let first : SavedQuery := ⟨"a", test "team" (by decide), ["ann"]⟩
    let again : SavedQuery := ⟨"a", test "Team/app" (by decide), ["bob"]⟩
    let other : SavedQuery := ⟨"b", test "team" (by decide), []⟩
    let s := (Shelf.empty.put .empty).1
    let theirs := (Shelf.empty.put .empty).2
    let ours := (s.put .empty).2
    let calls : List Call :=
      [⟨ours, .register first⟩, ⟨ours, .register other⟩, ⟨ours, .move "team" "org"⟩,
        ⟨theirs, .remove "a"⟩, ⟨ours, .register again⟩, ⟨theirs, .register other⟩,
        ⟨ours, .remove "b"⟩, ⟨ours, .move "team" "ops/x"⟩]
    ∃ r, ((s.put .empty).1.run calls).get? ours = some r ∧ r.get? "b" = none ∧
      r.get? "a" = some ⟨"a", test "ops/x/app" (by decide), ["bob"]⟩ ∧
      "a" ∈ r.names ∧ "b" ∉ r.names ∧ (r.register other).get? "a" = r.get? "a" := by
  intro test first again other s theirs ours calls
  obtain ⟨r, here, -, named, -, missing, held, -, -, others, -⟩ :=
    shared_registry_is_history s calls
  have removed : Missing "b" (Call.through ours calls) :=
    .inr ⟨[.register first, .register other, .move "team" "org", .register again],
      [.move "team" "ops/x"], rfl, by decide⟩
  have last : LastRegistered again (Call.through ours calls) [.remove "b", .move "team" "ops/x"] :=
    ⟨⟨[.register first, .register other, .move "team" "org"], rfl⟩, by decide⟩
  have moved : again.afterMoves (moves [.remove "b", .move "team" "ops/x"]) =
      ⟨"a", test "ops/x/app" (by decide), ["bob"]⟩ := by decide
  have without : r.get? "b" = none := (missing "b").2 removed
  have found := (held "a" _).2 ⟨again, _, last, rfl, moved.symm⟩
  refine ⟨r, here, without, found, (named "a").2 (Option.isSome_of_mem found), ?_,
    others other "a" (by decide)⟩
  rw [named, without]
  exact Bool.false_ne_true

end BuildQuery
