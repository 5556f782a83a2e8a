import BuildQuery.Criteria.Writing
import BuildQuery.Proofs.LeafwiseMoves

/-!
# One move after another

Two paths are unrelated when neither lies within the other. A path cannot begin with the segments of
both (`not_refersTo_of_unrelated`), and from this follows what a second move does to a path that a
first one may have changed. Main statements: moves to and from a project that a query does not refer
to act as one move, and take each other back (`moved_moved`); moves between unrelated paths can
change places (`moved_comm`).
-/

namespace BuildQuery

/-! ## Paths -/

namespace ProjectPath

variable {path old new p q a b c d : ProjectPath}

theorem replaceFront_of_refersTo (h : path.RefersTo old) (full : new ≠ []) :
    path.replaceFront old new = new ++ path.drop old.length :=
  if_pos ⟨h, full⟩

theorem replaceFront_of_not_refersTo (h : ¬ path.RefersTo old) (new : ProjectPath) :
    path.replaceFront old new = path :=
  if_neg fun he => h he.1

theorem refersTo_append (full : new ≠ []) (rest : ProjectPath) : RefersTo (new ++ rest) new := by
  refine ⟨full, ?_⟩
  rw [folded_append]
  exact List.prefix_append _ _

/-- Whether neither path is the other one or lies below it. -/
def Unrelated (p q : ProjectPath) : Prop := p.isWithin q = false ∧ q.isWithin p = false

instance (p q : ProjectPath) : Decidable (p.Unrelated q) :=
  inferInstanceAs (Decidable (_ ∧ _))

theorem Unrelated.symm (h : p.Unrelated q) : q.Unrelated p := And.symm h

/-- Of two beginnings of a path, one begins with the other. -/
theorem not_refersTo_of_unrelated (h : p.Unrelated q) (hp : path.RefersTo p) :
    ¬ path.RefersTo q := by
  intro hq
  rcases isWithin_or_isWithin (isWithin_iff.2 hp) (isWithin_iff.2 hq) with inside | inside
  · exact Bool.eq_false_iff.1 h.1 inside
  · exact Bool.eq_false_iff.1 h.2 inside

theorem ne_of_unrelated (h : old.Unrelated new) (full : new ≠ []) : old ≠ new := by
  rintro rfl
  exact Bool.eq_false_iff.1 h.1 (isWithin_self full)

/-! ### What a path refers to after a move -/

theorem not_refersTo_replaceFront_old (h : old.Unrelated new) (full : new ≠ []) :
    ¬ (path.replaceFront old new).RefersTo old := by
  by_cases ho : path.RefersTo old
  · rw [replaceFront_of_refersTo ho full]
    exact not_refersTo_of_unrelated h.symm (refersTo_append full _)
  · rwa [replaceFront_of_not_refersTo ho]

theorem refersTo_replaceFront_new_iff (full : new ≠ []) :
    (path.replaceFront old new).RefersTo new ↔ path.RefersTo old ∨ path.RefersTo new := by
  by_cases ho : path.RefersTo old
  · rw [replaceFront_of_refersTo ho full]
    exact iff_of_true (refersTo_append full _) (.inl ho)
  · rw [replaceFront_of_not_refersTo ho, or_iff_right ho]

theorem refersTo_replaceFront_iff (ac : a.Unrelated c) (bc : b.Unrelated c) (full : b ≠ []) :
    (path.replaceFront a b).RefersTo c ↔ path.RefersTo c := by
  by_cases ha : path.RefersTo a
  · rw [replaceFront_of_refersTo ha full]
    exact iff_of_false (not_refersTo_of_unrelated bc (refersTo_append full _))
      (not_refersTo_of_unrelated ac ha)
  · rw [replaceFront_of_not_refersTo ha]

/-! ### Two moves of a path -/

/-- A path that did not refer to `b` does so after the first move only if that one changed it. -/
theorem replaceFront_replaceFront (unused : ¬ path.RefersTo b) (hb : b ≠ []) (hc : c ≠ []) :
    (path.replaceFront a b).replaceFront b c = path.replaceFront a c := by
  by_cases ha : path.RefersTo a
  · rw [replaceFront_of_refersTo ha hb, replaceFront_of_refersTo (refersTo_append hb _) hc,
      List.drop_left, replaceFront_of_refersTo ha hc]
  · rw [replaceFront_of_not_refersTo ha, replaceFront_of_not_refersTo unused,
      replaceFront_of_not_refersTo ha]

theorem replaceFront_self (spelled : path.RefersTo a → a <+: path) :
    path.replaceFront a a = path := by
  by_cases ha : path.RefersTo a
  · obtain ⟨rest, rfl⟩ := spelled ha
    rw [replaceFront_of_refersTo ha ha.1, List.drop_left]
  · exact replaceFront_of_not_refersTo ha a

theorem replaceFront_comm (ac : a.Unrelated c) (bc : b.Unrelated c) (da : d.Unrelated a)
    (hb : b ≠ []) (hd : d ≠ []) :
    (path.replaceFront a b).replaceFront c d = (path.replaceFront c d).replaceFront a b := by
  by_cases ha : path.RefersTo a
  · have not_c : ¬ path.RefersTo c := not_refersTo_of_unrelated ac ha
    have still_not_c := mt (refersTo_replaceFront_iff ac bc hb).1 not_c
    rw [replaceFront_of_not_refersTo not_c, replaceFront_of_not_refersTo still_not_c]
  · have still_not_a := mt (refersTo_replaceFront_iff ac.symm da hd).1 ha
    rw [replaceFront_of_not_refersTo ha, replaceFront_of_not_refersTo still_not_a]

end ProjectPath

/-! ## Leaves -/

namespace Leaf

variable {l : Leaf} {old new a b c d : ProjectPath}

theorem isUsing_project_iff {t : ProjectTest} {p : ProjectPath} :
    (project t).isUsing p = true ↔ t.path.RefersTo p :=
  ProjectPath.isWithin_iff

theorem isUsing_replaceFront_project_iff {t : ProjectTest} {p : ProjectPath} :
    ((project t).replaceFront old new).isUsing p = true ↔
      (t.path.replaceFront old new).RefersTo p :=
  ProjectPath.isWithin_iff

theorem isUsing_replaceFront_old (h : old.Unrelated new) (full : new ≠ []) :
    (l.replaceFront old new).isUsing old = false := by
  cases l with
  | project t =>
    rw [← Bool.not_eq_true, isUsing_replaceFront_project_iff]
    exact ProjectPath.not_refersTo_replaceFront_old h full
  | text | number | status | date | submittedByMe => rfl

theorem isUsing_replaceFront_new (full : new ≠ []) :
    (l.replaceFront old new).isUsing new = (l.isUsing old || l.isUsing new) := by
  cases l with
  | project t =>
    rw [Bool.eq_iff_iff, Bool.or_eq_true, isUsing_replaceFront_project_iff, isUsing_project_iff,
      isUsing_project_iff]
    exact ProjectPath.refersTo_replaceFront_new_iff full
  | text | number | status | date | submittedByMe => rfl

theorem isUsing_replaceFront (ac : a.Unrelated c) (bc : b.Unrelated c) (full : b ≠ []) :
    (l.replaceFront a b).isUsing c = l.isUsing c := by
  cases l with
  | project t =>
    rw [Bool.eq_iff_iff, isUsing_replaceFront_project_iff, isUsing_project_iff]
    exact ProjectPath.refersTo_replaceFront_iff ac bc full
  | text | number | status | date | submittedByMe => rfl

theorem replaceFront_replaceFront (unused : l.isUsing b = false) (hb : b ≠ []) (hc : c ≠ []) :
    (l.replaceFront a b).replaceFront b c = l.replaceFront a c := by
  cases l with
  | project t =>
    have unused : ¬ t.path.RefersTo b := isUsing_eq_false_iff.1 unused t rfl
    have same := ProjectPath.replaceFront_replaceFront (a := a) unused hb hc
    exact congrArg project (ProjectTest.ext same rfl)
  | text | number | status | date | submittedByMe => rfl

theorem replaceFront_self (spelled : ∀ t, l = project t → t.path.RefersTo a → a <+: t.path) :
    l.replaceFront a a = l := by
  cases l with
  | project t =>
    exact congrArg project (ProjectTest.ext (ProjectPath.replaceFront_self (spelled t rfl)) rfl)
  | text | number | status | date | submittedByMe => rfl

theorem replaceFront_comm (ac : a.Unrelated c) (bc : b.Unrelated c) (da : d.Unrelated a)
    (hb : b ≠ []) (hd : d ≠ []) :
    (l.replaceFront a b).replaceFront c d = (l.replaceFront c d).replaceFront a b := by
  cases l with
  | project t =>
    exact congrArg project (ProjectTest.ext (ProjectPath.replaceFront_comm ac bc da hb hd) rfl)
  | text | number | status | date | submittedByMe => rfl

end Leaf

/-! ## Queries -/

namespace Criteria

open ProjectPath (ofText normalize Unrelated)

variable {tree : Criteria} {old new a b c d : String}

/-- Whether a move between two paths as somebody wrote them is not ignored: the new path is a proper
one and has other segments than the old one. -/
def TakesEffect (old new : String) : Prop :=
  (∃ target, normalize new = .ok target) ∧ ofText old ≠ ofText new

theorem ofText_ne_nil_of_normalize {target : ProjectPath} (h : normalize new = .ok target) :
    ofText new ≠ [] :=
  ProjectPath.eq_ofText_of_normalize h ▸ ProjectPath.normalize_ne_nil h

theorem TakesEffect.ne_nil (h : TakesEffect old new) : ofText new ≠ [] := by
  obtain ⟨⟨target, proper⟩, -⟩ := h
  exact ofText_ne_nil_of_normalize proper

theorem moved_of_moved?_eq_none (h : tree.moved? old new = none) : tree.moved old new = tree := by
  rw [moved, h, Option.getD_none]

/-- A move that is ignored gives back every query. -/
theorem moved?_of_not_takesEffect (h : ¬ TakesEffect old new) (tree : Criteria) :
    tree.moved? old new = none := by
  rw [moved?_eq_none_iff]
  cases proper : normalize new with
  | error fault => exact .inl ⟨fault, rfl⟩
  | ok target =>
    refine .inr (.inl (Decidable.byContradiction fun ne => h ⟨⟨target, proper⟩, ne⟩))

theorem moved?_eq_none_iff_of_takesEffect (h : TakesEffect old new) :
    tree.moved? old new = none ↔ tree.isUsing (ofText old) = false := by
  obtain ⟨⟨target, proper⟩, ne⟩ := h
  simp only [moved?_eq_none_iff, proper, reduceCtorEq, exists_false, ne, false_or]

/-- Any other move replaces the front of every path that refers to the old project. -/
theorem moved_of_takesEffect (h : TakesEffect old new) (tree : Criteria) :
    tree.moved old new = tree.mapLeaves (Leaf.replaceFront (ofText old) (ofText new)) := by
  cases e : tree.moved? old new with
  | none =>
    have unused := (moved?_eq_none_iff_of_takesEffect h).1 e
    rw [moved_of_moved?_eq_none e, mapLeaves_replaceFront_eq_self unused]
  | some result =>
    rw [moved, e, Option.getD_some, eq_of_moved?_eq_some e]

theorem isUsing_mapLeaves (tree : Criteria) (m : Leaf → Leaf) (p : ProjectPath) :
    (tree.mapLeaves m).isUsing p = tree.leaves.any fun l => (m l).isUsing p := by
  rw [isUsing, leaves_mapLeaves, List.any_map]
  rfl

theorem isUsing_leaf_eq_false {p : ProjectPath} (h : tree.isUsing p = false) {l : Leaf}
    (hl : l ∈ tree.leaves) : l.isUsing p = false := by
  simpa using List.any_eq_false.1 h l hl

/-! ### There and on, there and back -/

/-- The first move turns just the references to `a` into references to `b`, and the second one takes
just these on to `c`. -/
theorem moved_moved_eq_mapLeaves {pb pc : ProjectPath} (hb : normalize b = .ok pb)
    (hc : normalize c = .ok pc) (unused : tree.isUsing (ofText b) = false) :
    (tree.moved a b).moved b c =
      tree.mapLeaves (Leaf.replaceFront (ofText a) (ofText c)) := by
  have fullB := ofText_ne_nil_of_normalize hb
  have fullC := ofText_ne_nil_of_normalize hc
  have first : tree.moved a b = tree.mapLeaves (Leaf.replaceFront (ofText a) (ofText b)) := by
    by_cases ab : ofText a = ofText b
    · rw [moved_of_moved?_eq_none (moved?_eq_none_iff.2 (.inr (.inl ab))), ab,
        mapLeaves_replaceFront_eq_self unused]
    · exact moved_of_takesEffect ⟨⟨pb, hb⟩, ab⟩ tree
  by_cases bc : ofText b = ofText c
  · rw [moved_of_moved?_eq_none (moved?_eq_none_iff.2 (.inr (.inl bc))), first, bc]
  · rw [moved_of_takesEffect ⟨⟨pc, hc⟩, bc⟩, first, mapLeaves_mapLeaves]
    refine mapLeaves_congr fun l hl => ?_
    exact Leaf.replaceFront_replaceFront (isUsing_leaf_eq_false unused hl) fullB fullC

/-- Two moves by way of a project that a query does not refer to replace the front of every path
that refers to the first project by the last one. They act as one move unless they lead back; then
they restore the query and its text, if the query spells the first project as the moves do. -/
theorem moved_moved (tree : Criteria) {a b c : String} {pb pc : ProjectPath}
    (hb : normalize b = .ok pb) (hc : normalize c = .ok pc)
    (unused : tree.isUsing (ofText b) = false) :
    (tree.moved a b).moved b c = tree.mapLeaves (Leaf.replaceFront (ofText a) (ofText c)) ∧
      (ofText a ≠ ofText c → (tree.moved a b).moved b c = tree.moved a c) ∧
      (ofText a = ofText c →
        (∀ t, .project t ∈ tree.leaves → t.path.RefersTo (ofText a) → ofText a <+: t.path) →
        (tree.moved a b).moved b c = tree ∧
          ((tree.moved a b).moved b c).render = tree.render) := by
  have both := moved_moved_eq_mapLeaves (a := a) hb hc unused
  refine ⟨both, fun ac => ?_, fun ac spelled => ?_⟩
  · rw [both, moved_of_takesEffect ⟨⟨pc, hc⟩, ac⟩]
  · have restored : (tree.moved a b).moved b c = tree := by
      rw [both, ← ac]
      refine mapLeaves_eq_self fun l hl => Leaf.replaceFront_self ?_
      rintro t rfl
      exact spelled t hl
    exact ⟨restored, congrArg render restored⟩

/-- A query that spells the project in two ways moves on to another one, and a query that spells it
as the moves do goes there and back. -/
theorem moved_moved_of_team :
    let test (path : String) (h : ofText path ≠ []) : Criteria :=
      .leaf (.project ⟨.ofText path, ⟨.is, .natural⟩, by decide, h⟩)
    let mixed : Criteria :=
      .or (test "TEAM/App/**" (by decide))
        (.and (test "team/app" (by decide)) (.leaf .submittedByMe))
    let plain : Criteria := .and (test "team/app/*" (by decide)) (test "ops/team" (by decide))
    mixed.isUsing (ofText " org//") = false ∧ plain.isUsing (ofText " org//") = false ∧
      (mixed.moved "team/app" " org//").moved " org//" "ops" = mixed.moved "team/app" "ops" ∧
      mixed.moved "team/app" "ops" ≠ mixed ∧
      plain.moved "team/app" " org//" ≠ plain ∧
      (plain.moved "team/app" " org//").moved " org//" "/team/app" = plain := by
  intro test mixed plain
  have org : normalize " org//" = .ok (ofText "org") := rfl
  have ops : normalize "ops" = .ok (ofText "ops") := rfl
  have team : normalize "/team/app" = .ok (ofText "team/app") := rfl
  have spelled : ∀ t, .project t ∈ plain.leaves → t.path.RefersTo (ofText "team/app") →
      ofText "team/app" <+: t.path := by
    intro t ht used
    rcases List.mem_cons.1 ht with e | ht
    · obtain rfl := Leaf.project.inj e
      decide
    · obtain rfl := Leaf.project.inj (List.mem_singleton.1 ht)
      exact absurd used (by decide)
  have mixedUnused : mixed.isUsing (ofText " org//") = false := by decide
  have plainUnused : plain.isUsing (ofText " org//") = false := by decide
  have onward := (moved_moved mixed (a := "team/app") org ops mixedUnused).2.1 (by decide)
  have back := (moved_moved plain (a := "team/app") org team plainUnused).2.2 (by decide) spelled
  exact ⟨mixedUnused, plainUnused, onward, by decide, by decide, back.1⟩

/-! ### What a query refers to after a move -/

theorem isUsing_moved_old (h : TakesEffect old new) (apart : Unrelated (ofText old) (ofText new)) :
    (tree.moved old new).isUsing (ofText old) = false := by
  rw [moved_of_takesEffect h, isUsing_mapLeaves, List.any_eq_false]
  intro l _
  rw [Leaf.isUsing_replaceFront_old apart h.ne_nil]
  exact Bool.false_ne_true

theorem isUsing_moved_new (h : TakesEffect old new) :
    (tree.moved old new).isUsing (ofText new) =
      (tree.isUsing (ofText old) || tree.isUsing (ofText new)) := by
  rw [moved_of_takesEffect h, isUsing_mapLeaves, isUsing, isUsing, Bool.eq_iff_iff, Bool.or_eq_true]
  simp only [List.any_eq_true, Leaf.isUsing_replaceFront_new h.ne_nil, Bool.or_eq_true]
  constructor
  · rintro ⟨l, hl, was | was⟩
    · exact .inl ⟨l, hl, was⟩
    · exact .inr ⟨l, hl, was⟩
  · rintro (⟨l, hl, was⟩ | ⟨l, hl, was⟩)
    · exact ⟨l, hl, .inl was⟩
    · exact ⟨l, hl, .inr was⟩

theorem isUsing_moved_of_unrelated (ac : Unrelated (ofText a) (ofText c))
    (bc : Unrelated (ofText b) (ofText c)) :
    (tree.moved a b).isUsing (ofText c) = tree.isUsing (ofText c) := by
  by_cases ab : TakesEffect a b
  · rw [moved_of_takesEffect ab, isUsing_mapLeaves, isUsing]
    simp only [Leaf.isUsing_replaceFront ac bc ab.ne_nil]
  · rw [moved_of_moved?_eq_none (moved?_of_not_takesEffect ab tree)]

/-! ### Moves that have nothing to do with each other -/

/-- A move affects as much after another one that it has nothing to do with. -/
theorem isSome_moved?_moved (ac : Unrelated (ofText a) (ofText c))
    (bc : Unrelated (ofText b) (ofText c)) :
    ((tree.moved a b).moved? c d).isSome = (tree.moved? c d).isSome := by
  by_cases cd : TakesEffect c d
  · rw [Bool.eq_iff_iff, Option.isSome_iff_ne_none, Option.isSome_iff_ne_none, ne_eq, ne_eq,
      moved?_eq_none_iff_of_takesEffect cd, moved?_eq_none_iff_of_takesEffect cd,
      isUsing_moved_of_unrelated ac bc]
  · rw [moved?_of_not_takesEffect cd, moved?_of_not_takesEffect cd]

theorem moved_comm (ac : Unrelated (ofText a) (ofText c)) (bc : Unrelated (ofText b) (ofText c))
    (da : Unrelated (ofText d) (ofText a)) :
    (tree.moved a b).moved c d = (tree.moved c d).moved a b := by
  by_cases ab : TakesEffect a b
  · by_cases cd : TakesEffect c d
    · rw [moved_of_takesEffect ab, moved_of_takesEffect cd, moved_of_takesEffect cd,
        moved_of_takesEffect ab, mapLeaves_mapLeaves, mapLeaves_mapLeaves]
      exact mapLeaves_congr fun l _ => Leaf.replaceFront_comm ac bc da ab.ne_nil cd.ne_nil
    · simp only [moved_of_moved?_eq_none (moved?_of_not_takesEffect cd _)]
  · simp only [moved_of_moved?_eq_none (moved?_of_not_takesEffect ab _)]

end Criteria

end BuildQuery
