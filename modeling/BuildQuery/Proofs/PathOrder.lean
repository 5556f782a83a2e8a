import BuildQuery.Proofs.MovedRegistry
import BuildQuery.Proofs.NormalPaths

/-!
# The order of paths

To lie within another path is to begin with its segments in lower case, so the order of paths is the
order of the beginnings of a list (`isWithin_trans`, `isWithin_or_isWithin`), and paths within each
other have the same segments up to case. A query refers to a project when one of its paths lies
within it, and then that path lies within everything above the project too.

Main statement: paths as somebody wrote them form a tree, and who refers to a project refers to all
projects above it, with queries and registries alike (`isWithin_tree_order`).
-/

namespace BuildQuery

open scoped List

namespace ProjectPath

variable {path place : ProjectPath}

/-- Whether two paths have the same segments, one by one, whatever the case. -/
def SameSegments (path place : ProjectPath) : Prop :=
  List.Forall₂ (fun a b => a.same b = true) path place

theorem sameSegments_iff : path.SameSegments place ↔ path.folded = place.folded := by
  rw [← List.forall₂_eq_eq_eq (α := List Char), folded, folded, List.forall₂_map_left_iff,
    List.forall₂_map_right_iff, SameSegments]
  simp only [Segment.same, Segment.folded, beq_iff_eq]

theorem isWithin_and_isWithin_iff (full : path ≠ []) :
    path.isWithin place = true ∧ place.isWithin path = true ↔ path.SameSegments place := by
  rw [sameSegments_iff]
  constructor
  · rintro ⟨h, h'⟩
    exact (folded_eq_iff_isWithin (ne_nil_of_isWithin h') full).2 ⟨h, h'⟩
  · intro same
    have full' : place ≠ [] := by
      rintro rfl
      exact folded_ne_nil full same
    exact (folded_eq_iff_isWithin full' full).1 same

end ProjectPath

/-! ## Who refers to a project -/

section Using

variable {p q : ProjectPath}

theorem Leaf.isUsing_of_isWithin (h : p.isWithin q = true) {l : Leaf} (used : l.isUsing p = true) :
    l.isUsing q = true := by
  cases l with
  | project t => exact ProjectPath.isWithin_trans used h
  | text | number | status | date | submittedByMe => contradiction

theorem Criteria.isUsing_of_isWithin (h : p.isWithin q = true) {c : Criteria}
    (used : c.isUsing p = true) : c.isUsing q = true := by
  obtain ⟨l, hl, used⟩ := List.any_eq_true.1 used
  exact List.any_eq_true.2 ⟨l, hl, Leaf.isUsing_of_isWithin h used⟩

/-- The query for a path with segments refers to what the path lies within. -/
theorem Criteria.exists_isUsing_eq (full : p ≠ []) :
    ∃ c : Criteria, ∀ q, c.isUsing q = p.isWithin q := by
  refine ⟨.leaf (.project ⟨p, ⟨.is, .natural⟩, by decide, full⟩), fun q => ?_⟩
  exact Bool.or_false _

theorem Criteria.forall_isUsing_iff (full : p ≠ []) :
    (∀ c : Criteria, c.isUsing p = true → c.isUsing q = true) ↔ p.isWithin q = true := by
  constructor
  · intro h
    obtain ⟨c, used⟩ := exists_isUsing_eq full
    rw [← used]
    exact h c ((used p).trans (ProjectPath.isWithin_self full))
  · exact fun h c => isUsing_of_isWithin h

theorem Registry.namesWhere_sublist (r : Registry) {f g : SavedQuery → Bool}
    (h : ∀ saved, f saved = true → g saved = true) : r.namesWhere f <+ r.namesWhere g :=
  (List.monotone_filter_right r.queries.items h).map SavedQuery.name

theorem Registry.usersOf_sublist (r : Registry) {p q : String}
    (h : (ProjectPath.ofText p).isWithin (.ofText q) = true) : r.usersOf p <+ r.usersOf q :=
  r.namesWhere_sublist fun _ => Criteria.isUsing_of_isWithin h

end Using

namespace ProjectPath

/-- Of paths as somebody wrote them, those with segments lie within themselves. What lies within
another one lies within all that this one lies within; two paths that a third one lies within can be
compared; and two paths are within each other exactly when they have the same segments up to case.
A query that refers to a project refers to all that the project lies within, and to nothing else do
all such queries refer. So the users of a project in a registry are users of these too. -/
theorem isWithin_tree_order :
    (∀ p, HasSegments p → (ofText p).isWithin (ofText p) = true) ∧
      (∀ p q r, (ofText p).isWithin (ofText q) = true → (ofText q).isWithin (ofText r) = true →
        (ofText p).isWithin (ofText r) = true) ∧
      (∀ p q, HasSegments p → ((ofText p).isWithin (ofText q) = true ∧
        (ofText q).isWithin (ofText p) = true ↔ (ofText p).SameSegments (ofText q))) ∧
      (∀ path p q, (ofText path).isWithin (ofText p) = true →
        (ofText path).isWithin (ofText q) = true →
          (ofText p).isWithin (ofText q) = true ∨ (ofText q).isWithin (ofText p) = true) ∧
      (∀ (c : Criteria) (p q : String), c.isUsing (ofText p) = true →
        (ofText p).isWithin (ofText q) = true → c.isUsing (ofText q) = true) ∧
      (∀ p q, HasSegments p →
        (∀ c : Criteria, c.isUsing (ofText p) = true → c.isUsing (ofText q) = true) →
          (ofText p).isWithin (ofText q) = true) ∧
      ∀ (r : Registry) (p q : String), (ofText p).isWithin (ofText q) = true →
        r.usersOf p <+ r.usersOf q := by
  refine ⟨fun p full => isWithin_self (ofText_ne_nil_iff.2 full), fun p q r => isWithin_trans,
    fun p q full => isWithin_and_isWithin_iff (ofText_ne_nil_iff.2 full),
    fun path p q => isWithin_or_isWithin, fun c p q used h => Criteria.isUsing_of_isWithin h used,
    fun p q full => (Criteria.forall_isUsing_iff (ofText_ne_nil_iff.2 full)).1,
    fun r p q => r.usersOf_sublist⟩

/-- A project two levels below another one, which is spelled in two ways, and a registry with a
query for it and one for its neighbour. -/
theorem isWithin_tree_order_of_team :
    let test (path : String) (h : ofText path ≠ []) : Criteria :=
      .leaf (.project ⟨.ofText path, ⟨.is, .natural⟩, by decide, h⟩)
    let c : Criteria := .not (.and (test "TEAM/app/**" (by decide)) (.leaf .submittedByMe))
    let r := (Registry.empty.register ⟨"below", c, []⟩).register
      ⟨"beside", test "team/ops" (by decide), []⟩
    HasSegments "/team/ App" ∧ (ofText "team/app").isWithin (ofText "/team/ App") = true ∧
      (ofText "/team/ App").SameSegments (ofText "TEAM/app") ∧
      c.isUsing (ofText "team/app") = true ∧ c.isUsing (ofText "Team //") = true ∧
      r.usersOf "team/app" = ["below"] ∧ r.usersOf "team/app" <+ r.usersOf " team" ∧
      r.usersOf " team" = ["below", "beside"] := by
  intro test c r
  obtain ⟨self, through, both, -, up, -, users⟩ := isWithin_tree_order
  have full : HasSegments "/team/ App" := by decide
  have inner : (ofText "team/app").isWithin (ofText "/team/ App") = true := by decide
  have used : c.isUsing (ofText "team/app") = true := by decide
  have outer := through _ _ "Team //" inner (by decide)
  refine ⟨full, inner, (both _ "TEAM/app" full).1 (by decide), used, up c _ _ used outer, by decide,
    users r _ _ (by decide), by decide⟩

end ProjectPath

end BuildQuery
