import BuildQuery.Proofs.MovedProject
import BuildQuery.Proofs.OperandText
import BuildQuery.Proofs.PathExpansion

/-!
# Tests of a project and of what lies below it

A path without stars matches itself alone. With a deep segment behind it, it matches what begins
with its segments (`matchesSegments_below_iff`), the path itself included, since a deep segment may
stand for none. A text in normal form is the text of the path that it is read as, so that the
matcher of texts and the search for one path in another see the same segments.

Main statement: the test of `P/**` holds of exactly the projects within `P`, and the test of `P` of
exactly those within `P` that `P` is within too (`tests_iff_isWithin`).
-/

namespace BuildQuery

namespace Glob

theorem joined_concat {sep : Char} {segments : List (List Char)} (ne : segments ≠ [])
    (last : List Char) :
    [sep].intercalate (segments ++ [last]) = [sep].intercalate segments ++ sep :: last := by
  induction segments with
  | nil => contradiction
  | cons first rest ih =>
    by_cases single : rest = []
    · obtain rfl := single
      rw [List.cons_append, List.nil_append, joined_cons first (List.cons_ne_nil last []),
        List.intercalate_singleton, List.intercalate_singleton]
    · rw [List.cons_append, joined_cons first (List.append_ne_nil_of_left_ne_nil single _),
        ih single, joined_cons first single, List.append_assoc, List.cons_append]

/-- Literal segments with a deep one behind them match what begins with the literal ones. -/
theorem matchesSegments_below_iff {literal path : List (List Char)}
    (h : ∀ segment ∈ literal, wildcard ∉ segment) :
    matchesSegments (literal ++ [deepWildcard]) path = true ↔ literal <+: path := by
  rw [matchesSegments_append_iff h]
  constructor
  · rintro ⟨rest, rfl, -⟩
    exact List.prefix_append literal rest
  · rintro ⟨rest, rfl⟩
    exact ⟨rest, rfl, matchesSegments_deep_iff.2 ⟨[], List.nil_suffix, rfl⟩⟩

end Glob

namespace ProjectPath

/-! ## Texts in normal form -/

/-- Whether normalizing a text gives back the text. -/
def IsNormal (s : String) : Prop := ∃ path, normalize s = .ok path ∧ path.text = s

/-- The texts in normal form are the texts of the paths with segments. -/
theorem isNormal_iff {s : String} :
    IsNormal s ↔ ∃ path : ProjectPath, path ≠ [] ∧ path.text = s := by
  constructor
  · rintro ⟨path, normal, written⟩
    exact ⟨path, normalize_ne_nil normal, written⟩
  · rintro ⟨path, full, rfl⟩
    exact ⟨path, normalize_text full, rfl⟩

/-- The segment that stands for any number of segments. -/
def deep : Segment := ⟨Glob.deepWildcard, by decide⟩

theorem folded_deep : folded [deep] = [Glob.deepWildcard] := by
  decide

theorem text_append_deep {path : ProjectPath} (full : path ≠ []) :
    (path ++ [deep]).text = path.text ++ "/**" := by
  apply String.toList_injective
  rw [String.toList_append, toList_text, toList_text, List.map_append]
  exact Glob.joined_concat (mt List.map_eq_nil_iff.1 full) Glob.deepWildcard

/-! ## Paths matched with paths -/

variable {path place : ProjectPath}

/-- Two paths are within each other when they have the same segments up to case. -/
theorem folded_eq_iff_isWithin (full : path ≠ []) (full' : place ≠ []) :
    place.folded = path.folded ↔ place.isWithin path = true ∧ path.isWithin place = true := by
  rw [isWithin_iff, isWithin_iff]
  constructor
  · intro same
    exact ⟨⟨full, same ▸ List.prefix_rfl⟩, full', same ▸ List.prefix_rfl⟩
  · rintro ⟨⟨-, start⟩, -, start'⟩
    exact start'.eq_of_length_le start.length_le

/-- A path glob is matched with the text of a path segment by segment. -/
theorem pathMatches_text (full : path ≠ []) (full' : place ≠ []) :
    pathMatches path.text place.text = Glob.matchesSegments path.folded place.folded := by
  have free : ∀ piece ∈ place.map Segment.chars, pathSeparator ∉ piece := by
    intro piece hp
    obtain ⟨a, -, rfl⟩ := List.mem_map.1 hp
    exact a.isSegment.2.2
  rw [← place.lower_chars]
  exact pathMatches_joined full (mt List.map_eq_nil_iff.1 full') free

theorem pathMatches_below_iff (literal : path.IsLiteral) (full : path ≠ []) (full' : place ≠ []) :
    pathMatches (path ++ [deep]).text place.text = true ↔ place.isWithin path = true := by
  rw [pathMatches_text (List.append_ne_nil_of_left_ne_nil full _) full', folded_append, folded_deep,
    Glob.matchesSegments_below_iff literal.folded, isWithin_iff, and_iff_right full]

theorem pathMatches_iff_isWithin (literal : path.IsLiteral) (full : path ≠ [])
    (full' : place ≠ []) :
    pathMatches path.text place.text = true ↔
      place.isWithin path = true ∧ path.isWithin place = true := by
  rw [pathMatches_text full full', Glob.matchesSegments_literal_iff literal.folded,
    folded_eq_iff_isWithin full full']

/-! ## Tests of a project -/

/-- The text of a path with segments is accepted as the test of that path. -/
theorem exists_make_text (full : path ≠ []) :
    ∃ t, ProjectTest.make path.text ⟨.is, .natural⟩ = .ok t ∧
      ∀ (entity : Entity) (ctx : QueryContext) (s : String), entity .project = some (.text s) →
        (Leaf.project t).holds entity ctx = pathMatches path.text s := by
  let t : ProjectTest := ⟨path, ⟨.is, .natural⟩, by decide, full⟩
  exact ⟨t, t.make_eq_ok, fun entity ctx s located => Leaf.holds_project located⟩

/-- For a path `P` without stars and a project `c`, both written in normal form: the test of `P/**`
holds in `c` exactly when `c` is within `P`, and the test of `P` exactly when each is within the
other. -/
theorem tests_iff_isWithin {P c : String} (literal : Glob.wildcard ∉ P.toList)
    (normal : IsNormal P) (normal' : IsNormal c) :
    ∃ below itself, ProjectTest.make (P ++ "/**") ⟨.is, .natural⟩ = .ok below ∧
      ProjectTest.make P ⟨.is, .natural⟩ = .ok itself ∧
      ∀ (entity : Entity) (ctx : QueryContext), entity .project = some (.text c) →
        ((Leaf.project below).holds entity ctx = true ↔ (ofText c).isWithin (ofText P) = true) ∧
        ((Leaf.project itself).holds entity ctx = true ↔
          (ofText c).isWithin (ofText P) = true ∧ (ofText P).isWithin (ofText c) = true) := by
  obtain ⟨path, full, rfl⟩ := isNormal_iff.1 normal
  obtain ⟨place, full', rfl⟩ := isNormal_iff.1 normal'
  have free : path.IsLiteral := isLiteral_of_text literal
  obtain ⟨below, made, holds⟩ := exists_make_text (List.append_ne_nil_of_left_ne_nil full [deep])
  obtain ⟨itself, made', holds'⟩ := exists_make_text full
  rw [text_append_deep full] at made
  refine ⟨below, itself, made, made', fun entity ctx located => ?_⟩
  rw [holds entity ctx _ located, holds' entity ctx _ located, ofText_text, ofText_text]
  exact ⟨pathMatches_below_iff free full full', pathMatches_iff_isWithin free full full'⟩

/-- A project two levels below a path that is written in another case, and the path itself. -/
theorem tests_iff_isWithin_of_team :
    IsNormal "Team/App" ∧ IsNormal "TEAM/app/İ/sub" ∧
      ∃ below itself, ProjectTest.make "Team/App/**" ⟨.is, .natural⟩ = .ok below ∧
        ProjectTest.make "Team/App" ⟨.is, .natural⟩ = .ok itself ∧
        (Leaf.project below).holds (fun _ => some (.text "TEAM/app/İ/sub")) .standard = true ∧
        (Leaf.project itself).holds (fun _ => some (.text "TEAM/app/İ/sub")) .standard ≠ true := by
  have normal : IsNormal "Team/App" := isNormal_iff.2 ⟨ofText "Team/App", by decide, by decide⟩
  have normal' : IsNormal "TEAM/app/İ/sub" :=
    isNormal_iff.2 ⟨ofText "TEAM/app/İ/sub", by decide, by decide⟩
  obtain ⟨below, itself, made, made', agree⟩ :=
    tests_iff_isWithin (by decide) normal normal'
  have outcome := agree (fun _ => some (.text "TEAM/app/İ/sub")) .standard rfl
  exact ⟨normal, normal', below, itself, made, made', outcome.1.2 (by decide),
    mt outcome.2.1 (by decide)⟩

end ProjectPath

end BuildQuery
