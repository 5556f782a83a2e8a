import BuildQuery.Proofs.LostMatches

/-!
# Tests that ignore case

A test puts its pattern and the value into lower case before it matches them. One expects that this
only adds matches, and for patterns without capital sigmas it does. But a capital sigma takes its
final form when a letter comes before it and none after it, and a pattern does not have the letters
that its stars take: `Σ` is in the text `ΑΣ`, but the pattern becomes `*σ*` and the value `ας`.

Main statement: a test accepts every value that its pattern matches as written exactly when the
sigmas of the pattern are settled, and any test accepts those of these values in which each sigma
begins a word (`Leaf.accepts_as_written`).
-/

namespace BuildQuery

open Glob (wildcard settled isMatch isPathMatch)
open Text (sigmasBegin)

/-- The glob of a text test as it is written, in which no case is ignored. -/
def TextTest.written (t : TextTest) : List Char :=
  match t.operator.comparison with
  | .contains => wildcard :: (t.pattern.toList ++ [wildcard])
  | _ => t.pattern.toList

theorem TextTest.glob_eq_lower (t : TextTest) : t.glob = Text.lower t.written := by
  unfold glob written
  cases t.operator.comparison with
  | contains =>
    have stars : Text.lower (wildcard :: (t.pattern.toList ++ [wildcard])) =
        wildcard :: Text.lower (t.pattern.toList ++ [wildcard]) :=
      Glob.lowerAfter_wildcard_cons false _
    rw [stars, Text.lower_append_cons (by decide) (by decide), Text.lower_nil, List.append_nil]
    rfl
  | is | greaterThan | lessThan | before | after => rfl

/-- A pattern without stars is looked for as a part of the text. -/
theorem Glob.isMatch_inner_iff {chunk text : List Char} (literal : wildcard ∉ chunk) :
    isMatch (wildcard :: (chunk ++ [wildcard])) text = true ↔ chunk <:+: text := by
  simp only [isMatch_iff, matches_run_iff, matches_append_iff literal, matches_nil_iff]
  constructor
  · rintro ⟨_, ⟨front, rfl⟩, back, rfl, -⟩
    exact ⟨front, back, List.append_assoc _ _ _⟩
  · rintro ⟨front, back, rfl⟩
    exact ⟨chunk ++ back, ⟨front, (List.append_assoc _ _ _).symm⟩, back, rfl,
      [], List.nil_suffix, rfl⟩

theorem forall_toList_iff {P : List Char → Prop} : (∀ s : String, P s.toList) ↔ ∀ cs, P cs := by
  constructor
  · intro h cs
    have own := h (String.ofList cs)
    rwa [String.toList_ofList] at own
  · exact fun h s => h s.toList

namespace Leaf

/-- Whether the pattern of a leaf matches a value when both are taken as they are written. -/
def matchesAsWritten (s : String) : Leaf → Bool
  | text t => isMatch t.written s.toList
  | project t => isPathMatch t.path.text.toList s.toList
  | number _ | status _ | date _ | submittedByMe => false

/-- Whether the sigmas in the pattern of a leaf, if it has one, are settled. -/
def isSettled : Leaf → Bool
  | text t => settled .no t.written
  | project t => settled .no t.path.text.toList
  | number _ | status _ | date _ | submittedByMe => true

/-- Whether a leaf asks for its natural comparison. -/
def IsNatural (l : Leaf) : Prop := ∀ op, l.operator? = some op → op.polarity = .natural

/-- Whether a leaf holds of every entity that has the given text in its field. -/
def Accepts (l : Leaf) (s : String) : Prop :=
  ∀ (entity : Entity) (ctx : QueryContext), entity l.field = some (.text s) →
    l.holds entity ctx = true

/-- A leaf that reads nothing but the text of its field accepts a text when its outcome is true. -/
theorem accepts_iff {l : Leaf} {s : String} {outcome : Bool}
    (h : ∀ (entity : Entity) (ctx : QueryContext), entity l.field = some (.text s) →
      l.holds entity ctx = outcome) : l.Accepts s ↔ outcome = true := by
  constructor
  · intro accepts
    let entity : Entity := fun _ => some (.text s)
    rw [← h entity .standard rfl]
    exact accepts entity .standard rfl
  · intro holds entity ctx located
    rw [h entity ctx located, holds]

variable {l : Leaf} {s : String}

theorem accepts_text_iff {t : TextTest} (natural : (text t).IsNatural) :
    (text t).Accepts s ↔ isMatch (Text.lower t.written) (Text.lower s.toList) = true := by
  refine accepts_iff fun entity ctx located => ?_
  show t.operator.apply ((text t).holdsNaturally ctx.user? (entity (text t).field)) = _
  rw [located, Operator.apply, natural _ rfl, ← t.glob_eq_lower]
  rfl

theorem accepts_project_iff {t : ProjectTest} (natural : (project t).IsNatural) :
    (project t).Accepts s ↔
      isPathMatch (Text.lower t.path.text.toList) (Text.lower s.toList) = true := by
  refine accepts_iff fun entity ctx located => ?_
  rw [holds_project located, Operator.apply, natural _ rfl]
  rfl

/-- A match as written is kept when the pattern leaves no sigma open, or the value has none that may
be final. -/
theorem accepts_of_matchesAsWritten (natural : l.IsNatural) (h : l.matchesAsWritten s = true)
    (forms : l.isSettled = true ∨ sigmasBegin false s.toList = true) : l.Accepts s := by
  cases l with
  | text t => exact (accepts_text_iff natural).2 (Glob.isMatch_lower h forms)
  | project t => exact (accepts_project_iff natural).2 (Glob.isPathMatch_lower h forms)
  | number | status | date | submittedByMe => contradiction

/-- The leaves that keep every match as written are those with settled patterns. -/
theorem isSettled_iff (natural : l.IsNatural) :
    l.isSettled = true ↔ ∀ s, l.matchesAsWritten s = true → l.Accepts s := by
  cases l with
  | text t =>
    simp only [accepts_text_iff natural]
    rw [isSettled, Glob.settled_iff_isMatch_lower]
    exact forall_toList_iff.symm
  | project t =>
    simp only [accepts_project_iff natural]
    rw [isSettled, Glob.settled_iff_isPathMatch_lower]
    exact forall_toList_iff.symm
  | number | status | date | submittedByMe => exact iff_of_true rfl nofun

/-- A natural leaf accepts, without regard to case, every value that it matches as written exactly
when the sigmas of its pattern are settled. In any case it accepts those of these values in which no
capital sigma comes after a letter of the same word. In particular, under either condition, a leaf
that looks for a pattern without stars accepts every value with the pattern in it. -/
theorem accepts_as_written (natural : l.IsNatural) :
    (l.isSettled = true ↔ ∀ s, l.matchesAsWritten s = true → l.Accepts s) ∧
      (∀ s, sigmasBegin false s.toList = true → l.matchesAsWritten s = true → l.Accepts s) ∧
      ∀ (t : TextTest) (s : String), l = text t → t.operator.comparison = .contains →
        wildcard ∉ t.pattern.toList → t.pattern.toList <:+: s.toList →
          l.isSettled = true ∨ sigmasBegin false s.toList = true → l.Accepts s := by
  refine ⟨isSettled_iff natural, fun s begin' h => ?_, ?_⟩
  · exact accepts_of_matchesAsWritten natural h (.inr begin')
  · rintro t s rfl contains literal inner forms
    have written : t.written = wildcard :: (t.pattern.toList ++ [wildcard]) := by
      rw [TextTest.written, contains]
    refine accepts_of_matchesAsWritten natural ?_ forms
    rw [matchesAsWritten, written]
    exact (Glob.isMatch_inner_iff literal).2 inner

/-- A street between two stars whose sigmas stand between other characters, a sigma that is looked
for in a value where it begins a word, and projects below a group. -/
theorem accepts_as_written_of_street :
    (∃ t : TextTest, (text t).IsNatural ∧ t.pattern = "*ΟΔΟΣ 1*" ∧ (text t).isSettled = true ∧
      (text t).Accepts "ΚΕΝΤΡΙΚΗ ΟΔΟΣ 12") ∧
    (∃ t : TextTest, (text t).IsNatural ∧ t.pattern = ". Σ" ∧ (text t).Accepts "ΟΔ. ΣΑΜΟΥ") ∧
    ∃ t : ProjectTest, (project t).IsNatural ∧ t.path.text = "ΟΜΑΣ/**" ∧
      (project t).isSettled = true ∧ (project t).Accepts "ΟΜΑΣ/App/Σ1" := by
  let street : TextTest :=
    ⟨.job, ⟨.is, .natural⟩, "*ΟΔΟΣ 1*", rfl, by decide, by decide⟩
  let part : TextTest := ⟨.job, ⟨.contains, .natural⟩, ". Σ", rfl, by decide, by decide⟩
  let below : ProjectTest :=
    ⟨ProjectPath.ofText "ΟΜΑΣ/**", ⟨.is, .natural⟩, by decide, by decide⟩
  have natural : (text street).IsNatural := fun _ h => Option.some.inj h ▸ rfl
  have natural' : (text part).IsNatural := fun _ h => Option.some.inj h ▸ rfl
  have natural'' : (project below).IsNatural := fun _ h => Option.some.inj h ▸ rfl
  have inner : part.pattern.toList <:+: "ΟΔ. ΣΑΜΟΥ".toList :=
    ⟨"ΟΔ".toList, "ΑΜΟΥ".toList, by decide⟩
  refine ⟨⟨street, natural, rfl, by decide, ?_⟩, ⟨part, natural', rfl, ?_⟩,
    ⟨below, natural'', by decide, by decide, ?_⟩⟩
  · exact (accepts_as_written natural).1.1 (by decide) _ (by decide)
  · exact (accepts_as_written natural').2.2 part _ rfl rfl (by decide) inner (.inr (by decide))
  · exact (accepts_as_written natural'').1.1 (by decide) _ (by decide)

/-- A capital sigma is a part of `ΑΣ`, and the pattern `*Σ` matches it, but no entity with this text
passes the test of either. -/
theorem not_accepts_final_sigma :
    (∃ t : TextTest, TextTest.make .job "Σ" ⟨.contains, .natural⟩ = .ok t ∧
      "Σ".toList <:+: "ΑΣ".toList ∧ isMatch t.written "ΑΣ".toList = true ∧
      (text t).holds (fun _ => some (.text "ΑΣ")) .standard = false) ∧
    (∃ t : TextTest, TextTest.make .job "*Σ" ⟨.is, .natural⟩ = .ok t ∧
      isMatch t.written "ΑΣ".toList = true ∧
      (text t).holds (fun _ => some (.text "ΑΣ")) .standard = false) ∧
    ∃ t : ProjectTest, ProjectTest.make "*Σ" ⟨.is, .natural⟩ = .ok t ∧
      isPathMatch t.path.text.toList "ΑΣ".toList = true ∧
      (project t).holds (fun _ => some (.text "ΑΣ")) .standard = false := by
  have part : "Σ".toList <:+: "ΑΣ".toList := ⟨"Α".toList, [], by decide⟩
  exact ⟨⟨_, rfl, part, by decide, by decide⟩, ⟨_, rfl, by decide, by decide⟩,
    ⟨_, rfl, by decide, by decide⟩⟩

end Leaf

end BuildQuery
