import BuildQuery.Criteria.Compiling
import BuildQuery.Proofs.IgnoringCase
import BuildQuery.Proofs.OperandText

/-!
# Patterns that are looked for inside a text

A test for containment puts its pattern into lower case and stars around it; a test of the whole
text puts the stars of its pattern into lower case along with the rest. A star has no case, and a
letter beside it stands at an end of its word as it does at an end of the text, so the two globs are
equal (`TextTest.glob_eq_lower`). A text test is known by its field, its polarity and its glob alone
(`TextTest.Alike`).

Main statement: to contain a pattern is to be what the pattern stands for between two stars
(`Leaf.contains_eq_is_between_stars`).
-/

namespace BuildQuery

/-- Whether two text tests ask for the same glob, or for its absence, in the same field. -/
structure TextTest.Alike (t t' : TextTest) : Prop where
  field : t.field = t'.field
  polarity : t.operator.polarity = t'.operator.polarity
  glob : t.glob = t'.glob

namespace TextTest.Alike

variable {t t' : TextTest} (alike : t.Alike t')

include alike

theorem apply (b : Bool) : t.operator.apply b = t'.operator.apply b := by
  rw [Operator.apply, Operator.apply, alike.polarity]

theorem holds (entity : Entity) (ctx : QueryContext) :
    (Leaf.text t).holds entity ctx = (Leaf.text t').holds entity ctx := by
  have natural : (Leaf.text t).holdsNaturally ctx.user? =
      (Leaf.text t').holdsNaturally ctx.user? := by
    funext value?
    cases value? with
    | none => rfl
    | some value =>
      cases value with
      | text s => exact congrArg (Glob.isMatch · (Text.lower s.toList)) alike.glob
      | int | time => rfl
  show t.operator.apply ((Leaf.text t).holdsNaturally ctx.user? (entity t.field)) = _
  rw [natural, alike.field, alike.apply]
  rfl

theorem naturalPredicate (ctx : QueryContext) (column : String) :
    (Leaf.text t).naturalPredicate ctx column = (Leaf.text t').naturalPredicate ctx column := by
  rw [Leaf.naturalPredicate, Leaf.naturalPredicate, alike.glob]

theorem polarize (p : Predicate) : (Leaf.text t).polarize p = (Leaf.text t').polarize p := by
  show t.operator.applyTo p = t'.operator.applyTo p
  rw [Operator.applyTo, Operator.applyTo, Operator.isNegated, Operator.isNegated, alike.polarity]

theorem compile (ctx : QueryContext) :
    (Leaf.text t).compile ctx = (Leaf.text t').compile ctx := by
  rw [Leaf.compile, Leaf.compile]
  simp only [alike.naturalPredicate, alike.polarize, Leaf.field, alike.field]

end TextTest.Alike

namespace Leaf

variable {field : Field} {x : String}

theorem supports_of_isTextual (textual : field.isTextual = true) (polarity : Polarity) :
    Operator.Supports ⟨.contains, polarity⟩ field ∧ Operator.Supports ⟨.is, polarity⟩ field := by
  cases field with
  | job | version | branch | tag | submitter => cases polarity <;> exact ⟨by decide, by decide⟩
  | project | number | status | submitDate => contradiction

theorem toList_between_stars (x : String) :
    ("*" ++ x ++ "*").toList = Glob.wildcard :: (x.toList ++ [Glob.wildcard]) := by
  rw [String.toList_append, String.toList_append]
  rfl

theorem isBlankString_between_stars (x : String) :
    Text.isBlankString ("*" ++ x ++ "*") = false := by
  rw [Text.isBlankString, toList_between_stars]
  rfl

/-- In every textual field and with either polarity, a pattern that is not blank can be looked for
in two ways: as contained in the text, and between two stars as what the text is. Both hold of the
same entities, and both become the same predicate or are refused for the same reason. -/
theorem contains_eq_is_between_stars (textual : field.isTextual = true)
    (inked : Text.isBlankString x = false) (polarity : Polarity) :
    ∃ part whole, TextTest.make field x ⟨.contains, polarity⟩ = .ok part ∧
      TextTest.make field ("*" ++ x ++ "*") ⟨.is, polarity⟩ = .ok whole ∧
      (∀ entity ctx, (text part).holds entity ctx = (text whole).holds entity ctx) ∧
      ∀ ctx, (text part).compile ctx = (text whole).compile ctx := by
  obtain ⟨contains, is⟩ := supports_of_isTextual textual polarity
  have starred := isBlankString_between_stars x
  let part : TextTest := ⟨field, ⟨.contains, polarity⟩, x, textual, contains, inked⟩
  let whole : TextTest := ⟨field, ⟨.is, polarity⟩, "*" ++ x ++ "*", textual, is, starred⟩
  have glob : part.glob = whole.glob := by
    rw [TextTest.glob_eq_lower, TextTest.glob_eq_lower]
    exact congrArg Text.lower (toList_between_stars x).symm
  have alike : part.Alike whole := ⟨rfl, rfl, glob⟩
  exact ⟨part, whole, part.make_eq_ok, whole.make_eq_ok, alike.holds, alike.compile⟩

/-- A pattern that ends in a sigma, before a character that is special to the store and after a
star, which is not to be found. -/
theorem contains_eq_is_between_stars_of_street :
    Field.job.isTextual = true ∧ Text.isBlankString "1*ΟΔΟΣ_" = false ∧
      ∃ part whole, TextTest.make .job "1*ΟΔΟΣ_" ⟨.contains, .negated⟩ = .ok part ∧
        TextTest.make .job "*1*ΟΔΟΣ_*" ⟨.is, .negated⟩ = .ok whole ∧
        (text whole).holds (fun _ => some (.text "11 Οδος_")) .standard = false ∧
        (text whole).compile .standard =
          .ok (.not (.and [.not (.isNull "job_name"), .like "job_name" "%1%οδος\\_%"])) := by
  have textual : Field.job.isTextual = true := rfl
  have inked : Text.isBlankString "1*ΟΔΟΣ_" = false := by decide
  obtain ⟨part, whole, made, made', holds, compile⟩ :=
    contains_eq_is_between_stars textual inked .negated
  let known : TextTest :=
    ⟨.job, ⟨.contains, .negated⟩, "1*ΟΔΟΣ_", rfl, by decide, by decide⟩
  have same : known = part := Except.ok.inj made
  have pattern : String.ofList (Like.ofGlob known.glob) = "%1%οδος\\_%" := by decide
  refine ⟨textual, inked, part, whole, made, made', ?_, ?_⟩
  · rw [← holds, ← same]
    decide
  · rw [← compile, ← same, ← pattern]
    rfl

end Leaf

end BuildQuery
