import BuildQuery.Operator
import BuildQuery.ProjectPath
import BuildQuery.Text.Integer

/-!
# What can be wrong with a query

The causes for which a test is refused, a query text cannot be read, or a query cannot be compiled,
each with its wording.
-/

namespace BuildQuery

/-- What makes an operand unfit for its field. -/
inductive OperandFault where
  | path (fault : PathFault)
  | integer (fault : Text.IntegerFault)
  | unknownStatus
  | notATimestamp
  deriving DecidableEq, Repr

/-- The wording of a fault of an operand. -/
def OperandFault.message : OperandFault → String
  | path fault => fault.message
  | integer fault => fault.message
  | unknownStatus => "unknown build status"
  | notATimestamp => "expected YYYY-MM-DD or an RFC 3339 timestamp"

/-- Why a test of a field is refused. -/
inductive OperandError where
  | empty (field : Field)
  | unsupported (field : Field) (operator : Operator)
  | invalid (field : Field) (value : String) (fault : OperandFault)
  deriving DecidableEq, Repr

/-- The wording of a refusal. -/
def OperandError.message : OperandError → String
  | empty field => "Value for '" ++ field.name ++ "' must not be empty"
  | unsupported field operator =>
    "Operator '" ++ operator.keyword ++ "' is not supported for '" ++ field.name ++ "'"
  | invalid field value fault =>
    "Invalid value '" ++ value ++ "' for '" ++ field.name ++ "': " ++ fault.message

/-- What a query text lacks or has too much. -/
inductive GrammarFault where
  | emptyQuery
  | unterminatedQuote
  | expectedWord (word : String)
  | expectedQuoted
  | expectedClose
  | expectedOperator
  | expectedCriteria
  | trailingInput
  deriving DecidableEq, Repr

/-- The wording of a fault of a query text. -/
def GrammarFault.message : GrammarFault → String
  | emptyQuery => "empty query"
  | unterminatedQuote => "unterminated quoted value"
  | expectedWord word => "expected '" ++ word ++ "'"
  | expectedQuoted => "expected a quoted value"
  | expectedClose => "expected ')'"
  | expectedOperator => "expected operator"
  | expectedCriteria => "expected criteria"
  | trailingInput => "unexpected trailing input"

/-- Why a query cannot be read or compiled. A fault of the text is told with its place, counted in
bytes of UTF-8. -/
inductive QueryError where
  | operand (error : OperandError)
  | grammar (offset : Nat) (fault : GrammarFault)
  | unknownField (name : String)
  | unmappedField (field : Field)
  deriving DecidableEq, Repr

/-- The wording of an error. -/
def QueryError.message : QueryError → String
  | operand error => "Invalid criteria: " ++ error.message
  | grammar offset fault =>
    "Syntax error at offset " ++ toString offset ++ ": " ++ fault.message
  | unknownField name => "Unknown field: " ++ name
  | unmappedField field => "Field '" ++ field.name ++ "' is not mapped to a store column"

/-! ## Steps that can fail -/

/-- Two steps succeed when the first one does and the second one does with its value. -/
theorem bind_eq_ok_iff {ε α β : Type} {x : Except ε α} {f : α → Except ε β} {b : β} :
    x >>= f = .ok b ↔ ∃ a, x = .ok a ∧ f a = .ok b := by
  constructor
  · intro h
    cases x with
    | error e => cases h
    | ok a => exact ⟨a, rfl, h⟩
  · rintro ⟨a, rfl, h⟩
    exact h

/-- Two steps fail as the first one does, or as the second one does with the value of the first. -/
theorem bind_eq_error_iff {ε α β : Type} {x : Except ε α} {f : α → Except ε β} {e : ε} :
    x >>= f = .error e ↔ x = .error e ∨ ∃ a, x = .ok a ∧ f a = .error e := by
  cases x with
  | error fault =>
    show Except.error fault = .error e ↔ _
    simp
  | ok a =>
    show f a = .error e ↔ _
    simp

section Combine

variable {ε α β γ : Type}

/-- A combination of two steps succeeds when both do. -/
theorem combine_eq_ok_iff {x : Except ε α} {y : Except ε β} {f : α → β → γ} {c : γ} :
    (do return f (← x) (← y)) = .ok c ↔ ∃ a b, x = .ok a ∧ y = .ok b ∧ c = f a b := by
  rw [bind_eq_ok_iff]
  constructor
  · rintro ⟨a, ha, h⟩
    obtain ⟨b, hb, h⟩ := bind_eq_ok_iff.1 h
    exact ⟨a, b, ha, hb, (Except.ok.inj h).symm⟩
  · rintro ⟨a, b, ha, hb, rfl⟩
    exact ⟨a, ha, bind_eq_ok_iff.2 ⟨b, hb, rfl⟩⟩

/-- How three steps are grouped makes no difference to an associative combination: the first one
that fails decides the fault. -/
theorem combine_assoc {f : α → α → α} (assoc : ∀ a b c, f (f a b) c = f a (f b c))
    (x y z : Except ε α) :
    (do return f (← (do return f (← x) (← y))) (← z)) =
      (do return f (← x) (← (do return f (← y) (← z))) : Except ε α) := by
  cases x with
  | error fault => rfl
  | ok a =>
    cases y with
    | error fault => rfl
    | ok b =>
      cases z with
      | error fault => rfl
      | ok c => exact congrArg Except.ok (assoc a b c)

end Combine

end BuildQuery
