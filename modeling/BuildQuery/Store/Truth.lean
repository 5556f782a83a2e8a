/-!
# Three-valued truth

A condition on a row is true, false or unknown: what a store makes of a comparison with a value that
is not there. The connectives are those of Kleene's strong logic.
-/

namespace BuildQuery

/-- The outcome of a condition. -/
inductive Truth where
  | no
  | unknown
  | yes
  deriving DecidableEq, Repr

namespace Truth

/-- The outcome of a condition that is known. -/
def ofBool : Bool → Truth
  | true => yes
  | false => no

/-- The outcome as a yes or no, if it is known. -/
def toBool? : Truth → Option Bool
  | no => some false
  | unknown => none
  | yes => some true

/-- Both conditions hold. -/
def and : Truth → Truth → Truth
  | no, _ => no
  | yes, t => t
  | unknown, no => no
  | unknown, _ => unknown

/-- At least one of the conditions holds. -/
def or : Truth → Truth → Truth
  | yes, _ => yes
  | no, t => t
  | unknown, yes => yes
  | unknown, _ => unknown

/-- The condition does not hold. -/
def not : Truth → Truth
  | no => yes
  | unknown => unknown
  | yes => no

@[simp] theorem and_no (t : Truth) : and t no = no := by cases t <;> rfl
@[simp] theorem no_and (t : Truth) : and no t = no := rfl
@[simp] theorem and_yes (t : Truth) : and t yes = t := by cases t <;> rfl
@[simp] theorem yes_and (t : Truth) : and yes t = t := rfl
@[simp] theorem or_yes (t : Truth) : or t yes = yes := by cases t <;> rfl
@[simp] theorem yes_or (t : Truth) : or yes t = yes := rfl
@[simp] theorem or_no (t : Truth) : or t no = t := by cases t <;> rfl
@[simp] theorem no_or (t : Truth) : or no t = t := rfl
@[simp] theorem not_not (t : Truth) : not (not t) = t := by cases t <;> rfl

end Truth

end BuildQuery
