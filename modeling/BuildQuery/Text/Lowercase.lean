import BuildQuery.Text.Blank
import BuildQuery.Text.Casing

/-!
# Lower case

The lower-case form of a text by the rules of the Unicode standard that hold in every language:
each character is mapped on its own, `İ` becomes two characters, and a capital sigma takes its
final form `ς` at the end of a word and `σ` elsewhere. A word ends at a sigma when the last
character before it that is not case-ignorable is cased and the first such character after it is
not. Main statement: lower-casing splits at every character that is neither cased nor
case-ignorable (`lower_append_cons`).
-/

namespace BuildQuery.Text

/-- Whether the code point is one of the upper-case ones that the range maps. -/
def CaseRange.covers (r : CaseRange) (n : Nat) : Bool :=
  decide (r.first ≤ n) && decide (n ≤ r.last) && decide ((n - r.first) % r.step = 0)

/-- The lower-case form of a code point of the range. -/
def CaseRange.image (r : CaseRange) (n : Nat) : Char :=
  Char.ofNat ((n : Int) + r.shift).toNat

/-- The lower-case form of a character by itself. -/
def lowerChar (c : Char) : List Char :=
  if c.toNat < 0x80 then [c.toLower]
  else if c = 'İ' then ['i', '\u0307']
  else match lowerRanges.find? (·.covers c.toNat) with
    | some r => [r.image c.toNat]
    | none => [c]

/-- A letter that has a case. -/
def isCased (c : Char) : Bool := inRanges casedRanges c.toNat

/-- A character that does not count when the case of a neighbour is looked up. -/
def isCaseIgnorable (c : Char) : Bool := inRanges caseIgnorableRanges c.toNat

/-- Whether the first character that counts is cased. -/
def startsCased : List Char → Bool
  | [] => false
  | c :: cs => if isCaseIgnorable c then startsCased cs else isCased c

/-- Whether the last character that counts is cased, after `c`, given the answer before it. -/
def endsCased (before : Bool) (c : Char) : Bool :=
  if isCaseIgnorable c then before else isCased c

/-- The lower-case form of `c` between what `before` says of the text before it and the text
`after` it. -/
def lowerBetween (before : Bool) (c : Char) (after : List Char) : List Char :=
  if c = 'Σ' then [if before && !startsCased after then 'ς' else 'σ'] else lowerChar c

/-- The lower-case form of a text that follows another one, of which `before` says whether its last
character that counts is cased. -/
def lowerAfter : Bool → List Char → List Char
  | _, [] => []
  | before, c :: cs => lowerBetween before c cs ++ lowerAfter (endsCased before c) cs

/-- The lower-case form of a text. -/
def lower (cs : List Char) : List Char := lowerAfter false cs

/-- The lower-case form of a string. -/
def lowercase (s : String) : String := String.ofList (lower s.toList)

@[simp] theorem lower_nil : lower [] = [] := rfl

@[simp] theorem toList_lowercase (s : String) : (lowercase s).toList = lower s.toList := by
  simp [lowercase]

/-! ## Splitting at a character without case -/

theorem startsCased_append_cons {c : Char} (ignorable : isCaseIgnorable c = false)
    (cased : isCased c = false) (cs ds : List Char) :
    startsCased (cs ++ c :: ds) = startsCased cs := by
  induction cs with
  | nil => simp [startsCased, ignorable, cased]
  | cons d cs ih => simp [startsCased, ih]

theorem lowerAfter_append_cons {c : Char} (ignorable : isCaseIgnorable c = false)
    (cased : isCased c = false) (before : Bool) (cs ds : List Char) :
    lowerAfter before (cs ++ c :: ds) =
      lowerAfter before cs ++ lowerBetween false c [] ++ lower ds := by
  induction cs generalizing before with
  | nil =>
    have notSigma : c ≠ 'Σ' := by
      rintro rfl
      revert cased
      decide
    simp [lowerAfter, lowerBetween, endsCased, lower, ignorable, cased, notSigma]
  | cons d cs ih =>
    simp only [List.cons_append, lowerAfter, ih, List.append_assoc]
    simp only [lowerBetween, startsCased_append_cons ignorable cased]

/-- A character that is neither cased nor case-ignorable separates what is before it from what is
after it. -/
theorem lower_append_cons {c : Char} (ignorable : isCaseIgnorable c = false)
    (cased : isCased c = false) (cs ds : List Char) :
    lower (cs ++ c :: ds) = lower cs ++ lower [c] ++ lower ds := by
  rw [lower, lowerAfter_append_cons ignorable cased]
  simp [lower, lowerAfter]

end BuildQuery.Text
