/-!
# Blank characters and trimming

A character is blank when it has the Unicode property `White_Space`. Operands, field names and path
segments are read without the blanks around them. Main statements: `trim` is idempotent
(`trim_trim`), and a trimmed text is empty exactly when the text is blank (`trim_eq_nil_iff`).
-/

namespace BuildQuery.Text

/-- The characters with the Unicode property `White_Space`, as ascending inclusive ranges of code
points. -/
def blankRanges : List (Nat × Nat) :=
  [(0x09, 0x0D), (0x20, 0x20), (0x85, 0x85), (0xA0, 0xA0), (0x1680, 0x1680), (0x2000, 0x200A),
    (0x2028, 0x2029), (0x202F, 0x202F), (0x205F, 0x205F), (0x3000, 0x3000)]

/-- Whether a code point lies in one of the ascending inclusive ranges. -/
def inRanges : List (Nat × Nat) → Nat → Bool
  | [], _ => false
  | (first, last) :: ranges, n =>
    if n < first then false else if n ≤ last then true else inRanges ranges n

/-- A blank character. -/
def isBlank (c : Char) : Bool := inRanges blankRanges c.toNat

/-- The text after its leading blanks. -/
def trimLeft (cs : List Char) : List Char := cs.dropWhile isBlank

/-- The text before its trailing blanks. -/
def trimRight (cs : List Char) : List Char := (trimLeft cs.reverse).reverse

/-- The text without the blanks at either end. -/
def trim (cs : List Char) : List Char := trimRight (trimLeft cs)

/-- The string without the blanks at either end. -/
def trimmed (s : String) : String := String.ofList (trim s.toList)

/-- A string of blanks only, the empty one included. -/
def isBlankString (s : String) : Bool := s.toList.all isBlank

/-! ## Trimming on either side -/

@[simp] theorem trimLeft_nil : trimLeft [] = [] := rfl

theorem trimLeft_cons (c : Char) (cs : List Char) :
    trimLeft (c :: cs) = if isBlank c then trimLeft cs else c :: cs := by
  unfold trimLeft
  rw [List.dropWhile_cons]

theorem trimLeft_eq_nil_iff {cs : List Char} : trimLeft cs = [] ↔ cs.all isBlank = true := by
  induction cs with
  | nil => simp
  | cons c cs ih =>
    rw [trimLeft_cons]
    by_cases h : isBlank c <;> simp_all

/-- A text is left alone exactly when it does not begin with a blank. -/
theorem trimLeft_eq_self_iff {cs : List Char} :
    trimLeft cs = cs ↔ ∀ c ∈ cs.head?, isBlank c = false := by
  cases cs with
  | nil => simp
  | cons c cs =>
    rw [trimLeft_cons]
    by_cases h : isBlank c
    · simp only [h, ↓reduceIte, List.head?_cons, Option.mem_def, Option.some.injEq, forall_eq',
        Bool.true_eq_false, iff_false]
      intro e
      have := congrArg List.length e
      have le : (trimLeft cs).length ≤ cs.length := (List.dropWhile_suffix _).length_le
      simp only [List.length_cons] at this
      omega
    · simp [h]

theorem head?_trimLeft (cs : List Char) : ∀ c ∈ (trimLeft cs).head?, isBlank c = false := by
  induction cs with
  | nil => simp
  | cons c cs ih =>
    rw [trimLeft_cons]
    by_cases h : isBlank c
    · simpa [h] using ih
    · simp [h]

/-- What is trimmed from the left is a run of blanks. -/
theorem exists_append_trimLeft (cs : List Char) :
    ∃ blanks, blanks.all isBlank = true ∧ cs = blanks ++ trimLeft cs := by
  refine ⟨cs.takeWhile isBlank, by simp, ?_⟩
  exact List.takeWhile_append_dropWhile.symm

theorem trimRight_eq_self_iff {cs : List Char} :
    trimRight cs = cs ↔ ∀ c ∈ cs.getLast?, isBlank c = false := by
  rw [trimRight, List.reverse_eq_iff, trimLeft_eq_self_iff, List.head?_reverse]

theorem getLast?_trimRight (cs : List Char) :
    ∀ c ∈ (trimRight cs).getLast?, isBlank c = false := by
  rw [trimRight, List.getLast?_reverse]
  exact head?_trimLeft _

/-! ## Trimming on both sides -/

/-- A text is left alone exactly when neither end is blank. -/
theorem trim_eq_self_iff {cs : List Char} :
    trim cs = cs ↔
      (∀ c ∈ cs.head?, isBlank c = false) ∧ ∀ c ∈ cs.getLast?, isBlank c = false := by
  constructor
  · intro h
    have left : trimLeft cs = cs := by
      have len : (trim cs).length ≤ (trimLeft cs).length := by
        rw [trim, trimRight, List.length_reverse]
        calc (trimLeft (trimLeft cs).reverse).length
            ≤ (trimLeft cs).reverse.length := (List.dropWhile_suffix _).length_le
          _ = (trimLeft cs).length := List.length_reverse
      have len' : (trimLeft cs).length ≤ cs.length := (List.dropWhile_suffix _).length_le
      rw [h] at len
      exact (List.dropWhile_suffix _).eq_of_length (by unfold trimLeft at *; omega)
    refine ⟨trimLeft_eq_self_iff.1 left, trimRight_eq_self_iff.1 ?_⟩
    rwa [trim, left] at h
  · rintro ⟨first, last⟩
    rw [trim, trimLeft_eq_self_iff.2 first, trimRight_eq_self_iff.2 last]

@[simp] theorem trim_nil : trim [] = [] := rfl

/-- The leading blanks are gone from what trimming the right end leaves. -/
theorem head?_trimRight {cs : List Char} (h : ∀ c ∈ cs.head?, isBlank c = false) :
    ∀ c ∈ (trimRight cs).head?, isBlank c = false := by
  obtain ⟨blanks, _, e⟩ := exists_append_trimLeft cs.reverse
  have e' : cs = trimRight cs ++ blanks.reverse := by
    rw [trimRight, ← List.reverse_append, ← e, List.reverse_reverse]
  cases hr : trimRight cs with
  | nil => simp
  | cons d ds =>
    rw [hr] at e'
    simpa [e'] using h

@[simp] theorem trim_trim (cs : List Char) : trim (trim cs) = trim cs :=
  trim_eq_self_iff.2 ⟨head?_trimRight (head?_trimLeft cs), getLast?_trimRight _⟩

theorem trim_eq_nil_iff {cs : List Char} : trim cs = [] ↔ cs.all isBlank = true := by
  rw [trim, trimRight, List.reverse_eq_nil_iff, trimLeft_eq_nil_iff, List.all_reverse]
  constructor
  · intro h
    obtain ⟨blanks, hb, e⟩ := exists_append_trimLeft cs
    rw [e, List.all_append, hb, h, Bool.and_self]
  · intro h
    simp [trimLeft_eq_nil_iff.2 h]

/-- Trimming removes characters and adds none. -/
theorem mem_of_mem_trim {c : Char} {cs : List Char} (h : c ∈ trim cs) : c ∈ cs := by
  unfold trim trimRight trimLeft at h
  have h := (List.dropWhile_suffix _).mem (List.mem_reverse.1 h)
  exact (List.dropWhile_suffix _).mem (List.mem_reverse.1 h)

/-! ## Strings -/

@[simp] theorem toList_trimmed (s : String) : (trimmed s).toList = trim s.toList := by
  simp [trimmed]

@[simp] theorem trimmed_trimmed (s : String) : trimmed (trimmed s) = trimmed s := by
  simp [trimmed]

/-- Trimming leaves something of every text that is not blank. -/
@[simp] theorem isBlankString_trimmed (s : String) :
    isBlankString (trimmed s) = isBlankString s := by
  rw [isBlankString, isBlankString, Bool.eq_iff_iff, toList_trimmed, ← trim_eq_nil_iff,
    ← trim_eq_nil_iff, trim_trim]

end BuildQuery.Text
