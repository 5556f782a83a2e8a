import BuildQuery.Text.Lowercase

/-!
# Characters that lower-casing keeps

The characters before the capital letters in the order of code points, among them the slash and the
star, have no case. Main statements: lower-casing neither adds nor removes one of them
(`mem_lower_iff`), and it acts on each piece of a text between slashes on its own
(`lower_intercalate`).
-/

namespace BuildQuery.Text

/-- Whether a character comes before the capital letters. -/
def IsPlain (c : Char) : Prop := 0 < c.toNat ∧ c.toNat < 65

instance (c : Char) : Decidable (IsPlain c) := inferInstanceAs (Decidable (_ ∧ _))

theorem toNat_ofNat_eq_or (n : Nat) : (Char.ofNat n).toNat = n ∨ (Char.ofNat n).toNat = 0 := by
  by_cases h : n.isValidChar
  · rw [Char.ofNat, dif_pos h]
    exact .inl rfl
  · rw [Char.ofNat, dif_neg h]
    exact .inr rfl

/-- The lower-case forms outside ASCII are not plain. -/
theorem not_isPlain_image {r : CaseRange} {n : Nat} (hr : r ∈ lowerRanges)
    (covers : r.covers n = true) : ¬ IsPlain (r.image n) := by
  have key : ∀ r ∈ lowerRanges, 65 ≤ (r.first : Int) + r.shift := by decide +kernel
  have first : r.first ≤ n := by
    unfold CaseRange.covers at covers
    rw [Bool.and_eq_true, Bool.and_eq_true] at covers
    exact of_decide_eq_true covers.1.1
  rintro ⟨pos, lt⟩
  unfold CaseRange.image at pos lt
  have bound := key r hr
  rcases toNat_ofNat_eq_or ((n : Int) + r.shift).toNat with e | e <;> omega

/-- The ASCII capitals and their lower-case forms are not plain. -/
theorem toLower_eq_self_or {c : Char} (h : c.toNat < 0x80) :
    c.toLower = c ∨ ¬ IsPlain c ∧ ¬ IsPlain c.toLower := by
  have key : ∀ n < 0x80, (Char.ofNat n).toLower = Char.ofNat n ∨
      ¬ IsPlain (Char.ofNat n) ∧ ¬ IsPlain (Char.ofNat n).toLower := by decide
  have := key c.toNat h
  rwa [Char.ofNat_toNat] at this

/-- A plain character is its own lower-case form and nothing else's. -/
theorem mem_lowerChar_iff {c d : Char} (h : IsPlain c) : c ∈ lowerChar d ↔ c = d := by
  unfold lowerChar
  split
  · next ascii =>
    rw [List.mem_singleton]
    rcases toLower_eq_self_or ascii with e | ⟨hd, hl⟩
    · rw [e]
    · refine iff_of_false ?_ ?_
      · rintro rfl
        exact hl h
      · rintro rfl
        exact hd h
  · next wide =>
    split
    · next dotted =>
      refine iff_of_false ?_ ?_
      · intro hc
        rcases List.mem_cons.1 hc with rfl | hc
        · exact absurd h (by decide)
        · obtain rfl := List.mem_singleton.1 hc
          exact absurd h (by decide)
      · rintro rfl
        exact wide (Nat.lt_trans h.2 (by decide))
    · split
      · next r found =>
        have covers := List.find?_some found
        have image := not_isPlain_image (List.mem_of_find?_eq_some found) covers
        rw [List.mem_singleton]
        refine iff_of_false ?_ ?_
        · rintro rfl
          exact image h
        · rintro rfl
          exact wide (Nat.lt_trans h.2 (by decide))
      · rw [List.mem_singleton]

theorem mem_lowerBetween_iff {c d : Char} (h : IsPlain c) (before : Bool) (after : List Char) :
    c ∈ lowerBetween before d after ↔ c = d := by
  unfold lowerBetween
  split
  · next sigma =>
    have capital : ¬ c = d := by
      rintro rfl
      rw [sigma] at h
      exact absurd h (by decide)
    refine iff_of_false ?_ capital
    rw [List.mem_singleton]
    rintro rfl
    revert h
    split <;> decide
  · exact mem_lowerChar_iff h

/-- Lower-casing neither adds nor removes a plain character. -/
theorem mem_lower_iff {c : Char} (h : IsPlain c) {cs : List Char} : c ∈ lower cs ↔ c ∈ cs := by
  suffices key : ∀ before, c ∈ lowerAfter before cs ↔ c ∈ cs from key false
  induction cs with
  | nil => exact fun _ => Iff.rfl
  | cons d cs ih =>
    intro before
    rw [lowerAfter, List.mem_append, mem_lowerBetween_iff h, ih, List.mem_cons]

/-- Lower-casing acts on every piece between slashes on its own. -/
theorem lower_intercalate (pieces : List (List Char)) :
    lower (['/'].intercalate pieces) = ['/'].intercalate (pieces.map lower) := by
  induction pieces with
  | nil => rfl
  | cons piece pieces ih =>
    cases pieces with
    | nil => rw [List.map_singleton, List.intercalate_singleton, List.intercalate_singleton]
    | cons next pieces =>
      rw [List.map_cons, List.map_cons, List.intercalate_cons_cons, List.intercalate_cons_cons,
        List.append_assoc, List.singleton_append, lower_append_cons (by decide) (by decide), ih]
      rfl

end BuildQuery.Text
