import BuildQuery.Pattern.Like
import BuildQuery.Proofs.GlobMatching

/-!
# What a store pattern matches

A text matches a store pattern when it is cut into one part for each piece of the pattern
(`Matches`). The matcher works on rows of marked places instead: a place is marked when the pieces
read so far can end there. What a row of marks says of the pieces that are left is
`getLast?_foldl_step`, from which `matchesTokens_iff` follows. The pattern of a glob matches what
the glob matches (`isMatch_ofGlob_iff`).
-/

namespace BuildQuery.Like

/-- The parts of a text that a piece of a pattern stands for. -/
def Token.Takes : Token → List Char → Prop
  | .anyRun, _ => True
  | .anyOne, part => part.length = 1
  | .literal c, part => part = [c]

/-- A text that a pattern stands for: the parts that its pieces take, one after another. -/
inductive Matches : List Token → List Char → Prop where
  | nil : Matches [] []
  | cons {token : Token} {pattern : List Token} {part text : List Char} (h : token.Takes part)
      (rest : Matches pattern text) : Matches (token :: pattern) (part ++ text)

theorem matches_nil_iff {text : List Char} : Matches [] text ↔ text = [] := by
  constructor
  · rintro ⟨⟩
    rfl
  · rintro rfl
    exact .nil

theorem matches_cons_iff {token : Token} {pattern : List Token} {text : List Char} :
    Matches (token :: pattern) text ↔
      ∃ part rest, text = part ++ rest ∧ token.Takes part ∧ Matches pattern rest := by
  constructor
  · rintro ⟨⟩
    exact ⟨_, _, rfl, ‹_›, ‹_›⟩
  · rintro ⟨part, rest, rfl, h, hm⟩
    exact .cons h hm

/-! ## Rows of marks -/

/-- Spreading marks every place at or after a marked one. -/
theorem getElem?_spread {marked : Bool} {row : List Bool} {j : Nat} :
    (spread marked row)[j]? = some true ↔
      j < row.length ∧ (marked = true ∨ ∃ i ≤ j, row[i]? = some true) := by
  induction row generalizing marked j with
  | nil => simp [spread]
  | cons m row ih =>
    rw [spread]
    cases j with
    | zero => simp
    | succ j =>
      rw [List.getElem?_cons_succ, ih, List.length_cons, Bool.or_eq_true, or_assoc]
      refine and_congr (by omega) (or_congr Iff.rfl ?_)
      constructor
      · rintro (rfl | ⟨i, hi, h⟩)
        · exact ⟨0, by omega, rfl⟩
        · exact ⟨i + 1, by omega, h⟩
      · rintro ⟨i, hi, h⟩
        cases i with
        | zero => exact .inl (by simpa using h)
        | succ i => exact .inr ⟨i, by omega, h⟩

/-- Advancing moves a mark over one accepted character. -/
theorem getElem?_advance {accepts : Char → Bool} {text : List Char} {row : List Bool} {j : Nat} :
    (advance accepts text row)[j]? = some true ↔
      ∃ i c, j = i + 1 ∧ row[i]? = some true ∧ text[i]? = some c ∧ accepts c = true := by
  unfold advance
  cases j with
  | zero => simp
  | succ j =>
    rw [List.getElem?_cons_succ, List.getElem?_zipWith_eq_some]
    constructor
    · rintro ⟨c, m, hc, hm, h⟩
      rw [Bool.and_eq_true] at h
      exact ⟨j, c, rfl, h.2 ▸ hm, hc, h.1⟩
    · rintro ⟨i, c, hi, hm, hc, h⟩
      obtain rfl : j = i := by omega
      exact ⟨c, true, hc, hm, by rw [h, Bool.and_self]⟩

theorem length_spread (marked : Bool) (row : List Bool) :
    (spread marked row).length = row.length := by
  induction row generalizing marked with
  | nil => rfl
  | cons m row ih => simp [spread, ih]

theorem length_step {text : List Char} {row : List Bool} (hr : row.length = text.length + 1)
    (token : Token) : (step text row token).length = text.length + 1 := by
  cases token with
  | anyRun => rw [step, length_spread, hr]
  | anyOne => simp [step, advance, hr]
  | literal c => simp [step, advance, hr]

/-- The part of a text between a place and the next one. -/
theorem take_one_drop_eq_iff {text : List Char} {i : Nat} {c : Char} :
    (text.drop i).take 1 = [c] ↔ text[i]? = some c := by
  rw [List.take_one, List.head?_drop]
  cases text[i]? <;> simp

/-- One piece moves a mark over a part that it takes. -/
theorem getElem?_step {text : List Char} {row : List Bool} (hr : row.length = text.length + 1)
    (token : Token) (j : Nat) :
    (step text row token)[j]? = some true ↔
      j ≤ text.length ∧
        ∃ i ≤ j, row[i]? = some true ∧ token.Takes ((text.drop i).take (j - i)) := by
  cases token with
  | anyRun =>
    simp only [step, getElem?_spread, hr, Token.Takes, Bool.false_eq_true, false_or, and_true]
    exact and_congr_left fun _ => Nat.lt_succ_iff
  | anyOne =>
    simp only [step, getElem?_advance, Token.Takes, List.length_take, List.length_drop]
    constructor
    · rintro ⟨i, c, rfl, hm, hc, -⟩
      have := (List.getElem?_eq_some_iff.1 hc).1
      exact ⟨by omega, i, by omega, hm, by omega⟩
    · rintro ⟨hj, i, hi, hm, h⟩
      exact ⟨i, text[i], by omega, hm, List.getElem?_eq_getElem (by omega), trivial⟩
  | literal d =>
    simp only [step, getElem?_advance, Token.Takes, beq_iff_eq]
    constructor
    · rintro ⟨i, c, rfl, hm, hc, rfl⟩
      have := (List.getElem?_eq_some_iff.1 hc).1
      refine ⟨by omega, i, by omega, hm, ?_⟩
      rw [Nat.add_sub_cancel_left]
      exact take_one_drop_eq_iff.2 hc
    · rintro ⟨hj, i, hi, hm, h⟩
      have len := congrArg List.length h
      rw [List.length_take, List.length_drop, List.length_singleton] at len
      obtain rfl : j = i + 1 := by omega
      rw [Nat.add_sub_cancel_left] at h
      exact ⟨i, d, rfl, hm, take_one_drop_eq_iff.1 h, rfl⟩

/-- The pieces that are left lead from a marked place to the end of the text. -/
theorem getLast?_foldl_step {text : List Char} (pattern : List Token) {row : List Bool}
    (hr : row.length = text.length + 1) :
    (pattern.foldl (step text) row).getLast? = some true ↔
      ∃ i, row[i]? = some true ∧ Matches pattern (text.drop i) := by
  induction pattern generalizing row with
  | nil =>
    rw [List.foldl_nil, List.getLast?_eq_getElem?, hr, Nat.add_sub_cancel]
    simp only [matches_nil_iff, List.drop_eq_nil_iff]
    constructor
    · intro h
      exact ⟨_, h, Nat.le_refl _⟩
    · rintro ⟨i, h, hi⟩
      have := (List.getElem?_eq_some_iff.1 h).1
      obtain rfl : i = text.length := by omega
      exact h
  | cons token pattern ih =>
    rw [List.foldl_cons, ih (length_step hr token)]
    simp only [getElem?_step hr, matches_cons_iff]
    constructor
    · rintro ⟨j, ⟨hj, i, hi, hm, ht⟩, h⟩
      refine ⟨i, hm, _, _, ?_, ht, h⟩
      have e : text.drop j = (text.drop i).drop (j - i) := by
        rw [List.drop_drop, Nat.add_sub_cancel' hi]
      rw [e, List.take_append_drop]
    · rintro ⟨i, hm, part, rest, e, ht, h⟩
      have hi := (List.getElem?_eq_some_iff.1 hm).1
      have len := congrArg List.length e
      rw [List.length_drop, List.length_append] at len
      refine ⟨i + part.length, ⟨by omega, i, by omega, hm, ?_⟩, ?_⟩
      · rwa [Nat.add_sub_cancel_left, e, List.take_left]
      · rwa [← List.drop_drop, e, List.drop_left]

/-- The matcher accepts exactly the texts that the pattern stands for. -/
theorem matchesTokens_iff (pattern : List Token) (text : List Char) :
    matchesTokens pattern text = true ↔ Matches pattern text := by
  unfold matchesTokens
  rw [beq_iff_eq, getLast?_foldl_step pattern (by simp)]
  constructor
  · rintro ⟨i, hi, h⟩
    cases i with
    | zero => exact h
    | succ i =>
      rw [List.getElem?_cons_succ] at hi
      obtain ⟨c, -, e⟩ := List.mem_map.1 (List.mem_of_getElem? hi)
      contradiction
  · intro h
    exact ⟨0, rfl, h⟩

/-! ## Patterns of globs -/

/-- The piece of a pattern for a character of a glob. -/
def ofGlobToken (c : Char) : Token := if c = Glob.wildcard then .anyRun else .literal c

/-- A character of a glob is read back as one piece, whatever pattern text follows it. -/
theorem tokens_ofGlobChar_append (c : Char) (rest : List Char) :
    tokens (ofGlobChar c ++ rest) = ofGlobToken c :: tokens rest := by
  unfold ofGlobChar ofGlobToken
  by_cases hw : c = Glob.wildcard
  · rw [if_pos hw, if_pos hw]
    cases rest <;> simp [tokens]
  · rw [if_neg hw, if_neg hw]
    by_cases hs : c = '%' ∨ c = '_' ∨ c = escape
    · have special : (c = '%' || c = '_' || c = escape) = true := by simpa [or_assoc] using hs
      rw [if_pos special]
      simp [tokens, escape]
    · have plain : ¬ (c = '%' || c = '_' || c = escape) = true := by simpa [or_assoc] using hs
      rw [if_neg plain]
      simp only [not_or] at hs
      cases rest <;> simp [tokens, hs]

theorem tokens_ofGlob (glob : List Char) : tokens (ofGlob glob) = glob.map ofGlobToken := by
  induction glob with
  | nil => rfl
  | cons c glob ih =>
    rw [ofGlob, List.flatMap_cons, tokens_ofGlobChar_append, List.map_cons, ← ih, ofGlob]

theorem matches_map_ofGlobToken {glob text : List Char} :
    Matches (glob.map ofGlobToken) text ↔ Glob.Matches glob text := by
  induction glob generalizing text with
  | nil => rw [List.map_nil, matches_nil_iff, Glob.matches_nil_iff]
  | cons c glob ih =>
    rw [List.map_cons, matches_cons_iff]
    simp only [ih]
    by_cases hw : c = Glob.wildcard
    · subst hw
      rw [Glob.matches_run_iff]
      constructor
      · rintro ⟨part, rest, rfl, -, h⟩
        exact ⟨rest, List.suffix_append _ _, h⟩
      · rintro ⟨rest, ⟨part, rfl⟩, h⟩
        exact ⟨part, rest, rfl, trivial, h⟩
    · rw [Glob.matches_char_iff hw, ofGlobToken, if_neg hw]
      constructor
      · rintro ⟨_, rest, rfl, rfl, h⟩
        exact ⟨rest, rfl, h⟩
      · rintro ⟨rest, rfl, h⟩
        exact ⟨[c], rest, rfl, rfl, h⟩

/-- The pattern of a glob stands for the same texts as the glob. -/
theorem isMatch_ofGlob_iff (glob text : List Char) :
    isMatch (ofGlob glob) text = true ↔ Glob.Matches glob text := by
  rw [isMatch, tokens_ofGlob, matchesTokens_iff, matches_map_ofGlobToken]

end BuildQuery.Like
