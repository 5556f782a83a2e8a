import BuildQuery.Proofs.LoweredGlobs

/-!
# Matches lost in lower case

A glob that is not settled stands for a text in which one of its sigmas takes another form: a star
next to the sigma takes a letter where the glob has none, and all other stars take blanks, which
have no more case than stars. The form that the sigma has in the glob is then rarer in the text than
in the glob, so in lower case the glob does not match the text (`exists_loses`).

Main statements: the settled globs are those that lose no match by lower-casing, whether they are
matched with texts or with paths (`settled_iff_isMatch_lower`, `settled_iff_isPathMatch_lower`).
-/

namespace BuildQuery

open Text

namespace Glob

variable {c : Char} {t : Truth} {b b' : Bool} {glob text : List Char}

/-! ## Stars taken for blanks -/

/-- A glob with a blank in the place of each star. -/
def spaced (glob : List Char) : List Char := glob.map fun c => if c = wildcard then ' ' else c

/-- Whether a character is a lower-case form of the capital sigma. -/
def IsSigma (c : Char) : Prop := c = 'σ' ∨ c = 'ς'

theorem IsSigma.ne {d : Char} (h : IsSigma c) (hd : d ≠ 'σ' ∧ d ≠ 'ς') : d ≠ c := by
  rcases h with rfl | rfl
  · exact hd.1
  · exact hd.2

@[simp] theorem spaced_wildcard_cons (glob : List Char) :
    spaced (wildcard :: glob) = ' ' :: spaced glob := rfl

theorem spaced_cons_of_ne (h : c ≠ wildcard) (glob : List Char) :
    spaced (c :: glob) = c :: spaced glob := by
  rw [spaced, List.map_cons, if_neg h]
  rfl

theorem spaced_append (glob rest : List Char) :
    spaced (glob ++ rest) = spaced glob ++ spaced rest :=
  List.map_append

theorem spaced_eq_self (h : wildcard ∉ glob) : spaced glob = glob := by
  refine (List.map_congr_left fun c hc => if_neg ?_).trans (List.map_id glob)
  rintro rfl
  exact h hc

theorem count_spaced (h : wildcard ≠ c) (h' : ' ' ≠ c) (glob : List Char) :
    (spaced glob).count c = glob.count c := by
  induction glob with
  | nil => rfl
  | cons d glob ih =>
    by_cases star : d = wildcard
    · rw [star, spaced_wildcard_cons, List.count_cons_of_ne h', List.count_cons_of_ne h, ih]
    · rw [spaced_cons_of_ne star, List.count_cons, List.count_cons, ih]

theorem matches_spaced (glob : List Char) : Matches glob (spaced glob) := by
  induction glob with
  | nil => exact .nil
  | cons c glob ih =>
    by_cases star : c = wildcard
    · rw [star]
      exact .run [' '] ih
    · rw [spaced_cons_of_ne star]
      exact .char star ih

theorem startsCased_spaced (glob : List Char) : startsCased (spaced glob) = startsCased glob := by
  induction glob with
  | nil => rfl
  | cons c glob ih =>
    by_cases star : c = wildcard
    · rw [star, startsCased_wildcard_cons, spaced_wildcard_cons, startsCased, if_neg (by decide)]
      decide
    · rw [spaced_cons_of_ne star, startsCased, startsCased, ih]

/-- Blanks have no more case than stars. -/
theorem lowerAfter_spaced (b : Bool) (glob : List Char) :
    lowerAfter b (spaced glob) = spaced (lowerAfter b glob) := by
  induction glob generalizing b with
  | nil => rfl
  | cons c glob ih =>
    by_cases star : c = wildcard
    · have blank : endsCased b ' ' = false := by cases b <;> decide
      rw [star, spaced_wildcard_cons, lowerAfter_wildcard_cons, spaced_wildcard_cons, lowerAfter,
        blank, ih, lowerBetween_of_ne (by decide)]
      rfl
    · have free : wildcard ∉ lowerBetween b c glob := by
        rw [mem_lowerBetween_iff (by decide)]
        exact Ne.symm star
      rw [spaced_cons_of_ne star, lowerAfter, lowerAfter, spaced_append, spaced_eq_self free, ih,
        lowerBetween, lowerBetween, startsCased_spaced]

theorem lowerAfter_letter (b : Bool) (rest : List Char) :
    lowerAfter b ('a' :: rest) = 'a' :: lowerAfter true rest := by
  have cased : endsCased b 'a' = true := by cases b <;> decide
  rw [lowerAfter, cased, lowerBetween_of_ne (by decide)]
  rfl

/-! ## Sigmas that are not settled -/

/-- What becomes of a glob when letters are put next to its stars, before the stars are taken for
blanks: the glob stands for the result, in which a form of the sigma is rarer than in the glob. -/
structure Loses (sigma : Char) (b b' : Bool) (glob filled : List Char) : Prop where
  matched : Matches glob (spaced filled)
  flat : filled.count separator = glob.count separator
  start : startsCased filled = startsCased glob
  fewer : (lowerAfter b' filled).count sigma < (lowerAfter b glob).count sigma

/-- Where the stars decide whether a glob begins with a letter, one of them can take a letter. -/
theorem exists_letter_first (h : startsCasedIn glob = .unknown) :
    ∃ filled, Matches glob (spaced filled) ∧ filled.count separator = glob.count separator ∧
      startsCased filled = true ∧ ∀ b s, IsSigma s →
        (lowerAfter b filled).count s = (lowerAfter b glob).count s := by
  induction glob with
  | nil => contradiction
  | cons c glob ih =>
    by_cases star : c = wildcard
    · subst star
      have letter (rest : List Char) : startsCased ('a' :: rest) = true := by
        rw [startsCased, if_neg (by decide)]
        decide
      refine ⟨'a' :: wildcard :: glob, .run ['a', ' '] (matches_spaced glob), rfl, letter _,
        fun b s hs => ?_⟩
      rw [lowerAfter_letter, List.count_cons_of_ne (hs.ne (by decide)), lowerAfter_wildcard_cons,
        lowerAfter_wildcard_cons]
    · rw [startsCasedIn, if_neg star] at h
      split at h
      · next ignorable =>
        obtain ⟨filled, m, flat, start, same⟩ := ih h
        have noSigma := ne_sigma_of_isCaseIgnorable ignorable
        refine ⟨c :: filled, ?_, ?_, ?_, fun b s hs => ?_⟩
        · rw [spaced_cons_of_ne star]
          exact .char star m
        · rw [List.count_cons, List.count_cons, flat]
        · rw [startsCased, if_pos ignorable, start]
        · rw [lowerAfter, lowerAfter, List.count_append, List.count_append, same _ s hs,
            lowerBetween_of_ne noSigma, lowerBetween_of_ne noSigma]
      · cases hc : isCased c <;> rw [hc] at h <;> contradiction

/-- What is known after a character that is not a star was known of the text before it. -/
theorem exists_allows_before (literal : c ≠ wildcard) (h : (endsCasedIn t c).Allows b) :
    ∃ b', t.Allows b' ∧ endsCased b' c = b ∧
      (isCaseIgnorable c = false → b' = decide (t = .yes)) := by
  rw [endsCasedIn, if_neg literal] at h
  cases ignorable : isCaseIgnorable c with
  | true =>
    rw [ignorable, if_pos rfl] at h
    exact ⟨b, h, if_pos ignorable, fun counts => absurd counts.symm Bool.false_ne_true⟩
  | false =>
    rw [ignorable, if_neg Bool.false_ne_true] at h
    refine ⟨_, t.allows_isYes, ?_, fun _ => rfl⟩
    rw [endsCased, ignorable, if_neg Bool.false_ne_true]
    exact (Truth.eq_of_ofBool_allows h).symm

section Loses

variable {s : Char} {filled : List Char}

/-- A star takes a blank, and a letter behind it if one is needed there. -/
theorem Loses.run (h : Loses s false b' glob filled) (hs : IsSigma s) :
    ∃ filled', ∀ b b'', Loses s b b'' (wildcard :: glob) filled' := by
  obtain ⟨m, flat, start, fewer⟩ := h
  have notStar : wildcard ≠ s := hs.ne (by decide)
  cases b' with
  | false =>
    refine ⟨wildcard :: filled, fun b b'' => ⟨.run [' '] m, ?_, ?_, ?_⟩⟩
    · rw [List.count_cons, List.count_cons, flat]
    · rw [startsCased_wildcard_cons, startsCased_wildcard_cons]
    · rw [lowerAfter_wildcard_cons, lowerAfter_wildcard_cons, List.count_cons_of_ne notStar,
        List.count_cons_of_ne notStar]
      exact fewer
  | true =>
    refine ⟨wildcard :: 'a' :: filled, fun b b'' => ⟨.run [' ', 'a'] m, ?_, ?_, ?_⟩⟩
    · rw [List.count_cons, List.count_cons_of_ne (by decide), List.count_cons, flat]
    · rw [startsCased_wildcard_cons, startsCased_wildcard_cons]
    · rw [lowerAfter_wildcard_cons, lowerAfter_wildcard_cons, lowerAfter_letter,
        List.count_cons_of_ne notStar, List.count_cons_of_ne notStar,
        List.count_cons_of_ne (hs.ne (by decide))]
      exact fewer

/-- A character in front keeps its form. -/
theorem Loses.char (h : Loses s (endsCased b c) (endsCased b' c) glob filled)
    (literal : c ≠ wildcard) (same : c = 'Σ' → b' = b) :
    Loses s b b' (c :: glob) (c :: filled) := by
  have form : lowerBetween b' c filled = lowerBetween b c glob := by
    by_cases sigma : c = 'Σ'
    · rw [lowerBetween, lowerBetween, same sigma, h.start]
    · rw [lowerBetween_of_ne sigma, lowerBetween_of_ne sigma]
  refine ⟨?_, ?_, ?_, ?_⟩
  · rw [spaced_cons_of_ne literal]
    exact .char literal h.matched
  · rw [List.count_cons, List.count_cons, h.flat]
  · rw [startsCased, startsCased, h.start]
  · rw [lowerAfter, lowerAfter, form, List.count_append, List.count_append]
    exact Nat.add_lt_add_left h.fewer _

theorem lowerAfter_sigma_cons (b : Bool) (rest : List Char) :
    lowerAfter b ('Σ' :: rest) =
      (if b && !startsCased rest then 'ς' else 'σ') :: lowerAfter true rest := by
  have cased : endsCased b 'Σ' = true := by cases b <;> decide
  rw [lowerAfter, cased, lowerBetween, if_pos rfl]
  rfl

/-- A sigma behind a star is final when the star takes a letter. -/
theorem loses_behind_star (last : startsCased glob = false) :
    Loses 'σ' false true ('Σ' :: glob) ('Σ' :: glob) := by
  refine ⟨matches_spaced _, rfl, rfl, ?_⟩
  rw [lowerAfter_sigma_cons, lowerAfter_sigma_cons, last]
  show ('ς' :: lowerAfter true glob).count 'σ' < ('σ' :: lowerAfter true glob).count 'σ'
  rw [List.count_cons_of_ne (by decide), List.count_cons_self]
  exact Nat.lt_succ_self _

/-- A sigma before a star is not final when the star takes a letter. -/
theorem exists_loses_before_star (h : startsCasedIn glob = .unknown) :
    ∃ filled, Loses 'ς' true true ('Σ' :: glob) ('Σ' :: filled) := by
  obtain ⟨filled, m, flat, start, same⟩ := exists_letter_first h
  have last : startsCased glob = false := by
    rw [startsCased_eq, h]
    rfl
  refine ⟨filled, ?_, ?_, ?_, ?_⟩
  · rw [spaced_cons_of_ne (by decide)]
    exact .char (by decide) m
  · rw [List.count_cons, List.count_cons, flat]
  · rw [startsCased, startsCased, if_neg (by decide), if_neg (by decide)]
  · rw [lowerAfter_sigma_cons, lowerAfter_sigma_cons, start, last]
    show ('σ' :: lowerAfter true filled).count 'ς' < ('ς' :: lowerAfter true glob).count 'ς'
    rw [List.count_cons_of_ne (by decide), List.count_cons_self, same true 'ς' (.inr rfl)]
    exact Nat.lt_succ_self _

end Loses

/-- A sigma that is not settled loses its form in some text that the glob stands for. -/
theorem exists_loses (h : settled t glob = false) :
    ∃ filled s b, t.Allows b ∧ IsSigma s ∧ Loses s (decide (t = .yes)) b glob filled := by
  induction glob generalizing t with
  | nil => contradiction
  | cons c glob ih =>
    by_cases star : c = wildcard
    · subst star
      obtain ⟨_, s, b, -, hs, loses⟩ := ih (t := .unknown) h
      obtain ⟨filled, loses⟩ := loses.run hs
      exact ⟨filled, s, _, t.allows_isYes, hs, loses _ _⟩
    · rw [settled, Bool.and_eq_false_iff] at h
      rcases h with here | later
      · obtain ⟨rfl, open'⟩ : c = 'Σ' ∧ t.and (startsCasedIn glob).not = .unknown := by
          simpa using here
        -- either side of the sigma can be the open one
        cases t with
        | no => contradiction
        | unknown =>
          have last : startsCased glob = false := by
            rw [startsCased_eq, decide_eq_false_iff_not]
            intro letter
            rw [letter] at open'
            contradiction
          exact ⟨_, 'σ', true, .inl rfl, .inl rfl, loses_behind_star last⟩
        | yes =>
          rw [Truth.yes_and, Truth.not_eq_unknown_iff] at open'
          obtain ⟨filled, loses⟩ := exists_loses_before_star open'
          exact ⟨_, 'ς', true, .inr rfl, .inr rfl, loses⟩
      · obtain ⟨filled, s, b, known, hs, loses⟩ := ih later
        obtain ⟨b', known', rfl, own⟩ := exists_allows_before star known
        rw [← endsCased_eq star] at loses
        refine ⟨_, s, b', known', hs, loses.char star ?_⟩
        rintro rfl
        exact own (by decide)

/-- A glob that is not settled loses a match by lower-casing. -/
theorem exists_matches_of_not_settled (h : settled .no glob = false) :
    ∃ text s, IsSigma s ∧ Matches glob text ∧ glob.count separator = text.count separator ∧
      (lower text).count s < (lower glob).count s := by
  obtain ⟨filled, s, b, known, hs, m, flat, -, fewer⟩ := exists_loses h
  obtain rfl : b = false := Truth.eq_of_ofBool_allows known
  refine ⟨spaced filled, s, hs, m, ?_, ?_⟩
  · rw [count_spaced (by decide) (by decide), flat]
  · rw [lower, lowerAfter_spaced, count_spaced (hs.ne (by decide)) (hs.ne (by decide))]
    exact fewer

/-- The settled globs are those for which every text that they match is matched in lower case. -/
theorem settled_iff_isMatch_lower : settled .no glob = true ↔
    ∀ text, isMatch glob text = true → isMatch (lower glob) (lower text) = true := by
  constructor
  · exact fun fixed text h => isMatch_lower h (.inl fixed)
  · intro keeps
    rw [← Bool.not_eq_false]
    intro h
    obtain ⟨text, s, hs, m, -, fewer⟩ := exists_matches_of_not_settled h
    have kept := (isMatch_iff _ _).1 (keeps text ((isMatch_iff _ _).2 m))
    exact Nat.not_lt.2 (count_le_of_matches (hs.ne (by decide)).symm kept) fewer

/-! ## Path globs -/

section Paths

variable {pattern path : List (List Char)}

theorem matchesSegments_of_forall₂ (h : List.Forall₂ Matches pattern path) :
    matchesSegments pattern path = true := by
  induction h with
  | nil => rfl
  | cons first _ ih => exact matchesSegments_cons ((isMatch_iff _ _).2 first) ih

/-- A path that a glob stands for as a whole is matched when no star takes a separator. -/
theorem isPathMatch_of_matches (h : Matches glob text)
    (flat : glob.count separator = text.count separator) : isPathMatch glob text = true := by
  have free (cs : List Char) : ∀ piece ∈ cs.splitOn separator, separator ∉ piece :=
    fun piece hp => ProjectPath.not_mem_of_mem_splitOn hp
  refine matchesSegments_of_forall₂
    ((forall₂_matches_iff separator_ne_wildcard (free glob) (free text)).2 ⟨?_, ?_⟩)
  · rw [length_splitOn, length_splitOn, flat]
  · rwa [List.intercalate_splitOn, List.intercalate_splitOn]

theorem count_joined_of_ne {sep : Char} (h : sep ≠ c) (pieces : List (List Char)) :
    ([sep].intercalate pieces).count c = pieces.flatten.count c := by
  induction pieces with
  | nil => rfl
  | cons piece pieces ih =>
    by_cases last : pieces = []
    · rw [last, List.intercalate_singleton, List.flatten_cons, List.flatten_nil, List.append_nil]
    · rw [joined_cons piece last, List.count_append, List.count_cons_of_ne h, ih,
        List.flatten_cons, List.count_append]

/-- A path has at least the literal characters of its path glob. -/
theorem count_flatten_le (literal : c ≠ wildcard) (h : matchesSegments pattern path = true) :
    pattern.flatten.count c ≤ path.flatten.count c := by
  induction pattern generalizing path with
  | nil => exact Nat.zero_le _
  | cons segment pattern ih =>
    rw [List.flatten_cons, List.count_append]
    by_cases deep : segment = deepWildcard
    · subst deep
      obtain ⟨rest, ⟨skipped, rfl⟩, m⟩ := matchesSegments_deep_iff.1 h
      have none : deepWildcard.count c = 0 := by
        refine List.count_eq_zero.2 fun mem => literal ?_
        simpa [deepWildcard] using mem
      rw [none, List.flatten_append, List.count_append]
      have := ih m
      omega
    · obtain ⟨head, rest, rfl, first, m⟩ := (matchesSegments_shallow_iff deep).1 h
      rw [List.flatten_cons, List.count_append]
      exact Nat.add_le_add (count_le_of_matches literal ((isMatch_iff _ _).1 first)) (ih m)

theorem count_le_of_isPathMatch (literal : c ≠ wildcard) (inner : separator ≠ c)
    (h : isPathMatch glob text = true) : glob.count c ≤ text.count c := by
  have least := count_flatten_le literal h
  rw [← count_joined_of_ne inner, ← count_joined_of_ne inner] at least
  rwa [List.intercalate_splitOn, List.intercalate_splitOn] at least

/-- The settled globs are those for which every path that they match is matched in lower case. -/
theorem settled_iff_isPathMatch_lower : settled .no glob = true ↔
    ∀ text, isPathMatch glob text = true →
      isPathMatch (Text.lower glob) (Text.lower text) = true := by
  constructor
  · exact fun fixed text h => isPathMatch_lower h (.inl fixed)
  · intro keeps
    rw [← Bool.not_eq_false]
    intro h
    obtain ⟨text, s, hs, m, flat, fewer⟩ := exists_matches_of_not_settled h
    have kept := keeps text (isPathMatch_of_matches m flat)
    have least := count_le_of_isPathMatch (hs.ne (by decide)).symm (hs.ne (by decide)) kept
    exact Nat.not_lt.2 least fewer

end Paths

end Glob

end BuildQuery
