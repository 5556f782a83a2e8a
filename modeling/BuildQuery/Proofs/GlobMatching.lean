import BuildQuery.Context
import BuildQuery.ProjectPath

/-!
# What a glob matches

A relation says which texts a glob stands for: each star takes some run of characters, every other
character takes itself. The chunk search of `Glob.isMatch` decides it (`isMatch_iff`). Taking every
chunk at its first place loses nothing, because after a star a longer text is never worse
(`Matches.of_suffix`).
-/

namespace BuildQuery.Glob

/-- A text that a glob stands for. -/
inductive Matches : List Char → List Char → Prop where
  | nil : Matches [] []
  | run {glob text : List Char} (skipped : List Char) (rest : Matches glob text) :
      Matches (wildcard :: glob) (skipped ++ text)
  | char {c : Char} {glob text : List Char} (literal : c ≠ wildcard) (rest : Matches glob text) :
      Matches (c :: glob) (c :: text)

theorem matches_nil_iff {text : List Char} : Matches [] text ↔ text = [] := by
  constructor
  · rintro ⟨⟩
    rfl
  · rintro rfl
    exact .nil

theorem matches_char_iff {c : Char} {glob text : List Char} (hc : c ≠ wildcard) :
    Matches (c :: glob) text ↔ ∃ rest, text = c :: rest ∧ Matches glob rest := by
  constructor
  · intro h
    cases h with
    | run => exact absurd rfl hc
    | char _ rest => exact ⟨_, rfl, rest⟩
  · rintro ⟨rest, rfl, h⟩
    exact .char hc h

/-- After a star, the rest of a glob matches some end of the text. -/
theorem matches_run_iff {glob text : List Char} :
    Matches (wildcard :: glob) text ↔ ∃ rest, rest <:+ text ∧ Matches glob rest := by
  constructor
  · intro h
    cases h with
    | run skipped rest => exact ⟨_, List.suffix_append _ _, rest⟩
    | char literal => exact absurd rfl literal
  · rintro ⟨rest, ⟨skipped, rfl⟩, h⟩
    exact .run skipped h

/-- A glob that begins with a star matches every text that ends in one it matches. -/
theorem Matches.of_suffix {glob text longer : List Char} (h : Matches (wildcard :: glob) text)
    (hs : text <:+ longer) : Matches (wildcard :: glob) longer := by
  obtain ⟨rest, hr, h⟩ := matches_run_iff.1 h
  exact matches_run_iff.2 ⟨rest, hr.trans hs, h⟩

/-- A chunk without stars stands for itself at the front of the text. -/
theorem matches_append_iff {chunk glob text : List Char} (hc : wildcard ∉ chunk) :
    Matches (chunk ++ glob) text ↔ ∃ rest, text = chunk ++ rest ∧ Matches glob rest := by
  induction chunk generalizing text with
  | nil => simp
  | cons c chunk ih =>
    rw [List.mem_cons, not_or] at hc
    rw [List.cons_append, matches_char_iff (Ne.symm hc.1)]
    constructor
    · rintro ⟨text, rfl, h⟩
      obtain ⟨rest, rfl, hr⟩ := (ih hc.2).1 h
      exact ⟨rest, rfl, hr⟩
    · rintro ⟨rest, rfl, h⟩
      exact ⟨chunk ++ rest, rfl, (ih hc.2).2 ⟨rest, rfl, h⟩⟩

/-- A glob without stars matches only itself. -/
theorem matches_literal_iff {glob text : List Char} (hg : wildcard ∉ glob) :
    Matches glob text ↔ text = glob := by
  have h : Matches (glob ++ []) text ↔ _ := matches_append_iff hg
  rw [List.append_nil] at h
  simp [h, matches_nil_iff]

/-! ## The chunk search -/

/-- The first place of a chunk is as good as any other one when a star follows it. -/
theorem matches_run_append_iff {chunk glob : List Char} (hc : wildcard ∉ chunk)
    (text : List Char) :
    Matches (wildcard :: (chunk ++ wildcard :: glob)) text ↔
      ∃ rest, afterFirst? chunk text = some rest ∧ Matches (wildcard :: glob) rest := by
  induction text with
  | nil =>
    rw [matches_run_iff]
    simp only [List.suffix_nil, exists_eq_left, matches_append_iff hc, afterFirst?]
    by_cases h : chunk = []
    · simp [h]
    · simp [h]
  | cons c cs ih =>
    rw [afterFirst?]
    by_cases hp : chunk.isPrefixOf (c :: cs) = true
    · rw [if_pos hp]
      simp only [Option.some.injEq, exists_eq_left']
      obtain ⟨front, hf⟩ := List.isPrefixOf_iff_prefix.1 hp
      constructor
      · intro h
        obtain ⟨r, hr, hm⟩ := matches_run_iff.1 h
        obtain ⟨rest, rfl, hrest⟩ := (matches_append_iff hc).1 hm
        -- the match may use a later place; what it leaves is then an end of what this one leaves
        refine hrest.of_suffix (List.suffix_of_suffix_length_le
          ((List.suffix_append _ _).trans hr) (List.drop_suffix _ _) ?_)
        have := hr.length_le
        rw [List.length_append] at this
        rw [List.length_drop]
        omega
      · intro h
        rw [← hf, List.drop_left] at h
        exact matches_run_iff.2 ⟨_, List.suffix_rfl, (matches_append_iff hc).2 ⟨_, hf.symm, h⟩⟩
    · rw [if_neg hp, ← ih, matches_run_iff, matches_run_iff]
      constructor
      · rintro ⟨r, hr, h⟩
        rcases List.suffix_cons_iff.1 hr with rfl | hr
        · obtain ⟨rest, e, _⟩ := (matches_append_iff hc).1 h
          exact absurd (List.isPrefixOf_iff_prefix.2 ⟨rest, e.symm⟩) hp
        · exact ⟨r, hr, h⟩
      · rintro ⟨r, hr, h⟩
        exact ⟨r, hr.trans (List.suffix_cons _ _), h⟩

theorem matchesChunks_iff {chunks : List (List Char)} (hc : ∀ chunk ∈ chunks, wildcard ∉ chunk)
    (ne : chunks ≠ []) (text : List Char) :
    matchesChunks chunks text = true ↔
      Matches (wildcard :: [wildcard].intercalate chunks) text := by
  fun_induction matchesChunks chunks text with
  | case1 => exact absurd rfl ne
  | case2 last text =>
    rw [matches_run_iff, List.isSuffixOf_iff_suffix]
    simp [matches_literal_iff (hc last (by simp))]
  | case3 chunk next chunks text rest found ih =>
    rw [ih (fun c h => hc c (List.mem_cons_of_mem _ h)) (by simp), List.intercalate_cons_cons,
      List.append_assoc, List.singleton_append, matches_run_append_iff (hc chunk (by simp)), found]
    simp
  | case4 chunk next chunks text none =>
    rw [List.intercalate_cons_cons, List.append_assoc, List.singleton_append,
      matches_run_append_iff (hc chunk (by simp)), none]
    simp

/-- The matcher accepts exactly the texts that the glob stands for. -/
theorem isMatch_iff (glob text : List Char) : isMatch glob text = true ↔ Matches glob text := by
  have join : [wildcard].intercalate (glob.splitOn wildcard) = glob := List.intercalate_splitOn _
  have free : ∀ chunk ∈ glob.splitOn wildcard, wildcard ∉ chunk :=
    fun chunk h => ProjectPath.not_mem_of_mem_splitOn h
  unfold isMatch
  split
  · next e => exact absurd e (List.splitOn_ne_nil _ _)
  · next only e =>
    rw [e] at join free
    rw [← join, List.intercalate_singleton, matches_literal_iff (free only (by simp)), beq_iff_eq]
    exact eq_comm
  · next first chunks ne e =>
    rw [e] at join free
    obtain ⟨next, chunks, rfl⟩ := List.exists_cons_of_ne_nil (fun h => ne (h ▸ rfl))
    rw [← join, List.intercalate_cons_cons, List.append_assoc, List.singleton_append,
      matches_append_iff (free first (by simp)), Bool.and_eq_true,
      matchesChunks_iff (fun c h => free c (List.mem_cons_of_mem _ h)) (by simp),
      List.isPrefixOf_iff_prefix]
    constructor
    · rintro ⟨⟨rest, rfl⟩, h⟩
      exact ⟨rest, rfl, by rwa [List.drop_left] at h⟩
    · rintro ⟨rest, rfl, h⟩
      exact ⟨List.prefix_append _ _, by rwa [List.drop_left]⟩

/-! ## Path globs -/

theorem ne_deepWildcard_of_not_mem {segment : List Char} (h : wildcard ∉ segment) :
    segment ≠ deepWildcard := by
  rintro rfl
  exact h List.mem_cons_self

theorem isMatch_literal_iff {glob text : List Char} (h : wildcard ∉ glob) :
    isMatch glob text = true ↔ text = glob := by
  rw [isMatch_iff, matches_literal_iff h]

theorem matchesSegments_cons_nil {segment : List Char} (h : segment ≠ deepWildcard)
    (pattern : List (List Char)) : matchesSegments (segment :: pattern) [] = false := by
  rw [matchesSegments.eq_def]
  exact if_neg h

theorem matchesSegments_cons_cons {segment : List Char} (h : segment ≠ deepWildcard)
    (pattern : List (List Char)) (head : List Char) (path : List (List Char)) :
    matchesSegments (segment :: pattern) (head :: path) =
      (isMatch segment head && matchesSegments pattern path) := by
  rw [matchesSegments.eq_def]
  exact if_neg h

/-- Segments without stars stand for themselves at the front of the path. -/
theorem matchesSegments_append_iff {literal pattern path : List (List Char)}
    (h : ∀ segment ∈ literal, wildcard ∉ segment) :
    matchesSegments (literal ++ pattern) path = true ↔
      ∃ rest, path = literal ++ rest ∧ matchesSegments pattern rest = true := by
  induction literal generalizing path with
  | nil => simp
  | cons segment literal ih =>
    have free := h segment List.mem_cons_self
    have shallow := ne_deepWildcard_of_not_mem free
    rw [List.cons_append]
    cases path with
    | nil => simp [matchesSegments_cons_nil shallow]
    | cons head path =>
      rw [matchesSegments_cons_cons shallow, Bool.and_eq_true, isMatch_literal_iff free,
        ih fun s hs => h s (List.mem_cons_of_mem segment hs)]
      constructor
      · rintro ⟨rfl, rest, rfl, hr⟩
        exact ⟨rest, rfl, hr⟩
      · rintro ⟨rest, e, hr⟩
        obtain ⟨rfl, rfl⟩ := List.cons.inj e
        exact ⟨rfl, rest, rfl, hr⟩

/-- Segments without stars that a path glob and a path have in common make no difference. -/
theorem matchesSegments_append {literal : List (List Char)}
    (h : ∀ segment ∈ literal, wildcard ∉ segment) (pattern path : List (List Char)) :
    matchesSegments (literal ++ pattern) (literal ++ path) = matchesSegments pattern path := by
  rw [Bool.eq_iff_iff, matchesSegments_append_iff h]
  constructor
  · rintro ⟨rest, e, hr⟩
    rwa [List.append_cancel_left e]
  · intro hp
    exact ⟨path, rfl, hp⟩

/-- A path glob without stars matches only itself. -/
theorem matchesSegments_literal_iff {literal path : List (List Char)}
    (h : ∀ segment ∈ literal, wildcard ∉ segment) :
    matchesSegments literal path = true ↔ path = literal := by
  have whole : matchesSegments (literal ++ []) path = true ↔ _ := matchesSegments_append_iff h
  rw [List.append_nil] at whole
  rw [whole]
  constructor
  · rintro ⟨rest, rfl, hr⟩
    rw [matchesSegments, List.isEmpty_iff] at hr
    rw [hr, List.append_nil]
  · rintro rfl
    exact ⟨[], (List.append_nil _).symm, rfl⟩

end BuildQuery.Glob
