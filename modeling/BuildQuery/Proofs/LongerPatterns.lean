import BuildQuery.Proofs.GlobScan
import BuildQuery.Proofs.PathExpansion
import Mathlib.Data.Set.Basic

/-!
# Path globs with one more character

A character that is put into a path glob and is not a star asks more of the paths. All segments but
the one that receives it can be matched as shortly as possible, so the glob before and the glob
after are compared on one segment (`matchesSegments_around_iff`). There is one exception: a
separator can cut a longer run of stars, which stays within a segment, so that a deep segment
arises, which does not. Main statement: this is the only case in which a path glob with one more
character still matches all the paths that it matched before (`paths_subset_insert_iff`).
-/

namespace BuildQuery.Glob

/-- The paths that a path glob matches. -/
def paths (glob : List Char) : Set (List Char) := {path | isPathMatch glob path = true}

/-- Whether a path glob matches all the paths that another one matches, and others. -/
def MatchesMore (glob other : List Char) : Prop :=
  paths other ⊆ paths glob ∧ ¬ paths glob ⊆ paths other

/-- The segment that a text ends with. -/
def lastSegment (text : List Char) : List Char := (text.splitOn separator).getLastD []

/-- The segment that a text begins with. -/
def firstSegment (text : List Char) : List Char := (text.splitOn separator).headD []

/-- Whether the place between two parts of a segment is between two stars, and one of the parts is
deep by itself. -/
def CutsOffDeep (left right : List Char) : Prop :=
  (left = deepWildcard ∧ right.head? = some wildcard) ∨
    (left.getLast? = some wildcard ∧ right = deepWildcard)

instance (left right : List Char) : Decidable (CutsOffDeep left right) :=
  inferInstanceAs (Decidable (_ ∨ _))

/-- Whether a character between two parts of a path glob is a separator between two stars that cuts
off a deep segment. -/
def SeparatesDeep (front : List Char) (c : Char) (back : List Char) : Prop :=
  c = separator ∧ CutsOffDeep (lastSegment front) (firstSegment back)

instance (front : List Char) (c : Char) (back : List Char) :
    Decidable (SeparatesDeep front c back) :=
  inferInstanceAs (Decidable (_ ∧ _))

/-! ## The shortest match -/

/-- What is left of a glob when its stars take nothing. -/
def literals (glob : List Char) : List Char := glob.filter (· != wildcard)

/-- The number of segments of a path glob that stand for one segment each. -/
def shallowCount (pattern : List (List Char)) : Nat := pattern.countP (· != deepWildcard)

/-- The path that a path glob matches when its stars and its deep segments take nothing. -/
def shortest (pattern : List (List Char)) : List (List Char) :=
  (pattern.filter (· != deepWildcard)).map literals

theorem matches_literals (glob : List Char) : Matches glob (literals glob) := by
  induction glob with
  | nil => exact .nil
  | cons c glob ih =>
    by_cases star : c = wildcard
    · rw [star]
      exact .run [] ih
    · have kept : literals (c :: glob) = c :: literals glob :=
        List.filter_cons_of_pos (bne_iff_ne.2 star)
      rw [kept]
      exact .char star ih

theorem count_literals {c : Char} (literal : c ≠ wildcard) (glob : List Char) :
    (literals glob).count c = glob.count c :=
  List.count_filter (bne_iff_ne.2 literal)

theorem shallowCount_singleton {segment : List Char} (h : segment ≠ deepWildcard) :
    shallowCount [segment] = 1 := by
  simp [shallowCount, h]

theorem shallowCount_pair (left right : List Char) :
    shallowCount [left, right] = shallowCount [left] + shallowCount [right] := by
  show shallowCount ([left] ++ [right]) = _
  exact List.countP_append

theorem length_shortest (pattern : List (List Char)) :
    (shortest pattern).length = shallowCount pattern := by
  rw [shortest, List.length_map, shallowCount, List.countP_eq_length_filter]

theorem matchesSegments_shortest (pattern : List (List Char)) :
    matchesSegments pattern (shortest pattern) = true := by
  induction pattern with
  | nil => rfl
  | cons segment pattern ih =>
    by_cases deep : segment = deepWildcard
    · subst deep
      exact matchesSegments_deep_iff.2 ⟨_, List.suffix_rfl, ih⟩
    · have kept : shortest (segment :: pattern) = literals segment :: shortest pattern := by
        simp [shortest, deep]
      rw [kept, matchesSegments_shallow_iff deep]
      exact ⟨_, _, rfl, (isMatch_iff _ _).2 (matches_literals segment), ih⟩

/-- A path has a segment for each shallow segment of a path glob that it matches. -/
theorem shallowCount_le {pattern path : List (List Char)}
    (h : matchesSegments pattern path = true) : shallowCount pattern ≤ path.length := by
  induction pattern generalizing path with
  | nil => exact Nat.zero_le _
  | cons segment pattern ih =>
    by_cases deep : segment = deepWildcard
    · subst deep
      obtain ⟨rest, end_, m⟩ := matchesSegments_deep_iff.1 h
      exact (ih m).trans end_.length_le
    · obtain ⟨head, rest, rfl, -, m⟩ := (matchesSegments_shallow_iff deep).1 h
      have one : shallowCount (segment :: pattern) = shallowCount pattern + 1 :=
        List.countP_cons_of_pos (bne_iff_ne.2 deep)
      rw [one, List.length_cons]
      exact Nat.succ_le_succ (ih m)

/-! ## One segment between others -/

section Between

variable {before mid after path : List (List Char)} {text : List Char}

/-- A path that two path globs match together falls into a path for each. -/
theorem matchesSegments_append_iff_exists {pattern rest : List (List Char)} :
    matchesSegments (pattern ++ rest) path = true ↔
      ∃ front back, path = front ++ back ∧ matchesSegments pattern front = true ∧
        matchesSegments rest back = true := by
  induction pattern generalizing path with
  | nil =>
    constructor
    · intro h
      exact ⟨[], path, rfl, rfl, h⟩
    · rintro ⟨front, back, rfl, hf, hb⟩
      rwa [matchesSegments_nil_iff.1 hf]
  | cons segment pattern ih =>
    rw [List.cons_append]
    by_cases deep : segment = deepWildcard
    · subst deep
      simp only [matchesSegments_deep_iff, ih]
      constructor
      · rintro ⟨_, ⟨skipped, rfl⟩, front, back, rfl, hf, hb⟩
        exact ⟨skipped ++ front, back, (List.append_assoc _ _ _).symm,
          ⟨front, List.suffix_append _ _, hf⟩, hb⟩
      · rintro ⟨_, back, rfl, ⟨front, ⟨skipped, rfl⟩, hf⟩, hb⟩
        exact ⟨front ++ back, ⟨skipped, (List.append_assoc _ _ _).symm⟩, front, back, rfl, hf, hb⟩
    · simp only [matchesSegments_shallow_iff deep, ih]
      constructor
      · rintro ⟨head, _, rfl, first, front, back, rfl, hf, hb⟩
        exact ⟨head :: front, back, rfl, ⟨head, front, rfl, first, hf⟩, hb⟩
      · rintro ⟨_, back, rfl, ⟨head, front, rfl, first, hf⟩, hb⟩
        exact ⟨head, front ++ back, rfl, first, front, back, rfl, hf, hb⟩

theorem isMatch_deepWildcard (text : List Char) : isMatch deepWildcard text = true := by
  have star := (isMatch_iff _ _).1 (isMatch_star text)
  exact (isMatch_iff _ _).2 (matches_run_iff.2 ⟨text, List.suffix_rfl, star⟩)

/-- On a path of one segment a deep segment is like any other one. -/
theorem matchesSegments_singleton (segment text : List Char) :
    matchesSegments [segment] [text] = isMatch segment text := by
  by_cases deep : segment = deepWildcard
  · rw [deep, isMatch_deepWildcard]
    exact matchesSegments_deep_iff.2 ⟨[], List.nil_suffix, rfl⟩
  · rw [matchesSegments_cons_cons deep]
    exact Bool.and_true _

/-- The segments around others can be matched as shortly as possible. -/
theorem matchesSegments_around (h : matchesSegments mid path = true) :
    matchesSegments (before ++ mid ++ after) (shortest before ++ path ++ shortest after) = true :=
  matchesSegments_append_iff_exists.2 ⟨_, _, rfl,
    matchesSegments_append_iff_exists.2 ⟨_, _, rfl, matchesSegments_shortest before, h⟩,
    matchesSegments_shortest after⟩

/-- What stands between other segments can be tried on one segment, with the others matched as
shortly as possible. -/
theorem matchesSegments_around_iff (shallow : 1 ≤ shallowCount mid) :
    matchesSegments (before ++ mid ++ after) (shortest before ++ [text] ++ shortest after) = true ↔
      matchesSegments mid [text] = true := by
  constructor
  · intro h
    obtain ⟨_, back, e, h, hb⟩ := matchesSegments_append_iff_exists.1 h
    obtain ⟨front, inner, rfl, hf, hm⟩ := matchesSegments_append_iff_exists.1 h
    -- each part of the path is as long as its part of the glob asks, so none is longer
    have least₁ := shallowCount_le hf
    have least₂ := shallowCount_le hm
    have least₃ := shallowCount_le hb
    have length := congrArg List.length e
    simp only [List.length_append, List.length_singleton, length_shortest] at length
    rw [List.append_assoc, List.append_assoc] at e
    obtain ⟨-, e⟩ := List.append_inj e (by rw [length_shortest]; omega)
    obtain ⟨rfl, -⟩ := List.append_inj e (by rw [List.length_singleton]; omega)
    exact hm
  · exact matchesSegments_around

end Between

/-! ## One segment cut in two -/

section Cut

variable {left right : List Char}

theorem exists_char_ne (c? : Option Char) : ∃ d, d ≠ separator ∧ c? ≠ some d := by
  by_cases h : c? = some 'a'
  · exact ⟨'b', by decide, by rw [h]; decide⟩
  · exact ⟨'a', by decide, h⟩

/-- A glob that does not begin with a star cannot spare any character before its own. -/
theorem exists_not_matches_cons (h : right.head? ≠ some wildcard) :
    ∃ d, d ≠ separator ∧ ¬ Matches right (d :: literals right) := by
  obtain ⟨d, hd, ne⟩ := exists_char_ne right.head?
  exact ⟨d, hd, not_matches_cons h ne⟩

/-- A glob that does not end with a star cannot spare any character after its own. -/
theorem exists_not_matches_concat (h : left.getLast? ≠ some wildcard) :
    ∃ d, d ≠ separator ∧ ¬ Matches left (literals left ++ [d]) := by
  obtain ⟨d, hd, ne⟩ := exists_char_ne left.getLast?
  refine ⟨d, hd, fun m => ?_⟩
  rcases List.eq_nil_or_concat' left with rfl | ⟨glob, c, rfl⟩
  · exact nomatch matches_nil_iff.1 m
  · rw [List.getLast?_concat] at h ne
    obtain ⟨front, back, e, -, last⟩ := exists_of_matches_append m
    obtain ⟨rest, rfl, nothing⟩ := (matches_char_iff fun star => h (congrArg some star)).1 last
    obtain rfl := matches_nil_iff.1 nothing
    have same := List.append_inj_right' e rfl
    exact ne (congrArg some (List.cons.inj same).1.symm)

theorem separator_not_mem_literals {glob : List Char} (h : separator ∉ glob) :
    separator ∉ literals glob :=
  fun m => h (List.mem_of_mem_filter m)

theorem separator_not_mem_literals_append (hl : separator ∉ left) (hr : separator ∉ right) :
    separator ∉ literals (left ++ right) := by
  refine separator_not_mem_literals ?_
  rw [List.mem_append, not_or]
  exact ⟨hl, hr⟩

/-- Another literal character in a segment is missing in some text that it matched before. -/
theorem not_isMatch_literals_insert {c : Char} (literal : c ≠ wildcard) :
    isMatch (left ++ c :: right) (literals (left ++ right)) ≠ true := by
  rw [Ne, isMatch_iff]
  intro m
  have enough := count_le_of_matches literal m
  rw [count_literals literal, List.count_append, List.count_append, List.count_cons_self] at enough
  omega

/-- Two shallow segments match no path of one segment. -/
theorem not_matchesSegments_pair (hl : left ≠ deepWildcard) (hr : right ≠ deepWildcard)
    (text : List Char) : matchesSegments [left, right] [text] ≠ true := by
  intro m
  have few := shallowCount_le m
  rw [shallowCount_pair, shallowCount_singleton hl, shallowCount_singleton hr,
    List.length_singleton] at few
  omega

/-- A deep segment before a shallow one leaves a path of one segment to the shallow one. -/
theorem isMatch_of_matchesSegments_deep_left (hr : right ≠ deepWildcard) {text : List Char}
    (m : matchesSegments [deepWildcard, right] [text] = true) : isMatch right text = true := by
  obtain ⟨rest, end_, m⟩ := matchesSegments_deep_iff.1 m
  rcases List.suffix_cons_iff.1 end_ with rfl | end_
  · rwa [matchesSegments_singleton] at m
  · rw [List.suffix_nil.1 end_, matchesSegments_cons_nil hr] at m
    contradiction

/-- So does a deep segment after a shallow one. -/
theorem isMatch_of_matchesSegments_deep_right (hl : left ≠ deepWildcard) {text : List Char}
    (m : matchesSegments [left, deepWildcard] [text] = true) : isMatch left text = true := by
  obtain ⟨head, rest, e, first, -⟩ := (matchesSegments_shallow_iff hl).1 m
  obtain ⟨rfl, rfl⟩ := List.cons.inj e
  exact first

/-- Unless a deep segment is cut off between two stars, some text that a segment matched is not
matched by its two parts. -/
theorem exists_not_matchesSegments_pair (hl : separator ∉ left) (hr : separator ∉ right)
    (no : ¬ CutsOffDeep left right) :
    1 ≤ shallowCount [left, right] ∧ ∃ text, separator ∉ text ∧
      isMatch (left ++ right) text = true ∧ matchesSegments [left, right] [text] ≠ true := by
  rw [shallowCount_pair]
  by_cases deep : left = deepWildcard
  · have bounded : right.head? ≠ some wildcard := fun star => no (.inl ⟨deep, star⟩)
    have shallow : right ≠ deepWildcard := fun e => bounded (e ▸ rfl)
    -- within one segment the two stars take a character that the shallow part has no place for
    obtain ⟨d, hd, differs⟩ := exists_not_matches_cons bounded
    refine ⟨by rw [shallowCount_singleton shallow]; omega, d :: literals right, ?_, ?_, ?_⟩
    · rw [List.mem_cons, not_or]
      exact ⟨hd.symm, separator_not_mem_literals hr⟩
    · rw [isMatch_iff, deep]
      exact .run [d] (.run [] (matches_literals right))
    · rw [deep]
      intro m
      exact differs ((isMatch_iff _ _).1 (isMatch_of_matchesSegments_deep_left shallow m))
  · by_cases deep' : right = deepWildcard
    · have bounded : left.getLast? ≠ some wildcard := fun star => no (.inr ⟨star, deep'⟩)
      obtain ⟨d, hd, differs⟩ := exists_not_matches_concat bounded
      refine ⟨by rw [shallowCount_singleton deep]; omega, literals left ++ [d], ?_, ?_, ?_⟩
      · rw [List.mem_append, not_or, List.mem_singleton]
        exact ⟨separator_not_mem_literals hl, hd.symm⟩
      · rw [isMatch_iff, deep']
        exact (matches_literals left).append ((isMatch_iff _ _).1 (isMatch_deepWildcard [d]))
      · rw [deep']
        intro m
        exact differs ((isMatch_iff _ _).1 (isMatch_of_matchesSegments_deep_right deep m))
    · -- two segments are one too many for the shortest text
      exact ⟨by rw [shallowCount_singleton deep]; omega, literals (left ++ right),
        separator_not_mem_literals_append hl hr, (isMatch_iff _ _).2 (matches_literals _),
        not_matchesSegments_pair deep deep' _⟩

/-- A shallow segment alone matches paths of one segment. -/
theorem exists_eq_singleton_of_matchesSegments {segment : List Char} {path : List (List Char)}
    (h : segment ≠ deepWildcard) (m : matchesSegments [segment] path = true) :
    ∃ text, path = [text] ∧ isMatch segment text = true := by
  obtain ⟨text, rest, rfl, first, nothing⟩ := (matchesSegments_shallow_iff h).1 m
  exact ⟨text, by rw [matchesSegments_nil_iff.1 nothing], first⟩

/-- A segment that a deep one can be cut off is longer than that, so it is shallow. -/
theorem CutsOffDeep.append_ne (h : CutsOffDeep left right) : left ++ right ≠ deepWildcard := by
  intro e
  have length := congrArg List.length e
  rw [List.length_append] at length
  rcases h with ⟨rfl, star⟩ | ⟨star, rfl⟩
  · obtain ⟨glob, rfl⟩ := List.head?_eq_some_iff.1 star
    rw [List.length_cons] at length
    omega
  · obtain ⟨glob, rfl⟩ := List.getLast?_eq_some_iff.1 star
    rw [List.length_append, List.length_singleton] at length
    omega

/-- When a deep segment is cut off between two stars, the other part matches all that the segment
matched. -/
theorem CutsOffDeep.matchesSegments_pair (h : CutsOffDeep left right) {path : List (List Char)}
    (m : matchesSegments [left ++ right] path = true) :
    matchesSegments [left, right] path = true := by
  obtain ⟨text, rfl, whole⟩ := exists_eq_singleton_of_matchesSegments h.append_ne m
  rw [isMatch_iff] at whole
  rcases h with ⟨rfl, star⟩ | ⟨star, rfl⟩
  · obtain ⟨glob, rfl⟩ := List.head?_eq_some_iff.1 star
    obtain ⟨front, back, rfl, -, rest⟩ := exists_of_matches_append whole
    refine matchesSegments_deep_iff.2 ⟨[front ++ back], List.suffix_rfl, ?_⟩
    rw [matchesSegments_singleton, isMatch_iff]
    exact rest.of_suffix (List.suffix_append front back)
  · obtain ⟨glob, rfl⟩ := List.getLast?_eq_some_iff.1 star
    rw [List.append_assoc] at whole
    obtain ⟨front, back, rfl, start, -⟩ := exists_of_matches_append whole
    show matchesSegments ([glob ++ [wildcard]] ++ [deepWildcard]) _ = true
    refine matchesSegments_append_iff_exists.2 ⟨[front ++ back], [], rfl, ?_, rfl⟩
    rw [matchesSegments_singleton, isMatch_iff]
    exact start.append ((isMatch_iff _ _).1 (isMatch_star back))

end Cut

/-! ## The text of a path glob -/

theorem splitOn_separator_cons (text : List Char) :
    (separator :: text).splitOn separator = [] :: text.splitOn separator :=
  List.splitOn_append_cons_self [] text

theorem splitOn_cons_of_ne {c : Char} (ne : c ≠ separator) {text first : List Char}
    {segments : List (List Char)} (e : text.splitOn separator = first :: segments) :
    (c :: text).splitOn separator = (c :: first) :: segments := by
  have other : ¬ (c == separator) = true := fun same => ne (beq_iff_eq.1 same)
  rw [List.splitOn_cons_eq_if_modifyHead, if_neg other, e]
  rfl

/-- Two parts of a text meet in one segment. -/
theorem exists_splitOn_append (front : List Char) :
    ∃ before left, front.splitOn separator = before ++ [left] ∧
      ∀ back right after, back.splitOn separator = right :: after →
        (front ++ back).splitOn separator = before ++ [left ++ right] ++ after := by
  induction front with
  | nil => exact ⟨[], [], rfl, fun back right after e => e⟩
  | cons c front ih =>
    obtain ⟨before, left, e, meet⟩ := ih
    by_cases h : c = separator
    · subst h
      refine ⟨[] :: before, left, ?_, fun back right after e' => ?_⟩
      · rw [splitOn_separator_cons, e]
        rfl
      · rw [List.cons_append, splitOn_separator_cons, meet back right after e']
        rfl
    · cases before with
      | nil =>
        exact ⟨[], c :: left, splitOn_cons_of_ne h e,
          fun back right after e' => splitOn_cons_of_ne h (meet back right after e')⟩
      | cons first before =>
        exact ⟨(c :: first) :: before, left, splitOn_cons_of_ne h e,
          fun back right after e' => splitOn_cons_of_ne h (meet back right after e')⟩

/-- A path of given segments. -/
theorem joined_mem_paths_iff {glob : List Char} {path : List (List Char)} (ne : path ≠ [])
    (free : ∀ segment ∈ path, separator ∉ segment) :
    [separator].intercalate path ∈ paths glob ↔
      matchesSegments (glob.splitOn separator) path = true := by
  show isPathMatch _ _ = true ↔ _
  rw [isPathMatch, List.splitOn_intercalate separator free ne]

section Insert

variable {glob glob' : List Char} {before mid mid' after path : List (List Char)}

/-- The shortest matches of segments of a path glob have no separators. -/
theorem separator_not_mem_of_mem_around (h : glob.splitOn separator = before ++ mid ++ after)
    (free : ∀ segment ∈ path, separator ∉ segment) :
    ∀ segment ∈ shortest before ++ path ++ shortest after, separator ∉ segment := by
  have free' (segments : List (List Char)) (among : segments ⊆ glob.splitOn separator) :
      ∀ segment ∈ shortest segments, separator ∉ segment := by
    intro segment mem
    obtain ⟨piece, kept, rfl⟩ := List.mem_map.1 mem
    exact separator_not_mem_literals
      (ProjectPath.not_mem_of_mem_splitOn (among (List.mem_of_mem_filter kept)))
  intro segment mem
  rw [List.mem_append, List.mem_append] at mem
  rcases mem with (mem | mem) | mem
  · exact free' before (by simp [h]) segment mem
  · exact free segment mem
  · exact free' after (by simp [h]) segment mem

/-- A path glob that matches all the paths of another one matches those of them in which the
segments around some place are as few as possible. -/
theorem matchesSegments_of_paths_subset (sub : paths glob ⊆ paths glob')
    (h : glob.splitOn separator = before ++ mid ++ after) (ne : path ≠ [])
    (free : ∀ segment ∈ path, separator ∉ segment) (m : matchesSegments mid path = true) :
    matchesSegments (glob'.splitOn separator) (shortest before ++ path ++ shortest after) =
      true := by
  have whole := separator_not_mem_of_mem_around h free
  have some : shortest before ++ path ++ shortest after ≠ [] := by simp [ne]
  rw [← joined_mem_paths_iff some whole]
  apply sub
  rw [joined_mem_paths_iff some whole, h]
  exact matchesSegments_around m

/-- Path globs that differ in what stands between some segments are told apart by a path when it is
told apart by one segment. -/
theorem not_paths_subset {text : List Char} (h : glob.splitOn separator = before ++ mid ++ after)
    (h' : glob'.splitOn separator = before ++ mid' ++ after) (shallow : 1 ≤ shallowCount mid')
    (free : separator ∉ text) (m : matchesSegments mid [text] = true)
    (no : matchesSegments mid' [text] ≠ true) : ¬ paths glob ⊆ paths glob' := by
  intro sub
  have all := matchesSegments_of_paths_subset sub h (List.cons_ne_nil _ _) (by simpa using free) m
  rw [h', matchesSegments_around_iff shallow] at all
  exact no all

/-- A path glob matches more when what stands between some segments does. -/
theorem paths_subset (h : glob.splitOn separator = before ++ mid ++ after)
    (h' : glob'.splitOn separator = before ++ mid' ++ after)
    (more : ∀ path, matchesSegments mid path = true → matchesSegments mid' path = true) :
    paths glob ⊆ paths glob' := by
  intro path m
  show isPathMatch glob' path = true
  have m : isPathMatch glob path = true := m
  rw [isPathMatch, h, matchesSegments_append_iff_exists] at m
  obtain ⟨_, back, e, m, hb⟩ := m
  obtain ⟨front, inner, rfl, hf, hm⟩ := matchesSegments_append_iff_exists.1 m
  rw [isPathMatch, h', e]
  exact matchesSegments_append_iff_exists.2 ⟨_, _, rfl,
    matchesSegments_append_iff_exists.2 ⟨_, _, rfl, hf, more inner hm⟩, hb⟩

/-- A path glob without deep segments matches no path with more segments than it has itself. -/
theorem not_paths_subset_of_longer (h : glob.splitOn separator = before ++ mid ++ after)
    (h' : glob'.splitOn separator = before ++ mid' ++ after)
    (shallow : deepWildcard ∉ glob'.splitOn separator)
    (free : ∀ segment ∈ path, separator ∉ segment) (m : matchesSegments mid path = true)
    (longer : mid'.length < path.length) : ¬ paths glob ⊆ paths glob' := by
  have count {segments : List (List Char)} (among : segments ⊆ glob'.splitOn separator) :
      shallowCount segments = segments.length :=
    List.countP_eq_length.2 fun s mem => bne_iff_ne.2 fun deep => shallow (among (deep ▸ mem))
  have ne : path ≠ [] := List.ne_nil_of_length_pos (by omega)
  intro sub
  have all := matchesSegments_of_paths_subset sub h ne free m
  rw [matchesSegments_iff_forall₂ shallow, h'] at all
  have length := all.length_eq
  simp only [List.length_append, length_shortest, count (by simp [h'] : before ⊆ _),
    count (by simp [h'] : after ⊆ _)] at length
  omega

end Insert

section Text

variable {front back : List Char}

/-- The segments around the place where two parts of a text meet, when something is put there. -/
theorem exists_segments (front back : List Char) :
    ∃ before left right after, lastSegment front = left ∧ firstSegment back = right ∧
      separator ∉ left ∧ separator ∉ right ∧
      (front ++ back).splitOn separator = before ++ [left ++ right] ++ after ∧
      (front ++ separator :: back).splitOn separator = before ++ [left, right] ++ after ∧
      ∀ c, c ≠ separator →
        (front ++ c :: back).splitOn separator = before ++ [left ++ c :: right] ++ after := by
  obtain ⟨before, left, e, meet⟩ := exists_splitOn_append front
  obtain ⟨right, after, e'⟩ := List.exists_cons_of_ne_nil (List.splitOn_ne_nil separator back)
  refine ⟨before, left, right, after, ?_, ?_, ?_, ?_, meet back right after e', ?_, fun c ne => ?_⟩
  · rw [lastSegment, e]
    simp
  · rw [firstSegment, e']
    rfl
  · exact ProjectPath.not_mem_of_mem_splitOn (e ▸ List.mem_concat_self)
  · exact ProjectPath.not_mem_of_mem_splitOn (e' ▸ List.mem_cons_self)
  · rw [List.splitOn_append_cons_self, e, e']
    simp
  · exact meet (c :: back) (c :: right) after (splitOn_cons_of_ne ne e')

/-- A path glob with one more literal character loses a path. -/
theorem not_paths_subset_insert {c : Char} (literal : c ≠ wildcard) (ne : c ≠ separator) :
    ¬ paths (front ++ back) ⊆ paths (front ++ c :: back) := by
  obtain ⟨before, left, right, after, -, -, hl, hr, whole, -, other⟩ := exists_segments front back
  have shallow : left ++ c :: right ≠ deepWildcard := by
    intro e
    have mem : c ∈ deepWildcard := e ▸ List.mem_append_right left List.mem_cons_self
    simp [deepWildcard, literal] at mem
  have one : 1 ≤ shallowCount [left ++ c :: right] := by
    rw [shallowCount_singleton shallow]
  refine not_paths_subset whole (other c ne) one (separator_not_mem_literals_append hl hr) ?_ ?_
  · rw [matchesSegments_singleton, isMatch_iff]
    exact matches_literals _
  · rw [matchesSegments_singleton]
    exact not_isMatch_literals_insert literal

/-- A path glob with one more separator loses a path, unless a deep segment is cut off. -/
theorem not_paths_subset_separate (h : ¬ CutsOffDeep (lastSegment front) (firstSegment back)) :
    ¬ paths (front ++ back) ⊆ paths (front ++ separator :: back) := by
  obtain ⟨before, left, right, after, hf, hb, hl, hr, whole, cut, -⟩ := exists_segments front back
  rw [hf, hb] at h
  obtain ⟨shallow, text, free, m, no⟩ := exists_not_matchesSegments_pair hl hr h
  rw [← matchesSegments_singleton] at m
  exact not_paths_subset whole cut shallow free m no

/-- A path glob in which a separator cuts off a deep segment keeps its paths. -/
theorem paths_subset_separate (h : CutsOffDeep (lastSegment front) (firstSegment back)) :
    paths (front ++ back) ⊆ paths (front ++ separator :: back) := by
  obtain ⟨before, left, right, after, hf, hb, -, -, whole, cut, -⟩ := exists_segments front back
  rw [hf, hb] at h
  exact paths_subset whole cut fun path => h.matchesSegments_pair

/-- A path glob without deep segments gains a path from one more separator. -/
theorem not_paths_separate_subset (shallow : deepWildcard ∉ (front ++ back).splitOn separator) :
    ¬ paths (front ++ separator :: back) ⊆ paths (front ++ back) := by
  obtain ⟨before, left, right, after, -, -, hl, hr, whole, cut, -⟩ := exists_segments front back
  have m : matchesSegments [left, right] [literals left, literals right] = true := by
    show matchesSegments ([left] ++ [right]) _ = true
    refine matchesSegments_append_iff_exists.2 ⟨[literals left], [literals right], rfl, ?_, ?_⟩
    · rw [matchesSegments_singleton, isMatch_iff]
      exact matches_literals left
    · rw [matchesSegments_singleton, isMatch_iff]
      exact matches_literals right
  refine not_paths_subset_of_longer cut whole shallow ?_ m (by simp)
  intro segment mem
  rcases List.mem_cons.1 mem with rfl | mem
  · exact separator_not_mem_literals hl
  · rw [List.mem_singleton.1 mem]
    exact separator_not_mem_literals hr

end Text

/-- A path glob with one more character that is not a star never matches all the paths that it
matched before and others, with one exception: the character is a separator between two stars that
cuts off a deep segment. In this case, and in no other, it matches all the paths that it matched
before; and others, if there was no deep segment. -/
theorem paths_subset_insert_iff {c : Char} (literal : c ≠ wildcard) (front back : List Char) :
    (¬ SeparatesDeep front c back → ¬ MatchesMore (front ++ c :: back) (front ++ back)) ∧
      (paths (front ++ back) ⊆ paths (front ++ c :: back) ↔ SeparatesDeep front c back) ∧
      (SeparatesDeep front c back → deepWildcard ∉ (front ++ back).splitOn separator →
        MatchesMore (front ++ c :: back) (front ++ back)) := by
  have only : paths (front ++ back) ⊆ paths (front ++ c :: back) → SeparatesDeep front c back := by
    intro sub
    by_cases e : c = separator
    · subst e
      exact ⟨rfl, of_not_not fun no => not_paths_subset_separate no sub⟩
    · exact absurd sub (not_paths_subset_insert literal e)
  refine ⟨fun no more => no (only more.1), ⟨only, ?_⟩, ?_⟩
  · rintro ⟨rfl, cut⟩
    exact paths_subset_separate cut
  · rintro ⟨rfl, cut⟩ shallow
    exact ⟨paths_subset_separate cut, not_paths_separate_subset shallow⟩

/-- A letter before a star, and a separator in a run of three stars. -/
theorem paths_subset_insert_iff_of_stars :
    ('a' ≠ wildcard ∧ ¬ SeparatesDeep "team/".toList 'a' "*".toList ∧
      ¬ MatchesMore ("team/".toList ++ 'a' :: "*".toList) ("team/".toList ++ "*".toList)) ∧
      '/' ≠ wildcard ∧ SeparatesDeep "team/**".toList '/' "*".toList ∧
        deepWildcard ∉ ("team/**".toList ++ "*".toList).splitOn separator ∧
        MatchesMore ("team/**".toList ++ '/' :: "*".toList) ("team/**".toList ++ "*".toList) :=
  ⟨⟨by decide, by decide, (paths_subset_insert_iff (by decide) _ _).1 (by decide)⟩,
    by decide, by decide, by decide,
    (paths_subset_insert_iff (by decide) _ _).2.2 (by decide) (by decide)⟩

/-- Three stars stay within a segment. With a separator after the first of them they match all that
they matched, and longer paths too. -/
theorem matchesMore_of_three_stars :
    '/' ≠ wildcard ∧ MatchesMore ("*".toList ++ '/' :: "**".toList) ("*".toList ++ "**".toList) :=
  ⟨by decide, paths_subset_separate (by decide), not_paths_separate_subset (by decide)⟩

end BuildQuery.Glob
