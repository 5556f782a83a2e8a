import BuildQuery.Proofs.Containment
import BuildQuery.Proofs.GlobMatching
import Mathlib.Data.List.Forall2

/-!
# Path globs, segment by segment

The deep segments of a path glob stand for any number of segments with one star each. Written out in
this way (`Expands`) a path glob is matched against a path one segment at a time
(`matchesSegments_iff_expands`). Without a deep segment there is one way to write it out, and the
segments can be joined again: a star of the whole text takes no separator when the glob and the path
have the same number of them (`forall₂_matches_iff`). Main statement: `isPathMatch_iff_expands`.
-/

namespace BuildQuery.Glob

/-! ## Deep segments written out -/

/-- A path glob with each deep segment replaced by some number of segments with one star. -/
inductive Expands : List (List Char) → List (List Char) → Prop where
  | nil : Expands [] []
  | deep (n : Nat) {pattern flat : List (List Char)} (rest : Expands pattern flat) :
      Expands (deepWildcard :: pattern) (List.replicate n [wildcard] ++ flat)
  | shallow {segment : List Char} {pattern flat : List (List Char)} (h : segment ≠ deepWildcard)
      (rest : Expands pattern flat) : Expands (segment :: pattern) (segment :: flat)

theorem anySuffix_iff {α : Type} {p : List α → Bool} {as : List α} :
    anySuffix p as = true ↔ ∃ rest, rest <:+ as ∧ p rest = true := by
  induction as with
  | nil => simp [anySuffix]
  | cons a as ih =>
    rw [anySuffix, Bool.or_eq_true, ih]
    constructor
    · rintro (h | ⟨rest, end_, h⟩)
      · exact ⟨a :: as, List.suffix_rfl, h⟩
      · exact ⟨rest, end_.trans (List.suffix_cons a as), h⟩
    · rintro ⟨rest, end_, h⟩
      rcases List.suffix_cons_iff.1 end_ with rfl | end_
      · exact .inl h
      · exact .inr ⟨rest, end_, h⟩

theorem matchesSegments_nil_iff {path : List (List Char)} :
    matchesSegments [] path = true ↔ path = [] := by
  rw [matchesSegments, List.isEmpty_iff]

/-- A deep segment leaves any end of the path to the segments after it. -/
theorem matchesSegments_deep_iff {pattern path : List (List Char)} :
    matchesSegments (deepWildcard :: pattern) path = true ↔
      ∃ rest, rest <:+ path ∧ matchesSegments pattern rest = true := by
  rw [matchesSegments.eq_def]
  exact anySuffix_iff

theorem matchesSegments_shallow_iff {segment : List Char} (h : segment ≠ deepWildcard)
    {pattern path : List (List Char)} :
    matchesSegments (segment :: pattern) path = true ↔
      ∃ head rest, path = head :: rest ∧ isMatch segment head = true ∧
        matchesSegments pattern rest = true := by
  cases path with
  | nil => simp [matchesSegments_cons_nil h]
  | cons head rest =>
    rw [matchesSegments_cons_cons h, Bool.and_eq_true]
    constructor
    · intro m
      exact ⟨head, rest, rfl, m⟩
    · rintro ⟨head, rest, e, m⟩
      obtain ⟨rfl, rfl⟩ := List.cons.inj e
      exact m

theorem isMatch_star (text : List Char) : isMatch [wildcard] text = true := by
  rw [isMatch_iff, matches_run_iff]
  exact ⟨[], List.nil_suffix, .nil⟩

theorem forall₂_stars (path : List (List Char)) :
    List.Forall₂ (fun glob segment => isMatch glob segment = true)
      (List.replicate path.length [wildcard]) path := by
  induction path with
  | nil => exact .nil
  | cons segment path ih => exact .cons (isMatch_star segment) ih

/-- The matcher of path globs takes each segment by itself, once the deep ones are written out. -/
theorem matchesSegments_iff_expands {pattern path : List (List Char)} :
    matchesSegments pattern path = true ↔
      ∃ flat, Expands pattern flat ∧
        List.Forall₂ (fun glob segment => isMatch glob segment = true) flat path := by
  constructor
  · intro h
    induction pattern generalizing path with
    | nil =>
      rw [matchesSegments_nil_iff.1 h]
      exact ⟨[], .nil, .nil⟩
    | cons segment pattern ih =>
      by_cases deep : segment = deepWildcard
      · subst deep
        obtain ⟨rest, ⟨skipped, rfl⟩, m⟩ := matchesSegments_deep_iff.1 h
        obtain ⟨flat, expands, each⟩ := ih m
        -- a star for each segment that the deep one takes
        exact ⟨_, .deep skipped.length expands, List.rel_append (forall₂_stars skipped) each⟩
      · obtain ⟨head, rest, rfl, first, m⟩ := (matchesSegments_shallow_iff deep).1 h
        obtain ⟨flat, expands, each⟩ := ih m
        exact ⟨segment :: flat, .shallow deep expands, .cons first each⟩
  · rintro ⟨flat, expands, each⟩
    induction expands generalizing path with
    | nil =>
      cases each
      rfl
    | @deep n pattern flat _ ih =>
      have left := List.forall₂_drop n each
      have length : (List.replicate n [wildcard]).length = n := List.length_replicate
      rw [List.drop_left' length] at left
      exact matchesSegments_deep_iff.2 ⟨path.drop n, List.drop_suffix n path, ih left⟩
    | shallow deep _ ih =>
      cases each with
      | cons first each =>
        exact (matchesSegments_shallow_iff deep).2 ⟨_, _, rfl, first, ih each⟩

/-- Without a deep segment there is nothing to write out. -/
theorem expands_iff_eq {pattern flat : List (List Char)} (h : deepWildcard ∉ pattern) :
    Expands pattern flat ↔ flat = pattern := by
  constructor
  · intro expands
    induction expands with
    | nil => rfl
    | deep => exact absurd List.mem_cons_self h
    | shallow _ _ ih => rw [ih fun m => h (List.mem_cons_of_mem _ m)]
  · rintro rfl
    induction flat with
    | nil => exact .nil
    | cons segment flat ih =>
      rw [List.mem_cons, not_or] at h
      exact .shallow (Ne.symm h.1) (ih h.2)

theorem matchesSegments_iff_forall₂ {pattern path : List (List Char)}
    (h : deepWildcard ∉ pattern) :
    matchesSegments pattern path = true ↔
      List.Forall₂ (fun glob segment => isMatch glob segment = true) pattern path := by
  simp only [matchesSegments_iff_expands, expands_iff_eq h, exists_eq_left]

/-! ## Globs after each other -/

theorem Matches.append {glob text rest more : List Char} (h : Matches glob text)
    (hr : Matches rest more) : Matches (glob ++ rest) (text ++ more) := by
  induction h with
  | nil => exact hr
  | run skipped _ ih =>
    rw [List.append_assoc]
    exact .run skipped ih
  | char literal _ ih => exact .char literal ih

/-- A text that two globs stand for together falls into a text for each. -/
theorem exists_of_matches_append {glob rest text : List Char} (h : Matches (glob ++ rest) text) :
    ∃ front back, text = front ++ back ∧ Matches glob front ∧ Matches rest back := by
  induction glob generalizing text with
  | nil => exact ⟨[], text, rfl, .nil, h⟩
  | cons c glob ih =>
    by_cases star : c = wildcard
    · subst star
      obtain ⟨left, ⟨skipped, rfl⟩, m⟩ := matches_run_iff.1 h
      obtain ⟨front, back, rfl, first, second⟩ := ih m
      exact ⟨skipped ++ front, back, (List.append_assoc _ _ _).symm, .run skipped first, second⟩
    · obtain ⟨left, rfl, m⟩ := (matches_char_iff star).1 h
      obtain ⟨front, back, rfl, first, second⟩ := ih m
      exact ⟨c :: front, back, rfl, .char star first, second⟩

/-- A text has at least the literal characters of its glob. -/
theorem count_le_of_matches {c : Char} (literal : c ≠ wildcard) {glob text : List Char}
    (h : Matches glob text) : glob.count c ≤ text.count c := by
  induction h with
  | nil => exact Nat.le_refl _
  | run skipped _ ih =>
    rw [List.count_cons_of_ne literal.symm, List.count_append]
    omega
  | char _ _ ih =>
    rw [List.count_cons, List.count_cons]
    omega

/-! ## Segments joined -/

theorem length_splitOn {sep : Char} (cs : List Char) :
    (cs.splitOn sep).length = cs.count sep + 1 := by
  induction cs with
  | nil => rfl
  | cons c cs ih =>
    rw [List.splitOn_cons_eq_if_modifyHead, List.count_cons]
    by_cases h : c == sep
    · rw [if_pos h, if_pos h, List.length_cons, ih]
    · rw [if_neg h, if_neg h, List.length_modifyHead, ih]

theorem count_joined {sep : Char} {segments : List (List Char)}
    (free : ∀ segment ∈ segments, sep ∉ segment) (ne : segments ≠ []) :
    ([sep].intercalate segments).count sep + 1 = segments.length := by
  rw [← length_splitOn, List.splitOn_intercalate sep free ne]

/-- The first separator cuts a text in one way. -/
theorem append_cons_inj {sep : Char} {front front' back back' : List Char} (h : sep ∉ front)
    (h' : sep ∉ front') (e : front ++ sep :: back = front' ++ sep :: back') :
    front = front' ∧ back = back' := by
  have split := congrArg (List.splitOn sep) e
  rw [List.splitOn_append_cons_self_of_not_mem h,
    List.splitOn_append_cons_self_of_not_mem h'] at split
  obtain rfl := (List.cons.inj split).1
  exact ⟨rfl, (List.cons.inj (List.append_cancel_left e)).2⟩

/-- Where a glob and a text have the same number of separators, no star takes one. -/
theorem matches_separated_iff {sep : Char} (literal : sep ≠ wildcard)
    {glob rest text more : List Char} (free : sep ∉ text) (same : rest.count sep = more.count sep) :
    Matches (glob ++ sep :: rest) (text ++ sep :: more) ↔
      Matches glob text ∧ Matches rest more := by
  constructor
  · intro h
    obtain ⟨front, back, e, first, second⟩ := exists_of_matches_append h
    obtain ⟨back, rfl, behind⟩ := (matches_char_iff literal).1 second
    -- the rest needs as many separators as come after the cut, so none is left for the first glob
    have none : sep ∉ front := by
      have enough := count_le_of_matches literal behind
      have total := congrArg (List.count sep) e
      rw [List.count_append, List.count_append, List.count_cons_self, List.count_cons_self,
        List.count_eq_zero_of_not_mem free] at total
      exact List.count_eq_zero.1 (by omega)
    obtain ⟨rfl, rfl⟩ := append_cons_inj free none e
    exact ⟨first, behind⟩
  · rintro ⟨first, second⟩
    exact first.append (.char literal second)

theorem joined_cons {sep : Char} (first : List Char) {rest : List (List Char)} (ne : rest ≠ []) :
    [sep].intercalate (first :: rest) = first ++ sep :: [sep].intercalate rest := by
  obtain ⟨second, more, rfl⟩ := List.exists_cons_of_ne_nil ne
  rw [List.intercalate_cons_cons, List.append_assoc, List.singleton_append]

/-- Globs match segments one by one exactly when there are as many of them and, joined by a
separator, the whole glob matches the whole text. -/
theorem forall₂_matches_iff {sep : Char} (literal : sep ≠ wildcard)
    {globs segments : List (List Char)} (hg : ∀ glob ∈ globs, sep ∉ glob)
    (hs : ∀ segment ∈ segments, sep ∉ segment) :
    List.Forall₂ Matches globs segments ↔
      globs.length = segments.length ∧
        Matches ([sep].intercalate globs) ([sep].intercalate segments) := by
  induction globs generalizing segments with
  | nil =>
    rw [List.forall₂_nil_left_iff]
    constructor
    · rintro rfl
      exact ⟨rfl, .nil⟩
    · exact fun h => List.length_eq_zero_iff.1 h.1.symm
  | cons glob globs ih =>
    cases segments with
    | nil => simp
    | cons segment segments =>
      have hg' : ∀ g ∈ globs, sep ∉ g := fun g m => hg g (List.mem_cons_of_mem _ m)
      have hs' : ∀ s ∈ segments, sep ∉ s := fun s m => hs s (List.mem_cons_of_mem _ m)
      rw [List.forall₂_cons, ih hg' hs', and_left_comm, List.length_cons, List.length_cons,
        Nat.add_right_cancel_iff]
      refine and_congr_right fun length => ?_
      by_cases last : globs = []
      · obtain rfl := last
        obtain rfl := List.length_eq_zero_iff.1 length.symm
        simp [Matches.nil]
      · have last' : segments ≠ [] := by
          rintro rfl
          exact last (List.length_eq_zero_iff.1 length)
        have same :
            ([sep].intercalate globs).count sep = ([sep].intercalate segments).count sep := by
          have h := count_joined hg' last
          have h' := count_joined hs' last'
          omega
        rw [joined_cons glob last, joined_cons segment last',
          matches_separated_iff literal (hs segment List.mem_cons_self) same]

theorem separator_ne_wildcard : separator ≠ wildcard := by decide

/-- A glob without deep segments matches the paths with as many separators that it matches as a
whole text. -/
theorem isPathMatch_iff_isMatch {glob path : List Char}
    (h : deepWildcard ∉ glob.splitOn separator) :
    isPathMatch glob path = true ↔
      glob.count separator = path.count separator ∧ isMatch glob path = true := by
  have free (text : List Char) : ∀ segment ∈ text.splitOn separator, separator ∉ segment :=
    fun segment m => ProjectPath.not_mem_of_mem_splitOn m
  have whole := forall₂_matches_iff separator_ne_wildcard (free glob) (free path)
  rw [List.intercalate_splitOn, List.intercalate_splitOn, length_splitOn, length_splitOn,
    Nat.add_right_cancel_iff, ← isMatch_iff] at whole
  rw [isPathMatch, matchesSegments_iff_forall₂ h, ← whole]
  simp only [isMatch_iff]

/-- A path matches a path glob exactly when the deep segments of the glob can be replaced by
segments with one star each so that there are as many segments as in the path, and each matches the
one at its place. So a glob without deep segments matches the paths with as many separators that it
matches as a whole text, and one without stars matches itself alone. -/
theorem isPathMatch_iff_expands (glob path : List Char) :
    (isPathMatch glob path = true ↔
      ∃ flat, Expands (glob.splitOn separator) flat ∧
        List.Forall₂ (fun glob segment => isMatch glob segment = true) flat
          (path.splitOn separator)) ∧
      (deepWildcard ∉ glob.splitOn separator →
        (isPathMatch glob path = true ↔
          glob.count separator = path.count separator ∧ isMatch glob path = true)) ∧
      (wildcard ∉ glob → (isPathMatch glob path = true ↔ path = glob)) := by
  refine ⟨matchesSegments_iff_expands, isPathMatch_iff_isMatch, fun literal => ?_⟩
  have shallow : deepWildcard ∉ glob.splitOn separator := by
    intro deep
    have star : wildcard ∈ [separator].intercalate (glob.splitOn separator) :=
      ProjectPath.mem_intercalate deep List.mem_cons_self
    rw [List.intercalate_splitOn] at star
    exact literal star
  rw [isPathMatch_iff_isMatch shallow, isMatch_literal_iff literal]
  constructor
  · exact And.right
  · rintro rfl
    exact ⟨rfl, rfl⟩

/-- Two stars are not a deep segment when a segment has other characters too. -/
theorem isPathMatch_iff_expands_of_longer_segment :
    (deepWildcard ∉ "app**/1*".toList.splitOn separator ∧
      isPathMatch "app**/1*".toList "app-x/1.0".toList = true) ∧
      wildcard ∉ "team//app".toList ∧ isPathMatch "team//app".toList "team/app".toList ≠ true :=
  ⟨⟨by decide, ((isPathMatch_iff_expands _ _).2.1 (by decide)).2 ⟨by decide, by decide⟩⟩,
    by decide, mt ((isPathMatch_iff_expands _ _).2.2 (by decide)).1 (by decide)⟩

end BuildQuery.Glob
