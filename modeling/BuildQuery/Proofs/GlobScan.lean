import BuildQuery.Pattern.Scan
import BuildQuery.Proofs.GlobMatching

/-!
# What a scan of a glob finds

Every round of a scan keeps the lists that its indices stand between (`Between`): before the first
star the scan has read the same characters in the glob and in the text, and after one it has read
them since the last star, whose choice decides the match. A scan forgets all earlier stars. This
loses nothing, because the place where the last star stands was the first one to go on from.

Main statement: a scan ends within its glob and its text with the answer of the matcher, and this
is yes exactly for the texts that the glob becomes when its stars are replaced by runs of characters
(`scan_decides`).
-/

namespace BuildQuery.Glob

/-! ## Stars replaced by runs -/

/-- The text that a glob becomes when the star at each index is replaced by a run of characters and
every other character is kept. -/
def fill (runs : Nat → List Char) (glob : List Char) : List Char :=
  (glob.mapIdx fun i c => if c = wildcard then runs i else [c]).flatten

theorem fill_cons (runs : Nat → List Char) (c : Char) (glob : List Char) :
    fill runs (c :: glob) =
      (if c = wildcard then runs 0 else [c]) ++ fill (fun i => runs (i + 1)) glob := by
  simp only [fill, List.mapIdx_cons, List.flatten_cons]

/-- A glob stands for the texts that it becomes when its stars are replaced. -/
theorem matches_iff_exists_fill {glob text : List Char} :
    Matches glob text ↔ ∃ runs, text = fill runs glob := by
  constructor
  · intro h
    induction h with
    | nil => exact ⟨fun _ => [], rfl⟩
    | run skipped _ ih =>
      obtain ⟨runs, rfl⟩ := ih
      refine ⟨fun i => i.casesOn skipped runs, ?_⟩
      rw [fill_cons, if_pos rfl]
      rfl
    | char literal _ ih =>
      obtain ⟨runs, rfl⟩ := ih
      refine ⟨fun i => runs (i - 1), ?_⟩
      rw [fill_cons, if_neg literal]
      rfl
  · rintro ⟨runs, rfl⟩
    induction glob generalizing runs with
    | nil => exact .nil
    | cons c glob ih =>
      rw [fill_cons]
      by_cases star : c = wildcard
      · rw [if_pos star, star]
        exact .run _ (ih _)
      · rw [if_neg star]
        exact .char star (ih _)

/-! ## Characters that the glob and the text have in common -/

section Common

variable {seen glob text : List Char}

theorem matches_append_append_iff (literal : wildcard ∉ seen) :
    Matches (seen ++ glob) (seen ++ text) ↔ Matches glob text := by
  rw [matches_append_iff literal]
  constructor
  · rintro ⟨rest, e, h⟩
    rwa [List.append_cancel_left e]
  · exact fun h => ⟨text, rfl, h⟩

theorem afterFirst?_append (seen text : List Char) :
    afterFirst? seen (seen ++ text) = some text := by
  cases h : seen ++ text with
  | nil =>
    obtain ⟨rfl, rfl⟩ := List.append_eq_nil_iff.1 h
    rfl
  | cons c cs =>
    have front : seen.isPrefixOf (c :: cs) = true :=
      List.isPrefixOf_iff_prefix.2 (h ▸ List.prefix_append seen text)
    rw [afterFirst?, if_pos front, ← h, List.drop_left]

/-- When the characters between two stars stand at the first place that the first star leaves, only
the second star is left to choose. -/
theorem matches_run_forget (literal : wildcard ∉ seen) :
    Matches (wildcard :: (seen ++ wildcard :: glob)) (seen ++ text) ↔
      Matches (wildcard :: glob) text := by
  rw [matches_run_append_iff literal, afterFirst?_append]
  simp

/-- A star takes the first character when the rest of the glob cannot go on from there. -/
theorem matches_run_cons_iff {c : Char} (h : ¬ Matches glob (c :: text)) :
    Matches (wildcard :: glob) (c :: text) ↔ Matches (wildcard :: glob) text := by
  rw [matches_run_iff, matches_run_iff]
  constructor
  · rintro ⟨rest, end_, m⟩
    rcases List.suffix_cons_iff.1 end_ with rfl | end_
    · exact absurd m h
    · exact ⟨rest, end_, m⟩
  · rintro ⟨rest, end_, m⟩
    exact ⟨rest, end_.trans (List.suffix_cons c text), m⟩

/-- Of a glob that matches the empty text only stars are left. -/
theorem matches_nil_right_iff : Matches glob [] ↔ glob.all (· == wildcard) = true := by
  induction glob with
  | nil => simp [matches_nil_iff]
  | cons c glob ih =>
    by_cases star : c = wildcard
    · rw [star, matches_run_iff]
      simp [ih]
    · rw [matches_char_iff star]
      simp [star]

/-- A star that must take what the glob after it has read already leaves only stars. -/
theorem matches_run_append_self_iff (literal : wildcard ∉ seen) :
    Matches (wildcard :: (seen ++ glob)) seen ↔ glob.all (· == wildcard) = true := by
  rw [matches_run_iff, ← matches_nil_right_iff]
  constructor
  · rintro ⟨rest, end_, h⟩
    obtain ⟨left, rfl, m⟩ := (matches_append_iff literal).1 h
    have short := end_.length_le
    rw [List.length_append] at short
    obtain rfl : left = [] := List.eq_nil_of_length_eq_zero (by omega)
    exact m
  · intro h
    refine ⟨seen, List.suffix_rfl, (matches_append_iff literal).2 ⟨[], ?_, h⟩⟩
    rw [List.append_nil]

/-- A glob that goes on with another character than the text does not match. -/
theorem not_matches_cons {c : Char} (notStar : glob.head? ≠ some wildcard)
    (differs : glob.head? ≠ some c) : ¬ Matches glob (c :: text) := by
  cases glob with
  | nil => exact fun h => nomatch matches_nil_iff.1 h
  | cons d glob =>
    rw [matches_char_iff fun e => notStar (congrArg some e)]
    rintro ⟨rest, e, -⟩
    exact differs (congrArg some (List.cons.inj e).1.symm)

end Common

/-! ## Rounds -/

/-- What a scan has left of its glob and its text, in terms of the lists before its indices. -/
inductive Between (glob text : List Char) : Scan → List Char → List Char → Prop where
  /-- There was no star. -/
  | noStar {seen g t : List Char} (literal : wildcard ∉ seen) (hg : glob = seen ++ g)
      (ht : text = seen ++ t) : Between glob text ⟨seen.length, seen.length, none⟩ g t
  /-- After the last star and the characters that it takes, the scan has read the same characters
  on both sides, and the match depends on this star alone. -/
  | afterStar {front taken seen g t : List Char} (literal : wildcard ∉ seen)
      (hg : glob = front ++ wildcard :: (seen ++ g)) (ht : text = taken ++ (seen ++ t))
      (decides : Matches glob text ↔ Matches (wildcard :: (seen ++ g)) (seen ++ t)) :
      Between glob text
        ⟨front.length + 1 + seen.length, taken.length + seen.length,
          some ⟨front.length, taken.length⟩⟩ g t

/-- How much a scan can still do: first how many characters the last star has not taken, then how
much is left of the glob and of the text. -/
def Scan.measure (glob text : List Char) (s : Scan) : Nat × Nat :=
  (match s.star? with
    | some star => text.length - star.taken
    | none => text.length + 1,
    glob.length - s.globIndex + (text.length - s.textIndex))

/-- Whether a scan can do less than another one. -/
def Scan.Nearer (glob text : List Char) (s' s : Scan) : Prop :=
  Prod.Lex (· < ·) (· < ·) (s'.measure glob text) (s.measure glob text)

namespace Scan

variable {glob text : List Char} {s s' : Scan}

theorem nearer_of_lt (h : (s'.measure glob text).1 < (s.measure glob text).1) :
    s'.Nearer glob text s :=
  Prod.lex_def.2 (.inl h)

theorem nearer_of_le (first : (s'.measure glob text).1 ≤ (s.measure glob text).1)
    (second : (s'.measure glob text).2 < (s.measure glob text).2) : s'.Nearer glob text s := by
  rcases Nat.lt_or_eq_of_le first with less | same
  · exact nearer_of_lt less
  · exact Prod.lex_def.2 (.inr ⟨same, second⟩)

end Scan

namespace Between

variable {glob text g t : List Char} {s : Scan}

theorem start (glob text : List Char) : Between glob text .start glob text :=
  @noStar glob text [] glob text List.not_mem_nil rfl rfl

/-- A scan that has read nothing since its last star. -/
theorem behindStar {front taken : List Char} (hg : glob = front ++ wildcard :: g)
    (ht : text = taken ++ t) (decides : Matches glob text ↔ Matches (wildcard :: g) t) :
    Between glob text ⟨front.length + 1, taken.length, some ⟨front.length, taken.length⟩⟩ g t :=
  @afterStar glob text front taken [] g t List.not_mem_nil hg ht decides

/-- The index of a scan in the glob stands before what is left of the glob. -/
theorem exists_glob_eq (h : Between glob text s g t) :
    ∃ front, glob = front ++ g ∧ s.globIndex = front.length := by
  cases h with
  | noStar _ hg _ => exact ⟨_, hg, rfl⟩
  | @afterStar front taken seen _ _ _ hg _ _ =>
    refine ⟨front ++ wildcard :: seen, ?_, ?_⟩
    · rw [hg, List.append_assoc, List.cons_append]
    · show front.length + 1 + seen.length = (front ++ wildcard :: seen).length
      rw [List.length_append, List.length_cons]
      omega

/-- The index of a scan in the text stands before what is left of the text. -/
theorem exists_text_eq (h : Between glob text s g t) :
    ∃ front, text = front ++ t ∧ s.textIndex = front.length := by
  cases h with
  | noStar _ _ ht => exact ⟨_, ht, rfl⟩
  | @afterStar front taken seen _ _ _ _ ht _ =>
    refine ⟨taken ++ seen, ?_, List.length_append.symm⟩
    rw [ht, List.append_assoc]

theorem getElem?_glob (h : Between glob text s g t) : glob[s.globIndex]? = g.head? := by
  obtain ⟨front, rfl, e⟩ := h.exists_glob_eq
  rw [e, List.getElem?_append_right (Nat.le_refl _), Nat.sub_self, List.head?_eq_getElem?]

theorem fromIndex?_glob (h : Between glob text s g t) : fromIndex? glob s.globIndex = some g := by
  obtain ⟨front, rfl, e⟩ := h.exists_glob_eq
  rw [fromIndex?, e, if_pos (by rw [List.length_append]; omega), List.drop_left]

/-- At the end of the text a scan stays within the glob and looks for stars in what is left. -/
theorem round_nil (h : Between glob text s g []) :
    s.round glob text = .answer (g.all (· == wildcard)) := by
  obtain ⟨front, e, place⟩ := h.exists_text_eq
  have done : ¬ s.textIndex < text.length := by
    rw [e, place, List.append_nil]
    omega
  rw [Scan.round, dif_neg done, h.fromIndex?_glob]

/-- Before the end of the text a scan compares the first characters that are left. -/
theorem round_cons {c : Char} (h : Between glob text s g (c :: t)) :
    s.round glob text =
      if g.head? = some wildcard then .next s.atStar
      else if g.head? = some c then .next s.pastChar
      else s.retreat := by
  have look := h.getElem?_glob
  obtain ⟨front, rfl, place⟩ := h.exists_text_eq
  have more : s.textIndex < (front ++ c :: t).length := by
    rw [place, List.length_append, List.length_cons]
    omega
  have char : (front ++ c :: t)[s.textIndex] = c := by
    simp [place]
  rw [Scan.round, dif_pos more, char, look]

/-! ### What a round leaves behind -/

/-- At the end of the text there is a match when only stars are left of the glob. -/
theorem all_wildcard_iff (h : Between glob text s g []) :
    g.all (· == wildcard) = true ↔ isMatch glob text = true := by
  rw [isMatch_iff]
  cases h with
  | noStar literal hg ht =>
    rw [hg, ht, matches_append_append_iff literal, matches_nil_right_iff]
  | afterStar literal hg ht decides =>
    rw [decides, List.append_nil, matches_run_append_self_iff literal]

/-- At a star a scan may forget the star before it. -/
theorem atStar (h : Between glob text s (wildcard :: g) t) : Between glob text s.atStar g t := by
  cases h with
  | @noStar seen _ _ literal hg ht =>
    refine behindStar hg ht ?_
    rw [hg, ht]
    exact matches_append_append_iff literal
  | @afterStar front taken seen _ _ literal hg ht decides =>
    have place : front.length + 1 + seen.length = (front ++ wildcard :: seen).length := by
      rw [List.length_append, List.length_cons]
      omega
    have read : taken.length + seen.length = (taken ++ seen).length := List.length_append.symm
    rw [Scan.atStar, place, read]
    refine behindStar ?_ ?_ ?_
    · rw [hg, List.append_assoc, List.cons_append]
    · rw [ht, List.append_assoc]
    · rw [decides]
      exact matches_run_forget literal

/-- A common character joins those that the scan has read on both sides. -/
theorem pastChar {c : Char} (h : Between glob text s (c :: g) (c :: t)) (notStar : c ≠ wildcard) :
    Between glob text s.pastChar g t := by
  have longer {seen : List Char} (literal : wildcard ∉ seen) : wildcard ∉ seen ++ [c] := by
    rw [List.mem_append, not_or, List.mem_singleton]
    exact ⟨literal, notStar.symm⟩
  cases h with
  | @noStar seen _ _ literal hg ht =>
    have place : seen.length + 1 = (seen ++ [c]).length := by
      rw [List.length_append, List.length_singleton]
    rw [Scan.pastChar, place]
    refine noStar (longer literal) ?_ ?_
    · rw [hg, List.append_assoc, List.singleton_append]
    · rw [ht, List.append_assoc, List.singleton_append]
  | @afterStar front taken seen _ _ literal hg ht decides =>
    have place (n : Nat) : n + seen.length + 1 = n + (seen ++ [c]).length := by
      rw [List.length_append, List.length_singleton, Nat.add_assoc]
    rw [Scan.pastChar, place, place]
    refine afterStar (longer literal) ?_ ?_ ?_
    · rw [hg, List.append_assoc, List.singleton_append]
    · rw [ht, List.append_assoc, List.singleton_append]
    · rw [decides, List.append_assoc, List.append_assoc, List.singleton_append,
        List.singleton_append]

/-- Where the characters differ there is no match without a star, and otherwise the last star takes
the next character. -/
theorem retreat {c : Char} (h : Between glob text s g (c :: t)) (differs : ¬ Matches g (c :: t)) :
    s.retreat = .answer (isMatch glob text) ∨
      ∃ star g' t', s.star? = some star ∧ Between glob text (.backTo star) g' t' := by
  cases h with
  | @noStar seen _ _ literal hg ht =>
    have no : isMatch glob text = false := by
      rw [← Bool.not_eq_true, isMatch_iff, hg, ht, matches_append_append_iff literal]
      exact differs
    exact .inl (congrArg Round.answer no.symm)
  | @afterStar front taken seen _ _ literal hg ht decides =>
    have stuck : ¬ Matches (seen ++ g) (seen ++ c :: t) := by
      rwa [matches_append_append_iff literal]
    obtain ⟨d, rest, e⟩ : ∃ d rest, seen ++ c :: t = d :: rest :=
      List.exists_cons_of_ne_nil (List.append_ne_nil_of_right_ne_nil _ (List.cons_ne_nil c t))
    rw [e] at decides stuck ht
    have place : taken.length + 1 = (taken ++ [d]).length := by
      rw [List.length_append, List.length_singleton]
    refine .inr ⟨_, seen ++ g, rest, rfl, ?_⟩
    rw [Scan.backTo, place]
    refine behindStar hg ?_ ?_
    · rw [ht, List.append_assoc, List.singleton_append]
    · rw [decides]
      exact matches_run_cons_iff stuck

/-! ### What a round uses up -/

theorem taken_le (h : Between glob text s g t) {star : Star} (e : s.star? = some star) :
    star.taken ≤ s.textIndex := by
  cases h with
  | noStar => contradiction
  | afterStar =>
    obtain rfl := Option.some.inj e
    exact Nat.le_add_right _ _

theorem nearer_atStar (h : Between glob text s (wildcard :: g) t) :
    s.atStar.Nearer glob text s := by
  obtain ⟨front, e, place⟩ := h.exists_glob_eq
  have inside : s.globIndex < glob.length := by
    rw [e, place, List.length_append, List.length_cons]
    omega
  refine Scan.nearer_of_le ?_ ?_
  · simp only [Scan.measure, Scan.atStar]
    cases star : s.star? with
    | none => dsimp only; omega
    | some last =>
      have := h.taken_le star
      dsimp only
      omega
  · simp only [Scan.measure, Scan.atStar]
    omega

theorem nearer_pastChar {c d : Char} (h : Between glob text s (c :: g) (d :: t)) :
    s.pastChar.Nearer glob text s := by
  obtain ⟨front, e, place⟩ := h.exists_glob_eq
  have inside : s.globIndex < glob.length := by
    rw [e, place, List.length_append, List.length_cons]
    omega
  refine Scan.nearer_of_le (Nat.le_refl _) ?_
  simp only [Scan.measure, Scan.pastChar]
  omega

theorem nearer_backTo {c : Char} (h : Between glob text s g (c :: t)) {star : Star}
    (e : s.star? = some star) : (Scan.backTo star).Nearer glob text s := by
  obtain ⟨front, split, place⟩ := h.exists_text_eq
  have inside : s.textIndex < text.length := by
    rw [split, place, List.length_append, List.length_cons]
    omega
  have before := h.taken_le e
  refine Scan.nearer_of_lt ?_
  simp only [Scan.measure, Scan.backTo, e]
  omega

/-! ### Rounds until the end -/

/-- A round ends the scan with the answer of the matcher, or leads to another scan that still stands
between lists and can do less. -/
theorem round (h : Between glob text s g t) :
    s.round glob text = .answer (isMatch glob text) ∨
      ∃ s' g' t', s.round glob text = .next s' ∧ Between glob text s' g' t' ∧
        s'.Nearer glob text s := by
  cases t with
  | nil =>
    left
    rw [h.round_nil, Bool.eq_iff_iff.2 h.all_wildcard_iff]
  | cons c t =>
    rw [h.round_cons]
    by_cases star : g.head? = some wildcard
    · obtain ⟨g, rfl⟩ := List.head?_eq_some_iff.1 star
      exact .inr ⟨_, g, c :: t, if_pos star, h.atStar, h.nearer_atStar⟩
    · rw [if_neg star]
      by_cases same : g.head? = some c
      · obtain ⟨g, rfl⟩ := List.head?_eq_some_iff.1 same
        have notStar : c ≠ wildcard := fun e => star (congrArg some e)
        exact .inr ⟨_, g, t, if_pos same, h.pastChar notStar, h.nearer_pastChar⟩
      · rw [if_neg same]
        rcases h.retreat (not_matches_cons star same) with no | ⟨last, g', t', e, h'⟩
        · exact .inl no
        · refine .inr ⟨_, g', t', ?_, h', h.nearer_backTo e⟩
          rw [Scan.retreat, e]

end Between

/-- A scan that stands between lists ends with the answer of the matcher. -/
theorem Between.exists_run_eq {glob text g t : List Char} {s : Scan} (h : Between glob text s g t) :
    ∃ n, ∀ m, n ≤ m → s.run glob text m = .answer (isMatch glob text) := by
  rcases h.round with done | ⟨s', g', t', step, h', nearer⟩
  · refine ⟨1, fun m le => ?_⟩
    obtain ⟨m, rfl⟩ := Nat.exists_eq_add_of_le' le
    rw [Scan.run, done]
  · obtain ⟨n, answer⟩ := h'.exists_run_eq
    refine ⟨n + 1, fun m le => ?_⟩
    obtain ⟨m, rfl⟩ := Nat.exists_eq_add_of_le' (Nat.le_trans (Nat.le_add_left 1 n) le)
    rw [Scan.run, step]
    exact answer m (Nat.le_of_add_le_add_right le)
termination_by s.measure glob text
decreasing_by exact nearer

/-- A scan that stands between lists never looks behind the end of the glob or of the text. -/
theorem Between.run_ne_outOfRange {glob text g t : List Char} {s : Scan}
    (h : Between glob text s g t) (m : Nat) : s.run glob text m ≠ .outOfRange := by
  induction m generalizing s g t with
  | zero => exact nofun
  | succ m ih =>
    rcases h.round with done | ⟨s', g', t', step, h', -⟩
    · rw [Scan.run, done]
      exact nofun
    · rw [Scan.run, step]
      exact ih h'

/-- A scan from the start never looks behind the end of the glob or of the text, and ends with the
answer of the matcher. The answer is yes exactly for the texts that the glob becomes when each star
is replaced by a run of characters, which may be empty, and every other character is kept. -/
theorem scan_decides (glob text : List Char) :
    (∀ m, Scan.start.run glob text m ≠ .outOfRange) ∧
      (∃ n, ∀ m, n ≤ m → Scan.start.run glob text m = .answer (isMatch glob text)) ∧
      (isMatch glob text = true ↔ ∃ runs, text = fill runs glob) := by
  have first := Between.start glob text
  refine ⟨first.run_ne_outOfRange, first.exists_run_eq, ?_⟩
  rw [isMatch_iff, matches_iff_exists_fill]

/-- The first star takes `xbx`, after the first `b` of the text has turned out to be too early. -/
example : Scan.start.run "a*bc*d".toList "axbxbcd".toList 20 = .answer true := by decide

end BuildQuery.Glob
