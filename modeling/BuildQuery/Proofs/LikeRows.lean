import BuildQuery.Pattern.Rows
import BuildQuery.Proofs.GlobScan
import BuildQuery.Proofs.LikeMatching
import Mathlib.Data.List.Forall2

/-!
# Store patterns, rows and globs

A row that is written place by place agrees with the step of the matcher as far as it is written
(`write?_writtenTo`), so the rows lead to the answer of the matcher (`matchByRows?_eq`). A relation
says how pattern text falls into pieces. Main statements: a pattern matches exactly the texts that
consist of one part for each of its pieces (`isMatch_iff_parts`), and on the pattern of a glob the
store has the answer of the glob (`isMatch_ofGlob_eq`).
-/

namespace BuildQuery.Like

/-! ## Rows written place by place -/

section Rows

variable {text : List Char} {row written : List Bool} {token : Token} {j : Nat}

/-- Behind its first place a spread row is marked where the row is, or where it is marked just
before. -/
theorem getElem?_spread_succ (marked : Bool) (row : List Bool) (j : Nat) :
    (spread marked row)[j + 1]? = do
      let same ← row[j + 1]?
      let before ← (spread marked row)[j]?
      return same || before := by
  induction row generalizing marked j with
  | nil => rfl
  | cons m row ih =>
    rw [spread, List.getElem?_cons_succ, List.getElem?_cons_succ]
    cases j with
    | zero =>
      cases row with
      | nil => rfl
      | cons m' row => simp [spread, Bool.or_comm]
    | succ j => rw [ih, List.getElem?_cons_succ]

/-- Behind its first place an advanced row is marked where an accepted character follows a mark. -/
theorem getElem?_advance_succ (accepts : Char → Bool) (text : List Char) (row : List Bool)
    (j : Nat) :
    (advance accepts text row)[j + 1]? = do
      let before ← row[j]?
      let c ← text[j]?
      return before && accepts c := by
  rw [advance, List.getElem?_cons_succ, List.getElem?_zipWith]
  cases text[j]? with
  | none => cases row[j]? <;> rfl
  | some c =>
    cases row[j]? with
    | none => rfl
    | some m => exact congrArg some (Bool.and_comm _ _)

/-- The mark for a place is that of the matcher's step, when the places before it are written. -/
theorem mark?_eq (hr : row.length = text.length + 1) (hj : j ≤ text.length)
    (before : ∀ i < j, written[i]? = (step text row token)[i]?) :
    mark? text row written token j = (step text row token)[j]? := by
  cases token with
  | anyRun =>
    cases j with
    | zero => cases row <;> rfl
    | succ j => rw [mark?, before j (Nat.lt_succ_self j), step, getElem?_spread_succ]
  | anyOne =>
    cases j with
    | zero => rfl
    | succ j =>
      have inText : j < text.length := hj
      have inRow : j < row.length := by omega
      rw [mark?, step, getElem?_advance_succ, List.getElem?_eq_getElem inText,
        List.getElem?_eq_getElem inRow]
      exact congrArg some (Bool.and_true _).symm
  | literal d =>
    cases j with
    | zero => rfl
    | succ j => rw [mark?, step, getElem?_advance_succ]

/-- The row that the matcher's step leads to, as far as it is written, and blank behind. -/
def writtenTo (text : List Char) (row : List Bool) (token : Token) (j : Nat) : List Bool :=
  (step text row token).take j ++ List.replicate (text.length + 1 - j) false

theorem writtenTo_length (hr : row.length = text.length + 1) :
    writtenTo text row token (text.length + 1) = step text row token := by
  rw [writtenTo, Nat.sub_self, List.replicate_zero, List.append_nil,
    List.take_of_length_le (Nat.le_of_eq (length_step hr token))]

/-- One more place is written as the matcher's step has it. -/
theorem write?_writtenTo (hr : row.length = text.length + 1) (hj : j ≤ text.length) :
    write? text row token (writtenTo text row token j) j =
      some (writtenTo text row token (j + 1)) := by
  have length : (step text row token).length = text.length + 1 := length_step hr token
  have short : ((step text row token).take j).length = j := by
    rw [List.length_take]
    omega
  have before : ∀ i < j, (writtenTo text row token j)[i]? = (step text row token)[i]? := by
    intro i hi
    rw [writtenTo, List.getElem?_append_left (by omega), List.getElem?_take_of_lt hi]
  have inside : j < (writtenTo text row token j).length := by
    rw [writtenTo, List.length_append, short, List.length_replicate]
    omega
  have blank : text.length + 1 - j = text.length + 1 - (j + 1) + 1 := by omega
  rw [write?, mark?_eq hr hj before, List.getElem?_eq_getElem (by omega)]
  show put? _ j _ = _
  -- the place is the first blank one
  rw [put?, if_pos inside, writtenTo, writtenTo, List.set_append_right _ _ (by omega), short,
    Nat.sub_self, blank, List.replicate_succ, List.set_cons_zero,
    List.take_succ_eq_append_getElem (by omega), List.append_assoc, List.singleton_append]

theorem foldlM_write? (hr : row.length = text.length + 1) (hj : j ≤ text.length + 1) :
    (List.range j).foldlM (write? text row token) (blankRow text) =
      some (writtenTo text row token j) := by
  induction j with
  | zero => rfl
  | succ j ih =>
    rw [List.range_succ, List.foldlM_append, ih (by omega)]
    show write? text row token _ j >>= pure = _
    rw [bind_pure, write?_writtenTo hr (by omega)]

theorem nextRow?_eq (hr : row.length = text.length + 1) (token : Token) :
    nextRow? text row token = some (step text row token) := by
  rw [nextRow?, foldlM_write? hr (Nat.le_refl _), writtenTo_length hr]

theorem foldlM_nextRow? (pattern : List Token) (hr : row.length = text.length + 1) :
    pattern.foldlM (nextRow? text) row = some (pattern.foldl (step text) row) := by
  induction pattern generalizing row with
  | nil => rfl
  | cons token pattern ih =>
    rw [List.foldlM_cons, nextRow?_eq hr, List.foldl_cons]
    exact ih (length_step hr token)

end Rows

theorem length_foldl_step {text : List Char} (pattern : List Token) {row : List Bool}
    (hr : row.length = text.length + 1) :
    (pattern.foldl (step text) row).length = text.length + 1 := by
  induction pattern generalizing row with
  | nil => exact hr
  | cons token pattern ih => exact ih (length_step hr token)

/-- The rows never look or write behind the end, and lead to the answer of the matcher. -/
theorem matchByRows?_eq (pattern text : List Char) :
    matchByRows? pattern text = some (isMatch pattern text) := by
  have start : put? (blankRow text) 0 true = some (true :: text.map fun _ => false) := by
    rw [put?, blankRow, if_pos (by simp), List.replicate_succ, List.set_cons_zero,
      List.map_const']
  have hr : (true :: text.map fun _ => false).length = text.length + 1 := by simp
  have length := length_foldl_step (tokens pattern) hr
  rw [matchByRows?, start, isMatch, matchesTokens, List.getLast?_eq_getElem?, length,
    Nat.add_sub_cancel]
  show (tokens pattern).foldlM (nextRow? text) _ >>= _ = _
  rw [foldlM_nextRow? _ hr]
  show ((tokens pattern).foldl (step text) _)[text.length]? = _
  rw [List.getElem?_eq_getElem (by omega)]
  cases ((tokens pattern).foldl (step text) (true :: text.map fun _ => false))[text.length] <;> rfl

/-! ## Pieces and parts -/

/-- How pattern text falls into pieces: any run, any one character, a character after the escape,
and every other character as itself. An escape at the very end stands for itself. -/
inductive FallsInto : List Char → List Token → Prop where
  | nil : FallsInto [] []
  | anyRun {cs : List Char} {pieces : List Token} (rest : FallsInto cs pieces) :
      FallsInto ('%' :: cs) (.anyRun :: pieces)
  | anyOne {cs : List Char} {pieces : List Token} (rest : FallsInto cs pieces) :
      FallsInto ('_' :: cs) (.anyOne :: pieces)
  | escaped (c : Char) {cs : List Char} {pieces : List Token} (rest : FallsInto cs pieces) :
      FallsInto (escape :: c :: cs) (.literal c :: pieces)
  | lastEscape : FallsInto [escape] [.literal escape]
  | plain {c : Char} {cs : List Char} {pieces : List Token}
      (h : c ≠ '%' ∧ c ≠ '_' ∧ c ≠ escape) (rest : FallsInto cs pieces) :
      FallsInto (c :: cs) (.literal c :: pieces)

theorem fallsInto_tokens (pattern : List Char) : FallsInto pattern (tokens pattern) := by
  fun_induction tokens pattern with
  | case1 => exact .nil
  | case2 c =>
    by_cases run : c = '%'
    · rw [if_pos run, run]
      exact .anyRun .nil
    · rw [if_neg run]
      by_cases one : c = '_'
      · rw [if_pos one, one]
        exact .anyOne .nil
      · rw [if_neg one]
        by_cases esc : c = escape
        · rw [esc]
          exact .lastEscape
        · exact .plain ⟨run, one, esc⟩ .nil
  | case3 d cs rest => exact .anyRun rest
  | case4 d cs run rest => exact .anyOne rest
  | case5 d cs run one rest => exact .escaped d rest
  | case6 c d cs run one esc rest => exact .plain ⟨run, one, esc⟩ rest

theorem tokens_anyRun (cs : List Char) : tokens ('%' :: cs) = .anyRun :: tokens cs := by
  cases cs <;> rfl

theorem tokens_anyOne (cs : List Char) : tokens ('_' :: cs) = .anyOne :: tokens cs := by
  cases cs <;> rfl

theorem tokens_escaped (c : Char) (cs : List Char) :
    tokens (escape :: c :: cs) = .literal c :: tokens cs := rfl

theorem tokens_plain {c : Char} (h : c ≠ '%' ∧ c ≠ '_' ∧ c ≠ escape) (cs : List Char) :
    tokens (c :: cs) = .literal c :: tokens cs := by
  cases cs <;> simp [tokens, h]

/-- Pattern text falls into pieces in one way, the one in which it is read. -/
theorem fallsInto_iff {pattern : List Char} {pieces : List Token} :
    FallsInto pattern pieces ↔ pieces = tokens pattern := by
  constructor
  · intro h
    induction h with
    | nil => rfl
    | anyRun _ ih => rw [ih, tokens_anyRun]
    | anyOne _ ih => rw [ih, tokens_anyOne]
    | escaped c _ ih => rw [ih, tokens_escaped]
    | lastEscape => rfl
    | plain h _ ih => rw [ih, tokens_plain h]
  · rintro rfl
    exact fallsInto_tokens pattern

/-- A text that a pattern stands for consists of one part for each piece. -/
theorem matches_iff_exists_parts {pieces : List Token} {text : List Char} :
    Matches pieces text ↔
      ∃ parts, List.Forall₂ Token.Takes pieces parts ∧ text = parts.flatten := by
  constructor
  · intro h
    induction h with
    | nil => exact ⟨[], .nil, rfl⟩
    | @cons _ _ part _ takes _ ih =>
      obtain ⟨parts, each, rfl⟩ := ih
      exact ⟨part :: parts, .cons takes each, rfl⟩
  · rintro ⟨parts, each, rfl⟩
    induction each with
    | nil => exact .nil
    | cons takes _ ih => exact .cons takes ih

/-- Pattern text falls into pieces in exactly one way. On every text the rows come to the answer of
the matcher, which is yes exactly when the text consists of one part for each piece in order: any
string for any run, one character for any one, and that character for a literal one. -/
theorem isMatch_iff_parts (pattern : List Char) :
    ∃ pieces, (∀ other, FallsInto pattern other ↔ other = pieces) ∧
      ∀ text, matchByRows? pattern text = some (isMatch pattern text) ∧
        (isMatch pattern text = true ↔
          ∃ parts, List.Forall₂ Token.Takes pieces parts ∧ text = parts.flatten) := by
  refine ⟨tokens pattern, fun other => fallsInto_iff, fun text => ?_⟩
  refine ⟨matchByRows?_eq pattern text, ?_⟩
  rw [isMatch, matchesTokens_iff, matches_iff_exists_parts]

/-! ## Globs in the store -/

/-- On the pattern of a glob the store has the answer of the glob for every text. So do the rows
that are written place by place, and the scan by two indices ends with it. -/
theorem isMatch_ofGlob_eq (glob text : List Char) :
    isMatch (ofGlob glob) text = Glob.isMatch glob text ∧
      matchByRows? (ofGlob glob) text = some (Glob.isMatch glob text) ∧
      ∃ n, ∀ m, n ≤ m →
        Glob.Scan.start.run glob text m = .answer (isMatch (ofGlob glob) text) := by
  have same : isMatch (ofGlob glob) text = Glob.isMatch glob text := by
    rw [Bool.eq_iff_iff, isMatch_ofGlob_iff, Glob.isMatch_iff]
  refine ⟨same, ?_, ?_⟩
  · rw [matchByRows?_eq, same]
  · rw [same]
    exact (Glob.Between.start glob text).exists_run_eq

/-- Characters that are special in the pattern, and an escape at the end of the glob and the
text. -/
example : isMatch (ofGlob "5*%\\".toList) "50_%\\".toList = true := by decide

end BuildQuery.Like
