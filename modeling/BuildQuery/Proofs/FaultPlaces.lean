import BuildQuery.Proofs.Grammar
import BuildQuery.Proofs.Spelling
import Mathlib.Data.List.TakeWhile

/-!
# The places of faults in query text

A text is read token by token, and the tokens that were read on the way to some place do not depend
on the text from there on (`ComesTo.front`). The reader of a text comes to the place of each token
and to the end of the text, or to a quoted value that is not closed; the reader of queries tells a
fault at the place of the next token. Main statement: a fault of a text lies where a token or an
unclosed value begins or at the end, and the text before it is cut cleanly off
(`parse_fault_at_token_boundary`).
-/

namespace BuildQuery

namespace Token

/-! ## The token at the front of a text -/

/-- The token at the front of a text that does not begin with a blank, and the text after it. There
is none when a quoted value is not closed. -/
def first? (c : Char) (cs : List Char) : Option (Token × List Char) :=
  if c = '(' then some (openParen, cs)
  else if c = ')' then some (closeParen, cs)
  else if isQuote c then
    (unquote? c cs).map fun (value, rest) => (quoted (String.ofList value), rest)
  else
    some (word (String.ofList (Text.lower (c :: cs.takeWhile isWordChar))), cs.dropWhile isWordChar)

/-- Whether a text begins with a token. -/
def Begins (t : Token) (cs : List Char) : Prop :=
  ∃ c tail rest, cs = c :: tail ∧ Text.isBlank c = false ∧ first? c tail = some (t, rest)

/-- Whether a text begins with a quoted value that is not closed. -/
def BeginsUnclosed (cs : List Char) : Prop :=
  ∃ q tail, cs = q :: tail ∧ isQuote q = true ∧ unquote? q tail = none

section First

variable {c q : Char} {cs used mid back rest value : List Char} {t : Token} {offset : Nat}

theorem isBlank_of_isQuote (h : isQuote c = true) : Text.isBlank c = false := by
  rw [isQuote, Bool.or_eq_true, beq_iff_eq, beq_iff_eq] at h
  obtain rfl | rfl := h <;> decide

theorem first?_of_isQuote (h : isQuote c = true) : first? c cs =
    (unquote? c cs).map fun (value, rest) => (quoted (String.ofList value), rest) := by
  rw [first?, if_neg (by rintro rfl; exact absurd h (by decide)),
    if_neg (by rintro rfl; exact absurd h (by decide)), if_pos h]

theorem first?_eq_none_iff : first? c cs = none ↔ isQuote c = true ∧ unquote? c cs = none := by
  by_cases hq : isQuote c = true
  · rw [first?_of_isQuote hq, Option.map_eq_none_iff]
    exact (and_iff_right hq).symm
  · refine iff_of_false ?_ fun h => hq h.1
    rw [first?, if_neg hq]
    split
    · exact Option.some_ne_none _
    · split <;> exact Option.some_ne_none _

/-- A quoted value is read up to its closing quote, whatever comes after it. -/
theorem unquote?_cut (hq : q ≠ '\\') (h : unquote? q cs = some (value, rest)) :
    ∃ used, cs = used ++ rest ∧ ∀ back, unquote? q (used ++ back) = some (value, back) := by
  fun_induction unquote? q cs generalizing value with
  | case1 => contradiction
  | case2 c cs ih =>
    obtain ⟨⟨value', rest'⟩, found, e⟩ := Option.map_eq_some_iff.1 h
    obtain ⟨rfl, rfl⟩ := Prod.mk.inj e
    obtain ⟨used, rfl, any⟩ := ih found
    refine ⟨'\\' :: c :: used, rfl, fun back => ?_⟩
    rw [List.cons_append, List.cons_append, unquote?, any]
    rfl
  | case3 cs =>
    obtain ⟨rfl, rfl⟩ := Prod.mk.inj (Option.some.inj h)
    exact ⟨[q], rfl, fun back => by simp [unquote?, hq]⟩
  | case4 c cs notEscape other ih =>
    obtain ⟨⟨value', rest'⟩, found, e⟩ := Option.map_eq_some_iff.1 h
    obtain ⟨rfl, rfl⟩ := Prod.mk.inj e
    obtain ⟨used, rfl, any⟩ := ih found
    have plain : c ≠ '\\' := by
      rintro rfl
      cases used with
      | nil => exact absurd (any []) (by simp [unquote?])
      | cons d used => exact notEscape d _ rfl rfl
    exact ⟨c :: used, rfl, fun back => by simp [unquote?, plain, other, any]⟩

/-- A token is cut off in the same way when the text after it is shortened. -/
theorem first?_cut (h : first? c cs = some (t, rest)) : ∃ used, cs = used ++ rest ∧
    ∀ mid back, rest = mid ++ back → first? c (used ++ mid) = some (t, mid) := by
  unfold first? at h
  split at h
  · next ho =>
    obtain ⟨rfl, rfl⟩ := Prod.mk.inj (Option.some.inj h)
    exact ⟨[], rfl, fun mid back _ => if_pos ho⟩
  split at h
  · next ho hc =>
    obtain ⟨rfl, rfl⟩ := Prod.mk.inj (Option.some.inj h)
    exact ⟨[], rfl, fun mid back _ => by rw [first?, if_neg ho, if_pos hc]; rfl⟩
  split at h
  · next hq =>
    obtain ⟨⟨value, rest'⟩, found, e⟩ := Option.map_eq_some_iff.1 h
    obtain ⟨rfl, rfl⟩ := Prod.mk.inj e
    have notEscape : c ≠ '\\' := by rintro rfl; exact absurd hq (by decide)
    obtain ⟨used, e, any⟩ := unquote?_cut notEscape found
    exact ⟨used, e, fun mid back _ => by rw [first?_of_isQuote hq, any]; rfl⟩
  · next ho hc hq =>
    obtain ⟨rfl, rfl⟩ := Prod.mk.inj (Option.some.inj h)
    refine ⟨cs.takeWhile isWordChar, List.takeWhile_append_dropWhile.symm, fun mid back e => ?_⟩
    -- what is left of the text after the word still begins where the word ends
    have ends : Ends mid := (e ▸ ends_dropWhile cs : Ends (mid ++ back)).of_append
    have letters : ∀ d ∈ cs.takeWhile isWordChar, isWordChar d = true :=
      fun d hd => List.mem_takeWhile_imp hd
    obtain ⟨word, after⟩ := ends.span_append letters
    rw [first?, if_neg ho, if_neg hc, if_neg hq, word, after]

theorem first?_shorten (h : first? c (used ++ (mid ++ back)) = some (t, mid ++ back)) :
    first? c (used ++ mid) = some (t, mid) := by
  obtain ⟨used', e, any⟩ := first?_cut h
  obtain rfl := List.append_cancel_right e
  exact any mid back rfl

theorem first?_length (h : first? c cs = some (t, rest)) : rest.length ≤ cs.length := by
  obtain ⟨used, rfl, -⟩ := first?_cut h
  exact (List.suffix_append used rest).length_le

theorem byteLength_cons_append_sub (c : Char) (used rest : List Char) :
    byteLength (c :: (used ++ rest)) - byteLength rest = byteLength (c :: used) := by
  rw [← List.cons_append, byteLength_append]
  exact Nat.add_sub_cancel ..

theorem readFrom_blank (h : Text.isBlank c = true) :
    readFrom offset (c :: cs) = readFrom (offset + c.utf8Size) cs := by
  rw [readFrom, if_pos h]

/-- Reading goes on behind the first token. -/
theorem readFrom_cons (notBlank : Text.isBlank c = false) : readFrom offset (c :: cs) =
    match first? c cs with
    | none => .error (.grammar offset .unterminatedQuote)
    | some (t, rest) =>
      (readFrom (offset + (byteLength (c :: cs) - byteLength rest)) rest).map
        (⟨t, offset⟩ :: ·) := by
  rw [readFrom, first?, if_neg (by rw [notBlank]; decide)]
  have single : byteLength (c :: cs) - byteLength cs = c.utf8Size := Nat.add_sub_cancel ..
  by_cases ho : c = '('
  · rw [if_pos ho, if_pos ho]
    dsimp only
    rw [single]
    rfl
  by_cases hc : c = ')'
  · rw [if_neg ho, if_pos hc, if_neg ho, if_pos hc]
    dsimp only
    rw [single]
    rfl
  by_cases hq : isQuote c = true
  · rw [if_neg ho, if_neg hc, if_pos hq, if_neg ho, if_neg hc, if_pos hq]
    split
    · next unclosed => rw [unclosed]; rfl
    · next value rest found =>
      dsimp only
      rw [found]
      rfl
  · have word := byteLength_cons_append_sub c (cs.takeWhile isWordChar) (cs.dropWhile isWordChar)
    rw [List.takeWhile_append_dropWhile] at word
    rw [if_neg ho, if_neg hc, if_neg hq, if_neg ho, if_neg hc, if_neg hq]
    dsimp only
    rw [word]
    rfl

theorem readFrom_first (notBlank : Text.isBlank c = false)
    (h : first? c (used ++ rest) = some (t, rest)) : readFrom offset (c :: (used ++ rest)) =
      (readFrom (offset + byteLength (c :: used)) rest).map (⟨t, offset⟩ :: ·) := by
  rw [readFrom_cons notBlank, h]
  dsimp only
  rw [byteLength_cons_append_sub]

end First

/-! ## The tokens of a text -/

/-- The tokens of a text that begins at the given place, as far as quoted values are closed. -/
def lexemesFrom (offset : Nat) : List Char → List Lexeme
  | [] => []
  | c :: cs =>
    if Text.isBlank c then lexemesFrom (offset + c.utf8Size) cs
    else
      match h : first? c cs with
      | none => []
      | some (t, rest) =>
        have := first?_length h
        ⟨t, offset⟩ :: lexemesFrom (offset + (byteLength (c :: cs) - byteLength rest)) rest
termination_by cs => cs.length

/-- The tokens of a text up to the first quoted value that is not closed. -/
def lexemes (s : String) : List Lexeme := lexemesFrom 0 s.toList

/-- Reading the text `cs` from the place `offset` on, one comes with the tokens `ls` to the place
`place`, where `rest` is still to be read. -/
inductive ComesTo : Nat → List Char → List Lexeme → Nat → List Char → Prop where
  | here {offset cs} : ComesTo offset cs [] offset cs
  | blank {offset c cs ls place rest} (isBlank : Text.isBlank c = true)
      (next : ComesTo (offset + c.utf8Size) cs ls place rest) :
      ComesTo offset (c :: cs) ls place rest
  | token {offset c used mid t ls place rest} (notBlank : Text.isBlank c = false)
      (first : first? c (used ++ mid) = some (t, mid))
      (next : ComesTo (offset + byteLength (c :: used)) mid ls place rest) :
      ComesTo offset (c :: (used ++ mid)) (⟨t, offset⟩ :: ls) place rest

section ComesTo

variable {c : Char} {cs used rest : List Char} {t : Token} {l : Lexeme} {ls : List Lexeme}
  {offset place : Nat}

theorem lexemesFrom_blank (h : Text.isBlank c = true) :
    lexemesFrom offset (c :: cs) = lexemesFrom (offset + c.utf8Size) cs := by
  rw [lexemesFrom, if_pos h]

theorem lexemesFrom_first (notBlank : Text.isBlank c = false)
    (h : first? c (used ++ rest) = some (t, rest)) : lexemesFrom offset (c :: (used ++ rest)) =
      ⟨t, offset⟩ :: lexemesFrom (offset + byteLength (c :: used)) rest := by
  rw [lexemesFrom, if_neg (by rw [notBlank]; decide)]
  split
  · next unread =>
    rw [h] at unread
    contradiction
  · next found =>
    rw [h] at found
    obtain ⟨rfl, rfl⟩ := Prod.mk.inj (Option.some.inj found)
    dsimp only
    rw [byteLength_cons_append_sub]

theorem readFrom_of_beginsUnclosed (h : BeginsUnclosed cs) :
    readFrom offset cs = .error (.grammar offset .unterminatedQuote) := by
  obtain ⟨q, tail, rfl, hq, unclosed⟩ := h
  rw [readFrom_cons (isBlank_of_isQuote hq), first?_eq_none_iff.2 ⟨hq, unclosed⟩]

theorem readFrom_eq_ok_nil_iff : readFrom offset cs = .ok [] ↔ cs.all Text.isBlank = true := by
  induction cs generalizing offset with
  | nil => exact iff_of_true (by rw [readFrom]) rfl
  | cons c cs ih =>
    rw [List.all_cons]
    by_cases hc : Text.isBlank c = true
    · rw [readFrom_blank hc, ih, hc, Bool.true_and]
    · have notBlank := Bool.eq_false_iff.2 hc
      rw [readFrom_cons notBlank, notBlank, Bool.false_and]
      refine iff_of_false (fun h => ?_) Bool.false_ne_true
      split at h
      · contradiction
      · generalize readFrom _ _ = found at h
        cases found with
        | error fault => contradiction
        | ok ls => exact absurd (Except.ok.inj h) (List.cons_ne_nil _ ls)

/-- What was read on the way to a place is what is read of the text before this place. -/
theorem ComesTo.front (h : ComesTo offset cs ls place rest) : ∃ front, cs = front ++ rest ∧
    place = offset + byteLength front ∧ readFrom offset front = .ok ls := by
  induction h with
  | here => exact ⟨[], rfl, rfl, by rw [readFrom]⟩
  | blank isBlank _ ih =>
    obtain ⟨front, rfl, rfl, read⟩ := ih
    exact ⟨_ :: front, rfl, Nat.add_assoc .., (readFrom_blank isBlank).trans read⟩
  | @token offset c used _ _ _ _ _ notBlank first _ ih =>
    obtain ⟨front, rfl, rfl, read⟩ := ih
    refine ⟨c :: (used ++ front), by rw [List.cons_append, List.append_assoc], ?_, ?_⟩
    · rw [← List.cons_append, byteLength_append, Nat.add_assoc]
    · rw [readFrom_first notBlank (first?_shorten first), read]
      rfl

theorem ComesTo.le (h : ComesTo offset cs ls place rest) : offset ≤ place := by
  obtain ⟨front, -, rfl, -⟩ := h.front
  exact Nat.le_add_right ..

theorem ComesTo.lexemesFrom_eq (h : ComesTo offset cs ls place rest) :
    lexemesFrom offset cs = ls ++ lexemesFrom place rest := by
  induction h with
  | here => rfl
  | blank isBlank _ ih => rw [lexemesFrom_blank isBlank, ih]
  | token notBlank first _ ih => rw [lexemesFrom_first notBlank first, ih, List.cons_append]

theorem ComesTo.offset_lt (h : ComesTo offset cs ls place rest) (hl : l ∈ ls) :
    l.offset < place := by
  induction h with
  | here => contradiction
  | blank _ _ ih => exact ih hl
  | @token offset c used _ _ _ _ _ _ _ next ih =>
    obtain rfl | later := List.mem_cons.1 hl
    · have positive : 0 < byteLength (c :: used) := Nat.add_pos_left c.utf8Size_pos _
      exact Nat.lt_of_lt_of_le (Nat.lt_add_of_pos_right positive) next.le
    · exact ih later

theorem le_offset_of_mem_lexemesFrom (hl : l ∈ lexemesFrom offset cs) : offset ≤ l.offset := by
  fun_induction lexemesFrom offset cs with
  | case1 => contradiction
  | case2 _ _ _ _ ih => exact Nat.le_of_add_right_le (ih hl)
  | case3 => contradiction
  | case4 _ _ _ _ _ _ _ _ ih =>
    obtain rfl | later := List.mem_cons.1 hl
    · exact Nat.le_refl _
    · exact Nat.le_of_add_right_le (ih later)

/-- The tokens that begin before a place are those that were read on the way to it. -/
theorem ComesTo.filter_lexemesFrom (h : ComesTo offset cs ls place rest) :
    (lexemesFrom offset cs).filter (·.offset < place) = ls := by
  have before : ls.filter (·.offset < place) = ls :=
    List.filter_eq_self.2 fun l hl => decide_eq_true (h.offset_lt hl)
  have behind : (lexemesFrom place rest).filter (·.offset < place) = [] :=
    List.filter_eq_nil_iff.2 fun l hl =>
      mt of_decide_eq_true (Nat.not_lt.2 (le_offset_of_mem_lexemesFrom hl))
  rw [h.lexemesFrom_eq, List.filter_append, before, behind, List.append_nil]

/-- The reader comes to the place of each token that it reads. -/
theorem ComesTo.begins (h : ComesTo offset cs ls place rest) (hl : l ∈ ls) :
    ∃ before rest', ComesTo offset cs before l.offset rest' ∧ Begins l.token rest' := by
  induction h with
  | here => contradiction
  | blank isBlank _ ih =>
    obtain ⟨before, rest', next, begins⟩ := ih hl
    exact ⟨before, rest', .blank isBlank next, begins⟩
  | token notBlank first _ ih =>
    obtain rfl | later := List.mem_cons.1 hl
    · exact ⟨[], _, .here, _, _, _, rfl, notBlank, first⟩
    · obtain ⟨before, rest', next, begins⟩ := ih later
      exact ⟨_, rest', .token notBlank first next, begins⟩

/-- The reader comes to the end of a text, or to a quoted value that is not closed. -/
theorem exists_comesTo_stop (offset : Nat) (cs : List Char) : ∃ ls place rest,
    ComesTo offset cs ls place rest ∧ (rest = [] ∧ readFrom offset cs = .ok ls ∨
      BeginsUnclosed rest ∧ readFrom offset cs = .error (.grammar place .unterminatedQuote)) := by
  fun_induction lexemesFrom offset cs with
  | case1 offset => exact ⟨[], offset, [], .here, .inl ⟨rfl, by rw [readFrom]⟩⟩
  | case2 offset c cs isBlank ih =>
    obtain ⟨ls, place, rest, way, stop⟩ := ih
    rw [← readFrom_blank isBlank] at stop
    exact ⟨ls, place, rest, .blank isBlank way, stop⟩
  | case3 offset c cs notBlank unread =>
    obtain ⟨hq, unclosed⟩ := first?_eq_none_iff.1 unread
    have begins : BeginsUnclosed (c :: cs) := ⟨c, cs, rfl, hq, unclosed⟩
    exact ⟨[], offset, c :: cs, .here, .inr ⟨begins, readFrom_of_beginsUnclosed begins⟩⟩
  | case4 offset c cs notBlank t mid first _ ih =>
    obtain ⟨used, rfl, -⟩ := first?_cut first
    rw [byteLength_cons_append_sub] at ih
    obtain ⟨ls, place, rest, way, stop⟩ := ih
    have ink := Bool.eq_false_iff.2 notBlank
    refine ⟨_, place, rest, .token ink first way, ?_⟩
    rw [readFrom_first ink first]
    obtain ⟨all, read⟩ | ⟨begins, read⟩ := stop
    · exact .inl ⟨all, by rw [read]; rfl⟩
    · exact .inr ⟨begins, by rw [read]; rfl⟩

/-- All tokens are read of a text unless a quoted value in it is not closed. -/
theorem lexemes_of_tokenize {s : String} (h : tokenize s = .ok ls) : lexemes s = ls := by
  obtain ⟨ms, place, rest, way, ⟨rfl, read⟩ | ⟨-, failed⟩⟩ := exists_comesTo_stop 0 s.toList
  · obtain rfl := Except.ok.inj (h.symm.trans read)
    rw [lexemes, way.lexemesFrom_eq, lexemesFrom, List.append_nil]
  · exact nomatch h.symm.trans failed

end ComesTo

end Token

namespace Criteria

open Token

/-! ## Faults of the grammar -/

section Faults

variable {stop place : Nat} {fault fault' : GrammarFault} {ts us : List Lexeme} {l : Lexeme}

/-- Whether a place is that of one of the tokens, or the end of the text. -/
def IsPlaceIn (stop : Nat) (ts : List Lexeme) (place : Nat) : Prop :=
  ∃ after, after <:+ ts ∧ place = placeOf stop after

theorem isPlaceIn_of_faultAt {α : Type} (h : us <:+ ts)
    (failed : (faultAt stop us fault' : Except QueryError α) = .error (.grammar place fault)) :
    IsPlaceIn stop ts place := by
  obtain ⟨rfl, -⟩ := QueryError.grammar.inj (Except.error.inj failed)
  exact ⟨us, h, rfl⟩

theorem IsPlaceIn.mono (h : IsPlaceIn stop us place) (sub : us <:+ ts) :
    IsPlaceIn stop ts place := by
  obtain ⟨after, inner, e⟩ := h
  exact ⟨after, inner.trans sub, e⟩

theorem IsPlaceIn.cons (h : IsPlaceIn stop ts place) : IsPlaceIn stop (l :: ts) place :=
  h.mono (List.suffix_cons l ts)

theorem Found.suffix {layer : Layer} {p : Parsed Criteria ts} (h : Found layer p) :
    p.rest <:+ ts := by
  obtain ⟨front, e, -⟩ := h
  exact ⟨front, e.symm⟩

theorem isPlaceIn_of_mine (h : mine stop ts = .error (.grammar place fault)) :
    IsPlaceIn stop ts place := by
  unfold mine at h
  split at h
  · exact isPlaceIn_of_faultAt List.suffix_rfl h
  · next by' ts =>
    split at h
    · split at h
      · exact isPlaceIn_of_faultAt (List.nil_suffix) h
      · split at h
        · contradiction
        · exact isPlaceIn_of_faultAt (List.suffix_cons _ _) h
    · exact isPlaceIn_of_faultAt List.suffix_rfl h

theorem isPlaceIn_of_test {name : String} (h : test stop name ts = .error (.grammar place fault)) :
    IsPlaceIn stop ts place := by
  unfold test at h
  split at h
  · exact nomatch h
  · split at h
    · exact isPlaceIn_of_faultAt List.suffix_rfl h
    · split at h
      · exact nomatch h
      · contradiction
    · next rest _ phrase =>
      obtain ⟨front, e, -⟩ := front_of_operator? phrase
      exact isPlaceIn_of_faultAt ⟨front, e.symm⟩ h

-- by the recursion of the reader, as in `found_of_alternatives`
mutual

theorem isPlaceIn_of_alternatives {ts : List Lexeme}
    (h : alternatives stop ts = .error (.grammar place fault)) : IsPlaceIn stop ts place := by
  rw [alternatives] at h
  obtain h | ⟨left, hleft, h⟩ := bind_eq_error_iff.1 h
  · exact isPlaceIn_of_conjunction h
  · have := left.shorter
    exact (isPlaceIn_of_moreAlternatives h).mono (found_of_conjunction hleft).suffix
termination_by (ts.length, 3)

theorem isPlaceIn_of_moreAlternatives {ts : List Lexeme} {left : Parsed Criteria ts}
    (h : moreAlternatives stop left = .error (.grammar place fault)) :
    IsPlaceIn stop left.rest place := by
  rw [moreAlternatives] at h
  split at h
  · contradiction
  · next l rest e =>
    split at h
    · have front : rest.length < left.rest.length := by rw [e]; exact Nat.lt_succ_self _
      rw [e]
      obtain h | ⟨right, hright, h⟩ := bind_eq_error_iff.1 h
      · exact (isPlaceIn_of_conjunction h).cons
      · have := right.shorter
        exact ((isPlaceIn_of_moreAlternatives h).mono (found_of_conjunction hright).suffix).cons
    · contradiction
termination_by (left.rest.length, 0)

theorem isPlaceIn_of_conjunction {ts : List Lexeme}
    (h : conjunction stop ts = .error (.grammar place fault)) : IsPlaceIn stop ts place := by
  rw [conjunction] at h
  obtain h | ⟨left, hleft, h⟩ := bind_eq_error_iff.1 h
  · exact isPlaceIn_of_negation h
  · have := left.shorter
    exact (isPlaceIn_of_moreConjuncts h).mono (found_of_negation hleft).suffix
termination_by (ts.length, 2)

theorem isPlaceIn_of_moreConjuncts {ts : List Lexeme} {left : Parsed Criteria ts}
    (h : moreConjuncts stop left = .error (.grammar place fault)) :
    IsPlaceIn stop left.rest place := by
  rw [moreConjuncts] at h
  split at h
  · contradiction
  · next l rest e =>
    split at h
    · have front : rest.length < left.rest.length := by rw [e]; exact Nat.lt_succ_self _
      rw [e]
      obtain h | ⟨right, hright, h⟩ := bind_eq_error_iff.1 h
      · exact (isPlaceIn_of_negation h).cons
      · have := right.shorter
        exact ((isPlaceIn_of_moreConjuncts h).mono (found_of_negation hright).suffix).cons
    · contradiction
termination_by (left.rest.length, 0)

theorem isPlaceIn_of_negation {ts : List Lexeme}
    (h : negation stop ts = .error (.grammar place fault)) : IsPlaceIn stop ts place := by
  match ts, h with
  | [], h =>
    rw [negation] at h
    exact isPlaceIn_of_primary h
  | l :: ts, h =>
    rw [negation] at h
    split at h
    · obtain h | ⟨inner, -, h⟩ := bind_eq_error_iff.1 h
      · exact (isPlaceIn_of_negation h).cons
      · contradiction
    · exact isPlaceIn_of_primary h
termination_by (ts.length, 1)

theorem isPlaceIn_of_primary {ts : List Lexeme}
    (h : primary stop ts = .error (.grammar place fault)) : IsPlaceIn stop ts place := by
  rw [primary.eq_def] at h
  split at h
  · obtain h | ⟨inner, hinner, h⟩ := bind_eq_error_iff.1 h
    · exact (isPlaceIn_of_alternatives h).cons
    · split at h
      · contradiction
      · exact isPlaceIn_of_faultAt
          ((found_of_alternatives hinner).suffix.trans (List.suffix_cons _ _)) h
  · split at h
    · obtain h | ⟨inner, -, h⟩ := bind_eq_error_iff.1 h
      · exact (isPlaceIn_of_mine h).cons
      · contradiction
    · exact isPlaceIn_of_faultAt List.suffix_rfl h
  · obtain h | ⟨inner, -, h⟩ := bind_eq_error_iff.1 h
    · exact (isPlaceIn_of_test h).cons
    · contradiction
  · exact isPlaceIn_of_faultAt List.suffix_rfl h
termination_by (ts.length, 0)

end

theorem isPlaceIn_of_ofTokens (full : ts ≠ [])
    (h : ofTokens stop ts = .error (.grammar place fault)) : IsPlaceIn stop ts place := by
  unfold ofTokens at h
  rw [if_neg (by rwa [List.isEmpty_iff])] at h
  obtain h | ⟨query, hquery, h⟩ := bind_eq_error_iff.1 h
  · exact isPlaceIn_of_alternatives h
  · split at h
    · contradiction
    · exact isPlaceIn_of_faultAt (found_of_alternatives hquery).suffix h

/-! ## Faults of a text -/

theorem utf8ByteSize_ofList_eq_byteLength (cs : List Char) :
    (String.ofList cs).utf8ByteSize = byteLength cs := by
  induction cs with
  | nil => rfl
  | cons c cs ih =>
    rw [← List.singleton_append, String.ofList_append, String.utf8ByteSize_append, ih,
      byteLength_append, ← String.singleton_eq_ofList, String.utf8ByteSize_singleton]
    rfl

theorem parse_of_isBlankString {s : String} (h : Text.isBlankString s = true) :
    parse s = .error (.grammar 0 .emptyQuery) := by
  rw [parse, tokenize, readFrom_eq_ok_nil_iff.2 h]
  rfl

/-- The reader that has come through all tokens of a text has come to the place of each of them, and
to the end. -/
theorem exists_comesTo_of_isPlaceIn {cs : List Char} {place' : Nat}
    (way : ComesTo 0 cs ts place' []) (h : IsPlaceIn (byteLength cs) ts place) :
    ∃ ls rest, ComesTo 0 cs ls place rest ∧
      (rest = [] ∨ ∃ t, Begins t rest ∧ ⟨t, place⟩ ∈ ts) := by
  obtain ⟨after, sub, rfl⟩ := h
  cases after with
  | nil =>
    obtain ⟨front, e, e', -⟩ := way.front
    rw [List.append_nil] at e
    rw [Nat.zero_add, ← e] at e'
    exact ⟨ts, [], e' ▸ way, .inl rfl⟩
  | cons l after =>
    have mem : l ∈ ts := sub.mem List.mem_cons_self
    obtain ⟨before, rest, way', begins⟩ := way.begins mem
    exact ⟨before, rest, way', .inr ⟨l.token, begins, mem⟩⟩

/-- The reader of tokens comes to the place of a fault, and there the text ends, or a token or an
unclosed value begins, unless the text is blank. -/
theorem comesTo_of_parse_eq_error {s : String} (h : parse s = .error (.grammar place fault)) :
    ∃ ls rest, ComesTo 0 s.toList ls place rest ∧ (Text.isBlankString s = false →
      rest = [] ∨ (∃ t, Begins t rest ∧ ⟨t, place⟩ ∈ lexemes s) ∨ BeginsUnclosed rest) := by
  obtain ⟨ls, stop, rest, way, outcome⟩ := exists_comesTo_stop 0 s.toList
  obtain h | ⟨ts, read, h⟩ := bind_eq_error_iff.1 h
  · obtain ⟨-, read⟩ | ⟨unclosed, failed⟩ := outcome
    · exact nomatch read.symm.trans h
    · obtain ⟨rfl, -⟩ := QueryError.grammar.inj (Except.error.inj (failed.symm.trans h))
      exact ⟨ls, rest, way, fun _ => .inr (.inr unclosed)⟩
  · obtain ⟨rfl, read'⟩ | ⟨-, failed⟩ := outcome
    · obtain rfl := Except.ok.inj (read.symm.trans read')
      by_cases empty : ts = []
      · obtain rfl := empty
        obtain ⟨rfl, -⟩ := QueryError.grammar.inj (Except.error.inj h)
        have blank : Text.isBlankString s = true := readFrom_eq_ok_nil_iff.1 read
        exact ⟨[], s.toList, .here, fun inked => absurd blank (Bool.eq_false_iff.1 inked)⟩
      · obtain ⟨ls, rest, way', stands⟩ :=
          exists_comesTo_of_isPlaceIn way (isPlaceIn_of_ofTokens empty h)
        rw [lexemes_of_tokenize read]
        exact ⟨ls, rest, way', fun _ => stands.imp_right .inl⟩
    · exact nomatch failed.symm.trans read

/-- A fault of a text lies at a place within the text and between two of its characters: at the
front of a blank text, and otherwise at the end or where a token or an unclosed quoted value begins.
What is read of the text before this place is the tokens of the text that begin before it. -/
theorem parse_fault_at_token_boundary {s : String} (h : parse s = .error (.grammar place fault)) :
    place ≤ s.utf8ByteSize ∧ (⟨place⟩ : String.Pos.Raw).IsValid s ∧
      (Text.isBlankString s = true → place = 0) ∧
      (∀ ts, tokenize s = .ok ts → lexemes s = ts) ∧
      ∃ front back : String, s = front ++ back ∧ front.utf8ByteSize = place ∧
        tokenize front = .ok ((lexemes s).filter (·.offset < place)) ∧
        (Text.isBlankString s = false → place = s.utf8ByteSize ∨
          (∃ t, Begins t back.toList ∧ ⟨t, place⟩ ∈ lexemes s) ∨ BeginsUnclosed back.toList) := by
  obtain ⟨ls, rest, way, stands⟩ := comesTo_of_parse_eq_error h
  obtain ⟨front, e, e', read⟩ := way.front
  rw [Nat.zero_add] at e'
  have parts : s = String.ofList front ++ String.ofList rest := by
    rw [← String.ofList_append, ← e, String.ofList_toList]
  have size : (String.ofList front).utf8ByteSize = place :=
    (utf8ByteSize_ofList_eq_byteLength front).trans e'.symm
  have valid : (⟨place⟩ : String.Pos.Raw).IsValid s :=
    String.Pos.Raw.isValid_iff_exists_append.2 ⟨_, _, parts, by rw [← size]; rfl⟩
  refine ⟨valid.le_rawEndPos, valid, fun blank => ?_, fun ts => lexemes_of_tokenize, _, _, parts,
    size, ?_, fun inked => ?_⟩
  · rw [parse_of_isBlankString blank] at h
    exact (QueryError.grammar.inj (Except.error.inj h)).1.symm
  · rw [tokenize, String.toList_ofList, read, lexemes, way.filter_lexemesFrom]
  · rw [String.toList_ofList]
    refine (stands inked).imp_left fun ended => ?_
    rw [parts, ended, String.ofList_nil, String.append_empty, size]

end Faults

/-- A parenthesis that closes nothing, after a quoted value with an escape in it and a letter of two
bytes. -/
theorem parse_fault_at_token_boundary_of_close :
    parse "\"tag\" Is 'ä\\'' ) 'é'" = .error (.grammar 16 .trailingInput) ∧
      ∃ front back : String, "\"tag\" Is 'ä\\'' ) 'é'" = front ++ back ∧
        front.utf8ByteSize = 16 ∧
        tokenize front = .ok [⟨.quoted "tag", 0⟩, ⟨.word "is", 6⟩, ⟨.quoted "ä'", 9⟩] := by
  let before : List Lexeme := [⟨.quoted "tag", 0⟩, ⟨.word "is", 6⟩, ⟨.quoted "ä'", 9⟩]
  let after : List Lexeme := [⟨.closeParen, 16⟩, ⟨.quoted "é", 18⟩]
  have read : tokenize "\"tag\" Is 'ä\\'' ) 'é'" = .ok (before ++ after) := by
    with_unfolding_all rfl
  have accepted : Leaf.ofOperand .tag "ä'" ⟨.is, .natural⟩ =
      .ok (.text ⟨.tag, ⟨.is, .natural⟩, "ä'", by decide, by decide, by decide⟩) := rfl
  have test : Derives .primary (before.map Lexeme.token) _ := .test (by decide) accepted
  have query : Layer.alternatives.Reads 22 (before ++ after) _ after :=
    Layer.reads_of_derives test.whole before after rfl
  obtain ⟨_, query⟩ := query.finish_alternatives nofun nofun
  have failed : parse "\"tag\" Is 'ä\\'' ) 'é'" = .error (.grammar 16 .trailingInput) := by
    rw [parse, read]
    show ofTokens 22 (before ++ after) = _
    rw [ofTokens, query]
    rfl
  obtain ⟨-, -, -, all, front, back, parts, size, cut, -⟩ := parse_fault_at_token_boundary failed
  refine ⟨failed, front, back, parts, size, ?_⟩
  rw [cut, all _ read]
  rfl

end Criteria

end BuildQuery
