import BuildQuery.Proofs.MovedProject
import BuildQuery.Proofs.PathExpansion
import BuildQuery.Store.Truth

/-!
# Globs in lower case

A glob and a text are put into lower case each on its own. All characters but the capital sigma have
the same lower-case form wherever they stand, so a match is only lost at a sigma, whose form depends
on the letters around it: a glob cannot see the letters that its stars take. A sigma of a glob is
settled when its form does not depend on them (`settled`).

A match in which every literal character has the same form in the glob as in the text is a match in
lower case too (`MatchesInForm.lower`). The matches of a settled glob are such matches, and so are
the matches of a text in which every sigma begins a word. Main statements: these matches are kept,
whether texts or paths are matched (`isMatch_lower`, `isPathMatch_lower`).
-/

namespace BuildQuery

/-- Whether it is possible, by what is known of a condition, that it has the given outcome. -/
def Truth.Allows (t : Truth) (b : Bool) : Prop := t = .unknown ∨ t = .ofBool b

namespace Truth

theorem allows_isYes (t : Truth) : t.Allows (decide (t = .yes)) := by
  cases t with
  | no | yes => exact .inr rfl
  | unknown => exact .inl rfl

theorem eq_of_ofBool_allows {a b : Bool} (h : (ofBool a).Allows b) : b = a := by
  rcases h with unknown | same
  · cases a <;> contradiction
  · cases a <;> cases b <;> first | rfl | contradiction

theorem not_eq_unknown_iff {t : Truth} : t.not = .unknown ↔ t = .unknown := by
  cases t <;> decide

end Truth

/-! ## Sigmas in texts -/

namespace Text

/-- Whether the last character that counts is cased, after a text and the answer before it. -/
def endsCasedAfter (before : Bool) (cs : List Char) : Bool := cs.foldl endsCased before

/-- Whether no capital sigma of a text comes after a letter of the same word. -/
def sigmasBegin (before : Bool) : List Char → Bool
  | [] => true
  | c :: cs => (c != 'Σ' || !before) && sigmasBegin (endsCased before c) cs

variable {before : Bool} {cs ds : List Char}

theorem exists_lowerAfter_append (before : Bool) (cs ds : List Char) :
    ∃ front, lowerAfter before (cs ++ ds) = front ++ lowerAfter (endsCasedAfter before cs) ds := by
  induction cs generalizing before with
  | nil => exact ⟨[], rfl⟩
  | cons c cs ih =>
    obtain ⟨front, e⟩ := ih (endsCased before c)
    refine ⟨lowerBetween before c (cs ++ ds) ++ front, ?_⟩
    rw [List.cons_append, lowerAfter, e, List.append_assoc]
    rfl

theorem sigmasBegin_append : sigmasBegin before (cs ++ ds) =
    (sigmasBegin before cs && sigmasBegin (endsCasedAfter before cs) ds) := by
  induction cs generalizing before with
  | nil => rfl
  | cons c cs ih =>
    rw [List.cons_append, sigmasBegin, sigmasBegin, ih, Bool.and_assoc]
    rfl

theorem lowerBetween_of_ne {c : Char} (h : c ≠ 'Σ') (before : Bool) (after : List Char) :
    lowerBetween before c after = lowerChar c :=
  if_neg h

theorem ne_sigma_of_isCaseIgnorable {c : Char} (h : isCaseIgnorable c = true) : c ≠ 'Σ' := by
  rintro rfl
  revert h
  decide

end Text

open Text

namespace Glob

/-! ## Sigmas in globs -/

/-- Whether the last character that counts is cased, in a text that a glob stands for, after `c`. -/
def endsCasedIn (before : Truth) (c : Char) : Truth :=
  if c = wildcard then .unknown else if isCaseIgnorable c then before else .ofBool (isCased c)

/-- Whether the first character that counts is cased, in a text that a glob stands for. -/
def startsCasedIn : List Char → Truth
  | [] => .no
  | c :: cs =>
    if c = wildcard then .unknown
    else if isCaseIgnorable c then startsCasedIn cs else .ofBool (isCased c)

/-- Whether the form of every sigma of a glob is the same in all the texts that the glob stands
for. -/
def settled (before : Truth) : List Char → Bool
  | [] => true
  | c :: cs =>
    (c != 'Σ' || before.and (startsCasedIn cs).not != .unknown) && settled (endsCasedIn before c) cs

variable {c : Char} {t : Truth} {b b' : Bool} {glob text : List Char}

@[simp] theorem endsCased_wildcard (b : Bool) : endsCased b wildcard = false := by
  cases b <;> decide

@[simp] theorem startsCased_wildcard_cons (glob : List Char) :
    startsCased (wildcard :: glob) = false := by
  rw [startsCased, if_neg (by decide)]
  decide

@[simp] theorem lowerAfter_wildcard_cons (b : Bool) (glob : List Char) :
    lowerAfter b (wildcard :: glob) = wildcard :: lowerAfter false glob := by
  have own : lowerChar wildcard = [wildcard] := by decide
  rw [lowerAfter, lowerBetween_of_ne (by decide), own, endsCased_wildcard]
  rfl

/-- A glob in itself has its stars for characters without case. -/
theorem startsCased_eq (glob : List Char) :
    startsCased glob = decide (startsCasedIn glob = .yes) := by
  induction glob with
  | nil => rfl
  | cons c glob ih =>
    by_cases star : c = wildcard
    · rw [star, startsCased_wildcard_cons]
      rfl
    · rw [startsCased, startsCasedIn, if_neg star, ih]
      split
      · rfl
      · cases isCased c <;> rfl

theorem endsCased_eq (literal : c ≠ wildcard) :
    endsCased (decide (t = .yes)) c = decide (endsCasedIn t c = .yes) := by
  rw [endsCased, endsCasedIn, if_neg literal]
  split
  · rfl
  · cases isCased c <;> rfl

theorem allows_endsCased (literal : c ≠ wildcard) (h : t.Allows b) :
    (endsCasedIn t c).Allows (endsCased b c) := by
  rw [endsCased, endsCasedIn, if_neg literal]
  split
  · exact h
  · exact .inr rfl

/-- What a glob says of the beginning of a text is so. -/
theorem allows_startsCased (h : Matches glob text) :
    (startsCasedIn glob).Allows (startsCased text) := by
  induction h with
  | nil => exact .inr rfl
  | run => exact .inl rfl
  | @char c _ _ literal _ ih =>
    rw [startsCasedIn, if_neg literal, startsCased]
    split
    · exact ih
    · exact .inr rfl

/-! ## Matches in the same form -/

/-- A match in which every literal character has the same lower-case form in the glob, after `b`, as
in the text, after `b'`. -/
inductive MatchesInForm : Bool → Bool → List Char → List Char → Prop where
  | nil {b b' : Bool} : MatchesInForm b b' [] []
  | run {b b' : Bool} {glob text : List Char} (skipped : List Char)
      (rest : MatchesInForm false (endsCasedAfter b' skipped) glob text) :
      MatchesInForm b b' (wildcard :: glob) (skipped ++ text)
  | char {b b' : Bool} {c : Char} {glob text : List Char} (literal : c ≠ wildcard)
      (same : lowerBetween b c glob = lowerBetween b' c text)
      (rest : MatchesInForm (endsCased b c) (endsCased b' c) glob text) :
      MatchesInForm b b' (c :: glob) (c :: text)

/-- Such a match is a match in lower case too. -/
theorem MatchesInForm.lower (h : MatchesInForm b b' glob text) :
    Matches (lowerAfter b glob) (lowerAfter b' text) := by
  induction h with
  | nil => exact .nil
  | run skipped _ ih =>
    rw [lowerAfter_wildcard_cons]
    obtain ⟨front, e⟩ := exists_lowerAfter_append _ skipped _
    rw [e]
    exact .run front ih
  | @char b _ c glob _ literal same _ ih =>
    have free : wildcard ∉ lowerBetween b c glob := by
      rw [mem_lowerBetween_iff (by decide)]
      exact Ne.symm literal
    rw [lowerAfter, lowerAfter, ← same]
    exact (matches_append_iff free).2 ⟨_, rfl, ih⟩

/-- A sigma has one form only when what is known of its sides suffices to tell. -/
theorem final_eq {s : Truth} {a : Bool} (settled : t.and s.not ≠ .unknown) (hb : t.Allows b)
    (ha : s.Allows a) : (decide (t = .yes) && !decide (s = .yes)) = (b && !a) := by
  rcases hb with rfl | rfl <;> rcases ha with rfl | rfl
  · exact absurd rfl settled
  · cases a with
    | true => simp [Truth.ofBool]
    | false => exact absurd rfl settled
  · cases b with
    | true => exact absurd rfl settled
    | false => rfl
  · cases b <;> cases a <;> rfl

/-- Every match of a settled glob has the same forms. -/
theorem matchesInForm_of_settled (h : Matches glob text) (known : t.Allows b)
    (fixed : settled t glob = true) : MatchesInForm (decide (t = .yes)) b glob text := by
  induction h generalizing t b with
  | nil => exact .nil
  | run skipped _ ih =>
    rw [settled, Bool.and_eq_true] at fixed
    exact .run skipped (ih (.inl rfl) fixed.2)
  | @char c glob text literal rest ih =>
    rw [settled, Bool.and_eq_true] at fixed
    obtain ⟨here, later⟩ := fixed
    refine .char literal ?_ ?_
    · by_cases sigma : c = 'Σ'
      · subst sigma
        have decided : t.and (startsCasedIn glob).not ≠ .unknown := by simpa using here
        rw [lowerBetween, lowerBetween, if_pos rfl, if_pos rfl, startsCased_eq glob,
          final_eq decided known (allows_startsCased rest)]
      · rw [lowerBetween_of_ne sigma, lowerBetween_of_ne sigma]
    · rw [endsCased_eq literal]
      exact ih (allows_endsCased literal known) later

/-- Where no sigma of the text is final, none of the glob is. -/
theorem matchesInForm_of_sigmasBegin (h : Matches glob text) (le : b = true → b' = true)
    (begin' : sigmasBegin b' text = true) : MatchesInForm b b' glob text := by
  induction h generalizing b b' with
  | nil => exact .nil
  | run skipped _ ih =>
    rw [sigmasBegin_append, Bool.and_eq_true] at begin'
    exact .run skipped (ih nofun begin'.2)
  | @char c glob text literal _ ih =>
    rw [sigmasBegin, Bool.and_eq_true] at begin'
    obtain ⟨here, later⟩ := begin'
    refine .char literal ?_ (ih ?_ later)
    · by_cases sigma : c = 'Σ'
      · subst sigma
        have first : b' = false := by simpa using here
        have first' : b = false := by
          rw [first] at le
          exact Bool.eq_false_iff.2 fun hb => Bool.false_ne_true (le hb)
        rw [first, first']
        rfl
      · rw [lowerBetween_of_ne sigma, lowerBetween_of_ne sigma]
    · unfold endsCased
      split
      · exact le
      · exact id

theorem isMatch_lower (h : isMatch glob text = true)
    (forms : settled .no glob = true ∨ sigmasBegin false text = true) :
    isMatch (lower glob) (lower text) = true := by
  rw [isMatch_iff] at h ⊢
  rcases forms with fixed | begin'
  · have known : Truth.no.Allows false := .inr rfl
    exact (matchesInForm_of_settled h known fixed).lower
  · exact (matchesInForm_of_sigmasBegin h id begin').lower

/-! ## Path globs -/

section Paths

variable {segment head : List Char} {pattern path : List (List Char)}

/-- A segment of a path glob can always take one segment of the path that it matches. -/
theorem matchesSegments_cons (first : isMatch segment head = true)
    (rest : matchesSegments pattern path = true) :
    matchesSegments (segment :: pattern) (head :: path) = true := by
  by_cases deep : segment = deepWildcard
  · rw [deep, matchesSegments_deep_iff]
    exact ⟨path, List.suffix_cons head path, rest⟩
  · exact (matchesSegments_shallow_iff deep).2 ⟨head, path, rfl, first, rest⟩

theorem matchesSegments_lower (h : matchesSegments pattern path = true)
    (forms : (∀ segment ∈ pattern, settled .no segment = true) ∨
      ∀ piece ∈ path, sigmasBegin false piece = true) :
    matchesSegments (pattern.map Text.lower) (path.map Text.lower) = true := by
  induction pattern generalizing path with
  | nil =>
    obtain rfl := matchesSegments_nil_iff.1 h
    rfl
  | cons segment pattern ih =>
    by_cases deep : segment = deepWildcard
    · subst deep
      obtain ⟨rest, end_, m⟩ := matchesSegments_deep_iff.1 h
      have own : Text.lower deepWildcard = deepWildcard := by decide
      rw [List.map_cons, own, matchesSegments_deep_iff]
      refine ⟨rest.map Text.lower, end_.map _, ih m ?_⟩
      exact forms.imp (fun fixed s hs => fixed s (List.mem_cons_of_mem _ hs))
        fun begin' p hp => begin' p (end_.subset hp)
    · obtain ⟨head, rest, rfl, first, m⟩ := (matchesSegments_shallow_iff deep).1 h
      rw [List.map_cons, List.map_cons]
      refine matchesSegments_cons (isMatch_lower first ?_) (ih m ?_)
      · exact forms.imp (fun fixed => fixed _ List.mem_cons_self)
          fun begin' => begin' _ List.mem_cons_self
      · exact forms.imp (fun fixed s hs => fixed s (List.mem_cons_of_mem _ hs))
          fun begin' p hp => begin' p (List.mem_cons_of_mem _ hp)

/-- What both sides of each cut at a separator inherit holds of every piece of a text. -/
theorem forall_mem_splitOn {P : List Char → Prop}
    (cut : ∀ front back, P (front ++ separator :: back) → P front ∧ P back) {cs : List Char}
    (h : P cs) : ∀ piece ∈ cs.splitOn separator, P piece := by
  suffices key : ∀ pieces : List (List Char), P ([separator].intercalate pieces) →
      ∀ piece ∈ pieces, P piece by
    refine key _ ?_
    rwa [List.intercalate_splitOn]
  intro pieces
  induction pieces with
  | nil => exact fun _ => List.forall_mem_nil P
  | cons first rest ih =>
    intro h
    by_cases last : rest = []
    · rw [last, List.intercalate_singleton] at h
      rw [last, List.forall_mem_singleton]
      exact h
    · rw [joined_cons first last] at h
      obtain ⟨here, later⟩ := cut _ _ h
      exact List.forall_mem_cons.2 ⟨here, ih later⟩

theorem startsCasedIn_append_separator (front back : List Char) :
    startsCasedIn (front ++ separator :: back) = startsCasedIn front := by
  induction front with
  | nil =>
    rw [List.nil_append, startsCasedIn.eq_2, if_neg (by decide), if_neg (by decide)]
    decide
  | cons c front ih => rw [List.cons_append, startsCasedIn, startsCasedIn, ih]

theorem settled_append_separator (front back : List Char) :
    settled t (front ++ separator :: back) = (settled t front && settled .no back) := by
  induction front generalizing t with
  | nil =>
    have after : endsCasedIn t separator = .no := by
      cases t <;> decide
    rw [List.nil_append, settled.eq_2, after]
    rfl
  | cons c front ih =>
    rw [List.cons_append, settled, settled, ih, startsCasedIn_append_separator, Bool.and_assoc]

theorem sigmasBegin_append_separator (front back : List Char) :
    sigmasBegin b (front ++ separator :: back) =
      (sigmasBegin b front && sigmasBegin false back) := by
  have after (b : Bool) : endsCased b separator = false := by
    cases b <;> decide
  rw [sigmasBegin_append, sigmasBegin, after]
  rfl

theorem isPathMatch_lower (h : isPathMatch glob text = true)
    (forms : settled .no glob = true ∨ sigmasBegin false text = true) :
    isPathMatch (Text.lower glob) (Text.lower text) = true := by
  rw [isPathMatch, ProjectPath.splitOn_lower, ProjectPath.splitOn_lower]
  refine matchesSegments_lower h (forms.imp (fun fixed => ?_) fun begin' => ?_)
  · refine forall_mem_splitOn (fun front back h => ?_) fixed
    rwa [settled_append_separator, Bool.and_eq_true] at h
  · refine forall_mem_splitOn (fun front back h => ?_) begin'
    rwa [sigmasBegin_append_separator, Bool.and_eq_true] at h

end Paths

end Glob

end BuildQuery
