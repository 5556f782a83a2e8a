import BuildQuery.Proofs.Hierarchy

/-!
# The normal form of a path

A text is cut at its slashes, and the blanks around its pieces are dropped. Normalizing it drops the
empty pieces at either end and refuses an empty piece between others, while reading it as a path
drops the empty pieces wherever they stand. Where there is nothing to refuse, both leave the same
pieces (`chars_of_normalize`), and what there is to refuse can be told from the pieces of the text
(`normalize_eq`).

Main statement: the texts that can be normalized, their normal forms as the only texts in normal
form with the same segments, and that nothing that is asked of paths tells a text from its normal
form (`normalize_canonical`).
-/

namespace BuildQuery

open scoped List

namespace ProjectPath

/-! ## The pieces of a text -/

section Pieces

variable {piece : List Char} {rest pieces : List (List Char)}

theorem filter_dropWhile_isEmpty (pieces : List (List Char)) :
    (pieces.dropWhile List.isEmpty).filter (!List.isEmpty ·) =
      pieces.filter (!List.isEmpty ·) := by
  induction pieces with
  | nil => rfl
  | cons piece pieces ih =>
    cases piece with
    | nil => exact ih
    | cons c piece => rfl

/-- The pieces between the empty ones at either end are all that are not empty, and perhaps more. -/
theorem filter_innerPieces (pieces : List (List Char)) :
    (innerPieces pieces).filter (!List.isEmpty ·) = pieces.filter (!List.isEmpty ·) := by
  rw [innerPieces, List.filter_reverse, filter_dropWhile_isEmpty, List.filter_reverse,
    List.reverse_reverse, filter_dropWhile_isEmpty]

theorem isPrefix_innerPieces (pieces : List (List Char)) :
    innerPieces pieces <+: pieces.dropWhile List.isEmpty := by
  rw [← List.reverse_suffix, innerPieces, List.reverse_reverse]
  exact List.dropWhile_suffix _

theorem ne_nil_of_mem_head?_dropWhile (h : piece ∈ (pieces.dropWhile List.isEmpty).head?) :
    piece ≠ [] := by
  have first := List.head?_dropWhile_not List.isEmpty pieces
  rw [Option.mem_def.1 h] at first
  exact List.isEmpty_eq_false_iff.1 first

theorem ne_nil_of_mem_head? (h : piece ∈ (innerPieces pieces).head?) : piece ≠ [] := by
  obtain ⟨dropped, e⟩ := isPrefix_innerPieces pieces
  have first : piece ∈ (pieces.dropWhile List.isEmpty).head? := by
    rw [← e, List.head?_append, Option.mem_def.1 h]
    rfl
  exact ne_nil_of_mem_head?_dropWhile first

theorem ne_nil_of_mem_getLast? (h : piece ∈ (innerPieces pieces).getLast?) : piece ≠ [] := by
  rw [innerPieces, List.getLast?_reverse] at h
  exact ne_nil_of_mem_head?_dropWhile h

theorem innerPieces_eq_nil_iff : innerPieces pieces = [] ↔ ∀ piece ∈ pieces, piece = [] := by
  have kept := filter_innerPieces pieces
  constructor
  · intro none piece hp
    rw [none, List.filter_nil, eq_comm, List.filter_eq_nil_iff] at kept
    simpa using kept piece hp
  · intro empty
    cases e : innerPieces pieces with
    | nil => rfl
    | cons first rest =>
      have mem : first ∈ innerPieces pieces := by rw [e]; exact List.mem_cons_self
      have full : first ≠ [] := ne_nil_of_mem_head? (by rw [e]; rfl)
      exact absurd (empty first (mem_of_mem_innerPieces mem)) full

theorem cons_sublist_dropWhile (h : piece :: rest <+ pieces) (full : piece ≠ []) :
    piece :: rest <+ pieces.dropWhile List.isEmpty := by
  induction pieces with
  | nil => exact h
  | cons first pieces ih =>
    cases first with
    | nil =>
      rcases List.cons_sublist_cons'.1 h with h | ⟨e, -⟩
      · exact ih h
      · exact absurd e full
    | cons c first => exact h

/-- What stands between two pieces that are not empty is not dropped. -/
theorem nil_mem_innerPieces_iff : [] ∈ innerPieces pieces ↔
    ∃ left right, left ≠ [] ∧ right ≠ [] ∧ [left, [], right] <+ pieces := by
  constructor
  · intro mem
    obtain ⟨front, back, e⟩ := List.append_of_mem mem
    have inner : front ++ [] :: back <+ pieces := by
      rw [← e]
      exact (isPrefix_innerPieces pieces).sublist.trans (List.dropWhile_suffix _).sublist
    obtain ⟨left, hl, fullLeft⟩ : ∃ left ∈ front, left ≠ [] := by
      cases front with
      | nil => exact absurd rfl (ne_nil_of_mem_head? (by rw [e]; rfl))
      | cons left front =>
        exact ⟨left, List.mem_cons_self, ne_nil_of_mem_head? (by rw [e]; rfl)⟩
    obtain ⟨right, hr, fullRight⟩ : ∃ right ∈ back, right ≠ [] := by
      rcases List.eq_nil_or_concat' back with rfl | ⟨back, right, rfl⟩
      · have last : [] ∈ (innerPieces pieces).getLast? := by rw [e, List.getLast?_concat]; rfl
        exact absurd rfl (ne_nil_of_mem_getLast? last)
      · have last : right ∈ (innerPieces pieces).getLast? := by
          rw [e, ← List.cons_append, ← List.append_assoc, List.getLast?_concat]
          rfl
        exact ⟨right, List.mem_append_right back List.mem_cons_self, ne_nil_of_mem_getLast? last⟩
    have around : [left] ++ [[], right] <+ front ++ [] :: back :=
      (List.singleton_sublist.2 hl).append ((List.singleton_sublist.2 hr).cons_cons [])
    exact ⟨left, right, fullLeft, fullRight, around.trans inner⟩
  · rintro ⟨left, right, hl, hr, h⟩
    have h := List.reverse_sublist.2 (cons_sublist_dropWhile h hl)
    have h := List.reverse_sublist.2 (cons_sublist_dropWhile h hr)
    exact h.mem (List.mem_cons_of_mem _ List.mem_cons_self)

end Pieces

/-! ## Texts that can be normalized -/

/-- Whether some piece of a text is not blank. -/
def HasSegments (s : String) : Prop := ∃ piece ∈ trimmedPieces s, piece ≠ []

/-- Whether a blank piece of a text stands between two that are not blank. -/
def HasGap (s : String) : Prop :=
  ∃ left right, left ≠ [] ∧ right ≠ [] ∧ [left, [], right] <+ trimmedPieces s

instance (s : String) : Decidable (HasSegments s) := inferInstanceAs (Decidable (∃ _ ∈ _, _))

instance (s : String) : Decidable (HasGap s) := decidable_of_iff _ nil_mem_innerPieces_iff

section Texts

variable {s : String} {path : ProjectPath}

/-- The segments that a text is read as are its pieces that are not blank. -/
theorem map_chars_ofText (s : String) :
    (ofText s).map Segment.chars = (trimmedPieces s).filter (!List.isEmpty ·) := by
  suffices key : ∀ pieces : List (List Char), (∀ piece ∈ pieces, pathSeparator ∉ piece) →
      (pieces.filterMap Segment.ofPiece?).map Segment.chars =
        (pieces.map Text.trim).filter (!List.isEmpty ·) from
    key _ fun piece hp => not_mem_of_mem_splitOn hp
  intro pieces free
  induction pieces with
  | nil => rfl
  | cons piece pieces ih =>
    have rest := ih fun p hp => free p (List.mem_cons_of_mem _ hp)
    by_cases blank : Text.trim piece = []
    · have none : Segment.ofPiece? piece = none := dif_neg fun h => h.2.1 blank
      rw [List.filterMap_cons_none none, rest, List.map_cons, blank]
      rfl
    · have segment := isSegment_trim (free piece List.mem_cons_self) blank
      have some : Segment.ofPiece? piece = some ⟨_, segment⟩ := dif_pos segment
      rw [List.filterMap_cons_some some, List.map_cons, rest, List.map_cons,
        List.filter_cons_of_pos (by simpa using blank)]

theorem ofText_ne_nil_iff : ofText s ≠ [] ↔ HasSegments s := by
  rw [ne_eq, ← List.map_eq_nil_iff, map_chars_ofText, List.filter_eq_nil_iff]
  simp [HasSegments]

theorem hasSegments_of_hasGap (h : HasGap s) : HasSegments s := by
  obtain ⟨left, _, full, -, sub⟩ := h
  exact ⟨left, sub.mem List.mem_cons_self, full⟩

/-- What becomes of a text when it is normalized. -/
theorem normalize_eq (s : String) : normalize s =
    if HasGap s then .error .emptySegment
    else if HasSegments s then .ok (ofText s) else .error .empty := by
  have gap : (innerPieces (trimmedPieces s)).any List.isEmpty = decide (HasGap s) := by
    rw [Bool.eq_iff_iff, decide_eq_true_iff, HasGap, ← nil_mem_innerPieces_iff]
    simp
  have blank : (innerPieces (trimmedPieces s)).isEmpty = !decide (HasSegments s) := by
    rw [Bool.eq_iff_iff, List.isEmpty_iff, innerPieces_eq_nil_iff, Bool.not_eq_true',
      decide_eq_false_iff_not]
    simp [HasSegments]
  rw [normalize, gap, blank]
  by_cases segments : HasSegments s
  · simp [segments]
  · simp [segments, mt hasSegments_of_hasGap segments]

theorem normalize_eq_ok_iff :
    normalize s = .ok path ↔ HasSegments s ∧ ¬ HasGap s ∧ path = ofText s := by
  rw [normalize_eq]
  by_cases gap : HasGap s <;> by_cases segments : HasSegments s <;> simp [gap, segments, eq_comm]

/-- The segments of the normal form are the pieces between the empty ones at either end. -/
theorem chars_of_normalize (h : normalize s = .ok path) :
    path.map Segment.chars = innerPieces (trimmedPieces s) := by
  obtain ⟨-, solid, rfl⟩ := normalize_eq_ok_iff.1 h
  rw [map_chars_ofText, ← filter_innerPieces, List.filter_eq_self]
  intro piece hp
  rw [Bool.not_eq_true', List.isEmpty_eq_false_iff]
  rintro rfl
  exact solid (nil_mem_innerPieces_iff.1 hp)

theorem exists_normalize_iff :
    (∃ path, normalize s = .ok path) ↔ HasSegments s ∧ ¬ HasGap s := by
  simp only [normalize_eq_ok_iff, exists_and_left, exists_eq, and_true]

end Texts

/-! ## Paths as somebody wrote them -/

/-- The text of a path with its front substituted, all three paths being given as texts. -/
def substituteText? (s old new : String) : Option String :=
  ((ofText s).substitute? (ofText old) (ofText new)).map text

section Written

variable {s : String} {path path' : ProjectPath}

theorem text_eq_text_iff : path.text = path'.text ↔ path = path' :=
  ⟨fun h => by rw [← ofText_text path, h, ofText_text], congrArg text⟩

/-- A text is read as the same path as its normal form. -/
theorem ofText_text_of_normalize (h : normalize s = .ok path) : ofText path.text = ofText s := by
  rw [ofText_text, eq_ofText_of_normalize h]

theorem toList_text_of_normalize (h : normalize s = .ok path) :
    path.text.toList = [pathSeparator].intercalate (innerPieces (trimmedPieces s)) := by
  rw [toList_text, chars_of_normalize h]

theorem isSegment_of_normalize (h : normalize s = .ok path) :
    ∀ piece ∈ innerPieces (trimmedPieces s), IsSegment piece := by
  rw [← chars_of_normalize h]
  exact List.forall_mem_map.2 fun a _ => a.isSegment

theorem isNormal_of_substituteText? {old new result : String}
    (h : substituteText? s old new = some result) : IsNormal result := by
  obtain ⟨path, found, rfl⟩ := Option.map_eq_some_iff.1 h
  exact isNormal_iff.2 ⟨path, substitute?_ne_nil found, rfl⟩

/-- A text can be normalized exactly when it has segments and no blank piece between two of them.
Its normal form consists of its segments, trimmed, not blank and joined by single slashes; it is
its own normal form, and two texts share it exactly when they have the same segments. Whether a path
is within another one and what a substitution gives is the same for a text and for its normal form
in each place, and what a substitution gives is in normal form, whatever it is given. -/
theorem normalize_canonical (s : String) :
    ((∃ path, normalize s = .ok path) ↔ HasSegments s ∧ ¬ HasGap s) ∧
      (∀ path, normalize s = .ok path →
        ofText path.text = ofText s ∧
        path.text.toList = [pathSeparator].intercalate (innerPieces (trimmedPieces s)) ∧
        (∀ piece ∈ innerPieces (trimmedPieces s), IsSegment piece) ∧
        normalize path.text = .ok path ∧
        (∀ s' path', normalize s' = .ok path' →
          (path.text = path'.text ↔ ofText s = ofText s')) ∧
        ∀ p q : String,
          (ofText path.text).isWithin (ofText p) = (ofText s).isWithin (ofText p) ∧
          (ofText p).isWithin (ofText path.text) = (ofText p).isWithin (ofText s) ∧
          substituteText? path.text p q = substituteText? s p q ∧
          substituteText? p path.text q = substituteText? p s q ∧
          substituteText? p q path.text = substituteText? p q s) ∧
      ∀ old new result, substituteText? s old new = some result → IsNormal result := by
  refine ⟨exists_normalize_iff, fun path normal => ?_, fun _ _ _ => isNormal_of_substituteText?⟩
  have same := ofText_text_of_normalize normal
  refine ⟨same, toList_text_of_normalize normal, isSegment_of_normalize normal,
    normalize_text (normalize_ne_nil normal), fun s' path' normal' => ?_, fun p q => ?_⟩
  · rw [text_eq_text_iff, eq_ofText_of_normalize normal, eq_ofText_of_normalize normal']
  · simp only [substituteText?, same, and_self]

/-- A text with blanks of several kinds, of which the blank pieces stand at the ends, next to one
that spells the same path otherwise, and a text with a gap. -/
theorem normalize_canonical_of_team :
    let s := " / \u3000Team/\tapp */ /"
    let path := ofText "Team/app *"
    normalize s = .ok path ∧ normalize path.text = .ok path ∧
      normalize "Team /app *//" = .ok path ∧ ofText s = ofText "Team /app *//" ∧
      substituteText? "TEAM/app */x" s "org" = substituteText? "TEAM/app */x" path.text "org" ∧
      substituteText? "TEAM/app */x" s "/ org//" = some "org/x" ∧ IsNormal "org/x" ∧
      (HasSegments "Team//app" ∧ HasGap "Team//app") ∧
      ¬ ∃ path, normalize "Team//app" = .ok path := by
  intro s path
  have normal : normalize s = .ok path := normalize_eq_ok_iff.2 ⟨by decide, by decide, by decide⟩
  have normal' : normalize "Team /app *//" = .ok path :=
    normalize_eq_ok_iff.2 ⟨by decide, by decide, by decide⟩
  obtain ⟨-, -, -, fixed, shared, replaced⟩ := (normalize_canonical s).2.1 path normal
  have moved : substituteText? "TEAM/app */x" s "/ org//" = some "org/x" := by decide
  have gap : HasSegments "Team//app" ∧ HasGap "Team//app" := by decide
  refine ⟨normal, fixed, normal', (shared _ _ normal').1 rfl, ?_, moved, ?_, gap,
    fun accepted => ?_⟩
  · exact (replaced "TEAM/app */x" "org").2.2.2.1.symm
  · exact (normalize_canonical "TEAM/app */x").2.2 _ _ _ moved
  · exact ((normalize_canonical "Team//app").1.1 accepted).2 gap.2

end Written

end ProjectPath

end BuildQuery
