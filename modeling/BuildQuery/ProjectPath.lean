import BuildQuery.Text.Blank
import BuildQuery.Text.Lowercase

/-!
# Project paths

A project path is a list of segments, written with slashes between them. A segment is not blank, has
no blanks at its ends and no slash in it. Reading a path as somebody wrote it drops blank segments;
normalizing it refuses them between others. Segments are compared without regard to case when one
path is looked for in another. Main statement: a path is read back from its text (`ofText_text`).
-/

namespace BuildQuery

/-- The character between the segments of a path as text. -/
def pathSeparator : Char := '/'

/-- What is the text of a segment: trimmed, not empty, and without the separator. -/
def IsSegment (s : List Char) : Prop := Text.trim s = s ∧ s ≠ [] ∧ pathSeparator ∉ s

instance (s : List Char) : Decidable (IsSegment s) :=
  inferInstanceAs (Decidable (_ ∧ _ ∧ _))

/-- A segment of a project path. -/
structure Segment where
  chars : List Char
  isSegment : IsSegment chars
  deriving DecidableEq

/-- A project path, by its segments. -/
abbrev ProjectPath := List Segment

/-- Why a path cannot be normalized. -/
inductive PathFault where
  | empty
  | emptySegment
  deriving DecidableEq, Repr

/-- The wording of a fault. -/
def PathFault.message : PathFault → String
  | empty => "path is empty"
  | emptySegment => "path contains an empty segment"

namespace Segment

/-- The segment that a piece of path text stands for; a blank piece stands for none. -/
def ofPiece? (piece : List Char) : Option Segment :=
  if h : IsSegment (Text.trim piece) then some ⟨_, h⟩ else none

/-- Whether two segments are the same up to case. -/
def same (a b : Segment) : Bool := Text.lower a.chars == Text.lower b.chars

end Segment

namespace ProjectPath

/-- The pieces of path text, trimmed. -/
def trimmedPieces (s : String) : List (List Char) :=
  (s.toList.splitOn pathSeparator).map Text.trim

/-- The path of a text, whatever blank segments it has. -/
def ofText (s : String) : ProjectPath :=
  (s.toList.splitOn pathSeparator).filterMap Segment.ofPiece?

/-- The text of a path. -/
def text (path : ProjectPath) : String :=
  String.ofList ([pathSeparator].intercalate (path.map Segment.chars))

/-- The pieces without the empty ones at either end. -/
def innerPieces (pieces : List (List Char)) : List (List Char) :=
  ((pieces.dropWhile List.isEmpty).reverse.dropWhile List.isEmpty).reverse

/-- The path of a text that has segments and no blank one between two others. -/
def normalize (s : String) : Except PathFault ProjectPath :=
  let inner := innerPieces (trimmedPieces s)
  if inner.isEmpty then .error .empty
  else if inner.any List.isEmpty then .error .emptySegment
  else .ok (ofText s)

/-- Whether a path begins with the segments of another one, up to case. -/
def startsWith : ProjectPath → ProjectPath → Bool
  | _, [] => true
  | [], _ :: _ => false
  | a :: path, b :: start => b.same a && startsWith path start

/-- Whether a path is the other one or lies below it. Nothing lies below the path without
segments. -/
def isWithin (path ancestor : ProjectPath) : Bool :=
  !ancestor.isEmpty && path.startsWith ancestor

/-- The path with the segments of `old` at its front replaced by those of `new`, if it lies within
`old` and `new` has segments. -/
def substitute? (path old new : ProjectPath) : Option ProjectPath :=
  if path.isWithin old && !new.isEmpty then some (new ++ path.drop old.length) else none

/-! ## A path and its text -/

theorem ofPiece?_chars (a : Segment) : Segment.ofPiece? a.chars = some a := by
  have h := a.isSegment
  have e : Text.trim a.chars = a.chars := h.1
  simp only [Segment.ofPiece?, e, h, ↓reduceDIte]

@[simp] theorem toList_text (path : ProjectPath) :
    path.text.toList = [pathSeparator].intercalate (path.map Segment.chars) := by
  simp [text]

/-- The text of a path falls into its segments. -/
theorem splitOn_text {path : ProjectPath} (h : path ≠ []) :
    path.text.toList.splitOn pathSeparator = path.map Segment.chars := by
  rw [toList_text]
  refine List.splitOn_intercalate _ ?_ (by simpa using h)
  intro l hl
  obtain ⟨b, _, rfl⟩ := List.mem_map.1 hl
  exact b.isSegment.2.2

/-- The text of a path stands for that path. -/
@[simp] theorem ofText_text (path : ProjectPath) : ofText path.text = path := by
  cases path with
  | nil => decide
  | cons a path =>
    have back : Segment.ofPiece? ∘ Segment.chars = some := funext ofPiece?_chars
    rw [ofText, splitOn_text (List.cons_ne_nil a path), List.filterMap_map, back,
      List.filterMap_some]

/-! ## Segments of a text -/

theorem not_mem_of_mem_splitOn {sep : Char} {cs piece : List Char}
    (h : piece ∈ cs.splitOn sep) : sep ∉ piece := by
  induction cs generalizing piece with
  | nil => simp_all
  | cons c cs ih =>
    rw [List.splitOn_cons_eq_if_modifyHead] at h
    split at h
    · rcases List.mem_cons.1 h with rfl | h
      · simp
      · exact ih h
    · next hc =>
      cases e : cs.splitOn sep with
      | nil => simp [e] at h
      | cons first rest =>
        rw [e, List.modifyHead_cons] at h
        rcases List.mem_cons.1 h with rfl | h
        · have rest : sep ∉ first := ih (by simp [e])
          have ne : sep ≠ c := fun eq => hc (by simp [eq])
          simp [rest, ne]
        · exact ih (by simp [e, h])

/-- A piece of path text that is not blank stands for a segment. -/
theorem isSegment_trim {piece : List Char} (h : pathSeparator ∉ piece)
    (notBlank : Text.trim piece ≠ []) : IsSegment (Text.trim piece) :=
  ⟨Text.trim_trim piece, notBlank, fun m => h (Text.mem_of_mem_trim m)⟩

/-- A text with a piece that is not blank is not the empty path. -/
theorem ofText_ne_nil {s : String} {piece : List Char}
    (mem : piece ∈ s.toList.splitOn pathSeparator) (notBlank : Text.trim piece ≠ []) :
    ofText s ≠ [] := by
  have seg := isSegment_trim (not_mem_of_mem_splitOn mem) notBlank
  have : (⟨Text.trim piece, seg⟩ : Segment) ∈ ofText s :=
    List.mem_filterMap.2 ⟨piece, mem, by simp [Segment.ofPiece?, seg]⟩
  exact List.ne_nil_of_mem this

theorem mem_of_mem_innerPieces {piece : List Char} {ps : List (List Char)}
    (h : piece ∈ innerPieces ps) : piece ∈ ps := by
  unfold innerPieces at h
  have h := (List.dropWhile_suffix _).mem (List.mem_reverse.1 h)
  exact (List.dropWhile_suffix _).mem (List.mem_reverse.1 h)

theorem normalize_ne_nil {s : String} {path : ProjectPath} (h : normalize s = .ok path) :
    path ≠ [] := by
  simp only [normalize] at h
  split at h
  · contradiction
  · next some =>
    split at h
    · contradiction
    · next full =>
      obtain ⟨piece, mem⟩ := List.exists_mem_of_ne_nil _ (by simpa using some)
      have notBlank : piece ≠ [] := by
        simp only [List.any_eq_true, not_exists, not_and, List.isEmpty_iff] at full
        exact full piece mem
      obtain ⟨raw, rawMem, rfl⟩ := List.mem_map.1 (mem_of_mem_innerPieces mem)
      simp only [Except.ok.injEq] at h
      exact h ▸ ofText_ne_nil rawMem notBlank

theorem substitute?_ne_nil {path old new result : ProjectPath}
    (h : path.substitute? old new = some result) : result ≠ [] := by
  unfold substitute? at h
  split at h
  · next hc =>
    simp only [Bool.and_eq_true, Bool.not_eq_true', List.isEmpty_eq_false_iff] at hc
    simp only [Option.some.injEq] at h
    simp [← h, hc.2]
  · contradiction

end ProjectPath

end BuildQuery
