import BuildQuery.ProjectPath

/-!
# Paths within paths

The segments of a path in lower case are all that counts when it is looked for in another one. Main
statement: a path lies within another one that has segments exactly when the segments of the other
one come first, whatever the case (`isWithin_iff`).
-/

namespace BuildQuery

/-- A segment in lower case. -/
def Segment.folded (a : Segment) : List Char := Text.lower a.chars

namespace ProjectPath

/-- The segments of a path in lower case. -/
def folded (path : ProjectPath) : List (List Char) := path.map Segment.folded

variable {path ancestor old new start : ProjectPath}

@[simp] theorem folded_append (path rest : ProjectPath) :
    folded (path ++ rest) = folded path ++ folded rest :=
  List.map_append

theorem folded_ne_nil (h : path ≠ []) : path.folded ≠ [] :=
  mt List.map_eq_nil_iff.1 h

theorem startsWith_iff : path.startsWith start = true ↔ start.folded <+: path.folded := by
  induction start generalizing path with
  | nil =>
    rw [startsWith]
    exact iff_of_true rfl List.nil_prefix
  | cons b start ih =>
    cases path with
    | nil =>
      rw [startsWith]
      exact iff_of_false Bool.false_ne_true fun h => List.cons_ne_nil _ _ (List.prefix_nil.1 h)
    | cons a path =>
      rw [startsWith, Bool.and_eq_true, ih]
      show _ ↔ b.folded :: folded start <+: a.folded :: folded path
      rw [List.cons_prefix_cons, Segment.same, beq_iff_eq]
      rfl

/-- A path lies within another one when the segments of that one come first. -/
theorem isWithin_iff :
    path.isWithin ancestor = true ↔ ancestor ≠ [] ∧ ancestor.folded <+: path.folded := by
  rw [isWithin, Bool.and_eq_true, startsWith_iff, Bool.not_eq_true', List.isEmpty_eq_false_iff]

/-- The segments below an ancestor come after its own. -/
theorem folded_of_isWithin (h : path.isWithin ancestor = true) :
    path.folded = ancestor.folded ++ folded (path.drop ancestor.length) := by
  obtain ⟨rest, e⟩ := (isWithin_iff.1 h).2
  have length : ancestor.folded.length = ancestor.length := List.length_map _
  rw [← e]
  refine congrArg _ ?_
  rw [folded, List.map_drop]
  show rest = path.folded.drop ancestor.length
  rw [← e, ← length, List.drop_left]

theorem isWithin_self (full : path ≠ []) : path.isWithin path = true :=
  isWithin_iff.2 ⟨full, List.prefix_rfl⟩

theorem ne_nil_of_isWithin (h : path.isWithin ancestor = true) : path ≠ [] := by
  obtain ⟨full, front⟩ := isWithin_iff.1 h
  rintro rfl
  exact folded_ne_nil full (List.prefix_nil.1 front)

theorem isWithin_trans (h : path.isWithin old = true) (h' : old.isWithin ancestor = true) :
    path.isWithin ancestor = true := by
  obtain ⟨-, front⟩ := isWithin_iff.1 h
  obtain ⟨full, front'⟩ := isWithin_iff.1 h'
  exact isWithin_iff.2 ⟨full, front'.trans front⟩

/-- Two paths that a path lies within are beginnings of the same segments. -/
theorem isWithin_or_isWithin (h : path.isWithin old = true) (h' : path.isWithin new = true) :
    old.isWithin new = true ∨ new.isWithin old = true := by
  obtain ⟨fullOld, frontOld⟩ := isWithin_iff.1 h
  obtain ⟨fullNew, frontNew⟩ := isWithin_iff.1 h'
  rcases List.prefix_or_prefix_of_prefix frontOld frontNew with front | front
  · exact .inr (isWithin_iff.2 ⟨fullOld, front⟩)
  · exact .inl (isWithin_iff.2 ⟨fullNew, front⟩)

/-- A path within the old one is substituted by a path with segments. -/
theorem substitute?_of_isWithin (h : path.isWithin old = true) (full : new ≠ []) :
    path.substitute? old new = some (new ++ path.drop old.length) := by
  rw [substitute?, h, List.isEmpty_eq_false_iff.2 full]
  rfl

/-! ## Characters of a path -/

theorem mem_intercalate {sep piece : List Char} {pieces : List (List Char)} {c : Char}
    (hp : piece ∈ pieces) (hc : c ∈ piece) : c ∈ sep.intercalate pieces := by
  induction pieces with
  | nil => contradiction
  | cons first pieces ih =>
    cases pieces with
    | nil =>
      obtain rfl := List.mem_singleton.1 hp
      rwa [List.intercalate_singleton]
    | cons second pieces =>
      rw [List.intercalate_cons_cons]
      rcases List.mem_cons.1 hp with rfl | hp
      · exact List.mem_append_left _ (List.mem_append_left _ hc)
      · exact List.mem_append_right _ (ih hp)

theorem mem_text_of_mem {path : ProjectPath} {a : Segment} {c : Char} (ha : a ∈ path)
    (hc : c ∈ a.chars) : c ∈ path.text.toList := by
  rw [toList_text]
  exact mem_intercalate (List.mem_map.2 ⟨a, ha, rfl⟩) hc

/-- The segments of a path have no other characters than the text that it was read from. -/
theorem mem_of_mem_ofText {s : String} {a : Segment} {c : Char} (ha : a ∈ ofText s)
    (hc : c ∈ a.chars) : c ∈ s.toList := by
  obtain ⟨piece, hp, e⟩ := List.mem_filterMap.1 ha
  have join : [pathSeparator].intercalate (s.toList.splitOn pathSeparator) = s.toList :=
    List.intercalate_splitOn _
  unfold Segment.ofPiece? at e
  split at e
  · obtain rfl := Option.some.inj e
    rw [← join]
    exact mem_intercalate hp (Text.mem_of_mem_trim hc)
  · contradiction

theorem eq_ofText_of_normalize {s : String} {path : ProjectPath} (h : normalize s = .ok path) :
    path = ofText s := by
  unfold normalize at h
  dsimp only at h
  split at h
  · contradiction
  · split at h
    · contradiction
    · exact (Except.ok.inj h).symm

end ProjectPath

end BuildQuery
