import BuildQuery.Criteria.Leaf

/-!
# Operands read back from their text

The text of an operand is in the form that the reader of operands gives it: a project path has no
blanks and no empty segments, a number has no sign in front but a minus, a date is trimmed. Main
statement: a leaf is read back from its field, its operator and the text of its operand
(`ofOperand_operandText`).
-/

namespace BuildQuery

/-! ## Project paths -/

namespace ProjectPath

theorem innerPieces_eq_self {pieces : List (List Char)} (h : ∀ piece ∈ pieces, piece ≠ []) :
    innerPieces pieces = pieces := by
  have kept : ∀ ps : List (List Char), (∀ piece ∈ ps, piece ≠ []) →
      ps.dropWhile List.isEmpty = ps := by
    intro ps hps
    cases ps with
    | nil => rfl
    | cons p ps =>
      rw [List.dropWhile_cons_of_neg]
      rw [List.isEmpty_iff]
      exact hps p List.mem_cons_self
  unfold innerPieces
  rw [kept pieces h, kept _ fun piece hp => h piece (List.mem_reverse.1 hp), List.reverse_reverse]

/-- The text of a path is in normal form. -/
theorem normalize_text {path : ProjectPath} (h : path ≠ []) : normalize path.text = .ok path := by
  have pieces : trimmedPieces path.text = path.map Segment.chars := by
    rw [trimmedPieces, splitOn_text h, List.map_map]
    exact List.map_congr_left fun a _ => a.isSegment.1
  have full : ∀ piece ∈ path.map Segment.chars, piece ≠ [] := by
    intro piece hp
    obtain ⟨a, -, rfl⟩ := List.mem_map.1 hp
    exact a.isSegment.2.1
  have nonempty : (path.map Segment.chars).isEmpty = false := by
    rw [List.isEmpty_eq_false_iff]
    exact mt List.map_eq_nil_iff.1 h
  have solid : (path.map Segment.chars).any List.isEmpty = false := by
    rw [List.any_eq_false]
    intro piece hp
    rw [List.isEmpty_iff]
    exact full piece hp
  unfold normalize
  rw [pieces, innerPieces_eq_self full]
  dsimp only
  rw [nonempty, solid, ofText_text]
  rfl

theorem isBlankString_text {path : ProjectPath} (h : path ≠ []) :
    Text.isBlankString path.text = false := by
  obtain ⟨a, rest, rfl⟩ := List.exists_cons_of_ne_nil h
  have inked : a.chars.all Text.isBlank = false := by
    rw [Bool.eq_false_iff, ne_eq, ← Text.trim_eq_nil_iff, a.isSegment.1]
    exact a.isSegment.2.1
  have front : ∃ tail, (text (a :: rest)).toList = a.chars ++ tail := by
    rw [toList_text, List.map_cons]
    cases rest.map Segment.chars with
    | nil => exact ⟨[], by rw [List.intercalate_singleton, List.append_nil]⟩
    | cons b rest => exact ⟨_, by rw [List.intercalate_cons_cons, List.append_assoc]⟩
  obtain ⟨tail, e⟩ := front
  rw [Text.isBlankString, e, List.all_append, inked, Bool.false_and]

end ProjectPath

/-! ## Numbers -/

namespace Text

theorem isBlank_of_isDigit {c : Char} (h : c.isDigit = true) : isBlank c = false := by
  have key : ∀ n < 58, 48 ≤ n → inRanges blankRanges n = false := by decide
  obtain ⟨low, high⟩ := Char.isDigit_iff_toNat.1 h
  exact key c.toNat (Nat.lt_succ_of_le high) low

theorem writeInt64_ne_nil (n : Int64) : writeInt64 n ≠ [] := by
  unfold writeInt64
  split
  · exact List.cons_ne_nil _ _
  · exact Nat.toDigits_ne_nil

theorem eq_minus_or_isDigit_of_mem_writeInt64 {n : Int64} {c : Char} (h : c ∈ writeInt64 n) :
    c = '-' ∨ c.isDigit = true := by
  have digit : c ∈ Nat.toDigits 10 n.toInt.natAbs → c.isDigit = true :=
    Nat.isDigit_of_mem_toDigits (by decide) (by decide)
  unfold writeInt64 at h
  split at h
  · exact (List.mem_cons.1 h).imp_right digit
  · exact .inr (digit h)

theorem isBlank_of_mem_writeInt64 {n : Int64} {c : Char} (h : c ∈ writeInt64 n) :
    isBlank c = false := by
  rcases eq_minus_or_isDigit_of_mem_writeInt64 h with rfl | digit
  · decide
  · exact isBlank_of_isDigit digit

theorem trim_writeInt64 (n : Int64) : trim (writeInt64 n) = writeInt64 n := by
  refine trim_eq_self_iff.2 ⟨fun c hc => ?_, fun c hc => ?_⟩
  · exact isBlank_of_mem_writeInt64 (List.mem_of_mem_head? hc)
  · exact isBlank_of_mem_writeInt64 (List.mem_of_mem_getLast? hc)

end Text

theorem dropNumberSign_writeInt64 (n : Int64) :
    dropNumberSign (Text.writeInt64 n) = Text.writeInt64 n := by
  unfold dropNumberSign
  split
  · next cs e =>
    have sign : '#' ∈ Text.writeInt64 n := by rw [e]; exact List.mem_cons_self
    exact absurd (Text.eq_minus_or_isDigit_of_mem_writeInt64 sign) (by decide)
  · rfl

theorem isBlankString_writeInt64 (n : Int64) :
    Text.isBlankString (String.ofList (Text.writeInt64 n)) = false := by
  rw [Text.isBlankString, String.toList_ofList, Bool.eq_false_iff, ne_eq, ← Text.trim_eq_nil_iff,
    Text.trim_writeInt64]
  exact Text.writeInt64_ne_nil n

/-! ## Tests -/

theorem TextTest.make_eq_ok (t : TextTest) :
    TextTest.make t.field t.pattern t.operator = .ok t := by
  rw [TextTest.make, dif_pos ⟨t.textual, t.supports⟩, dif_pos t.notBlank]

theorem ProjectTest.make_eq_ok (t : ProjectTest) :
    ProjectTest.make t.path.text t.operator = .ok t := by
  unfold ProjectTest.make
  have read := ProjectPath.normalize_text t.notEmpty
  rw [dif_pos t.supports, ProjectPath.isBlankString_text t.notEmpty, if_neg Bool.false_ne_true]
  split
  · next e =>
    rw [read] at e
    contradiction
  · next path e =>
    rw [read] at e
    obtain rfl := Except.ok.inj e
    rfl

theorem NumberTest.read_eq_ok (t : NumberTest) :
    NumberTest.read (String.ofList (Text.writeInt64 t.value)) t.operator = .ok t := by
  unfold NumberTest.read
  rw [isBlankString_writeInt64, String.toList_ofList, Text.trim_writeInt64,
    dropNumberSign_writeInt64, Text.readInt64_writeInt64]
  exact dif_pos t.supports

theorem StatusTest.read_eq_ok (t : StatusTest) :
    StatusTest.read t.status.name t.operator = .ok t := by
  have named : Text.isBlankString t.status.name = false := by cases t.status <;> decide
  unfold StatusTest.read
  rw [named, Status.ofName?_name]
  exact dif_pos t.supports

theorem DateTest.read_eq_ok (t : DateTest) : DateTest.read t.text t.operator = .ok t := by
  have reads : Timestamp.ofOperand? (Text.trimmed t.text) = some t.time := by
    rw [t.trimmed]
    exact t.reads
  unfold DateTest.read
  rw [dif_pos t.supports, dif_pos t.notBlank]
  split
  · next e =>
    rw [reads] at e
    exact absurd e (Option.some_ne_none _)
  · next time e =>
    rw [reads] at e
    obtain rfl := Option.some.inj e
    refine congrArg Except.ok ?_
    obtain ⟨text, time, operator, supports, trimmed, notBlank, reads⟩ := t
    congr

namespace Leaf

/-- A leaf is read back from the text of its operand. -/
theorem ofOperand_operandText {l : Leaf} {op : Operator} (h : l.operator? = some op) :
    ofOperand l.field l.operandText op = .ok l := by
  cases l with
  | text t =>
    obtain rfl := Option.some.inj h
    have made := t.make_eq_ok
    obtain ⟨field, operator, pattern, textual, supports, notBlank⟩ := t
    show ofOperand field pattern operator = _
    cases field with
    | job | version | branch | tag | submitter => exact congrArg (Except.map text) made
    | project | number | status | submitDate => contradiction
  | project t =>
    obtain rfl := Option.some.inj h
    exact congrArg (Except.map project) t.make_eq_ok
  | number t =>
    obtain rfl := Option.some.inj h
    exact congrArg (Except.map number) t.read_eq_ok
  | status t =>
    obtain rfl := Option.some.inj h
    exact congrArg (Except.map status) t.read_eq_ok
  | date t =>
    obtain rfl := Option.some.inj h
    exact congrArg (Except.map date) t.read_eq_ok
  | submittedByMe => contradiction

end Leaf

end BuildQuery
