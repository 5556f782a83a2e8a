import Mathlib.Data.List.Basic
import BuildQuery.Parsed
import BuildQuery.Store.Row
import BuildQuery.Store.Sql

/-!
# Predicates read from SQL

A reader of the conditions that predicates are written as. It takes the next value for each
placeholder, a column name from its quoted parts, and a chain in parentheses from its parts, all of
which one connective joins. Main statements: a written column name is read up to its last quote
(`reads_identifier`), a written condition is read in front of any text (`reads_clause`), and so what
a predicate is written as says what the predicate says (`read_ofPredicate`).
-/

namespace BuildQuery

namespace Parsed

variable {τ α β : Type} {input : List τ}

/-- A second reading, of what a first one leaves. -/
def bind (x : Option (Parsed α input)) (f : (p : Parsed α input) → Option (Parsed β p.rest)) :
    Option (Parsed β input) := do
  let p ← x
  let q ← f p
  return ⟨q.value, q.rest, Nat.lt_trans q.shorter p.shorter⟩

end Parsed

namespace Sql

/-! ## The reader -/

/-- A phrase at the front of a text, which stands for a value. -/
def phrase? {α : Type} (w : String) (a : α) (cs : List Char) : Option (Parsed α cs) :=
  match w.toList.isPrefixOf? cs with
  | some rest => if h : rest.length < cs.length then some ⟨a, rest, h⟩ else none
  | none => none

/-- The column name that follows an opening quote. A quote that is written twice belongs to the
name, and a dot between quotes divides it. -/
def name? : (cs : List Char) → Option (Parsed (List Char) cs)
  | '"' :: '"' :: cs => (name? cs).map fun p => (p.map ('"' :: ·)).widen (Nat.le_add_right _ 2)
  | '"' :: '.' :: '"' :: cs =>
    (name? cs).map fun p => (p.map ('.' :: ·)).widen (Nat.le_add_right _ 3)
  | '"' :: cs => some ⟨[], cs, Nat.lt_succ_self _⟩
  | c :: cs => (name? cs).map fun p => (p.map (c :: ·)).widen (Nat.le_succ _)
  | [] => none

/-- A column name in quotes. -/
def identifier? (cs : List Char) : Option (Parsed String cs) :=
  Parsed.bind (phrase? "\"" () cs) fun quote => (name? quote.rest).map (Parsed.map String.ofList)

/-- What is read when there are values for the placeholders: a result, and the values left. -/
abbrev Reading (α : Type) (cs : List Char) := Option (Parsed (α × List Value) cs)

/-- The placeholders of a list, the first of which is written as given, and its end. -/
def holes? (first : String) : List Value → (cs : List Char) → Reading (List Value) cs
  | [], cs => phrase? ")" ([], []) cs
  | v :: vs, cs =>
    phrase? ")" ([], v :: vs) cs <|>
    Parsed.bind (phrase? first () cs) fun hole =>
      (holes? ", ?" vs hole.rest).map (Parsed.map fun (taken, left) => (v :: taken, left))

/-- The sign of a relation with the placeholder after it. -/
def relation? (cs : List Char) : Option (Parsed Relation cs) :=
  phrase? " = ?" .equal cs <|> phrase? " > ?" .greater cs <|> phrase? " < ?" .less cs

/-- What is asked of a column. -/
def columnTest? (column : String) (vs : List Value) (cs : List Char) : Reading Predicate cs :=
  phrase? " IS NULL" (.isNull column, vs) cs <|>
  phrase? " IS NOT NULL" (.not (.isNull column), vs) cs <|>
  match vs with
  | [] => none
  | v :: vs => (relation? cs).map (Parsed.map fun relation => (.compare column relation v, vs))

/-- What is asked of a column in lower case. -/
def foldedTest? (column : String) (vs : List Value) (cs : List Char) : Reading Predicate cs :=
  (match vs with
    | .text pattern :: vs => phrase? ") LIKE ? ESCAPE '\\'" (.like column pattern, vs) cs
    | _ => none) <|>
  Parsed.bind (phrase? ") IN (" () cs) fun list =>
    (holes? "?" vs list.rest).map (Parsed.map fun (taken, left) => (.oneOf column taken, left))

/-- A condition without conditions in it. -/
def test? (vs : List Value) (cs : List Char) : Reading Predicate cs :=
  phrase? "1 = 1" (.always, vs) cs <|>
  phrase? "1 = 0" (.never, vs) cs <|>
  (Parsed.bind (phrase? "LOWER(" () cs) fun lower =>
    Parsed.bind (identifier? lower.rest) fun column => foldedTest? column.value vs column.rest) <|>
  Parsed.bind (identifier? cs) fun column => columnTest? column.value vs column.rest

mutual

/-- A condition. -/
def condition? (vs : List Value) (cs : List Char) : Reading Predicate cs :=
  test? vs cs <|>
  (Parsed.bind (phrase? "NOT (" () cs) fun front =>
    have := front.shorter
    Parsed.bind (condition? vs front.rest) fun inner =>
      phrase? ")" (.not inner.value.1, inner.value.2) inner.rest) <|>
  Parsed.bind (phrase? "(" () cs) fun front =>
    have := front.shorter
    Parsed.bind (condition? vs front.rest) fun first =>
      have := first.shorter
      (more? " AND " first.value.2 first.rest).map (Parsed.map fun (others, left) =>
        (.and (first.value.1 :: others), left)) <|>
      (more? " OR " first.value.2 first.rest).map (Parsed.map fun (others, left) =>
        (.or (first.value.1 :: others), left))
termination_by (cs.length, 0)

/-- The conditions of a chain after the first one, and its end. -/
def more? (connective : String) (vs : List Value) (cs : List Char) :
    Reading (List Predicate) cs :=
  phrase? ")" ([], vs) cs <|>
  Parsed.bind (phrase? connective () cs) fun front =>
    have := front.shorter
    Parsed.bind (condition? vs front.rest) fun next =>
      have := next.shorter
      (more? connective next.value.2 next.rest).map (Parsed.map fun (others, left) =>
        (next.value.1 :: others, left))
termination_by (cs.length, 1)

end

end Sql

/-- The predicate that a statement says: its whole clause is read, with all of its values. -/
def SqlStatement.read? (s : SqlStatement) : Option Predicate :=
  match Sql.condition? s.params s.clause.toList with
  | some ⟨(p, []), [], _⟩ => some p
  | _ => none

namespace Sql

/-! ## Readings -/

/-- Whether something read from the front of a text is the given value, followed by the rest. -/
def Reads {α : Type} {cs : List Char} (x : Option (Parsed α cs)) (a : α) (rest : List Char) :
    Prop :=
  ∃ shorter, x = some ⟨a, rest, shorter⟩

section Reads

variable {α β : Type} {cs mid rest : List Char} {x y : Option (Parsed α cs)} {a : α} {b : β}

theorem Reads.bind {f : (p : Parsed α cs) → Option (Parsed β p.rest)} (first : Reads x a mid)
    (second : ∀ shorter, Reads (f ⟨a, mid, shorter⟩) b rest) :
    Reads (Parsed.bind x f) b rest := by
  obtain ⟨shorter, rfl⟩ := first
  obtain ⟨shorter', e⟩ := second shorter
  refine ⟨Nat.lt_trans shorter' shorter, ?_⟩
  rw [Parsed.bind, Option.bind_eq_bind, Option.bind_some, e]
  rfl

theorem Reads.map (h : Reads x a rest) (f : α → β) : Reads (x.map (Parsed.map f)) (f a) rest := by
  obtain ⟨shorter, rfl⟩ := h
  exact ⟨shorter, rfl⟩

theorem Reads.orElse (h : Reads x a rest) (y : Option (Parsed α cs)) :
    Reads (x <|> y) a rest := by
  obtain ⟨shorter, rfl⟩ := h
  exact ⟨shorter, rfl⟩

theorem Reads.after_none (h : Reads y a rest) (none : x = none) : Reads (x <|> y) a rest := by
  rw [none]
  exact h

theorem bind_none {f : (p : Parsed α cs) → Option (Parsed β p.rest)} (none : x = none) :
    Parsed.bind x f = Option.none := by
  rw [none]
  rfl

end Reads

section Phrases

variable {α : Type} {w : String}

theorem reads_phrase (full : w.toList ≠ []) (a : α) (rest : List Char) :
    Reads (phrase? w a (w.toList ++ rest)) a rest := by
  have shorter : rest.length < (w.toList ++ rest).length := by
    have := List.length_pos_iff.2 full
    rw [List.length_append]
    omega
  refine ⟨shorter, ?_⟩
  rw [phrase?, List.isPrefixOf?_eq_some_iff_append_eq.2 rfl]
  exact dif_pos shorter

/-- Two phrases differ before one of them ends. -/
def Apart (w w' : List Char) : Prop := ¬ w <+: w' ∧ ¬ w' <+: w

instance (w w' : List Char) : Decidable (Apart w w') := inferInstanceAs (Decidable (_ ∧ _))

theorem Apart.symm {w w' : List Char} (h : Apart w w') : Apart w' w := And.symm h

theorem Apart.ne_nil {w' : List Char} (h : Apart w.toList w') : w.toList ≠ [] :=
  fun empty => h.1 (empty ▸ List.nil_prefix)

theorem phrase?_eq_none {front : List Char} (h : Apart w.toList front) (a : α)
    (rest : List Char) : phrase? w a (front ++ rest) = none := by
  unfold phrase?
  split
  · next left e =>
    have start : w.toList <+: front ++ rest := ⟨left, List.isPrefixOf?_eq_some_iff_append_eq.1 e⟩
    rcases List.prefix_or_prefix_of_prefix start (List.prefix_append front rest) with e | e
    · exact absurd e h.1
    · exact absurd e h.2
  · rfl

end Phrases

/-! ## Column names -/

/-- A character of a column name, as it is written in quotes. -/
def quotedChar (c : Char) : List Char :=
  if c = '"' then ['"', '"'] else if c = '.' then ['"', '.', '"'] else [c]

theorem intercalate_cons (sep x : List Char) (zs : List (List Char)) :
    sep.intercalate (x :: zs) = x ++ zs.flatMap (sep ++ ·) := by
  induction zs generalizing x with
  | nil => simp
  | cons z zs ih =>
    rw [List.intercalate_cons_cons, ih, List.flatMap_cons, List.append_assoc, List.append_assoc]

theorem intercalate_append_cons (sep x y : List Char) (zs : List (List Char)) :
    sep.intercalate ((x ++ y) :: zs) = x ++ sep.intercalate (y :: zs) := by
  rw [intercalate_cons, intercalate_cons, List.append_assoc]

/-- The parts of a name in quotes, with dots between them, are the characters of the name in one
pair of quotes. -/
theorem intercalate_quotedPart (cs : List Char) :
    ['.'].intercalate ((cs.splitOn '.').map quotedPart) =
      '"' :: (cs.flatMap quotedChar ++ ['"']) := by
  induction cs with
  | nil => rfl
  | cons c cs ih =>
    obtain ⟨first, others, parts⟩ := List.exists_cons_of_ne_nil (List.splitOn_ne_nil '.' cs)
    rw [parts, List.map_cons] at ih
    rw [List.splitOn_cons_eq_if_modifyHead, parts, List.flatMap_cons]
    by_cases dot : c = '.'
    · rw [if_pos (by simpa using dot), List.map_cons, List.map_cons, List.intercalate_cons_cons, ih,
        dot]
      rfl
    · have double : doubled '"' (c :: first) = quotedChar c ++ doubled '"' first := by
        by_cases quote : c = '"' <;> simp [doubled, quotedChar, quote, dot]
      have opened : ∀ part, quotedPart part = ['"'] ++ (doubled '"' part ++ ['"']) := fun _ => rfl
      rw [opened, intercalate_append_cons] at ih
      rw [if_neg (by simpa using dot), List.modifyHead_cons, List.map_cons, opened, double,
        intercalate_append_cons, List.append_assoc, intercalate_append_cons, List.append_assoc,
        List.append_cancel_left ih]
      rfl

theorem toList_identifier (column : String) :
    (identifier column).toList = '"' :: (column.toList.flatMap quotedChar ++ ['"']) := by
  rw [identifier, String.toList_ofList, intercalate_quotedPart]

section Names

variable {cs name rest : List Char}

theorem Reads.quote (h : Reads (name? cs) name rest) :
    Reads (name? ('"' :: '"' :: cs)) ('"' :: name) rest := by
  obtain ⟨shorter, e⟩ := h
  refine ⟨Nat.lt_add_right 2 shorter, ?_⟩
  rw [name?, e]
  rfl

theorem Reads.dot (h : Reads (name? cs) name rest) :
    Reads (name? ('"' :: '.' :: '"' :: cs)) ('.' :: name) rest := by
  obtain ⟨shorter, e⟩ := h
  refine ⟨Nat.lt_add_right 3 shorter, ?_⟩
  rw [name?, e]
  rfl

theorem Reads.char {c : Char} (quote : c ≠ '"') (h : Reads (name? cs) name rest) :
    Reads (name? (c :: cs)) (c :: name) rest := by
  obtain ⟨shorter, e⟩ := h
  refine ⟨Nat.lt_succ_of_lt shorter, ?_⟩
  rw [name?, e]
  · rfl
  · exact fun _ h => absurd h quote
  · exact fun _ h => absurd h quote
  · exact quote

/-- The characters of a name are read up to the closing quote, which neither another quote nor a dot
follows. -/
theorem reads_name (h : ∀ c ∈ rest.head?, c ≠ '"' ∧ c ≠ '.') (name : List Char) :
    Reads (name? (name.flatMap quotedChar ++ '"' :: rest)) name rest := by
  induction name with
  | nil =>
    show Reads (name? ('"' :: rest)) [] rest
    refine ⟨Nat.lt_succ_self _, ?_⟩
    cases rest with
    | nil => rfl
    | cons d rest =>
      obtain ⟨quote, dot⟩ := h d rfl
      rw [name?]
      · rintro _ ⟨⟩
        exact quote rfl
      · rintro _ ⟨⟩
        exact dot rfl
  | cons c name ih =>
    rw [List.flatMap_cons, List.append_assoc]
    by_cases quote : c = '"'
    · rw [quote]
      exact ih.quote
    by_cases dot : c = '.'
    · rw [dot]
      exact ih.dot
    · rw [quotedChar, if_neg quote, if_neg dot]
      exact ih.char quote

theorem reads_identifier {cs : List Char} (follow : ∀ c ∈ cs.head?, c ≠ '"' ∧ c ≠ '.')
    (column : String) : Reads (identifier? ((identifier column).toList ++ cs)) column cs := by
  rw [toList_identifier, List.cons_append, List.append_assoc, List.singleton_append]
  have name := (reads_name follow column.toList).map String.ofList
  rw [String.ofList_toList] at name
  exact (reads_phrase (w := "\"") (by decide) () _).bind fun _ => name

end Names

/-! ## Conditions without conditions in them -/

section Tests

variable {vs left : List Value} {column w : String} {a : Predicate} {mid rest : List Char}

/-- No condition of this kind begins with other phrases than these. -/
theorem test?_eq_none {front : List Char}
    (h : ∀ w ∈ ["1 = 1", "1 = 0", "LOWER(", "\""], Apart w.toList front)
    (vs : List Value) (rest : List Char) : test? vs (front ++ rest) = none := by
  have other : ∀ w ∈ ["1 = 1", "1 = 0", "LOWER(", "\""], ∀ {α : Type} (a : α),
      phrase? w a (front ++ rest) = none :=
    fun w hw _ a => phrase?_eq_none (h w hw) a rest
  have quote : identifier? (front ++ rest) = none := bind_none (other "\"" (by decide) ())
  rw [test?, other "1 = 1" (by decide), other "1 = 0" (by decide),
    bind_none (other "LOWER(" (by decide) ()), bind_none quote]
  rfl

/-- What is asked of a column does not go on with the name of the column. -/
theorem ends_name (start : w.toList.head? = some ' ' ∨ w.toList.head? = some ')')
    (rest : List Char) : ∀ c ∈ (w.toList ++ rest).head?, c ≠ '"' ∧ c ≠ '.' := by
  rw [List.head?_append]
  rcases start with e | e
  · rw [e, Option.some_or]
    rintro _ ⟨⟩
    exact ⟨by decide, by decide⟩
  · rw [e, Option.some_or]
    rintro _ ⟨⟩
    exact ⟨by decide, by decide⟩

theorem reads_column_test (start : w.toList.head? = some ' ')
    (h : Reads (columnTest? column vs (w.toList ++ mid)) (a, left) rest) :
    Reads (test? vs ((identifier column).toList ++ (w.toList ++ mid))) (a, left) rest := by
  have read := (reads_identifier (ends_name (.inl start) mid) column).bind
    (f := fun column => columnTest? column.value vs column.rest) fun _ => h
  have apart : ∀ w ∈ ["LOWER(", "1 = 0", "1 = 1"], Apart w.toList ['"'] := by decide
  rw [toList_identifier] at read ⊢
  refine ((read.after_none ?_).after_none ?_).after_none ?_
  · exact bind_none (phrase?_eq_none (apart _ (by decide)) _ _)
  · exact phrase?_eq_none (apart _ (by decide)) _ _
  · exact phrase?_eq_none (apart _ (by decide)) _ _

theorem reads_folded_test (start : w.toList.head? = some ')')
    (h : Reads (foldedTest? column vs (w.toList ++ mid)) (a, left) rest) :
    Reads (test? vs ("LOWER(".toList ++ ((identifier column).toList ++ (w.toList ++ mid))))
      (a, left) rest := by
  have read := (reads_phrase (w := "LOWER(") (by decide) ()
    ((identifier column).toList ++ (w.toList ++ mid))).bind
    (f := fun lower => Parsed.bind (identifier? lower.rest) fun column =>
      foldedTest? column.value vs column.rest) fun _ =>
        (reads_identifier (ends_name (.inr start) mid) column).bind fun _ => h
  refine ((read.orElse _).after_none ?_).after_none ?_
  · exact phrase?_eq_none (by decide) _ _
  · exact phrase?_eq_none (by decide) _ _

theorem reads_always (vs : List Value) (rest : List Char) :
    Reads (test? vs ((clause .always).toList ++ rest)) (.always, vs) rest := by
  rw [clause]
  exact (reads_phrase (by decide) (Predicate.always, vs) rest).orElse _

theorem reads_never (vs : List Value) (rest : List Char) :
    Reads (test? vs ((clause .never).toList ++ rest)) (.never, vs) rest := by
  rw [clause]
  refine ((reads_phrase (by decide) (Predicate.never, vs) rest).orElse _).after_none ?_
  exact phrase?_eq_none (by decide) _ _

theorem reads_isNull (column : String) (vs : List Value) (rest : List Char) :
    Reads (test? vs ((clause (.isNull column)).toList ++ rest)) (.isNull column, vs) rest := by
  rw [clause, String.toList_append, List.append_assoc]
  refine reads_column_test (by decide) ?_
  exact (reads_phrase (by decide) (Predicate.isNull column, vs) rest).orElse _

theorem reads_isNotNull (column : String) (vs : List Value) (rest : List Char) :
    Reads (test? vs ((clause (.not (.isNull column))).toList ++ rest))
      (.not (.isNull column), vs) rest := by
  rw [clause, String.toList_append, List.append_assoc]
  refine reads_column_test (by decide) ?_
  refine ((reads_phrase (by decide) (Predicate.not (.isNull column), vs) rest).orElse
    _).after_none ?_
  exact phrase?_eq_none (by decide) _ _

theorem reads_relation (relation : Relation) (rest : List Char) :
    Reads (relation? ((" " ++ relation.symbol ++ " ?").toList ++ rest)) relation rest := by
  cases relation with
  | equal => exact (reads_phrase (w := " = ?") (by decide) Relation.equal rest).orElse _
  | greater =>
    refine ((reads_phrase (w := " > ?") (by decide) Relation.greater rest).orElse _).after_none ?_
    exact phrase?_eq_none (by decide) _ _
  | less =>
    refine ((reads_phrase (w := " < ?") (by decide) Relation.less rest).after_none ?_).after_none ?_
    · exact phrase?_eq_none (by decide) _ _
    · exact phrase?_eq_none (by decide) _ _

theorem reads_compare (column : String) (relation : Relation) (value : Value) (vs : List Value)
    (rest : List Char) :
    Reads (test? (value :: vs) ((clause (.compare column relation value)).toList ++ rest))
      (.compare column relation value, vs) rest := by
  have sign : clause (.compare column relation value) =
      identifier column ++ (" " ++ relation.symbol ++ " ?") := by
    rw [clause, String.append_assoc, String.append_assoc, String.append_assoc]
  rw [sign, String.toList_append, List.append_assoc]
  refine reads_column_test (by cases relation <;> decide) ?_
  have read := (reads_relation relation rest).map fun relation =>
    (Predicate.compare column relation value, vs)
  refine (read.after_none ?_).after_none ?_
  · exact phrase?_eq_none (by cases relation <;> decide) _ _
  · exact phrase?_eq_none (by cases relation <;> decide) _ _

theorem reads_like (column pattern : String) (vs : List Value) (rest : List Char) :
    Reads (test? (.text pattern :: vs) ((clause (.like column pattern)).toList ++ rest))
      (.like column pattern, vs) rest := by
  rw [clause, String.toList_append, String.toList_append, List.append_assoc, List.append_assoc]
  refine reads_folded_test (by decide) ?_
  exact (reads_phrase (by decide) (Predicate.like column pattern, vs) rest).orElse _

/-! ### Lists of placeholders -/

theorem reads_no_hole (first : String) (vs : List Value) (rest : List Char) :
    Reads (holes? first vs (")".toList ++ rest)) ([], vs) rest := by
  have close := reads_phrase (w := ")") (by decide) (([] : List Value), vs) rest
  cases vs with
  | nil => exact close
  | cons v vs => exact close.orElse _

theorem Reads.hole {first : String} {taken : List Value}
    (h : Reads (holes? ", ?" vs mid) (taken, left) rest) (apart : Apart first.toList ")".toList)
    (v : Value) :
    Reads (holes? first (v :: vs) (first.toList ++ mid)) (v :: taken, left) rest := by
  have read := (reads_phrase apart.ne_nil () mid).bind
    (f := fun hole => (holes? ", ?" vs hole.rest).map (Parsed.map fun (taken, left) =>
      (v :: taken, left))) fun _ => h.map _
  exact read.after_none (phrase?_eq_none apart.symm _ _)

theorem reads_more_holes (values vs : List Value) (rest : List Char) :
    Reads (holes? ", ?" (values ++ vs)
      (values.flatMap (fun _ => ", ?".toList) ++ (")".toList ++ rest))) (values, vs) rest := by
  induction values with
  | nil => exact reads_no_hole ", ?" vs rest
  | cons v values ih =>
    rw [List.flatMap_cons, List.append_assoc]
    exact ih.hole (by decide) v

theorem reads_holes (values vs : List Value) (rest : List Char) :
    Reads (holes? "?" (values ++ vs)
      ((String.intercalate ", " (values.map fun _ => "?")).toList ++ (")".toList ++ rest)))
      (values, vs) rest := by
  cases values with
  | nil => exact reads_no_hole "?" vs rest
  | cons v values =>
    have tail : (String.intercalate ", " ((v :: values).map fun _ => "?")).toList =
        "?".toList ++ values.flatMap fun _ => ", ?".toList := by
      rw [String.toList_intercalate, List.map_cons, List.map_cons, intercalate_cons,
        List.map_map, List.flatMap_map]
      have hole : ", ".toList ++ "?".toList = ", ?".toList := by decide
      simp only [Function.comp_apply, hole]
    rw [tail, List.append_assoc]
    exact (reads_more_holes values vs rest).hole (by decide) v

theorem reads_oneOf (column : String) (values vs : List Value) (rest : List Char) :
    Reads (test? (values ++ vs) ((clause (.oneOf column values)).toList ++ rest))
      (.oneOf column values, vs) rest := by
  rw [clause, String.toList_append, String.toList_append, String.toList_append,
    String.toList_append]
  rw [List.append_assoc, List.append_assoc, List.append_assoc, List.append_assoc]
  refine reads_folded_test (by decide) ?_
  have read := (reads_phrase (w := ") IN (") (by decide) () _).bind
    (f := fun list => (holes? "?" (values ++ vs) list.rest).map (Parsed.map fun (taken, left) =>
      (Predicate.oneOf column taken, left))) fun _ => (reads_holes values vs rest).map _
  refine read.after_none ?_
  split
  · exact phrase?_eq_none (by decide) _ _
  · rfl

end Tests

/-! ## Conditions with conditions in them -/

section Conditions

variable {vs left left' : List Value} {p : Predicate} {ps : List Predicate}
  {cs mid rest : List Char} {connective : String}

theorem Reads.condition {a : Predicate × List Value} (h : Reads (test? vs cs) a rest) :
    Reads (condition? vs cs) a rest := by
  rw [condition?]
  exact h.orElse _

theorem Reads.negated (h : Reads (condition? vs cs) (p, left) (")".toList ++ rest)) :
    Reads (condition? vs ("NOT (".toList ++ cs)) (.not p, left) rest := by
  have read := (reads_phrase (w := "NOT (") (by decide) () cs).bind
    (f := fun front => Parsed.bind (condition? vs front.rest) fun inner =>
      phrase? ")" (Predicate.not inner.value.1, inner.value.2) inner.rest) fun _ =>
        h.bind fun _ => reads_phrase (w := ")") (by decide) (p.not, left) rest
  rw [condition?]
  exact (read.orElse _).after_none (test?_eq_none (by decide) _ _)

/-- A chain is a conjunction if it goes on or ends as one does, else a disjunction. -/
theorem Reads.chain {a : Predicate × List Value} (first : Reads (condition? vs cs) (p, left) mid)
    (others : Reads
      ((more? " AND " left mid).map (Parsed.map fun (ps, left) => (.and (p :: ps), left)) <|>
        (more? " OR " left mid).map (Parsed.map fun (ps, left) => (.or (p :: ps), left)))
      a rest) :
    Reads (condition? vs ("(".toList ++ cs)) a rest := by
  have read := (reads_phrase (w := "(") (by decide) () cs).bind
    (f := fun front => Parsed.bind (condition? vs front.rest) fun first =>
      (more? " AND " first.value.2 first.rest).map (Parsed.map fun (others, left) =>
        (Predicate.and (first.value.1 :: others), left)) <|>
      (more? " OR " first.value.2 first.rest).map (Parsed.map fun (others, left) =>
        (Predicate.or (first.value.1 :: others), left))) fun _ => first.bind fun _ => others
  rw [condition?]
  refine (read.after_none ?_).after_none (test?_eq_none (by decide) _ _)
  exact bind_none (phrase?_eq_none (by decide) _ _)

theorem Reads.conjunction (first : Reads (condition? vs cs) (p, left) mid)
    (others : Reads (more? " AND " left mid) (ps, left') rest) :
    Reads (condition? vs ("(".toList ++ cs)) (.and (p :: ps), left') rest :=
  first.chain ((others.map _).orElse _)

theorem Reads.disjunction (first : Reads (condition? vs cs) (p, left) mid)
    (none : more? " AND " left mid = none)
    (others : Reads (more? " OR " left mid) (ps, left') rest) :
    Reads (condition? vs ("(".toList ++ cs)) (.or (p :: ps), left') rest := by
  refine first.chain ((others.map _).after_none ?_)
  rw [none]
  rfl

theorem reads_no_more (connective : String) (vs : List Value) (rest : List Char) :
    Reads (more? connective vs (")".toList ++ rest)) ([], vs) rest := by
  rw [more?]
  exact (reads_phrase (w := ")") (by decide) _ rest).orElse _

/-- Where a chain goes on, its connective is not mistaken for its end. -/
theorem Reads.more (first : Reads (condition? vs cs) (p, left) mid)
    (others : Reads (more? connective left mid) (ps, left') rest)
    (apart : Apart connective.toList ")".toList) :
    Reads (more? connective vs (connective.toList ++ cs)) (p :: ps, left') rest := by
  have read := (reads_phrase apart.ne_nil () cs).bind
    (f := fun front => Parsed.bind (condition? vs front.rest) fun next =>
      (more? connective next.value.2 next.rest).map (Parsed.map fun (others, left) =>
        (next.value.1 :: others, left))) fun _ =>
          first.bind fun _ => others.map fun (others, left) => (p :: others, left)
  rw [more?]
  exact read.after_none (phrase?_eq_none apart.symm _ _)

/-- The conditions that follow the first one of a chain, and its end. -/
def chainTail (connective : String) (ps : List Predicate) (rest : List Char) : List Char :=
  (clauses ps).flatMap (fun c => connective.toList ++ c.toList) ++ (")".toList ++ rest)

theorem toList_joined (connective empty : String) (p : Predicate) (ps : List Predicate)
    (rest : List Char) :
    (joined connective empty (clauses (p :: ps))).toList ++ rest =
      "(".toList ++ ((clause p).toList ++ chainTail connective ps rest) := by
  have full : (clauses (p :: ps)).isEmpty = false := rfl
  rw [joined, full, clauses]
  simp only [Bool.false_eq_true, if_false]
  rw [String.toList_append, String.toList_append, String.toList_intercalate, List.map_cons,
    intercalate_cons, List.flatMap_map, chainTail]
  simp only [List.append_assoc]

/-- A chain of another connective does not go on. -/
theorem more?_and_eq_none (vs : List Value) (p : Predicate) (ps : List Predicate)
    (rest : List Char) : more? " AND " vs (chainTail " OR " (p :: ps) rest) = none := by
  rw [chainTail, clauses, List.flatMap_cons, List.append_assoc, List.append_assoc, more?,
    bind_none (phrase?_eq_none (by decide) _ _),
    phrase?_eq_none (by decide)]
  rfl

theorem clause_not (h : ∀ column, p ≠ .isNull column) :
    clause (.not p) = "NOT (" ++ clause p ++ ")" := by
  rw [clause]
  exact h

mutual

/-- The condition that a predicate is written as is read as one that every row answers alike. The
values that come first are taken for it. -/
theorem reads_clause : ∀ (p : Predicate) (vs : List Value) (rest : List Char),
    ∃ q, Reads (condition? (params p ++ vs) ((clause p).toList ++ rest)) (q, vs) rest ∧
      ∀ row, q.eval row = p.eval row
  | .always, vs, rest => ⟨_, (reads_always vs rest).condition, fun _ => rfl⟩
  | .never, vs, rest => ⟨_, (reads_never vs rest).condition, fun _ => rfl⟩
  | .isNull column, vs, rest => ⟨_, (reads_isNull column vs rest).condition, fun _ => rfl⟩
  | .like column pattern, vs, rest =>
    ⟨_, (reads_like column pattern vs rest).condition, fun _ => rfl⟩
  | .compare column relation value, vs, rest =>
    ⟨_, (reads_compare column relation value vs rest).condition, fun _ => rfl⟩
  | .oneOf column values, vs, rest =>
    ⟨_, (reads_oneOf column values vs rest).condition, fun _ => rfl⟩
  | .and [], vs, rest => ⟨_, (reads_always vs rest).condition, fun _ => rfl⟩
  | .or [], vs, rest => ⟨_, (reads_never vs rest).condition, fun _ => rfl⟩
  | .and (p :: ps), vs, rest => by
    obtain ⟨q, first, same⟩ := reads_clause p (paramsOfAll ps ++ vs) (chainTail " AND " ps rest)
    obtain ⟨qs, others, alike⟩ := reads_chainTail " AND " (by decide) ps vs rest
    refine ⟨.and (q :: qs), ?_, fun row => congrArg₂ Truth.and (same row) (alike row).1⟩
    rw [clause, toList_joined, params, paramsOfAll, List.append_assoc]
    exact first.conjunction others
  | .or [p], vs, rest => by
    obtain ⟨q, first, same⟩ := reads_clause p vs (")".toList ++ rest)
    -- nothing tells a disjunction of one part from a conjunction of it
    refine ⟨.and [q], ?_, fun row => ?_⟩
    · rw [clause, toList_joined, params, paramsOfAll, paramsOfAll, List.append_nil]
      exact first.conjunction (reads_no_more _ vs rest)
    · calc (Predicate.and [q]).eval row = (q.eval row).and .yes := rfl
        _ = p.eval row := by rw [Truth.and_yes, same]
        _ = (p.eval row).or .no := (Truth.or_no _).symm
  | .or (p :: p' :: ps), vs, rest => by
    obtain ⟨q, first, same⟩ :=
      reads_clause p (paramsOfAll (p' :: ps) ++ vs) (chainTail " OR " (p' :: ps) rest)
    obtain ⟨qs, others, alike⟩ :=
      reads_chainTail " OR " (by decide) (p' :: ps) vs rest
    refine ⟨.or (q :: qs), ?_, fun row => congrArg₂ Truth.or (same row) (alike row).2⟩
    rw [clause, toList_joined, params, paramsOfAll, List.append_assoc]
    exact first.disjunction (more?_and_eq_none _ p' ps rest) others
  | .not p, vs, rest => by
    by_cases null : ∃ column, p = .isNull column
    · obtain ⟨column, rfl⟩ := null
      exact ⟨_, (reads_isNotNull column vs rest).condition, fun _ => rfl⟩
    · obtain ⟨q, inner, same⟩ := reads_clause p vs (")".toList ++ rest)
      refine ⟨.not q, ?_, fun row => congrArg Truth.not (same row)⟩
      rw [clause_not fun column e => null ⟨column, e⟩, String.toList_append, String.toList_append,
        List.append_assoc, List.append_assoc]
      exact inner.negated

/-- The same of what follows the first condition of a chain. -/
theorem reads_chainTail (connective : String) (apart : Apart connective.toList ")".toList) :
    ∀ (ps : List Predicate) (vs : List Value) (rest : List Char),
      ∃ qs, Reads (more? connective (paramsOfAll ps ++ vs) (chainTail connective ps rest))
          (qs, vs) rest ∧
        ∀ row, Predicate.evalAll row qs = Predicate.evalAll row ps ∧
          Predicate.evalAny row qs = Predicate.evalAny row ps
  | [], vs, rest => ⟨[], reads_no_more connective vs rest, fun _ => ⟨rfl, rfl⟩⟩
  | p :: ps, vs, rest => by
    obtain ⟨q, first, same⟩ := reads_clause p (paramsOfAll ps ++ vs) (chainTail connective ps rest)
    obtain ⟨qs, others, alike⟩ := reads_chainTail connective apart ps vs rest
    refine ⟨q :: qs, ?_, fun row => ⟨congrArg₂ Truth.and (same row) (alike row).1,
      congrArg₂ Truth.or (same row) (alike row).2⟩⟩
    rw [chainTail, clauses, List.flatMap_cons, List.append_assoc, List.append_assoc, paramsOfAll,
      List.append_assoc]
    exact first.more others apart

end

end Conditions

end Sql

namespace SqlStatement

open Sql

/-- The statement that a predicate is written as is read to its end, with all of its values, as a
predicate that every row answers alike. So predicates that are written alike are answered alike. -/
theorem read_ofPredicate (p : Predicate) :
    (∃ q, (ofPredicate p).read? = some q ∧ ∀ row, q.eval row = p.eval row) ∧
      ∀ p', ofPredicate p' = ofPredicate p → ∀ row, p'.eval row = p.eval row := by
  have readable (p : Predicate) :
      ∃ q, (ofPredicate p).read? = some q ∧ ∀ row, q.eval row = p.eval row := by
    obtain ⟨q, whole, same⟩ := reads_clause p [] []
    rw [List.append_nil, List.append_nil] at whole
    obtain ⟨shorter, read⟩ := whole
    refine ⟨q, ?_, same⟩
    rw [read?, ofPredicate, read]
  refine ⟨readable p, fun p' written row => ?_⟩
  obtain ⟨q, read, same⟩ := readable p
  obtain ⟨q', read', same'⟩ := readable p'
  have : q' = q := Option.some.inj (read'.symm.trans (written ▸ read))
  rw [← same', this, same]

/-- A disjunction of one part is written as a conjunction of it is, here of a part with signs of SQL
in its column. -/
theorem read_ofPredicate_of_one_part :
    ofPredicate (.or [.like "a\" OR ?.b" "%"]) = ofPredicate (.and [.like "a\" OR ?.b" "%"]) ∧
      ∀ row, (Predicate.or [.like "a\" OR ?.b" "%"]).eval row =
        (Predicate.and [.like "a\" OR ?.b" "%"]).eval row :=
  ⟨rfl, (read_ofPredicate (.and [.like "a\" OR ?.b" "%"])).2 (.or [.like "a\" OR ?.b" "%"]) rfl⟩

end SqlStatement

end BuildQuery
