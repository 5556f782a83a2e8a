/-!
# Lists sorted by a name

A list of elements in strictly ascending order of a name that each of them carries, so that it holds
at most one element for each name. Names are ordered by code points, which is the order of their
bytes in UTF-8. Main statements: inserting keeps the order (`pairwise_insertBy`), so that it can be
part of the type, and each operation acts on the element of one name (`SortedBy.get?_insert_self`,
`SortedBy.get?_insert_of_ne` and so on).
-/

namespace BuildQuery

/-- The list with an element put in its place by name, instead of one of the same name. -/
def insertBy {α : Type} (name : α → String) (a : α) : List α → List α
  | [] => [a]
  | b :: bs =>
    if name a < name b then a :: b :: bs
    else if name b < name a then b :: insertBy name a bs
    else a :: bs

/-- The element that gives way when one of the same name is put in. -/
def replacedBy? {α : Type} (name : α → String) (a : α) : List α → Option α
  | [] => none
  | b :: bs =>
    if name a < name b then none
    else if name b < name a then replacedBy? name a bs
    else some b

theorem mem_of_mem_insertBy {α : Type} {name : α → String} {a x : α} {bs : List α}
    (h : x ∈ insertBy name a bs) : x = a ∨ x ∈ bs := by
  induction bs with
  | nil => simp_all [insertBy]
  | cons b bs ih =>
    rw [insertBy] at h
    split at h
    · simpa using h
    · split at h
      · rcases List.mem_cons.1 h with rfl | h
        · simp
        · rcases ih h with h | h <;> simp [h]
      · rcases List.mem_cons.1 h with rfl | h <;> simp_all

theorem mem_insertBy_self {α : Type} (name : α → String) (a : α) (bs : List α) :
    a ∈ insertBy name a bs := by
  induction bs with
  | nil => simp [insertBy]
  | cons b bs ih =>
    rw [insertBy]
    split
    · simp
    · split
      · exact List.mem_cons_of_mem _ ih
      · simp

/-- An element of another name stays when one is put in. -/
theorem mem_insertBy_of_mem {α : Type} {name : α → String} {a x : α} {bs : List α} (h : x ∈ bs)
    (ne : name x ≠ name a) : x ∈ insertBy name a bs := by
  induction bs with
  | nil => contradiction
  | cons b bs ih =>
    rw [insertBy]
    split
    · exact List.mem_cons_of_mem _ h
    · next not_lt =>
      split
      · rcases List.mem_cons.1 h with rfl | h
        · simp
        · exact List.mem_cons_of_mem _ (ih h)
      · next not_gt =>
        rcases List.mem_cons.1 h with rfl | h
        · exact absurd (String.le_antisymm (String.not_lt.1 not_lt) (String.not_lt.1 not_gt)) ne
        · exact List.mem_cons_of_mem _ h

theorem pairwise_insertBy {α : Type} {name : α → String} (a : α) {bs : List α}
    (h : bs.Pairwise fun x y => name x < name y) :
    (insertBy name a bs).Pairwise fun x y => name x < name y := by
  induction bs with
  | nil => simp [insertBy]
  | cons b bs ih =>
    obtain ⟨first, rest⟩ := List.pairwise_cons.1 h
    rw [insertBy]
    split
    · next lt =>
      refine List.pairwise_cons.2 ⟨fun x hx => ?_, h⟩
      rcases List.mem_cons.1 hx with rfl | hx
      · exact lt
      · exact String.lt_trans lt (first x hx)
    · split
      · next lt =>
        refine List.pairwise_cons.2 ⟨fun x hx => ?_, ih rest⟩
        rcases mem_of_mem_insertBy hx with rfl | hx
        · exact lt
        · exact first x hx
      · next not_lt not_gt =>
        have same : name a = name b :=
          String.le_antisymm (String.not_lt.1 not_gt) (String.not_lt.1 not_lt)
        exact List.pairwise_cons.2 ⟨fun x hx => same ▸ first x hx, rest⟩

theorem replacedBy?_eq_some_iff {α : Type} {name : α → String} {a x : α} {bs : List α}
    (h : bs.Pairwise fun x y => name x < name y) :
    replacedBy? name a bs = some x ↔ x ∈ bs ∧ name x = name a := by
  induction bs with
  | nil => simp [replacedBy?]
  | cons b bs ih =>
    obtain ⟨first, rest⟩ := List.pairwise_cons.1 h
    rw [replacedBy?]
    split
    · next lt =>
      refine iff_of_false nofun fun ⟨hx, e⟩ => ?_
      rcases List.mem_cons.1 hx with rfl | hx
      · exact String.ne_of_lt lt e.symm
      · exact String.ne_of_lt (String.lt_trans lt (first x hx)) e.symm
    · split
      · next lt =>
        rw [ih rest, List.mem_cons]
        refine and_congr_left fun e => (or_iff_right ?_).symm
        rintro rfl
        exact String.ne_of_lt lt e
      · next not_lt not_gt =>
        have same : name b = name a :=
          String.le_antisymm (String.not_lt.1 not_lt) (String.not_lt.1 not_gt)
        constructor
        · intro e
          obtain rfl := Option.some.inj e
          exact ⟨List.mem_cons_self, same⟩
        · rintro ⟨hx, e⟩
          rcases List.mem_cons.1 hx with rfl | hx
          · rfl
          · exact absurd (same.trans e.symm) (String.ne_of_lt (first x hx))

/-- A list in strictly ascending order of the names of its elements. -/
structure SortedBy {α : Type} (name : α → String) where
  items : List α
  ascending : items.Pairwise fun x y => name x < name y

namespace SortedBy

variable {α : Type} {name : α → String}

/-- The list without elements. -/
def empty : SortedBy name := ⟨[], .nil⟩

/-- The list with an element put in, instead of one of the same name. -/
def insert (s : SortedBy name) (a : α) : SortedBy name :=
  ⟨insertBy name a s.items, pairwise_insertBy a s.ascending⟩

/-- The element that is given up for one that is put in. -/
def replaced? (s : SortedBy name) (a : α) : Option α := replacedBy? name a s.items

/-- The list of given elements, of which the last one of a name counts. -/
def ofList (as : List α) : SortedBy name := as.foldl insert empty

/-- The element of a name. -/
def get? (s : SortedBy name) (n : String) : Option α := s.items.find? fun a => name a == n

/-- The list without the element of a name. -/
def erase (s : SortedBy name) (n : String) : SortedBy name :=
  ⟨s.items.filter fun a => name a != n, s.ascending.filter _⟩

/-- The element that is lost when a name is erased. -/
def erased? (s : SortedBy name) (n : String) : Option α :=
  (s.items.filter fun a => name a == n).head?

/-- The list with every element changed in a way that keeps its name. -/
def map (s : SortedBy name) (f : α → α) (keeps : ∀ a, name (f a) = name a) : SortedBy name :=
  ⟨s.items.map f, by
    rw [List.pairwise_map]
    exact s.ascending.imp fun h => by simpa only [keeps] using h⟩

/-- The names of the elements, in order. -/
def names (s : SortedBy name) : List String := s.items.map name

/-! ## The element of a name -/

variable {a b : α} {n : String}

/-- No two elements have the same name. -/
theorem eq_of_name_eq (s : SortedBy name) (ha : a ∈ s.items) (hb : b ∈ s.items)
    (h : name a = name b) : a = b := by
  obtain ⟨items, ascending⟩ := s
  induction ascending with
  | nil => contradiction
  | cons first _ ih =>
    rcases List.mem_cons.1 ha with rfl | ha' <;> rcases List.mem_cons.1 hb with rfl | hb'
    · rfl
    · exact absurd h (String.ne_of_lt (first b hb'))
    · exact absurd h.symm (String.ne_of_lt (first a ha'))
    · exact ih ha' hb'

theorem get?_eq_some_iff {s : SortedBy name} : s.get? n = some a ↔ a ∈ s.items ∧ name a = n := by
  constructor
  · intro h
    exact ⟨List.mem_of_find?_eq_some h, by simpa using List.find?_some h⟩
  · rintro ⟨ha, rfl⟩
    obtain ⟨b, hb⟩ : ∃ b, s.get? (name a) = some b :=
      Option.isSome_iff_exists.1 (List.find?_isSome.2 ⟨a, ha, beq_self_eq_true _⟩)
    have named : name b = name a := by simpa using List.find?_some hb
    rw [hb, s.eq_of_name_eq (List.mem_of_find?_eq_some hb) ha named]

/-- The names are those under which there is an element. -/
theorem mem_names_iff {s : SortedBy name} : n ∈ s.names ↔ (s.get? n).isSome := by
  simp only [names, List.mem_map, Option.isSome_iff_exists, get?_eq_some_iff]

theorem get?_insert_self (s : SortedBy name) (a : α) : (s.insert a).get? (name a) = some a :=
  get?_eq_some_iff.2 ⟨mem_insertBy_self name a s.items, rfl⟩

theorem get?_insert_of_ne (s : SortedBy name) (h : name a ≠ n) :
    (s.insert a).get? n = s.get? n := by
  refine Option.ext fun x => ?_
  rw [get?_eq_some_iff, get?_eq_some_iff]
  refine and_congr_left fun e => ⟨fun hx => ?_, fun hx => ?_⟩
  · exact (mem_of_mem_insertBy hx).resolve_left fun same => h (same ▸ e)
  · exact mem_insertBy_of_mem hx fun same => h (same.symm.trans e)

theorem get?_erase_self (s : SortedBy name) (n : String) : (s.erase n).get? n = none := by
  simp [get?, erase]

theorem get?_erase_of_ne (s : SortedBy name) {m : String} (h : m ≠ n) :
    (s.erase m).get? n = s.get? n := by
  refine Option.ext fun x => ?_
  rw [get?_eq_some_iff, get?_eq_some_iff]
  refine and_congr_left fun e => ⟨fun hx => (List.mem_filter.1 hx).1, fun hx => ?_⟩
  exact List.mem_filter.2 ⟨hx, bne_iff_ne.2 fun same => h (same.symm.trans e)⟩

theorem get?_map (s : SortedBy name) {f : α → α} (keeps : ∀ a, name (f a) = name a) (n : String) :
    (s.map f keeps).get? n = (s.get? n).map f := by
  rw [get?, get?, map, List.find?_map]
  simp only [Function.comp_def, keeps]

theorem names_map (s : SortedBy name) {f : α → α} (keeps : ∀ a, name (f a) = name a) :
    (s.map f keeps).names = s.names := by
  simp [names, map, keeps]

theorem replaced?_eq_get? (s : SortedBy name) (a : α) : s.replaced? a = s.get? (name a) := by
  refine Option.ext fun x => ?_
  rw [get?_eq_some_iff]
  exact replacedBy?_eq_some_iff s.ascending

theorem erased?_eq_get? (s : SortedBy name) (n : String) : s.erased? n = s.get? n :=
  List.head?_filter

end SortedBy

/-- Strings in ascending order and without repetition. -/
def sortedStrings (ss : List String) : List String :=
  (SortedBy.ofList ss : SortedBy (id : String → String)).items

theorem mem_insertBy_id_iff {s x : String} {ss : List String} :
    x ∈ insertBy id s ss ↔ x = s ∨ x ∈ ss := by
  constructor
  · exact mem_of_mem_insertBy
  · intro h
    by_cases e : x = s
    · exact e ▸ mem_insertBy_self id x ss
    · exact mem_insertBy_of_mem (h.resolve_left e) e

/-- Sorting keeps exactly the strings that are there. -/
theorem mem_sortedStrings {ss : List String} {x : String} : x ∈ sortedStrings ss ↔ x ∈ ss := by
  suffices key : ∀ s : SortedBy (id : String → String),
      x ∈ (ss.foldl SortedBy.insert s).items ↔ x ∈ s.items ∨ x ∈ ss by
    simpa [sortedStrings, SortedBy.ofList, SortedBy.empty] using key .empty
  induction ss with
  | nil => simp
  | cons a ss ih =>
    intro s
    rw [List.foldl_cons, ih, SortedBy.insert, mem_insertBy_id_iff, List.mem_cons,
      or_comm (a := x = a), or_assoc]

/-- Sorting puts strings in strictly ascending order. -/
theorem pairwise_sortedStrings (ss : List String) : (sortedStrings ss).Pairwise (· < ·) :=
  (SortedBy.ofList ss : SortedBy (id : String → String)).ascending

/-- Sorting keeps each string once. -/
theorem nodup_sortedStrings (ss : List String) : (sortedStrings ss).Nodup :=
  (pairwise_sortedStrings ss).imp String.ne_of_lt

end BuildQuery
