import BuildQuery.Criteria.Writing

/-!
# The tokens that query text spells

A text spells tokens when these are what is read of it at any place in a longer text, as long as no
word goes on behind it. Texts are put together from such pieces, and the tokens are put together in
the same way. Main statement: the text of a query spells the tokens of the query (`spells_render`).
-/

namespace BuildQuery

namespace Token

/-- Whether a text does not begin with more of a word. -/
def Ends (rest : List Char) : Prop := ∀ c ∈ rest.head?, isWordChar c = false

/-- Whether the given tokens are what is read of a text, wherever it stands. -/
def Spells (cs : List Char) (ts : List Token) : Prop :=
  ∀ offset rest, Ends rest → ∃ ls offset', ls.map Lexeme.token = ts ∧
    readFrom offset (cs ++ rest) = (readFrom offset' rest).map (ls ++ ·)

/-- Whether a word is read as itself. -/
def IsWord (w : String) : Prop :=
  w.toList ≠ [] ∧ w.toList.all isWordChar = true ∧ Text.lower w.toList = w.toList

instance (w : String) : Decidable (IsWord w) := inferInstanceAs (Decidable (_ ∧ _ ∧ _))

/-! ## Pieces of text -/

section Pieces

variable {cs ds : List Char} {ts us : List Token}

theorem ends_nil : Ends [] := nofun

theorem ends_cons {c : Char} (h : isWordChar c = false) (rest : List Char) : Ends (c :: rest) := by
  intro d hd
  obtain rfl := Option.some.inj hd
  exact h

theorem Ends.append (h : Ends cs) (h' : Ends ds) : Ends (cs ++ ds) := by
  cases cs with
  | nil => exact h'
  | cons c cs => exact ends_cons (h c rfl) _

theorem Ends.of_append (h : Ends (cs ++ ds)) : Ends cs := by
  cases cs with
  | nil => exact ends_nil
  | cons c cs => exact ends_cons (h c rfl) _

/-- A word that is read as far as it goes has ended. -/
theorem ends_dropWhile (cs : List Char) : Ends (cs.dropWhile isWordChar) := by
  intro c hc
  have stopped := List.head?_dropWhile_not isWordChar cs
  rwa [Option.mem_def.1 hc] at stopped

theorem isWordChar_eq_true_iff {c : Char} : isWordChar c = true ↔
    Text.isBlank c = false ∧ c ≠ '(' ∧ c ≠ ')' ∧ isQuote c = false := by
  simp [isWordChar, and_assoc]

/-- The letters before the end of a word are all of the word. -/
theorem Ends.span_append {rest : List Char} (h : Ends rest)
    (letters : ∀ d ∈ cs, isWordChar d = true) :
    (cs ++ rest).takeWhile isWordChar = cs ∧ (cs ++ rest).dropWhile isWordChar = rest := by
  have stop : rest.takeWhile isWordChar = [] ∧ rest.dropWhile isWordChar = rest := by
    cases rest with
    | nil => exact ⟨rfl, rfl⟩
    | cons d rest =>
      have hd : isWordChar d = false := h d rfl
      rw [List.takeWhile_cons, List.dropWhile_cons, hd]
      exact ⟨rfl, rfl⟩
  rw [List.takeWhile_append_of_pos letters, List.dropWhile_append_of_pos letters, stop.1, stop.2,
    List.append_nil]
  exact ⟨rfl, rfl⟩

/-- A text can follow another one when no word runs from the one into the other. -/
theorem Spells.append {d : Char} (first : Spells cs ts) (second : Spells (d :: ds) us)
    (h : isWordChar d = false) : Spells (cs ++ d :: ds) (ts ++ us) := by
  intro offset rest hr
  obtain ⟨ls, middle, rfl, e⟩ := first offset (d :: (ds ++ rest)) (ends_cons h _)
  obtain ⟨ms, last, rfl, e'⟩ := second middle rest hr
  rw [List.cons_append] at e'
  refine ⟨ls ++ ms, last, List.map_append, ?_⟩
  rw [List.append_assoc, List.cons_append, e, e']
  cases readFrom last rest with
  | error fault => rfl
  | ok found => exact congrArg Except.ok (List.append_assoc ls ms found).symm

theorem Spells.blank (h : Spells cs ts) : Spells (' ' :: cs) ts := by
  intro offset rest hr
  obtain ⟨ls, last, e, read⟩ := h (offset + ' '.utf8Size) rest hr
  refine ⟨ls, last, e, ?_⟩
  rw [List.cons_append, readFrom, if_pos (by decide), read]

theorem Spells.open (h : Spells cs ts) : Spells ('(' :: cs) (.openParen :: ts) := by
  intro offset rest hr
  obtain ⟨ls, last, rfl, read⟩ := h (offset + '('.utf8Size) rest hr
  refine ⟨⟨.openParen, offset⟩ :: ls, last, rfl, ?_⟩
  rw [List.cons_append, readFrom, if_neg (by decide), if_pos rfl, read]
  cases readFrom last rest <;> rfl

theorem spells_word {w : String} (h : IsWord w) : Spells w.toList [.word w] := by
  intro offset rest hr
  obtain ⟨full, letters, low⟩ := h
  obtain ⟨c, cs, e⟩ := List.exists_cons_of_ne_nil full
  rw [e] at letters low
  rw [List.all_eq_true] at letters
  obtain ⟨notBlank, notOpen, notClose, notQuote⟩ :=
    isWordChar_eq_true_iff.1 (letters c List.mem_cons_self)
  have tail : ∀ d ∈ cs, isWordChar d = true := fun d hd => letters d (List.mem_cons_of_mem c hd)
  obtain ⟨word, after⟩ := hr.span_append tail
  refine ⟨[⟨.word w, offset⟩], offset + byteLength (c :: cs), rfl, ?_⟩
  rw [e, List.cons_append, readFrom, if_neg (by rw [notBlank]; decide), if_neg notOpen,
    if_neg notClose, if_neg (by rw [notQuote]; decide)]
  rw [word, after]
  dsimp only
  rw [low, ← e, String.ofList_toList]
  rfl

theorem spells_close : Spells [')'] [.closeParen] := by
  intro offset rest _
  refine ⟨[⟨.closeParen, offset⟩], offset + ')'.utf8Size, rfl, ?_⟩
  rw [List.singleton_append, readFrom, if_neg (by decide), if_neg (by decide), if_pos rfl]
  rfl

/-- A value in quotes is read back, and reading goes on behind it. -/
theorem readFrom_quoteChars (offset : Nat) (value rest : List Char) :
    readFrom offset (quoteChars value ++ rest) =
      (readFrom (offset + byteLength (quoteChars value)) rest).map
        (⟨.quoted (String.ofList value), offset⟩ :: ·) := by
  have length : byteLength ('"' :: (escaped value ++ '"' :: rest)) - byteLength rest =
      byteLength (quoteChars value) := by
    have whole : '"' :: (escaped value ++ '"' :: rest) = quoteChars value ++ rest := by
      rw [quoteChars, List.cons_append, List.append_assoc, List.singleton_append]
    rw [whole, byteLength_append, Nat.add_sub_cancel]
  rw [quoteChars, List.cons_append, List.append_assoc, List.singleton_append]
  rw [readFrom, if_neg (by decide), if_neg (by decide), if_neg (by decide), if_pos (by decide)]
  split
  · next e =>
    rw [unquote?_quote] at e
    contradiction
  · next value' rest' e =>
    rw [unquote?_quote] at e
    obtain ⟨rfl, rfl⟩ := Prod.mk.inj (Option.some.inj e)
    dsimp only
    rw [length]
    rfl

theorem spells_quote (value : String) : Spells (quote value).toList [.quoted value] := by
  intro offset rest _
  refine ⟨[⟨.quoted value, offset⟩], offset + byteLength (quoteChars value.toList), rfl, ?_⟩
  rw [quote, String.toList_ofList, readFrom_quoteChars, String.ofList_toList]
  rfl

/-- Two texts with a word between them. -/
theorem Spells.join {w : String} (h : IsWord w) (first : Spells cs ts) (second : Spells ds us) :
    Spells (cs ++ ' ' :: (w.toList ++ ' ' :: ds)) (ts ++ .word w :: us) :=
  first.append ((spells_word h).append second.blank (by decide)).blank (by decide)

theorem Spells.parenthesize (h : Spells cs ts) :
    Spells ('(' :: (cs ++ [')'])) (.openParen :: (ts ++ [.closeParen])) :=
  (h.append spells_close (by decide)).open

/-- Words with blanks between them. -/
theorem spells_words {w : String} {ws : List String} (h : ∀ v ∈ w :: ws, IsWord v) :
    Spells ([' '].intercalate ((w :: ws).map String.toList)) ((w :: ws).map .word) := by
  induction ws generalizing w with
  | nil =>
    rw [List.map_singleton, List.intercalate_singleton]
    exact spells_word (h w List.mem_cons_self)
  | cons v ws ih =>
    have rest := ih fun u hu => h u (List.mem_cons_of_mem w hu)
    rw [List.map_cons, List.map_cons, List.intercalate_cons_cons, List.append_assoc]
    exact (spells_word (h w List.mem_cons_self)).append rest.blank (by decide)

/-- The tokens that a text spells are those that are read of it. -/
theorem tokenize_of_spells {s : String} (h : Spells s.toList ts) :
    ∃ ls, tokenize s = .ok ls ∧ ls.map Lexeme.token = ts := by
  obtain ⟨ls, last, e, read⟩ := h 0 [] ends_nil
  refine ⟨ls, ?_, e⟩
  rw [tokenize, ← List.append_nil s.toList, read, readFrom]
  exact congrArg Except.ok (List.append_nil ls)

end Pieces

end Token

/-! ## Queries -/

/-- The tokens of a leaf. -/
def Leaf.tokens (l : Leaf) : List Token :=
  match l.operator? with
  | some op => .quoted l.field.name :: (op.words.map .word ++ [.quoted l.operandText])
  | none => [.word "submitted", .word "by", .word "me"]

namespace Criteria

/-- Tokens in parentheses. -/
def parenthesizedTokens (ts : List Token) : List Token := .openParen :: (ts ++ [.closeParen])

/-- The tokens of a criterion inside one that binds with the given tightness. -/
def tokensInside (outer inner : Nat) (ts : List Token) : List Token :=
  if inner < outer then parenthesizedTokens ts else ts

/-- The tokens of a query. -/
def tokens : Criteria → List Token
  | leaf l => l.tokens
  | and l r =>
    tokensInside 2 l.precedence l.tokens ++ .word "and" :: tokensInside 2 r.precedence r.tokens
  | or l r =>
    tokensInside 1 l.precedence l.tokens ++ .word "or" :: tokensInside 1 r.precedence r.tokens
  | not c => .word "not" :: tokensInside 3 c.precedence c.tokens
  | group c => parenthesizedTokens c.tokens

end Criteria

open Token

theorem Operator.spells_keyword (op : Operator) :
    Spells op.keyword.toList (op.words.map .word) := by
  have words : ∀ o ∈ Operator.all, ∀ w ∈ o.words, IsWord w := by decide
  have full : ∀ o ∈ Operator.all, o.words ≠ [] := by decide
  have known := words op (Operator.mem_all op)
  obtain ⟨w, ws, e⟩ := List.exists_cons_of_ne_nil (full op (Operator.mem_all op))
  rw [Operator.keyword, String.toList_intercalate, e]
  rw [e] at known
  exact spells_words known

theorem Leaf.spells_render (l : Leaf) : Spells l.render.toList l.tokens := by
  unfold Leaf.render Leaf.tokens
  cases l.operator? with
  | none =>
    have words : ∀ w ∈ ["submitted", "by", "me"], IsWord w := by decide
    have text : "submitted by me".toList =
        [' '].intercalate (["submitted", "by", "me"].map String.toList) := by decide
    show Spells "submitted by me".toList _
    rw [text]
    exact spells_words words
  | some op =>
    dsimp only
    rw [String.toList_append, String.toList_append, String.toList_append, String.toList_append,
      List.append_assoc, List.append_assoc, List.append_assoc]
    have phrase := op.spells_keyword.append (spells_quote l.operandText).blank (by decide)
    exact (spells_quote l.field.name).append phrase.blank (by decide)

namespace Criteria

theorem spells_parenthesized {s : String} {ts : List Token} (h : Spells s.toList ts) :
    Spells (parenthesized s).toList (parenthesizedTokens ts) := by
  rw [parenthesized, String.toList_append, String.toList_append, List.append_assoc]
  exact h.parenthesize

theorem spells_inside {outer inner : Nat} {s : String} {ts : List Token}
    (h : Spells s.toList ts) :
    Spells (inside outer inner s).toList (tokensInside outer inner ts) := by
  unfold inside tokensInside
  by_cases looser : inner < outer
  · rw [if_pos looser, if_pos looser]
    exact spells_parenthesized h
  · rw [if_neg looser, if_neg looser]
    exact h

theorem spells_joined {w s s' : String} {ts us : List Token} (hw : IsWord w)
    (h : Spells s.toList ts) (h' : Spells s'.toList us) :
    Spells (s ++ (" " ++ w ++ " ") ++ s').toList (ts ++ .word w :: us) := by
  rw [String.toList_append, String.toList_append, String.toList_append, String.toList_append,
    List.append_assoc, List.append_assoc, List.append_assoc]
  exact h.join hw h'

theorem spells_render (c : Criteria) : Spells c.render.toList c.tokens := by
  induction c with
  | leaf l => exact l.spells_render
  | and l r ihl ihr =>
    exact spells_joined (w := "and") (by decide) (spells_inside ihl) (spells_inside ihr)
  | or l r ihl ihr =>
    exact spells_joined (w := "or") (by decide) (spells_inside ihl) (spells_inside ihr)
  | not c ih =>
    rw [render, String.toList_append]
    exact (spells_word (w := "not") (by decide)).append (spells_inside ih).blank (by decide)
  | group c ih => exact spells_parenthesized ih

end Criteria

end BuildQuery
